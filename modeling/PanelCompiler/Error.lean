import PanelCompiler.Json.Reading
import PanelCompiler.Panel.Basic
import PanelCompiler.Schema.Path
import PanelCompiler.Script.FunctionParts

namespace PanelCompiler

inductive CompileError
  | unsupportedKind (kindName : String) (path : Path)
  | malformedFunction (path : Path) (fault : Script.FunctionFault)
  | malformedLoopTarget (path : Path) (fragment : String)
  | invalidLoopSource (path : Path)
  | rejectedPanels (failures : List PanelFailure) (accepted : List Panel)
  | unreadableInput (error : Json.ReadError)
  /-- A request payload has no closing brace to be cut off. -/
  | uncutPayload (payload : String)

namespace CompileError

def code : CompileError → String
  | .unsupportedKind .. => "SCHEMA-KIND"
  | .malformedFunction .. => "SCHEMA-FUNCTION"
  | .malformedLoopTarget .. => "SCHEMA-LOOP-TARGET"
  | .invalidLoopSource .. => "SCHEMA-LOOP-SOURCE"
  | .rejectedPanels .. => "FORMAT"
  | .unreadableInput _ => "SCHEMA-JSON"
  | .uncutPayload _ => "PAYLOAD"

def hint : CompileError → String
  | .unsupportedKind .. =>
    "componentName must be one of page, block, component, div, text, image."
  | .malformedFunction .. => "Function values must have a parameter list and a body."
  | .malformedLoopTarget .. => "Looped nodes must render to an element tag."
  | .invalidLoopSource .. => "loop must be an array or a \x7b\x7b expression \x7d\x7d."
  | .rejectedPanels .. => "Generated text was rejected by the formatter."
  | .unreadableInput _ => "Input must match the schema and options shape."
  | .uncutPayload _ => "Options of a data source must not be a tagged value."

/-- Where in the schema the error was caused. -/
def path? : CompileError → Option Path
  | .unsupportedKind _ path => some path
  | .malformedFunction path _ => some path
  | .malformedLoopTarget path _ => some path
  | .invalidLoopSource path => some path
  | _ => none

def describeFailures (failures : List PanelFailure) : String :=
  "; ".intercalate (failures.map fun failure => failure.panel ++ ": " ++ failure.diagnostic)

def message : CompileError → String
  | .unsupportedKind kindName path =>
    "unsupported node kind `" ++ kindName ++ "` at " ++ path.text
  | .malformedFunction path fault =>
    "malformed function source at " ++ path.text ++ ": " ++ fault.message
  | .malformedLoopTarget path fragment =>
    "cannot inject loop key at " ++ path.text ++
      ": fragment does not start with an element tag: `" ++ fragment ++ "`"
  | .invalidLoopSource path =>
    "invalid loop source at " ++ path.text ++
      ": expected an array or a \x7b\x7b expression \x7d\x7d"
  | .rejectedPanels failures _ => "formatter rejected " ++ describeFailures failures
  | .unreadableInput error => error.message
  | .uncutPayload payload => "no closing brace at the end of the payload `" ++ payload ++ "`"

end CompileError

end PanelCompiler
