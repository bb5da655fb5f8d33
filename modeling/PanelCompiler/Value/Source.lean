import PanelCompiler.Error
import PanelCompiler.Text.Quoted
import PanelCompiler.Value.Class

namespace PanelCompiler

namespace Json

mutual

/-- Compact JSON text in which functions and tagged values stand as their own source. -/
def serialize (value : Json) : String :=
  match value.tagged? functionTag with
  | some source => Text.trimmed source
  | none =>
    match value.tagged? expressionTag with
    | some source => Text.trimmed source
    | none =>
      match value with
      | .string text =>
        if Value.looksLikeFunction text.toList then Text.trimmed text else quote text
      | .array items => bracketed (serializeItems items)
      | .object fields => braced (serializeFields fields)
      | other => compact other

def serializeItems : List Json → List String
  | [] => []
  | item :: rest => serialize item :: serializeItems rest

def serializeFields : List (String × Json) → List String
  | [] => []
  | (key, value) :: rest => (quote key ++ ":" ++ serialize value) :: serializeFields rest

end

end Json

/-- Where the text of a value goes. -/
inductive Position
  /-- Into the braces of an attribute: literals are quoted, expressions bare. -/
  | attribute
  /-- Between the tags of an element: literals are plain, expressions in braces. -/
  | content
  deriving DecidableEq

/-- The parts of a function value found at `path`. -/
def functionParts (source : String) (path : Path) : Except CompileError Script.FunctionParts :=
  match Script.FunctionParts.ofSource source with
  | .ok parts => .ok parts
  | .error fault => .error (.malformedFunction path fault)

/-- Source text of a value at a position. -/
def Json.toSource (value : Json) (position : Position) (path : Path) :
    Except CompileError String :=
  match ValueClass.ofJson value with
  | .expression body =>
    match position with
    | .attribute => .ok body
    | .content => .ok ("\x7b" ++ body ++ "\x7d")
  | .literal text =>
    match position with
    | .attribute => .ok (Text.Quoted.quote text)
    | .content => .ok text
  | .function source => (functionParts source path).map Script.FunctionParts.toArrow
  | .data data => .ok data.serialize

end PanelCompiler
