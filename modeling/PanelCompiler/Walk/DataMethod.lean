import PanelCompiler.Walk.Context

namespace PanelCompiler

/-- The line that imports what a transport needs. -/
def Transport.importLine : Transport → String
  | .fetch => "import \x7b fetch \x7d from 'whatwg-fetch';"
  | .jsonp => "import jsonp from 'fetch-jsonp';"

namespace DataSource

/-- Options with a meaning of their own. -/
def reservedOptions : List String :=
  ["uri", "method", "params"]

/-- The options that go into a request: the method first, where there is one, then the others in
their order. -/
def payloadFields (source : DataSource) : Fields :=
  let method := match source.transport, source.options.get? "method" with
    | .fetch, some method => [("method", method)]
    | _, _ => []
  method ++ source.options.filter fun (key, _) => !reservedOptions.contains key

/-- The source of the parameters of a request. -/
def parametersSource (parameters : Json) : String :=
  match parameters with
  | .string text =>
    match Value.expressionBody? text.toList with
    | some body => String.ofList body
    | none => parameters.serialize
  | other => other.serialize

/-- A text without its last character, which has to be a single byte. -/
def withoutLastByte? (text : String) : Option String :=
  match text.toList.reverse with
  | last :: rest => if last.utf8Size = 1 then some (String.ofList rest.reverse) else none
  | [] => none

/-- The payload of a request. The parameters go in front of the closing brace as their source. -/
def payloadSource (source : DataSource) : Except CompileError String :=
  let fields := source.payloadFields
  let plain := (Json.object fields).serialize
  match source.options.get? "params" with
  | none => .ok plain
  | some parameters =>
    match withoutLastByte? plain with
    | none => .error (.uncutPayload plain)
    | some head =>
      .ok (head ++ (if fields.isEmpty then "" else ",") ++ "\"body\":" ++
        parametersSource parameters ++ "\x7d")

/-- The source of a data handler; data is no source at all. -/
def handlerSource (handler : Json) : String :=
  match ValueClass.ofJson handler with
  | .function source => source
  | .literal text => text
  | .expression body => body
  | .data _ => ""

/-- The steps that hand the data to a handler. -/
def handlerSteps (parts : Script.FunctionParts) : String :=
  "\n    .then(" ++ parts.asyncPrefix ++ "(" ++ parts.parameters ++ ") => \x7b" ++ parts.body ++
    "\x7d)\n    .catch((e) => \x7b\n      console.log('error', e);\n    \x7d);"

/-- The method of a data source found at `path`. -/
def methodSource (source : DataSource) (path : Path) : Except CompileError String := do
  let uri := (source.options.get? "uri").getD .null
  let uriText ← uri.toSource .attribute ((path.field "options").field "uri")
  let payload ← source.payloadSource
  let steps ← match source.handler with
    | none => .ok ""
    | some handler =>
      (functionParts (handlerSource handler) (path.field "dataHandler")).map handlerSteps
  return source.id ++ "() \x7b\n  " ++ source.transport.name ++ "(" ++ uriText ++ ", " ++ payload ++
    ")\n    .then((response) => response.json())" ++ steps ++ "\n\x7d"

/-- Compile a data source. Its import is registered even when it then fails. -/
def compile (source : DataSource) (path : Path) : Walk String := do
  modify (·.addImport source.transport.importLine)
  Walk.ofExcept (source.methodSource path)

end DataSource

end PanelCompiler
