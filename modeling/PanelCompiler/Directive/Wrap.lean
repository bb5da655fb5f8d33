import PanelCompiler.Directive.Substitute
import PanelCompiler.Value.Source

namespace PanelCompiler.Directive

def defaultItemName : String := "item"

def defaultIndexName : String := "index"

/-- The names of the item and the index of a loop. -/
structure Bindings where
  item : String
  index : String

/-- A name without the blanks around it, unless nothing is left. -/
def givenName (name? : Option String) (default : String) : String :=
  match name? with
  | some name => if Text.trimmed name = "" then default else Text.trimmed name
  | none => default

def Bindings.ofArguments (arguments : Option (List String)) : Bindings :=
  let names := arguments.getD []
  { item := givenName names[0]? defaultItemName, index := givenName names[1]? defaultIndexName }

/-- The source of what a loop runs over: an array, or a whole expression. -/
def loopSource (source : Json) (path : Path) : Except CompileError String :=
  match source with
  | .array items => .ok (Json.array items).serialize
  | .string text =>
    match Value.expressionBody? text.toList with
    | some body => .ok (String.ofList body)
    | none => .error (.invalidLoopSource path)
  | _ => .error (.invalidLoopSource path)

/-- Characters that go on the name of an element. -/
def isTagPart (c : Char) : Bool :=
  Text.isWord c || c == '.' || c == ':' || c == '-'

/-- A text cut behind the name of the element that it begins with. -/
def splitOpeningTag? (text : List Char) : Option (List Char × List Char) :=
  let blanks := text.takeWhile Text.isBlank
  match text.dropWhile Text.isBlank with
  | '<' :: c :: rest =>
    if Text.isAsciiLetter c then
      some (blanks ++ '<' :: c :: rest.takeWhile isTagPart, rest.dropWhile isTagPart)
    else none
  | _ => none

/-- The key of an element in a loop, as an attribute. -/
def keyAttribute (index : String) : String :=
  " key=\x7b" ++ index ++ "\x7d"

/-- Give the first element of a fragment its key. -/
def injectKey (fragment index : String) (path : Path) : Except CompileError String :=
  match splitOpeningTag? fragment.toList with
  | some (opening, rest) =>
    .ok (String.ofList opening ++ keyAttribute index ++ String.ofList rest)
  | none => .error (.malformedLoopTarget path fragment)

/-- The body of a loop: references to the item lose their qualifier, then all qualifiers go. -/
def loopBody (item keyed : String) : String :=
  String.ofList
    (stripQualifiers (replaceReferences item.toList (substitute item.toList) keyed.toList))

/-- The text of a loop over a source. -/
def loopText (source : String) (bindings : Bindings) (body : String) : String :=
  source ++ ".map((" ++ bindings.item ++ ":any, " ++ bindings.index ++
    ":number) => \x7b\n return (" ++ body ++ ");\n\x7d)"

/-- Wrap a fragment in a loop. -/
def wrapLoop (source : Json) (arguments : Option (List String)) (fragment : String)
    (path : Path) : Except CompileError String := do
  let bindings := Bindings.ofArguments arguments
  let sourceText ← loopSource source path
  let keyed ← injectKey fragment bindings.index path
  return loopText (String.ofList (stripQualifiers sourceText.toList)) bindings
    (loopBody bindings.item keyed)

/-- The source of a condition. -/
def conditionSource (condition : Json) (path : Path) : Except CompileError String :=
  match condition with
  | .bool true => .ok "true"
  | .bool false => .ok "false"
  | other => other.toSource .attribute path

/-- Let a fragment depend on a condition. -/
def wrapCondition (condition : Json) (fragment : String) (path : Path) :
    Except CompileError String := do
  let guard ← conditionSource condition path
  return guard ++ " && " ++ fragment

end PanelCompiler.Directive
