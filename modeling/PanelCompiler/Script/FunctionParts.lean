import PanelCompiler.Script.Program
import PanelCompiler.Text.Blank

/-!
Splitting the source of a function into its parameters and its body. Functions, arrow functions and
methods are accepted, bare or in parentheses.
-/

namespace PanelCompiler.Script

/-- Why a source is no function. -/
inductive FunctionFault
  | empty
  /-- It is a script, but not a function. -/
  | noParts
  /-- It is no script. -/
  | unreadable
  deriving DecidableEq

/-- The reason given for a source that is no function. -/
def FunctionFault.message : FunctionFault → String
  | .empty => "empty function source"
  | .noParts => "source has no parameter list and body"
  | .unreadable => "<parser diagnostic>"

structure FunctionParts where
  /-- The parameters without their parentheses. -/
  parameters : String
  /-- The body without its braces. -/
  body : String
  async : Bool
  deriving DecidableEq

namespace FunctionParts

def asyncPrefix (parts : FunctionParts) : String :=
  if parts.async then "async " else ""

/-- The parts as an arrow function. -/
def toArrow (parts : FunctionParts) : String :=
  parts.asyncPrefix ++ "(" ++ parts.parameters ++ ") => \x7b" ++ parts.body ++ "\x7d"

/-- A text without its first and last character, if they are these. -/
def unwrap? (opening closing : Char) (text : List Char) : Option (List Char) :=
  match text with
  | first :: rest =>
    match rest.reverse with
    | last :: inner => if first == opening && last == closing then some inner.reverse else none
    | [] => none
  | [] => none

/-- Parameters without their parentheses and the blanks around them. -/
def parametersText (source : String) : String :=
  let text := Text.trim source.toList
  String.ofList (match unwrap? '(' ')' text with
    | some inner => Text.trim inner
    | none => text)

/-- A body without its braces; an expression becomes a statement that returns it. -/
def bodyText (source : String) (expression : Bool) : String :=
  let text := Text.trim source.toList
  if expression then "return " ++ String.ofList text ++ ";"
  else String.ofList ((unwrap? '\x7b' '\x7d' text).getD text)

def ofShape (shape : FunctionShape) : FunctionParts :=
  { parameters := parametersText shape.parameters
    body := bodyText shape.body shape.expression
    async := shape.async }

/-- The parts of a function expression; parentheses are looked through, and an object stands for
the method that comes first in it. -/
def ofTree? : Tree → Option FunctionParts
  | .parenthesized inner => ofTree? inner
  | .function shape _ _ => if shape.complete then some (ofShape shape) else none
  | .arrow shape _ _ => some (ofShape shape)
  | .object (.method .method _ _ (.function shape _ _) :: _) =>
    if shape.complete then some (ofShape shape) else none
  | _ => none

/-- The parts of the function that a program begins with. -/
def ofProgram? : List Tree → Option FunctionParts
  | .expression value :: _ => ofTree? value
  | _ => none

/-- The parts of a function source. A method is read as the first member of an object. -/
def ofSource (source : String) : Except FunctionFault FunctionParts :=
  let text := Text.trim source.toList
  if text.isEmpty then .error .empty
  else
    let asExpression := parse? ('(' :: text ++ [')'])
    match asExpression.bind ofProgram? with
    | some parts => .ok parts
    | none =>
      match (parse? ('(' :: '\x7b' :: text ++ ['\x7d', ')'])).bind ofProgram? with
      | some parts => .ok parts
      | none => .error (if asExpression.isSome then .noParts else .unreadable)

end FunctionParts

end PanelCompiler.Script
