import PanelCompiler.Json.Basic
import PanelCompiler.Value.Shape

namespace PanelCompiler

/-- The tag of an object that carries a function. -/
def functionTag : String := "JSFunction"

/-- The tag of an object that carries an expression. -/
def expressionTag : String := "JSExpression"

namespace Json

/-- The text carried by an object with this tag. -/
def tagged? (value : Json) (tag : String) : Option String :=
  match value.field? "type" with
  | some (.string type) =>
    if type = tag then (value.field? "value").bind asString? else none
  | _ => none

end Json

inductive ValueClass
  | expression (body : String)
  | function (source : String)
  | literal (text : String)
  | data (value : Json)

namespace ValueClass

/-- The class of a string. -/
def ofString (text : String) : ValueClass :=
  match Value.expressionBody? text.toList with
  | some body => .expression (String.ofList body)
  | none => if Value.looksLikeFunction text.toList then .function text else .literal text

/-- The class of a value. Tagged objects come first, then strings by their shape. -/
def ofJson (value : Json) : ValueClass :=
  match value.tagged? functionTag with
  | some source => .function source
  | none =>
    match value.tagged? expressionTag with
    | some source => .expression (Text.trimmed source)
    | none =>
      match value with
      | .string text => ofString text
      | other => .data other

end ValueClass

end PanelCompiler
