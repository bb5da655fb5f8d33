import PanelCompiler.Script.Token

namespace PanelCompiler.Script

/-- What a function says besides its parameters and statements, and the source of both. -/
structure FunctionShape where
  async : Bool
  generator : Bool
  /-- The name, or the empty text. -/
  name : String
  typeParameters : String
  /-- The ascription behind the parameters. -/
  returnType : String
  /-- The source of the parameters with their parentheses, or a single bare name. -/
  parameters : String
  /-- The source of the body with its braces, or of the expression in its place. -/
  body : String
  /-- An expression takes the place of the body. -/
  expression : Bool
  /-- There is a body. -/
  complete : Bool

/-- What a member of an object or class is. -/
inductive MemberKind
  | method
  | getter
  | setter
  deriving DecidableEq

inductive Tree
  -- expressions
  /-- Names, and words that stand for a value. -/
  | name (text : String)
  /-- Regular expressions, private names and words that are written as they are. -/
  | verbatim (text : String)
  | number (text : String)
  /-- A string, and how it is written between its quotes. -/
  | string (value source : String)
  | template (chunks : List String) (values : List Tree)
  | tagged (tag : Tree) (typeArguments : String) (quasi : Tree)
  /-- A place left empty in an array. -/
  | hole
  | array (items : List Tree)
  | object (members : List Tree)
  /-- A key with its value; a shorthand is its own value. -/
  | property (key : Tree) (computed shorthand : Bool) (value : Tree)
  | method (kind : MemberKind) (key : Tree) (computed : Bool) (value : Tree)
  /-- A value whose items are taken one by one, and whether a comma stands behind it at the end of
  its list. -/
  | spread (value : Tree) (comma : Bool)
  | function (shape : FunctionShape) (parameters body : List Tree)
  | arrow (shape : FunctionShape) (parameters body : List Tree)
  | classLike (name typeParameters : String) (superclass : Option Tree) (heritage : String)
      (members : List Tree)
  | unary (operator : String) (operand : Tree)
  | update (operator : String) (before : Bool) (operand : Tree)
  | binary (operator : String) (left right : Tree)
  | conditional (test yes no : Tree)
  | assign (operator : String) (target value : Tree)
  | sequence (items : List Tree)
  | call (callee : Tree) (optional : Bool) (typeArguments : String) (arguments : List Tree)
  | construct (callee : Tree) (typeArguments : String) (arguments : List Tree)
  | member (object : Tree) (optional : Bool) (name : String)
  | index (object : Tree) (optional : Bool) (key : Tree)
  | parenthesized (inner : Tree)
  /-- A value with a type behind an operator, `as` or `satisfies`. -/
  | typed (operator : String) (value : Tree) (type : String)
  | nonNull (value : Tree)
  /-- A value with type arguments alone. -/
  | instantiated (value : Tree) (typeArguments : String)
  | yield (delegate : Bool) (value : Option Tree)
  -- markup
  | element (name typeArguments : String) (attributes : List Tree) (selfClosing : Bool)
      (children : List Tree)
  | attribute (name : String) (value : Option Tree)
  | markupText (text : String)
  /-- Braces in markup, with or without a value. -/
  | braces (value : Option Tree)
  -- patterns
  | binding (target : Tree) (ascription : String) (default : Option Tree)
  | rest (target : Tree) (ascription : String)
  -- statements
  | expression (value : Tree)
  /-- A string that begins a body, as it is written between its quotes. -/
  | directive (source : String)
  | empty
  | block (body : List Tree)
  | variables (keyword : String) (declarators : List Tree)
  | declarator (target : Tree) (ascription : String) (value : Option Tree)
  | branch (test yes : Tree) (no : Option Tree)
  /-- A head that governs a body: a loop, or the scope of an object. -/
  | loop (head body : Tree)
  | whileHead (test : Tree)
  | withHead (subject : Tree)
  | forHead (start test update : Option Tree)
  | forEachHead (await : Bool) (target : Tree) (keyword : String) (source : Tree)
  | doWhile (body test : Tree)
  | jump (keyword label : String)
  | answer (keyword : String) (value : Option Tree)
  | switch (subject : Tree) (cases : List Tree)
  | switchCase (test : Option Tree) (body : List Tree)
  | attempt (body : Tree) (parameter handler cleanup : Option Tree)
  | labelled (label : String) (body : Tree)
  | field (modifiers : String) (key : Tree) (computed : Bool) (ascription : String)
      (value : Option Tree)
  | staticBlock (body : List Tree)
  | modified (modifiers : String) (member : Tree)
  /-- Declarations of types, as they are written. -/
  | declaration (text : String)
  | interface (name : String) (members : String)
  /-- What is taken from a module: bindings as they are written, and names of its parts. -/
  | importModule (keyword : String) (bindings : List String) (names : List Tree) (source : String)
  | exportDefault (value : Tree)
  | exportDeclaration (value : Tree)
  | exportNames (keyword : String) (names : List Tree) (source : Option String)
  | alias (name renamed : String)

instance : Inhabited Tree := ⟨.hole⟩

/-- Whether a chain of members and calls has an optional link. -/
def Tree.hasOptionalLink : Tree → Bool
  | .member inner optional _ => optional || inner.hasOptionalLink
  | .index inner optional _ => optional || inner.hasOptionalLink
  | .call inner optional _ _ => optional || inner.hasOptionalLink
  | .nonNull inner => inner.hasOptionalLink
  | _ => false

/-- Words that stand for a value and cannot be assigned to. -/
def isConstantWord (text : String) : Bool :=
  text == "this" || text == "null" || text == "true" || text == "false" || text == "super"

end PanelCompiler.Script
