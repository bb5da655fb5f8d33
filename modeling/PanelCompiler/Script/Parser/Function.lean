import PanelCompiler.Script.Parser.Type

namespace PanelCompiler.Script.Parser

/-- Statements up to the closing brace. -/
def statementsUntilBrace (g : Grammar) : Parser (List Tree) := do
  let reversed ← iterate [] fun statements => do
    if ← atMark "\x7d" then return none
    let statement ← g.statement
    return some (statement :: statements)
  expect "\x7d"
  return reversed.reverse

/-- The strings that begin a body are directives. -/
def markDirectives : List Tree → List Tree
  | .expression (.string _ source) :: rest => .directive source :: markDirectives rest
  | statements => statements

/-- A body in braces, which may return or not, with its source. -/
def bodyInBraces (g : Grammar) (answer : Bool) : Parser (String × List Tree) := do
  let start := (← peek).start
  expect "\x7b"
  let statements ← under (fun mode => { Mode.bracketed mode with answer := answer })
    (statementsUntilBrace g)
  return (sourceBetween start (← behind), markDirectives statements)

def functionBody (g : Grammar) : Parser (String × List Tree) :=
  bodyInBraces g true

/-- What is known of a function before its parameters. -/
structure FunctionHead where
  name : String
  async : Bool
  generator : Bool
  signature : Signature
  /-- The body may be left out. -/
  bodiless : Bool

/-- Everything behind the name of a function or method. -/
def functionRest (g : Grammar) (head : FunctionHead) : Parser Tree :=
  under (Mode.inFunction · head.async head.generator) do
    let typeParameters ← typeParametersText g
    let (parametersText, parameters) ← formalParameters g head.signature
    let returnType ← returnAscription g
    let shape : FunctionShape :=
      { async := head.async, generator := head.generator, name := head.name,
        typeParameters := typeParameters, returnType := returnType, parameters := parametersText,
        body := "", expression := false, complete := false }
    if ← atMark "\x7b" then
      let (bodyText, body) ← functionBody g
      return .function { shape with body := bodyText, complete := true } parameters body
    else
      require head.bodiless
      endStatement
      return .function shape parameters []

def optionalName : Parser String := do
  if ← isNameToken (← peek) then nameToken else return ""

/-- A function that is a value; its name belongs to itself. -/
def functionExpression (g : Grammar) (async : Bool) : Parser Tree := do
  expectWord "function"
  let generator ← accept "*"
  let name ← under (Mode.inFunction · async generator) optionalName
  functionRest g
    { name := name, async := async, generator := generator, signature := .function,
      bodiless := false }

/-- A function that is declared; its name belongs to the surroundings. Only what is exported by
default needs none. -/
def functionDeclaration (g : Grammar) (async named : Bool) : Parser Tree := do
  expectWord "function"
  let generator ← accept "*"
  let name ← if named then nameToken else optionalName
  functionRest g
    { name := name, async := async, generator := generator, signature := .function,
      bodiless := true }

/-- Whether an accessor begins here. -/
def accessorKind? : Parser (Option MemberKind) := do
  if ← atAccessor "get" then return some .getter
  if ← atAccessor "set" then return some .setter
  return none

/-- Whether a function can stand behind `get` or `set`, or as a method. -/
def fitsMember (kind : MemberKind) (value : Tree) : Bool :=
  match kind, value with
  | .method, _ => true
  | .getter, .function shape parameters _ =>
    shape.typeParameters.isEmpty && (takingArguments parameters).isEmpty
  | .setter, .function shape parameters _ =>
    shape.typeParameters.isEmpty && shape.returnType.isEmpty &&
      match takingArguments parameters with
      | [parameter] => !Tree.isRest parameter
      | _ => false
  | _, _ => false

def objectMethod (g : Grammar) (kind : MemberKind) (key : Tree) (computed async generator : Bool) :
    Parser Tree := do
  let value ← functionRest g
    { name := "", async := async, generator := generator, signature := .function,
      bodiless := false }
  require (fitsMember kind value)
  return .method kind key computed value

/-- A key of an object literal, which is never private. -/
def objectKey (g : Grammar) : Parser (Tree × Bool) := do
  require ((← peek).kind != .privateName)
  propertyKey g

/-- One more initializer that only a pattern may have. -/
def openInitializer : Parser Unit :=
  fun _ cursor => (some (), { cursor with initializers := cursor.initializers + 1 })

/-- A member of an object literal. -/
def objectMember (g : Grammar) : Parser Tree := do
  if ← accept "..." then
    let value ← g.assignment
    return .spread value false
  match ← accessorKind? with
  | some kind =>
    let _ ← advance
    let (key, computed) ← objectKey g
    objectMethod g kind key computed false false
  | none =>
    let modifiers ← takeModifiers
    require (areModifiersOf ["async"] modifiers)
    let async := !modifiers.isEmpty
    let generator ← accept "*"
    let token ← peek
    let (key, computed) ← objectKey g
    if ← atSignature then objectMethod g .method key computed async generator
    else
      require !(async || generator)
      if ← accept ":" then
        let value ← g.assignment
        return .property key computed false value
      require (← isNameToken token)
      if ← accept "=" then
        let value ← g.assignment
        openInitializer
        return .property key false true (.binding key "" (some value))
      return .property key false true key

/-- Items of a list, the last of which may be told that a comma stands behind it. -/
def withLastComma (comma : Bool) (items : List Tree) : List Tree :=
  match items.getLast? with
  | some (.spread value _) => items.dropLast ++ [.spread value comma]
  | _ => items

def objectLiteral (g : Grammar) : Parser Tree := do
  expect "\x7b"
  let (members, comma) ← commaListEnd "\x7d" (bracketed (objectMember g))
  return .object (withLastComma comma members)

/-- The surroundings of the value of a field. -/
def Mode.inField (mode : Mode) : Mode :=
  Mode.inFunction mode false false

/-- The name of a class member and what stands before it. -/
structure MemberHead where
  decorated : Bool
  /-- All modifiers but `async`. -/
  modifiers : List String
  async : Bool
  generator : Bool
  key : Tree
  computed : Bool

namespace MemberHead

def isStatic (head : MemberHead) : Bool :=
  head.modifiers.contains "static"

def isAbstract (head : MemberHead) : Bool :=
  head.modifiers.contains "abstract"

/-- Whether the key is this name as it stands. -/
def isNamed (head : MemberHead) (name : String) : Bool :=
  !head.computed && match head.key with
    | .name text => text == name
    | .string text _ => text == name
    | _ => false

/-- Whether the member makes the objects of the class. -/
def isConstructor (head : MemberHead) : Bool :=
  !head.isStatic && head.isNamed "constructor"

/-- Names that are taken, and modifiers that a private name cannot have. -/
def isAllowed (head : MemberHead) : Bool :=
  !(head.isStatic && head.isNamed "prototype") && match head.key with
    | .verbatim name =>
      name != "#constructor" &&
        head.modifiers.all (!(["abstract", "declare"] ++ accessWords).contains ·)
    | _ => true

/-- Whether a function can be the constructor of a class. -/
def fitsConstructor (head : MemberHead) (kind : MemberKind) (value : Tree) : Bool :=
  kind == .method && !head.async && !head.generator && !head.decorated &&
    areModifiersOf accessWords head.modifiers && match value with
      | .function shape parameters _ =>
        shape.typeParameters.isEmpty && shape.returnType.isEmpty && !tellsThis parameters
      | _ => false

/-- Modifiers of methods, with `async` or not. -/
def methodModifiers : List String :=
  accessWords ++ ["static", "override", "abstract"]

/-- A method without a body is abstract or one of several, and has no decorator; one with a body
is not abstract. -/
def fitsMethod (head : MemberHead) (value : Tree) : Bool :=
  areModifiersOf methodModifiers head.modifiers && match value with
    | .function shape _ _ => !(if shape.complete then head.isAbstract else head.decorated)
    | _ => false

def fieldModifiers : List String :=
  methodModifiers ++ ["readonly", "declare", "accessor"]

/-- Whether the member can be a field. -/
def fitsField (head : MemberHead) : Bool :=
  !head.async && !head.generator && !head.isNamed "constructor" &&
    areModifiersOf fieldModifiers head.modifiers

end MemberHead

/-- A method or accessor of a class, behind its key. -/
def classMethod (g : Grammar) (head : MemberHead) (kind : MemberKind) : Parser Tree := do
  let value ← functionRest g
    { name := "", async := head.async, generator := head.generator,
      signature := if head.isConstructor then .constructor else .method, bodiless := true }
  require (fitsMember kind value)
  require (if head.isConstructor then head.fitsConstructor kind value else head.fitsMethod value)
  let method := Tree.method kind head.key head.computed value
  if head.modifiers.isEmpty then return method
  return .modified (modifiersText head.modifiers) method

/-- A field of a class, behind its key and the question mark that may follow that. -/
def classField (g : Grammar) (head : MemberHead) (optional : Bool) : Parser Tree := do
  require head.fitsField
  require !(optional && head.modifiers.contains "accessor")
  let token ← peek
  let definite ← if optional || token.afterBreak then pure "" else acceptText "!"
  let type ← typeAscription g
  let value ← optionalAfter "=" (under Mode.inField g.assignment)
  require !(head.isAbstract && value.isSome)
  endStatement
  let mark := if optional then "?" else definite
  return .field (modifiersText head.modifiers) head.key head.computed (mark ++ type) value

/-- A member with a key. -/
def keyedMember (g : Grammar) (decorated : Bool) (words : List String) : Parser Tree := do
  require (areOrdered words)
  let accessor ← accessorKind?
  if accessor.isSome then
    let _ ← advance
  let generator ← accept "*"
  let (key, computed) ← propertyKey g
  let head : MemberHead :=
    { decorated := decorated, modifiers := words.filter (· != "async"),
      async := words.contains "async", generator := generator, key := key, computed := computed }
  require head.isAllowed
  match accessor with
  | some kind =>
    require !(generator || head.async)
    classMethod g head kind
  | none =>
    let optional ← accept "?"
    if ← atSignature then classMethod g head .method else classField g head optional

/-- A member of a class, or nothing for a lone semicolon. -/
def classMember (g : Grammar) : Parser (Option Tree) := do
  if ← accept ";" then return none
  let decorated ← decorators g
  let token ← peek
  if Token.isWord token "static" && Token.isMark (Token.following token) "\x7b" then
    require !decorated
    let _ ← advance
    let (_, body) ← under (Mode.inFunction · true false) (bodyInBraces g false)
    return some (.staticBlock body)
  let modifiers ← takeModifiers
  if ← atIndexSignature then
    require (!decorated && areModifiersOf ["static", "readonly"] modifiers)
    let text ← sourceOf (indexSignature g)
    if !(← accept ",") then endStatement
    return some (.declaration (modifiersText modifiers ++ text))
  let member ← keyedMember g decorated modifiers
  return some member

/-- A class to extend with its type arguments, and the types that a class implements. -/
def heritage (g : Grammar) : Parser (Option Tree × String) := do
  let superclass ← optionalAfterWord "extends" g.leftHandSide
  let start := (← peek).start
  if superclass.isSome then
    if ← atMark "<" then typeArguments g
  if ← acceptWord "implements" then
    let _ ← commaSeparated (typeReference g)
  return (superclass, sourceBetween start (← behind))

/-- A class whose word comes next; it needs no name. -/
def classLike (g : Grammar) : Parser Tree := do
  expectWord "class"
  let name ← if ← atWord "implements" then pure "" else optionalName
  let typeParameters ← typeParametersText g
  let (superclass, heritage) ← heritage g
  expect "\x7b"
  let reversed ← iterate [] fun members => do
    if ← atMark "\x7d" then return none
    match ← bracketed (classMember g) with
    | some member => return some (member :: members)
    | none => return some members
  expect "\x7d"
  return .classLike name typeParameters superclass heritage reversed.reverse

end PanelCompiler.Script.Parser
