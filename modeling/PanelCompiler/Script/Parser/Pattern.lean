import PanelCompiler.Script.Parser.Modifier

namespace PanelCompiler.Script.Parser

/-- A type behind a colon, with the colon, or the empty text. -/
def ascription {α : Type} (type : Parser α) : Parser String := do
  if ← accept ":" then
    let text ← sourceOf type
    return ": " ++ text
  return ""

def typeAscription (g : Grammar) : Parser String :=
  ascription g.type

/-- A default value behind a pattern. -/
def defaultValue (g : Grammar) : Parser (Option Tree) :=
  optionalAfter "=" (bracketed g.assignment)

/-- A pattern with its default value, where it has one. -/
def bindingElement (g : Grammar) : Parser Tree := do
  let target ← g.pattern
  match ← defaultValue g with
  | some value => return .binding target "" (some value)
  | none => return target

/-- `...` with what takes the rest; it has to be the last of its list. -/
def restElement (close : String) (target : Parser Tree) : Parser Tree := do
  expect "..."
  let target ← target
  require (← atMark close)
  return .rest target ""

def arrayPattern (g : Grammar) : Parser Tree := do
  expect "["
  let reversed ← iterate [] fun items => do
    if ← atMark "]" then return none
    if ← accept "," then return some (Tree.hole :: items)
    let item ← if ← atMark "..." then restElement "]" g.pattern else bindingElement g
    if !(← atMark "]") then expect ","
    return some (item :: items)
  expect "]"
  return .array reversed.reverse

/-- A key and whether it is computed. -/
def propertyKey (g : Grammar) : Parser (Tree × Bool) := do
  let token ← advance
  match token.kind with
  | .word => return (.name token.text, false)
  | .string => return (.string token.text (stringSource token), false)
  | .number => return (.number token.text, false)
  | .privateName => return (.verbatim token.text, false)
  | .mark =>
    require (token.text == "[")
    let key ← bracketed g.assignment
    expect "]"
    return (key, true)
  | _ => fail

def objectPatternMember (g : Grammar) : Parser Tree := do
  if ← atMark "..." then restElement "\x7d" (Tree.name <$> nameToken)
  else
    let token ← peek
    let second ← peekSecond
    if token.kind == .word && !Token.isMark second ":" then
      let name ← nameToken
      match ← defaultValue g with
      | some value =>
        return .property (.name name) false true (.binding (.name name) "" (some value))
      | none => return .property (.name name) false true (.name name)
    else
      require (token.kind != .privateName)
      let (key, computed) ← propertyKey g
      expect ":"
      let value ← bindingElement g
      return .property key computed false value

def objectPattern (g : Grammar) : Parser Tree := do
  expect "\x7b"
  let members ← commaList "\x7d" (objectPatternMember g)
  return .object members

/-- A name, or a pattern that takes an array or object apart. -/
def pattern (g : Grammar) : Parser Tree := do
  if ← atMark "[" then arrayPattern g
  else if ← atMark "\x7b" then objectPattern g
  else
    let name ← nameToken
    return .name name

/-- Decorators before a declaration, member or parameter, and whether there are any. A bracket
behind one belongs to what it decorates. -/
def decorators (g : Grammar) : Parser Bool :=
  iterate false fun _ => do
    if ← accept "@" then
      let _ ← under (fun mode => { mode with decorator := true }) g.leftHandSide
      return some true
    return none

/-- Whose parameters these are. -/
inductive Signature
  | function
  | method
  /-- The function that makes an object; its parameters can be properties of the object. -/
  | constructor
  deriving DecidableEq

/-- What may stand before the parameters of a signature. -/
def Signature.modifiers : Signature → List String
  | .constructor => accessWords ++ ["override", "readonly"]
  | _ => []

def Tree.isRest : Tree → Bool
  | .rest .. => true
  | _ => false

/-- A parameter that takes all arguments from its place on. -/
def restParameter (g : Grammar) : Parser Tree := do
  expect "..."
  let target ← g.pattern
  let ascription ← typeAscription g
  return .rest target ascription

/-- A parameter that may be left out, by a mark or by a default value. -/
def plainParameter (g : Grammar) : Parser Tree := do
  let target ← g.pattern
  let mark ← acceptText "?"
  let type ← typeAscription g
  let value ← defaultValue g
  require (mark.isEmpty || value.isNone)
  if mark.isEmpty && type.isEmpty && value.isNone then return target
  return .binding target (mark ++ type) value

def formalParameter (g : Grammar) (signature : Signature) : Parser Tree := do
  let decorated ← decorators g
  require (!decorated || signature != .function)
  let modifiers ← takeModifiers
  require (areModifiersOf signature.modifiers modifiers)
  if ← atMark "..." then
    require modifiers.isEmpty
    restParameter g
  else
    let named := (← peek).kind == .word
    require (named || modifiers.isEmpty)
    plainParameter g

/-- The type of `this` in the place of the first parameter, with the comma behind it. -/
def thisParameter (g : Grammar) : Parser (List Tree) := do
  if ← acceptWord "this" then
    let type ← typeAscription g
    if !(← atMark ")") then expect ","
    return [if type.isEmpty then .name "this" else .binding (.name "this") type none]
  return []

/-- Parameters in their parentheses, with their source. One that takes the rest is the last. -/
def formalParameters (g : Grammar) (signature : Signature) : Parser (String × List Tree) := do
  let start := (← peek).start
  expect "("
  let subject ← bracketed (thisParameter g)
  let (parameters, comma) ← commaListEnd ")" (bracketed (formalParameter g signature))
  require (parameters.dropLast.all (!Tree.isRest ·))
  require (!comma || (← read).ambient || !parameters.getLast?.any Tree.isRest)
  return (sourceBetween start (← behind), subject ++ parameters)

/-- The parameters that take an argument. -/
def takingArguments : List Tree → List Tree
  | .name "this" :: rest => rest
  | .binding (.name "this") _ _ :: rest => rest
  | parameters => parameters

/-- Whether the parameters tell the type of `this`. -/
def tellsThis (parameters : List Tree) : Bool :=
  (takingArguments parameters).length != parameters.length

mutual

/-- An expression read again as the target of an assignment, and how many initializers it
explains. -/
def asTarget? : Tree → Option (Tree × Nat)
  | .name text => if isConstantWord text then none else some (.name text, 0)
  | .member object false name =>
    if object.hasOptionalLink then none else some (.member object false name, 0)
  | .index object false key =>
    if object.hasOptionalLink then none else some (.index object false key, 0)
  | .nonNull value => (asSimpleTarget? value).map fun value => (.nonNull value, 0)
  | .typed operator value type =>
    (asSimpleTarget? value).map fun value => (.typed operator value type, 0)
  | .parenthesized inner => (asSimpleTarget? inner).map fun inner => (.parenthesized inner, 0)
  | .array items => (itemsAsTargets? items).map fun (items, count) => (.array items, count)
  | .object members => (membersAsTargets? members).map fun (members, count) =>
      (.object members, count)
  | .assign "=" target value =>
    -- a default value inside a pattern
    some (.binding target "" (some value), 0)
  | .binding target ascription value => some (.binding target ascription value, 1)
  | _ => none

/-- A target that is no pattern. -/
def asSimpleTarget? : Tree → Option Tree
  | .name text => if isConstantWord text then none else some (.name text)
  | .member object false name =>
    if object.hasOptionalLink then none else some (.member object false name)
  | .index object false key =>
    if object.hasOptionalLink then none else some (.index object false key)
  | .nonNull value => (asSimpleTarget? value).map .nonNull
  | .typed operator value type => (asSimpleTarget? value).map (.typed operator · type)
  | .parenthesized inner => (asSimpleTarget? inner).map .parenthesized
  | _ => none

def itemsAsTargets? : List Tree → Option (List Tree × Nat)
  | [] => some ([], 0)
  | [.spread value false] => (asTarget? value).bind fun (value, count) =>
      match value with
      | .binding .. => none
      | value => some ([.rest value ""], count)
  | .hole :: rest => (itemsAsTargets? rest).map fun (items, count) => (.hole :: items, count)
  | item :: rest => (asTarget? item).bind fun (item, count) =>
      (itemsAsTargets? rest).map fun (items, more) => (item :: items, count + more)

def membersAsTargets? : List Tree → Option (List Tree × Nat)
  | [] => some ([], 0)
  | [.spread value false] => (asSimpleTarget? value).map fun value => ([.rest value ""], 0)
  | .property key computed shorthand value :: rest =>
    (asTarget? value).bind fun (value, count) =>
      (membersAsTargets? rest).map fun (members, more) =>
        (.property key computed shorthand value :: members, count + more)
  | _ :: _ => none

end

/-- The target of an assignment; the initializers it explains are no longer open. -/
def assignmentTarget (tree : Tree) : Parser Tree :=
  fun _ cursor =>
    match asTarget? tree with
    | none => (none, cursor)
    | some (.binding .., _) => (none, cursor)
    | some (target, count) =>
      (some target, { cursor with initializers := cursor.initializers - count })

/-- A target that is no pattern. -/
def simpleTarget (tree : Tree) : Parser Tree :=
  match asSimpleTarget? tree with
  | some target => pure target
  | none => fail

end PanelCompiler.Script.Parser
