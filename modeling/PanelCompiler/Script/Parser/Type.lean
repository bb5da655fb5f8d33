import PanelCompiler.Script.Parser.Pattern

/-!
Types. Only their extent matters, and for some their form; a type is kept as its source. What a
word or mark begins is told from the next few tokens, so no type is read twice.
-/

namespace PanelCompiler.Script.Parser

/-- A comma list whose items are passed over. -/
def commaSkip {α : Type} (close : String) (item : Parser α) : Parser Unit := do
  let _ ← commaList close item

def skipType (g : Grammar) : Parser Unit := do
  let _ ← g.type

/-- The surroundings of a type that stands in brackets or between commas of its own. -/
def Mode.unbound (mode : Mode) : Mode :=
  { mode with bound := false }

/-- Type arguments from angle to angle. -/
def typeArguments (g : Grammar) : Parser Unit := do
  require (← acceptAngle)
  require !(← atMark ">")
  commaSkip ">" g.type

/-- One type parameter, with its bound and default. -/
def typeParameter (g : Grammar) : Parser Unit := do
  iterate () fun _ => do
    let token ← peek
    let second := Token.following token
    if (Token.isWord token "const" || Token.isWord token "in" || Token.isWord token "out") &&
        second.kind == .word && !(Token.isWord second "extends" && !Token.isWord token "const") then
      let _ ← advance
      return some ()
    return none
  let _ ← nameToken
  if ← acceptWord "extends" then skipType g
  if ← accept "=" then skipType g

def typeParameters (g : Grammar) : Parser Unit := do
  expect "<"
  require !(← atMark ">")
  commaSkip ">" (typeParameter g)

def skipTypeParameters (g : Grammar) : Parser Unit := do
  if ← atMark "<" then typeParameters g

/-- The source of type parameters, or the empty text. -/
def typeParametersText (g : Grammar) : Parser String := do
  if ← atMark "<" then sourceOf (typeParameters g) else return ""

/-- What a function returns: a type, or what it tells about one of its parameters. -/
def returnType (g : Grammar) : Parser Unit := do
  let token ← peek
  let verb := Token.following token
  if Token.isWord verb "is" && !verb.afterBreak && (← isNameToken token) then
    let _ ← advance
    let _ ← advance
  skipType g

def returnAscription (g : Grammar) : Parser String :=
  ascription (returnType g)

/-- `(a: T) => U` with all that may stand before it. -/
def functionType (g : Grammar) : Parser Unit := do
  if ← acceptWord "abstract" then
    expectWord "new"
  else
    let _ ← acceptWord "new"
  skipTypeParameters g
  let _ ← formalParameters g .function
  expect "=>"
  returnType g

/-- Whether a parameter begins a function type: what follows its name tells it from a type in
parentheses. -/
def endsFirstParameter : Parser Bool := do
  if ← accept ")" then atMark "=>"
  else return (← atMark ":") || (← atMark ",") || (← atMark "?") || (← atMark "=")

/-- Whether a function type begins here, and not a type in parentheses. -/
def atFunctionType (g : Grammar) : Parser Bool := do
  let token ← peek
  if Token.isMark token "<" || Token.isWord token "new" then return true
  if Token.isWord token "abstract" && Token.isWord (Token.following token) "new" then return true
  if !Token.isMark token "(" then return false
  lookahead do
    let _ ← advance
    if (← atMark ")") || (← atMark "...") then return true
    let _ ← takeModifiers
    let token ← peek
    if Token.isWord token "this" || (← isNameToken token) then
      let _ ← advance
      endsFirstParameter
    else if Token.isMark token "[" || Token.isMark token "\x7b" then
      if (← optional? g.pattern).isSome then endsFirstParameter else return false
    else return false

/-- The parameters and result of a method in a type. -/
def methodSignature (g : Grammar) : Parser Unit := do
  skipTypeParameters g
  let _ ← formalParameters g .function
  let _ ← returnAscription g

def atSignature : Parser Bool := do
  return (← atMark "(") || (← atMark "<")

/-- `get` or `set` with its name: one tells the result only, the other the argument only. -/
def accessorSignature (g : Grammar) (setter : Bool) : Parser Unit := do
  let _ ← advance
  require ((← peek).kind != .privateName)
  let _ ← propertyKey g
  let (_, parameters) ← formalParameters g .function
  match setter, takingArguments parameters with
  | false, [] =>
    let _ ← returnAscription g
  | true, [parameter] => require !(Tree.isRest parameter)
  | _, _ => fail

/-- Whether the brackets here hold a key with its type, and no computed key. -/
def atIndexSignature : Parser Bool := do
  let opening ← peek
  if !Token.isMark opening "[" then return false
  let first := Token.following opening
  if Token.isMark first "..." || Token.isMark first "]" then return true
  let second := Token.following first
  let endsKey (token : Token) : Bool := Token.isMark token ":" || Token.isMark token ","
  let endsOptionalKey (token : Token) : Bool :=
    endsKey token || Token.isMark token "?" &&
      (endsKey (Token.following token) || Token.isMark (Token.following token) "]")
  if Token.isModifierWord first then return (← isNameToken second) || endsOptionalKey second
  if !(← isNameToken first) then return false
  return endsOptionalKey second

/-- A key of any name, with the types of key and value. -/
def indexSignature (g : Grammar) : Parser Unit := do
  expect "["
  let _ ← nameToken
  expect ":"
  skipType g
  expect "]"
  expect ":"
  skipType g

/-- A property or a method, which alone is never fixed. -/
def propertySignature (g : Grammar) (fixed : Bool) : Parser Unit := do
  require ((← peek).kind != .privateName)
  let _ ← propertyKey g
  let _ ← accept "?"
  if ← atSignature then
    require !fixed
    methodSignature g
  else
    let _ ← typeAscription g

/-- A member of an object type. -/
def typeMember (g : Grammar) : Parser Unit := do
  let token ← peek
  let second := Token.following token
  if ← atSignature then methodSignature g
  else if Token.isWord token "new" && (Token.isMark second "(" || Token.isMark second "<") then
    let _ ← advance
    methodSignature g
  else
    let modifiers ← takeModifiers
    require (areModifiersOf ["readonly"] modifiers)
    if ← atAccessor "get" then
      require modifiers.isEmpty
      accessorSignature g false
    else if ← atAccessor "set" then
      require modifiers.isEmpty
      accessorSignature g true
    else if ← atIndexSignature then indexSignature g
    else propertySignature g !modifiers.isEmpty

/-- An object type. A semicolon or comma may stand behind each member. -/
def objectType (g : Grammar) : Parser Unit := do
  expect "\x7b"
  iterate () fun _ => do
    if ← atMark "\x7d" then return none
    typeMember g
    if !(← accept ",") then
      let _ ← accept ";"
    return some ()
  expect "\x7d"

/-- Whether an object type has a member for each key of a type. -/
def atMappedType : Parser Bool :=
  lookahead do
    let _ ← advance
    if (← accept "+") || (← accept "-") then return ← atWord "readonly"
    let _ ← acceptWord "readonly"
    if !(← accept "[") then return false
    if !(← isNameToken (← peek)) then return false
    return Token.isWord (← peekSecond) "in"

/-- `{ readonly [K in T as U]?: V }` -/
def mappedType (g : Grammar) : Parser Unit := do
  expect "\x7b"
  if (← accept "+") || (← accept "-") then expectWord "readonly"
  else
    let _ ← acceptWord "readonly"
  expect "["
  let _ ← nameToken
  expectWord "in"
  skipType g
  if ← acceptWord "as" then skipType g
  expect "]"
  if (← accept "+") || (← accept "-") then expect "?"
  else
    let _ ← accept "?"
  let _ ← typeAscription g
  let _ ← accept ";"
  expect "\x7d"

/-- What an item of a tuple stands for. -/
inductive TupleItem
  | one
  | perhapsOne
  /-- All items of an array. -/
  | many
  /-- All items of some other type. -/
  | others
  deriving DecidableEq

/-- Whether an item may stand behind another one. -/
def TupleItem.mayFollow (later earlier : TupleItem) : Bool :=
  match earlier, later with
  | .perhapsOne, .one => false
  | .many, .perhapsOne => false
  | .many, .many => false
  | _, _ => true

def areTupleItems : List TupleItem → Bool
  | [] => true
  | item :: rest => rest.all (TupleItem.mayFollow · item) && areTupleItems rest

/-- The name of a tuple item with its colon, if it has one; and whether the item may be left out. -/
def tupleItemName : Parser Bool := do
  let token ← peek
  let second := Token.following token
  if token.kind != .word then return false
  if Token.isMark second ":" then
    resume second.rest
    return false
  let third := Token.following second
  if Token.isMark second "?" && Token.isMark third ":" then
    resume third.rest
    return true
  return false

def tupleItem (g : Grammar) : Parser TupleItem := do
  let rest ← accept "..."
  let optional ← tupleItemName
  require !(rest && optional)
  let form ← g.type
  if rest then return if form == .array then .many else .others
  return if optional || form == .optional then .perhapsOne else .one

def tupleType (g : Grammar) : Parser Unit := do
  expect "["
  let items ← commaList "]" (tupleItem g)
  require (areTupleItems items)

/-- Names with dots between them. -/
def dottedName : Parser Unit := do
  let _ ← anyWord
  iterate () fun _ => do
    if ← accept "." then
      let _ ← anyWord
      return some ()
    return none

/-- Type arguments on the line of what they belong to. -/
def skipTypeArguments (g : Grammar) : Parser Unit := do
  let token ← peek
  if token.kind == .mark && (token.text == "<" || token.text == "<<") && !token.afterBreak then
    typeArguments g

/-- A name with dots and type arguments. -/
def typeReference (g : Grammar) : Parser Unit := do
  dottedName
  skipTypeArguments g

/-- `import("a").B<C>`, with or without more data on how to import. -/
def importType (g : Grammar) : Parser Unit := do
  expectWord "import"
  expect "("
  require ((← advance).kind == .string)
  if ← accept "," then
    if ← atMark "\x7b" then
      let _ ← g.assignment
      let _ ← accept ","
  expect ")"
  if ← accept "." then dottedName
  skipTypeArguments g

/-- A template whose substitutions are types. -/
def templateType (g : Grammar) : Parser Unit := do
  let opening ← advance
  let finished ← iterate (opening.rest, false) fun (text, finished) => do
    if finished then return none
    match Lexer.scanTemplate (text.length + 1) [] true text with
    | none => fail
    | some chunk =>
      resume chunk.rest
      if chunk.substitution then
        skipType g
        require (← atMark "\x7d")
        return some ((← peek).rest, false)
      return some ([], true)
  require finished.2

/-- Names of types that have no parts and take no arguments. -/
def simpleTypeWords : List String :=
  ["any", "unknown", "string", "number", "bigint", "symbol", "boolean", "undefined", "never",
    "object"]

/-- `?` alone, or before a type. -/
def unknownType (g : Grammar) : Parser Unit := do
  expect "?"
  let token ← peek
  let alone := token.kind == .mark &&
    [",", "\x7d", ")", ">", "=", "|"].contains token.text
  if !alone then skipType g

def wordType (g : Grammar) (token : Token) : Parser Unit := do
  let second := Token.following token
  match token.text with
  | "typeof" =>
    let _ ← advance
    if ← atWord "import" then importType g else typeReference g
  | "import" => importType g
  | "null" | "true" | "false" | "void" => let _ ← advance
  | "this" =>
    let _ ← advance
    let verb ← peek
    if Token.isWord verb "is" && !verb.afterBreak then
      let _ ← advance
      skipType g
  | "asserts" =>
    if !second.afterBreak && (Token.isWord second "this" || (← isNameToken second)) then
      let _ ← advance
      let _ ← advance
      if ← acceptWord "is" then skipType g
    else typeReference g
  | word =>
    if simpleTypeWords.contains word && !Token.isMark second "." then
      let _ ← advance
    else typeReference g

/-- A type without anything behind it. -/
def primaryType (g : Grammar) : Parser TypeForm := do
  let token ← peek
  match token.kind with
  | .string | .number =>
    let _ ← advance
    return .other
  | .template =>
    templateType g
    return .other
  | .mark =>
    match token.text with
    | "(" =>
      let _ ← advance
      skipType g
      expect ")"
      return .other
    | "[" =>
      tupleType g
      return .tuple
    | "\x7b" =>
      if ← atMappedType then mappedType g else objectType g
      return .other
    | "-" =>
      let _ ← advance
      require ((← advance).kind == .number)
      return .other
    | "!" =>
      let _ ← advance
      let _ ← g.primaryType
      return .other
    | "?" =>
      unknownType g
      return .other
    | _ => fail
  | .word =>
    wordType g token
    return .other
  | _ => fail

/-- Whether a type can begin with this token. -/
def startsType (token : Token) : Parser Bool := do
  match token.kind with
  | .string | .number | .template => return true
  | .mark =>
    if token.text == "-" then return (Token.following token).kind == .number
    return ["\x7b", "[", "<", "|", "&", "*", "?", "!", "...", "("].contains token.text
  | .word =>
    return ["void", "null", "this", "typeof", "new", "true", "false", "import",
      "function"].contains token.text || (← isNameToken token)
  | _ => return false

/-- Brackets and marks behind a type, on its line. A question mark before a type belongs to a
condition. -/
def postfixType (g : Grammar) : Parser TypeForm :=
  under Mode.unbound do
    let first ← primaryType g
    iterate first fun _ => do
      let token ← peek
      if token.afterBreak then return none
      if Token.isMark token "[" then
        let _ ← advance
        if ← accept "]" then return some .array
        skipType g
        expect "]"
        return some .other
      if Token.isMark token "!" then
        let _ ← advance
        return some .other
      if Token.isMark token "?" && !(← startsType (Token.following token)) then
        let _ ← advance
        return some .optional
      return none

/-- `infer T extends U` has its bound only where no condition follows. -/
def inferBound (g : Grammar) : Parser Unit := do
  expectWord "extends"
  let _ ← under (fun mode => { mode with bound := true }) g.type
  require ((← read).bound || !(← atMark "?"))

/-- Words that make a type of the one behind them. -/
def operatorType (g : Grammar) : Parser TypeForm := do
  let token ← peek
  if Token.isWord token "keyof" || Token.isWord token "unique" then
    let _ ← advance
    let _ ← g.operatorType
    return .other
  else if Token.isWord token "readonly" then
    let _ ← advance
    let form ← g.operatorType
    require (form == .array || form == .tuple)
    return .other
  else if Token.isWord token "infer" then
    let _ ← advance
    let _ ← nameToken
    if ← atWord "extends" then
      let _ ← optional? (inferBound g)
    return .other
  else postfixType g

/-- Types with an operator between them, and perhaps before the first. Function types stand there
in parentheses only. -/
def joinedType (g : Grammar) (operator : String) (item : Parser TypeForm) : Parser TypeForm := do
  let leading ← accept operator
  require !(leading && (← atFunctionType g))
  let first ← item
  iterate first fun _ => do
    if ← accept operator then
      require !(← atFunctionType g)
      let _ ← item
      return some .other
    return none

def unionType (g : Grammar) : Parser TypeForm :=
  joinedType g "|" (joinedType g "&" (operatorType g))

/-- A type, which may depend on a condition. -/
def type (g : Grammar) : Parser TypeForm := do
  if ← atFunctionType g then
    functionType g
    return .other
  let form ← unionType g
  let token ← peek
  if (← read).bound || token.afterBreak || !Token.isWord token "extends" then return form
  let _ ← advance
  let _ ← under (fun mode => { mode with bound := true }) g.type
  expect "?"
  skipType g
  expect ":"
  skipType g
  return .other

end PanelCompiler.Script.Parser
