import PanelCompiler.Script.Parser.Function
import PanelCompiler.Script.Parser.Markup

namespace PanelCompiler.Script.Parser

/-- A template behind its opening, and whether all its escapes have a meaning. -/
def templateParts (g : Grammar) : Parser (Tree × Bool) := do
  let opening ← advance
  require (opening.kind == .template)
  let start : List Char × List String × List Tree × Bool × Bool :=
    (opening.rest, [], [], true, false)
  let (_, chunks, values, meaningful, _) ← iterate start
    fun (text, chunks, values, meaningful, finished) => do
      if finished then return none
      match Lexer.scanTemplate (text.length + 1) [] true text with
      | none => fail
      | some chunk =>
        resume chunk.rest
        let chunks := String.ofList chunk.source :: chunks
        let meaningful := meaningful && chunk.meaningful
        if chunk.substitution then
          let value ← bracketed g.expression
          require (← atMark "\x7d")
          return some ((← peek).rest, chunks, value :: values, meaningful, false)
        return some ([], chunks, values, meaningful, true)
  return (.template chunks.reverse values.reverse, meaningful)

/-- A regular expression where the next token is a slash. -/
def regex : Parser Tree := do
  let token ← peek
  match Lexer.scanRegex (token.start.drop 1) with
  | some (source, rest) =>
    resume rest
    return .verbatim (String.ofList source)
  | none => fail

/-- A value in a list, or the items of one. -/
def listItem (g : Grammar) : Parser Tree := do
  if ← accept "..." then
    let value ← g.assignment
    return .spread value false
  g.assignment

def arrayLiteral (g : Grammar) : Parser Tree := do
  expect "["
  let (reversed, comma) ← iterate ([], false) fun (items, _) => do
    if ← atMark "]" then return none
    if ← accept "," then return some (Tree.hole :: items, false)
    let item ← bracketed (listItem g)
    let comma ← accept ","
    if !comma then require (← atMark "]")
    return some (item :: items, comma)
  expect "]"
  return .array (withLastComma comma reversed.reverse)

/-- Arguments in their parentheses. -/
def arguments (g : Grammar) : Parser (List Tree) := do
  expect "("
  commaList ")" (bracketed (listItem g))

/-- What an import takes: a source, and perhaps more data on how to import. -/
def importArguments (g : Grammar) : Parser (List Tree) := do
  expect "("
  let items ← commaList ")" (bracketed g.assignment)
  require (items.length == 1 || items.length == 2)
  return items

/-- `import` as an expression: a call, perhaps at an early stage, or the data of the module. -/
def importExpression (g : Grammar) : Parser Tree := do
  expectWord "import"
  if ← accept "." then
    let part ← anyWord
    if part == "meta" then return .verbatim "import.meta"
    require (part == "source" || part == "defer")
    let items ← importArguments g
    return .call (.verbatim ("import." ++ part)) false "" items
  let items ← importArguments g
  return .call (.verbatim "import") false "" items

/-- `super`, which stands only before a member or a call. -/
def superWord : Parser Tree := do
  expectWord "super"
  let token ← peek
  require (Token.isMark token "[" || Token.isMark token "(" ||
    Token.isMark token "." && (Token.following token).kind == .word)
  return .name "super"

/-- Expressions that begin with a word. -/
def wordExpression (g : Grammar) (token : Token) : Parser Tree := do
  match token.text with
  | "function" => functionExpression g false
  | "class" => classLike g
  | "new" => g.construct
  | "super" => superWord
  | "import" => importExpression g
  | "this" | "null" | "true" | "false" =>
    let _ ← advance
    return .name token.text
  | word =>
    let second := Token.following token
    if word == "async" && Token.isWord second "function" && !second.afterBreak then
      let _ ← advance
      functionExpression g true
    else
      let name ← nameToken
      return .name name

def primary (g : Grammar) : Parser Tree := do
  let token ← peek
  match token.kind with
  | .number =>
    let _ ← advance
    return .number token.text
  | .string =>
    let _ ← advance
    return .string token.text (stringSource token)
  | .template =>
    let (template, meaningful) ← templateParts g
    require meaningful
    return template
  | .word =>
    require !(token.escaped && reservedWords.contains token.text)
    wordExpression g token
  | .mark =>
    match token.text with
    | "(" =>
      let _ ← advance
      let inner ← bracketed g.expression
      expect ")"
      return .parenthesized inner
    | "[" => arrayLiteral g
    | "\x7b" => objectLiteral g
    | "/" | "/=" => regex
    | "@" =>
      let _ ← decorators g
      classLike g
    | _ => fail
  | _ => fail

/-- A name behind a dot, private or not. -/
def memberName : Parser String := do
  let token ← advance
  require (token.kind == .word || token.kind == .privateName)
  return token.text

/-- Words that cannot be names and begin an expression. -/
def expressionWords : List String :=
  ["this", "super", "null", "true", "false", "function", "class", "new", "import", "delete",
    "typeof", "void"]

/-- Words that are names or operators, as they stand. -/
def operatorWords : List String :=
  ["as", "satisfies"]

/-- Whether type arguments may end before this token when no call follows them. An expression on
the same line would make them two comparisons. -/
def endsInstantiation (token : Token) : Bool :=
  match token.kind with
  | .mark =>
    !(["<", ">", "+", "-", "<<", "<=", "<<="].contains token.text) &&
      (token.afterBreak ||
        !(["(", "[", "\x7b", "/", "/=", "!", "~", "++", "--", "@"].contains token.text))
  | .word =>
    token.afterBreak || operatorWords.contains token.text ||
      reservedWords.contains token.text && !expressionWords.contains token.text
  | .finish => true
  | _ => token.afterBreak

/-- Type arguments behind an expression, as their source; what follows decides whether they are
type arguments at all. -/
def callTypeArguments (g : Grammar) : Parser String := do
  let text ← sourceOf (typeArguments g)
  -- a closing angle with an equals sign is a comparison
  require ((← behind).head? != some '=')
  let token ← peek
  require (Token.isMark token "(" || token.kind == .template || endsInstantiation token)
  return text

/-- Type arguments, if what comes next can be read so. -/
def callTypeArguments? (g : Grammar) : Parser (Option String) := do
  let token ← peek
  if Token.isMark token "<" || Token.isMark token "<<" then optional? (callTypeArguments g)
  else return none

/-- What follows `?.`: a key, a call, or a name. -/
def optionalLink (g : Grammar) (value : Tree) : Parser Tree := do
  let next ← peek
  if Token.isMark next "[" then
    let _ ← advance
    let key ← bracketed g.expression
    expect "]"
    return .index value true key
  else if Token.isMark next "(" then
    let items ← arguments g
    return .call value true "" items
  else if Token.isMark next "<" || Token.isMark next "<<" then
    let types ← sourceOf (typeArguments g)
    let items ← arguments g
    return .call value true types items
  else
    let name ← memberName
    return .member value true name

/-- A link that begins with type arguments, if these are type arguments. -/
def typedLink (g : Grammar) (value : Tree) : Parser (Option Tree) := do
  match ← callTypeArguments? g with
  | none => return none
  | some types =>
    let next ← peek
    if Token.isMark next "(" then
      let items ← arguments g
      return some (.call value false types items)
    else if next.kind == .template then
      let (quasi, _) ← templateParts g
      return some (.tagged value types quasi)
    else
      require !(Token.isMark next "." || Token.isMark next "?.")
      return some (.instantiated value types)

/-- One link of a chain of members and calls. -/
def chainLink (g : Grammar) (calls : Bool) (value : Tree) : Parser (Option Tree) := do
  let token ← peek
  if token.kind == .template then
    require !value.hasOptionalLink
    let (quasi, _) ← templateParts g
    return some (.tagged value "" quasi)
  if token.kind != .mark then return none
  match token.text with
  | "." =>
    let _ ← advance
    let name ← memberName
    return some (.member value false name)
  | "[" =>
    if (← read).decorator then return none
    let _ ← advance
    let key ← bracketed g.expression
    expect "]"
    return some (.index value false key)
  | "!" =>
    if token.afterBreak then return none
    let _ ← advance
    return some (.nonNull value)
  | "?." =>
    require calls
    let _ ← advance
    let link ← optionalLink g value
    return some link
  | "(" =>
    if !calls then return none
    let items ← arguments g
    return some (.call value false "" items)
  | "<" | "<<" => if calls then typedLink g value else return none
  | _ => return none

/-- `new`, with or without arguments. -/
def construct (g : Grammar) : Parser Tree := do
  expectWord "new"
  if ← accept "." then
    expectWord "target"
    return .verbatim "new.target"
  let start ← primary g
  let isImport := match start with
    | .call .. => true
    | _ => false
  require !isImport
  let callee ← iterate start (chainLink g false)
  let types := (← callTypeArguments? g).getD ""
  require !(← atMark "?.")
  if ← atMark "(" then
    let items ← arguments g
    return .construct callee types items
  return .construct callee types []

def leftHandSide (g : Grammar) : Parser Tree := do
  let start ← primary g
  iterate start (chainLink g true)

def postfix? (g : Grammar) : Parser Tree := do
  let value ← leftHandSide g
  let token ← peek
  if (Token.isMark token "++" || Token.isMark token "--") && !token.afterBreak then
    let target ← simpleTarget value
    let _ ← advance
    return .update token.text false target
  return value

/-- Whether `await` is an operator here. Outside of its functions it is a name, and nothing that
can be an operand may follow it on its line. -/
def atAwait : Parser Bool := do
  let token ← peek
  if !Token.isWord token "await" then return false
  if (← read).await then return true
  let second := Token.following token
  require !(Token.isOperandOnLine second)
  require !(!second.afterBreak && (Token.isMark second "/" || Token.isMark second "/="))
  return false

def prefixMarks : List String :=
  ["!", "~", "+", "-"]

def prefixWords : List String :=
  ["typeof", "void", "delete"]

/-- An operand with the operators before it. Markup stands alone, without members or calls. -/
def unary (g : Grammar) : Parser Tree := do
  let token ← peek
  if token.kind == .mark && prefixMarks.contains token.text ||
      token.kind == .word && !token.escaped && prefixWords.contains token.text then
    let _ ← advance
    let operand ← g.unary
    return .unary token.text operand
  if Token.isMark token "++" || Token.isMark token "--" then
    let _ ← advance
    let operand ← g.unary
    let target ← simpleTarget operand
    return .update token.text true target
  if Token.isMark token "<" then return ← element g
  if ← atAwait then
    let _ ← advance
    let operand ← g.unary
    return .unary "await" operand
  postfix? g

def isUnary : Tree → Bool
  | .unary _ _ => true
  | _ => false

/-- A power; the base may not be a prefix expression. -/
def power (g : Grammar) : Parser Tree := do
  let first ← unary g
  let reversed ← iterate [first] fun operands => do
    if ← atMark "**" then
      require !(operands.head?.any isUnary)
      let _ ← advance
      let operand ← unary g
      return some (operand :: operands)
    return none
  match reversed with
  | [] => fail
  | last :: rest => return rest.foldl (fun right left => .binary "**" left right) last

/-- The operator made of the closing angles and equals signs that begin the text. -/
def angleOperator (text : List Char) : String :=
  match text with
  | '>' :: '>' :: '>' :: '=' :: _ => ">>>="
  | '>' :: '>' :: '>' :: _ => ">>>"
  | '>' :: '>' :: '=' :: _ => ">>="
  | '>' :: '>' :: _ => ">>"
  | '>' :: '=' :: _ => ">="
  | _ => ">"

/-- The operator that the next token begins, and the source behind it. -/
def operator? : Parser (Option (String × List Char)) := do
  let token ← peek
  match token.kind with
  | .mark =>
    if token.text == ">" then
      let text := angleOperator token.start
      return some (text, token.start.drop text.length)
    return some (token.text, token.rest)
  | .word =>
    if token.escaped then return none
    if token.text == "in" then
      if (← read).inOperator then return some (token.text, token.rest) else return none
    if token.text == "instanceof" then return some (token.text, token.rest)
    if (token.text == "as" || token.text == "satisfies") && !token.afterBreak then
      return some (token.text, token.rest)
    return none
  | _ => return none

/-- The binary operators, the loosest first. -/
def operatorLevels : List (List String) :=
  [["??"], ["||"], ["&&"], ["|"], ["^"], ["&"], ["==", "!=", "===", "!=="],
    ["<", ">", "<=", ">=", "instanceof", "in", "as", "satisfies"], ["<<", ">>", ">>>"],
    ["+", "-"], ["*", "/", "%"]]

/-- Operators that do not mix with `??` unless parentheses part them. -/
def isLogical : Tree → Bool
  | .binary operator _ _ => operator == "||" || operator == "&&"
  | _ => false

/-- A type behind `as`; `const` asks for the narrowest one. -/
def assertedType (g : Grammar) : Parser String := do
  if ← acceptWord "const" then return "const"
  sourceOf g.type

/-- A private name as the left operand of `in`, where a comparison may begin. -/
def privateOperand? (level : List String) : Parser (Option Tree) := do
  let token ← peek
  if token.kind != .privateName || !level.contains "in" then return none
  let _ ← advance
  require ((← read).inOperator && (← atWord "in"))
  return some (.verbatim token.text)

def binaryLevels (g : Grammar) : List (List String) → Parser Tree
  | [] => power g
  | level :: tighter => do
    let first ← match ← privateOperand? level with
      | some name => pure name
      | none => binaryLevels g tighter
    iterate first fun left => do
      match ← operator? with
      | none => return none
      | some (operator, rest) =>
        if !level.contains operator then return none
        resume rest
        if operator == "as" || operator == "satisfies" then
          let type ← assertedType g
          return some (.typed operator left type)
        let right ← binaryLevels g tighter
        if operator == "??" then require !(isLogical left || isLogical right)
        return some (.binary operator left right)

/-- What ends an expression: in a branch of a condition, a colon may follow. -/
def tailExpression (g : Grammar) (inBranch : Bool) : Parser Tree :=
  if inBranch then g.branch else g.assignment

def conditional (g : Grammar) (inBranch : Bool) : Parser Tree := do
  let test ← binaryLevels g operatorLevels
  if ← accept "?" then
    let yes ← bracketed g.branch
    expect ":"
    let no ← tailExpression g inBranch
    return .conditional test yes no
  return test

def assignmentOperators : List String :=
  ["=", "+=", "-=", "*=", "/=", "%=", "**=", "<<=", ">>=", ">>>=", "&=", "|=", "^=", "&&=", "||=",
    "??="]

/-- The body of an arrow function: a block or an expression, with its source. -/
def arrowBody (g : Grammar) (shape : FunctionShape) (parameters : List Tree) (inBranch : Bool) :
    Parser Tree :=
  under (fun mode => { mode with await := shape.async, yield := false }) do
    if ← atMark "\x7b" then
      let (text, body) ← functionBody g
      return .arrow { shape with body := text, complete := true } parameters body
    let start := (← peek).start
    let value ← tailExpression g inBranch
    let text := sourceBetween start (← behind)
    return .arrow { shape with body := text, expression := true, complete := true } parameters
      [.expression value]

def arrowShape (async : Bool) (typeParameters parameters returnType : String) : FunctionShape :=
  { async := async, generator := false, name := "", typeParameters := typeParameters,
    returnType := returnType, parameters := parameters, body := "", expression := false,
    complete := false }

/-- The arrow, which stands on the line of the parameters. -/
def arrowMark : Parser Unit := do
  let token ← peek
  require !token.afterBreak
  expect "=>"

/-- The surroundings of the parameters of an arrow function. -/
def Mode.inArrowHead (mode : Mode) (async : Bool) : Mode :=
  { mode with await := async }

/-- An arrow function with one bare parameter. -/
def bareArrow (g : Grammar) (async inBranch : Bool) : Parser Tree := do
  let name ← under (Mode.inArrowHead · async) nameToken
  arrowMark
  arrowBody g (arrowShape async "" name "") [.name name] inBranch

/-- Parameters in parentheses up to the arrow, with the types around them. -/
def arrowHead (g : Grammar) (async : Bool) : Parser (FunctionShape × List Tree) :=
  under (Mode.inArrowHead · async) do
    if async then expectWord "async"
    let typeParameters ← typeParametersText g
    let (text, parameters) ← formalParameters g .function
    let returnType ← returnAscription g
    arrowMark
    require !(tellsThis parameters)
    return (arrowShape async typeParameters text returnType, parameters)

/-- What the first few tokens tell about an arrow function. -/
inductive ArrowGuess
  | certain
  | possible
  | absent
  deriving DecidableEq

/-- Whether an opening angle begins type parameters, and not an element: a comma, a default or a
bound follows the first name. -/
def atGenericArrow : Parser Bool :=
  lookahead do
    expect "<"
    let _ ← acceptWord "const"
    if !(← isNameToken (← peek)) then return false
    let _ ← advance
    if ← acceptWord "extends" then
      return !((← atMark "=") || (← atMark ">") || (← atMark "/"))
    return (← atMark ",") || (← atMark "=")

/-- What the first parameter tells, from the token after its name. -/
def guessBehindName (token : Token) : ArrowGuess :=
  let isAnyOf (token : Token) (marks : List String) : Bool :=
    token.kind == .mark && marks.contains token.text
  if isAnyOf token [":"] then .certain
  else if isAnyOf token ["?"] then
    if isAnyOf (Token.following token) [":", ",", "=", ")"] then .certain else .absent
  else if isAnyOf token [",", "=", ")"] then .possible
  else .absent

/-- What stands behind the opening parenthesis. -/
def guessBehindParenthesis : Parser ArrowGuess := do
  let first ← peek
  let second := Token.following first
  if Token.isMark first ")" then
    return if Token.isMark second ":" then .possible
      else if Token.isMark second "=>" || Token.isMark second "\x7b" then .certain
      else .absent
  if Token.isMark first "[" || Token.isMark first "\x7b" then return .possible
  if Token.isMark first "..." then return .certain
  if Token.isModifierWord first && first.text != "async" && (← isNameToken second) then
    return if Token.isWord second "as" then .absent else .certain
  if Token.isWord first "this" || (← isNameToken first) then return guessBehindName second
  return .absent

/-- Whether an arrow function with parentheses begins here. -/
def guessArrow (async : Bool) : Parser ArrowGuess :=
  lookahead do
    if async then
      let _ ← advance
      if (← peek).afterBreak then return .absent
    if ← atMark "<" then return if ← atGenericArrow then .certain else .absent
    if ← accept "(" then guessBehindParenthesis else return .absent

/-- Whether it is known that no arrow function begins here. -/
def isArrowless : Parser Bool :=
  fun _ cursor => (some (cursor.arrowless.contains cursor.next.start.length), cursor)

/-- Keep in mind that no arrow function begins here. -/
def learnArrowless : Parser Unit :=
  fun _ cursor =>
    (some (), { cursor with arrowless := cursor.next.start.length :: cursor.arrowless })

/-- An arrow function where one may begin. In a branch of a condition, a colon has to follow one
that tells its type: otherwise the colon before that type was the condition's own. -/
def possibleArrow? (g : Grammar) (async inBranch : Bool) : Parser (Option Tree) := do
  if ← isArrowless then return none
  unlessRefused do
    match ← optional? (arrowHead g async) with
    | none =>
      learnArrowless
      return none
    | some (shape, parameters) =>
      let arrow ← arrowBody g shape parameters inBranch
      if inBranch && !shape.returnType.isEmpty && !(← atMark ":") then return none
      return some arrow

/-- An arrow function, if one begins here. -/
def arrow? (g : Grammar) (inBranch : Bool) : Parser (Option Tree) := do
  let token ← peek
  let second := Token.following token
  if Token.isMark second "=>" && !second.afterBreak then
    if ← isNameToken token then
      let arrow ← bareArrow g false inBranch
      return some arrow
    return none
  let async := Token.isWord token "async"
  if async && second.kind == .word && !second.afterBreak then
    let third := Token.following second
    if !Token.isMark third "=>" || third.afterBreak then return none
    let _ ← advance
    let arrow ← bareArrow g true inBranch
    return some arrow
  match ← guessArrow async with
  | .absent => return none
  | .possible => possibleArrow? g async inBranch
  | .certain =>
    let (shape, parameters) ← arrowHead g async
    let arrow ← arrowBody g shape parameters false
    return some arrow

def yieldExpression (g : Grammar) : Parser Tree := do
  expectWord "yield"
  let token ← peek
  if token.afterBreak then return .yield false none
  if ← accept "*" then
    let value ← g.assignment
    return .yield true (some value)
  if token.kind == .finish ||
      token.kind == .mark && [")", "]", "\x7d", ",", ";", ":"].contains token.text ||
      Token.isWord token "in" then
    return .yield false none
  let value ← g.assignment
  return .yield false (some value)

/-- Whether `yield` is an operator here. Outside of generators it is a name, and nothing that can
be an operand may follow it on its line. -/
def atYield : Parser Bool := do
  let token ← peek
  if !Token.isWord token "yield" then return false
  if (← read).yield then return true
  require !(Token.isOperandOnLine (Token.following token))
  return false

/-- An expression without a comma. In a branch of a condition, a colon follows it. -/
def singleExpression (g : Grammar) (inBranch : Bool) : Parser Tree := do
  if ← atYield then yieldExpression g
  else
    match ← arrow? g inBranch with
    | some arrow => return arrow
    | none =>
      let left ← conditional g inBranch
      match ← operator? with
      | none => return left
      | some (operator, rest) =>
        if !assignmentOperators.contains operator then return left
        let target ← if operator == "=" then assignmentTarget left else simpleTarget left
        resume rest
        let value ← tailExpression g inBranch
        return .assign operator target value

def assignment (g : Grammar) : Parser Tree :=
  singleExpression g false

def branch (g : Grammar) : Parser Tree :=
  singleExpression g true

def expression (g : Grammar) : Parser Tree := do
  let items ← commaSeparated (assignment g)
  match items with
  | [only] => return only
  | items => return .sequence items

end PanelCompiler.Script.Parser
