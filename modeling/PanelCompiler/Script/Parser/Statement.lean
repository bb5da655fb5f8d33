import PanelCompiler.Script.Literal
import PanelCompiler.Script.Parser.Expression

namespace PanelCompiler.Script.Parser

def block (g : Grammar) : Parser Tree := do
  expect "\x7b"
  let statements ← statementsUntilBrace g
  return .block statements

/-- Whether a target takes something apart. -/
def isPattern : Tree → Bool
  | .array _ => true
  | .object _ => true
  | _ => false

/-- How variables are declared. -/
inductive VariableKind
  | var
  | let
  | const
  /-- Constants that are cleaned up at the end of their block. -/
  | using
  | awaitUsing
  deriving DecidableEq

def VariableKind.keyword : VariableKind → String
  | .var => "var"
  | .let => "let"
  | .const => "const"
  | .using => "using"
  | .awaitUsing => "await using"

namespace VariableKind

def needsValue (kind : VariableKind) : Bool :=
  kind == .const || kind.keyword.endsWith "using"

def needsName (kind : VariableKind) : Bool :=
  kind.keyword.endsWith "using"

end VariableKind

/-- Whether a token is a name on the line of the word before it. -/
def isNameOnLine (token : Token) : Parser Bool := do
  return !token.afterBreak && (← isNameToken token)

/-- Whether `using` with a name begins with this token; in the head of a loop, the name is not
`of`. -/
def beginsUsing (token : Token) (inHead : Bool) : Parser Bool := do
  let second := Token.following token
  return Token.isWord token "using" && (← isNameOnLine second) &&
    !(inHead && Token.isWord second "of")

/-- What the next words declare, where they declare variables; a `let` always does here. -/
def variableKind? (inHead : Bool) : Parser (Option VariableKind) := do
  let token ← peek
  let second := Token.following token
  if Token.isWord token "var" then return some .var
  if Token.isWord token "let" then return some .let
  if Token.isWord token "const" then return some .const
  if ← beginsUsing token inHead then return some .using
  if Token.isWord token "await" && (← read).await && !second.afterBreak &&
      (← beginsUsing second inHead) then
    return some .awaitUsing
  return none

/-- A variable with its type and value. A constant and a pattern need a value, except in the head
of a loop over items; a variable that is said to have one has a type and none. -/
def declarator (g : Grammar) (kind : VariableKind) (inHead : Bool) : Parser Tree := do
  let target ← g.pattern
  require !(kind.needsName && isPattern target)
  let token ← peek
  let definite ← if isPattern target || token.afterBreak then pure "" else acceptText "!"
  let type ← typeAscription g
  let value ← optionalAfter "=" g.assignment
  require (definite.isEmpty || !type.isEmpty && value.isNone)
  if value.isNone && (kind.needsValue || isPattern target) then
    require ((← read).ambient || inHead && ((← atWord "of") || (← atWord "in")))
  return .declarator target (definite ++ type) value

/-- The words that declare variables, and the variables. -/
def variableDeclaration (g : Grammar) (kind : VariableKind) (inHead : Bool) : Parser Tree := do
  let _ ← advance
  if kind == .awaitUsing then
    let _ ← advance
  let items ← under (fun mode => { mode with inOperator := !inHead })
    (commaSeparated (declarator g kind inHead))
  return .variables kind.keyword items

def variableStatement (g : Grammar) (kind : VariableKind) : Parser Tree := do
  let statement ← variableDeclaration g kind false
  endStatement
  return statement

/-- An expression in parentheses behind a keyword. -/
def subject (g : Grammar) : Parser Tree := do
  expect "("
  let value ← bracketed g.expression
  expect ")"
  return value

def ifStatement (g : Grammar) : Parser Tree := do
  let _ ← advance
  let test ← subject g
  let yes ← g.substatement
  let no ← optionalAfterWord "else" g.substatement
  return .branch test yes no

def whileStatement (g : Grammar) : Parser Tree := do
  let _ ← advance
  let test ← subject g
  let body ← g.substatement
  return .loop (.whileHead test) body

def withStatement (g : Grammar) : Parser Tree := do
  let _ ← advance
  let value ← subject g
  let body ← g.substatement
  return .loop (.withHead value) body

def doStatement (g : Grammar) : Parser Tree := do
  let _ ← advance
  let body ← g.substatement
  expectWord "while"
  let test ← subject g
  let _ ← accept ";"
  return .doWhile body test

/-- What a loop runs over, behind its target. -/
def forEachHead (g : Grammar) (await : Bool) (target : Tree) : Parser Tree := do
  if ← acceptWord "of" then
    let source ← bracketed g.assignment
    return .forEachHead await target "of" source
  require !await
  expectWord "in"
  let source ← bracketed g.expression
  return .forEachHead await target "in" source

/-- The test and the update of a counting loop. -/
def forHead (g : Grammar) (await : Bool) (start : Option Tree) : Parser Tree := do
  require !await
  expect ";"
  let test ← if ← atMark ";" then pure none else some <$> bracketed g.expression
  expect ";"
  let update ← if ← atMark ")" then pure none else some <$> bracketed g.expression
  return .forHead start test update

/-- Whether a loop runs over items from here on. -/
def atEach : Parser Bool := do
  return (← atWord "of") || (← atWord "in")

/-- Whether `let` declares a variable in the head of a loop. -/
def declaresInHead (second : Token) : Bool :=
  Token.isMark second "[" || Token.isMark second "\x7b" ||
    second.kind == .word && !Token.isWord second "in"

/-- A loop that begins with an expression. Where it runs over items, `let` and `async` cannot begin
their target. -/
def forExpression (g : Grammar) (await : Bool) : Parser Tree := do
  let token ← peek
  let second := Token.following token
  let value ← under (fun mode => { mode with inOperator := false }) g.expression
  if ← atEach then
    require !((← atWord "of") && (Token.isWord token "let" ||
      Token.isWord token "async" && Token.isWord second "of" && !await))
    let target ← assignmentTarget value
    forEachHead g await target
  else forHead g await (some value)

def forStart (g : Grammar) (await : Bool) : Parser Tree := do
  let token ← peek
  if Token.isMark token ";" then forHead g await none
  else
    let expression := Token.isWord token "let" && !declaresInHead (Token.following token)
    match ← variableKind? true with
    | some kind =>
      if expression then forExpression g await
      else
        let start ← variableDeclaration g kind true
        if ← atEach then
          require !(kind.needsName && (← atWord "in"))
          forEachHead g await start
        else forHead g await (some start)
    | none => forExpression g await

def forStatement (g : Grammar) : Parser Tree := do
  let _ ← advance
  let await ← acceptWord "await"
  require (!await || (← read).await)
  expect "("
  let head ← forStart g await
  expect ")"
  let body ← g.substatement
  return .loop head body

/-- `break` and `continue`, whose label stands on their line. -/
def jumpStatement : Parser Tree := do
  let keyword ← advance
  let token ← peek
  let label ← if !token.afterBreak && (← isNameToken token) then nameToken else pure ""
  endStatement
  return .jump keyword.text label

def returnStatement (g : Grammar) : Parser Tree := do
  require (← read).answer
  let _ ← advance
  let token ← peek
  let value ← if token.afterBreak || token.kind == .finish || Token.isMark token ";" ||
      Token.isMark token "\x7d" then pure none
    else some <$> bracketed g.expression
  endStatement
  return .answer "return" value

def throwStatement (g : Grammar) : Parser Tree := do
  let _ ← advance
  require !(← peek).afterBreak
  let value ← bracketed g.expression
  endStatement
  return .answer "throw" (some value)

/-- Statements of one case. -/
def caseBody (g : Grammar) : Parser (List Tree) := do
  let reversed ← iterate [] fun statements => do
    if (← atMark "\x7d") || (← atWord "case") || (← atWord "default") then return none
    let statement ← g.statement
    return some (statement :: statements)
  return reversed.reverse

def switchStatement (g : Grammar) : Parser Tree := do
  let _ ← advance
  let value ← subject g
  expect "\x7b"
  let reversed ← iterate [] fun cases => do
    if ← atMark "\x7d" then return none
    let test ← if ← acceptWord "default" then pure none
      else do
        expectWord "case"
        some <$> bracketed g.expression
    expect ":"
    let body ← caseBody g
    return some (.switchCase test body :: cases)
  expect "\x7d"
  return .switch value reversed.reverse

def catchParameter (g : Grammar) : Parser (Option Tree) := do
  if ← accept "(" then
    let target ← g.pattern
    let type ← typeAscription g
    expect ")"
    if type.isEmpty then return some target
    return some (.binding target type none)
  return none

/-- `try`, with a handler or a cleanup or both. -/
def tryStatement (g : Grammar) : Parser Tree := do
  let _ ← advance
  let body ← block g
  let handled ← acceptWord "catch"
  let parameter ← if handled then catchParameter g else pure none
  let handler ← if handled then some <$> block g else pure none
  let cleanup ← optionalAfterWord "finally" (block g)
  require (handler.isSome || cleanup.isSome)
  return .attempt body parameter handler cleanup

def labelledStatement (g : Grammar) : Parser Tree := do
  let label ← nameToken
  expect ":"
  let body ← g.substatement
  return .labelled label body

def expressionStatement (g : Grammar) : Parser Tree := do
  let value ← bracketed g.expression
  endStatement
  return .expression value

def interfaceDeclaration (g : Grammar) : Parser Tree := do
  let _ ← advance
  let start := (← peek).start
  let _ ← nameToken
  skipTypeParameters g
  if ← acceptWord "extends" then
    let _ ← commaSeparated (typeReference g)
  let name := sourceBetween start (← behind)
  let members ← sourceOf (objectType g)
  return .interface name members

def typeAlias (g : Grammar) : Parser Tree := do
  let text ← sourceOf (do
    let _ ← advance
    let _ ← nameToken
    skipTypeParameters g
    expect "="
    g.type)
  endStatement
  return .declaration (text ++ ";")

/-- A name in brackets: a string or a template, without substitutions. -/
def bracketedName : Parser Unit := do
  expect "["
  let token ← advance
  if token.kind == .template then
    match Lexer.scanTemplate (token.rest.length + 1) [] true token.rest with
    | some chunk =>
      require !chunk.substitution
      resume chunk.rest
    | none => fail
  else require (token.kind == .string)
  expect "]"

def enumMember (g : Grammar) : Parser Unit := do
  if ← atMark "[" then bracketedName
  else
    let token ← advance
    require (token.kind == .word || token.kind == .string)
  if ← accept "=" then
    let _ ← g.assignment

def enumDeclaration (g : Grammar) : Parser Tree := do
  let text ← sourceOf (do
    let _ ← acceptWord "const"
    expectWord "enum"
    let _ ← nameToken
    expect "\x7b"
    commaSkip "\x7d" (bracketed (enumMember g)))
  return .declaration text

/-- Declarations under one name, or what is known of a module or of all of them. -/
def namespaceDeclaration (g : Grammar) : Parser Tree := do
  let text ← sourceOf (do
    let word ← advance
    if (← peek).kind == .string then
      require (word.text == "module")
      let _ ← advance
    else if word.text != "global" then dottedName
    if ← accept "\x7b" then
      let _ ← statementsUntilBrace g
    else endStatement)
  return .declaration text

/-- Whether a declaration that types have need of begins here: modifiers on one line, and what they
modify. -/
def atTypedDeclaration : Parser Bool :=
  lookahead do
    iterate () fun _ => do
      let token ← peek
      let second := Token.following token
      if Token.isModifierWord token && second.kind == .word &&
          (token.text == "static" || !second.afterBreak) then
        let _ ← advance
        return some ()
      return none
    let token ← peek
    if token.kind != .word || token.escaped then return false
    let second := Token.following token
    match token.text with
    | "interface" | "type" => isNameOnLine second
    | "namespace" | "module" =>
      return !second.afterBreak && second.kind == .string || (← isNameOnLine second)
    | "global" => return Token.isMark second "\x7b" || (← isNameToken second)
    | "class" | "function" | "enum" | "var" | "let" | "const" => return true
    | _ => return false

/-- The modifiers that something declared may have. -/
def declarationModifiers (word : String) : List String :=
  if word == "class" then ["declare", "abstract"] else ["declare"]

/-- A function of which only its type is known. -/
def functionType? : Tree → Bool
  | .function shape _ _ => !shape.complete
  | _ => false

/-- What stands behind modifiers. -/
def modifiedDeclaration (g : Grammar) (token : Token) (declared : Bool) : Parser Tree := do
  match token.text with
  | "interface" => interfaceDeclaration g
  | "type" => typeAlias g
  | "namespace" | "module" | "global" => namespaceDeclaration g
  | "class" => classLike g
  | "enum" => enumDeclaration g
  | "function" =>
    let value ← functionDeclaration g false true
    require (!declared || functionType? value)
    return value
  | "const" =>
    if Token.isWord (Token.following token) "enum" then enumDeclaration g
    else variableStatement g .const
  | "let" => variableStatement g .let
  | _ => variableStatement g .var

/-- A declaration with its modifiers. What is only declared is kept as it is written. -/
def typedDeclaration (g : Grammar) : Parser Tree := do
  let start := (← peek).start
  let modifiers ← takeModifiers
  let token ← peek
  require (areModifiersOf (declarationModifiers token.text) modifiers)
  let declared := modifiers.contains "declare"
  let value ← under (fun mode => { mode with ambient := mode.ambient || declared })
    (modifiedDeclaration g token declared)
  if declared then return .declaration (sourceBetween start (← behind))
  if modifiers.isEmpty then return value
  return .modified (modifiersText modifiers) value

/-- A name in a list of imports or exports, with the name it takes. -/
def moduleName : Parser Tree := do
  let word (token : Token) : Parser String := do
    let _ ← advance
    require (token.kind == .word || token.kind == .string)
    return if token.kind == .string then stringText token.text else token.text
  let token ← peek
  let second ← peekSecond
  let typeOnly := Token.isWord token "type" && second.kind == .word && !Token.isWord second "as"
  if typeOnly then
    let _ ← advance
  let plain ← word (← peek)
  let name := if typeOnly then "type " ++ plain else plain
  if ← acceptWord "as" then
    let renamed ← word (← peek)
    if renamed != plain then return .alias name renamed
  return .alias name name

def moduleSource : Parser String := do
  let token ← advance
  require (token.kind == .string)
  return token.text

/-- Everything bound under one name. -/
def namespaceImport : Parser String := do
  expect "*"
  expectWord "as"
  let name ← nameToken
  return "* as " ++ name

def importDeclaration : Parser Tree := do
  let _ ← advance
  if (← peek).kind == .string then
    let source ← moduleSource
    endStatement
    return .importModule "import" [] [] source
  let second ← peekSecond
  let typeOnly := (← atWord "type") && !Token.isWord second "from" && !Token.isMark second ","
  if typeOnly then
    let _ ← advance
  let first ← if ← isNameToken (← peek) then List.singleton <$> nameToken else pure []
  let more ← if first.isEmpty then pure true else accept ","
  let (bindings, names) ← if !more then pure (first, [])
    else if ← atMark "*" then
      let space ← namespaceImport
      pure (first ++ [space], [])
    else do
      expect "\x7b"
      let names ← commaList "\x7d" moduleName
      pure (if first.isEmpty && names.isEmpty then ["\x7b\x7d"] else first, names)
  expectWord "from"
  let source ← moduleSource
  endStatement
  return .importModule (if typeOnly then "import type" else "import") bindings names source

/-- Declarations that can be exported under their own names. -/
def isNamedDeclaration : Tree → Bool
  | .variables .. => true
  | .function .. => true
  | .classLike .. => true
  | .modified .. => true
  | .declaration _ => true
  | .interface .. => true
  | _ => false

/-- Whether a function begins with this token, with `async` before it or not. -/
def beginsAsyncFunction (token : Token) : Bool :=
  let second := Token.following token
  Token.isWord token "async" && Token.isWord second "function" && !second.afterBreak

def exportDefault (g : Grammar) : Parser Tree := do
  let _ ← decorators g
  let token ← peek
  let second := Token.following token
  if Token.isWord token "function" then
    let value ← functionDeclaration g false false
    return .exportDefault value
  else if beginsAsyncFunction token then
    let _ ← advance
    let value ← functionDeclaration g true false
    return .exportDefault value
  else if Token.isWord token "class" then
    let value ← classLike g
    return .exportDefault value
  else if Token.isWord token "abstract" && Token.isWord second "class" && !second.afterBreak then
    let value ← typedDeclaration g
    return .exportDefault value
  else if Token.isWord token "interface" && (← isNameOnLine second) then
    let value ← interfaceDeclaration g
    return .exportDefault value
  else
    let value ← bracketed g.assignment
    endStatement
    return .exportDefault (.expression value)

/-- Names that are exported, of this module or another one. -/
def exportNames (keyword : String) : Parser Tree := do
  expect "\x7b"
  let names ← commaList "\x7d" moduleName
  let source ← optionalAfterWord "from" moduleSource
  endStatement
  return .exportNames keyword names source

/-- Everything that another module exports, behind the star. -/
def exportAll (keyword : String) : Parser Tree := do
  let name ← if ← acceptWord "as" then
      let name ← anyWord
      pure ("* as " ++ name)
    else pure "*"
  expectWord "from"
  let source ← moduleSource
  endStatement
  return .exportNames keyword [.name name] (some source)

def exportDeclaration (g : Grammar) : Parser Tree := do
  let _ ← advance
  if ← acceptWord "default" then exportDefault g
  else if ← accept "*" then exportAll "export"
  else if ← atMark "\x7b" then exportNames "export"
  else
    let second ← peekSecond
    if (← atWord "type") && Token.isMark second "\x7b" then
      let _ ← advance
      exportNames "export type"
    else if (← atWord "type") && Token.isMark second "*" then
      let _ ← advance
      let _ ← advance
      exportAll "export type"
    else
      let value ← g.statement
      require (isNamedDeclaration value)
      return .exportDeclaration value

/-- Decorators with the class that they stand before, or its export. -/
def decorated (g : Grammar) : Parser Tree := do
  let _ ← decorators g
  if ← atWord "export" then exportDeclaration g
  else
    let value ← g.statement
    match value with
    | .classLike .. => return value
    | .modified _ (.classLike ..) => return value
    | .declaration _ => return value
    | _ => fail

/-- `let` begins a declaration, unless what follows shows that it is a name; a statement that
stands alone declares nothing. -/
def letStatement (g : Grammar) (alone : Bool) : Parser Tree := do
  let second ← peekSecond
  let isOperator := second.kind == .mark &&
      (assignmentOperators.contains second.text || operatorLevels.any (·.contains second.text) ||
        second.text == "**" || second.text == "." || second.text == "(") ||
    operatorLevels.any fun level => level.any (Token.isWord second)
  if isOperator || Token.isMark second ";" || alone && !Token.isMark second "[" then
    expressionStatement g
  else
    require !alone
    variableStatement g .let

/-- Statements that begin with a reserved word, or with a word that acts like one. -/
def keywordStatement? (g : Grammar) (alone : Bool) (token second : Token) :
    Option (Parser Tree) :=
  match token.text with
  | "if" => some (ifStatement g)
  | "for" => some (forStatement g)
  | "while" => some (whileStatement g)
  | "with" => some (withStatement g)
  | "do" => some (doStatement g)
  | "break" | "continue" => some jumpStatement
  | "return" => some (returnStatement g)
  | "throw" => some (throwStatement g)
  | "switch" => some (switchStatement g)
  | "try" => some (tryStatement g)
  | "debugger" => some (do
      let _ ← advance
      endStatement
      return .jump "debugger" "")
  | "function" => some (do
      require !(alone && Token.isMark second "*")
      functionDeclaration g false true)
  | "class" => some (do
      require !alone
      classLike g)
  | "enum" => some (enumDeclaration g)
  | "import" =>
    if Token.isMark second "(" || Token.isMark second "." then none else some importDeclaration
  | "export" => some (exportDeclaration g)
  | "const" => some (do
      if Token.isWord second "enum" then enumDeclaration g
      else
        require !alone
        variableStatement g .const)
  | "var" => some (variableStatement g .var)
  | "let" => some (letStatement g alone)
  | _ =>
    if beginsAsyncFunction token then some (do
      require !alone
      let _ ← advance
      functionDeclaration g true true)
    else none

def wordStatement (g : Grammar) (alone : Bool) (token : Token) : Parser Tree := do
  let second := Token.following token
  match keywordStatement? g alone token second with
  | some statement => statement
  | none =>
    if Token.isMark second ":" && (← isNameToken token) then labelledStatement g
    else
      match ← variableKind? false with
      | some kind =>
        require !alone
        variableStatement g kind
      | none => if ← atTypedDeclaration then typedDeclaration g else expressionStatement g

/-- A statement; one that stands alone declares nothing but what has no block of its own. -/
def anyStatement (g : Grammar) (alone : Bool) : Parser Tree := do
  let token ← peek
  if token.kind == .mark then
    match token.text with
    | "\x7b" => block g
    | ";" =>
      let _ ← advance
      return .empty
    | "@" => decorated g
    | _ => expressionStatement g
  else if token.kind == .word && !token.escaped then wordStatement g alone token
  else expressionStatement g

def statement (g : Grammar) : Parser Tree :=
  anyStatement g false

def substatement (g : Grammar) : Parser Tree :=
  anyStatement g true

end PanelCompiler.Script.Parser
