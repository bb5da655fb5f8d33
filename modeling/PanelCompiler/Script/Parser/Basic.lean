import PanelCompiler.Script.Lexer
import PanelCompiler.Script.Tree

/-!
The machinery of the script parser: a cursor over the tokens, parsers that may fail, and the
grammar as a record of its nonterminals. Each nonterminal is written against the grammar of one
nesting level less, so no definition calls itself.
-/

namespace PanelCompiler.Script

/-- The place of the parser in its text. -/
structure Cursor where
  /-- The source behind the last token taken. -/
  behind : List Char
  /-- The next token. -/
  next : Token
  /-- Initializers in object literals that only a pattern may have. -/
  initializers : Nat
  /-- Places where no arrow function begins, each as the length of the source from there on. What
  is known of the text stays known when the parser goes back. -/
  arrowless : List Nat

/-- What the surroundings allow. -/
structure Mode where
  await : Bool
  yield : Bool
  /-- `in` is an operator here. -/
  inOperator : Bool
  /-- `return` may stand here. -/
  answer : Bool
  /-- Nothing declared here needs a value. -/
  ambient : Bool
  /-- A bracket here begins what a decorator stands before. -/
  decorator : Bool
  /-- A type here is the bound of a condition and has no condition of its own. -/
  bound : Bool
  /-- More steps than any loop takes. -/
  steps : Nat

abbrev Parser (α : Type) := ReaderT Mode (OptionT (StateM Cursor)) α

/-- What the form of a type tells about the places where it may stand. -/
inductive TypeForm
  | array
  | tuple
  /-- A type with a question mark behind it. -/
  | optional
  | other
  deriving DecidableEq

/-- The nonterminals that stand inside one another. -/
structure Grammar where
  expression : Parser Tree
  assignment : Parser Tree
  /-- An assignment in front of a colon that is not its own. -/
  branch : Parser Tree
  unary : Parser Tree
  leftHandSide : Parser Tree
  construct : Parser Tree
  pattern : Parser Tree
  type : Parser TypeForm
  operatorType : Parser TypeForm
  primaryType : Parser TypeForm
  element : Parser Tree
  statement : Parser Tree
  /-- A statement that stands alone behind a condition, loop or label. -/
  substatement : Parser Tree

namespace Parser

def fail {α : Type} : Parser α :=
  fun _ cursor => (none, cursor)

def peek : Parser Token :=
  fun _ cursor => (some cursor.next, cursor)

/-- The source behind the last token taken. -/
def behind : Parser (List Char) :=
  fun _ cursor => (some cursor.behind, cursor)

/-- Go on at a place in the source. -/
def resume (rest : List Char) : Parser Unit :=
  fun _ cursor => (some (), { cursor with behind := rest, next := Lexer.nextToken rest })

/-- Take the next token. -/
def advance : Parser Token := do
  let token ← peek
  resume token.rest
  return token

/-- The same place with all that has been learned about the text since. -/
def Cursor.learned (cursor later : Cursor) : Cursor :=
  { cursor with arrowless := later.arrowless }

/-- Run a parser and come back to the same place. -/
def lookahead {α : Type} (parser : Parser α) : Parser α :=
  fun mode cursor =>
    let (value, later) := parser mode cursor
    (value, Cursor.learned cursor later)

/-- Run a parser that may turn down what it has read, and then come back to the same place. -/
def unlessRefused {α : Type} (parser : Parser (Option α)) : Parser (Option α) :=
  fun mode cursor =>
    match parser mode cursor with
    | (some none, later) => (some none, Cursor.learned cursor later)
    | result => result

/-- A parser's value, or nothing taken and no value. -/
def optional? {α : Type} (parser : Parser α) : Parser (Option α) :=
  fun mode cursor =>
    match parser mode cursor with
    | (some value, later) => (some (some value), later)
    | (none, later) => (some none, Cursor.learned cursor later)

def require (condition : Bool) : Parser Unit :=
  if condition then pure () else fail

def Token.isMark (token : Token) (mark : String) : Bool :=
  token.kind == .mark && token.text == mark

def Token.isWord (token : Token) (word : String) : Bool :=
  token.kind == .word && token.text == word && !token.escaped

/-- The token after this one. -/
def Token.following (token : Token) : Token :=
  Lexer.nextToken token.rest

def atMark (mark : String) : Parser Bool := do
  return Token.isMark (← peek) mark

def atWord (word : String) : Parser Bool := do
  return Token.isWord (← peek) word

/-- Take a mark if it is next. -/
def accept (mark : String) : Parser Bool := do
  if ← atMark mark then
    let _ ← advance
    return true
  return false

/-- Take a word if it is next. -/
def acceptWord (word : String) : Parser Bool := do
  if ← atWord word then
    let _ ← advance
    return true
  return false

/-- Take a mark if it is next, and give it or the empty text. -/
def acceptText (mark : String) : Parser String := do
  return if ← accept mark then mark else ""

def expect (mark : String) : Parser Unit := do
  require (← accept mark)

def expectWord (word : String) : Parser Unit := do
  require (← acceptWord word)

/-- What stands behind a mark, if the mark is next. -/
def optionalAfter {α : Type} (mark : String) (parser : Parser α) : Parser (Option α) := do
  if ← accept mark then
    let value ← parser
    return some value
  return none

/-- What stands behind a word, if the word is next. -/
def optionalAfterWord {α : Type} (word : String) (parser : Parser α) : Parser (Option α) := do
  if ← acceptWord word then
    let value ← parser
    return some value
  return none

/-- The token after the next one. -/
def peekSecond : Parser Token := do
  return Token.following (← peek)

/-- Whether a statement may end before this token without a semicolon. -/
def Token.endsStatement (token : Token) : Bool :=
  token.afterBreak || Token.isMark token "\x7d" || token.kind == .finish

/-- A semicolon, which may be left out at the end of a line, block or text. -/
def endStatement : Parser Unit := do
  let token ← peek
  if Token.isMark token ";" then
    let _ ← advance
  else require (Token.endsStatement token)

/-- Take steps as long as there are any. -/
def repeatWhile {α : Type} (step : α → Parser (Option α)) : Nat → α → Parser α
  | 0, _ => fail
  | fuel + 1, value => do
    match ← step value with
    | none => return value
    | some value => repeatWhile step fuel value

def iterate {α : Type} (start : α) (step : α → Parser (Option α)) : Parser α := do
  repeatWhile step (← read).steps start

/-- Items up to a closing mark, with a comma between them; and whether one stands after the
last. -/
def commaListEnd {α : Type} (close : String) (item : Parser α) : Parser (List α × Bool) := do
  let (reversed, trailing) ← iterate ([], false) fun (items, _) => do
    if ← atMark close then return none
    let value ← item
    if ← atMark close then return some (value :: items, false)
    expect ","
    return some (value :: items, true)
  expect close
  return (reversed.reverse, trailing)

/-- Items up to a closing mark, with a comma between them and perhaps after the last. -/
def commaList {α : Type} (close : String) (item : Parser α) : Parser (List α) := do
  return (← commaListEnd close item).1

/-- Items with a comma between them, at least one. -/
def commaSeparated {α : Type} (item : Parser α) : Parser (List α) := do
  let first ← item
  let reversed ← iterate [first] fun items => do
    if ← accept "," then
      let value ← item
      return some (value :: items)
    return none
  return reversed.reverse

/-- The source that a parser takes, without the blanks around it. -/
def sourceOf {α : Type} (parser : Parser α) : Parser String := do
  let start := (← peek).start
  let _ ← parser
  return sourceBetween start (← behind)

/-- Run a parser in other surroundings. -/
def under {α : Type} (change : Mode → Mode) (parser : Parser α) : Parser α :=
  fun mode cursor => parser (change mode) cursor

/-- The surroundings inside brackets. -/
def Mode.bracketed (mode : Mode) : Mode :=
  { mode with inOperator := true, decorator := false }

/-- Run a parser inside brackets. -/
def bracketed {α : Type} (parser : Parser α) : Parser α :=
  under Mode.bracketed parser

/-- The surroundings of the parameters and the body of a function. -/
def Mode.inFunction (mode : Mode) (async generator : Bool) : Mode :=
  { mode with await := async, yield := generator, inOperator := true, decorator := false }

/-- Words that may be names here. -/
def Mode.allowsName (mode : Mode) (word : String) : Bool :=
  !reservedWords.contains word && !(mode.await && word == "await") &&
    !(mode.yield && word == "yield")

/-- Whether the token is a name that can be bound or referred to here. -/
def isNameToken (token : Token) : Parser Bool := do
  return token.kind == .word && Mode.allowsName (← read) token.text

/-- A name that can be bound or referred to. -/
def nameToken : Parser String := do
  require (← isNameToken (← peek))
  return (← advance).text

/-- How a string is written between its quotes. -/
def stringSource (token : Token) : String :=
  String.ofList ((sourceBetween token.start token.rest).toList.drop 1).dropLast

/-- Any word, reserved or not. -/
def anyWord : Parser String := do
  let token ← advance
  require (token.kind == .word)
  return token.text

/-- Whether a name, a key or a value written as it is begins on the line of the word before. -/
def Token.isOperandOnLine (token : Token) : Bool :=
  !token.afterBreak && (token.kind == .word || token.kind == .privateName ||
    token.kind == .number || token.kind == .string)

/-- An opening angle, which may be the first character of a longer mark. -/
def acceptAngle : Parser Bool := do
  let token ← peek
  if token.kind == .mark && token.text.startsWith "<" then
    resume (token.start.drop 1)
    return true
  return false

end Parser

end PanelCompiler.Script
