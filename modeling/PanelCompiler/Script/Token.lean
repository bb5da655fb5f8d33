import PanelCompiler.Text.CategoryTable

namespace PanelCompiler.Script

def isLineBreak (c : Char) : Bool :=
  c == '\n' || c == '\r' || c == '\u2028' || c == '\u2029'

/-- Characters that separate tokens on one line. -/
def isSpacing (c : Char) : Bool :=
  let code := c.toNat
  c == ' ' || c == '\t' || code == 0x0b || code == 0x0c || code == 0x85 || code == 0xa0 ||
    code == 0x1680 || (0x2000 ≤ code && code ≤ 0x200b) || code == 0x202f || code == 0x205f ||
    code == 0x3000 || code == 0xfeff

def isDecimal (c : Char) : Bool :=
  '0' ≤ c && c ≤ '9'

def isLatinLetter (c : Char) : Bool :=
  ('a' ≤ c && c ≤ 'z') || ('A' ≤ c && c ≤ 'Z')

/-- Letters beyond the letter categories that may begin a name. -/
def extraNameStarts : Text.CodeRanges :=
  [(0x1885, 0x1886), (0x2118, 0x2118), (0x212e, 0x212e), (0x309b, 0x309c)]

/-- Characters beyond the letter, mark, digit and connector categories that may go on a name. -/
def extraNameParts : Text.CodeRanges :=
  [(0xb7, 0xb7), (0x387, 0x387), (0x1369, 0x1371), (0x19da, 0x19da), (0x200c, 0x200d),
    (0x30fb, 0x30fb), (0xff65, 0xff65)]

/-- A letter that is kept for marks of other notations. -/
def isNotationLetter (c : Char) : Bool :=
  c == '\u2e2f'

def isNameStart (c : Char) : Bool :=
  if c.toNat < 128 then isLatinLetter c || c == '$' || c == '_'
  else !isNotationLetter c && (Text.letterRanges.contains c || extraNameStarts.contains c)

def isNamePart (c : Char) : Bool :=
  if c.toNat < 128 then isLatinLetter c || isDecimal c || c == '$' || c == '_'
  else isNameStart c || Text.markRanges.contains c || Text.digitRanges.contains c ||
    Text.connectorRanges.contains c || extraNameParts.contains c

inductive TokenKind
  /-- A name or a reserved word. -/
  | word
  | privateName
  | number
  | string
  /-- The opening of a template. -/
  | template
  | mark
  /-- The end of the text. -/
  | finish
  /-- No token begins here. -/
  | invalid
  deriving DecidableEq

structure Token where
  kind : TokenKind
  /-- The characters of a mark or word, the source of a number, the value of a string. -/
  text : String
  /-- The source from the first character of the token on. -/
  start : List Char
  /-- The source behind the token. -/
  rest : List Char
  /-- A line break stands between this token and the one before. -/
  afterBreak : Bool
  /-- A word written with escapes. -/
  escaped : Bool

/-- Words that are no names. -/
def reservedWords : List String :=
  ["break", "case", "catch", "class", "const", "continue", "debugger", "default", "delete", "do",
    "else", "enum", "export", "extends", "false", "finally", "for", "function", "if", "import",
    "in", "instanceof", "new", "null", "return", "super", "switch", "this", "throw", "true", "try",
    "typeof", "var", "void", "while", "with"]

/-- Marks, every one before its own beginnings. A closing angle is always a mark of its own. -/
def marks : List String :=
  ["...", "===", "!==", "**=", "<<=", "&&=", "||=", "??=", "=>", "==", "!=", "<=", "&&", "||",
    "??", "?.", "++", "--", "+=", "-=", "*=", "/=", "%=", "&=", "|=", "^=", "<<", "**", "\x7b",
    "\x7d", "(", ")", "[", "]", ";", ",", "<", ">", "+", "-", "*", "/", "%", "&", "|", "^", "!",
    "~", "?", ":", "=", ".", "@"]

/-- The source between two places, both given as the text that follows them. -/
def sourceBetween (start stop : List Char) : String :=
  String.ofList (start.take (start.length - stop.length))

end PanelCompiler.Script
