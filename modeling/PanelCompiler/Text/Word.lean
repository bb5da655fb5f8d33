import PanelCompiler.Text.CategoryTable

namespace PanelCompiler.Text

def isAsciiLetter (c : Char) : Bool :=
  ('a' ≤ c && c ≤ 'z') || ('A' ≤ c && c ≤ 'Z')

def isAsciiDigit (c : Char) : Bool :=
  '0' ≤ c && c ≤ '9'

def isAsciiWord (c : Char) : Bool :=
  isAsciiLetter c || isAsciiDigit c || c == '_'

/-- Decimal digits of every script. -/
def isDigit (c : Char) : Bool :=
  if c.toNat < 128 then isAsciiDigit c else digitRanges.contains c

/-- Alphabetic characters, marks, decimal digits, connectors and the two joiners. -/
def isWord (c : Char) : Bool :=
  if c.toNat < 128 then isAsciiWord c
  else letterRanges.contains c || markRanges.contains c || enclosingRanges.contains c ||
    digitRanges.contains c || connectorRanges.contains c || framedLetterRanges.contains c ||
    c.toNat == 0x200c || c.toNat == 0x200d

/-- Whether a text begins inside a word. -/
def startsWithWord : List Char → Bool
  | [] => false
  | c :: _ => isWord c

/-- The rest of a text after an expected beginning. -/
def afterPrefix? : List Char → List Char → Option (List Char)
  | [], text => some text
  | _ :: _, [] => none
  | expected :: more, c :: rest => if expected == c then afterPrefix? more rest else none

end PanelCompiler.Text
