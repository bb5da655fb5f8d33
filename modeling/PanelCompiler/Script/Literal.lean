import PanelCompiler.Decimal.Layout
import PanelCompiler.Script.Lexer

namespace PanelCompiler.Script

/-- What is written for a character of a string, if not the character. -/
def escape? (c : Char) : Option String :=
  match c with
  | '\'' => some "\\'"
  | '\\' => some "\\\\"
  | '\n' => some "\\n"
  | '\r' => some "\\r"
  | '\x07' => some "\\x07"
  | '\x08' => some "\\b"
  | '\x0b' => some "\\v"
  | '\x0c' => some "\\f"
  | '\x1b' => some "\\x1B"
  | '\u00a0' => some "\\xA0"
  | '\u2028' => some "\\u2028"
  | '\u2029' => some "\\u2029"
  | _ => none

/-- Whether a text goes on like the closing tag of a script, in letters of any case. -/
def closesScript (text : List Char) : Bool :=
  (text.take 7).map Char.toLower == "/script".toList

/-- The characters of a string between its quotes. A null character is no octal escape, and no
closing tag is left as it stands. -/
def escaped : List Char → List Char
  | [] => []
  | c :: rest =>
    if c == '\x00' then
      (if rest.head?.any isDecimal then "\\x00" else "\\0").toList ++ escaped rest
    else if c == '<' && closesScript rest then '<' :: '\\' :: escaped rest
    else match escape? c with
      | some text => text.toList ++ escaped rest
      | none => c :: escaped rest

def stringText (value : String) : String :=
  "'" ++ String.ofList (escaped value.toList) ++ "'"

/-- The value of an attribute, in double quotes where it can stand in them. -/
def attributeText (value : String) : String :=
  if value.toList.contains '"' then "'" ++ value ++ "'" else "\"" ++ value ++ "\""

/-- The first quote of a text that no backslash stands before. -/
def firstQuote? : List Char → Option Char
  | [] => none
  | '\\' :: rest => firstQuote? (rest.drop 1)
  | c :: rest => if c == '"' || c == '\'' then some c else firstQuote? rest
termination_by text => text.length

/-- A directive keeps its text; its quotes are single, unless the first quote in it is. -/
def directiveText (source : String) : String :=
  if firstQuote? source.toList == some '\'' then "\"" ++ source ++ "\"" else "'" ++ source ++ "'"

/-- A template holds no closing tag of a script, and its line breaks are line feeds. -/
def templateText : List Char → List Char
  | [] => []
  | '\r' :: '\n' :: rest => '\n' :: templateText rest
  | '\r' :: rest => '\n' :: templateText rest
  | '<' :: rest =>
    if closesScript rest then '<' :: '\\' :: templateText rest else '<' :: templateText rest
  | c :: rest => c :: templateText rest

/-- The number written by digits of a radix. -/
def radixNumber (radix : Nat) (digits : List Char) : Nat :=
  digits.foldl (fun value c => value * radix + (hexDigit c)) 0
where
  hexDigit (c : Char) : Nat := (Lexer.hexValue? c).getD 0

/-- A whole number, where the source of a number is one without an exponent. -/
def wholeNumber? (source : List Char) : Option Nat :=
  match source with
  | '0' :: letter :: digits =>
    if letter == 'x' || letter == 'X' then some (radixNumber 16 digits)
    else if letter == 'o' || letter == 'O' then some (radixNumber 8 digits)
    else if letter == 'b' || letter == 'B' then some (radixNumber 2 digits)
    else if (letter :: digits).all fun c => '0' ≤ c && c ≤ '7' then
      some (radixNumber 8 (letter :: digits))
    else if (letter :: digits).all isDecimal then some (radixNumber 10 (letter :: digits))
    else none
  | digits => if digits.all isDecimal then some (radixNumber 10 digits) else none

/-- The value of an exponent with its sign. -/
def exponentValue (source : List Char) : Int :=
  match source with
  | '-' :: digits => -(radixNumber 10 digits : Int)
  | '+' :: digits => radixNumber 10 digits
  | digits => radixNumber 10 digits

/-- The number nearest to a decimal. -/
def nearestNumber (digits : Nat) (exponent : Int) : Float :=
  Float.ofScientific digits (exponent < 0) exponent.natAbs

/-- The value of the source of a number, which holds no underscores. -/
def numberValue (source : List Char) : Float :=
  match wholeNumber? source with
  | some n => nearestNumber n 0
  | none =>
    let (mantissa, exponent) := source.span fun c => c != 'e' && c != 'E'
    let (whole, fraction) := mantissa.span (· != '.')
    let places := fraction.drop 1
    nearestNumber (radixNumber 10 (whole ++ places))
      (exponentValue (exponent.drop 1) - places.length)

/-- A sign before an exponent, only where it is negative. -/
def exponentText (exponent : Int) : List Char :=
  'e' :: (if exponent < 0 then ['-'] else []) ++ Decimal.digitChars exponent.natAbs

/-- Digits with a point, or with an exponent when the first digit is far from the point. -/
def pointText (digits : List Char) (leading : Int) : List Char :=
  if -6 ≤ leading && leading < 0 then '.' :: Decimal.zeros (leading.natAbs - 1) ++ digits
  else if 0 ≤ leading && leading ≤ 20 then
    let whole := leading.natAbs + 1
    if digits.length ≤ whole then digits ++ Decimal.zeros (whole - digits.length)
    else digits.take whole ++ '.' :: digits.drop whole
  else
    let mantissa := match digits with
      | first :: second :: rest => first :: '.' :: second :: rest
      | short => short
    mantissa ++ exponentText leading

/-- A whole mantissa with an exponent. -/
def mantissaText (digits : List Char) (leading : Int) : List Char :=
  digits ++ exponentText (leading + 1 - digits.length)

def hexText (n : Nat) : List Char :=
  '0' :: 'x' :: Nat.toDigits 16 n

/-- The whole number that a finite number is, if it is one. -/
def wholeValue? (x : Decimal.Binary) : Option Nat :=
  let (num, den) := Decimal.powerOfTwoRatio x.significand x.exponent
  if num % den == 0 then some (num / den) else none

/-- A positive number in the shortest of its spellings; one with a point goes before the others,
and a hexadecimal one before a whole mantissa. -/
def finiteText (x : Decimal.Binary) : List Char :=
  let found := Decimal.shortest x
  let leading := found.exponent + Decimal.digitCount found.digits - 1
  let digits := Decimal.significantChars found.digits
  let plain := pointText digits leading
  let mantissa := mantissaText digits leading
  let shorter := if mantissa.length < plain.length then mantissa else plain
  match (wholeValue? x).map hexText with
  | some hex => if hex.length < plain.length then hex else shorter
  | none => shorter

/-- The source of a number, written anew. A big integer is written in decimal. -/
def numberText (source : String) : String :=
  let chars := source.toList.filter (· != '_')
  match chars.reverse with
  | 'n' :: reversed =>
    String.ofList (Decimal.digitChars ((wholeNumber? reversed.reverse).getD 0) ++ ['n'])
  | _ =>
    match Decimal.Parts.ofFloat (numberValue chars) with
    | .finite x => if x.significand == 0 then "0" else String.ofList (finiteText x)
    | .infinite _ => "Infinity"
    | .undefined => "NaN"

end PanelCompiler.Script
