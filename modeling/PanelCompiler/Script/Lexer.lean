import PanelCompiler.Script.Token
import PanelCompiler.Text.Word

/-!
Splitting script text into tokens, one at a time. Regular expressions, templates and markup depend
on what the parser expects, so each has a scanner of its own.
-/

namespace PanelCompiler.Script.Lexer

inductive Trivia
  | space
  | lineComment
  /-- A comment that the next slash may close. -/
  | blockComment (closing : Bool)

/-- Text after the blanks and comments at its start, and whether they hold a line break; nothing
when a comment is not closed. -/
def skipTrivia : Trivia → Bool → List Char → Option (List Char × Bool)
  | .space, sawBreak, [] => some ([], sawBreak)
  | .lineComment, sawBreak, [] => some ([], sawBreak)
  | .blockComment _, _, [] => none
  | .space, sawBreak, c :: rest =>
    if isLineBreak c then skipTrivia .space true rest
    else if isSpacing c then skipTrivia .space sawBreak rest
    else if c == '/' then
      match rest with
      | '/' :: more => skipTrivia .lineComment sawBreak more
      | '*' :: more => skipTrivia (.blockComment false) sawBreak more
      | _ => some (c :: rest, sawBreak)
    else some (c :: rest, sawBreak)
  | .lineComment, sawBreak, c :: rest =>
    if isLineBreak c then skipTrivia .space true rest else skipTrivia .lineComment sawBreak rest
  | .blockComment closing, sawBreak, c :: rest =>
    if closing && c == '/' then skipTrivia .space sawBreak rest
    else skipTrivia (.blockComment (c == '*')) (sawBreak || isLineBreak c) rest

def hexValue? (c : Char) : Option Nat :=
  if isDecimal c then some (c.toNat - '0'.toNat)
  else if 'a' ≤ c && c ≤ 'f' then some (c.toNat - 'a'.toNat + 10)
  else if 'A' ≤ c && c ≤ 'F' then some (c.toNat - 'A'.toNat + 10)
  else none

def isHex (c : Char) : Bool :=
  (hexValue? c).isSome

/-- The number written by hexadecimal digits. -/
def hexNumber (digits : List Char) : Nat :=
  digits.foldl (fun value c => value * 16 + (hexValue? c).getD 0) 0

/-- The code point behind `\u`: four digits, or any number of them in braces. -/
def unicodeEscape? : List Char → Option (Nat × List Char)
  | '\x7b' :: rest =>
    let (digits, rest) := rest.span isHex
    match digits, rest with
    | _ :: _, '\x7d' :: rest =>
      if hexNumber digits ≤ 0x10ffff then some (hexNumber digits, rest) else none
    | _, _ => none
  | a :: b :: c :: d :: rest =>
    if [a, b, c, d].all isHex then some (hexNumber [a, b, c, d], rest) else none
  | _ => none

/-- The characters of a word, with its escapes resolved. -/
def scanWord (fuel : Nat) (reversed : List Char) (escaped : Bool) (text : List Char) :
    Option (List Char × Bool × List Char) :=
  match fuel with
  | 0 => none
  | fuel + 1 =>
    let accepts := if reversed.isEmpty then isNameStart else isNamePart
    match text with
    | '\\' :: 'u' :: rest =>
      match unicodeEscape? rest with
      | some (code, rest) =>
        if accepts (Char.ofNat code) then scanWord fuel (Char.ofNat code :: reversed) true rest
        else none
      | none => none
    | '\\' :: _ => none
    | c :: rest =>
      if accepts c then scanWord fuel (c :: reversed) escaped rest
      else some (reversed.reverse, escaped, c :: rest)
    | [] => some (reversed.reverse, escaped, [])

/-- Digits with single underscores between them. -/
def separated : List Char → Bool
  | [] => true
  | '_' :: _ => false
  | [_] => true
  | _ :: '_' :: rest => separated rest && !rest.isEmpty
  | _ :: rest => separated rest

/-- A run of digits with underscores, at least one digit long. -/
def scanDigits (accepts : Char → Bool) (text : List Char) : Option (List Char × List Char) :=
  let (digits, rest) := text.span fun c => accepts c || c == '_'
  if digits.isEmpty || !separated digits then none else some (digits, rest)

/-- An exponent, if one follows. -/
def scanExponent (text : List Char) : Option (List Char × List Char) :=
  match text with
  | e :: rest =>
    if e == 'e' || e == 'E' then
      let (sign, rest) := match rest with
        | '+' :: rest => (['+'], rest)
        | '-' :: rest => (['-'], rest)
        | rest => ([], rest)
      (scanDigits isDecimal rest).map fun (digits, rest) => (e :: sign ++ digits, rest)
    else some ([], text)
  | [] => some ([], [])

/-- A point with the digits after it, if one follows. -/
def scanFraction (text : List Char) : Option (List Char × List Char) :=
  match text with
  | '.' :: rest =>
    if rest.head?.any isDecimal then
      (scanDigits isDecimal rest).map fun (digits, rest) => ('.' :: digits, rest)
    else if rest.head? == some '_' then none
    else some (['.'], rest)
  | text => some ([], text)

/-- The tail of a number: no name may touch it. -/
def endNumber (number rest : List Char) : Option (List Char × List Char) :=
  if rest.head?.any (fun c => isNamePart c || c == '\\') then none else some (number, rest)

/-- An integer may be marked as a big one. -/
def endInteger (number rest : List Char) : Option (List Char × List Char) :=
  match rest with
  | 'n' :: rest => endNumber (number ++ ['n']) rest
  | rest => endNumber number rest

/-- The digits of a radix, by the letter that announces it. -/
def radixDigits? (letter : Char) : Option (Char → Bool) :=
  if letter == 'x' || letter == 'X' then some isHex
  else if letter == 'o' || letter == 'O' then some fun c => '0' ≤ c && c ≤ '7'
  else if letter == 'b' || letter == 'B' then some fun c => c == '0' || c == '1'
  else none

/-- A number with a point or an exponent, behind its whole part. -/
def scanReal (whole rest : List Char) : Option (List Char × List Char) := do
  let (fraction, rest) ← scanFraction rest
  let (exponent, rest) ← scanExponent rest
  if fraction.isEmpty && exponent.isEmpty then endInteger whole rest
  else endNumber (whole ++ fraction ++ exponent) rest

/-- A number as it is written, and the text behind it. -/
def scanNumber (text : List Char) : Option (List Char × List Char) :=
  match text with
  | '.' :: _ => scanReal [] text
  | '0' :: letter :: rest =>
    match radixDigits? letter with
    | some accepts =>
      (scanDigits accepts rest).bind fun (digits, rest) => endInteger ('0' :: letter :: digits) rest
    | none =>
      if letter == '_' then none
      else if isDecimal letter then
        let (digits, rest) := (letter :: rest).span isDecimal
        if digits.all (· < '8') then endNumber ('0' :: digits) rest
        else (scanReal ('0' :: digits) rest).bind fun (number, rest) =>
          if number.getLast? == some 'n' then none else some (number, rest)
      else scanReal ['0'] (letter :: rest)
  | text => (scanDigits isDecimal text).bind fun (digits, rest) => scanReal digits rest

/-- The character of a one-letter escape. -/
def letterEscape (c : Char) : Char :=
  match c with
  | 'n' => '\n'
  | 't' => '\t'
  | 'r' => '\r'
  | 'b' => '\x08'
  | 'f' => '\x0c'
  | 'v' => '\x0b'
  | c => c

/-- The characters that an escape stands for. -/
def scanEscape (text : List Char) : Option (List Char × List Char) :=
  match text with
  | [] => none
  | 'u' :: rest => (unicodeEscape? rest).map fun (code, rest) => ([Char.ofNat code], rest)
  | 'x' :: a :: b :: rest =>
    if isHex a && isHex b then some ([Char.ofNat (hexNumber [a, b])], rest) else none
  | 'x' :: _ => none
  | '\r' :: '\n' :: rest => some ([], rest)
  | c :: rest =>
    if isLineBreak c then some ([], rest)
    else if '0' ≤ c && c ≤ '7' then
      let most := if c ≤ '3' then 3 else 2
      let digits := ((c :: rest).take most).takeWhile fun c => '0' ≤ c && c ≤ '7'
      let value := digits.foldl (fun value c => value * 8 + (c.toNat - '0'.toNat)) 0
      some ([Char.ofNat value], (c :: rest).drop digits.length)
    else some ([letterEscape c], rest)

/-- The value of a string, up to its closing quote. -/
def scanString (quote : Char) : Nat → List Char → List Char → Option (List Char × List Char)
  | 0, _, _ => none
  | _ + 1, _, [] => none
  | fuel + 1, reversed, c :: rest =>
    if c == quote then some (reversed.reverse, rest)
    else if c == '\\' then
      (scanEscape rest).bind fun (value, rest) =>
        scanString quote fuel (value.reverse ++ reversed) rest
    else if c == '\n' || c == '\r' then none
    else scanString quote fuel (c :: reversed) rest

/-- A stretch of a template: its source, whether all its escapes have a meaning, whether a
substitution follows, and the rest. -/
structure TemplateChunk where
  source : List Char
  meaningful : Bool
  substitution : Bool
  rest : List Char

/-- Digits that make an escape meaningless in a template. -/
def isOctalEscape : List Char → Bool
  | '0' :: c :: _ => isDecimal c
  | c :: _ => '1' ≤ c && c ≤ '9'
  | [] => false

def scanTemplate : Nat → List Char → Bool → List Char → Option TemplateChunk
  | 0, _, _, _ => none
  | _ + 1, _, _, [] => none
  | fuel + 1, reversed, meaningful, c :: rest =>
    if c == '`' then some ⟨reversed.reverse, meaningful, false, rest⟩
    else if c == '\\' then
      match rest with
      | [] => none
      | d :: more =>
        let valid := (scanEscape rest).isSome && !isOctalEscape rest
        scanTemplate fuel (d :: c :: reversed) (meaningful && valid) more
    else if c == '$' && rest.head? == some '\x7b' then
      some ⟨reversed.reverse, meaningful, true, rest.drop 1⟩
    else scanTemplate fuel (c :: reversed) meaningful rest

/-- The body of a regular expression up to its slash. -/
def splitRegex : Bool → Bool → List Char → Option (List Char × List Char)
  | _, _, [] => none
  | inClass, escaped, c :: rest =>
    if isLineBreak c then none
    else if !escaped && !inClass && c == '/' then some ([], rest)
    else
      let inClass := if escaped then inClass
        else if c == '[' then true
        else if c == ']' then false
        else inClass
      (splitRegex inClass (!escaped && c == '\\') rest).map fun (body, rest) => (c :: body, rest)

def regexFlags : List Char :=
  ['d', 'g', 'i', 'm', 's', 'u', 'v', 'y']

/-- Flags are known letters, each used once. -/
def validFlags : List Char → Bool
  | [] => true
  | c :: rest => regexFlags.contains c && !rest.contains c && validFlags rest

/-- A regular expression behind its opening slash, as it is written. -/
def scanRegex (text : List Char) : Option (List Char × List Char) := do
  let (body, rest) ← splitRegex false false text
  let (flags, rest) := rest.span isNamePart
  if validFlags flags then some ('/' :: body ++ '/' :: flags, rest) else none

/-- The first mark of the list that begins the text. -/
def scanMark (text : List Char) : List String → Option (String × List Char)
  | [] => none
  | mark :: others =>
    match Text.afterPrefix? mark.toList text with
    | some rest =>
      -- a question mark with a fraction after it
      if mark == "?." && rest.head?.any isDecimal then scanMark text others
      else some (mark, rest)
    | none => scanMark text others

/-- Kind, text and escapes of the token that begins here, and the text behind it. -/
def scanToken (text : List Char) : TokenKind × String × Bool × List Char :=
  let invalid := (TokenKind.invalid, "", false, text)
  match text with
  | [] => (.finish, "", false, [])
  | c :: rest =>
    if isNameStart c || c == '\\' then
      match scanWord (text.length + 1) [] false text with
      | some (name, escaped, rest) => (.word, String.ofList name, escaped, rest)
      | none => invalid
    else if isDecimal c || (c == '.' && rest.head?.any isDecimal) then
      match scanNumber text with
      | some (number, rest) => (.number, String.ofList number, false, rest)
      | none => invalid
    else if c == '"' || c == '\'' then
      match scanString c (text.length + 1) [] rest with
      | some (value, rest) => (.string, String.ofList value, false, rest)
      | none => invalid
    else if c == '`' then (.template, "", false, rest)
    else if c == '#' then
      match scanWord (text.length + 1) [] false rest with
      | some (name, escaped, rest) =>
        if name.isEmpty then invalid
        else (.privateName, String.ofList ('#' :: name), escaped, rest)
      | none => invalid
    else
      match scanMark text marks with
      | some (mark, rest) => (.mark, mark, false, rest)
      | none => invalid

/-- The next token of a text. A comment that is not closed is no token. -/
def nextToken (text : List Char) : Token :=
  match skipTrivia .space false text with
  | some (start, afterBreak) =>
    let (kind, text, escaped, rest) := scanToken start
    { kind := kind, text := text, start := start, rest := rest, afterBreak := afterBreak,
      escaped := escaped }
  | none =>
    { kind := .invalid, text := "", start := text, rest := text, afterBreak := false,
      escaped := false }

end PanelCompiler.Script.Lexer
