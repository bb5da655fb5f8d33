import PanelCompiler.Json.Number

/-!
A JSON text read as far as it goes. A fault cuts the document off where it stands, so that a reader
walking the document in the order of the text meets the faults and its own objections in that
order too.
-/

namespace PanelCompiler.Json

/-- What is wrong with a text that is not JSON. -/
inductive Fault
  /-- Something else was expected here. -/
  | unexpected
  /-- The text ends too soon. -/
  | unfinished
  deriving DecidableEq

/-- How the list of an array or object ends. -/
inductive Ending
  | closed
  | cut (fault : Fault) (afterComma : Bool)
  deriving DecidableEq

/-- A string whose escapes make no characters has a fault, and can still be skipped. -/
abbrev Content := Except Fault String

inductive Document
  | null
  | bool (value : Bool)
  /-- A number, unless it is too large to be read. -/
  | number (value : Option Number)
  | string (content : Content)
  | array (items : List Document) (ending : Ending)
  | object (entries : List (Content × Document)) (ending : Ending)
  /-- Cut off: the fault met by a reader, and the one met when the value is only skipped. -/
  | broken (reading skipping : Fault)

namespace Document

def isSpace (c : Char) : Bool :=
  c == ' ' || c == '\n' || c == '\t' || c == '\r'

def skipSpace (text : List Char) : List Char :=
  text.dropWhile isSpace

def isNumberDigit (c : Char) : Bool :=
  '0' ≤ c && c ≤ '9'

def hexValue? (c : Char) : Option Nat :=
  if '0' ≤ c && c ≤ '9' then some (c.toNat - '0'.toNat)
  else if 'a' ≤ c && c ≤ 'f' then some (c.toNat - 'a'.toNat + 10)
  else if 'A' ≤ c && c ≤ 'F' then some (c.toNat - 'A'.toNat + 10)
  else none

/-- The bytes of a text. -/
def byteLength (text : List Char) : Nat :=
  text.foldr (fun c length => c.utf8Size + length) 0

/-- Where in a string the scan stands. -/
inductive StringState
  | plain
  | escaped
  | hex (digits value : Nat)

/-- A string as far as it is scanned: characters so far, last first; an open high surrogate; the
first flaw in its escapes. -/
structure StringScan where
  state : StringState
  reversed : List Char
  surrogate : Option Nat
  flaw : Option Fault

def StringScan.start : StringScan :=
  { state := .plain, reversed := [], surrogate := none, flaw := none }

/-- A high surrogate stays open only until the next escape. -/
def StringScan.dropSurrogate (scan : StringScan) : StringScan :=
  if scan.surrogate.isSome then
    { scan with surrogate := none, flaw := scan.flaw.or (some .unexpected) }
  else scan

def StringScan.push (scan : StringScan) (c : Char) : StringScan :=
  let scan := scan.dropSurrogate
  { scan with state := .plain, reversed := c :: scan.reversed }

def StringScan.addFlaw (scan : StringScan) : StringScan :=
  { scan with state := .plain, surrogate := none, flaw := scan.flaw.or (some .unexpected) }

/-- A finished `\u` escape: a unit of its own, or one half of a pair. -/
def StringScan.pushUnit (scan : StringScan) (unit : Nat) : StringScan :=
  if 0xdc00 ≤ unit && unit ≤ 0xdfff then
    match scan.surrogate with
    | some high =>
      let code := (high - 0xd800) * 0x400 + (unit - 0xdc00) + 0x10000
      { scan with state := .plain, reversed := Char.ofNat code :: scan.reversed, surrogate := none }
    | none => scan.addFlaw
  else if 0xd800 ≤ unit && unit ≤ 0xdbff then
    { scan.dropSurrogate with state := .plain, surrogate := some unit }
  else scan.push (Char.ofNat unit)

/-- The character that a one-letter escape stands for. -/
def simpleEscape? : Char → Option Char
  | '"' => some '"'
  | '\\' => some '\\'
  | '/' => some '/'
  | 'b' => some '\x08'
  | 'f' => some '\x0c'
  | 'n' => some '\n'
  | 'r' => some '\r'
  | 't' => some '\t'
  | _ => none

/-- The outcome of a string: its content and the rest of the text, or the faults for a reader and
for a skipper. -/
inductive StringResult
  | closed (content : Content) (rest : List Char)
  | cut (reading skipping : Fault)

def StringScan.cut (scan : StringScan) (fault : Fault) : StringResult :=
  .cut (scan.flaw.getD fault) fault

/-- The text after the opening quote. -/
def scanString (scan : StringScan) : List Char → StringResult
  | [] => scan.cut .unfinished
  | c :: rest =>
    match scan.state with
    | .plain =>
      if c == '"' then
        let scan := scan.dropSurrogate
        .closed (match scan.flaw with
          | some fault => .error fault
          | none => .ok (String.ofList scan.reversed.reverse)) rest
      else if c == '\\' then scanString { scan with state := .escaped } rest
      else if c.toNat < 0x20 then scan.dropSurrogate.cut .unexpected
      else scanString (scan.push c) rest
    | .escaped =>
      if c == 'u' then scanString { scan with state := .hex 0 0 } rest
      else match simpleEscape? c with
        | some plain => scanString (scan.push plain) rest
        | none => scan.dropSurrogate.cut .unexpected
    | .hex digits value =>
      match hexValue? c with
      | some digit =>
        let value := value * 16 + digit
        if digits == 3 then scanString (scan.pushUnit value) rest
        else scanString { scan with state := .hex (digits + 1) value } rest
      | none =>
        scan.cut (if digits + byteLength (c :: rest) < 4 then .unfinished else .unexpected)

/-- A document with the rest of the text; there is no rest behind a fault. -/
abbrev Read (α : Type) := α × Option (List Char)

def cutOff (reading skipping : Fault) : Read Document :=
  (.broken reading skipping, none)

/-- The fault for something other than a digit where one has to stand. -/
def missingDigit : List Char → Fault
  | [] => .unfinished
  | _ :: _ => .unexpected

def takeDigits (text : List Char) : List Char × List Char :=
  text.span isNumberDigit

/-- The sign and digits of an exponent, behind its letter. -/
def readExponent (text : List Char) : Except Fault (Int × List Char) :=
  let (negative, text) := match text with
    | '+' :: rest => (false, rest)
    | '-' :: rest => (true, rest)
    | text => (false, text)
  match takeDigits text with
  | ([], rest) => .error (missingDigit rest)
  | (digits, rest) =>
    let size : Int := digits.foldl (fun value c => value * 10 + (digitValue c : Int)) 0
    .ok (if negative then -size else size, rest)

/-- What follows the whole part. -/
def readFraction (negative : Bool) (whole text : List Char) :
    Except Fault (NumberToken × List Char) := do
  let (fraction, pointed, text) ← match text with
    | '.' :: rest => match takeDigits rest with
      | ([], rest) => .error (missingDigit rest)
      | (digits, rest) => .ok (digits, true, rest)
    | text => .ok ([], false, text)
  match text with
  | 'e' :: rest | 'E' :: rest =>
    let (exponent, rest) ← readExponent rest
    return (⟨negative, whole, fraction, some exponent, true⟩, rest)
  | text => return (⟨negative, whole, fraction, none, pointed⟩, text)

/-- A number behind its sign. No zero stands before another digit. -/
def readNumber (negative : Bool) (text : List Char) : Read Document :=
  let token : Except Fault (NumberToken × List Char) := match takeDigits text with
    | ([], rest) => .error (missingDigit rest)
    | ('0' :: _ :: _, _) => .error .unexpected
    | (whole, rest) => readFraction negative whole rest
  match token with
  | .ok (token, rest) => (.number token.value?, some rest)
  | .error fault => cutOff fault .unexpected

/-- A fixed word behind its first letter. -/
def readWord (value : Document) : List Char → List Char → Read Document
  | [], text => (value, some text)
  | _ :: _, [] => cutOff .unfinished .unfinished
  | expected :: more, c :: rest =>
    if expected == c then readWord value more rest else cutOff .unexpected .unexpected

mutual

/-- The value at the start of the text. No character takes more than four steps, so its length
bounds the steps. -/
def readValue : Nat → List Char → Read Document
  | 0, _ => cutOff .unfinished .unfinished
  | fuel + 1, text =>
    match skipSpace text with
    | [] => cutOff .unfinished .unfinished
    | c :: rest =>
      if c == '"' then
        match scanString .start rest with
        | .closed content rest => (.string content, some rest)
        | .cut reading skipping => cutOff reading skipping
      else if c == '[' then
        let (items, ending, rest) := readItems fuel true rest
        (.array items ending, rest)
      else if c == '\x7b' then
        let (entries, ending, rest) := readEntries fuel true rest
        (.object entries ending, rest)
      else if c == '-' then readNumber true rest
      else if isNumberDigit c then readNumber false (c :: rest)
      else if c == 'n' then readWord .null ['u', 'l', 'l'] rest
      else if c == 't' then readWord (.bool true) ['r', 'u', 'e'] rest
      else if c == 'f' then readWord (.bool false) ['a', 'l', 's', 'e'] rest
      else cutOff .unexpected .unexpected

/-- The items of an array up to its bracket. -/
def readItems : Nat → Bool → List Char → List Document × Ending × Option (List Char)
  | 0, _, _ => ([], .cut .unfinished false, none)
  | fuel + 1, first, text =>
    match skipSpace text with
    | [] => ([], .cut .unfinished false, none)
    | c :: rest =>
      if c == ']' then ([], .closed, some rest)
      else if first then readItem fuel (c :: rest)
      else if c == ',' then
        match skipSpace rest with
        | [] => ([], .cut .unfinished true, none)
        | ']' :: _ => ([], .cut .unexpected true, none)
        | text => readItem fuel text
      else ([], .cut .unexpected false, none)

/-- One item and those behind it. -/
def readItem : Nat → List Char → List Document × Ending × Option (List Char)
  | 0, _ => ([], .cut .unfinished false, none)
  | fuel + 1, text =>
    match readValue fuel text with
    | (item, none) => ([item], .cut .unfinished false, none)
    | (item, some rest) =>
      let (items, ending, rest) := readItems fuel false rest
      (item :: items, ending, rest)

/-- The entries of an object up to its brace. -/
def readEntries :
    Nat → Bool → List Char → List (Content × Document) × Ending × Option (List Char)
  | 0, _, _ => ([], .cut .unfinished false, none)
  | fuel + 1, first, text =>
    match skipSpace text with
    | [] => ([], .cut .unfinished false, none)
    | c :: rest =>
      if c == '\x7d' then ([], .closed, some rest)
      else if first then readEntry fuel (c :: rest)
      else if c == ',' then
        match skipSpace rest with
        | [] => ([], .cut .unfinished true, none)
        | text => readEntry fuel text
      else ([], .cut .unexpected false, none)

/-- One key with its value, and the entries behind them. -/
def readEntry : Nat → List Char → List (Content × Document) × Ending × Option (List Char)
  | 0, _ => ([], .cut .unfinished false, none)
  | fuel + 1, text =>
    match text with
    | '"' :: rest =>
      match scanString .start rest with
      | .cut reading skipping =>
        ([(.error reading, .broken reading skipping)], .cut reading false, none)
      | .closed key rest =>
        match skipSpace rest with
        | ':' :: rest =>
          match readValue fuel rest with
          | (value, none) => ([(key, value)], .cut .unfinished false, none)
          | (value, some rest) =>
            let (entries, ending, rest) := readEntries fuel false rest
            ((key, value) :: entries, ending, rest)
        | [] => ([(key, .broken .unfinished .unfinished)], .cut .unfinished false, none)
        | _ :: _ => ([(key, .broken .unexpected .unexpected)], .cut .unexpected false, none)
    | _ => ([], .cut .unexpected false, none)

end

/-- A whole text: its document, and whether anything but space follows the value. -/
def parse (text : List Char) : Document × Bool :=
  match readValue (4 * text.length + 4) text with
  | (document, none) => (document, false)
  | (document, some rest) => (document, !(skipSpace rest).isEmpty)

mutual

/-- A value as a document without faults. -/
def ofJson : Json → Document
  | .null => .null
  | .bool value => .bool value
  | .number value => .number (some value)
  | .string text => .string (.ok text)
  | .array items => .array (ofItems items) .closed
  | .object fields => .object (ofFields fields) .closed

def ofItems : List Json → List Document
  | [] => []
  | item :: rest => ofJson item :: ofItems rest

def ofFields : List (String × Json) → List (Content × Document)
  | [] => []
  | (key, value) :: rest => (.ok key, ofJson value) :: ofFields rest

end

end Document

end PanelCompiler.Json
