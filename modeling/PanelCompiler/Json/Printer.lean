import PanelCompiler.Json.Basic
import PanelCompiler.Decimal.Layout

namespace PanelCompiler.Json

/-- The lower-case hexadecimal digit of a number below sixteen. -/
def hexDigit (n : Nat) : Char :=
  Nat.digitChar n

/-- A code unit as four hexadecimal digits behind `\u`. -/
def unicodeEscape (code : Nat) : List Char :=
  ['\\', 'u', hexDigit (code / 4096 % 16), hexDigit (code / 256 % 16), hexDigit (code / 16 % 16),
    hexDigit (code % 16)]

/-- A character inside quotes. -/
def escapeChar (c : Char) : List Char :=
  if c == '"' then ['\\', '"']
  else if c == '\\' then ['\\', '\\']
  else if c == '\x08' then ['\\', 'b']
  else if c == '\t' then ['\\', 't']
  else if c == '\n' then ['\\', 'n']
  else if c == '\x0c' then ['\\', 'f']
  else if c == '\r' then ['\\', 'r']
  else if c.toNat < 0x20 then unicodeEscape c.toNat
  else [c]

/-- A text in double quotes. -/
def quote (text : String) : String :=
  String.ofList ('"' :: text.toList.flatMap escapeChar ++ ['"'])

def Number.text : Number → String
  | .integer value => toString value
  | .float value => Decimal.jsonText value

/-- Texts with a comma between each two of them. -/
def commaSeparated : List String → String
  | [] => ""
  | [last] => last
  | first :: rest => first ++ "," ++ commaSeparated rest

def bracketed (items : List String) : String :=
  "[" ++ commaSeparated items ++ "]"

def braced (entries : List String) : String :=
  "\x7b" ++ commaSeparated entries ++ "\x7d"

mutual

/-- The compact text of a value. -/
def compact : Json → String
  | .null => "null"
  | .bool true => "true"
  | .bool false => "false"
  | .number value => value.text
  | .string text => quote text
  | .array items => bracketed (compactItems items)
  | .object fields => braced (compactFields fields)

def compactItems : List Json → List String
  | [] => []
  | item :: rest => compact item :: compactItems rest

def compactFields : List (String × Json) → List String
  | [] => []
  | (key, value) :: rest => (quote key ++ ":" ++ compact value) :: compactFields rest

end

end PanelCompiler.Json
