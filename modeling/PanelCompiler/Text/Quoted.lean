import PanelCompiler.Json.Printer

namespace PanelCompiler.Text.Quoted

/-- Control characters, and the two separators that end a line of script. -/
def needsEscape (c : Char) : Bool :=
  let code := c.toNat
  code < 0x20 || (0x7f ≤ code && code < 0xa0) || code == 0x2028 || code == 0x2029

/-- A character inside single quotes. -/
def escapeChar (c : Char) : List Char :=
  if c == '\\' then ['\\', '\\']
  else if c == '\'' then ['\\', '\'']
  else if c == '\n' then ['\\', 'n']
  else if c == '\r' then ['\\', 'r']
  else if c == '\t' then ['\\', 't']
  else if needsEscape c then Json.unicodeEscape c.toNat
  else [c]

/-- The characters between the quotes. -/
def encode (text : List Char) : List Char :=
  text.flatMap escapeChar

/-- A text as a single-quoted literal. -/
def quote (text : String) : String :=
  String.ofList ('\'' :: encode text.toList ++ ['\''])

end PanelCompiler.Text.Quoted
