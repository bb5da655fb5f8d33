import PanelCompiler.Text.Blank

/-!
Laying out a nested stylesheet: one selector, declaration or brace a line, indented by nesting.
Strings and whatever stands in parentheses are not divided.
-/

namespace PanelCompiler.Stylesheet

/-- Why a stylesheet has no layout. -/
inductive Fault
  /-- A closing brace without an opening one, at a byte of the text. -/
  | unexpectedBrace (offset : Nat)
  | unterminatedString
  | unclosedBlocks (count : Nat)
  deriving DecidableEq

def Fault.message : Fault → String
  | .unexpectedBrace offset => "unexpected `\x7d` at offset " ++ toString offset
  | .unterminatedString => "unterminated string"
  | .unclosedBlocks count => toString count ++ " unclosed block(s)"

/-- A line of the layout. -/
structure Line where
  depth : Nat
  text : List Char

/-- The layout of the text read so far. -/
structure Progress where
  /-- Finished lines, the last one first. -/
  lines : List Line
  /-- The characters of the line under way, the last one first. -/
  pending : List Char
  depth : Nat
  parentheses : Nat
  /-- The quote that closes the string under way. -/
  quote : Option Char
  /-- The bytes read. -/
  offset : Nat

namespace Progress

def start : Progress :=
  { lines := [], pending := [], depth := 0, parentheses := 0, quote := none, offset := 0 }

/-- Add a line, unless nothing is left of it without its blanks. -/
def addLine (progress : Progress) (depth : Nat) (text : List Char) : Progress :=
  match Text.trim text with
  | [] => progress
  | trimmed => { progress with lines := ⟨depth, trimmed⟩ :: progress.lines }

/-- Finish the line under way with these characters behind it. -/
def endLine (progress : Progress) (ending : List Char) : Progress :=
  { progress.addLine progress.depth (progress.pending.reverse ++ ending) with pending := [] }

def push (progress : Progress) (c : Char) : Progress :=
  { progress with pending := c :: progress.pending }

/-- An opening brace ends the line of its selector. -/
def openBlock (progress : Progress) : Progress :=
  let selector := Text.trim progress.pending.reverse ++ [' ', '\x7b']
  { progress.addLine progress.depth selector with pending := [], depth := progress.depth + 1 }

/-- A closing brace has a line of its own. -/
def closeBlock (progress : Progress) : Except Fault Progress :=
  match progress.depth with
  | 0 => .error (.unexpectedBrace progress.offset)
  | depth + 1 =>
    .ok ({ progress.endLine [] with depth := depth }.addLine depth ['\x7d'])

/-- A character outside of strings. -/
def readOuter (progress : Progress) (c : Char) : Except Fault Progress :=
  if c == '"' || c == '\'' then .ok { progress.push c with quote := some c }
  else if c == '(' then .ok { progress.push c with parentheses := progress.parentheses + 1 }
  else if c == ')' then .ok { progress.push c with parentheses := progress.parentheses - 1 }
  else if c == '\x7b' then .ok progress.openBlock
  else if c == '\x7d' then progress.closeBlock
  else if c == ';' && progress.parentheses == 0 then .ok (progress.endLine [';'])
  else if c == '\n' || c == '\r' then .ok (progress.push ' ')
  else .ok (progress.push c)

/-- A character of the stylesheet. -/
def read (progress : Progress) (c : Char) : Except Fault Progress := do
  let next ← match progress.quote with
    | some quote =>
      let pushed := progress.push c
      .ok (if c == quote then { pushed with quote := none } else pushed)
    | none => progress.readOuter c
  return { next with offset := progress.offset + c.utf8Size }

def readAll (progress : Progress) : List Char → Except Fault Progress
  | [] => .ok progress
  | c :: rest => do
    let next ← progress.read c
    next.readAll rest

/-- The lines of the whole text. -/
def finish (progress : Progress) : Except Fault (List Line) :=
  if progress.quote.isSome then .error .unterminatedString
  else if progress.depth ≠ 0 then .error (.unclosedBlocks progress.depth)
  else .ok (progress.endLine []).lines.reverse

end Progress

/-- A line with its indentation and its end. -/
def Line.render (line : Line) : List Char :=
  List.replicate (2 * line.depth) ' ' ++ line.text ++ ['\n']

/-- The lines of a stylesheet. -/
def lines (text : List Char) : Except Fault (List Line) := do
  let progress ← Progress.start.readAll text
  progress.finish

/-- Lay out a stylesheet. -/
def layout (text : String) : Except Fault String := do
  let lines ← lines text.toList
  return String.ofList (lines.flatMap Line.render)

end PanelCompiler.Stylesheet
