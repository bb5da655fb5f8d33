import PanelCompiler.Proofs.Stylesheet.Reading

/-!
What one character does to the layout under way. Outside of strings a brace ends a line, and so does
a semicolon that stands in no parentheses; every other character goes on the line under way. A run
over a text that has a layout is one such step after another.
-/

namespace PanelCompiler.Stylesheet

def isQuote (c : Char) : Bool :=
  c == '"' || c == '\''

def isLineEnd (c : Char) : Bool :=
  c == '\n' || c == '\r'

/-- The quote that closes the string under way, behind one more character. A string goes from a
quote to the next one that is equal. -/
def quoteBehind (quote : Option Char) (c : Char) : Option Char :=
  match quote with
  | some closing => if c == closing then none else some closing
  | none => if isQuote c then some c else none

def quoteAfter (quote : Option Char) (text : List Char) : Option Char :=
  text.foldl quoteBehind quote

/-- What a character stands in: the parentheses opened outside of strings, and a string. -/
structure Enclosure where
  parentheses : Nat
  quote : Option Char

namespace Enclosure

/-- The enclosure behind one more character. -/
def after (enclosure : Enclosure) (c : Char) : Enclosure where
  parentheses :=
    if enclosure.quote.isSome then enclosure.parentheses
    else if c == '(' then enclosure.parentheses + 1
    else if c == ')' then enclosure.parentheses - 1
    else enclosure.parentheses
  quote := quoteBehind enclosure.quote c

/-- Whether a character goes on the line under way. -/
def keeps (enclosure : Enclosure) (c : Char) : Bool :=
  enclosure.quote.isSome ||
    !(c == '\x7b' || c == '\x7d' || (c == ';' && enclosure.parentheses == 0))

/-- A character ends the line if it is outside of strings, and a brace, or a semicolon in no
parentheses. -/
theorem keeps_eq_false {enclosure : Enclosure} {c : Char} : enclosure.keeps c = false ↔
    enclosure.quote = none ∧
      (c = '\x7b' ∨ c = '\x7d' ∨ (c = ';' ∧ enclosure.parentheses = 0)) := by
  rw [keeps, Bool.or_eq_false_iff, Bool.not_eq_false']
  simp [or_assoc]

/-- How a character is written on its line: the end of a line as a blank, but for strings. -/
def written (enclosure : Enclosure) (c : Char) : Char :=
  if enclosure.quote.isNone && isLineEnd c then ' ' else c

end Enclosure

/-- The lines with one more, unless nothing is left of it without its blanks. -/
def withLine (depth : Nat) (text : List Char) (lines : List Line) : List Line :=
  match Text.trim text with
  | [] => lines
  | trimmed => ⟨depth, trimmed⟩ :: lines

theorem withLine_shown {text : List Char} (shown : Text.trim text ≠ []) (depth : Nat)
    (lines : List Line) : withLine depth text lines = ⟨depth, Text.trim text⟩ :: lines := by
  unfold withLine
  split
  · rename_i blank
    exact absurd blank shown
  · rfl

namespace Progress

def enclosure (progress : Progress) : Enclosure :=
  ⟨progress.parentheses, progress.quote⟩

theorem addLine_eq (progress : Progress) (depth : Nat) (text : List Char) :
    progress.addLine depth text =
      { progress with lines := withLine depth text progress.lines } := by
  unfold addLine withLine
  cases Text.trim text <;> rfl

/-- One character read, and the count of bytes behind it. -/
inductive Step (progress : Progress) (offset : Nat) : Char → Progress → Prop
  | keep (c : Char) (keeps : progress.enclosure.keeps c = true) :
    Step progress offset c { progress with
      pending := progress.enclosure.written c :: progress.pending
      parentheses := (progress.enclosure.after c).parentheses
      quote := (progress.enclosure.after c).quote
      offset := offset }
  | statement (outside : progress.quote = none) (level : progress.parentheses = 0) :
    Step progress offset ';' { progress with
      lines := withLine progress.depth (progress.pending.reverse ++ [';']) progress.lines
      pending := []
      offset := offset }
  | opening (outside : progress.quote = none) :
    Step progress offset '\x7b' { progress with
      lines := withLine progress.depth (Text.trim progress.pending.reverse ++ [' ', '\x7b'])
        progress.lines
      pending := []
      depth := progress.depth + 1
      offset := offset }
  | closing {depth : Nat} (outside : progress.quote = none) (inside : progress.depth = depth + 1) :
    Step progress offset '\x7d' { progress with
      lines := withLine depth ['\x7d']
        (withLine progress.depth progress.pending.reverse progress.lines)
      pending := []
      depth := depth
      offset := offset }

section Reading

variable {progress next : Progress} {c : Char}

private theorem readOuter_kept (outside : progress.quote = none)
    (keeps : progress.enclosure.keeps c = true) :
    progress.readOuter c = .ok { progress with
      pending := progress.enclosure.written c :: progress.pending
      parentheses := (progress.enclosure.after c).parentheses
      quote := (progress.enclosure.after c).quote } := by
  have kept : ¬ (c = '\x7b' ∨ c = '\x7d' ∨ (c = ';' ∧ progress.parentheses = 0)) := fun ending =>
    absurd keeps (Bool.not_eq_true _ ▸ Enclosure.keeps_eq_false.mpr ⟨outside, ending⟩)
  obtain ⟨opens, others⟩ := not_or.mp kept
  obtain ⟨closes, ends⟩ := not_or.mp others
  have stays : (c == ';' && progress.parentheses == 0) = false := by
    rw [Bool.and_eq_false_iff, beq_eq_false_iff_ne, beq_eq_false_iff_ne]
    exact Decidable.not_and_iff_not_or_not.mp ends
  unfold readOuter Enclosure.after Enclosure.written quoteBehind enclosure
  by_cases quote : c = '"' ∨ c = '\''
  · rcases quote with rfl | rfl <;> simp [outside, push, isQuote, isLineEnd]
  · obtain ⟨double, single⟩ := not_or.mp quote
    by_cases left : c = '('
    · subst left
      simp [outside, push, isQuote, isLineEnd]
    · by_cases right : c = ')'
      · subst right
        simp [outside, push, isQuote, isLineEnd]
      · by_cases ending : c = '\n' ∨ c = '\r' <;>
          simp [outside, push, isQuote, isLineEnd, double, single, left, right, opens, closes,
            stays, ending]

private theorem read_inside {closing : Char} (inside : progress.quote = some closing) (c : Char) :
    progress.read c = .ok { progress with
      pending := c :: progress.pending
      quote := quoteBehind (some closing) c
      offset := progress.offset + c.utf8Size } := by
  by_cases closes : c = closing <;>
    simp [read, inside, push, quoteBehind, closes, bind, Except.bind, pure, Except.pure]

theorem read_outside (outside : progress.quote = none) (c : Char) :
    progress.read c = (progress.readOuter c).map fun next =>
      { next with offset := progress.offset + c.utf8Size } := by
  unfold read
  rw [outside]
  cases progress.readOuter c <;> rfl

theorem read_kept (keeps : progress.enclosure.keeps c = true) :
    progress.read c = .ok { progress with
      pending := progress.enclosure.written c :: progress.pending
      parentheses := (progress.enclosure.after c).parentheses
      quote := (progress.enclosure.after c).quote
      offset := progress.offset + c.utf8Size } := by
  cases quoted : progress.quote with
  | some closing =>
    rw [read_inside quoted]
    simp [Enclosure.after, Enclosure.written, enclosure, quoted]
  | none =>
    rw [read_outside quoted, readOuter_kept quoted keeps]
    rfl

theorem readOuter_statement (level : progress.parentheses = 0) :
    progress.readOuter ';' = .ok { progress with
      lines := withLine progress.depth (progress.pending.reverse ++ [';']) progress.lines
      pending := [] } := by
  simp [readOuter, level, endLine, addLine_eq]

theorem readOuter_opening : progress.readOuter '\x7b' = .ok { progress with
    lines := withLine progress.depth (Text.trim progress.pending.reverse ++ [' ', '\x7b'])
      progress.lines
    pending := []
    depth := progress.depth + 1 } := by
  simp [readOuter, openBlock, addLine_eq]

theorem readOuter_closing {depth : Nat} (inside : progress.depth = depth + 1) :
    progress.readOuter '\x7d' = .ok { progress with
      lines := withLine depth ['\x7d']
        (withLine progress.depth progress.pending.reverse progress.lines)
      pending := []
      depth := depth } := by
  simp [readOuter, closeBlock, inside, endLine, addLine_eq]

theorem readOuter_stray (top : progress.depth = 0) :
    progress.readOuter '\x7d' = .error (.unexpectedBrace progress.offset) := by
  simp [readOuter, closeBlock, top]

theorem read_eq_ok : progress.read c = .ok next ↔
    Step progress (progress.offset + c.utf8Size) c next := by
  constructor
  · intro success
    by_cases keeps : progress.enclosure.keeps c = true
    · rw [read_kept keeps] at success
      cases success
      exact .keep c keeps
    · obtain ⟨outside, ending⟩ := Enclosure.keeps_eq_false.mp (Bool.not_eq_true _ ▸ keeps)
      rw [read_outside outside] at success
      rcases ending with rfl | rfl | ⟨rfl, level⟩
      · rw [readOuter_opening] at success
        cases success
        exact .opening outside
      · cases place : progress.depth with
        | zero =>
          rw [readOuter_stray place] at success
          cases success
        | succ depth =>
          rw [readOuter_closing place] at success
          cases success
          exact .closing outside place
      · rw [readOuter_statement level] at success
        cases success
        exact .statement outside level
  · intro step
    cases step with
    | keep _ keeps => exact read_kept keeps
    | statement outside level =>
      rw [read_outside outside, readOuter_statement level]
      rfl
    | opening outside =>
      rw [read_outside outside, readOuter_opening]
      rfl
    | closing outside inside =>
      rw [read_outside outside, readOuter_closing inside]
      rfl

theorem readAll_cons_eq_ok {last : Progress} {rest : List Char} :
    progress.readAll (c :: rest) = .ok last ↔
      ∃ next, progress.read c = .ok next ∧ next.readAll rest = .ok last := by
  rw [readAll]
  cases progress.read c <;> simp [bind, Except.bind]

/-- What holds at the start and outlasts every step holds wherever a text has been read to. The
characters read so far come first. -/
theorem readAll_invariant {P : List Char → Progress → Prop} (step : ∀ read progress c next offset,
    P read progress → Step progress offset c next → P (read ++ [c]) next) (read : List Char)
    {text : List Char} (holds : P read progress) (success : progress.readAll text = .ok next) :
    P (read ++ text) next := by
  induction text generalizing read progress with
  | nil =>
    cases success
    rwa [List.append_nil]
  | cons c rest ih =>
    obtain ⟨middle, first, success⟩ := readAll_cons_eq_ok.mp success
    have later := ih _ (step _ _ _ _ _ holds (read_eq_ok.mp first)) success
    rwa [List.append_assoc] at later

end Reading

end Progress

def rendered (lines : List Line) : List Char :=
  lines.reverse.flatMap Line.render

/-- The text of one more line, if anything is left of it without its blanks. -/
def lineOf (depth : Nat) (text : List Char) : List Char :=
  rendered (withLine depth text [])

theorem lineOf_blank {text : List Char} (blank : Text.trim text = []) (depth : Nat) :
    lineOf depth text = [] := by
  simp [lineOf, withLine, blank, rendered]

theorem lineOf_shown {text : List Char} (shown : Text.trim text ≠ []) (depth : Nat) :
    lineOf depth text = List.replicate (2 * depth) ' ' ++ (Text.trim text ++ ['\n']) := by
  simp [lineOf, withLine_shown shown, rendered, Line.render]

theorem rendered_withLine (depth : Nat) (text : List Char) (lines : List Line) :
    rendered (withLine depth text lines) = rendered lines ++ lineOf depth text := by
  unfold lineOf withLine
  split <;> simp [rendered]

/-- A text has lines if it can be read to its end, outside of strings and blocks. -/
theorem lines_eq_ok {source : List Char} {shown : List Line} : lines source = .ok shown ↔
    ∃ progress, Progress.start.readAll source = .ok progress ∧ progress.quote = none ∧
      progress.depth = 0 ∧
      shown = (withLine 0 progress.pending.reverse progress.lines).reverse := by
  unfold lines
  cases reads : Progress.start.readAll source with
  | error fault => simp [bind, Except.bind]
  | ok progress =>
    have finished : progress.finish = if progress.quote.isSome then .error .unterminatedString
        else if progress.depth ≠ 0 then .error (.unclosedBlocks progress.depth)
        else .ok (withLine progress.depth progress.pending.reverse progress.lines).reverse := by
      simp [Progress.finish, Progress.endLine, Progress.addLine_eq]
    simp only [bind, Except.bind, finished]
    cases quoted : progress.quote with
    | some closing => simp [quoted]
    | none =>
      by_cases top : progress.depth = 0
      · simp [quoted, top, eq_comm]
      · simp [quoted, top]

theorem layout_eq_ok {source shown : String} : layout source = .ok shown ↔
    ∃ progress, Progress.start.readAll source.toList = .ok progress ∧ progress.quote = none ∧
      progress.depth = 0 ∧
      shown.toList = rendered (withLine 0 progress.pending.reverse progress.lines) := by
  have made : layout source = .ok shown ↔ ∃ given, lines source.toList = .ok given ∧
      shown.toList = given.flatMap Line.render := by
    unfold layout
    cases lines source.toList <;>
      simp [bind, Except.bind, pure, Except.pure, ← String.toList_inj, eq_comm]
  rw [made]
  constructor
  · rintro ⟨given, success, text⟩
    obtain ⟨progress, reads, outside, top, rfl⟩ := lines_eq_ok.mp success
    exact ⟨progress, reads, outside, top, text⟩
  · rintro ⟨progress, reads, outside, top, text⟩
    exact ⟨_, lines_eq_ok.mpr ⟨progress, reads, outside, top, rfl⟩, text⟩

end PanelCompiler.Stylesheet
