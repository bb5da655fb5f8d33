import PanelCompiler.Proofs.Stylesheet.Steps

namespace PanelCompiler.Stylesheet

open Text (isBlank)

/-- The text without the blanks outside of strings, where the string under way ends with a quote. -/
def visibleFrom (quote : Option Char) : List Char → List Char
  | [] => []
  | c :: rest =>
    let later := visibleFrom (quoteBehind quote c) rest
    if quote.isNone && isBlank c then later else c :: later

def visible (text : List Char) : List Char :=
  visibleFrom none text

/-- The strings of a text, and first of all the rest of the one that is under way. -/
def stringsFrom (quote : Option Char) : List Char → List (List Char)
  | [] => if quote.isSome then [[]] else []
  | c :: rest =>
    let later := stringsFrom (quoteBehind quote c) rest
    if (quoteBehind quote c).isSome then later.modifyHead (c :: ·)
    else if quote.isSome then [c] :: later
    else later

def quotedStrings (text : List Char) : List (List Char) :=
  stringsFrom none text

/-- No string that ends with this quote ends with a blank. -/
def Shown (quote : Option Char) : Prop :=
  ∀ closing ∈ quote, isBlank closing = false

section Quotes

variable {quote : Option Char}

theorem Shown.none : Shown none := by
  simp [Shown]

theorem quoteAfter_append (quote : Option Char) (first rest : List Char) :
    quoteAfter quote (first ++ rest) = quoteAfter (quoteAfter quote first) rest :=
  List.foldl_append

theorem not_isQuote {c : Char} (blank : isBlank c = true) : isQuote c = false := by
  unfold isQuote
  rw [Bool.or_eq_false_iff, beq_eq_false_iff_ne, beq_eq_false_iff_ne]
  constructor <;> rintro rfl <;> exact absurd blank (by decide)

theorem quoteBehind_blank {c : Char} (shown : Shown quote)
    (blank : isBlank c = true) : quoteBehind quote c = quote := by
  cases quote with
  | none => simp [quoteBehind, not_isQuote blank]
  | some closing =>
    have apart : c ≠ closing := by
      rintro rfl
      rw [shown c rfl] at blank
      cases blank
    simp [quoteBehind, apart]

theorem quoteAfter_blanks {blanks : List Char} (shown : Shown quote)
    (blank : ∀ c ∈ blanks, isBlank c = true) : quoteAfter quote blanks = quote := by
  induction blanks with
  | nil => rfl
  | cons c rest ih =>
    rw [quoteAfter, List.foldl_cons, quoteBehind_blank shown (blank c List.mem_cons_self)]
    exact ih fun other member => blank other (List.mem_cons_of_mem c member)

private theorem quoteBehind_shown {c : Char} (shown : Shown quote) :
    Shown (quoteBehind quote c) := by
  intro closing given
  cases quote with
  | none =>
    cases quoted : isQuote c with
    | false => simp [quoteBehind, quoted] at given
    | true =>
      have same : c = closing := by simpa [quoteBehind, quoted] using given
      cases blank : isBlank closing with
      | false => rfl
      | true =>
        rw [same, not_isQuote blank] at quoted
        cases quoted
  | some open_ =>
    by_cases closes : c = open_
    · simp [quoteBehind, closes] at given
    · exact shown closing (by simpa [quoteBehind, closes] using given)

theorem quoteAfter_shown (text : List Char) (shown : Shown quote) :
    Shown (quoteAfter quote text) := by
  induction text generalizing quote with
  | nil => exact shown
  | cons c rest ih => exact ih (quoteBehind_shown shown)

/-- The blanks around a text are outside of its strings. -/
theorem quoteAfter_trim (text : List Char) :
    quoteAfter none (Text.trim text) = quoteAfter none text := by
  obtain ⟨front, back, before, behind, whole⟩ := Text.exists_trim text
  have same := congrArg (quoteAfter none) whole
  have shown := quoteAfter_shown (Text.trim text) Shown.none
  rw [quoteAfter_append, quoteAfter_append, quoteAfter_blanks .none before,
    quoteAfter_blanks shown behind] at same
  exact same.symm

end Quotes

section Visible

theorem visibleFrom_append (quote : Option Char) (first rest : List Char) :
    visibleFrom quote (first ++ rest) =
      visibleFrom quote first ++ visibleFrom (quoteAfter quote first) rest := by
  induction first generalizing quote with
  | nil => rfl
  | cons c others ih =>
    have behind : quoteAfter (quoteBehind quote c) others = quoteAfter quote (c :: others) := rfl
    rw [List.cons_append, visibleFrom, visibleFrom, ih, behind]
    split <;> rfl

theorem visible_append {first : List Char} (closed : quoteAfter none first = none)
    (rest : List Char) : visible (first ++ rest) = visible first ++ visible rest := by
  rw [visible, visibleFrom_append, closed]
  rfl

theorem visible_blanks {blanks : List Char} (blank : ∀ c ∈ blanks, isBlank c = true) :
    visible blanks = [] := by
  induction blanks with
  | nil => rfl
  | cons c rest ih =>
    have here := blank c List.mem_cons_self
    rw [visible, visibleFrom, quoteBehind_blank .none here]
    simp only [here, Option.isNone_none, Bool.and_self, if_true]
    exact ih fun other member => blank other (List.mem_cons_of_mem c member)

/-- A text that ends outside of strings loses nothing visible with the blanks around it. -/
theorem visible_trim {text : List Char} (closed : quoteAfter none text = none) :
    visible (Text.trim text) = visible text := by
  obtain ⟨front, back, before, behind, whole⟩ := Text.exists_trim text
  have trimmed : quoteAfter none (Text.trim text) = none := (quoteAfter_trim text).trans closed
  have same := congrArg visible whole
  rw [visible_append (quoteAfter_blanks .none before), visible_append trimmed,
    visible_blanks before, visible_blanks behind, List.nil_append, List.append_nil] at same
  exact same.symm

private theorem visible_lineOf {text : List Char} (closed : quoteAfter none text = none)
    (depth : Nat) :
    visible (lineOf depth text) = visible text ∧ quoteAfter none (lineOf depth text) = none := by
  have trimmed : quoteAfter none (Text.trim text) = none := (quoteAfter_trim text).trans closed
  by_cases blank : Text.trim text = []
  · rw [lineOf_blank blank, ← visible_trim closed, blank]
    exact ⟨rfl, rfl⟩
  · have indent : ∀ c ∈ List.replicate (2 * depth) ' ', isBlank c = true := by
      intro c member
      rw [List.eq_of_mem_replicate member]
      rfl
    have outside := quoteAfter_blanks .none indent
    rw [lineOf_shown blank]
    constructor
    · rw [visible_append outside, visible_append trimmed, visible_trim closed,
        visible_blanks indent]
      exact List.append_nil _
    · rw [quoteAfter_append, quoteAfter_append, outside, trimmed]
      rfl

/-- Taking out the blanks outside of strings takes nothing out of the strings. -/
theorem stringsFrom_visibleFrom (quote : Option Char) (text : List Char) :
    stringsFrom quote (visibleFrom quote text) = stringsFrom quote text := by
  induction text generalizing quote with
  | nil => rfl
  | cons c rest ih =>
    rw [visibleFrom]
    split
    · rename_i dropped
      obtain ⟨outside, blank⟩ := Bool.and_eq_true_iff.mp dropped
      cases Option.isNone_iff_eq_none.mp outside
      rw [stringsFrom, quoteBehind_blank .none blank, ih]
      rfl
    · rw [stringsFrom, stringsFrom, ih]

theorem quotedStrings_visible (text : List Char) :
    quotedStrings (visible text) = quotedStrings text :=
  stringsFrom_visibleFrom none text

end Visible

theorem visible_withLine {text : List Char} {lines : List Line}
    (finished : quoteAfter none (rendered lines) = none) (closed : quoteAfter none text = none)
    (depth : Nat) :
    visible (rendered (withLine depth text lines)) = visible (rendered lines) ++ visible text ∧
      quoteAfter none (rendered (withLine depth text lines)) = none := by
  obtain ⟨shown, outside⟩ := visible_lineOf closed depth
  rw [rendered_withLine, quoteAfter_append, finished, visible_append finished, shown]
  exact ⟨rfl, outside⟩

namespace Progress

/-- The lines finished so far and the line under way show what has been read, and leave off where it
does: the finished lines outside of strings, the line under way in the same string. -/
structure Faithful (read : List Char) (progress : Progress) : Prop where
  finished : quoteAfter none (rendered progress.lines) = none
  line : quoteAfter none progress.pending.reverse = progress.quote
  quote : quoteAfter none read = progress.quote
  same : visible (rendered progress.lines) ++ visible progress.pending.reverse = visible read

section Steps

variable {read : List Char} {progress next : Progress} {c : Char} {offset : Nat}

/-- The end of a line and the blank for which it stands are alike. -/
theorem written_cases (enclosure : Enclosure) (c : Char) : enclosure.written c = c ∨
    enclosure.quote = none ∧ enclosure.written c = ' ' ∧ (c = '\n' ∨ c = '\r') := by
  unfold Enclosure.written
  split
  · rename_i ends
    obtain ⟨outside, line⟩ := Bool.and_eq_true_iff.mp ends
    exact .inr ⟨Option.isNone_iff_eq_none.mp outside, rfl, by simpa [isLineEnd] using line⟩
  · exact .inl rfl

private theorem quoteBehind_written (enclosure : Enclosure) (c : Char) :
    quoteBehind enclosure.quote (enclosure.written c) = quoteBehind enclosure.quote c := by
  rcases written_cases enclosure c with same | ⟨outside, blank, rfl | rfl⟩
  · rw [same]
  all_goals
    rw [blank, outside]
    rfl

private theorem visibleFrom_written (enclosure : Enclosure) (c : Char) :
    visibleFrom enclosure.quote [enclosure.written c] = visibleFrom enclosure.quote [c] := by
  rcases written_cases enclosure c with same | ⟨outside, blank, rfl | rfl⟩
  · rw [same]
  all_goals
    rw [blank, outside]
    rfl

private theorem Faithful.keep (faithful : Faithful read progress) (c : Char)
    (lines : next.lines = progress.lines)
    (pending : next.pending = progress.enclosure.written c :: progress.pending)
    (quote : next.quote = quoteBehind progress.quote c) : Faithful (read ++ [c]) next := by
  have written := visibleFrom_written progress.enclosure c
  have behind := quoteBehind_written progress.enclosure c
  refine ⟨lines ▸ faithful.finished, ?_, ?_, ?_⟩
  · rw [pending, List.reverse_cons, quoteAfter_append, faithful.line, quote]
    exact behind
  · rw [quoteAfter_append, faithful.quote, quote]
    rfl
  · rw [lines, pending, List.reverse_cons, visible, visible, visibleFrom_append, faithful.line,
      visible, visibleFrom_append, faithful.quote, ← List.append_assoc]
    exact congr (congrArg _ faithful.same) written

/-- Where a character ends a line, the finished lines show the line and the character. -/
theorem Faithful.ending (faithful : Faithful read progress) (outside : progress.quote = none)
    (plain : quoteBehind none c = none)
    (shown : visible (rendered next.lines) =
      visible (rendered progress.lines) ++ (visible progress.pending.reverse ++ visible [c]))
    (finished : quoteAfter none (rendered next.lines) = none) (pending : next.pending = [])
    (quote : next.quote = none) : Faithful (read ++ [c]) next := by
  have closed : quoteAfter none read = none := faithful.quote.trans outside
  refine ⟨finished, ?_, ?_, ?_⟩
  · rw [pending, quote]
    rfl
  · rw [quoteAfter_append, closed, quote]
    exact plain
  · have nothing : visible ([] : List Char).reverse = [] := rfl
    rw [shown, pending, visible_append closed, ← faithful.same, nothing, List.append_nil,
      List.append_assoc]

/-- Every character is shown, and no other. -/
theorem Faithful.step (faithful : Faithful read progress) (step : Step progress offset c next) :
    Faithful (read ++ [c]) next := by
  cases step with
  | keep _ keeps => exact faithful.keep c rfl rfl rfl
  | statement outside level =>
    have closed : quoteAfter none progress.pending.reverse = none := faithful.line.trans outside
    have ended : quoteAfter none (progress.pending.reverse ++ [';']) = none := by
      rw [quoteAfter_append, closed]
      rfl
    obtain ⟨shown, finished⟩ := visible_withLine faithful.finished ended progress.depth
    rw [visible_append closed] at shown
    exact faithful.ending outside rfl shown finished rfl outside
  | opening outside =>
    have closed : quoteAfter none progress.pending.reverse = none := faithful.line.trans outside
    have trimmed := (quoteAfter_trim progress.pending.reverse).trans closed
    have ended : quoteAfter none (Text.trim progress.pending.reverse ++ [' ', '\x7b']) = none := by
      rw [quoteAfter_append, trimmed]
      rfl
    obtain ⟨shown, finished⟩ := visible_withLine faithful.finished ended progress.depth
    rw [visible_append trimmed, visible_trim closed] at shown
    exact faithful.ending outside rfl shown finished rfl outside
  | @closing depth outside inside =>
    have closed : quoteAfter none progress.pending.reverse = none := faithful.line.trans outside
    obtain ⟨line, between⟩ := visible_withLine faithful.finished closed progress.depth
    have brace : quoteAfter none ['\x7d'] = none := rfl
    obtain ⟨shown, finished⟩ := visible_withLine between brace depth
    rw [line, List.append_assoc] at shown
    exact faithful.ending outside rfl shown finished rfl outside

private theorem start_faithful : Faithful [] start :=
  ⟨rfl, rfl, rfl, rfl⟩

end Steps

end Progress

/-- A layout and its stylesheet are the same text but for blanks outside of strings, and have the
same strings. -/
theorem layout_visible {source shown : String} (success : layout source = .ok shown) :
    visible shown.toList = visible source.toList ∧
      quotedStrings shown.toList = quotedStrings source.toList := by
  obtain ⟨progress, reads, outside, -, text⟩ := layout_eq_ok.mp success
  have faithful : Progress.Faithful source.toList progress :=
    Progress.readAll_invariant (fun _ _ _ _ _ before step => before.step step) []
      Progress.start_faithful reads
  have closed := faithful.line.trans outside
  have same : visible shown.toList = visible source.toList := by
    rw [text, (visible_withLine faithful.finished closed 0).1, faithful.same]
  refine ⟨same, ?_⟩
  rw [← quotedStrings_visible, same, quotedStrings_visible]

/-- A string over two lines with a brace in it, a semicolon in parentheses and a block without a
selector. -/
theorem layout_visible_strings :
    let source := " @import url(a ;b)  'x \n \x7d' ;\x7b color : red\r\n\x7d"
    let shown := "@import url(a ;b)  'x \n \x7d' ;\n\x7b\n  color : red\n\x7d\n"
    layout source = .ok shown ∧
      visible source.toList = "@importurl(a;b)'x \n \x7d';\x7bcolor:red\x7d".toList ∧
      visible shown.toList = visible source.toList ∧
      quotedStrings source.toList = ["'x \n \x7d'".toList] ∧
      quotedStrings shown.toList = quotedStrings source.toList := by
  intro source shown
  have success : layout source = .ok shown := by decide +kernel
  obtain ⟨same, strings⟩ := layout_visible success
  exact ⟨success, by decide +kernel, same, by decide +kernel, strings⟩

end PanelCompiler.Stylesheet
