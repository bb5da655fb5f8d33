import PanelCompiler.Proofs.Stylesheet.Lines

/-!
Strings of CSS as the values of declarations. The reader of a stylesheet knows no escapes, so a
string that holds its own quote is over too early for it. Every stylesheet that quotes certain
strings is laid out with one line for each declaration exactly if each of the strings stays on its
line when it is read without escapes; one that does not is not even printed right where it stands
twice in a block.
-/

namespace PanelCompiler

open Formatter (formatStylesheet)
open Style (marks)
open Text (Avoids isBlank trim trimEnd trimStart)

namespace Stylesheet

/-- The inside of a string: a backslash escapes the character behind it, and the quote around the
string stands in it only escaped. -/
inductive StringBody (quote : Char) : List Char → Prop
  | nil : StringBody quote []
  | plain {c : Char} {rest : List Char} (apart : c ≠ quote) (bare : c ≠ '\\')
    (later : StringBody quote rest) : StringBody quote (c :: rest)
  | escaped (c : Char) {rest : List Char} (later : StringBody quote rest) :
    StringBody quote ('\\' :: c :: rest)

instance StringBody.decidable (quote : Char) : DecidablePred (StringBody quote)
  | [] => .isTrue .nil
  | [c] =>
    if plain : c ≠ quote ∧ c ≠ '\\' then .isTrue (.plain plain.1 plain.2 .nil)
    else .isFalse fun | .plain apart bare _ => plain ⟨apart, bare⟩
  | c :: d :: rest =>
    if escape : c = '\\' then
      match decidable quote rest with
      | .isTrue later => .isTrue (escape ▸ .escaped d later)
      | .isFalse broken => .isFalse fun
        | .plain _ bare _ => bare escape
        | .escaped _ later => broken later
    else if apart : c ≠ quote then
      match decidable quote (d :: rest) with
      | .isTrue later => .isTrue (.plain apart escape later)
      | .isFalse broken => .isFalse fun
        | .plain _ _ later => broken later
        | .escaped _ _ => escape rfl
    else .isFalse fun
      | .plain differs _ _ => apart differs
      | .escaped _ _ => escape rfl

/-- A string of CSS between its quotes. -/
def IsStringLiteral (text : List Char) : Prop :=
  ∃ quote inner, isQuote quote = true ∧ StringBody quote inner ∧ text = quote :: (inner ++ [quote])

section Unescaped

variable {quote : Char} {text : List Char}

private theorem held_string (absent : quote ∉ text) :
    Held ⟨0, some quote⟩ (text ++ [quote]) .outer := by
  induction text with
  | nil =>
    have ends : Enclosure.after ⟨0, some quote⟩ quote = .outer := by
      simp [Enclosure.after, Enclosure.outer, quoteBehind]
    have held : Held ⟨0, some quote⟩ [quote] (Enclosure.after ⟨0, some quote⟩ quote) :=
      .single rfl rfl
    rwa [ends] at held
  | cons c rest ih =>
    have apart : c ≠ quote := fun same => absent (same ▸ List.mem_cons_self)
    have goesOn : Enclosure.after ⟨0, some quote⟩ c = ⟨0, some quote⟩ := by
      simp [Enclosure.after, quoteBehind, apart]
    refine .cons rfl rfl ?_
    rw [goesOn]
    exact ih fun member => absent (List.mem_cons_of_mem c member)

/-- A string that does not hold its own quote stays on its line, whatever else stands in it. -/
theorem staysOnLine_string (quoted : isQuote quote = true) (absent : quote ∉ text) :
    StaysOnLine (quote :: (text ++ [quote])) := by
  have held := held_string absent
  rcases Bool.or_eq_true_iff.mp quoted with double | single
  · rw [beq_iff_eq.mp double] at held ⊢
    exact .cons rfl rfl held
  · rw [beq_iff_eq.mp single] at held ⊢
    exact .cons rfl rfl held

theorem IsStringLiteral.stays (literal : IsStringLiteral text) (first : text.head? = some quote)
    (twice : text.count quote = 2) : StaysOnLine text := by
  obtain ⟨delimiter, inner, quoted, _, rfl⟩ := literal
  obtain rfl : delimiter = quote := Option.some.inj first
  refine staysOnLine_string quoted (List.count_eq_zero.mp ?_)
  simpa using twice

end Unescaped

namespace Progress

section Ending

variable {lines : List Line} {depth : Nat} {enclosure : Enclosure} {line text : List Char}
  {progress next last : Progress} {c first : Char}

theorem suffix_withLine (depth : Nat) (text : List Char) (lines : List Line) :
    lines <:+ withLine depth text lines := by
  unfold withLine
  split
  · exact List.suffix_refl lines
  · exact List.suffix_cons _ lines

theorem shown_suffix (shown : trim text ≠ []) (depth : Nat) (lines : List Line) :
    ⟨depth, trim text⟩ :: lines <:+ withLine depth text lines := by
  simp [withLine_shown shown]

private theorem Step.suffix {offset : Nat} (step : Step progress offset c next) :
    progress.lines <:+ next.lines := by
  cases step with
  | keep _ keeps => exact List.suffix_refl _
  | statement => exact suffix_withLine _ _ _
  | opening => exact suffix_withLine _ _ _
  | @closing depth =>
    have line := suffix_withLine progress.depth progress.pending.reverse progress.lines
    exact line.trans (suffix_withLine depth ['\x7d'] _)

private theorem readAll_suffix (success : progress.readAll text = .ok last) :
    progress.lines <:+ last.lines :=
  readAll_invariant (P := fun _ next => progress.lines <:+ next.lines)
    (fun _ _ _ _ _ within step => within.trans step.suffix) [] (List.suffix_refl _) success

/-- What a line is when a character ends it. -/
inductive Ended (line : List Char) : Char → List Char → Prop
  | statement : Ended line ';' (trim (line ++ [';']))
  | opening : Ended line '\x7b' (trim line ++ [' ', '\x7b'])
  | closing : Ended line '\x7d' (trim line)

theorem At.keep {rest : List Char} (begun : At lines depth enclosure line progress)
    (keeps : enclosure.keeps c = true) (success : progress.readAll (c :: rest) = .ok last) :
    ∃ next, At lines depth (enclosure.after c) (line ++ [enclosure.written c]) next ∧
      next.readAll rest = .ok last := by
  obtain ⟨next, read, kept⟩ := begun.kept keeps
  obtain ⟨_, same, success⟩ := readAll_cons_eq_ok.mp success
  cases same.symm.trans read
  exact ⟨next, kept, success⟩

private theorem At.ends_line (begun : At lines depth enclosure (first :: line) progress)
    (visible : isBlank first = false) (ends : enclosure.keeps c = false)
    (read : progress.read c = .ok next) :
    ∃ place shown, Ended (first :: line) c shown ∧ ⟨place, shown⟩ :: lines <:+ next.lines := by
  have trimmed := begun.ends.trim_pending
  have begins := Text.trim_cons visible line
  obtain ⟨blanks, blank, pending⟩ := begun.pending
  obtain rfl := begun.enclosure
  obtain rfl := begun.lines
  cases read_eq_ok.mp read with
  | keep _ keeps =>
    rw [ends] at keeps
    cases keeps
  | statement =>
    have same : trim (progress.pending.reverse ++ [';']) = trim (first :: line ++ [';']) := by
      rw [pending, List.append_assoc, Text.trim_append blank]
    have shown : trim (progress.pending.reverse ++ [';']) ≠ [] := by
      rw [same, Text.trim_concat (by decide)]
      exact List.concat_ne_nil _ _
    have finished := shown_suffix shown progress.depth progress.lines
    rw [same] at finished
    exact ⟨progress.depth, _, .statement, finished⟩
  | opening =>
    have same : trim (trim progress.pending.reverse ++ [' ', '\x7b']) =
        trim (first :: line) ++ [' ', '\x7b'] := by
      rw [trimmed, begins]
      exact trim_selector visible _
    have shown : trim (trim progress.pending.reverse ++ [' ', '\x7b']) ≠ [] := by
      rw [same]
      exact List.append_ne_nil_of_right_ne_nil _ (List.cons_ne_nil _ _)
    have finished := shown_suffix shown progress.depth progress.lines
    rw [same] at finished
    exact ⟨progress.depth, _, .opening, finished⟩
  | @closing depth =>
    have shown : trim progress.pending.reverse ≠ [] := by
      rw [trimmed, begins]
      exact List.cons_ne_nil _ _
    have finished := shown_suffix shown progress.depth progress.lines
    rw [trimmed] at finished
    exact ⟨progress.depth, _, .closing, finished.trans (suffix_withLine depth ['\x7d'] _)⟩

theorem At.ended {rest : List Char} (begun : At lines depth enclosure (first :: line) progress)
    (visible : isBlank first = false) (ends : enclosure.keeps c = false)
    (success : progress.readAll (c :: rest) = .ok last) :
    ∃ place shown, Ended (first :: line) c shown ∧
      ⟨place, shown⟩ :: lines <:+ withLine 0 last.pending.reverse last.lines := by
  obtain ⟨next, read, success⟩ := readAll_cons_eq_ok.mp success
  obtain ⟨place, shown, ended, within⟩ := begun.ends_line visible ends read
  have later := within.trans (readAll_suffix success)
  exact ⟨place, shown, ended, later.trans (suffix_withLine 0 _ _)⟩

/-- The line of a selector ends with its brace, and every other one is hardly longer than what was
read of it. -/
theorem Ended.short {shown : List Char} (ended : Ended line c shown) :
    shown.getLast? = some '\x7b' ∨ shown.length ≤ line.length + 1 := by
  cases ended with
  | statement =>
    have length := Text.length_trim_le (line ++ [';'])
    rw [List.length_append] at length
    exact .inr length
  | opening => exact .inl (by simp)
  | closing => exact .inr (Nat.le_succ_of_le (Text.length_trim_le line))

/-- The next line to be finished, unless it is that of a selector, begins with what is read of it,
but for the blanks behind that. -/
theorem At.next_line (begun : At lines depth enclosure (first :: line) progress)
    (visible : isBlank first = false) (success : progress.readAll text = .ok last) :
    ∃ place shown, ⟨place, shown⟩ :: lines <:+ withLine 0 last.pending.reverse last.lines ∧
      (shown.getLast? = some '\x7b' ∨ ∃ more, shown = first :: trimEnd (line ++ more)) := by
  induction text generalizing progress enclosure line with
  | nil =>
    obtain rfl : progress = last := Except.ok.inj success
    obtain rfl := begun.lines
    have trimmed := begun.ends.trim_pending
    have begins := Text.trim_cons visible line
    have shown : trim progress.pending.reverse ≠ [] := by
      rw [trimmed, begins]
      exact List.cons_ne_nil _ _
    have finished := shown_suffix shown 0 progress.lines
    rw [trimmed, begins] at finished
    exact ⟨0, _, finished, .inr ⟨[], by rw [List.append_nil]⟩⟩
  | cons c rest ih =>
    by_cases keeps : enclosure.keeps c = true
    · obtain ⟨next, kept, success⟩ := begun.keep keeps success
      rw [List.cons_append] at kept
      obtain ⟨place, shown, within, text⟩ := ih kept success
      refine ⟨place, shown, within, text.imp_right fun ⟨more, text⟩ => ?_⟩
      exact ⟨enclosure.written c :: more, by rw [text, List.append_assoc, List.singleton_append]⟩
    · obtain ⟨place, shown, ended, within⟩ :=
        begun.ended visible (Bool.not_eq_true _ ▸ keeps) success
      refine ⟨place, shown, within, ?_⟩
      cases ended with
      | statement => exact .inr ⟨[';'], Text.trim_cons visible _⟩
      | opening => exact .inl (by simp)
      | closing => exact .inr ⟨[], by rw [List.append_nil, Text.trim_cons visible]⟩

theorem line_unique {other here : Line} {all : List Line} (one : here :: lines <:+ all)
    (two : other :: lines <:+ all) : here = other := by
  have within := List.suffix_of_suffix_length_le one two (Nat.le_refl _)
  exact (List.cons.inj (within.eq_of_length rfl)).1

theorem At.next_statement {statement : List Char} {place : Nat}
    (begun : At lines depth enclosure (first :: line) progress) (visible : isBlank first = false)
    (success : progress.readAll text = .ok last)
    (finished : ⟨place, statement ++ [';']⟩ :: lines <:+
      withLine 0 last.pending.reverse last.lines) :
    ∃ more, statement ++ [';'] = first :: trimEnd (line ++ more) := by
  obtain ⟨_, shown, within, begins⟩ := begun.next_line visible success
  have same : statement ++ [';'] = shown := congrArg Line.text (line_unique finished within)
  rw [← same] at begins
  exact begins.resolve_left (by simp)

private theorem keeps_of_not_mem_marks (plain : c ∉ marks) : enclosure.keeps c = true := by
  simp only [marks, List.mem_cons, not_or] at plain
  simp [Enclosure.keeps, plain]

private theorem written_of_not_mem_marks (plain : c ∉ marks) : enclosure.written c = c := by
  simp only [marks, List.mem_cons, not_or] at plain
  simp [Enclosure.written, isLineEnd, plain]

/-- A line has not been ended by a character that stands in it, with others behind it. -/
theorem At.keeps_of_line {rest others : List Char} {place : Nat} (visible : isBlank first = false)
    (begun : At lines depth enclosure (first :: line) progress)
    (success : progress.readAll (c :: rest) = .ok last)
    (finished : ⟨place, first :: line ++ c :: others ++ [';']⟩ :: lines <:+
      withLine 0 last.pending.reverse last.lines) : enclosure.keeps c = true := by
  by_contra ends
  obtain ⟨_, shown, ended, within⟩ := begun.ended visible (Bool.not_eq_true _ ▸ ends) success
  have same : shown = first :: line ++ c :: others ++ [';'] :=
    congrArg Line.text (line_unique within finished)
  rcases ended.short with brace | short
  · rw [same, List.getLast?_concat] at brace
    cases brace
  · rw [same] at short
    simp at short

/-- What has been written on a line is what stands there when it is finished. -/
theorem At.written_of_line {written : Char} {others : List Char} {place : Nat}
    (visible : isBlank first = false)
    (begun : At lines depth enclosure (first :: (line ++ [written])) progress)
    (success : progress.readAll text = .ok last)
    (finished : ⟨place, first :: line ++ c :: others ++ [';']⟩ :: lines <:+
      withLine 0 last.pending.reverse last.lines) : written = c := by
  obtain ⟨more, same⟩ := begun.next_statement visible success finished
  have begins : line ++ c :: (others ++ [';']) <+: line ++ written :: more := by
    have whole : trimEnd (line ++ [written] ++ more) <+: line ++ [written] ++ more :=
      List.rdropWhile_prefix isBlank _
    rw [← (List.cons.inj same).2] at whole
    simpa using whole
  rw [List.prefix_append_right_inj, List.cons_prefix_cons] at begins
  exact begins.1.symm

/-- Had the semicolon not ended the line, the name behind it would stand there. -/
theorem At.outer_of_line {more : List Char} {place : Nat} {name : Char} (named : name ∉ marks)
    (shown : isBlank name = false) (visible : isBlank first = false)
    (begun : At lines depth enclosure (first :: line) progress)
    (success : progress.readAll (';' :: '\n' :: name :: more) = .ok last)
    (finished : ⟨place, first :: line ++ [';']⟩ :: lines <:+
      withLine 0 last.pending.reverse last.lines) : enclosure = .outer := by
  have ends : enclosure.keeps ';' = false := by
    by_contra keeps
    obtain ⟨_, kept, success⟩ := begun.keep (Bool.not_eq_false _ ▸ keeps) success
    obtain ⟨_, kept, success⟩ := kept.keep (keeps_blank rfl) success
    obtain ⟨_, kept, success⟩ := kept.keep (keeps_of_not_mem_marks named) success
    rw [written_of_not_mem_marks named] at kept
    simp only [List.cons_append] at kept
    obtain ⟨others, same⟩ := kept.next_statement visible success finished
    rw [List.append_assoc _ [name], List.singleton_append, Text.trimEnd_append_cons shown] at same
    have length := congrArg List.length same
    simp at length
  obtain ⟨outside, closed⟩ := Enclosure.keeps_eq_false.mp ends
  obtain ⟨parentheses, quote⟩ := enclosure
  obtain rfl : parentheses = 0 := by simpa using closed
  obtain rfl : quote = none := outside
  rfl

/-- Where the line under way is finished as the text and a semicolon, although a name follows behind
the end of that line, the text has stayed on its line. The induction follows the text: the first of
its characters that ends the line or is changed would show in the line, and so would the name if the
semicolon had not ended it. -/
theorem At.held_of_line {more : List Char} {place : Nat} {name : Char}
    (named : name ∉ marks) (shown : isBlank name = false) (visible : isBlank first = false)
    (begun : At lines depth enclosure (first :: line) progress)
    (success : progress.readAll (text ++ ';' :: '\n' :: name :: more) = .ok last)
    (finished : ⟨place, first :: line ++ text ++ [';']⟩ :: lines <:+
      withLine 0 last.pending.reverse last.lines) : Held enclosure text .outer := by
  induction text generalizing progress enclosure line with
  | nil =>
    rw [List.append_nil] at finished
    rw [begun.outer_of_line named shown visible success finished]
    exact .nil _
  | cons c rest ih =>
    rw [List.cons_append] at success
    have keeps := begun.keeps_of_line visible success finished
    obtain ⟨next, kept, success⟩ := begun.keep keeps success
    have written := kept.written_of_line visible success finished
    rw [written] at kept
    refine .cons keeps written (ih kept success ?_)
    simpa using finished

end Ending

end Progress

end Stylesheet

namespace RuleBlock

open Stylesheet (IsStringLiteral Progress StaysOnLine WritesLines)

section Quoting

variable {text : String}

theorem quotes_single {Given : List Char → Prop} {className : String} {style : Fields}
    (plain : Avoids marks className.toList) (quoted : ∀ declaration ∈ style,
      Avoids marks declaration.1.toList ∧ ∃ text, declaration.2 = .string text ∧
      Given text.toList) :
    ∀ block ∈ listBlocks [⟨className, []⟩], block.Quotes ⟨[(className, style)]⟩ Given := by
  intro block member
  obtain rfl : block = ⟨className, []⟩ := by simpa [listBlocks, blocks] using member
  refine ⟨plain, fun own bound => ?_⟩
  obtain rfl : style = own := by simpa [StyleRegistry.get?] using bound
  exact quoted

def quotedTwice (text : String) : StyleRegistry :=
  ⟨[("a", [("p", .string text), ("q", .string text)])]⟩

private theorem quotedTwice_quotes {Given : List Char → Prop} (given : Given text.toList) :
    ∀ block ∈ listBlocks [⟨"a", []⟩], block.Quotes (quotedTwice text) Given := by
  have names : Avoids marks "p".toList ∧ Avoids marks "q".toList := by decide
  refine quotes_single (by decide) fun declaration member => ?_
  rcases List.mem_cons.mp member with rfl | later
  · exact ⟨names.1, text, rfl, given⟩
  · rw [List.mem_singleton.mp later]
    exact ⟨names.2, text, rfl, given⟩

private theorem listText_quotedTwice : (listText (quotedTwice text) [⟨"a", []⟩]).toList =
    ("." ++ "a" ++ " \x7b").toList ++ "p: ".toList ++
      (text.toList ++ ';' :: '\n' :: 'q' :: (": " ++ text ++ ";\n\x7d").toList) := by
  have names : Style.hyphenate "p" = "p" ∧ Style.hyphenate "q" = "q" := by decide +kernel
  have styled : (quotedTwice text).get? "a" = some [("p", .string text), ("q", .string text)] := rfl
  simp [listText, RuleBlock.text, styled, declarationsText, declarationText, names,
    Style.declarationValue]

private theorem forestLines_quotedTwice : forestLines (quotedTwice text) 0 [⟨"a", []⟩] =
    [selectorLine 0 "a", ⟨1, 'p' :: ": ".toList ++ text.toList ++ [';']⟩,
      declarationLine 1 ("q", .string text), ⟨0, ['\x7d']⟩] := by
  have name : trimStart (Style.hyphenate "p" ++ ": ").toList = 'p' :: ": ".toList := by
    decide +kernel
  have styled : (quotedTwice text).get? "a" = some [("p", .string text), ("q", .string text)] := rfl
  have first : declarationLine 1 ("p", .string text) =
      ⟨1, 'p' :: ": ".toList ++ text.toList ++ [';']⟩ := by
    rw [declarationLine, name, Style.declarationValue, List.append_assoc]
  simp [forestLines, blockLines, styled, first]

/-- A string that is printed right twice in a row stays on its line. -/
theorem stays_of_laidOut (laid : LaidOut (quotedTwice text) [⟨"a", []⟩]) :
    StaysOnLine text.toList := by
  obtain ⟨last, reads, _, _, finished⟩ := Stylesheet.lines_eq_ok.mp laid.lines
  have selected := @WritesLines.selector 0 "a" (by decide) []
  have named : Progress.Reads (Progress.At [selectorLine 0 "a"] 1 .outer []) "p: ".toList
      (Progress.At [selectorLine 0 "a"] 1 .outer ('p' :: ": ".toList)) :=
    Progress.reads_held (Stylesheet.staysOnLine_plain (by decide))
  obtain ⟨next, before, begun⟩ := selected.append named Progress.start
    ⟨rfl, rfl, rfl, [], nofun, rfl⟩
  rw [listText_quotedTwice, Progress.readAll_append, before] at reads
  rw [forestLines_quotedTwice] at finished
  have line : ⟨1, 'p' :: ": ".toList ++ text.toList ++ [';']⟩ :: [selectorLine 0 "a"] <:+
      Stylesheet.withLine 0 last.pending.reverse last.lines := by
    have written := congrArg List.reverse finished
    rw [List.reverse_reverse] at written
    rw [← written]
    exact ⟨[⟨0, ['\x7d']⟩, declarationLine 1 ("q", .string text)], rfl⟩
  have unmarked : 'q' ∉ marks := by decide
  exact begun.held_of_line unmarked (by decide) (by decide) reads line

/-- The stylesheets that quote certain strings of CSS are all laid out line by line if and only if
each of the strings, read without escapes, stays on its line. A string does so if its quote stands
nowhere but at its two ends. -/
theorem literals_laidOut_iff {Given : List Char → Prop}
    (wellFormed : ∀ text, Given text → IsStringLiteral text) :
    ((∀ registry forest, (∀ block ∈ listBlocks forest, block.Quotes registry Given) →
        LaidOut registry forest) ↔ ∀ text, Given text → StaysOnLine text) ∧
      ∀ text quote, Given text → text.head? = some quote → text.count quote = 2 →
        StaysOnLine text := by
  refine ⟨⟨fun laid text given => ?_, fun stay registry forest quoted => ?_⟩,
    fun text quote given first twice => (wellFormed text given).stays first twice⟩
  · have same : (String.ofList text).toList = text := String.toList_ofList
    rw [← same]
    exact stays_of_laidOut (laid _ _ (quotedTwice_quotes (same.symm ▸ given)))
  · exact laidOut_of_stay fun block member => (quoted block member).imp stay

/-- A string with an escaped brace, a semicolon, a parenthesis and the other quote in it. -/
theorem literals_laidOut_iff_marks :
    let literal := "\"\\7b; \x7d( it's\""
    let registry : StyleRegistry := ⟨[("size", [("content", .string literal)])]⟩
    (∀ text, text = literal.toList → IsStringLiteral text) ∧
      (∀ block ∈ listBlocks [⟨"size", []⟩], block.Quotes registry (· = literal.toList)) ∧
      literal.toList.head? = some '"' ∧ literal.toList.count '"' = 2 ∧
      StaysOnLine literal.toList ∧ LaidOut registry [⟨"size", []⟩] := by
  intro literal registry
  have wellFormed : IsStringLiteral literal.toList :=
    ⟨'"', "\\7b; \x7d( it's".toList, rfl, by decide +kernel, by decide +kernel⟩
  have given : ∀ text, text = literal.toList → IsStringLiteral text := by
    rintro _ rfl
    exact wellFormed
  have quoted : ∀ block ∈ listBlocks [⟨"size", []⟩],
      block.Quotes registry (· = literal.toList) :=
    quotes_single (by decide) (List.forall_mem_singleton.mpr ⟨by decide, literal, rfl, rfl⟩)
  have ends : literal.toList.head? = some '"' ∧ literal.toList.count '"' = 2 := by decide +kernel
  have stays := (literals_laidOut_iff given).2 _ '"' rfl ends.1 ends.2
  refine ⟨given, quoted, ends.1, ends.2, stays, ?_⟩
  refine (literals_laidOut_iff given).1.mpr ?_ registry _ quoted
  rintro _ rfl
  exact stays

/-- The escaped quote ends the string for the reader, and the last quote begins another one. -/
theorem escaped_quote_unterminated :
    let literal := "\"5\\\" wide\""
    let registry : StyleRegistry := ⟨[("size", [("content", .string literal)])]⟩
    IsStringLiteral literal.toList ∧
      (∀ block ∈ listBlocks [⟨"size", []⟩], block.Quotes registry IsStringLiteral) ∧
      formatStylesheet (listText registry [⟨"size", []⟩]) = .error "unterminated string" := by
  intro literal registry
  have wellFormed : IsStringLiteral literal.toList :=
    ⟨'"', "5\\\" wide".toList, rfl, by decide +kernel, by decide +kernel⟩
  refine ⟨wellFormed, quotes_single (by decide) ?_, by decide +kernel⟩
  exact List.forall_mem_singleton.mpr ⟨by decide, literal, rfl, wellFormed⟩

end Quoting

end RuleBlock

end PanelCompiler
