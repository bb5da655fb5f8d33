import Mathlib.Data.List.Induction
import PanelCompiler.Panel.Formatter
import PanelCompiler.Proofs.Stylesheet.Visible

namespace PanelCompiler.Stylesheet

/-- Texts at whose end no string is under way. A string goes from a quote to the next one that is
equal. -/
inductive Closed : List Char → Prop
  | nil : Closed []
  | plain {text : List Char} {c : Char} (before : Closed text) (plain : isQuote c = false) :
    Closed (text ++ [c])
  | string {text inside : List Char} {quote : Char} (before : Closed text)
    (opens : isQuote quote = true) (apart : quote ∉ inside) :
    Closed (text ++ quote :: (inside ++ [quote]))

section Closed

variable {text : List Char}

theorem quoteAfter_concat (quote : Option Char) (text : List Char) (c : Char) :
    quoteAfter quote (text ++ [c]) = quoteBehind (quoteAfter quote text) c :=
  quoteAfter_append quote text [c]

theorem quoteAfter_opened {before inside : List Char} {quote : Char}
    (outside : quoteAfter none before = none) (opens : isQuote quote = true)
    (apart : quote ∉ inside) : quoteAfter none (before ++ quote :: inside) = some quote := by
  induction inside using List.reverseRecOn with
  | nil =>
    rw [quoteAfter_concat, outside]
    simp [quoteBehind, opens]
  | append_singleton inside c ih =>
    obtain ⟨earlier, last⟩ : quote ∉ inside ∧ quote ≠ c := by simpa using apart
    rw [← List.cons_append, ← List.append_assoc, quoteAfter_concat, ih earlier]
    simp [quoteBehind, Ne.symm last]

theorem Closed.outside (closed : Closed text) : quoteAfter none text = none := by
  induction closed with
  | nil => rfl
  | plain _ plain before =>
    rw [quoteAfter_concat, before]
    simp [quoteBehind, plain]
  | string _ opens apart before =>
    rw [← List.cons_append, ← List.append_assoc, quoteAfter_concat,
      quoteAfter_opened before opens apart]
    simp [quoteBehind]

theorem closed_or_open (text : List Char) : Closed text ∨ ∃ before quote inside, Closed before ∧
    isQuote quote = true ∧ quote ∉ inside ∧ text = before ++ quote :: inside := by
  induction text using List.reverseRecOn with
  | nil => exact .inl .nil
  | append_singleton text c ih =>
    rcases ih with closed | ⟨before, quote, inside, closed, opens, apart, rfl⟩
    · cases quoted : isQuote c with
      | false => exact .inl (closed.plain quoted)
      | true => exact .inr ⟨text, c, [], closed, quoted, List.not_mem_nil, rfl⟩
    · rw [List.append_assoc, List.cons_append]
      by_cases closes : c = quote
      · subst closes
        exact .inl (closed.string opens apart)
      · refine .inr ⟨before, quote, inside ++ [c], closed, opens, ?_, rfl⟩
        simp [apart, Ne.symm closes]

theorem closed_iff : Closed text ↔ quoteAfter none text = none := by
  refine ⟨Closed.outside, fun outside => ?_⟩
  rcases closed_or_open text with closed | ⟨before, quote, inside, closed, opens, apart, rfl⟩
  · exact closed
  · rw [quoteAfter_opened closed.outside opens apart] at outside
    cases outside

instance (text : List Char) : Decidable (Closed text) :=
  decidable_of_iff _ closed_iff.symm

end Closed

/-- How often a character stands outside of strings. -/
def outerCount (c : Char) (text : List Char) : Nat :=
  (List.range text.length).countP fun place => text[place]? = some c ∧ Closed (text.take place)

theorem outerCount_concat (brace : Char) (text : List Char) (c : Char) :
    outerCount brace (text ++ [c]) =
      outerCount brace text + if c = brace ∧ Closed text then 1 else 0 := by
  have before : ∀ place ∈ List.range text.length,
      decide ((text ++ [c])[place]? = some brace ∧ Closed ((text ++ [c]).take place)) = true ↔
        decide (text[place]? = some brace ∧ Closed (text.take place)) = true := by
    intro place member
    have within := List.mem_range.mp member
    rw [List.getElem?_append_left within, List.take_append_of_le_length (Nat.le_of_lt within)]
  rw [outerCount, List.length_append, List.length_singleton, List.range_succ, List.countP_append,
    List.countP_congr before]
  simp [outerCount, List.countP_singleton]

/-- A closing brace outside of strings, behind as many closing braces as opening ones. -/
structure Stray (text before : List Char) : Prop where
  brace : before ++ ['\x7d'] <+: text
  outside : Closed before
  even : outerCount '\x7d' before = outerCount '\x7b' before

/-- What stands in front of the first stray brace. -/
structure FirstStray (text before : List Char) : Prop where
  stray : Stray text before
  first : ∀ other, Stray text other → before.length ≤ other.length

/-- No brace of the text is stray. -/
def Unstrayed (text : List Char) : Prop :=
  ∀ before, ¬ Stray text before

section Stray

variable {text before : List Char} {c : Char}

theorem stray_concat : Stray (text ++ [c]) before ↔ Stray text before ∨
    before = text ∧ c = '\x7d' ∧ Closed text ∧ outerCount '\x7d' text = outerCount '\x7b' text := by
  constructor
  · intro stray
    rcases List.prefix_concat_iff.mp stray.brace with whole | within
    · obtain ⟨rfl, last⟩ := List.append_inj' whole rfl
      exact .inr ⟨rfl, (List.singleton_inj.mp last).symm, stray.outside, stray.even⟩
    · exact .inl ⟨within, stray.outside, stray.even⟩
  · rintro (stray | ⟨rfl, rfl, outside, even⟩)
    · exact ⟨stray.brace.trans (List.prefix_append text [c]), stray.outside, stray.even⟩
    · exact ⟨List.prefix_rfl, outside, even⟩

theorem Stray.length_lt (stray : Stray text before) : before.length < text.length := by
  have within := stray.brace.length_le
  rwa [List.length_append] at within

instance (text before : List Char) : Decidable (Stray text before) :=
  decidable_of_iff (before ++ ['\x7d'] <+: text ∧ Closed before ∧
      outerCount '\x7d' before = outerCount '\x7b' before)
    ⟨fun ⟨brace, outside, even⟩ => ⟨brace, outside, even⟩,
      fun stray => ⟨stray.brace, stray.outside, stray.even⟩⟩

/-- What stands in front of a brace is as much of the text as its length tells. -/
theorem Stray.eq_take (stray : Stray text before) : before = text.take before.length :=
  List.prefix_iff_eq_take.mp ((List.prefix_append before _).trans stray.brace)

theorem unstrayed_iff : Unstrayed text ↔ ∀ place < text.length, ¬ Stray text (text.take place) := by
  refine ⟨fun unstrayed place _ => unstrayed _, fun none before stray => ?_⟩
  exact none _ stray.length_lt (stray.eq_take ▸ stray)

instance (text : List Char) : Decidable (Unstrayed text) :=
  decidable_of_iff _ unstrayed_iff.symm

theorem firstStray_iff : FirstStray text before ↔
    Stray text before ∧ ∀ place < before.length, ¬ Stray text (text.take place) := by
  constructor
  · rintro ⟨stray, first⟩
    refine ⟨stray, fun place shorter other => ?_⟩
    have least := first _ other
    have taken := List.length_take_le place text
    omega
  · rintro ⟨stray, none⟩
    refine ⟨stray, fun other another => ?_⟩
    by_contra shorter
    exact none _ (Nat.lt_of_not_le shorter) (another.eq_take ▸ another)

instance (text before : List Char) : Decidable (FirstStray text before) :=
  decidable_of_iff _ firstStray_iff.symm

theorem FirstStray.concat (first : FirstStray text before) (c : Char) :
    FirstStray (text ++ [c]) before := by
  refine ⟨stray_concat.mpr (.inl first.stray), fun other stray => ?_⟩
  rcases stray_concat.mp stray with known | ⟨rfl, -⟩
  · exact first.first other known
  · exact Nat.le_of_lt first.stray.length_lt

end Stray

namespace Progress

/-- The reader knows of the text what matters for its faults. -/
structure Accounts (text : List Char) (progress : Progress) : Prop where
  quote : quoteAfter none text = progress.quote
  depth : outerCount '\x7b' text = outerCount '\x7d' text + progress.depth
  offset : progress.offset = (String.ofList text).utf8ByteSize
  unstrayed : Unstrayed text

section Steps

variable {text : List Char} {progress next : Progress} {c : Char} {count : Nat}

theorem Step.offset (step : Step progress count c next) : next.offset = count := by
  cases step <;> rfl

private theorem Step.quote (step : Step progress count c next) :
    next.quote = quoteBehind progress.quote c := by
  cases step with
  | keep _ _ => rfl
  | statement outside _ | opening outside | closing outside _ =>
    dsimp only
    rw [outside]
    rfl

private theorem Step.depth (step : Step progress count c next) :
    progress.depth + (if c = '\x7b' ∧ progress.quote = none then 1 else 0) =
      next.depth + if c = '\x7d' ∧ progress.quote = none then 1 else 0 := by
  cases step with
  | keep _ keeps =>
    have kept (brace : c = '\x7b' ∨ c = '\x7d') : progress.quote ≠ none := by
      intro outside
      have ends : progress.enclosure.keeps c = false :=
        Enclosure.keeps_eq_false.mpr ⟨outside, brace.imp_right .inl⟩
      rw [ends] at keeps
      cases keeps
    rw [if_neg fun opens => kept (.inl opens.1) opens.2,
      if_neg fun closes => kept (.inr closes.1) closes.2]
  | statement outside _ => simp
  | opening outside => simp [outside]
  | closing outside inside => simp [outside, inside]

/-- Reading fails at a closing brace outside of strings and blocks, and nowhere else. -/
theorem read_error {fault : Fault} (failure : progress.read c = .error fault) :
    progress.quote = none ∧ c = '\x7d' ∧ progress.depth = 0 ∧
      fault = .unexpectedBrace progress.offset := by
  by_cases keeps : progress.enclosure.keeps c = true
  · rw [read_kept keeps] at failure
    cases failure
  · obtain ⟨outside, ending⟩ := Enclosure.keeps_eq_false.mp (Bool.not_eq_true _ ▸ keeps)
    rw [read_outside outside] at failure
    rcases ending with rfl | rfl | ⟨rfl, level⟩
    · rw [readOuter_opening] at failure
      cases failure
    · cases place : progress.depth with
      | zero =>
        rw [readOuter_stray place] at failure
        cases failure
        exact ⟨outside, rfl, rfl, rfl⟩
      | succ depth =>
        rw [readOuter_closing place] at failure
        cases failure
    · rw [readOuter_statement level] at failure
      cases failure

theorem Accounts.closed_iff (accounts : Accounts text progress) :
    Closed text ↔ progress.quote = none := by
  rw [Stylesheet.closed_iff, accounts.quote]

private theorem Accounts.step (accounts : Accounts text progress)
    (step : Step progress (progress.offset + c.utf8Size) c next) :
    Accounts (text ++ [c]) next where
  quote := by rw [quoteAfter_concat, accounts.quote, step.quote]
  depth := by
    have levels := step.depth
    have before := accounts.depth
    simp only [outerCount_concat, accounts.closed_iff]
    omega
  offset := by
    rw [step.offset, accounts.offset, String.ofList_append, String.utf8ByteSize_append]
    simp
  unstrayed := by
    intro before stray
    rcases stray_concat.mp stray with known | ⟨-, rfl, closed, even⟩
    · exact accounts.unstrayed before known
    · -- The step at a stray brace would lead out of a depth that is none.
      have outside := accounts.closed_iff.mp closed
      have levels := step.depth
      have before := accounts.depth
      simp only [outside, and_true, if_true] at levels
      have other : ¬ '\x7d' = '\x7b' := by decide
      rw [if_neg other] at levels
      omega

private theorem start_accounts : Accounts [] start where
  quote := rfl
  depth := rfl
  offset := rfl
  unstrayed := fun _ stray => absurd stray.length_lt (Nat.not_lt_zero _)

/-- A text is read to its end, or up to the first stray brace. -/
theorem readAll_start (text : List Char) :
    (∃ progress, start.readAll text = .ok progress ∧ Accounts text progress) ∨
      ∃ before, FirstStray text before ∧ start.readAll text =
        .error (.unexpectedBrace (String.ofList before).utf8ByteSize) := by
  -- The text grows at its end: a reader that stopped at a brace stops there whatever follows.
  induction text using List.reverseRecOn with
  | nil => exact .inl ⟨start, rfl, start_accounts⟩
  | append_singleton text c ih =>
    rw [readAll_append]
    rcases ih with ⟨progress, reads, accounts⟩ | ⟨before, first, fails⟩
    · rw [reads]
      cases last : progress.read c with
      | ok next =>
        refine .inl ⟨next, ?_, accounts.step (read_eq_ok.mp last)⟩
        simp [readAll, last, bind, Except.bind]
      | error fault =>
        obtain ⟨outside, rfl, top, rfl⟩ := read_error last
        have closed := accounts.closed_iff.mpr outside
        have even : outerCount '\x7d' text = outerCount '\x7b' text := by
          rw [accounts.depth, top]
          rfl
        refine .inr ⟨text, ⟨stray_concat.mpr (.inr ⟨rfl, rfl, closed, even⟩), ?_⟩, ?_⟩
        · intro other stray
          rcases stray_concat.mp stray with known | ⟨rfl, -⟩
          · exact absurd known (accounts.unstrayed other)
          · exact Nat.le_refl _
        · simp [readAll, last, bind, Except.bind, accounts.offset]
    · rw [fails]
      exact .inr ⟨before, first.concat c, rfl⟩

end Steps

end Progress

section Verdict

open Formatter (formatStylesheet)

variable {source : String} {before other : List Char}

theorem FirstStray.unique {text : List Char} (one : FirstStray text before)
    (another : FirstStray text other) : before = other := by
  have within := (List.prefix_append before _).trans one.stray.brace
  have alike := (List.prefix_append other _).trans another.stray.brace
  have same := Nat.le_antisymm (one.first other another.stray) (another.first before one.stray)
  exact (List.prefix_of_prefix_length_le within alike (Nat.le_of_eq same)).eq_of_length same

theorem formatStylesheet_error {fault : Fault} (failure : layout source = .error fault) :
    formatStylesheet source = .error fault.message := by
  rw [formatStylesheet, failure]
  rfl

theorem layout_stray (first : FirstStray source.toList before) :
    layout source = .error (.unexpectedBrace (String.ofList before).utf8ByteSize) := by
  rcases Progress.readAll_start source.toList with ⟨progress, _, accounts⟩ | ⟨found, same, fails⟩
  · exact absurd first.stray (accounts.unstrayed before)
  · rw [first.unique same, layout, lines, fails]
    rfl

/-- What becomes of a text without a stray brace is decided by its end. -/
theorem layout_unstrayed (unstrayed : Unstrayed source.toList) :
    ∃ depth, outerCount '\x7b' source.toList = outerCount '\x7d' source.toList + depth ∧
      (¬ Closed source.toList → layout source = .error .unterminatedString) ∧
      (Closed source.toList → depth ≠ 0 → layout source = .error (.unclosedBlocks depth)) ∧
      (Closed source.toList → depth = 0 → ∃ shown, layout source = .ok shown) := by
  rcases Progress.readAll_start source.toList with ⟨progress, reads, accounts⟩ | ⟨_, first, _⟩
  · have ending : layout source = progress.finish.map fun lines =>
        String.ofList (lines.flatMap Line.render) := by
      rw [layout, lines, reads]
      rfl
    rw [ending, accounts.closed_iff]
    refine ⟨progress.depth, accounts.depth, fun inside => ?_, fun outside deep => ?_,
      fun outside top => ?_⟩
    · rw [Progress.finish, if_pos (Option.isSome_iff_ne_none.mpr inside)]
      rfl
    · rw [Progress.finish, if_neg (by simp [outside]), if_pos deep]
      rfl
    · rw [Progress.finish, if_neg (by simp [outside]), if_neg (by simp [top])]
      exact ⟨_, rfl⟩
  · exact absurd first.stray (unstrayed _)

theorem exists_firstStray {text : List Char} (strayed : ¬ Unstrayed text) :
    ∃ before, FirstStray text before := by
  rcases Progress.readAll_start text with ⟨_, _, accounts⟩ | ⟨before, first, _⟩
  · exact absurd accounts.unstrayed strayed
  · exact ⟨before, first⟩

private theorem unstrayed_of_formatted {shown : String}
    (formatted : formatStylesheet source = .ok shown) : Unstrayed source.toList := by
  by_contra strayed
  obtain ⟨before, first⟩ := exists_firstStray strayed
  rw [formatStylesheet_error (layout_stray first)] at formatted
  cases formatted

/-- A stylesheet is laid out if every brace outside of strings has its partner and every string its
end. Otherwise its fault is the first stray closing brace, told by the bytes in front of it; without
one, a string that is not closed; and without that, the blocks that are not. -/
theorem formatStylesheet_faults (source : String) :
    let text := source.toList
    (¬ Unstrayed text → ∃ before, FirstStray text before ∧ formatStylesheet source = .error
      ("unexpected `\x7d` at offset " ++ toString (String.ofList before).utf8ByteSize)) ∧
    (Unstrayed text → ¬ Closed text →
      formatStylesheet source = .error "unterminated string") ∧
    (Unstrayed text → Closed text → ∀ count, 0 < count →
      outerCount '\x7b' text = outerCount '\x7d' text + count →
      formatStylesheet source = .error (toString count ++ " unclosed block(s)")) ∧
    ((∃ shown, formatStylesheet source = .ok shown) ↔
      Unstrayed text ∧ Closed text ∧
        outerCount '\x7b' text = outerCount '\x7d' text) := by
  refine ⟨fun strayed => ?_, fun unstrayed inside => ?_,
    fun unstrayed closed count positive balance => ?_, fun ⟨shown, formatted⟩ => ?_,
    fun ⟨unstrayed, closed, balance⟩ => ?_⟩
  · obtain ⟨before, first⟩ := exists_firstStray strayed
    exact ⟨before, first, formatStylesheet_error (layout_stray first)⟩
  · obtain ⟨depth, -, unterminated, -⟩ := layout_unstrayed unstrayed
    exact formatStylesheet_error (unterminated inside)
  · obtain ⟨depth, depths, -, unclosed, -⟩ := layout_unstrayed unstrayed
    obtain rfl : depth = count := by omega
    exact formatStylesheet_error (unclosed closed (Nat.ne_of_gt positive))
  · have unstrayed := unstrayed_of_formatted formatted
    obtain ⟨depth, depths, unterminated, unclosed, -⟩ := layout_unstrayed unstrayed
    have closed : Closed source.toList := by
      by_contra inside
      rw [formatStylesheet_error (unterminated inside)] at formatted
      cases formatted
    have top : depth = 0 := by
      by_contra deep
      rw [formatStylesheet_error (unclosed closed deep)] at formatted
      cases formatted
    exact ⟨unstrayed, closed, by rw [depths, top, Nat.add_zero]⟩
  · obtain ⟨depth, depths, -, -, laidOut⟩ := layout_unstrayed unstrayed
    obtain ⟨shown, success⟩ := laidOut closed (by omega)
    exact ⟨shown, by rw [formatStylesheet, success]; rfl⟩

/-- A stray brace behind a block and a string with a brace in it, a string that holds the other
quote and goes on to the end, and two blocks that are not closed. -/
theorem formatStylesheet_faults_each :
    let stray := ".é \x7bcontent: '\x7d'\x7d\n\x7d \x7b \""
    let front := ".é \x7bcontent: '\x7d'\x7d\n"
    let cut := ".a \x7bcontent: \"it's"
    let deep := ".a \x7bcontent: '\\'; .b \x7b.c \x7b\x7d"
    (FirstStray stray.toList front.toList ∧
      formatStylesheet stray = .error "unexpected `\x7d` at offset 19") ∧
    (Unstrayed cut.toList ∧ ¬ Closed cut.toList ∧
      formatStylesheet cut = .error "unterminated string") ∧
    Unstrayed deep.toList ∧ Closed deep.toList ∧
      outerCount '\x7b' deep.toList = outerCount '\x7d' deep.toList + 2 ∧
      formatStylesheet deep = .error "2 unclosed block(s)" := by
  intro stray front cut deep
  have first : FirstStray stray.toList front.toList := by decide +kernel
  have place : (String.ofList front.toList).utf8ByteSize = 19 := by decide +kernel
  obtain ⟨before, same, offset⟩ :=
    (formatStylesheet_faults stray).1 fun unstrayed => unstrayed _ first.stray
  rw [same.unique first, place] at offset
  have plain : Unstrayed cut.toList ∧ ¬ Closed cut.toList := by decide +kernel
  have even : Unstrayed deep.toList ∧ Closed deep.toList ∧
    outerCount '\x7b' deep.toList = outerCount '\x7d' deep.toList + 2 := by decide +kernel
  refine ⟨⟨first, offset⟩, ⟨plain.1, plain.2, ?_⟩, even.1, even.2.1, even.2.2, ?_⟩
  · exact (formatStylesheet_faults cut).2.1 plain.1 plain.2
  · exact (formatStylesheet_faults deep).2.2.1 even.1 even.2.1 2 (by decide) even.2.2

end Verdict

end PanelCompiler.Stylesheet
