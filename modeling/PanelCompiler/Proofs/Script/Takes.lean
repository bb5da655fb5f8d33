import PanelCompiler.Proofs.Script.FirstToken
import PanelCompiler.Script.Parser.Basic

/-!
What a parser takes. The rules follow the machinery that parsers are built with: a parser takes what
its first step takes and then what the rest of it does, and what it has taken divides in the same
way.
-/

namespace PanelCompiler.Script

namespace Cursor

/-- The cursor in front of this source, with all that is known of the text. -/
def before (cursor : Cursor) (source : List Char) : Cursor :=
  { cursor with behind := source, next := Lexer.nextToken source }

theorem before_next (cursor : Cursor) (source : List Char) :
    (cursor.before source).next = Lexer.nextToken source :=
  rfl

/-- The cursor behind its next token. -/
def after (cursor : Cursor) : Cursor :=
  cursor.before cursor.next.rest

theorem after_of_next {cursor : Cursor} {token : Token} (same : cursor.next = token) :
    cursor.after = cursor.before token.rest := by
  rw [after, same]

end Cursor

namespace Parser

variable {α β : Type} {mode : Mode} {start middle stop : Cursor} {mark word : String}

theorem sourceBetween_append (text rest : List Char) :
    sourceBetween (text ++ rest) rest = String.ofList text := by
  rw [sourceBetween, List.length_append, Nat.add_sub_cancel, List.take_left]

/-- From one place the parser gives a value and comes to another place. -/
def Takes (parser : Parser α) (mode : Mode) (start : Cursor) (value : α) (stop : Cursor) : Prop :=
  parser mode start = (some value, stop)

theorem bind_apply (parser : Parser α) (next : α → Parser β) (mode : Mode) (start : Cursor) :
    (parser >>= next) mode start =
      match parser mode start with
      | (some value, later) => next value mode later
      | (none, later) => (none, later) := by
  simp only [Bind.bind, ReaderT.bind, OptionT.bind, OptionT.mk, StateT.bind]
  cases parser mode start with
  | mk value later => cases value <;> rfl

theorem Takes.bind {parser : Parser α} {next : α → Parser β} {value : α} {result : β}
    (first : Takes parser mode start value middle)
    (second : Takes (next value) mode middle result stop) :
    Takes (parser >>= next) mode start result stop := by
  unfold Takes at *
  rw [bind_apply, first]
  exact second

theorem Takes.of_bind {parser : Parser α} {next : α → Parser β} {result : β}
    (both : Takes (parser >>= next) mode start result stop) :
    ∃ value middle, Takes parser mode start value middle ∧
      Takes (next value) mode middle result stop := by
  unfold Takes at *
  rw [bind_apply] at both
  split at both
  · rename_i value middle first
    exact ⟨value, middle, first, both⟩
  · cases both

theorem Takes.drop {parser : Parser α} {next : α → Parser β} {value : α} {result : β}
    (both : Takes (parser >>= next) mode start result stop)
    (first : Takes parser mode start value middle) :
    Takes (next value) mode middle result stop := by
  unfold Takes at *
  rwa [bind_apply, first] at both

theorem Takes.bind_iff {parser : Parser α} {next : α → Parser β} {value : α} {result : β}
    (first : Takes parser mode start value middle) :
    Takes (parser >>= next) mode start result stop ↔ Takes (next value) mode middle result stop :=
  ⟨(·.drop first), first.bind⟩

theorem takes_bind_iff {parser : Parser α} {next : α → Parser β} {result : β} :
    Takes (parser >>= next) mode start result stop ↔
      ∃ value middle, Takes parser mode start value middle ∧
        Takes (next value) mode middle result stop :=
  ⟨Takes.of_bind, fun ⟨_, _, first, second⟩ => .bind first second⟩

theorem Takes.iff_eq {parser : Parser α} {value result : α}
    (taken : Takes parser mode start value middle) :
    Takes parser mode start result stop ↔ result = value ∧ stop = middle := by
  constructor
  · intro again
    have same : (some result, stop) = (some value, middle) := again.symm.trans taken
    cases same
    exact ⟨rfl, rfl⟩
  · rintro ⟨rfl, rfl⟩
    exact taken

section Steps

variable {value result : α}

theorem Takes.pure (value : α) : Takes (pure value) mode start value start :=
  rfl

theorem takes_pure_iff : Takes (pure value) mode start result stop ↔
    result = value ∧ stop = start :=
  Takes.iff_eq (.pure value)

theorem of_takes_ite_pure {condition : Prop} [Decidable condition] {other : α}
    (taken : Takes (if condition then pure value else pure other) mode start result stop) :
    stop = start := by
  split at taken <;> exact (takes_pure_iff.mp taken).2

theorem takes_peek : Takes peek mode start start.next start :=
  rfl

theorem takes_peek_iff {token : Token} :
    Takes peek mode start token stop ↔ token = start.next ∧ stop = start :=
  Takes.iff_eq takes_peek

theorem takes_behind : Takes behind mode start start.behind start :=
  rfl

theorem takes_behind_iff {source : List Char} :
    Takes behind mode start source stop ↔ source = start.behind ∧ stop = start :=
  Takes.iff_eq takes_behind

theorem takes_read : Takes (read : Parser Mode) mode start mode start :=
  rfl

theorem takes_read_iff {other : Mode} :
    Takes (read : Parser Mode) mode start other stop ↔ other = mode ∧ stop = start :=
  Takes.iff_eq takes_read

theorem takes_advance : Takes advance mode start start.next start.after :=
  rfl

theorem takes_advance_iff {token : Token} :
    Takes advance mode start token stop ↔ token = start.next ∧ stop = start.after :=
  Takes.iff_eq takes_advance

theorem takes_require {condition : Bool} (holds : condition = true) :
    Takes (require condition) mode start () start := by
  rw [holds]
  exact .pure ()

theorem takes_require_iff {condition : Bool} {given : Unit} :
    Takes (require condition) mode start given stop ↔ condition = true ∧ stop = start := by
  cases condition with
  | true => exact (Takes.iff_eq (.pure ())).trans (by simp)
  | false => exact iff_of_false nofun (by simp)

theorem takes_under {parser : Parser α} {change : Mode → Mode}
    (inside : Takes parser (change mode) start value stop) :
    Takes (under change parser) mode start value stop :=
  inside

theorem takes_lookahead {parser : Parser α} (inside : Takes parser mode start value stop)
    (learned : stop.arrowless = start.arrowless) :
    Takes (lookahead parser) mode start value start := by
  have same : parser mode start = (some value, stop) := inside
  unfold Takes lookahead
  rw [same]
  simp only [Cursor.learned, learned]

theorem takes_optional {parser : Parser α} (inside : Takes parser mode start value stop) :
    Takes (optional? parser) mode start (some value) stop := by
  have same : parser mode start = (some value, stop) := inside
  unfold Takes optional?
  rw [same]

theorem takes_unlessRefused {parser : Parser (Option α)}
    (inside : Takes parser mode start (some value) stop) :
    Takes (unlessRefused parser) mode start (some value) stop := by
  have same : parser mode start = (some (some value), stop) := inside
  unfold Takes unlessRefused
  rw [same]

theorem of_takes_unlessRefused {parser : Parser (Option α)} {found : Option α}
    (taken : Takes (unlessRefused parser) mode start found stop) :
    ∃ later, Takes parser mode start found later ∧ (found ≠ none → later = stop) := by
  unfold Takes unlessRefused at taken
  split at taken
  · rename_i later refused
    cases taken
    exact ⟨later, refused, absurd rfl⟩
  · exact ⟨stop, taken, fun _ => rfl⟩

end Steps

section Tokens

variable {token : Token}

theorem Token.isMark_iff :
    Token.isMark token mark = true ↔ token.kind = .mark ∧ token.text = mark := by
  simp [Token.isMark]

theorem Token.isMark_of_eq {rest : List Char} {broken : Bool}
    (same : token = Token.ofMark mark rest broken) :
    Token.isMark token mark = true := by
  rw [same]
  exact Token.isMark_iff.mpr ⟨rfl, rfl⟩

theorem Token.isMark_ne {other : String} (first : Token.isMark token mark = true)
    (apart : mark ≠ other) : Token.isMark token other = false := by
  simp [Token.isMark, (Token.isMark_iff.mp first).2, apart]

theorem Token.isMark_eq_false (kind : token.kind ≠ .mark) (mark : String) :
    Token.isMark token mark = false := by
  simp [Token.isMark, kind]

theorem takes_atMark : Takes (atMark mark) mode start (Token.isMark start.next mark) start :=
  rfl

theorem takes_atMark_iff {found : Bool} : Takes (atMark mark) mode start found stop ↔
    found = Token.isMark start.next mark ∧ stop = start :=
  Takes.iff_eq takes_atMark

theorem takes_atWord : Takes (atWord word) mode start (Token.isWord start.next word) start :=
  rfl

theorem takes_accept_hit (hit : Token.isMark start.next mark = true) :
    Takes (accept mark) mode start true start.after := by
  refine .bind takes_atMark ?_
  rw [if_pos hit]
  exact .bind takes_advance (.pure true)

theorem takes_accept_miss (miss : Token.isMark start.next mark = false) :
    Takes (accept mark) mode start false start := by
  refine .bind takes_atMark ?_
  rw [miss]
  exact .pure false

theorem takes_accept_iff {found : Bool} : Takes (accept mark) mode start found stop ↔
    found = Token.isMark start.next mark ∧ stop = if found then start.after else start := by
  cases hit : Token.isMark start.next mark with
  | true =>
    rw [(takes_accept_hit hit).iff_eq]
    exact and_congr_right (by rintro rfl; rfl)
  | false =>
    rw [(takes_accept_miss hit).iff_eq]
    exact and_congr_right (by rintro rfl; rfl)

theorem takes_acceptWord_hit (hit : Token.isWord start.next word = true) :
    Takes (acceptWord word) mode start true start.after := by
  refine .bind takes_atWord ?_
  rw [if_pos hit]
  exact .bind takes_advance (.pure true)

theorem takes_acceptWord_miss (miss : Token.isWord start.next word = false) :
    Takes (acceptWord word) mode start false start := by
  refine .bind takes_atWord ?_
  rw [miss]
  exact .pure false

theorem takes_acceptWord_iff {found : Bool} : Takes (acceptWord word) mode start found stop ↔
    found = Token.isWord start.next word ∧ stop = if found then start.after else start := by
  cases hit : Token.isWord start.next word with
  | true =>
    rw [(takes_acceptWord_hit hit).iff_eq]
    exact and_congr_right (by rintro rfl; rfl)
  | false =>
    rw [(takes_acceptWord_miss hit).iff_eq]
    exact and_congr_right (by rintro rfl; rfl)

theorem takes_expect (hit : Token.isMark start.next mark = true) :
    Takes (expect mark) mode start () start.after :=
  .bind (takes_accept_hit hit) (takes_require rfl)

theorem takes_expect_iff {given : Unit} : Takes (expect mark) mode start given stop ↔
    Token.isMark start.next mark = true ∧ stop = start.after := by
  constructor
  · intro taken
    obtain ⟨found, middle, accepted, required⟩ := Takes.of_bind taken
    obtain ⟨rfl, rfl⟩ := takes_accept_iff.mp accepted
    obtain ⟨hit, rfl⟩ := takes_require_iff.mp required
    rw [if_pos hit]
    exact ⟨hit, rfl⟩
  · rintro ⟨hit, rfl⟩
    exact takes_expect hit

theorem takes_expectWord (hit : Token.isWord start.next word = true) :
    Takes (expectWord word) mode start () start.after :=
  .bind (takes_acceptWord_hit hit) (takes_require rfl)

theorem takes_isNameToken : Takes (isNameToken token) mode start
    (token.kind == .word && Mode.allowsName mode token.text) start :=
  .bind takes_read (.pure _)

theorem takes_nameToken (word : start.next.kind = .word)
    (allowed : Mode.allowsName mode start.next.text = true) :
    Takes nameToken mode start start.next.text start.after := by
  have named : (start.next.kind == .word && Mode.allowsName mode start.next.text) = true := by
    simp [word, allowed]
  exact .bind takes_peek (.bind takes_isNameToken
    (.bind (takes_require named) (.bind takes_advance (.pure _))))

theorem of_takes_nameToken {name : String} (taken : Takes nameToken mode start name stop) :
    start.next.kind = .word ∧ Mode.allowsName mode start.next.text = true ∧
      stop = start.after := by
  simp only [nameToken, isNameToken, takes_bind_iff, takes_peek_iff, takes_read_iff,
    takes_pure_iff, takes_require_iff, takes_advance_iff, and_assoc, exists_and_left,
    exists_eq_left, exists_const, Bool.and_eq_true, beq_iff_eq] at taken
  obtain ⟨word, allowed, -, behind⟩ := taken
  exact ⟨word, allowed, behind⟩

end Tokens

section Loops

variable {value result : α} {step : α → Parser (Option α)} {fuel : Nat}

theorem Takes.repeat_step {next : α} (first : Takes (step value) mode start (some next) middle)
    (others : Takes (repeatWhile step fuel next) mode middle result stop) :
    Takes (repeatWhile step (fuel + 1) value) mode start result stop :=
  .bind first others

theorem Takes.repeat_done (done : Takes (step value) mode start none stop) :
    Takes (repeatWhile step (fuel + 1) value) mode start value stop :=
  .bind done (.pure value)

theorem Takes.iterate_done (done : Takes (step value) mode start none stop)
    (steps : 0 < mode.steps) : Takes (iterate value step) mode start value stop := by
  refine .bind takes_read ?_
  obtain ⟨fuel, same⟩ := Nat.exists_eq_succ_of_ne_zero (Nat.pos_iff_ne_zero.mp steps)
  rw [same]
  exact .repeat_done done

private theorem Takes.of_repeat
    (taken : Takes (repeatWhile step fuel value) mode start result stop) :
    (Takes (step value) mode start none stop ∧ result = value) ∨
      ∃ next middle less, Takes (step value) mode start (some next) middle ∧
        Takes (repeatWhile step less next) mode middle result stop := by
  cases fuel with
  | zero => cases taken
  | succ fuel =>
    obtain ⟨next, middle, first, others⟩ := Takes.of_bind taken
    cases next with
    | none =>
      obtain ⟨rfl, rfl⟩ := takes_pure_iff.mp others
      exact .inl ⟨first, rfl⟩
    | some next => exact .inr ⟨next, middle, fuel, first, others⟩

theorem Takes.of_iterate (taken : Takes (iterate value step) mode start result stop) :
    (Takes (step value) mode start none stop ∧ result = value) ∨
      ∃ next middle less, Takes (step value) mode start (some next) middle ∧
        Takes (repeatWhile step less next) mode middle result stop := by
  obtain ⟨_, _, same, others⟩ := Takes.of_bind taken
  obtain ⟨rfl, rfl⟩ := takes_read_iff.mp same
  exact others.of_repeat

/-- What a step brings about, and every step keeps, is so at the end. -/
theorem Takes.repeat_keeps (Kept : α → Prop) (keeps : ∀ value next start stop, Kept value →
      Takes (step value) mode start (some next) stop → Kept next)
    (first : Kept value) (taken : Takes (repeatWhile step fuel value) mode start result stop) :
    Kept result := by
  induction fuel generalizing value start with
  | zero => cases taken
  | succ fuel ih =>
    obtain ⟨next, middle, one, others⟩ := Takes.of_bind taken
    cases next with
    | none =>
      obtain ⟨rfl, rfl⟩ := takes_pure_iff.mp others
      exact first
    | some next => exact ih (keeps _ _ _ _ first one) others

/-- Either no step is taken, or the first brings this about and all others keep it. -/
theorem Takes.iterate_cases (Kept : α → Prop) (keeps : ∀ before next start stop,
      before = value ∨ Kept before → Takes (step before) mode start (some next) stop → Kept next)
    (taken : Takes (iterate value step) mode start result stop) :
    (Takes (step value) mode start none stop ∧ result = value) ∨ Kept result := by
  rcases taken.of_iterate with done | ⟨next, middle, fuel, first, others⟩
  · exact .inl done
  · exact .inr (others.repeat_keeps Kept (fun _ _ _ _ kept => keeps _ _ _ _ (.inr kept))
      (keeps _ _ _ _ (.inl rfl) first))

theorem takes_commaSeparated {item : Parser α} (first : Takes item mode start value stop)
    (ends : Token.isMark stop.next "," = false) (steps : 0 < mode.steps) :
    Takes (commaSeparated item) mode start [value] stop := by
  have done : Takes (accept ",") mode stop false stop := takes_accept_miss ends
  exact .bind first (.bind (.iterate_done (.bind done (.pure none)) steps) (.pure _))

/-- A list is empty, or what follows its first item is a comma or closes it. -/
theorem of_takes_commaListEnd {item : Parser α} {items : List α × Bool}
    (taken : Takes (commaListEnd mark item) mode start items stop) :
    (Token.isMark start.next mark = true ∧ stop = start.after) ∨
      ∃ value middle, Takes item mode start value middle ∧
        (Token.isMark middle.next "," = true ∨ Token.isMark middle.next mark = true) := by
  simp only [commaListEnd, takes_bind_iff, takes_expect_iff, takes_pure_iff, and_assoc,
    exists_and_left, exists_eq_left, exists_const] at taken
  obtain ⟨items, behind, loop, closes, -, rfl⟩ := taken
  rcases loop.of_iterate with ⟨done, -⟩ | ⟨next, middle, fuel, first, -⟩
  · simp only [takes_bind_iff, takes_atMark_iff, and_assoc, exists_and_left,
      exists_eq_left] at done
    split at done
    · obtain ⟨-, rfl⟩ := takes_pure_iff.mp done
      exact .inl ⟨closes, rfl⟩
    · obtain ⟨value, middle, first, rest⟩ := Takes.of_bind done
      obtain ⟨closing, _, -, rest⟩ := Takes.of_bind rest
      split at rest
      · cases (takes_pure_iff.mp rest).1
      · obtain ⟨_, _, -, rest⟩ := Takes.of_bind rest
        cases (takes_pure_iff.mp rest).1
  · simp only [takes_bind_iff, takes_atMark_iff, and_assoc, exists_and_left,
      exists_eq_left] at first
    split at first
    · cases (takes_pure_iff.mp first).1
    · simp only [takes_bind_iff, takes_atMark_iff, and_assoc, exists_and_left,
        exists_eq_left] at first
      obtain ⟨value, last, first, rest⟩ := first
      refine .inr ⟨value, last, first, ?_⟩
      split at rest
      · exact .inr ‹_›
      · obtain ⟨_, _, comma, -⟩ := Takes.of_bind rest
        exact .inl (takes_expect_iff.mp comma).1

theorem takes_commaListEnd_empty {item : Parser α} {close : String}
    (closes : Token.isMark start.next close = true) (steps : 0 < mode.steps) :
    Takes (commaListEnd close item) mode start ([], false) start.after := by
  have done : Takes (atMark close) mode start true start :=
    takes_atMark_iff.mpr ⟨closes.symm, rfl⟩
  exact .bind (.iterate_done (.bind done (.pure none)) steps)
    (.bind (takes_expect closes) (.pure _))

end Loops

end Parser

end PanelCompiler.Script
