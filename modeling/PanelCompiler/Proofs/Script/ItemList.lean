import PanelCompiler.Proofs.Script.PlainValue

namespace PanelCompiler.Script

open Lexer (nextToken scanMark scanToken)

/-- A plain value behind an equals sign, or nothing. -/
inductive IsDefault : List Char → Prop
  | none : IsDefault []
  | some {gap later value : List Char} {broken brokenLater : Bool} (trivia : IsTrivia gap broken)
    (behind : IsTrivia later brokenLater) (plain : IsPlainValue value) :
    IsDefault (gap ++ '=' :: (later ++ value))

/-- A target that may have a plain value as its default. -/
inductive WithDefault (Target : List Char → Prop) : List Char → Prop
  | intro {target default : List Char} (bound : Target target) (given : IsDefault default) :
    WithDefault Target (target ++ default)

/-- Items with a comma between them. The last may be of another kind; where it is not, a comma may
stand behind it. -/
inductive IsList (Item Last : List Char → Prop) : List Char → Prop
  | empty {gap : List Char} {broken : Bool} (trivia : IsTrivia gap broken) : IsList Item Last gap
  | last {text gap later : List Char} {broken brokenLater : Bool} (trivia : IsTrivia gap broken)
    (item : Last text) (behind : IsTrivia later brokenLater) :
    IsList Item Last (gap ++ (text ++ later))
  | cons {text gap later others : List Char} {broken brokenLater : Bool}
    (trivia : IsTrivia gap broken) (item : Item text) (behind : IsTrivia later brokenLater)
    (rest : IsList Item Last others) : IsList Item Last (gap ++ (text ++ (later ++ ',' :: others)))

section Equals

variable {rest gap : List Char} {broken : Bool}

/-- Neither an equals sign nor an arrow goes on with this text. -/
def EndsEquals (text : List Char) : Prop :=
  ∀ c ∈ text.head?, c ≠ '=' ∧ c ≠ '>'

private theorem endsEquals_part {c : Char} (part : isNamePart c = true) :
    EndsEquals (c :: rest) := by
  rintro _ ⟨⟩
  constructor <;>
  · rintro rfl
    exact absurd part (by decide)

private theorem IsPlainValue.endsEquals {value : List Char} (plain : IsPlainValue value) :
    EndsEquals (value ++ rest) := by
  cases plain with
  | name free =>
    obtain ⟨c, name, rfl⟩ := List.exists_cons_of_ne_nil free.ne_nil
    exact endsEquals_part (free.parts c List.mem_cons_self)
  | constant constant =>
    simp only [List.mem_cons, List.not_mem_nil, or_false] at constant
    rcases constant with rfl | rfl | rfl | rfl <;> exact endsEquals_part (by decide)
  | number whole =>
    obtain ⟨c, digits, rfl⟩ := List.exists_cons_of_ne_nil whole.filled
    exact endsEquals_part (isNamePart_of_isDecimal (whole.decimal c List.mem_cons_self))
  | string quoted =>
    rcases quoted with rfl | rfl <;>
    · rintro _ ⟨⟩
      exact ⟨by decide, by decide⟩
  | emptyArray | emptyObject =>
    rintro _ ⟨⟩
    exact ⟨by decide, by decide⟩

private theorem IsTrivia.endsEquals (trivia : IsTrivia gap broken) (ends : EndsEquals rest) :
    EndsEquals (gap ++ rest) := by
  have blank : ∀ c, isGap c = true → c ≠ '=' ∧ c ≠ '>' := by
    intro c gap
    constructor <;>
    · rintro rfl
      exact absurd gap (by decide)
  cases trivia with
  | nil => exact ends
  | spacing _ space _ =>
    rintro c ⟨⟩
    exact blank _ (Bool.or_eq_true_iff.mpr (.inr space))
  | lineBreak broken _ =>
    rintro c ⟨⟩
    exact blank _ (Bool.or_eq_true_iff.mpr (.inl broken))
  | lineComment | blockComment =>
    rintro c ⟨⟩
    exact ⟨by decide, by decide⟩

private theorem atStart_equals (ends : EndsEquals rest) :
    Token.atStart ('=' :: rest) = Token.ofMark "=" rest := by
  have scanned : scanMark ('=' :: rest) marks = some ("=", rest) := by
    cases rest with
    | nil => rfl
    | cons c rest =>
      obtain ⟨equals, arrow⟩ := ends c rfl
      simp [scanMark, marks, Text.afterPrefix?, equals.symm, arrow.symm]
  have token : scanToken ('=' :: rest) = (.mark, "=", false, rest) := by
    have letter : isNameStart '=' = false := by decide
    have digit : isDecimal '=' = false := by decide
    rw [scanToken]
    simp [letter, digit, scanned]
  rw [Token.atStart, token]
  rfl

theorem nextToken_equals {later value : List Char} {brokenLater : Bool}
    (trivia : IsTrivia gap broken) (behind : IsTrivia later brokenLater)
    (plain : IsPlainValue value) : nextToken (gap ++ '=' :: (later ++ (value ++ rest))) =
      Token.ofMark "=" (later ++ (value ++ rest)) broken :=
  nextToken_mark trivia (by decide) (atStart_equals (behind.endsEquals plain.endsEquals))

theorem IsDefault.endsToken {text : List Char} (given : IsDefault text) (ends : EndsToken rest) :
    EndsToken (text ++ rest) := by
  cases given with
  | none => exact ends
  | some trivia =>
    rw [List.append_assoc]
    exact trivia.endsToken (endsToken_cons (by decide))

end Equals

namespace Parser

section Lists

variable {α : Type} {mode : Mode} {start : Cursor} {item : Parser α} {Kept Final : α → Prop}
  {Item Last : List Char → Prop} {last : Char} {close : String} {text : List Char}

/-- What stands behind an item: a comma, or the mark that closes the list. -/
def BehindItem (close : String) (rest : List Char) : Prop :=
  EndsToken rest ∧
    (Token.isMark (nextToken rest) "," = true ∨ Token.isMark (nextToken rest) close = true)

/-- The parser takes the text wherever it stands, behind any blanks and comments. -/
def Reads (parser : Parser α) (mode : Mode) (Kept : α → Prop) (Behind : List Char → Prop)
    (text : List Char) : Prop :=
  ∀ (start : Cursor) {gap rest broken}, IsTrivia gap broken → Behind rest →
    ∃ value, Kept value ∧
      Takes parser mode (start.before (gap ++ (text ++ rest))) value (start.before rest)

/-- An item of a list, which does not begin with the mark that closes the list. -/
structure ReadsItem (item : Parser α) (mode : Mode) (close : String) (Kept : α → Prop)
    (text : List Char) : Prop where
  opens : ∀ {gap rest broken}, IsTrivia gap broken → EndsToken rest →
    Token.isMark (nextToken (gap ++ (text ++ rest))) close = false
  reads : Reads item mode Kept (BehindItem close) text

theorem ReadsItem.mono (weaker : ∀ value, Kept value → Final value)
    (one : ReadsItem item mode close Kept text) : ReadsItem item mode close Final text := by
  refine ⟨one.opens, fun start gap rest broken trivia behind => ?_⟩
  obtain ⟨value, kept, taken⟩ := one.reads start trivia behind
  exact ⟨value, weaker value kept, taken⟩

def listStep (close : String) (item : Parser α) (state : List α × Bool) :
    Parser (Option (List α × Bool)) := do
  if ← atMark close then return none
  let value ← item
  if ← atMark close then return some (value :: state.1, false)
  expect ","
  return some (value :: state.1, true)

theorem commaListEnd_eq : commaListEnd close item = do
    let state ← iterate ([], false) (listStep close item)
    expect close
    return (state.1.reverse, state.2) :=
  rfl

theorem takes_listStep_done (state : List α × Bool)
    (closes : Token.isMark start.next close = true) :
    Takes (listStep close item state) mode start none start := by
  refine .bind takes_atMark ?_
  rw [closes]
  exact .pure none

theorem takes_listStep_last {value : α} {stop : Cursor} (state : List α × Bool)
    (opens : Token.isMark start.next close = false) (one : Takes item mode start value stop)
    (closes : Token.isMark stop.next close = true) :
    Takes (listStep close item state) mode start (some (value :: state.1, false)) stop := by
  refine .bind takes_atMark ?_
  rw [opens]
  refine .bind one (.bind takes_atMark ?_)
  rw [closes]
  exact .pure _

theorem takes_listStep_comma {value : α} {stop : Cursor} (state : List α × Bool)
    (opens : Token.isMark start.next close = false) (one : Takes item mode start value stop)
    (comma : Token.isMark stop.next "," = true) (apart : "," ≠ close) :
    Takes (listStep close item state) mode start (some (value :: state.1, true)) stop.after := by
  refine .bind takes_atMark ?_
  rw [opens]
  refine .bind one (.bind takes_atMark ?_)
  rw [Token.isMark_ne comma apart]
  exact .bind (takes_expect comma) (.pure _)

/-- A mark of one character that closes a list. -/
structure Closes (last : Char) (close : String) : Prop where
  apart : "," ≠ close
  token : ∀ {gap broken}, IsTrivia gap broken → ∀ rest,
    nextToken (gap ++ last :: rest) = Token.ofMark close rest broken
  ends : ∀ rest, EndsToken (last :: rest)

theorem closes_parenthesis : Closes ')' ")" :=
  ⟨by decide, fun trivia _ => nextToken_mark trivia (by decide) rfl,
    fun _ => endsToken_cons (by decide)⟩

theorem closes_brace : Closes '\x7d' "\x7d" :=
  ⟨by decide, fun trivia _ => nextToken_mark trivia (by decide) rfl,
    fun _ => endsToken_cons (by decide)⟩

theorem nextToken_comma {gap : List Char} {broken : Bool} (trivia : IsTrivia gap broken)
    (rest : List Char) : nextToken (gap ++ ',' :: rest) = Token.ofMark "," rest broken :=
  nextToken_mark trivia (by decide) rfl

theorem behindItem_comma (close : String) {gap : List Char} {broken : Bool}
    (trivia : IsTrivia gap broken) (rest : List Char) : BehindItem close (gap ++ ',' :: rest) :=
  ⟨trivia.endsToken (endsToken_cons (by decide)),
    .inl (Token.isMark_of_eq (nextToken_comma trivia rest))⟩

theorem Closes.behindItem (closes : Closes last close) {gap : List Char} {broken : Bool}
    (trivia : IsTrivia gap broken) (rest : List Char) : BehindItem close (gap ++ last :: rest) :=
  ⟨trivia.endsToken (closes.ends rest), .inr (Token.isMark_of_eq (closes.token trivia rest))⟩

/-- What is known of the values of a list, the last of them first: all but that one are kept, and
that one is too where a comma stands behind it. -/
structure ListKept (Kept Final : α → Prop) (reversed : List α) (trailing : Bool) : Prop where
  tail : ∀ value ∈ reversed.tail, Kept value
  trailing : trailing = true → ∀ value ∈ reversed, Kept value
  final : ∀ value ∈ reversed, Final value

private theorem ListKept.concat {reversed : List α} {trailing : Bool} {value : α}
    (list : ListKept Kept Final reversed trailing) (kept : Kept value) (final : Final value) :
    ListKept Kept Final (reversed ++ [value]) trailing := by
  have concat : ∀ (Holds : α → Prop) others, (∀ other ∈ others, Holds other) → Holds value →
      ∀ other ∈ others ++ [value], Holds other := by
    intro Holds others all here other member
    rcases List.mem_append.mp member with member | member
    · exact all other member
    · exact List.mem_singleton.mp member ▸ here
  refine ⟨?_, fun closed => concat Kept _ (list.trailing closed) kept,
    concat Final _ list.final final⟩
  cases reversed with
  | nil => exact nofun
  | cons first reversed => exact concat Kept _ list.tail kept

/-- The steps read a list wherever it stands, whatever blanks and comments are around it. -/
def ReadsList (close : String) (item : Parser α) (mode : Mode) (Kept Final : α → Prop)
    (last : Char) (fuel : Nat) (text : List Char) : Prop :=
  ∀ (start : Cursor) {front back brokenFront brokenBack}, IsTrivia front brokenFront →
    IsTrivia back brokenBack → ∀ rest state, ∃ values trailing gap broken,
      IsTrivia gap broken ∧ ListKept Kept Final values trailing ∧
        Takes (repeatWhile (listStep close item) fuel state) mode
          (start.before (front ++ (text ++ (back ++ last :: rest))))
          (values ++ state.1, trailing) (start.before (gap ++ last :: rest))

section Items

variable {gap later others : List Char} {broken brokenLater : Bool} {fuel : Nat}
  (closes : Closes last close) (trivia : IsTrivia gap broken) (behind : IsTrivia later brokenLater)

include closes trivia in
private theorem readsList_empty : ReadsList close item mode Kept Final last (fuel + 1) gap := by
  intro start front back _ _ before after rest state
  have whole : front ++ (gap ++ (back ++ last :: rest)) =
      front ++ (gap ++ back) ++ last :: rest := by simp
  have around := before.append (trivia.append after)
  have closing := Token.isMark_of_eq (closes.token around rest)
  rw [whole]
  exact ⟨[], state.2, _, _, around, ⟨nofun, fun _ => nofun, nofun⟩,
    .repeat_done (takes_listStep_done state closing)⟩

include closes trivia behind

private theorem readsList_last (one : ReadsItem item mode close Final text) :
    ReadsList close item mode Kept Final last (fuel + 2) (gap ++ (text ++ later)) := by
  intro start front back _ _ before after rest state
  have whole : front ++ (gap ++ (text ++ later) ++ (back ++ last :: rest)) =
      front ++ gap ++ (text ++ (later ++ back ++ last :: rest)) := by simp
  have closed := closes.behindItem (behind.append after) rest
  have closing := Token.isMark_of_eq (closes.token (behind.append after) rest)
  obtain ⟨value, final, taken⟩ := one.reads start (before.append trivia) closed
  have first := takes_listStep_last state (one.opens (before.append trivia) closed.1) taken closing
  rw [whole]
  exact ⟨[value], false, _, _, behind.append after,
    ⟨nofun, nofun, fun _ member => List.mem_singleton.mp member ▸ final⟩,
    .repeat_step first (.repeat_done (takes_listStep_done _ closing))⟩

private theorem readsList_cons (weaker : ∀ value, Kept value → Final value)
    (one : ReadsItem item mode close Kept text)
    (list : ReadsList close item mode Kept Final last fuel others) :
    ReadsList close item mode Kept Final last (fuel + 1)
      (gap ++ (text ++ (later ++ ',' :: others))) := by
  intro start front back _ _ before after rest state
  have whole : front ++ (gap ++ (text ++ (later ++ ',' :: others)) ++ (back ++ last :: rest)) =
      front ++ gap ++ (text ++ (later ++ ',' :: (others ++ (back ++ last :: rest)))) := by simp
  rw [whole]
  have separated := behindItem_comma close behind (others ++ (back ++ last :: rest))
  obtain ⟨value, kept, taken⟩ := one.reads start (before.append trivia) separated
  have comma : (start.before (later ++ ',' :: (others ++ (back ++ last :: rest)))).next =
      Token.ofMark "," (others ++ (back ++ last :: rest)) brokenLater :=
    nextToken_comma behind _
  have first := takes_listStep_comma state (one.opens (before.append trivia) separated.1) taken
    (Token.isMark_of_eq comma) closes.apart
  rw [Cursor.after_of_next comma] at first
  obtain ⟨values, trailing, gap, broken, trivia, all, loop⟩ :=
    list start .nil after rest (value :: state.1, true)
  rw [List.nil_append] at loop
  have pushed : values ++ [value] ++ state.1 = values ++ value :: state.1 := by simp
  refine ⟨values ++ [value], trailing, gap, broken, trivia, all.concat kept (weaker value kept), ?_⟩
  rw [pushed]
  exact .repeat_step first loop

end Items

section Items

variable {size : Nat} (closes : Closes last close) (weaker : ∀ value, Kept value → Final value)
  (items : ∀ text, Item text → text.length ≤ size → ReadsItem item mode close Kept text)
  (lasts : ∀ text, Last text → text.length ≤ size → ReadsItem item mode close Final text)
  (list : IsList Item Last text) (short : text.length ≤ size)
include closes weaker items lasts list short

private theorem readsList {fuel : Nat} (enough : text.length + 1 < fuel) :
    ReadsList close item mode Kept Final last fuel text := by
  induction list generalizing fuel with
  | empty trivia =>
    obtain ⟨fuel, rfl⟩ := Nat.exists_eq_add_of_le' (show 1 ≤ fuel by omega)
    exact readsList_empty closes trivia
  | @last text gap later _ _ trivia item behind =>
    obtain ⟨fuel, rfl⟩ := Nat.exists_eq_add_of_le' (show 2 ≤ fuel by omega)
    simp only [List.length_append] at short
    exact readsList_last closes trivia behind (lasts _ item (by omega))
  | @cons text gap later others _ _ trivia item behind list ih =>
    simp only [List.length_append, List.length_cons] at short enough
    obtain ⟨fuel, rfl⟩ := Nat.exists_eq_add_of_le' (show 1 ≤ fuel by omega)
    exact readsList_cons closes trivia behind weaker (items _ item (by omega))
      (ih (by omega) (by omega))

/-- A list and the mark that closes it, wherever it stands. -/
theorem reads_commaListEnd (enough : text.length + 1 < mode.steps) (start : Cursor)
    {front back : List Char} {brokenFront brokenBack : Bool} (before : IsTrivia front brokenFront)
    (after : IsTrivia back brokenBack) (rest : List Char) :
    ∃ values trailing, ListKept Kept Final values trailing ∧
      Takes (commaListEnd close item) mode
        (start.before (front ++ (text ++ (back ++ last :: rest)))) (values.reverse, trailing)
        (start.before rest) := by
  obtain ⟨values, trailing, gap, broken, trivia, kept, loop⟩ :=
    readsList closes weaker items lasts list short enough start before after rest ([], false)
  have closing : (start.before (gap ++ last :: rest)).next = Token.ofMark close rest broken :=
    closes.token trivia rest
  rw [List.append_nil] at loop
  rw [commaListEnd_eq]
  refine ⟨values, trailing, kept, .bind (.bind takes_read loop) ?_⟩
  exact .bind (takes_expect (Token.isMark_of_eq closing)) (Cursor.after_of_next closing ▸ .pure _)

end Items

end Lists

section Defaults

variable {mode : Mode} {start : Cursor} {g h : Grammar} {rest gap : List Char} {broken : Bool}

private theorem takes_defaultValue (start : Cursor) {later value : List Char} {brokenLater : Bool}
    {mark : String} (inner : g.assignment = assignment h) (trivia : IsTrivia gap broken)
    (behind : IsTrivia later brokenLater) (plain : IsPlainValue value) (ends : EndsToken rest)
    (member : mark ∈ closingMarks) (marked : Token.isMark (nextToken rest) mark = true)
    (steps : 0 < mode.steps) : ∃ tree, Takes (defaultValue g) mode
      (start.before (gap ++ '=' :: (later ++ (value ++ rest)))) (some tree)
      (start.before rest) := by
  have equals : (start.before (gap ++ '=' :: (later ++ (value ++ rest)))).next = _ :=
    nextToken_equals trivia behind plain
  have read : ∃ tree, Takes (assignment h) (Mode.bracketed mode)
      (start.before (later ++ (value ++ rest))) tree (start.before rest) :=
    takes_plainValue plain behind ends member marked steps
  obtain ⟨tree, taken⟩ := read
  rw [← inner] at taken
  refine ⟨tree, .bind (takes_accept_hit (Token.isMark_of_eq equals)) ?_⟩
  rw [Cursor.after_of_next equals]
  exact .bind (takes_under taken) (.pure _)

private theorem takes_defaultValue_none (other : Token.isMark start.next "=" = false) :
    Takes (defaultValue g) mode start none start :=
  .bind (takes_accept_miss other) (.pure none)

theorem marked_default {text : List Char} {close : String} (given : IsDefault text)
    (behind : BehindItem close rest) :
    ∃ mark ∈ [",", "=", close], Token.isMark (nextToken (text ++ rest)) mark = true := by
  cases given with
  | none =>
    rcases behind.2 with comma | closing
    · exact ⟨",", by simp, comma⟩
    · exact ⟨close, by simp, closing⟩
  | @some gap later value _ _ trivia behindEquals plain =>
    have whole : gap ++ '=' :: (later ++ value) ++ rest =
        gap ++ '=' :: (later ++ (value ++ rest)) := by simp
    rw [whole]
    exact ⟨"=", by simp, Token.isMark_of_eq (nextToken_equals trivia behindEquals plain)⟩

theorem takes_default (start : Cursor) {text : List Char} {close : String}
    (inner : g.assignment = assignment h) (steps : 0 < mode.steps)
    (member : close ∈ closingMarks) (given : IsDefault text)
    (behind : BehindItem close rest) : ∃ value,
      Takes (defaultValue g) mode (start.before (text ++ rest)) value (start.before rest) := by
  have closing : ∃ mark ∈ closingMarks, Token.isMark (nextToken rest) mark = true := by
    rcases behind.2 with comma | closing
    · exact ⟨",", by decide, comma⟩
    · exact ⟨close, member, closing⟩
  obtain ⟨mark, ending, marked⟩ := closing
  cases given with
  | none =>
    refine ⟨none, takes_defaultValue_none (Token.isMark_ne marked ?_)⟩
    rintro rfl
    exact absurd ending (by decide)
  | @some gap later value _ _ trivia behindEquals plain =>
    have whole : gap ++ '=' :: (later ++ value) ++ rest =
        gap ++ '=' :: (later ++ (value ++ rest)) := by simp
    obtain ⟨tree, taken⟩ := takes_defaultValue start inner trivia behindEquals plain
      behind.1 ending marked steps
    rw [whole]
    exact ⟨some tree, taken⟩

end Defaults

end Parser
end PanelCompiler.Script
