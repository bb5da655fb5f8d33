import PanelCompiler.Proofs.Script.Expression
import PanelCompiler.Proofs.Text.Trim
import PanelCompiler.Text.Word

namespace PanelCompiler.Script

/-- Characters between lexemes. -/
def isGap (c : Char) : Bool :=
  isLineBreak c || isSpacing c

/-- The marks of one character. -/
def mark? : Char → Option Lexeme
  | '!' => some .bang
  | '?' => some .question
  | ':' => some .colon
  | '.' => some .point
  | ',' => some .comma
  | '(' => some .opening
  | ')' => some .closing
  | '[' => some .keyOpening
  | ']' => some .keyClosing
  | _ => none

/-- A character that goes on in the word behind it. -/
def onWord (c : Char) : List Lexeme → List Lexeme
  | .word word :: rest => .word (c :: word) :: rest
  | rest => .word [c] :: rest

def startsWithName (text : List Char) : Bool :=
  text.head?.any isNamePart

/-- The lexemes of a text that holds words, operators, brackets and blanks only. -/
def lexemes? : List Char → Option (List Lexeme)
  | [] => some []
  | c :: rest =>
    if isGap c then lexemes? rest
    else if isNamePart c then
      if startsWithName rest then (lexemes? rest).map (onWord c)
      else (lexemes? rest).map (.word [c] :: ·)
    else match c, rest with
      | '&', '&' :: more => (lexemes? more).map (.operator .and :: ·)
      | '|', '|' :: more => (lexemes? more).map (.operator .or :: ·)
      | '?', '?' :: more => (lexemes? more).map (.operator .coalesce :: ·)
      | c, rest => (mark? c).bind fun mark => (lexemes? rest).map (mark :: ·)

section Gaps

/-- The code points of the characters between lexemes. -/
def gapCodes : List Nat :=
  [0x0a, 0x0d, 0x2028, 0x2029, 0x20, 0x09, 0x0b, 0x0c, 0x85, 0xa0, 0x1680, 0x202f, 0x205f, 0x3000,
    0xfeff] ++ List.range' 0x2000 12

private theorem gap_code {c : Char} (gap : isGap c = true) : c.toNat ∈ gapCodes := by
  have same : ∀ d : Char, c = d ↔ c.toNat = d.toNat := fun d => Char.toNat_inj.symm
  by_cases range : 0x2000 ≤ c.toNat ∧ c.toNat ≤ 0x200b
  · exact List.mem_append_right _ (List.mem_range'_1.mpr ⟨range.1, Nat.lt_succ_of_le range.2⟩)
  · simp only [isGap, isLineBreak, isSpacing, Bool.or_eq_true, Bool.and_eq_true, decide_eq_true_eq,
      beq_iff_eq, same, Char.reduceToNat, or_assoc, range, false_or] at gap
    refine List.mem_append_left _ ?_
    simpa only [List.mem_cons, List.not_mem_nil, or_false] using gap

theorem gap_outside {c : Char} (gap : isGap c = true) :
    isNamePart c = false ∧ Text.isWord c = false := by
  have outside : gapCodes.all (fun code =>
      !isNamePart (Char.ofNat code) && !Text.isWord (Char.ofNat code)) = true := by
    decide +kernel
  have here := List.all_eq_true.mp outside _ (gap_code gap)
  rw [Char.ofNat_toNat] at here
  simpa using here

theorem gap_of_blank {c : Char} (blank : Text.isBlank c = true) : isGap c = true := by
  have same : ∀ d : Char, c = d ↔ c.toNat = d.toNat := fun d => Char.toNat_inj.symm
  simp only [Text.isBlank, Bool.or_eq_true, Bool.and_eq_true, decide_eq_true_eq, beq_iff_eq]
    at blank
  simp only [isGap, isLineBreak, isSpacing, Bool.or_eq_true, Bool.and_eq_true, decide_eq_true_eq,
    beq_iff_eq, same, Char.reduceToNat]
  omega

end Gaps

section Steps

variable {c : Char} {rest : List Char}

theorem lexemes?_gap (gap : isGap c = true) (rest : List Char) :
    lexemes? (c :: rest) = lexemes? rest := by
  rw [lexemes?.eq_def]
  exact if_pos gap

theorem lexemes?_gaps {gaps : List Char} (gap : ∀ c ∈ gaps, isGap c = true) (rest : List Char) :
    lexemes? (gaps ++ rest) = lexemes? rest := by
  induction gaps with
  | nil => rfl
  | cons c gaps ih =>
    rw [List.cons_append, lexemes?_gap (gap c List.mem_cons_self),
      ih fun d member => gap d (List.mem_cons_of_mem c member)]

theorem not_gap (name : isNamePart c = true) : ¬ isGap c = true := by
  intro gap
  rw [(gap_outside gap).1] at name
  cases name

theorem lexemes?_onWord (name : isNamePart c = true) (more : startsWithName rest = true) :
    lexemes? (c :: rest) = (lexemes? rest).map (onWord c) := by
  rw [lexemes?.eq_def]
  simp only [not_gap name, name, more, if_true, if_false, Bool.false_eq_true]

theorem lexemes?_lastOfWord (name : isNamePart c = true) (last : ¬ startsWithName rest = true) :
    lexemes? (c :: rest) = (lexemes? rest).map (.word [c] :: ·) := by
  rw [lexemes?.eq_def]
  simp only [not_gap name, name, last, if_true, if_false, Bool.false_eq_true]

/-- A text that begins within a word has a word as its first lexeme. -/
theorem word_of_startsWithName {first : List Lexeme} (starts : startsWithName rest = true)
    (split : lexemes? rest = some first) : ∃ word more, first = .word word :: more := by
  cases rest with
  | nil => cases starts
  | cons c rest =>
    have name : isNamePart c = true := starts
    by_cases more : startsWithName rest = true
    · rw [lexemes?_onWord name more] at split
      obtain ⟨later, _, rfl⟩ := Option.map_eq_some_iff.mp split
      unfold onWord
      split <;> exact ⟨_, _, rfl⟩
    · rw [lexemes?_lastOfWord name more] at split
      obtain ⟨later, _, rfl⟩ := Option.map_eq_some_iff.mp split
      exact ⟨_, _, rfl⟩

end Steps

/-- Where a text begins neither within a word nor within an operator. -/
def Apart (text : List Char) : Prop :=
  ∀ c ∈ text.head?, isNamePart c = false ∧ c ∉ ['&', '|', '?']

theorem lexemes?_operator (operator : Operator) (rest : List Char) :
    lexemes? (operator.text.toList ++ rest) = (lexemes? rest).map (.operator operator :: ·) := by
  cases operator <;> rfl

/-- Two equal characters in front are an operator, or none of the marks that are doubled. -/
def Doubled (c : Char) (rest : List Char) : Prop :=
  c ∈ ['&', '|', '?'] ∧ rest.head? = some c

theorem lexemes?_mark {c : Char} {rest : List Char} (gap : ¬ isGap c = true)
    (name : ¬ isNamePart c = true) (single : ¬ Doubled c rest) :
    lexemes? (c :: rest) = (mark? c).bind fun mark => (lexemes? rest).map (mark :: ·) := by
  rw [lexemes?.eq_def]
  simp only [gap, name, Bool.false_eq_true, if_false]
  split
  · exact absurd ⟨by simp, rfl⟩ single
  · exact absurd ⟨by simp, rfl⟩ single
  · exact absurd ⟨by simp, rfl⟩ single
  · rfl

/-- A text is empty, or it begins with a gap, with a character of a word, with an operator or with
another mark. -/
@[elab_as_elim]
theorem lexemeInduction {motive : List Char → Prop} (nil : motive [])
    (gap : ∀ c rest, isGap c = true → motive rest → motive (c :: rest))
    (onWord : ∀ c rest, isNamePart c = true → startsWithName rest = true → motive rest →
      motive (c :: rest))
    (lastOfWord : ∀ c rest, isNamePart c = true → ¬ startsWithName rest = true → motive rest →
      motive (c :: rest))
    (operator : ∀ (operator : Operator) rest, motive rest →
      motive (operator.text.toList ++ rest))
    (mark : ∀ c rest, ¬ isGap c = true → ¬ isNamePart c = true → ¬ Doubled c rest → motive rest →
      motive (c :: rest)) (text : List Char) : motive text := by
  induction text using lexemes?.induct with
  | case1 => exact nil
  | case2 c rest isGap ih => exact gap c rest isGap ih
  | case3 c rest _ name more ih => exact onWord c rest name more ih
  | case4 c rest _ name last ih => exact lastOfWord c rest name last ih
  | case5 more _ _ ih => exact operator .and more ih
  | case6 more _ _ ih => exact operator .or more ih
  | case7 more _ _ ih => exact operator .coalesce more ih
  | case8 c rest and or coalesce isGap name ih =>
    refine mark c rest isGap name ?_ ih
    rintro ⟨marks, same⟩
    obtain ⟨more, rfl⟩ := List.head?_eq_some_iff.mp same
    simp only [List.mem_cons, List.not_mem_nil, or_false] at marks
    rcases marks with rfl | rfl | rfl
    · exact and more rfl rfl
    · exact or more rfl rfl
    · exact coalesce more rfl rfl

private theorem onWord_append {first : List Lexeme} (c : Char) (second : List Lexeme)
    (word : ∃ word more, first = .word word :: more) :
    onWord c (first ++ second) = onWord c first ++ second := by
  obtain ⟨word, more, rfl⟩ := word
  rfl

theorem lexemes?_append (front : List Char) {behind : List Char} (apart : Apart behind) :
    lexemes? (front ++ behind) =
      (lexemes? front).bind fun first => (lexemes? behind).map (first ++ ·) := by
  induction front using lexemeInduction with
  | nil =>
    rw [List.nil_append]
    cases lexemes? behind <;> rfl
  | gap c rest gap ih =>
    rw [List.cons_append, lexemes?_gap gap, lexemes?_gap gap, ih]
  | onWord c rest name more ih =>
    have still : startsWithName (rest ++ behind) = true := by
      cases rest with
      | nil => cases more
      | cons d rest => exact more
    rw [List.cons_append, lexemes?_onWord name still, lexemes?_onWord name more, ih]
    cases split : lexemes? rest with
    | none => rfl
    | some first =>
      have word := word_of_startsWithName more split
      cases lexemes? behind with
      | none => rfl
      | some second => simp [onWord_append c second word]
  | lastOfWord c rest name last ih =>
    have still : ¬ startsWithName (rest ++ behind) = true := by
      cases rest with
      | nil =>
        cases behind with
        | nil => exact last
        | cons d behind => simp [startsWithName, (apart d rfl).1]
      | cons d rest => exact last
    rw [List.cons_append, lexemes?_lastOfWord name still, lexemes?_lastOfWord name last, ih]
    cases lexemes? rest <;> cases lexemes? behind <;> rfl
  | operator operator rest ih =>
    rw [List.append_assoc, lexemes?_operator, lexemes?_operator, ih]
    cases lexemes? rest <;> cases lexemes? behind <;> rfl
  | mark c rest gap name single ih =>
    have still : ¬ Doubled c (rest ++ behind) := by
      rintro ⟨marks, same⟩
      cases rest with
      | nil => exact (apart c same).2 marks
      | cons d rest => exact single ⟨marks, same⟩
    rw [List.cons_append, lexemes?_mark gap name still, lexemes?_mark gap name single, ih]
    cases mark? c <;> cases lexemes? rest <;> cases lexemes? behind <;> rfl

/-- Functions are in no text; they are put behind one. -/
theorem function_not_mem {text : List Char} {split : List Lexeme}
    (read : lexemes? text = some split) (source : String) : .function source ∉ split := by
  induction text using lexemeInduction generalizing split with
  | nil =>
    cases read
    exact List.not_mem_nil
  | gap c rest gap ih =>
    rw [lexemes?_gap gap] at read
    exact ih read
  | onWord c rest name more ih =>
    rw [lexemes?_onWord name more] at read
    obtain ⟨later, given, rfl⟩ := Option.map_eq_some_iff.mp read
    obtain ⟨word, others, rfl⟩ := word_of_startsWithName more given
    intro member
    exact ih given (List.mem_cons_of_mem _ ((List.mem_cons.mp member).resolve_left nofun))
  | lastOfWord c rest name last ih =>
    rw [lexemes?_lastOfWord name last] at read
    obtain ⟨later, given, rfl⟩ := Option.map_eq_some_iff.mp read
    exact fun member => ih given ((List.mem_cons.mp member).resolve_left nofun)
  | operator operator rest ih =>
    rw [lexemes?_operator] at read
    obtain ⟨later, given, rfl⟩ := Option.map_eq_some_iff.mp read
    exact fun member => ih given ((List.mem_cons.mp member).resolve_left nofun)
  | mark c rest gap name single ih =>
    rw [lexemes?_mark gap name single] at read
    obtain ⟨mark, found, read⟩ := Option.bind_eq_some_iff.mp read
    obtain ⟨later, given, rfl⟩ := Option.map_eq_some_iff.mp read
    have other : .function source ≠ mark := by
      rintro rfl
      unfold mark? at found
      split at found <;> cases found
    exact fun member => ih given (List.mem_of_ne_of_mem other member)

private theorem apart_gaps {gaps : List Char} (gap : ∀ c ∈ gaps, isGap c = true) : Apart gaps := by
  intro c first
  have here := gap c (List.mem_of_mem_head? first)
  refine ⟨(gap_outside here).1, fun mark => ?_⟩
  simp only [List.mem_cons, List.not_mem_nil, or_false] at mark
  rcases mark with rfl | rfl | rfl <;> exact absurd here (by decide)

theorem lexemes?_append_gaps {gaps : List Char} (gap : ∀ c ∈ gaps, isGap c = true)
    (text : List Char) : lexemes? (text ++ gaps) = lexemes? text := by
  have none : lexemes? gaps = some [] := by
    have all := lexemes?_gaps gap []
    rwa [List.append_nil] at all
  rw [lexemes?_append text (apart_gaps gap), none]
  cases lexemes? text <;> simp

theorem lexemes?_trim (text : List Char) : lexemes? (Text.trim text) = lexemes? text := by
  obtain ⟨front, back, before, after, whole⟩ := Text.exists_trim text
  have same := congrArg lexemes? whole
  rw [lexemes?_gaps fun c member => gap_of_blank (before c member),
    lexemes?_append_gaps fun c member => gap_of_blank (after c member)] at same
  exact same.symm

/-- A text, with further lexemes behind it, reads as an expression. -/
structure Reads (text : List Char) (behind : List Lexeme) (expression : Expression) : Prop where
  fits : expression.Fits
  whole : (lexemes? text).map (· ++ behind) = some expression.lexemes

theorem Reads.unique {text : List Char} {behind : List Lexeme} {first second : Expression}
    (reads : Reads text behind first) (other : Reads text behind second) : first = second := by
  refine Expression.eq_of_lexemes reads.fits other.fits (Option.some.inj ?_)
  exact reads.whole.symm.trans other.whole

theorem Reads.iff_eq {text : List Char} {behind : List Lexeme} {whole : Expression}
    (reads : Reads text behind whole) (other : Expression) :
    Reads text behind other ↔ other = whole :=
  ⟨fun read => read.unique reads, fun same => same ▸ reads⟩

theorem Reads.lexemes {text : List Char} {expression : Expression}
    (reads : Reads text [] expression) : lexemes? text = some expression.lexemes := by
  have whole := reads.whole
  simpa using whole

/-- What is read of a text, of added lexemes and of those behind them. -/
theorem Reads.iff_lexemes {text longer : List Char} {added behind : List Lexeme}
    {expression whole : Expression} (reads : Reads text [] expression)
    (adds : lexemes? longer = (lexemes? text).map (· ++ added)) :
    Reads longer behind whole ↔
      whole.Fits ∧ whole.lexemes = expression.lexemes ++ (added ++ behind) := by
  have split : (lexemes? longer).map (· ++ behind) =
      some (expression.lexemes ++ (added ++ behind)) := by
    rw [adds, reads.lexemes, Option.map_some, Option.map_some, List.append_assoc]
  constructor
  · exact fun reads => ⟨reads.fits, Option.some.inj (reads.whole.symm.trans split)⟩
  · exact fun ⟨fits, same⟩ => ⟨fits, same ▸ split⟩

end PanelCompiler.Script
