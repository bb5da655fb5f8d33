import PanelCompiler.Proofs.Script.Lexemes
import PanelCompiler.Script.Lexer

namespace PanelCompiler.Script

open Lexer (nextToken scanToken scanWord skipTrivia)

structure IsFreeName (name : List Char) : Prop where
  start : name.head?.any isNameStart = true
  parts : ∀ c ∈ name, isNamePart c = true
  unreserved : String.ofList name ∉ reservedWords

theorem IsFreeName.ne_nil {name : List Char} (named : IsFreeName name) : name ≠ [] := by
  rintro rfl
  cases named.start

theorem IsFreeName.ne_this {name : List Char} (named : IsFreeName name) :
    String.ofList name ≠ "this" := by
  intro same
  have unreserved := named.unreserved
  rw [same] at unreserved
  exact unreserved (by decide)

theorem isDecimal_of_isNameStart {c : Char} (start : isNameStart c = true) :
    isDecimal c = false := by
  cases digit : isDecimal c with
  | false => rfl
  | true =>
    simp only [isDecimal, Bool.and_eq_true, decide_eq_true_eq, Char.le_def,
      UInt32.le_iff_toNat_le] at digit
    have none : (List.range' 48 10).all (fun code => !isNameStart (Char.ofNat code)) = true := by
      decide +kernel
    have code : c.toNat ∈ List.range' 48 10 :=
      List.mem_range'_1.mpr ⟨digit.1, Nat.lt_succ_of_le digit.2⟩
    have here := List.all_eq_true.mp none _ code
    rw [Char.ofNat_toNat, start] at here
    cases here

/-- A character that no blank or comment begins with. -/
def isShown (c : Char) : Bool :=
  !isGap c && c != '/'

/-- A text in which no word goes on. -/
def EndsWord (text : List Char) : Prop :=
  ∀ c ∈ text.head?, isNamePart c = false ∧ c ≠ '\\'

theorem ne_escape {c : Char} (part : isNamePart c = true) : c ≠ '\\' := by
  rintro rfl
  exact absurd part (by decide +kernel)

theorem isShown_of_isNamePart {c : Char} (part : isNamePart c = true) : isShown c = true := by
  have apart : c ≠ '/' := by
    rintro rfl
    exact absurd part (by decide +kernel)
  cases gap : isGap c with
  | true => cases part.symm.trans (gap_outside gap).1
  | false => simp [isShown, gap, apart]

namespace Token

/-- The token that begins with the first character. -/
def atStart (text : List Char) : Token :=
  let (kind, word, escaped, rest) := scanToken text
  { kind := kind, text := word, start := text, rest := rest, afterBreak := false,
    escaped := escaped }

/-- A mark right in front of this source, and whether a line break stands before it. -/
def ofMark (mark : String) (rest : List Char) (broken : Bool := false) : Token :=
  { kind := .mark, text := mark, start := mark.toList ++ rest, rest := rest, afterBreak := broken,
    escaped := false }

/-- A word right in front of this source, and whether a line break stands before it. -/
def ofWord (word rest : List Char) (broken : Bool := false) : Token :=
  { kind := .word, text := String.ofList word, start := word ++ rest, rest := rest,
    afterBreak := broken, escaped := false }

end Token

/-- Blanks and comments in front of a token, and whether they hold a line break. A comment that goes
on to the end of its line is followed by the line break. -/
inductive IsTrivia : List Char → Bool → Prop
  | nil : IsTrivia [] false
  | spacing {c : Char} {gap : List Char} {broken : Bool} (unbroken : isLineBreak c = false)
    (space : isSpacing c = true) (others : IsTrivia gap broken) : IsTrivia (c :: gap) broken
  | lineBreak {c : Char} {gap : List Char} {broken : Bool} (ends : isLineBreak c = true)
    (others : IsTrivia gap broken) : IsTrivia (c :: gap) true
  | lineComment {text : List Char} {c : Char} {gap : List Char} {broken : Bool}
    (line : ∀ c ∈ text, isLineBreak c = false) (ends : isLineBreak c = true)
    (others : IsTrivia gap broken) : IsTrivia ('/' :: '/' :: (text ++ c :: gap)) true
  | blockComment {text gap : List Char} {broken : Bool} (unclosed : ¬ ['*', '/'] <:+: text)
    (others : IsTrivia gap broken) :
    IsTrivia ('/' :: '*' :: (text ++ '*' :: '/' :: gap)) (text.any isLineBreak || broken)

section Blanks

variable {c : Char} {gap rest : List Char} {broken : Bool}

-- The recursion goes down the text, but its equations are out of reach of `rw`.
theorem skipTrivia_cons (apart : c ≠ '/') (saw : Bool) : skipTrivia .space saw (c :: rest) =
    if isLineBreak c then skipTrivia .space true rest
    else if isSpacing c then skipTrivia .space saw rest
    else some (c :: rest, saw) := by
  have slash : (c == '/') = false := by simpa using apart
  delta skipTrivia
  change (if isLineBreak c = true then _ else if isSpacing c = true then _
    else if (c == '/') = true then _ else some (c :: rest, saw)) = _
  rw [slash]
  rfl

theorem skipTrivia_shown (shown : isShown c = true) (saw : Bool) :
    skipTrivia .space saw (c :: rest) = some (c :: rest, saw) := by
  simp only [isShown, isGap, Bool.and_eq_true, Bool.not_eq_true', Bool.or_eq_false_iff,
    bne_iff_ne, ne_eq] at shown
  obtain ⟨⟨unbroken, apart⟩, slash⟩ := shown
  rw [skipTrivia_cons slash, if_neg (by simp [unbroken]), if_neg (by simp [apart])]

private theorem skipTrivia_lineComment {text : List Char}
    (line : ∀ c ∈ text, isLineBreak c = false) (ends : isLineBreak c = true) (saw : Bool) :
    skipTrivia .lineComment saw (text ++ c :: rest) = skipTrivia .space true rest := by
  induction text with
  | nil => exact if_pos ends
  | cons d text ih =>
    obtain ⟨inside, others⟩ := List.forall_mem_cons.mp line
    change (if isLineBreak d = true then _ else skipTrivia .lineComment saw _) = _
    rw [inside]
    exact ih others

-- The comment is not closed by a slash at its start, however it has begun.
private theorem skipTrivia_blockComment {text : List Char} {closing : Bool}
    (unclosed : ¬ ['*', '/'] <:+: text) (opens : closing = true → text.head? ≠ some '/')
    (saw : Bool) : skipTrivia (.blockComment closing) saw (text ++ '*' :: '/' :: rest) =
      skipTrivia .space (saw || text.any isLineBreak) rest := by
  induction text generalizing closing saw with
  | nil =>
    have closed : skipTrivia (.blockComment true) saw ('/' :: rest) =
        skipTrivia .space saw rest := rfl
    change (if (closing && '*' == '/') = true then _ else
      skipTrivia (.blockComment true) (saw || isLineBreak '*') ('/' :: rest)) = _
    have star : isLineBreak '*' = false := by decide
    rw [if_neg (by simp), star, Bool.or_false, closed]
    simp
  | cons d text ih =>
    have goes : ¬ (closing && d == '/') = true := by
      intro both
      simp only [Bool.and_eq_true, beq_iff_eq] at both
      exact opens both.1 (congrArg some both.2)
    have inner : ¬ ['*', '/'] <:+: text := fun inside => unclosed (inside.trans ⟨[d], [], by simp⟩)
    have next : (d == '*') = true → text.head? ≠ some '/' := by
      intro star head
      obtain ⟨more, rfl⟩ := List.head?_eq_some_iff.mp head
      rw [beq_iff_eq.mp star] at unclosed
      exact unclosed ⟨[], more, rfl⟩
    rw [List.cons_append]
    change (if (closing && d == '/') = true then _ else
      skipTrivia (.blockComment (d == '*')) (saw || isLineBreak d) _) = _
    rw [if_neg goes, ih inner next, List.any_cons, Bool.or_assoc]

private theorem skipTrivia_trivia (trivia : IsTrivia gap broken) (saw : Bool) :
    skipTrivia .space saw (gap ++ rest) = skipTrivia .space (saw || broken) rest := by
  induction trivia generalizing saw with
  | nil => rw [Bool.or_false, List.nil_append]
  | @spacing c _ _ unbroken space _ ih =>
    have apart : c ≠ '/' := by
      rintro rfl
      exact absurd space (by decide)
    rw [List.cons_append, skipTrivia_cons apart, unbroken, space]
    exact ih saw
  | @lineBreak c _ _ ends _ ih =>
    have apart : c ≠ '/' := by
      rintro rfl
      exact absurd ends (by decide)
    rw [List.cons_append, skipTrivia_cons apart, ends, Bool.or_true]
    exact ih true
  | @lineComment text c gap _ line ends _ ih =>
    have whole : '/' :: '/' :: (text ++ c :: gap) ++ rest =
        '/' :: '/' :: (text ++ c :: (gap ++ rest)) := by simp
    rw [whole]
    change skipTrivia .lineComment saw _ = _
    rw [skipTrivia_lineComment line ends, Bool.or_true]
    exact ih true
  | @blockComment text gap _ unclosed _ ih =>
    have whole : '/' :: '*' :: (text ++ '*' :: '/' :: gap) ++ rest =
        '/' :: '*' :: (text ++ '*' :: '/' :: (gap ++ rest)) := by simp
    have opens : false = true → text.head? ≠ some '/' := nofun
    rw [whole]
    change skipTrivia (.blockComment false) saw _ = _
    rw [skipTrivia_blockComment unclosed opens, ih, Bool.or_assoc]

theorem IsTrivia.append {others : List Char} {more : Bool} (first : IsTrivia gap broken)
    (second : IsTrivia others more) : IsTrivia (gap ++ others) (broken || more) := by
  induction first with
  | nil => exact second
  | spacing unbroken space _ ih => exact .spacing unbroken space ih
  | lineBreak ends _ ih => exact .lineBreak ends ih
  | lineComment line ends _ ih =>
    rw [List.cons_append, List.cons_append, List.append_assoc, List.cons_append]
    exact .lineComment line ends ih
  | blockComment unclosed _ ih =>
    rw [List.cons_append, List.cons_append, List.append_assoc, List.cons_append, List.cons_append,
      Bool.or_assoc]
    exact .blockComment unclosed ih

theorem nextToken_trivia (trivia : IsTrivia gap broken) (shown : isShown c = true) :
    nextToken (gap ++ c :: rest) =
      { Token.atStart (c :: rest) with afterBreak := broken } := by
  rw [nextToken, skipTrivia_trivia trivia, skipTrivia_shown shown, Bool.false_or]
  rfl

theorem nextToken_mark {mark : String} {others : List Char} (trivia : IsTrivia gap broken)
    (shown : isShown c = true) (token : Token.atStart (c :: rest) = Token.ofMark mark others) :
    nextToken (gap ++ c :: rest) = Token.ofMark mark others broken := by
  rw [nextToken_trivia trivia shown, token]
  rfl

theorem nextToken_shown (shown : isShown c = true) :
    nextToken (c :: rest) = Token.atStart (c :: rest) :=
  nextToken_trivia .nil shown

theorem nextToken_nil : (nextToken []).kind = .finish := by
  decide +kernel

end Blanks

section Words

variable {c : Char} {word rest reversed : List Char} {fuel : Nat} {escaped : Bool}

private theorem scanWord_end (ends : EndsWord rest) (begun : reversed ≠ []) :
    scanWord (fuel + 1) reversed escaped rest = some (reversed.reverse, escaped, rest) := by
  unfold scanWord
  simp only [List.isEmpty_eq_false_iff.mpr begun, Bool.false_eq_true, if_false]
  split
  · exact absurd rfl (ends _ rfl).2
  · exact absurd rfl (ends _ rfl).2
  · rename_i c rest _ _
    rw [if_neg (by simp [(ends c rfl).1])]
  · rfl

theorem scanWord_cons
    (accepts : (if reversed.isEmpty then isNameStart c else isNamePart c) = true)
    (apart : c ≠ '\\') : scanWord (fuel + 1) reversed escaped (c :: rest) =
      scanWord fuel (c :: reversed) escaped rest := by
  have taken : (if reversed.isEmpty then isNameStart else isNamePart) c = true := by
    cases empty : reversed.isEmpty <;> simpa [empty] using accepts
  rw [scanWord, if_pos taken]
  · exact fun _ same _ => apart same
  · exact fun same => apart same

private theorem scanWord_parts (parts : ∀ c ∈ word, isNamePart c = true) (ends : EndsWord rest)
    (begun : reversed ≠ []) (enough : word.length < fuel) :
    scanWord fuel reversed escaped (word ++ rest) =
      some (reversed.reverse ++ word, escaped, rest) := by
  induction word generalizing reversed fuel with
  | nil =>
    obtain ⟨fuel, rfl⟩ := Nat.exists_eq_succ_of_ne_zero (Nat.ne_of_gt enough)
    rw [List.nil_append, scanWord_end ends begun, List.append_nil]
  | cons c word ih =>
    obtain ⟨part, others⟩ := List.forall_mem_cons.mp parts
    obtain ⟨fuel, rfl⟩ := Nat.exists_eq_succ_of_ne_zero (Nat.ne_zero_of_lt enough)
    have accepts : (if reversed.isEmpty then isNameStart c else isNamePart c) = true := by
      rw [List.isEmpty_eq_false_iff.mpr begun]
      exact part
    rw [List.cons_append, scanWord_cons accepts (ne_escape part),
      ih others (List.cons_ne_nil c reversed) (Nat.lt_of_succ_lt_succ enough)]
    simp

private theorem atStart_word (start : word.head?.any isNameStart = true)
    (parts : ∀ c ∈ word, isNamePart c = true) (ends : EndsWord rest) :
    Token.atStart (word ++ rest) = Token.ofWord word rest := by
  cases word with
  | nil => cases start
  | cons c word =>
    obtain ⟨part, others⟩ := List.forall_mem_cons.mp parts
    have enough : word.length < (c :: (word ++ rest)).length := by
      rw [List.length_cons, List.length_append]
      omega
    have scanned : scanWord ((c :: (word ++ rest)).length + 1) [] false (c :: (word ++ rest)) =
        some (c :: word, false, rest) := by
      rw [scanWord_cons (by simpa using start) (ne_escape part),
        scanWord_parts others ends (List.cons_ne_nil c []) enough]
      rfl
    have begins : (isNameStart c || c == '\\') = true := Bool.or_eq_true_iff.mpr (.inl start)
    unfold Token.atStart scanToken
    simp only [List.cons_append, scanned, if_pos begins]
    rfl

theorem nextToken_word {gap : List Char} {broken : Bool} (trivia : IsTrivia gap broken)
    (start : word.head?.any isNameStart = true) (parts : ∀ c ∈ word, isNamePart c = true)
    (ends : EndsWord rest) : nextToken (gap ++ (word ++ rest)) = Token.ofWord word rest broken := by
  have token := atStart_word start parts ends
  cases word with
  | nil => cases start
  | cons c word =>
    have shown := isShown_of_isNamePart (parts c List.mem_cons_self)
    rw [List.cons_append, nextToken_trivia trivia shown, ← List.cons_append, token]
    rfl

end Words

end PanelCompiler.Script
