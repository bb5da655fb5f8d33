import PanelCompiler.Proofs.Directive.Reference
import PanelCompiler.Value.Shape

/-!
Identifiers read as templates. A dollar sign stands for itself only at the end of an identifier; in
front of another character it is taken for a group, or for one half of a written-out dollar sign. So
an identifier stands for itself if it has no dollar sign but at its end, and beyond those only if it
comes out as the whole reference, as `$0` does. Every other one comes out with another number of
dollar signs, or behind letters.
-/

namespace PanelCompiler.Directive

open Text (isAsciiWord)

def isIdentifierPart (c : Char) : Bool :=
  isAsciiWord c || c == '$'

/-- Letters, digits, underscores and dollar signs, the first of them no digit. -/
def IsIdentifier : List Char → Prop
  | [] => False
  | first :: rest => Value.isBareNameStart first = true ∧ rest.all isIdentifierPart = true

instance : DecidablePred IsIdentifier
  | [] => .isFalse nofun
  | _ :: _ => inferInstanceAs (Decidable (_ ∧ _))

theorem IsIdentifier.parts {name : List Char} (identifier : IsIdentifier name) :
    ∀ c ∈ name, isIdentifierPart c = true := by
  cases name with
  | nil => exact identifier.elim
  | cons first rest =>
    obtain ⟨start, parts⟩ := identifier
    refine List.forall_mem_cons.mpr ⟨?_, List.all_eq_true.mp parts⟩
    simp only [Value.isBareNameStart, Bool.or_eq_true] at start
    simp only [isIdentifierPart, isAsciiWord, Bool.or_eq_true]
    tauto

theorem isAsciiWord_ne_sign {c : Char} (word : isAsciiWord c = true) : c ≠ '$' := by
  rintro rfl
  exact absurd word (by decide)

section Expanding

variable (reference : List Char)

theorem expandFrom_pass (passed rest : List Char) :
    expandFrom reference passed.length (passed ++ rest) = expandFrom reference 0 rest := by
  induction passed with
  | nil => rfl
  | cons c passed ih => rw [List.length_cons, List.cons_append, expandFrom, ih]

theorem expandFrom_char {c : Char} (plain : c ≠ '$') (rest : List Char) :
    expandFrom reference 0 (c :: rest) = c :: expandFrom reference 0 rest := by
  rw [expandFrom]
  simp [plain]

theorem expandFrom_double (rest : List Char) :
    expandFrom reference 0 ('$' :: '$' :: rest) = '$' :: expandFrom reference 0 rest := by
  have passed := expandFrom_pass reference ['$'] rest
  rw [expandFrom]
  simpa using passed

/-- A group takes all the word characters behind the dollar sign. -/
theorem expandFrom_group {group rest : List Char} (nonempty : group ≠ [])
    (word : ∀ c ∈ group, isAsciiWord c = true) (next : ∀ c ∈ rest.head?, c = '$') :
    expandFrom reference 0 ('$' :: (group ++ rest)) =
      groupText reference group ++ expandFrom reference 0 rest := by
  have passed := expandFrom_pass reference group rest
  have taken : (group ++ rest).takeWhile isAsciiWord = group := by
    rw [List.takeWhile_append_of_pos word, List.append_right_eq_self]
    cases rest with
    | nil => rfl
    | cons c rest =>
      rw [next c rfl]
      rfl
  obtain ⟨c, group, rfl⟩ := List.exists_cons_of_ne_nil nonempty
  have start : isAsciiWord c = true := word c List.mem_cons_self
  have single : c ≠ '$' := isAsciiWord_ne_sign start
  have bare : c ≠ '\x7b' := by
    rintro rfl
    exact absurd start (by decide)
  have named : groupName? (c :: group ++ rest) = some (c :: group, (c :: group).length) := by
    rw [List.cons_append] at taken ⊢
    rw [groupName?]
    · rw [taken]
      rfl
    · intro others same
      exact bare (List.cons.inj same).1
  rw [expandFrom]
  simp only [named]
  simpa [single] using passed

end Expanding

section Pieces

/-- Behind a dollar sign an identifier ends, or there is another one, or a group that reaches to the
next one. -/
theorem behind_sign {rest : List Char} (parts : ∀ c ∈ rest, isIdentifierPart c = true) :
    rest = [] ∨ (∃ others, rest = '$' :: others) ∨
      ∃ group others, rest = group ++ others ∧ group ≠ [] ∧
        (∀ c ∈ group, isAsciiWord c = true) ∧ ∀ c ∈ others.head?, c = '$' := by
  cases rest with
  | nil => exact .inl rfl
  | cons d rest =>
    by_cases again : d = '$'
    · exact .inr (.inl ⟨rest, by rw [again]⟩)
    · have start : isAsciiWord d = true := by
        simpa [isIdentifierPart, again] using parts d List.mem_cons_self
      refine .inr (.inr ⟨(d :: rest).takeWhile isAsciiWord, (d :: rest).dropWhile isAsciiWord,
        List.takeWhile_append_dropWhile.symm, ?_, ?_, ?_⟩)
      · rw [List.takeWhile_cons_of_pos start]
        exact List.cons_ne_nil d _
      · exact fun c member => List.all_eq_true.mp List.all_takeWhile c member
      · intro c first
        have ended := List.head?_dropWhile_not isAsciiWord (d :: rest)
        rw [first] at ended
        have part := parts c ((List.dropWhile_suffix _).subset (List.mem_of_mem_head? first))
        simpa [isIdentifierPart, ended] using part

/-- A text cut as a template is read: letters, written-out dollar signs, and groups. -/
inductive Pieces : List Char → Prop
  | nil : Pieces []
  | last : Pieces ['$']
  | letter {c : Char} {rest : List Char} (word : isAsciiWord c = true) (later : Pieces rest) :
    Pieces (c :: rest)
  | double {rest : List Char} (later : Pieces rest) : Pieces ('$' :: '$' :: rest)
  | group {group rest : List Char} (nonempty : group ≠ [])
    (words : ∀ c ∈ group, isAsciiWord c = true) (next : ∀ c ∈ rest.head?, c = '$')
    (later : Pieces rest) : Pieces ('$' :: (group ++ rest))

theorem pieces_of_parts : ∀ text, (∀ c ∈ text, isIdentifierPart c = true) → Pieces text
  | [], _ => .nil
  | c :: rest, parts => by
    have later := (List.forall_mem_cons.mp parts).2
    by_cases sign : c = '$'
    · rcases behind_sign later with ended | ⟨others, whole⟩ | ⟨group, others, whole, named⟩
      · rw [sign, ended]
        exact .last
      · have shorter : others.length < (c :: rest).length := by
          rw [whole, List.length_cons, List.length_cons]
          omega
        rw [whole] at later
        rw [sign, whole]
        exact .double (pieces_of_parts others (List.forall_mem_cons.mp later).2)
      · have shorter : others.length < (c :: rest).length := by
          rw [whole, List.length_cons, List.length_append]
          omega
        rw [whole] at later
        rw [sign, whole]
        exact .group named.1 named.2.1 named.2.2
          (pieces_of_parts others (List.forall_mem_append.mp later).2)
    · have word : isAsciiWord c = true := by
        simpa [isIdentifierPart, sign] using parts c List.mem_cons_self
      exact .letter word (pieces_of_parts rest later)
  termination_by text => text.length
  decreasing_by
    · exact shorter
    · exact shorter
    · exact Nat.lt_succ_self rest.length

end Pieces

section Standing

private theorem expandFrom_plain (reference : List Char) {text : List Char}
    (plain : '$' ∉ text.dropLast) : expandFrom reference 0 text = text := by
  induction text with
  | nil => rfl
  | cons c rest ih =>
    cases rest with
    | nil =>
      by_cases sign : c = '$'
      · rw [sign]
        rfl
      · exact expandFrom_char reference sign []
    | cons d rest =>
      rw [List.dropLast_cons_cons, List.mem_cons, not_or] at plain
      rw [expandFrom_char reference (Ne.symm plain.1), ih plain.2]

theorem substitute_plain {name : List Char} (plain : '$' ∉ name.dropLast) :
    substitute name = name :=
  expandFrom_plain _ plain

variable {reference : List Char}

/-- From a dollar sign on, if anything is written out, there is a dollar sign in it. -/
theorem Pieces.expandFrom_marked (marked : '$' ∈ reference) {text : List Char}
    (pieces : Pieces text) (start : ∀ c ∈ text.head?, c = '$') :
    expandFrom reference 0 text = [] ∨ '$' ∈ expandFrom reference 0 text := by
  induction pieces with
  | nil => exact .inl rfl
  | last => exact .inr List.mem_cons_self
  | letter word => exact absurd (start _ rfl) (isAsciiWord_ne_sign word)
  | double =>
    rw [expandFrom_double]
    exact .inr List.mem_cons_self
  | group nonempty words next later ih =>
    rw [expandFrom_group reference nonempty words next, groupText]
    split
    · exact .inr (List.mem_append_left _ marked)
    · exact ih next

/-- What an identifier, read as a template, is written out to. -/
inductive Expansion (reference text made : List Char) : Prop
  /-- Its only dollar sign is its last character, and it comes out as it is. -/
  | itself (plain : '$' ∉ text.dropLast) (same : made = text)
  /-- Dollar signs are lost, in pairs or with groups that match nothing. -/
  | fewer (signs : made.count '$' < text.count '$')
  /-- The whole reference comes out once, behind the letters in front of the first group. -/
  | behind (letters : List Char) (words : ∀ c ∈ letters, isAsciiWord c = true)
    (whole : made = letters ++ reference)
  /-- The whole reference comes out, and further dollar signs. -/
  | more (signs : reference.count '$' < made.count '$')

private theorem Pieces.expansion (marked : '$' ∈ reference) {text : List Char}
    (pieces : Pieces text) : Expansion reference text (expandFrom reference 0 text) := by
  induction pieces with
  | nil => exact .itself (by decide) rfl
  | last => exact .itself (by decide) rfl
  | @letter c rest word later ih =>
    have unsigned := isAsciiWord_ne_sign word
    rw [expandFrom_char reference unsigned]
    cases ih with
    | itself plain same =>
      refine .itself ?_ (by rw [same])
      cases rest with
      | nil => exact nofun
      | cons d rest => simpa [List.dropLast_cons_cons, Ne.symm unsigned] using plain
    | fewer signs => exact .fewer (by simpa [List.count_cons_of_ne unsigned] using signs)
    | behind letters words whole =>
      exact .behind (c :: letters) (List.forall_mem_cons.mpr ⟨word, words⟩) (by rw [whole]; rfl)
    | more signs => exact .more (by rwa [List.count_cons_of_ne unsigned])
  | @double rest later ih =>
    rw [expandFrom_double]
    cases ih with
    | itself plain same => exact .fewer (by rw [same]; simp)
    | fewer signs => exact .fewer (by simp only [List.count_cons_self]; omega)
    | behind letters words whole =>
      refine .more ?_
      rw [whole, List.count_cons_self, List.count_append]
      omega
    | more signs => exact .more (by rw [List.count_cons_self]; omega)
  | @group group rest nonempty words next later ih =>
    have lost : rest.count '$' < ('$' :: (group ++ rest)).count '$' := by
      rw [List.count_cons_self, List.count_append]
      omega
    rw [expandFrom_group reference nonempty words next, groupText]
    split
    · -- The whole reference is written out here: nothing, or another dollar sign, is behind it.
      rcases later.expandFrom_marked marked next with ended | signed
      · exact .behind [] nofun (by rw [ended, List.append_nil, List.nil_append])
      · refine .more ?_
        rw [List.count_append]
        exact Nat.lt_add_of_pos_right (List.count_pos_iff.mpr signed)
    · rw [List.nil_append]
      cases ih with
      | itself plain same => exact .fewer (by rwa [same])
      | fewer signs => exact .fewer (Nat.lt_trans signs lost)
      | behind letters words whole => exact .behind letters words whole
      | more signs => exact .more signs

variable {name : List Char}

theorem IsIdentifier.expansion (identifier : IsIdentifier name) :
    Expansion (qualifier ++ name) name (substitute name) := by
  by_cases marked : '$' ∈ name
  · exact (pieces_of_parts name identifier.parts).expansion (List.mem_append_right qualifier marked)
  · have plain : '$' ∉ name.dropLast := fun member => marked (List.mem_of_mem_dropLast member)
    exact .itself plain (substitute_plain plain)

/-- An identifier that does not stand for itself comes out with another number of dollar signs, or
behind letters. -/
theorem substitute_cases (identifier : IsIdentifier name) :
    StandsForItself name ∨ (substitute name).count '$' ≠ name.count '$' ∨
      ∃ letters, letters ≠ [] ∧ (∀ c ∈ letters, isAsciiWord c = true) ∧
        substitute name = letters ++ (qualifier ++ name) := by
  cases identifier.expansion with
  | itself plain same => exact .inl (.inl same)
  | fewer signs => exact .inr (.inl (Nat.ne_of_lt signs))
  | behind letters words whole =>
    by_cases nonempty : letters = []
    · rw [nonempty] at whole
      exact .inl (.inr whole)
    · exact .inr (.inr ⟨letters, nonempty, words, whole⟩)
  | more signs =>
    have unsigned : qualifier.count '$' = 0 := rfl
    rw [List.count_append, unsigned, Nat.zero_add] at signs
    exact .inr (.inl (Nat.ne_of_gt signs))

theorem substitute_eq_self_iff (identifier : IsIdentifier name) :
    substitute name = name ↔ '$' ∉ name.dropLast := by
  constructor
  · intro same
    have lengths := congrArg List.length same
    have counts := congrArg (List.count '$') same
    cases identifier.expansion with
    | itself plain => exact plain
    | fewer signs => omega
    | behind letters words whole =>
      rw [whole, List.length_append, List.length_append, length_qualifier] at lengths
      omega
    | more signs =>
      rw [List.count_append] at signs
      omega
  · exact substitute_plain

end Standing

end PanelCompiler.Directive
