import Mathlib.Data.List.Infix
import PanelCompiler.Proofs.Text.Trim

namespace PanelCompiler.Text

/-- No beginning closes more than it opens, and as many are opened as are closed. -/
structure Paired (opening closing : Char) (text : List Char) : Prop where
  within : ∀ front back, text = front ++ back → front.count closing ≤ front.count opening
  whole : text.count opening = text.count closing

theorem paired_iff_inits {opening closing : Char} {text : List Char} :
    Paired opening closing text ↔
      (∀ front ∈ text.inits, front.count closing ≤ front.count opening) ∧
        text.count opening = text.count closing := by
  constructor
  · rintro ⟨within, whole⟩
    refine ⟨fun front member => ?_, whole⟩
    obtain ⟨back, split⟩ := (List.mem_inits _ _).mp member
    exact within front back split.symm
  · rintro ⟨within, whole⟩
    refine ⟨fun front back split => within front ?_, whole⟩
    exact (List.mem_inits _ _).mpr ⟨back, split.symm⟩

instance (opening closing : Char) (text : List Char) : Decidable (Paired opening closing text) :=
  decidable_of_iff _ paired_iff_inits.symm

/-- A paired text that begins with an opening delimiter whose partner is its last character. -/
structure Group (opening closing : Char) (text : List Char) : Prop where
  opens : text.head? = some opening
  paired : Paired opening closing text
  once : ∀ front back, text = front ++ back → front ≠ [] → back ≠ [] →
    front.count closing < front.count opening

section Paired

variable {opening closing : Char} {text first rest : List Char}

theorem Paired.front (paired : Paired opening closing (first ++ rest)) :
    first.count closing ≤ first.count opening :=
  paired.within first rest rfl

theorem paired_of_not_mem (none : opening ∉ text) (nor : closing ∉ text) :
    Paired opening closing text := by
  refine ⟨fun front back split => ?_, ?_⟩
  · subst split
    have absent : closing ∉ front := fun member => nor (List.mem_append_left back member)
    rw [List.count_eq_zero_of_not_mem absent]
    exact Nat.zero_le _
  · rw [List.count_eq_zero_of_not_mem none, List.count_eq_zero_of_not_mem nor]

theorem Paired.not_mem (paired : Paired opening closing text) (none : opening ∉ text) :
    closing ∉ text := by
  rw [← List.count_eq_zero, ← paired.whole]
  exact List.count_eq_zero_of_not_mem none

/-- Characters that are no delimiters make no difference at the start of a text. -/
theorem paired_append_iff (none : opening ∉ first) (nor : closing ∉ first) :
    Paired opening closing (first ++ rest) ↔ Paired opening closing rest := by
  have opened := List.count_eq_zero_of_not_mem none
  have closed := List.count_eq_zero_of_not_mem nor
  constructor
  · intro paired
    refine ⟨fun front back split => ?_, ?_⟩
    · have outer : Paired opening closing ((first ++ front) ++ back) := by
        rwa [List.append_assoc, ← split]
      have counted := outer.front
      simpa [opened, closed] using counted
    · have counted := paired.whole
      simpa [opened, closed] using counted
  · intro paired
    refine ⟨fun front back split => ?_, ?_⟩
    · rcases List.append_eq_append_iff.mp split with ⟨inner, rfl, rfl⟩ | ⟨inner, rfl, rfl⟩
      · have counted := paired.front
        simpa [opened, closed] using counted
      · have absent : closing ∉ front := fun member => nor (List.mem_append_left inner member)
        rw [List.count_eq_zero_of_not_mem absent]
        exact Nat.zero_le _
    · simpa [opened, closed] using paired.whole

/-- Nor do they at its end. -/
theorem append_paired_iff (none : opening ∉ rest) (nor : closing ∉ rest) :
    Paired opening closing (first ++ rest) ↔ Paired opening closing first := by
  have opened := List.count_eq_zero_of_not_mem none
  have closed := List.count_eq_zero_of_not_mem nor
  constructor
  · intro paired
    refine ⟨fun front back split => ?_, ?_⟩
    · subst split
      rw [List.append_assoc] at paired
      exact paired.front
    · simpa [opened, closed] using paired.whole
  · intro paired
    refine ⟨fun front back split => ?_, ?_⟩
    · rcases List.append_eq_append_iff.mp split with ⟨inner, rfl, rfl⟩ | ⟨inner, rfl, rfl⟩
      · have counted := paired.whole
        have absent : closing ∉ inner := fun member => nor (List.mem_append_left back member)
        simp [List.count_eq_zero_of_not_mem absent]
        omega
      · exact paired.front
    · simpa [opened, closed] using paired.whole

theorem paired_trim_iff (shown : isBlank opening = false) (likewise : isBlank closing = false) :
    Paired opening closing (trim text) ↔ Paired opening closing text := by
  obtain ⟨front, back, before, behind, split⟩ := exists_trim text
  have absent : ∀ {blanks : List Char} {c : Char}, (∀ d ∈ blanks, isBlank d = true) →
      isBlank c = false → c ∉ blanks := by
    intro blanks c all shown member
    rw [all c member] at shown
    cases shown
  conv => rhs; rw [split]
  rw [paired_append_iff (absent before shown) (absent before likewise),
    append_paired_iff (absent behind shown) (absent behind likewise)]

end Paired

section Group

variable {opening closing : Char} {inside : List Char}

/-- What stands in a pair of delimiters is paired exactly if the two are partners. -/
theorem group_iff (different : opening ≠ closing) :
    Group opening closing (opening :: inside ++ [closing]) ↔ Paired opening closing inside := by
  have other : closing ≠ opening := different.symm
  constructor
  · intro group
    refine ⟨fun front back split => ?_, ?_⟩
    · have counted := group.once (opening :: front) (back ++ [closing]) (by simp [split])
        (List.cons_ne_nil _ _) (by simp)
      simp [different] at counted
      omega
    · have counted := group.paired.whole
      simp [different, other] at counted
      exact counted
  · intro paired
    have once : ∀ front back, opening :: inside ++ [closing] = front ++ back → front ≠ [] →
        back ≠ [] → front.count closing < front.count opening := by
      intro front back split some more
      obtain ⟨c, front, rfl⟩ := List.exists_cons_of_ne_nil some
      obtain ⟨back, last, rfl⟩ := List.eq_nil_or_concat back |>.resolve_left more
      rw [List.cons_append, List.cons_append, List.cons.injEq, List.concat_eq_append,
        ← List.append_assoc] at split
      obtain ⟨rfl, split⟩ := split
      have counted := (List.append_inj_left' split rfl ▸ paired).front
      simp [different]
      omega
    refine ⟨rfl, ⟨fun front back split => ?_, ?_⟩, once⟩
    · by_cases none : front = []
      · simp [none]
      · by_cases all : back = []
        · have counted := paired.whole
          rw [all, List.append_nil] at split
          rw [← split]
          simp [different, other]
          omega
        · exact Nat.le_of_lt (once front back split none all)
    · have counted := paired.whole
      simp [different, other]
      exact counted

end Group

end PanelCompiler.Text
