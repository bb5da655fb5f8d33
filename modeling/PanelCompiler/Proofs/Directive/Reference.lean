import PanelCompiler.Proofs.Directive.Qualifier
import PanelCompiler.Directive.Substitute

namespace PanelCompiler.Directive

/-- A reference to the name somewhere in a text, given the character before the text. -/
def RefersFrom (before : Option Char) (name text : List Char) : Prop :=
  ∃ front rest, text = front ++ (qualifier ++ (name ++ rest)) ∧
    endsWord (front.getLast?.or before) = true ∧ atBoundary name.getLast? rest = true

/-- Somewhere in the text a word begins with a reference to the name, and a word begins or ends
behind it. -/
def Refers (name text : List Char) : Prop :=
  RefersFrom none name text

section Steps

variable {name substitute : List Char} {before : Option Char}

private theorem replaceFrom_pass (before : Option Char) (passed rest : List Char) :
    replaceFrom name substitute before passed.length (passed ++ rest) =
      replaceFrom name substitute (passed.getLast?.or before) 0 rest := by
  induction passed generalizing before with
  | nil => rfl
  | cons c passed ih =>
    rw [List.length_cons, List.cons_append, replaceFrom, ih, getLast?_cons_or]

theorem replaceFrom_reference {rest : List Char} (start : endsWord before = true)
    (ending : atBoundary name.getLast? rest = true) :
    replaceFrom name substitute before 0 (qualifier ++ (name ++ rest)) =
      substitute ++ replaceFrom name substitute (name.getLast?.or (some '.')) 0 rest := by
  have found : isReference name before (qualifier ++ (name ++ rest)) = true :=
    isReference_eq_true.mpr ⟨rest, start, by rw [List.append_assoc], ending⟩
  have passed := @replaceFrom_pass name substitute (some 't') (['h', 'i', 's', '.'] ++ name) rest
  have last : (['h', 'i', 's', '.'] ++ name).getLast?.or (some 't') =
      name.getLast?.or (some '.') := by
    rw [List.getLast?_append]
    cases name.getLast? <;> rfl
  have length : (['h', 'i', 's', '.'] ++ name).length = qualifier.length + name.length - 1 := by
    simp only [List.length_append, List.length_cons, List.length_nil, length_qualifier]
    omega
  rw [last, length, List.append_assoc] at passed
  rw [qualifier, List.cons_append] at found ⊢
  rw [replaceFrom]
  simp only [found, if_true]
  rw [← passed]

theorem replaceFrom_char {c : Char} {rest : List Char}
    (plain : ¬ isReference name before (c :: rest) = true) :
    replaceFrom name substitute before 0 (c :: rest) =
      c :: replaceFrom name substitute (some c) 0 rest := by
  rw [replaceFrom]
  simp only [plain]
  rfl

/-- A text, together with the character before it, is empty, or a reference and a text, or another
character and a text. -/
@[elab_as_elim]
theorem referenceInduction (name : List Char) {motive : Option Char → List Char → Prop}
    (nil : ∀ before, motive before [])
    (reference : ∀ before rest, endsWord before = true → atBoundary name.getLast? rest = true →
      motive (name.getLast?.or (some '.')) rest → motive before (qualifier ++ (name ++ rest)))
    (char : ∀ before c rest, ¬ isReference name before (c :: rest) = true →
      motive (some c) rest → motive before (c :: rest)) :
    ∀ before text, motive before text
  | before, [] => nil before
  | before, c :: rest => by
    by_cases found : isReference name before (c :: rest) = true
    · obtain ⟨behind, start, whole, ending⟩ := isReference_eq_true.mp found
      rw [List.append_assoc] at whole
      have shorter : behind.length < (c :: rest).length := by
        rw [whole, List.length_append, List.length_append]
        exact Nat.lt_of_lt_of_le (Nat.lt_add_of_pos_left (by decide))
          (Nat.add_le_add_left (Nat.le_add_left _ _) _)
      rw [whole]
      exact reference before behind start ending
        (referenceInduction name nil reference char _ behind)
    · exact char before c rest found (referenceInduction name nil reference char (some c) rest)
  termination_by _ text => text.length
  decreasing_by
    · exact shorter
    · exact Nat.lt_succ_self rest.length

end Steps

section Standing

/-- A name that is, as a template, either itself or the whole reference to it. -/
def StandsForItself (name : List Char) : Prop :=
  substitute name = name ∨ substitute name = qualifier ++ name

instance (name : List Char) : Decidable (StandsForItself name) :=
  inferInstanceAs (Decidable (_ ∨ _))

variable (name : List Char) (before : Option Char) (text : List Char)

/-- A name in place of a reference: the reference has lost its qualifier. -/
theorem loses_replaceFrom : Loses before text (replaceFrom name name before 0 text) := by
  induction before, text using referenceInduction name with
  | nil before => exact .nil before
  | reference before rest start ending ih =>
    rw [replaceFrom_reference start ending]
    exact .drop start (.keepAll name ih)
  | char before c rest plain ih =>
    rw [replaceFrom_char plain]
    exact .keep c ih

private theorem replaceFrom_self : replaceFrom name (qualifier ++ name) before 0 text = text := by
  induction before, text using referenceInduction name with
  | nil before => rfl
  | reference before rest start ending ih =>
    rw [replaceFrom_reference start ending, ih, List.append_assoc]
  | char before c rest plain ih => rw [replaceFrom_char plain, ih]

variable {name}

/-- References to a name that stands for itself are rewritten as if only the qualifiers went. -/
theorem StandsForItself.strip (stands : StandsForItself name) :
    stripQualifiers (replaceReferences name (substitute name) text) = stripQualifiers text := by
  rw [replaceReferences]
  rcases stands with itself | whole
  · rw [itself]
    exact (loses_replaceFrom name none text).stripQualifiers_eq [] rfl
  · rw [whole, replaceFrom_self]

end Standing

section Absent

variable {name : List Char} {before : Option Char} {text : List Char}

theorem not_refersFrom_nil : ¬ RefersFrom before name [] := by
  rintro ⟨front, rest, whole, _⟩
  have inside : '.' ∈ ([] : List Char) := by
    rw [whole]
    simp [qualifier]
  cases inside

private theorem RefersFrom.cons {c : Char} (refers : RefersFrom (some c) name text) :
    RefersFrom before name (c :: text) := by
  obtain ⟨front, rest, rfl, start, ending⟩ := refers
  refine ⟨c :: front, rest, rfl, ?_, ending⟩
  rwa [getLast?_cons_or]

theorem RefersFrom.tail {c : Char} (plain : ¬ isReference name before (c :: text) = true)
    (refers : RefersFrom before name (c :: text)) : RefersFrom (some c) name text := by
  obtain ⟨front, rest, whole, start, ending⟩ := refers
  cases front with
  | nil =>
    refine absurd (isReference_eq_true.mpr ⟨rest, start, ?_, ending⟩) plain
    rw [whole, List.nil_append, List.append_assoc]
  | cons first front =>
    obtain ⟨rfl, rfl⟩ := List.cons.inj whole
    rw [getLast?_cons_or] at start
    exact ⟨front, rest, rfl, start, ending⟩

theorem Unqualified.not_refersFrom (plain : Unqualified text) : ¬ RefersFrom before name text := by
  rintro ⟨front, rest, rfl, start, _⟩
  refine plain front.length (qualifierAt_length.mpr ⟨?_, List.prefix_append qualifier _⟩)
  cases last : front.getLast? with
  | none => rfl
  | some c => rwa [last] at start

theorem replaceFrom_absent (substitute : List Char) (absent : ¬ RefersFrom before name text) :
    replaceFrom name substitute before 0 text = text := by
  induction before, text using referenceInduction name with
  | nil before => rfl
  | reference before rest start ending ih => exact absurd ⟨[], rest, rfl, start, ending⟩ absent
  | char before c rest plain ih => rw [replaceFrom_char plain, ih fun later => absent later.cons]

end Absent

end PanelCompiler.Directive
