import Mathlib.Data.List.Infix
import PanelCompiler.Directive.Qualifier

/-!
Texts without their qualifiers. The qualifier is taken out wherever it stands at the start of a
word, and nothing else is. Taking out one qualifier makes no new one and hides none, so it does not
matter whether some of them were taken out before.
-/

namespace PanelCompiler.Directive

open Text (isWord startsWithWord)

/-- The qualifier stands at this place, and a word begins there. -/
def QualifierAt (text : List Char) (place : Nat) : Prop :=
  endsWord (text.take place).getLast? = true ∧ qualifier <+: text.drop place

instance (text : List Char) (place : Nat) : Decidable (QualifierAt text place) :=
  inferInstanceAs (Decidable (_ ∧ _))

/-- The character at this place belongs to a qualifier. -/
def InQualifier (text : List Char) (place : Nat) : Prop :=
  ∃ start ≤ place, place < start + qualifier.length ∧ QualifierAt text start

instance (text : List Char) (place : Nat) : Decidable (InQualifier text place) :=
  inferInstanceAs (Decidable (∃ start ≤ place, _))

/-- The characters that belong to no qualifier, in their order. -/
def outsideQualifiers (text : List Char) : List Char :=
  (text.zipIdx.filter fun (_, place) => ¬ InQualifier text place).map (·.1)

/-- A text in which no word begins with the qualifier. -/
def Unqualified (text : List Char) : Prop :=
  ∀ place, ¬ QualifierAt text place

theorem length_qualifier : qualifier.length = 5 :=
  rfl

section Steps

theorem afterPrefix?_eq_some {expected text rest : List Char} :
    Text.afterPrefix? expected text = some rest ↔ text = expected ++ rest := by
  induction expected generalizing text with
  | nil => simp [Text.afterPrefix?]
  | cons first more ih =>
    cases text with
    | nil => simp [Text.afterPrefix?]
    | cons c others =>
      by_cases same : first = c
      · simp [Text.afterPrefix?, same, ih]
      · simp [Text.afterPrefix?, same, Ne.symm same]

theorem afterQualifier?_eq_some {before : Option Char} {text rest : List Char} :
    afterQualifier? before text = some rest ↔
      endsWord before = true ∧ text = qualifier ++ rest := by
  unfold afterQualifier?
  split
  · rename_i start
    simp [start, afterPrefix?_eq_some]
  · rename_i inside
    simp [inside]

/-- A reference is a qualifier at the start of a word and the name behind it, up to a place where a
word begins or ends. -/
theorem isReference_eq_true {name : List Char} {before : Option Char} {text : List Char} :
    isReference name before text = true ↔
      ∃ rest, endsWord before = true ∧ text = qualifier ++ name ++ rest ∧
        atBoundary name.getLast? rest = true := by
  unfold isReference
  constructor
  · intro found
    split at found
    · cases found
    · rename_i behind qualified
      obtain ⟨start, whole⟩ := afterQualifier?_eq_some.mp qualified
      split at found
      · cases found
      · rename_i rest named
        refine ⟨rest, start, ?_, found⟩
        rw [whole, afterPrefix?_eq_some.mp named, List.append_assoc]
  · rintro ⟨rest, start, rfl, ending⟩
    rw [List.append_assoc, afterQualifier?_eq_some.mpr ⟨start, rfl⟩]
    dsimp only
    rw [afterPrefix?_eq_some.mpr rfl]
    exact ending

theorem getLast?_cons_or (c : Char) (text : List Char) (before : Option Char) :
    (c :: text).getLast?.or before = text.getLast?.or (some c) := by
  rw [List.getLast?_cons]
  cases text.getLast? <;> rfl

private theorem stripFrom_pass (before : Option Char) (passed rest : List Char) :
    stripFrom before passed.length (passed ++ rest) =
      stripFrom (passed.getLast?.or before) 0 rest := by
  induction passed generalizing before with
  | nil => rfl
  | cons c passed ih =>
    rw [List.length_cons, List.cons_append, stripFrom, ih, getLast?_cons_or]

theorem stripFrom_qualifier {before : Option Char} (start : endsWord before = true)
    (rest : List Char) : stripFrom before 0 (qualifier ++ rest) = stripFrom (some '.') 0 rest := by
  have found : (afterQualifier? before (qualifier ++ rest)).isSome = true :=
    Option.isSome_iff_exists.mpr ⟨rest, afterQualifier?_eq_some.mpr ⟨start, rfl⟩⟩
  have passed := stripFrom_pass (some 't') ['h', 'i', 's', '.'] rest
  rw [qualifier, List.cons_append] at found ⊢
  rw [stripFrom]
  simp only [found, if_true]
  exact passed

theorem stripFrom_char {before : Option Char} {c : Char} {rest : List Char}
    (plain : ¬ (endsWord before = true ∧ qualifier <+: c :: rest)) :
    stripFrom before 0 (c :: rest) = c :: stripFrom (some c) 0 rest := by
  have none : ¬ (afterQualifier? before (c :: rest)).isSome = true := by
    intro found
    obtain ⟨behind, found⟩ := Option.isSome_iff_exists.mp found
    obtain ⟨start, whole⟩ := afterQualifier?_eq_some.mp found
    exact plain ⟨start, behind, whole.symm⟩
  rw [stripFrom]
  simp only [none]
  rfl

theorem stripFrom_outside {c : Char} (outside : isWord c = false) (before : Option Char)
    (rest : List Char) : stripFrom before 0 (c :: rest) = c :: stripFrom (some c) 0 rest := by
  refine stripFrom_char ?_
  rintro ⟨_, more, whole⟩
  obtain ⟨rfl, _⟩ := List.cons.inj whole
  exact absurd outside (by decide +kernel)

/-- A text, together with the character before it, is empty, or a qualifier at the start of a word
and a text, or another character and a text. -/
@[elab_as_elim]
theorem qualifierInduction {motive : Option Char → List Char → Prop}
    (nil : ∀ before, motive before [])
    (qualified : ∀ before rest, endsWord before = true → motive (some '.') rest →
      motive before (qualifier ++ rest))
    (char : ∀ before c rest, ¬ (endsWord before = true ∧ qualifier <+: c :: rest) →
      motive (some c) rest → motive before (c :: rest)) :
    ∀ before text, motive before text
  | before, [] => nil before
  | before, c :: rest => by
    by_cases found : endsWord before = true ∧ qualifier <+: c :: rest
    · obtain ⟨start, behind, whole⟩ := found
      have shorter : behind.length < (c :: rest).length := by
        rw [← whole, List.length_append]
        exact Nat.lt_add_of_pos_left (by decide)
      rw [← whole]
      exact qualified before behind start (qualifierInduction nil qualified char (some '.') behind)
    · exact char before c rest found (qualifierInduction nil qualified char (some c) rest)
  termination_by _ text => text.length
  decreasing_by
    · exact shorter
    · exact Nat.lt_succ_self rest.length

theorem stripFrom_absent {mark : Char} (within : mark ∈ qualifier) (before : Option Char)
    {text : List Char} (absent : mark ∉ text) : stripFrom before 0 text = text := by
  induction before, text using qualifierInduction with
  | nil before => rfl
  | qualified before rest start ih => exact absurd (List.mem_append_left rest within) absent
  | char before c rest plain ih =>
    rw [stripFrom_char plain, ih fun later => absent (List.mem_cons_of_mem c later)]

/-- Of the character before a text it counts only whether a word may begin behind it. -/
theorem stripFrom_congr {before other : Option Char} (same : endsWord before = endsWord other)
    (text : List Char) : stripFrom before 0 text = stripFrom other 0 text := by
  cases text with
  | nil => rfl
  | cons c rest =>
    have found : afterQualifier? before (c :: rest) = afterQualifier? other (c :: rest) := by
      rw [afterQualifier?, afterQualifier?, same]
    rw [stripFrom, stripFrom, found]

end Steps

section Cuts

variable {before : Option Char} {first rest : List Char}

/-- Where a text can be cut in two so that no qualifier is cut: behind a character that is in no
word, or in front of one that continues no qualifier. -/
def Parts (before : Option Char) (rest : List Char) : Prop :=
  endsWord before = true ∨ ∀ c ∈ rest.head?, c ∉ qualifier.tail

theorem Parts.outside {c : Char} (outside : isWord c = false) (point : c ≠ '.') :
    Parts before (c :: rest) := by
  have letters : qualifier.tail.all (fun c => c == '.' || isWord c) = true := by decide +kernel
  refine .inr fun first same member => ?_
  cases same
  have letter := List.all_eq_true.mp letters c member
  simp [point, outside] at letter

theorem prefix_of_parts (nonempty : first ≠ []) (parts : Parts first.getLast? rest)
    (found : qualifier <+: first ++ rest) : qualifier <+: first := by
  rcases List.prefix_or_prefix_of_prefix found (List.prefix_append first rest) with within | cut
  · exact within
  · obtain ⟨more, whole⟩ := cut
    cases more with
    | nil => exact ⟨[], by simpa using whole.symm⟩
    | cons c more =>
      -- The first part would be a proper beginning of the qualifier, and the rest its continuation.
      exfalso
      rw [← whole, List.prefix_append_right_inj] at found
      obtain ⟨behind, rfl⟩ := found
      obtain ⟨front, last, rfl⟩ :=
        (List.eq_nil_or_concat first).resolve_left nonempty
      rcases parts with ended | apart
      · have letters : qualifier.dropLast.all isWord = true := by decide +kernel
        have letter : isWord last = true := by
          refine List.all_eq_true.mp letters last ?_
          rw [← whole, List.dropLast_append_cons]
          simp
        simp [endsWord, letter] at ended
      · refine apart c rfl ?_
        rw [← whole, List.tail_append_of_ne_nil nonempty]
        simp

theorem stripFrom_append (parts : Parts (first.getLast?.or before) rest) :
    stripFrom before 0 (first ++ rest) =
      stripFrom before 0 first ++ stripFrom (first.getLast?.or before) 0 rest := by
  induction before, first using qualifierInduction with
  | nil before => rfl
  | qualified before text start ih =>
    have last : (qualifier ++ text).getLast?.or before = text.getLast?.or (some '.') := by
      rw [List.getLast?_append]
      cases text.getLast? <;> rfl
    rw [last] at parts ⊢
    rw [List.append_assoc, stripFrom_qualifier start, stripFrom_qualifier start, ih parts]
  | char before c text plain ih =>
    have last := getLast?_cons_or c text before
    have whole : ¬ (endsWord before = true ∧ qualifier <+: c :: (text ++ rest)) := by
      rintro ⟨start, found⟩
      have here : Parts (c :: text).getLast? rest := by
        rw [last, ← getLast?_cons_or c text none, Option.or_none] at parts
        exact parts
      exact plain ⟨start, prefix_of_parts (List.cons_ne_nil c text) here found⟩
    rw [last] at parts ⊢
    rw [List.cons_append, stripFrom_char whole, stripFrom_char plain, ih parts, List.cons_append]

/-- Where a word may begin, a text is read as if nothing were in front of it. -/
theorem stripFrom_start (start : endsWord before = true) (text : List Char) :
    stripFrom before 0 text = stripQualifiers text :=
  stripFrom_congr start text

theorem stripQualifiers_append {front : List Char} (start : endsWord front.getLast? = true)
    (rest : List Char) :
    stripQualifiers (front ++ rest) = stripQualifiers front ++ stripQualifiers rest := by
  have fresh : endsWord (front.getLast?.or none) = true := by rwa [Option.or_none]
  rw [stripQualifiers, stripFrom_append (.inl fresh), stripFrom_start fresh]
  rfl

theorem stripQualifiers_qualifier (rest : List Char) :
    stripQualifiers (qualifier ++ rest) = stripQualifiers rest := by
  rw [stripQualifiers, stripFrom_qualifier rfl, stripFrom_start rfl]

private theorem stripQualifiers_delete {front : List Char} (start : endsWord front.getLast? = true)
    (rest : List Char) :
    stripQualifiers (front ++ (qualifier ++ rest)) = stripQualifiers (front ++ rest) := by
  rw [stripQualifiers_append start, stripQualifiers_append start, stripQualifiers_qualifier]

theorem endsWord_outside {c : Char} (outside : isWord c = false) : endsWord (some c) = true := by
  simp [endsWord, outside]

/-- A character that is in no word and is no point keeps apart what is on its two sides. -/
theorem stripQualifiers_mark {c : Char} (outside : isWord c = false) (point : c ≠ '.')
    (front rest : List Char) :
    stripQualifiers (front ++ c :: rest) =
      stripQualifiers front ++ c :: stripQualifiers rest := by
  rw [stripQualifiers, stripFrom_append (.outside outside point), stripFrom_outside outside,
    stripFrom_start (endsWord_outside outside)]
  rfl

end Cuts

section Losing

/-- The second text is the first without some of its qualifiers. -/
inductive Loses : Option Char → List Char → List Char → Prop
  | nil (before : Option Char) : Loses before [] []
  | keep {before : Option Char} {rest less : List Char} (c : Char)
    (later : Loses (some c) rest less) : Loses before (c :: rest) (c :: less)
  | drop {before : Option Char} {rest less : List Char} (start : endsWord before = true)
    (later : Loses (some '.') rest less) : Loses before (qualifier ++ rest) less

variable {before : Option Char} {text less : List Char}

/-- Whatever qualifiers a text has lost, what is left of it in the end is the same. -/
theorem Loses.stripQualifiers_eq (loses : Loses before text less) (front : List Char)
    (same : endsWord front.getLast? = endsWord before) :
    stripQualifiers (front ++ less) = stripQualifiers (front ++ text) := by
  induction loses generalizing front with
  | nil => rfl
  | @keep before rest less c later ih =>
    have next := ih (front ++ [c]) (by rw [List.getLast?_concat])
    rwa [List.append_assoc, List.append_assoc] at next
  | @drop before rest less start later ih =>
    have started : endsWord front.getLast? = true := same.trans start
    rw [stripQualifiers_delete started]
    exact ih front started

theorem Loses.keepAll (kept : List Char) (later : Loses (kept.getLast?.or before) text less) :
    Loses before (kept ++ text) (kept ++ less) := by
  induction kept generalizing before with
  | nil => exact later
  | cons c kept ih =>
    rw [getLast?_cons_or] at later
    exact .keep c (ih later)

private theorem loses_stripFrom (before : Option Char) (text : List Char) :
    Loses before text (stripFrom before 0 text) := by
  induction before, text using qualifierInduction with
  | nil before => exact .nil before
  | qualified before rest start ih =>
    rw [stripFrom_qualifier start]
    exact .drop start ih
  | char before c rest plain ih =>
    rw [stripFrom_char plain]
    exact .keep c ih

/-- Once the qualifiers are out of a text, there are none in it. -/
theorem stripQualifiers_idem (text : List Char) :
    stripQualifiers (stripQualifiers text) = stripQualifiers text :=
  (loses_stripFrom none text).stripQualifiers_eq [] rfl

end Losing

section Places

/-- Where one text ends and another begins, the qualifier stands if it begins the second. -/
theorem qualifierAt_length {front text : List Char} :
    QualifierAt (front ++ text) front.length ↔
      endsWord front.getLast? = true ∧ qualifier <+: text := by
  rw [QualifierAt, List.take_left, List.drop_left]

/-- Qualifiers do not overlap: none begins inside another. -/
theorem not_qualifierAt_inside {front rest : List Char} {place : Nat}
    (behind : front.length < place) (before : place < front.length + qualifier.length) :
    ¬ QualifierAt (front ++ (qualifier ++ rest)) place := by
  rintro ⟨_, found⟩
  obtain ⟨offset, rfl⟩ := Nat.exists_eq_add_of_lt behind
  have small : offset < 4 := by
    rw [length_qualifier] at before
    omega
  rw [Nat.add_assoc, List.drop_length_add_append] at found
  match offset, small with
  | 0, _ | 1, _ | 2, _ | 3, _ =>
    obtain ⟨more, whole⟩ := found
    cases whole

/-- What is left of the text behind `front` are the characters outside qualifiers, given that no
qualifier reaches from `front` into it. -/
private theorem stripFrom_eq_outside {before : Option Char} {text : List Char} (front : List Char)
    (last : front.getLast? = before)
    (apart : ∀ place < front.length, QualifierAt (front ++ text) place →
      place + qualifier.length ≤ front.length) :
    stripFrom before 0 text = ((text.zipIdx front.length).filter
      fun (_, place) => ¬ InQualifier (front ++ text) place).map (·.1) := by
  induction before, text using qualifierInduction generalizing front with
  | nil before => rfl
  | qualified before rest start ih =>
    have here : QualifierAt (front ++ (qualifier ++ rest)) front.length :=
      qualifierAt_length.mpr ⟨last ▸ start, List.prefix_append qualifier rest⟩
    have gone : (qualifier.zipIdx front.length).filter
        (fun (_, place) => ¬ InQualifier (front ++ (qualifier ++ rest)) place) = [] := by
      refine List.filter_eq_nil_iff.mpr fun (c, place) member => ?_
      have bounds := List.mem_zipIdx member
      simp only [decide_not, Bool.not_eq_true', decide_eq_false_iff_not, not_not]
      exact ⟨front.length, bounds.1, bounds.2.1, here⟩
    have later := ih (front ++ qualifier) (by rw [List.getLast?_append]; rfl) ?_
    · rw [stripFrom_qualifier start, later, List.zipIdx_append, List.filter_append, gone,
        List.nil_append, List.length_append, List.append_assoc]
    · intro place below found
      rw [List.append_assoc] at found
      rw [List.length_append] at below ⊢
      by_contra beyond
      exact not_qualifierAt_inside (by omega) below found
  | char before c rest plain ih =>
    have here : ¬ QualifierAt (front ++ c :: rest) front.length := by
      rw [qualifierAt_length, last]
      exact plain
    have kept : ¬ InQualifier (front ++ c :: rest) front.length := by
      rintro ⟨start, below, beyond, found⟩
      rcases Nat.lt_or_eq_of_le below with earlier | rfl
      · have ended := apart start earlier found
        omega
      · exact here found
    have later := ih (front ++ [c]) List.getLast?_concat ?_
    · rw [List.append_assoc, List.singleton_append, List.length_append] at later
      rw [stripFrom_char plain, later, List.zipIdx_cons,
        List.filter_cons_of_pos (by simpa using kept)]
      rfl
    · intro place below found
      rw [List.append_assoc, List.singleton_append] at found
      rw [List.length_append, List.length_singleton] at below ⊢
      rcases Nat.lt_or_eq_of_le (Nat.le_of_lt_succ below) with earlier | rfl
      · exact Nat.le_succ_of_le (apart place earlier found)
      · exact absurd found here

/-- Exactly the qualifiers are taken out. -/
theorem stripQualifiers_eq_outside (text : List Char) :
    stripQualifiers text = outsideQualifiers text :=
  stripFrom_eq_outside [] rfl fun _ below => absurd below (Nat.not_lt_zero _)

theorem stripQualifiers_eq_self_iff {text : List Char} :
    stripQualifiers text = text ↔ Unqualified text := by
  rw [stripQualifiers_eq_outside, outsideQualifiers]
  constructor
  · intro same place found
    have all : (text.zipIdx.filter fun (_, place) => ¬ InQualifier text place) = text.zipIdx := by
      refine List.filter_sublist.eq_of_length ?_
      have lengths := congrArg List.length same
      rwa [List.length_map, ← List.length_zipIdx (l := text) (i := 0)] at lengths
    have inside : place < text.length := by
      have shorter := found.2.length_le
      rw [length_qualifier, List.length_drop] at shorter
      omega
    have outside := List.filter_eq_self.mp all (text[place], place)
      (List.mk_mem_zipIdx_iff_getElem?.mpr (List.getElem?_eq_getElem inside))
    have within : InQualifier text place :=
      ⟨place, Nat.le_refl _, Nat.lt_add_of_pos_right (by decide), found⟩
    simp [within] at outside
  · intro plain
    have all : (text.zipIdx.filter fun (_, place) => ¬ InQualifier text place) = text.zipIdx := by
      refine List.filter_eq_self.mpr fun (c, place) _ => ?_
      have outside : ¬ InQualifier text place := fun ⟨start, _, _, found⟩ => plain start found
      simpa using outside
    rw [all, List.zipIdx_map_fst]

instance (text : List Char) : Decidable (Unqualified text) :=
  decidable_of_iff _ stripQualifiers_eq_self_iff

theorem Unqualified.within {front text behind : List Char}
    (plain : Unqualified (front ++ (text ++ behind))) (start : endsWord front.getLast? = true) :
    Unqualified text := by
  rintro place ⟨ended, found⟩
  have inside : place ≤ text.length := by
    have shorter := found.length_le
    rw [length_qualifier, List.length_drop] at shorter
    omega
  apply plain (front.length + place)
  constructor
  · rw [List.take_length_add_append, List.take_append_of_le_length inside, List.getLast?_append]
    cases last : (text.take place).getLast? with
    | none => exact start
    | some c => rwa [last] at ended
  · rw [List.drop_length_add_append, List.drop_append_of_le_length inside]
    exact found.trans (List.prefix_append _ behind)

theorem Unqualified.of_append {text behind : List Char} (plain : Unqualified (text ++ behind)) :
    Unqualified text := by
  rw [← List.nil_append (text ++ behind)] at plain
  exact plain.within rfl

/-- A text without points, set off from the one in front of it, adds no qualifier. -/
theorem unqualified_append {c : Char} {text rest : List Char} (outside : isWord c = false)
    (absent : '.' ∉ c :: rest) : Unqualified (text ++ c :: rest) ↔ Unqualified text := by
  constructor
  · exact Unqualified.of_append
  · intro plain
    have point : c ≠ '.' := fun same => absent (same ▸ List.mem_cons_self)
    have behind : stripQualifiers rest = rest :=
      stripFrom_absent (by decide) none fun member => absent (List.mem_cons_of_mem c member)
    refine stripQualifiers_eq_self_iff.mp ?_
    rw [stripQualifiers_mark outside point, stripQualifiers_eq_self_iff.mpr plain, behind]

theorem unqualified_stripQualifiers (text : List Char) : Unqualified (stripQualifiers text) :=
  stripQualifiers_eq_self_iff.mp (stripQualifiers_idem text)

end Places

end PanelCompiler.Directive
