import PanelCompiler.Proofs.Directive.Reference
import PanelCompiler.Proofs.Directive.Wrap
import PanelCompiler.Proofs.Text.Avoid

namespace PanelCompiler.Directive

open Text (Avoids isWord)

/-- A character that is in no word and not in the qualifier. -/
structure IsMark (mark : Char) : Prop where
  outside : isWord mark = false
  apart : mark ∉ qualifier

theorem IsMark.ne_point {mark : Char} (isMark : IsMark mark) : mark ≠ '.' := by
  rintro rfl
  exact isMark.apart (by decide)

/-- The characters of a loop's body: references to the item lose their qualifier, then all
qualifiers go. -/
def rewritten (item text : List Char) : List Char :=
  stripQualifiers (replaceReferences item (substitute item) text)

theorem toList_loopBody (item keyed : String) :
    (loopBody item keyed).toList = rewritten item.toList keyed.toList := by
  rw [loopBody, String.toList_ofList]
  rfl

/-- A name of an item that leaves alone what stands between these marks: it is rewritten to itself,
or a reference to it cannot reach across a mark. -/
def Spares (marks name : List Char) : Prop :=
  StandsForItself name ∨ Avoids marks name

instance (marks name : List Char) : Decidable (Spares marks name) :=
  inferInstanceAs (Decidable (_ ∨ _))

theorem exists_behind {mark : Char} {first rest passed behind : List Char} (apart : mark ∉ passed)
    (same : first ++ mark :: rest = passed ++ behind) :
    ∃ more, first = passed ++ more ∧ behind = more ++ mark :: rest := by
  rcases List.append_eq_append_iff.mp same with ⟨behind, whole, last⟩ | ⟨more, whole, last⟩
  · cases behind with
    | nil => exact ⟨[], by simpa using whole.symm, by simpa using last.symm⟩
    | cons c behind =>
      obtain ⟨rfl, _⟩ := List.cons.inj last
      exact absurd (whole ▸ by simp) apart
  · exact ⟨more, whole, last⟩

section Cuts

variable {mark : Char} (isMark : IsMark mark) (before : Option Char) (front rest : List Char)
include isMark

theorem atBoundary_mark (last : Option Char) :
    atBoundary last (front ++ mark :: rest) = atBoundary last front := by
  cases front with
  | nil => simp [atBoundary, Text.startsWithWord, isMark.outside]
  | cons c front => rfl

variable {name : List Char} (named : mark ∉ name)
include named

private theorem isReference_mark : isReference name before (front ++ mark :: rest) =
    isReference name before front := by
  have apart : mark ∉ qualifier ++ name := by
    simp [isMark.apart, named]
  rw [Bool.eq_iff_iff, isReference_eq_true, isReference_eq_true]
  constructor
  · rintro ⟨behind, start, whole, ending⟩
    obtain ⟨more, within, rfl⟩ := exists_behind apart whole
    exact ⟨more, start, within, atBoundary_mark isMark more rest _ ▸ ending⟩
  · rintro ⟨more, start, rfl, ending⟩
    refine ⟨more ++ mark :: rest, start, List.append_assoc _ _ _, ?_⟩
    rwa [atBoundary_mark isMark]

private theorem replaceFrom_mark (substitute : List Char) :
    replaceFrom name substitute before 0 (front ++ mark :: rest) =
      replaceFrom name substitute before 0 front ++
        mark :: replaceFrom name substitute (some mark) 0 rest := by
  induction before, front using referenceInduction name with
  | nil before =>
    have plain : ¬ isReference name before (mark :: rest) = true := by
      rw [← List.nil_append (mark :: rest), isReference_mark isMark before [] rest named]
      simp [isReference, afterQualifier?, Text.afterPrefix?, qualifier]
    rw [List.nil_append, replaceFrom_char plain]
    rfl
  | reference before front start ending ih =>
    have later : atBoundary name.getLast? (front ++ mark :: rest) = true := by
      rwa [atBoundary_mark isMark]
    rw [List.append_assoc, List.append_assoc, replaceFrom_reference start later,
      replaceFrom_reference start ending, ih, List.append_assoc]
  | char before c front plain ih =>
    have later : ¬ isReference name before (c :: (front ++ mark :: rest)) = true := by
      rwa [← List.cons_append, isReference_mark isMark before (c :: front) rest named]
    rw [List.cons_append, replaceFrom_char later, replaceFrom_char plain, ih, List.cons_append]

end Cuts

/-- Of the character before a text it counts only whether a word may begin behind it. -/
theorem replaceFrom_congr {before other : Option Char} (same : endsWord before = endsWord other)
    (name substitute text : List Char) :
    replaceFrom name substitute before 0 text = replaceFrom name substitute other 0 text := by
  cases text with
  | nil => rfl
  | cons c rest =>
    have refers : isReference name before (c :: rest) = isReference name other (c :: rest) := by
      rw [isReference, isReference, afterQualifier?, afterQualifier?, same]
    rw [replaceFrom, replaceFrom, refers]

section Rewriting

variable {marks item : List Char} {mark : Char}

theorem rewritten_nil (item : List Char) : rewritten item [] = [] :=
  rfl

theorem rewritten_plain {text : List Char} (plain : Unqualified text) (item : List Char) :
    rewritten item text = text := by
  rw [rewritten, replaceReferences, replaceFrom_absent _ plain.not_refersFrom,
    stripQualifiers_eq_self_iff.mpr plain]

/-- What is on the two sides of a mark is rewritten on its own. -/
theorem rewritten_mark (spares : Spares marks item) (marked : mark ∈ marks) (isMark : IsMark mark)
    (front rest : List Char) :
    rewritten item (front ++ mark :: rest) =
      rewritten item front ++ mark :: rewritten item rest := by
  unfold rewritten
  rcases spares with stands | named
  · rw [stands.strip, stands.strip, stands.strip,
      stripQualifiers_mark isMark.outside isMark.ne_point]
  · have apart : mark ∉ item := fun member => named mark member marked
    have fresh : endsWord (some mark) = endsWord none := endsWord_outside isMark.outside
    rw [replaceReferences, replaceFrom_mark isMark none front rest apart, replaceFrom_congr fresh,
      stripQualifiers_mark isMark.outside isMark.ne_point]
    rfl

theorem rewritten_cons (spares : Spares marks item) (marked : mark ∈ marks) (isMark : IsMark mark)
    (rest : List Char) : rewritten item (mark :: rest) = mark :: rewritten item rest :=
  rewritten_mark spares marked isMark [] rest

/-- A text in front of another that is empty or begins with a mark is rewritten on its own. -/
theorem rewritten_append (spares : Spares marks item) (isMark : ∀ mark ∈ marks, IsMark mark)
    {rest : List Char} (cut : ∀ c ∈ rest.head?, c ∈ marks) (front : List Char) :
    rewritten item (front ++ rest) = rewritten item front ++ rewritten item rest := by
  cases rest with
  | nil => rw [rewritten_nil, List.append_nil, List.append_nil]
  | cons mark rest =>
    have marked : mark ∈ marks := cut mark rfl
    rw [rewritten_mark spares marked (isMark mark marked),
      rewritten_cons spares marked (isMark mark marked)]

variable {first last : Char} {inner text : List Char}

theorem rewritten_between (spares : Spares marks item) (opening : first ∈ marks)
    (closing : last ∈ marks) (isMark : ∀ mark ∈ marks, IsMark mark) :
    rewritten item (first :: (inner ++ [last])) = first :: (rewritten item inner ++ [last]) := by
  rw [rewritten_cons spares opening (isMark first opening),
    rewritten_mark spares closing (isMark last closing), rewritten_nil]

/-- What is from one mark to another in a text is rewritten as if nothing were around it. -/
theorem infix_rewritten (spares : Spares marks item) (opening : first ∈ marks)
    (closing : last ∈ marks) (isMark : ∀ mark ∈ marks, IsMark mark)
    (within : first :: (inner ++ [last]) <:+: text) :
    rewritten item (first :: (inner ++ [last])) <:+: rewritten item text := by
  obtain ⟨front, behind, rfl⟩ := within
  have whole : front ++ first :: (inner ++ [last]) ++ behind =
      front ++ first :: (inner ++ last :: behind) := by simp
  rw [whole, rewritten_between spares opening closing isMark,
    rewritten_mark spares opening (isMark first opening),
    rewritten_mark spares closing (isMark last closing)]
  exact ⟨rewritten item front, rewritten item behind, by simp⟩

end Rewriting

theorem infix_keyed {mark : Char} {piece text opening rest : List Char}
    (behind : isOpeningPart mark = false) (opens : splitOpeningTag? text = some (opening, rest))
    (within : mark :: piece <:+: text) (index : String) :
    mark :: piece <:+: keyed opening rest index := by
  obtain ⟨front, after, whole⟩ := within
  obtain ⟨same, parts⟩ := splitOpeningTag?_eq_some opens
  have apart : mark ∉ opening := fun member => by
    rw [parts mark member] at behind
    cases behind
  rw [same, List.append_assoc, List.cons_append] at whole
  obtain ⟨more, _, rfl⟩ := exists_behind apart whole
  exact ⟨opening ++ ((keyAttribute index).toList ++ more), after, by simp [keyed]⟩

end PanelCompiler.Directive
