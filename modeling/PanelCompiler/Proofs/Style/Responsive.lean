import Mathlib.Data.List.Forall2
import Mathlib.Data.List.TakeDrop
import PanelCompiler.Proofs.Text.Avoid
import PanelCompiler.Proofs.Text.Trim
import PanelCompiler.Proofs.Text.Word
import PanelCompiler.Style.Responsive

namespace PanelCompiler

namespace Style

open Text (Avoids exists_trimStart isAsciiDigit isBlank isDigit trimStart trimStart_append
  trimStart_eq_nil trimStart_shown)

section Spelling

def signText (negative : Bool) : List Char :=
  if negative then ['-'] else []

def fractionText (fraction : List Char) : List Char :=
  if fraction = [] then [] else '.' :: fraction

def unitText (unit : Bool) (between back : List Char) : List Char :=
  between ++ ((if unit then ['p', 'x'] else []) ++ back)

def WrittenSize.unsigned (size : WrittenSize) (between back : List Char) : List Char :=
  size.whole ++ (fractionText size.fraction ++ unitText size.hasUnit between back)

/-- A size is written as this text with digits of this class: its number, and its unit if it has
one, with blanks in front, between and behind. -/
structure WrittenSize.Spells (digit : Char → Bool) (size : WrittenSize) (text : List Char) :
    Prop where
  nonempty : size.whole ≠ []
  digits : ∀ c ∈ size.whole ++ size.fraction, digit c = true
  text : ∃ front between back, (∀ c ∈ front, isBlank c = true) ∧
    (∀ c ∈ between, isBlank c = true) ∧ (∀ c ∈ back, isBlank c = true) ∧
    text = front ++ (signText size.negative ++ size.unsigned between back)

end Spelling

section Reading

variable {digits rest text fraction between back : List Char} {unit negative : Bool}
  {size : WrittenSize}

/-- No digit stands at the start of the text. -/
def NoDigit (text : List Char) : Prop :=
  ∀ c ∈ text.head?, isDigit c = false

theorem span_digits (all : ∀ c ∈ digits, isDigit c = true) (ends : NoDigit rest) :
    (digits ++ rest).span isDigit = (digits, rest) := by
  rw [List.span_eq_takeWhile_dropWhile, List.takeWhile_append_of_pos all,
    List.dropWhile_append_of_pos all]
  cases rest with
  | nil => simp
  | cons c rest =>
    have stops : isDigit c = false := ends c rfl
    simp [stops]

/-- What is read behind the number is the unit or nothing, with blanks around it. -/
theorem readUnit?_eq_some : readUnit? text = some unit ↔
    ∃ between back, (∀ c ∈ between, isBlank c = true) ∧ (∀ c ∈ back, isBlank c = true) ∧
      text = unitText unit between back := by
  constructor
  · intro read
    obtain ⟨between, blank, whole⟩ := exists_trimStart text
    unfold readUnit? at read
    split at read
    · rename_i nothing
      cases read
      exact ⟨between, [], blank, nofun, by rw [whole, nothing]; rfl⟩
    · rename_i back unit
      split at read
      · rename_i behind
        cases read
        refine ⟨between, back, blank, ?_, by rw [whole, unit]; rfl⟩
        exact List.dropWhile_eq_nil_iff.mp (List.isEmpty_iff.mp behind)
      · cases read
    · cases read
  · rintro ⟨between, back, blank, behind, rfl⟩
    unfold readUnit? unitText
    rw [trimStart_append blank]
    cases unit with
    | false => simp [trimStart_eq_nil behind]
    | true =>
      have shown : trimStart ('p' :: 'x' :: back) = 'p' :: 'x' :: back :=
        trimStart_shown (by simp; decide)
      simp [shown, trimStart_eq_nil behind]

theorem head_unitText (middle : ∀ c ∈ between, isBlank c = true)
    (last : ∀ c ∈ back, isBlank c = true) {c : Char}
    (head : c ∈ (unitText unit between back).head?) : isBlank c = true ∨ c = 'p' := by
  cases between with
  | cons first rest =>
    cases head
    exact .inl (middle c List.mem_cons_self)
  | nil =>
    cases unit with
    | true =>
      cases head
      exact .inr rfl
    | false => exact .inl (last c (List.mem_of_mem_head? head))

private theorem splitFraction_sound (read : splitFraction text = (fraction, rest)) :
    (∀ c ∈ fraction, isDigit c = true) ∧ text = fractionText fraction ++ rest := by
  unfold splitFraction at read
  split at read
  · rename_i behind
    rw [List.span_eq_takeWhile_dropWhile] at read
    split at read
    · cases read
      exact ⟨nofun, rfl⟩
    · rename_i some parts
      cases read
      cases parts
      refine ⟨fun _ member => List.mem_takeWhile_imp member, ?_⟩
      rw [fractionText, if_neg some, List.cons_append, List.takeWhile_append_dropWhile]
  · cases read
    exact ⟨nofun, rfl⟩

private theorem splitFraction_complete (all : ∀ c ∈ fraction, isDigit c = true)
    (ends : NoDigit rest) (apart : '.' ∉ rest.head?) :
    splitFraction (fractionText fraction ++ rest) = (fraction, rest) := by
  unfold splitFraction fractionText
  cases fraction with
  | nil =>
    cases rest with
    | nil => rfl
    | cons c rest =>
      have other : c ≠ '.' := fun same => apart (same ▸ rfl)
      simp [other]
  | cons c fraction =>
    have behind := span_digits all ends
    rw [if_neg (List.cons_ne_nil c fraction), List.cons_append]
    simp only [behind]

/-- What is read behind the sign of a size. -/
def behindSign? (negative : Bool) (text : List Char) : Option WrittenSize :=
  let (whole, text) := text.span isDigit
  if whole.isEmpty then none
  else
    let (fraction, text) := splitFraction text
    (readUnit? text).map fun unit => ⟨negative, whole, fraction, unit⟩

theorem ofText?_eq (text : List Char) : WrittenSize.ofText? text = match trimStart text with
    | '-' :: rest => behindSign? true rest
    | rest => behindSign? false rest := by
  unfold WrittenSize.ofText?
  cases trimStart text with
  | nil => rfl
  | cons c rest => by_cases minus : c = '-' <;> simp [minus, behindSign?]

private theorem behindSign?_sound (read : behindSign? negative text = some size) :
    size.Spells isDigit (signText negative ++ text) := by
  unfold behindSign? at read
  rw [List.span_eq_takeWhile_dropWhile] at read
  dsimp only at read
  split at read
  · cases read
  · rename_i some
    cases fractions : splitFraction (text.dropWhile isDigit) with
    | mk fraction rest =>
      rw [fractions] at read
      obtain ⟨unit, found, rfl⟩ := Option.map_eq_some_iff.mp read
      obtain ⟨digits, behind⟩ := splitFraction_sound fractions
      obtain ⟨between, back, middle, last, rfl⟩ := readUnit?_eq_some.mp found
      refine ⟨fun none => some (List.isEmpty_iff.mpr none), fun c member => ?_,
        [], between, back, nofun, middle, last, ?_⟩
      · rcases List.mem_append.mp member with whole | part
        · exact List.mem_takeWhile_imp whole
        · exact digits c part
      · rw [WrittenSize.unsigned, ← behind, List.takeWhile_append_dropWhile, List.nil_append]

private theorem behindSign?_complete (nonempty : size.whole ≠ [])
    (digits : ∀ c ∈ size.whole ++ size.fraction, isDigit c = true)
    (middle : ∀ c ∈ between, isBlank c = true) (last : ∀ c ∈ back, isBlank c = true) :
    behindSign? size.negative (size.unsigned between back) = some size := by
  have noDigit : NoDigit (unitText size.hasUnit between back) := by
    intro c head
    rcases head_unitText middle last head with blank | rfl
    · exact Text.isDigit_eq_false_of_isBlank blank
    · decide
  have noPoint : '.' ∉ (unitText size.hasUnit between back).head? := by
    intro head
    rcases head_unitText middle last head with blank | other
    · exact absurd blank (by decide)
    · exact absurd other (by decide)
  have ends : NoDigit (fractionText size.fraction ++ unitText size.hasUnit between back) := by
    unfold fractionText
    split
    · exact noDigit
    · rintro c ⟨⟩
      decide
  have whole := span_digits (fun c member => digits c (List.mem_append_left _ member)) ends
  have fraction := splitFraction_complete
    (fun c member => digits c (List.mem_append_right _ member)) noDigit noPoint
  have unit : readUnit? (unitText size.hasUnit between back) = some size.hasUnit :=
    readUnit?_eq_some.mpr ⟨between, back, middle, last, rfl⟩
  unfold behindSign? WrittenSize.unsigned
  rw [whole]
  simp only [List.isEmpty_iff, nonempty, if_false]
  rw [fraction]
  simp only [unit, Option.map_some]

private theorem ofText?_sound (read : WrittenSize.ofText? text = some size) :
    size.Spells isDigit text := by
  have signed : ∃ negative rest, trimStart text = signText negative ++ rest ∧
      behindSign? negative rest = some size := by
    rw [ofText?_eq] at read
    split at read
    · rename_i rest minus
      exact ⟨true, rest, minus, read⟩
    · exact ⟨false, trimStart text, rfl, read⟩
  obtain ⟨negative, rest, sign, unsigned⟩ := signed
  obtain ⟨nonempty, digits, front, between, back, first, middle, last, number⟩ :=
    behindSign?_sound unsigned
  obtain ⟨blanks, blank, whole⟩ := exists_trimStart text
  refine ⟨nonempty, digits, blanks ++ front, between, back, ?_, middle, last, ?_⟩
  · exact List.forall_mem_append.mpr ⟨blank, first⟩
  · rw [whole, sign, number, List.append_assoc]

private theorem ofText?_complete (spells : size.Spells isDigit text) :
    WrittenSize.ofText? text = some size := by
  obtain ⟨nonempty, digits, front, between, back, first, middle, last, rfl⟩ := spells
  have number := behindSign?_complete nonempty digits middle last
  rw [ofText?_eq, trimStart_append first]
  cases negative : size.negative with
  | true =>
    rw [negative] at number
    have shown : trimStart ('-' :: size.unsigned between back) =
        '-' :: size.unsigned between back :=
      trimStart_shown (by simp; decide)
    simp only [signText, if_true, List.singleton_append, shown]
    exact number
  | false =>
    rw [negative] at number
    obtain ⟨c, rest, whole⟩ := List.exists_cons_of_ne_nil nonempty
    have digit : isDigit c = true := digits c (by simp [whole])
    have starts : size.unsigned between back =
        c :: (rest ++ (fractionText size.fraction ++ unitText size.hasUnit between back)) := by
      rw [WrittenSize.unsigned, whole, List.cons_append]
    have visible : isBlank c = false := by
      cases blank : isBlank c with
      | false => rfl
      | true => rw [← digit, Text.isDigit_eq_false_of_isBlank blank]
    have shown : trimStart (size.unsigned between back) = size.unsigned between back :=
      trimStart_shown (by simp [starts, visible])
    have plain : c ≠ '-' := by
      rintro rfl
      exact absurd digit (by decide)
    simp only [signText, if_false, Bool.false_eq_true, List.nil_append, shown]
    rw [starts] at number ⊢
    simpa [plain] using number

private theorem ofText?_eq_some : WrittenSize.ofText? text = some size ↔ size.Spells isDigit text :=
  ⟨ofText?_sound, ofText?_complete⟩

end Reading

/-- A text is a size in the usual digits, with the unit or without. -/
def IsSize (text : List Char) (unit : Bool) : Prop :=
  ∃ size : WrittenSize, size.hasUnit = unit ∧ size.Spells isAsciiDigit text

/-- The values of a property that scale: numbers, unless they are factors, and texts that are sizes.
The unit tells a size from a factor. -/
inductive Scales (property : String) : Json → Prop
  | number (value : Json.Number) (pixels : property ≠ "lineHeight") :
    Scales property (.number value)
  | text {text : String} {unit : Bool} (size : IsSize text.toList unit)
    (marked : property = "lineHeight" → unit = true) : Scales property (.string text)

/-- A value of a property is kept, unless it scales: then it is a share of the viewport. -/
structure Rescaled (property : String) (old new : Json) : Prop where
  changes : new ≠ old ↔ property ∈ responsiveProperties ∧ Scales property old
  share : new ≠ old → ∃ share, new = .string (share ++ "vw")

section Scaling

variable {property : String} {value : Json} {size : WrittenSize} {text : List Char}

private theorem needsUnit_iff : needsUnit property = true ↔ property = "lineHeight" :=
  beq_iff_eq

private theorem pixels?_isSome : size.pixels?.isSome = true ↔
    ∀ c ∈ size.whole ++ size.fraction, isAsciiDigit c = true := by
  unfold WrittenSize.pixels?
  rw [← List.all_eq_true]
  split <;> simp_all

private theorem spells_usual : size.Spells isAsciiDigit text ↔
    size.Spells isDigit text ∧ size.pixels?.isSome = true := by
  rw [pixels?_isSome]
  constructor
  · rintro ⟨nonempty, digits, spelled⟩
    exact ⟨⟨nonempty, fun c member => Text.isDigit_of_isAsciiDigit (digits c member), spelled⟩,
      digits⟩
  · rintro ⟨⟨nonempty, _, spelled⟩, usual⟩
    exact ⟨nonempty, usual, spelled⟩

theorem scales_iff : Scales property value ↔ (pixels? property value).isSome = true := by
  constructor
  · rintro (⟨_, pixels⟩ | ⟨⟨size, rfl, spells⟩, marked⟩)
    · have plain : needsUnit property = false := by
        rw [← Bool.not_eq_true, needsUnit_iff]
        exact pixels
      simp [pixels?, plain]
    · obtain ⟨read, number⟩ := spells_usual.mp spells
      have kept : (needsUnit property && !size.hasUnit) = false := by
        cases needed : needsUnit property with
        | false => rfl
        | true => simp [marked (needsUnit_iff.mp needed)]
      simp [pixels?, ofText?_eq_some.mpr read, kept, number]
  · intro pixels
    unfold pixels? at pixels
    split at pixels
    · split at pixels
      · cases pixels
      · rename_i plain
        exact .number _ fun factor => plain (needsUnit_iff.mpr factor)
    · split at pixels
      · rename_i size read
        split at pixels
        · cases pixels
        · rename_i kept
          refine .text ⟨size, rfl, spells_usual.mpr ⟨ofText?_eq_some.mp read, pixels⟩⟩ ?_
          intro factor
          simpa [needsUnit_iff.mpr factor] using kept
      · cases pixels
    · cases pixels

/-- No size has the first letter of the other unit in it. -/
theorem spells_avoids (spells : size.Spells isAsciiDigit text) : Avoids ['v'] text := by
  obtain ⟨-, digits, front, between, back, first, middle, last, rfl⟩ := spells
  obtain ⟨whole, fraction⟩ := List.forall_mem_append.mp digits
  have sign : Avoids ['v'] (signText size.negative) := by
    cases size.negative <;> decide
  have behindPoint : Avoids ['v'] (fractionText size.fraction) := by
    unfold fractionText
    split
    · exact .nil
    · exact .cons (by decide) (.of_class (by decide) fraction)
  have unit : Avoids ['v'] (unitText size.hasUnit between back) := by
    refine .append (.of_class (by decide) middle) (.append ?_ (.of_class (by decide) last))
    cases size.hasUnit <;> decide
  refine .append (.of_class (by decide) first) (.append sign ?_)
  exact .append (.of_class (by decide) whole) (.append behindPoint unit)

theorem not_scales_share (property share : String) :
    ¬ Scales property (.string (share ++ "vw")) := by
  rintro (_ | ⟨⟨size, -, spells⟩, -⟩)
  exact spells_avoids spells 'v' (by simp) (by decide)

variable (width second : Float)

theorem responsiveValue_scales (listed : property ∈ responsiveProperties)
    (scales : Scales property value) :
    ∃ share, responsiveValue width property value = .string (share ++ "vw") := by
  obtain ⟨pixels, found⟩ := Option.isSome_iff_exists.mp (scales_iff.mp scales)
  rw [responsiveValue, if_pos (List.contains_iff_mem.mpr listed), found]
  simp only [viewportUnits]
  exact ⟨_, rfl⟩

theorem responsiveValue_kept (kept : ¬ (property ∈ responsiveProperties ∧ Scales property value)) :
    responsiveValue width property value = value := by
  rw [scales_iff, Option.isSome_iff_ne_none] at kept
  unfold responsiveValue
  split
  · rename_i listed
    have none := not_not.mp fun some => kept ⟨List.contains_iff_mem.mp listed, some⟩
    rw [none]
  · rfl

private theorem responsiveValue_rescaled (property : String) (value : Json) :
    Rescaled property value (responsiveValue width property value) := by
  by_cases scales : property ∈ responsiveProperties ∧ Scales property value
  · obtain ⟨share, shown⟩ := responsiveValue_scales width scales.1 scales.2
    refine ⟨iff_of_true ?_ scales, fun _ => ⟨share, shown⟩⟩
    -- The value was a size before, and no share of the viewport is one.
    rw [shown]
    rintro rfl
    exact not_scales_share property share scales.2
  · have same := responsiveValue_kept width scales
    exact ⟨iff_of_false (fun changed => changed same) scales, fun changed => absurd same changed⟩

/-- A value that is rewritten for one width is not rewritten for another. -/
theorem responsiveValue_responsiveValue (property : String) (value : Json) :
    responsiveValue second property (responsiveValue width property value) =
      responsiveValue width property value := by
  by_cases scales : property ∈ responsiveProperties ∧ Scales property value
  · obtain ⟨share, shown⟩ := responsiveValue_scales width scales.1 scales.2
    rw [shown]
    exact responsiveValue_kept second fun again => not_scales_share property share again.2
  · rw [responsiveValue_kept width scales, responsiveValue_kept second scales]

private theorem keys_responsiveStyle (style : Fields) :
    Fields.keys (responsiveStyle width style) = style.keys := by
  rw [responsiveStyle, Fields.keys, Fields.keys, List.map_map]
  rfl

private theorem responsiveStyle_responsiveStyle (style : Fields) :
    responsiveStyle second (responsiveStyle width style) = responsiveStyle width style := by
  rw [responsiveStyle, responsiveStyle, List.map_map]
  refine List.map_congr_left fun declaration _ => ?_
  exact Prod.ext rfl (responsiveValue_responsiveValue width second declaration.1 declaration.2)

end Scaling

end Style

/-- A registry rewritten for viewports of some width keeps its classes, their properties and the
order of both, and every value but the sizes of the properties that scale, each of which becomes a
share of the viewport. Rewritten again, for whatever width, it stays as it is. -/
theorem StyleRegistry.responsive_once (registry : StyleRegistry) (width second : Float) :
    (registry.responsive width).classNames = registry.classNames ∧
    List.Forall₂ (fun old new => Fields.keys new.2 = Fields.keys old.2 ∧
        List.Forall₂ (fun old new => Style.Rescaled old.1 old.2 new.2) old.2 new.2)
      registry.entries (registry.responsive width).entries ∧
    (registry.responsive width).responsive second = registry.responsive width := by
  refine ⟨?_, ?_, ?_⟩
  · rw [classNames, classNames, responsive, List.map_map]
    rfl
  · rw [responsive, List.forall₂_map_right_iff, List.forall₂_same]
    rintro ⟨className, style⟩ _
    refine ⟨Style.keys_responsiveStyle width style, ?_⟩
    change List.Forall₂ _ style (Style.responsiveStyle width style)
    rw [Style.responsiveStyle, List.forall₂_map_right_iff, List.forall₂_same]
    rintro ⟨property, value⟩ _
    exact Style.responsiveValue_rescaled width property value
  · rw [responsive, responsive, List.map_map]
    refine congrArg StyleRegistry.mk (List.map_congr_left fun entry _ => ?_)
    exact Prod.ext rfl (Style.responsiveStyle_responsiveStyle width second entry.2)

end PanelCompiler
