import Mathlib.Data.List.Basic
import Mathlib.Data.List.TakeWhile
import PanelCompiler.Proofs.Text.Word
import PanelCompiler.Stylesheet.Block

/-!
What becomes of the names of properties. A name in camel case can be read off its declaration, where
every capital letter shows as a hyphen and the small letter. A name without capital letters stays as
it is, but for the hyphens in front of it, which are lost.
-/

namespace PanelCompiler

open RuleBlock (declarationText)
open Text (isAsciiDigit isAsciiLetter lowerChar)

namespace Style

def isAscii (c : Char) : Bool :=
  c.toNat < 128

def isSmall (c : Char) : Bool :=
  'a' ≤ c && c ≤ 'z'

/-- A small letter, and letters and digits behind it. -/
def IsCamelCase : List Char → Prop
  | [] => False
  | first :: rest =>
    isSmall first = true ∧ ∀ c ∈ rest, isAsciiLetter c = true ∨ isAsciiDigit c = true

instance : DecidablePred IsCamelCase
  | [] => .isFalse id
  | first :: rest =>
    let behind := List.decidableBAll (fun c => isAsciiLetter c = true ∨ isAsciiDigit c = true) rest
    @instDecidableAnd (isSmall first = true) _ _ behind

/-- What is shown for a character of a name, unless it is a capital letter in front. -/
def hyphened (c : Char) : List Char :=
  if isCapital c then ['-', lowerChar c] else [c]

/-- Every hyphen with a small letter behind it, turned back into the capital letter. -/
def restoreCapitals : List Char → List Char
  | '-' :: c :: rest =>
    if isSmall c then c.toUpper :: restoreCapitals rest else '-' :: restoreCapitals (c :: rest)
  | c :: rest => c :: restoreCapitals rest
  | [] => []

/-- The name of a declaration: what stands in front of its first colon. -/
def declaredName (declaration : String) : List Char :=
  declaration.toList.takeWhile (· != ':')

section Letters

variable {c : Char}

/-- What can be decided of every ASCII character holds of them all. -/
theorem ascii_induction {P : Char → Prop} (decided : ∀ code < 128, P (Char.ofNat code))
    (ascii : isAscii c = true) : P c := by
  have here := decided c.toNat (of_decide_eq_true ascii)
  rwa [Char.ofNat_toNat] at here

theorem lowerChar_capital (ascii : isAscii c = true) :
    isCapital c = true → isSmall (lowerChar c) = true ∧ (lowerChar c).toUpper = c :=
  ascii_induction (P := fun c => isCapital c = true →
    isSmall (lowerChar c) = true ∧ (lowerChar c).toUpper = c) (by decide +kernel) ascii

theorem lowerChar_uncapitalized (ascii : isAscii c = true) :
    isCapital c = false → lowerChar c = c :=
  ascii_induction (P := fun c => isCapital c = false → lowerChar c = c) (by decide +kernel) ascii

private theorem lowerChar_hyphen (ascii : isAscii c = true) : (lowerChar c == '-') = (c == '-') :=
  ascii_induction (P := fun c => (lowerChar c == '-') = (c == '-')) (by decide +kernel) ascii

theorem isCapital_letter (ascii : isAscii c = true) :
    isAsciiLetter c = true → isCapital c = !isSmall c :=
  ascii_induction (P := fun c => isAsciiLetter c = true → isCapital c = !isSmall c)
    (by decide +kernel) ascii

theorem isAscii_of_part (part : isAsciiLetter c = true ∨ isAsciiDigit c = true) :
    isAscii c = true := by
  refine decide_eq_true (Text.toNat_lt_of_isAsciiWord ?_)
  rcases part with letter | digit
  · simp [Text.isAsciiWord, letter]
  · simp [Text.isAsciiWord, digit]

end Letters

section Ascii

variable {text : List Char}

theorem lowercaseAfter_ascii (ascii : ∀ c ∈ text, isAscii c = true) (before : List Char) :
    Text.lowercaseAfter before text = text.map lowerChar := by
  induction text generalizing before with
  | nil => rfl
  | cons c rest ih =>
    have here := ascii c List.mem_cons_self
    have sigma : c ≠ Text.capitalSigma := by
      rintro rfl
      exact absurd here (by decide)
    have dotted : c ≠ Text.capitalDottedI := by
      rintro rfl
      exact absurd here (by decide)
    have later := ih fun other member => ascii other (List.mem_cons_of_mem c member)
    simp [Text.lowercaseAfter, sigma, dotted, later]

theorem map_lowerChar_dropWhile (ascii : ∀ c ∈ text, isAscii c = true) :
    (text.dropWhile (· == '-')).map lowerChar =
      (text.map lowerChar).dropWhile (· == '-') := by
  induction text with
  | nil => rfl
  | cons c rest ih =>
    have later := ih fun other member => ascii other (List.mem_cons_of_mem c member)
    rw [List.map_cons, List.dropWhile_cons, List.dropWhile_cons,
      lowerChar_hyphen (ascii c List.mem_cons_self)]
    split
    · exact later
    · rfl

theorem markCapitals_ascii (ascii : ∀ c ∈ text, isAscii c = true) :
    ∀ c ∈ markCapitals text, isAscii c = true := by
  intro c member
  obtain ⟨letter, given, member⟩ := List.mem_flatMap.mp member
  split at member
  · rcases List.mem_cons.mp member with rfl | same
    · decide
    · rw [List.mem_singleton.mp same]
      exact ascii letter given
  · rw [List.mem_singleton.mp member]
    exact ascii letter given

theorem map_lowerChar_markCapitals (ascii : ∀ c ∈ text, isAscii c = true) :
    (markCapitals text).map lowerChar = text.flatMap hyphened := by
  rw [markCapitals, List.map_flatMap]
  refine List.flatMap_congr fun c member => ?_
  unfold hyphened
  split
  · rfl
  · rename_i small
    rw [List.map_singleton,
      lowerChar_uncapitalized (ascii c member) (Bool.not_eq_true _ ▸ small)]

/-- An ASCII name is shown character by character, without the hyphens in front. -/
theorem toList_hyphenate {name : String} (ascii : ∀ c ∈ name.toList, isAscii c = true) :
    (hyphenate name).toList = (name.toList.flatMap hyphened).dropWhile (· == '-') := by
  have marked := markCapitals_ascii ascii
  have left : ∀ c ∈ (markCapitals name.toList).dropWhile (· == '-'), isAscii c = true :=
    fun c member => marked c ((List.dropWhile_suffix _).subset member)
  rw [hyphenate, String.toList_ofList, Text.lowercase, lowercaseAfter_ascii left,
    map_lowerChar_dropWhile marked, map_lowerChar_markCapitals ascii]

end Ascii

section CamelCase

variable {name : List Char}

theorem IsCamelCase.parts (camel : IsCamelCase name) :
    ∀ c ∈ name, isAsciiLetter c = true ∨ isAsciiDigit c = true := by
  cases name with
  | nil => exact nofun
  | cons first rest =>
    obtain ⟨small, behind⟩ := camel
    intro c member
    rcases List.mem_cons.mp member with rfl | later
    · exact .inl (Bool.or_eq_true_iff.mpr (.inl small))
    · exact behind c later

theorem IsCamelCase.ascii (camel : IsCamelCase name) : ∀ c ∈ name, isAscii c = true :=
  fun c member => isAscii_of_part (camel.parts c member)

theorem IsCamelCase.ne_hyphen (camel : IsCamelCase name) : ∀ c ∈ name, c ≠ '-' := by
  rintro c member rfl
  exact absurd (camel.parts '-' member) (by decide)

/-- A camel-case name shows no hyphen in front that could get lost. -/
theorem IsCamelCase.toList_hyphenate {name : String} (camel : IsCamelCase name.toList) :
    (hyphenate name).toList = name.toList.flatMap hyphened := by
  rw [Style.toList_hyphenate camel.ascii]
  cases shape : name.toList with
  | nil => rfl
  | cons first rest =>
    rw [shape] at camel
    have letter : isAsciiLetter first = true := Bool.or_eq_true_iff.mpr (.inl camel.1)
    have capital := isCapital_letter (camel.ascii first List.mem_cons_self) letter
    have apart : first ≠ '-' := camel.ne_hyphen first List.mem_cons_self
    simp [hyphened, capital, camel.1, apart]

private theorem restoreCapitals_hyphened {c : Char} (ascii : isAscii c = true) (apart : c ≠ '-')
    (rest : List Char) : restoreCapitals (hyphened c ++ rest) = c :: restoreCapitals rest := by
  unfold hyphened
  split
  · rename_i capital
    obtain ⟨small, back⟩ := lowerChar_capital ascii capital
    rw [List.cons_append, List.singleton_append, restoreCapitals, if_pos small, back]
  · rw [List.singleton_append, restoreCapitals]
    exact fun _ _ same => absurd same apart

private theorem restoreCapitals_flatMap (ascii : ∀ c ∈ name, isAscii c = true)
    (apart : ∀ c ∈ name, c ≠ '-') : restoreCapitals (name.flatMap hyphened) = name := by
  induction name with
  | nil => rfl
  | cons c rest ih =>
    have later := ih (fun other member => ascii other (List.mem_cons_of_mem c member))
      (fun other member => apart other (List.mem_cons_of_mem c member))
    rw [List.flatMap_cons, restoreCapitals_hyphened (ascii c List.mem_cons_self)
      (apart c List.mem_cons_self), later]

private theorem mem_hyphened {c shown : Char}
    (part : isAsciiLetter c = true ∨ isAsciiDigit c = true) (member : shown ∈ hyphened c) :
    shown = '-' ∨ isSmall shown = true ∨ isAsciiDigit shown = true := by
  have ascii := isAscii_of_part part
  unfold hyphened at member
  split at member
  · rename_i capital
    rcases List.mem_cons.mp member with rfl | same
    · exact .inl rfl
    · rw [List.mem_singleton.mp same]
      exact .inr (.inl (lowerChar_capital ascii capital).1)
  · rename_i small
    rw [List.mem_singleton.mp member]
    rcases part with letter | digit
    · rw [isCapital_letter ascii letter, Bool.not_eq_true, Bool.not_eq_false'] at small
      exact .inr (.inl small)
    · exact .inr (.inr digit)

theorem IsCamelCase.mem_hyphenate {name : String} (camel : IsCamelCase name.toList) :
    ∀ c ∈ (hyphenate name).toList, c = '-' ∨ isSmall c = true ∨ isAsciiDigit c = true := by
  intro c member
  rw [camel.toList_hyphenate] at member
  obtain ⟨letter, given, shown⟩ := List.mem_flatMap.mp member
  exact mem_hyphened (camel.parts letter given) shown

private theorem IsCamelCase.restored {name : String} (camel : IsCamelCase name.toList) :
    restoreCapitals (hyphenate name).toList = name.toList := by
  rw [camel.toList_hyphenate, restoreCapitals_flatMap camel.ascii camel.ne_hyphen]

private theorem IsCamelCase.declaredName {name : String} (camel : IsCamelCase name.toList)
    (value : Json) : declaredName (declarationText name value) = (hyphenate name).toList := by
  have apart : ∀ c ∈ (hyphenate name).toList, (c != ':') = true := by
    intro c member
    rw [bne_iff_ne]
    rintro rfl
    exact absurd (camel.mem_hyphenate ':' member) (by decide)
  simp [Style.declaredName, declarationText, List.takeWhile_append_of_pos apart]

/-- A name in camel case is shown in small letters, digits and hyphens, and can be read back from
that. So the declarations of two such properties never have the same name. -/
theorem camelCase_restored {name : String} (camel : IsCamelCase name.toList) :
    (∀ c ∈ (hyphenate name).toList, c = '-' ∨ isSmall c = true ∨ isAsciiDigit c = true) ∧
      restoreCapitals (hyphenate name).toList = name.toList ∧
      ∀ other : String, IsCamelCase other.toList → other ≠ name → ∀ value otherValue,
        declaredName (declarationText other otherValue) ≠
          declaredName (declarationText name value) := by
  refine ⟨camel.mem_hyphenate, camel.restored, fun other given apart value otherValue same => ?_⟩
  rw [camel.declaredName, given.declaredName] at same
  apply apart
  rw [← String.toList_inj, ← given.restored, ← camel.restored, same]

/-- Capitals one behind the other, and a name that differs in the last of them only. -/
theorem camelCase_restored_run :
    let name := "gridRow2XL"
    IsCamelCase name.toList ∧ IsCamelCase "gridRow2Xl".toList ∧ hyphenate name = "grid-row2-x-l" ∧
      restoreCapitals "grid-row2-x-l".toList = name.toList ∧
      declaredName (declarationText "gridRow2Xl" .null) ≠
        declaredName (declarationText name (.string "auto")) := by
  intro name
  have camel : IsCamelCase name.toList := by decide
  have other : IsCamelCase "gridRow2Xl".toList := by decide
  have shown : hyphenate name = "grid-row2-x-l" := by decide +kernel
  obtain ⟨_, restored, apart⟩ := camelCase_restored camel
  rw [shown] at restored
  exact ⟨camel, other, shown, restored, apart _ other (by decide) _ _⟩

end CamelCase

section Uncapitalized

/-- ASCII characters, none of them a capital letter. -/
def IsUncapitalized (name : List Char) : Prop :=
  ∀ c ∈ name, isAscii c = true ∧ isCapital c = false

instance (name : List Char) : Decidable (IsUncapitalized name) :=
  List.decidableBAll (fun c => isAscii c = true ∧ isCapital c = false) name

variable {name : String}

/-- Nothing but the hyphens in front is taken from a name without capital letters. -/
theorem IsUncapitalized.toList_hyphenate (plain : IsUncapitalized name.toList) :
    (hyphenate name).toList = name.toList.dropWhile (· == '-') := by
  have single : name.toList.flatMap hyphened = name.toList.flatMap fun c => [c] :=
    List.flatMap_congr fun c member => by simp [hyphened, (plain c member).2]
  rw [Style.toList_hyphenate fun c member => (plain c member).1, single, List.flatMap_singleton']

private theorem IsUncapitalized.hyphenate_eq_self_iff (plain : IsUncapitalized name.toList) :
    hyphenate name = name ↔ name.toList.head? ≠ some '-' := by
  rw [← String.toList_inj, plain.toList_hyphenate, List.dropWhile_eq_self_iff]
  cases name.toList <;> simp

/-- A name without capital letters stays as it is, but for the hyphens in front of it. So its
declaration has exactly that name if and only if it does not begin with a hyphen. -/
theorem uncapitalized_kept_iff (plain : IsUncapitalized name.toList) :
    (hyphenate name).toList = name.toList.dropWhile (· == '-') ∧
      (hyphenate name = name ↔ name.toList.head? ≠ some '-') ∧
      ∀ value, declarationText name value = name ++ ": " ++ declarationValue value ++ ";\n" ↔
        name.toList.head? ≠ some '-' := by
  refine ⟨plain.toList_hyphenate, plain.hyphenate_eq_self_iff, fun value => ?_⟩
  rw [← plain.hyphenate_eq_self_iff, declarationText, String.append_left_inj,
    String.append_left_inj, String.append_left_inj]

theorem uncapitalized_kept_iff_inner :
    let name := "grid-row-2"
    IsUncapitalized name.toList ∧ hyphenate name = name ∧
      declarationText name (.string "auto") = "grid-row-2: auto;\n" := by
  intro name
  have plain : IsUncapitalized name.toList := by decide
  obtain ⟨_, kept, declared⟩ := uncapitalized_kept_iff plain
  exact ⟨plain, kept.mpr (by decide), (declared _).mpr (by decide)⟩

/-- The hyphen in front of a vendor's name is lost, and with it the property. -/
theorem vendor_hyphen_lost :
    let name := "-webkit-transform"
    IsUncapitalized name.toList ∧ hyphenate name = "webkit-transform" ∧
      declarationText name (.string "none") = "webkit-transform: none;\n" ∧
      declarationText name (.string "none") ≠ name ++ ": none;\n" := by
  intro name
  have declared : declarationText name (.string "none") = "webkit-transform: none;\n" := by
    decide +kernel
  refine ⟨by decide, by decide +kernel, declared, ?_⟩
  rw [declared]
  decide +kernel

end Uncapitalized

end Style

end PanelCompiler
