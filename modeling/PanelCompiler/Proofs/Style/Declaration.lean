import PanelCompiler.Proofs.Text.Avoid
import PanelCompiler.Style.Declaration

namespace PanelCompiler

open Text (Avoids)

namespace Style

/-- The characters that divide a stylesheet, and those around what is not divided. -/
def marks : List Char :=
  ['\x7b', '\x7d', '(', ')', ';', '"', '\'', '\n', '\r']

section Names

theorem ofNat_not_mem_marks {code : Nat} (apart : code ∉ marks.map Char.toNat) :
    Char.ofNat code ∉ marks := by
  by_cases valid : code.isValidChar
  · have same : (Char.ofNat code).toNat = code := by
      rw [Char.ofNat, dif_pos valid]
      rfl
    intro marked
    exact apart (same ▸ List.mem_map_of_mem marked)
  · have zero : Char.ofNat code = '\x00' := by
      rw [Char.ofNat, dif_neg valid]
      rfl
    rw [zero]
    decide

/-- No mark is among the lower-case partners of a run of letters. -/
def RunApart : Nat × Nat × Nat × Int → Prop
  | (first, last, _, shift) =>
    ∀ code ∈ marks.map Char.toNat, (code : Int) < first + shift ∨ last + shift < code

instance : DecidablePred RunApart
  | (first, last, _, shift) => inferInstanceAs (Decidable
    (∀ code ∈ marks.map Char.toNat, (code : Int) < first + shift ∨ last + shift < code))

private theorem lowerRuns_apart : ∀ run ∈ Text.lowerRuns, RunApart run := by
  decide +kernel

private theorem lowerByRuns_not_mem_marks {c : Char} (plain : c ∉ marks) {runs : Text.CaseRuns}
    (apart : ∀ run ∈ runs, RunApart run) : Text.lowerByRuns c runs ∉ marks := by
  induction runs with
  | nil => exact plain
  | cons run rest ih =>
    obtain ⟨first, last, step, shift⟩ := run
    have later := ih fun other member => apart other (List.mem_cons_of_mem _ member)
    unfold Text.lowerByRuns
    split
    · rename_i within
      split
      · refine ofNat_not_mem_marks fun marked => ?_
        have positive : ∀ code ∈ marks.map Char.toNat, 0 < code := by decide
        have bounds := positive _ marked
        have outside := apart _ List.mem_cons_self _ marked
        simp only [Bool.and_eq_true, decide_eq_true_eq] at within
        omega
      · exact later
    · exact later

private theorem lowerChar_not_mem_marks {c : Char} (plain : c ∉ marks) :
    Text.lowerChar c ∉ marks := by
  unfold Text.lowerChar
  split
  · split
    · rename_i capital
      have outside : ∀ code ∈ marks.map Char.toNat, code < 97 ∨ 122 < code := by decide
      refine ofNat_not_mem_marks fun marked => ?_
      obtain ⟨least, greatest⟩ := Bool.and_eq_true_iff.mp capital
      have lower : 65 ≤ c.toNat := of_decide_eq_true least
      have upper : c.toNat ≤ 90 := of_decide_eq_true greatest
      have bounds := outside _ marked
      omega
    · exact plain
  · exact lowerByRuns_not_mem_marks plain lowerRuns_apart

private theorem lowercaseAfter_avoids {before text : List Char} (plain : Avoids marks text) :
    Avoids marks (Text.lowercaseAfter before text) := by
  induction text generalizing before with
  | nil => exact .nil
  | cons c rest ih =>
    have later : Avoids marks rest := plain.subset (List.subset_cons_self c rest)
    unfold Text.lowercaseAfter
    refine .append ?_ (ih later)
    split
    · split
      · decide
      · decide
    · split
      · decide
      · exact .cons (lowerChar_not_mem_marks (plain c List.mem_cons_self)) .nil

private theorem markCapitals_avoids {name : List Char} (plain : Avoids marks name) :
    Avoids marks (markCapitals name) := by
  intro c member
  obtain ⟨letter, given, member⟩ := List.mem_flatMap.mp member
  have letterPlain := plain letter given
  split at member
  · exact (Avoids.cons (by decide) (.cons letterPlain .nil)) c member
  · exact (Avoids.cons letterPlain .nil) c member

theorem hyphenate_avoids {property : String} (plain : Avoids marks property.toList) :
    Avoids marks (hyphenate property).toList := by
  unfold hyphenate
  rw [String.toList_ofList]
  apply lowercaseAfter_avoids
  exact (markCapitals_avoids plain).subset (List.dropWhile_suffix _).subset

end Names

section Values

theorem digitChars_avoids (number : Nat) : Avoids marks (Decimal.digitChars number) :=
  .digits (by decide) number

private theorem zeros_avoids (count : Nat) : Avoids marks (Decimal.zeros count) := by
  intro c member
  rw [List.eq_of_mem_replicate member]
  decide

private theorem significantChars_avoids (number : Nat) :
    Avoids marks (Decimal.significantChars number) := by
  unfold Decimal.significantChars
  split
  · decide
  · refine (digitChars_avoids number).subset fun c member => ?_
    have kept := (List.dropWhile_suffix _).subset (List.mem_reverse.mp member)
    exact List.mem_reverse.mp kept

private theorem plainText_avoids {digits : List Char} (plain : Avoids marks digits)
    (leading : Int) : Avoids marks (Decimal.plainText digits leading) := by
  have point : Avoids marks ['.', '0'] := by decide
  unfold Decimal.plainText
  split
  · exact .cons (by decide) (.cons (by decide) ((zeros_avoids _).append plain))
  · dsimp only
    split
    · exact (plain.append (zeros_avoids _)).append point
    · have whole := plain.subset (List.take_subset (leading.natAbs + 1) digits)
      have fraction := plain.subset (List.drop_subset (leading.natAbs + 1) digits)
      exact whole.append (.cons (by decide) fraction)

private theorem exponentText_avoids {digits : List Char} (plain : Avoids marks digits)
    (leading : Int) : Avoids marks (Decimal.exponentText digits leading) := by
  have exponent := digitChars_avoids leading.natAbs
  unfold Decimal.exponentText
  refine .append ?_ (.cons (by decide) (.cons ?_ exponent))
  · split
    · rename_i first second rest
      have digit := plain first List.mem_cons_self
      exact .cons digit (.cons (by decide) (plain.subset (List.subset_cons_self _ _)))
    · exact plain
  · split
    · decide
    · decide

private theorem sizeText_avoids (range : Decimal.PlainRange) (x : Decimal.Binary) :
    Avoids marks (Decimal.sizeText range x) := by
  unfold Decimal.sizeText
  split
  · decide
  · dsimp only
    split
    · exact plainText_avoids (significantChars_avoids _) _
    · exact exponentText_avoids (significantChars_avoids _) _

private theorem withSign_avoids (negative : Bool) {size : List Char} (plain : Avoids marks size) :
    Avoids marks (Decimal.withSign negative size).toList := by
  unfold Decimal.withSign
  rw [String.toList_ofList]
  split
  · exact .cons (by decide) plain
  · exact plain

private theorem number_avoids (number : Json.Number) : Avoids marks number.text.toList := by
  cases number with
  | integer value =>
    cases value with
    | ofNat size => exact .number (by decide) size
    | negSucc size =>
      have written : (Json.Number.integer (.negSucc size)).text = "-" ++ toString (size + 1) := rfl
      rw [written, String.toList_append]
      exact .append (by decide) (.number (by decide) _)
  | float value =>
    unfold Json.Number.text Decimal.jsonText
    dsimp only
    split
    · exact withSign_avoids _ (sizeText_avoids _ _)
    · decide
    · decide

/-- A value on one line: a number, a boolean, null, or a string without marks. -/
def IsPlain : Json → Prop
  | .null | .bool _ | .number _ => True
  | .string text => Avoids marks text.toList
  | .array _ | .object _ => False

instance : DecidablePred IsPlain
  | .null | .bool _ | .number _ => .isTrue trivial
  | .string text => inferInstanceAs (Decidable (Avoids marks text.toList))
  | .array _ | .object _ => .isFalse id

theorem declarationValue_avoids {value : Json} (plain : IsPlain value) :
    Avoids marks (declarationValue value).toList := by
  cases value with
  | null => decide
  | bool value => cases value <;> decide
  | number value => exact number_avoids value
  | string text => exact plain
  | array items => exact plain.elim
  | object fields => exact plain.elim

end Values

end Style

end PanelCompiler
