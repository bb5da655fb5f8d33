import PanelCompiler.Text.Blank
import PanelCompiler.Text.Word

namespace PanelCompiler.Text

def blankCodes : List Nat :=
  List.range' 0x9 5 ++ List.range' 0x2000 11 ++
    [0x20, 0x85, 0xa0, 0x1680, 0x2028, 0x2029, 0x202f, 0x205f, 0x3000]

private theorem toNat_mem_blankCodes {c : Char} (blank : isBlank c = true) :
    c.toNat ∈ blankCodes := by
  simp only [isBlank, Bool.or_eq_true, Bool.and_eq_true, decide_eq_true_eq, beq_iff_eq] at blank
  simp only [blankCodes, List.mem_append, List.mem_range'_1, List.mem_cons, List.not_mem_nil]
  omega

theorem isWord_eq_false_of_isBlank {c : Char} (blank : isBlank c = true) : isWord c = false := by
  have outside : blankCodes.all (fun code => !isWord (Char.ofNat code)) = true := by
    decide +kernel
  have here := List.all_eq_true.mp outside _ (toNat_mem_blankCodes blank)
  rw [Char.ofNat_toNat] at here
  simpa using here

private theorem isWord_of_isDigit {c : Char} (digit : isDigit c = true) : isWord c = true := by
  unfold isDigit at digit
  unfold isWord
  split at digit
  · rename_i ascii
    simp [ascii, isAsciiWord, digit]
  · rename_i beyond
    simp [beyond, digit]

theorem isDigit_eq_false_of_isBlank {c : Char} (blank : isBlank c = true) : isDigit c = false := by
  cases digit : isDigit c with
  | false => rfl
  | true => rw [← isWord_of_isDigit digit, isWord_eq_false_of_isBlank blank]

section Ascii

variable {c : Char}

theorem toNat_lt_of_isAsciiWord (word : isAsciiWord c = true) : c.toNat < 128 := by
  simp only [isAsciiWord, isAsciiLetter, isAsciiDigit, Bool.or_eq_true, Bool.and_eq_true,
    decide_eq_true_eq, beq_iff_eq, Char.le_def, UInt32.le_iff_toNat_le] at word
  rcases word with ((⟨_, most⟩ | ⟨_, most⟩) | ⟨_, most⟩) | rfl
  · exact Nat.lt_of_le_of_lt most (by decide)
  · exact Nat.lt_of_le_of_lt most (by decide)
  · exact Nat.lt_of_le_of_lt most (by decide)
  · decide

theorem isWord_of_isAsciiWord (word : isAsciiWord c = true) : isWord c = true := by
  rw [isWord, if_pos (toNat_lt_of_isAsciiWord word), word]

theorem isDigit_of_isAsciiDigit (digit : isAsciiDigit c = true) : isDigit c = true := by
  have word : isAsciiWord c = true := by simp [isAsciiWord, digit]
  rwa [isDigit, if_pos (toNat_lt_of_isAsciiWord word)]

end Ascii

end PanelCompiler.Text
