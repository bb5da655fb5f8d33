import Mathlib.Data.List.DropRight
import PanelCompiler.Text.Blank

namespace PanelCompiler.Text

section Start

theorem exists_trimStart (text : List Char) :
    ∃ front, (∀ c ∈ front, isBlank c = true) ∧ text = front ++ trimStart text :=
  ⟨text.takeWhile isBlank, fun _ member => List.mem_takeWhile_imp member,
    List.takeWhile_append_dropWhile.symm⟩

theorem trimStart_shown {text : List Char} (shown : ∀ c ∈ text.head?, isBlank c = false) :
    trimStart text = text := by
  cases text with
  | nil => rfl
  | cons c rest =>
    have stops : isBlank c = false := shown c rfl
    simp [trimStart, stops]

theorem trimStart_append {front : List Char} (blank : ∀ c ∈ front, isBlank c = true)
    (text : List Char) : trimStart (front ++ text) = trimStart text :=
  List.dropWhile_append_of_pos blank

theorem trimStart_append_of_ne_nil {front : List Char} (shown : trimStart front ≠ [])
    (rest : List Char) : trimStart (front ++ rest) = trimStart front ++ rest := by
  unfold trimStart at shown ⊢
  rw [List.dropWhile_append, if_neg (by rwa [List.isEmpty_iff])]

theorem trimStart_eq_nil {text : List Char} (blank : ∀ c ∈ text, isBlank c = true) :
    trimStart text = [] :=
  List.dropWhile_eq_nil_iff.mpr blank

end Start

section Blank

variable {blanks : List Char} (blank : ∀ c ∈ blanks, isBlank c = true)

include blank

theorem trim_append (text : List Char) : trim (blanks ++ text) = trim text := by
  rw [trim, trimStart_append blank]
  rfl

theorem trim_eq_nil : trim blanks = [] := by
  have nothing := trim_append blank []
  rwa [List.append_nil] at nothing

end Blank

theorem length_trim_le (text : List Char) : (trim text).length ≤ text.length :=
  (List.rdropWhile_prefix isBlank _).length_le.trans (List.dropWhile_suffix isBlank).length_le

theorem trimEnd_concat_blank {c : Char} (blank : isBlank c = true) (text : List Char) :
    trimEnd (text ++ [c]) = trimEnd text := by
  simp [trimEnd, blank]

section Shown

variable {c : Char} (shown : isBlank c = false)

include shown

theorem trimEnd_concat (text : List Char) : trimEnd (text ++ [c]) = text ++ [c] := by
  simp [trimEnd, shown]

theorem trimEnd_append_cons (text rest : List Char) :
    trimEnd (text ++ c :: rest) = text ++ c :: trimEnd rest := by
  rw [trimEnd, List.reverse_append, List.reverse_cons, List.append_assoc, List.dropWhile_append]
  split
  · rename_i none
    simp [trimEnd, List.isEmpty_iff.mp none, shown]
  · simp [trimEnd]

theorem trim_cons (rest : List Char) : trim (c :: rest) = c :: trimEnd rest := by
  rw [trim, trimStart, List.dropWhile_cons_of_neg (by simp [shown])]
  exact trimEnd_append_cons shown [] rest

theorem trim_concat (text : List Char) : trim (text ++ [c]) = trimStart text ++ [c] := by
  have start : trimStart (text ++ [c]) = trimStart text ++ [c] := by
    rw [trimStart, trimStart, List.dropWhile_append]
    split
    · rename_i none
      simp [List.isEmpty_iff.mp none, shown]
    · rfl
  rw [trim, start, trimEnd_concat shown]

end Shown

section Ends

variable {blanks : List Char} (blank : ∀ c ∈ blanks, isBlank c = true)

include blank

private theorem trimEnd_append (text : List Char) : trimEnd (text ++ blanks) = trimEnd text := by
  have reversed : ∀ c ∈ blanks.reverse, isBlank c = true := fun c member =>
    blank c (List.mem_reverse.mp member)
  rw [trimEnd, List.reverse_append, List.dropWhile_append_of_pos reversed]
  rfl

theorem trim_append_blanks (text : List Char) : trim (text ++ blanks) = trim text := by
  cases shown : trimStart text with
  | nil =>
    have front : ∀ c ∈ text, isBlank c = true := List.dropWhile_eq_nil_iff.mp shown
    rw [trim_append front, trim_eq_nil blank, trim_eq_nil front]
  | cons c rest =>
    have begun : trimStart text ≠ [] := by simp [shown]
    rw [trim, trimStart_append_of_ne_nil begun, trimEnd_append blank]
    rfl

end Ends

theorem trimStart_trimStart (text : List Char) : trimStart (trimStart text) = trimStart text :=
  List.dropWhile_idempotent isBlank text

theorem exists_trim (text : List Char) : ∃ front back, (∀ c ∈ front, isBlank c = true) ∧
    (∀ c ∈ back, isBlank c = true) ∧ text = front ++ (trim text ++ back) := by
  refine ⟨text.takeWhile isBlank, ((trimStart text).reverse.takeWhile isBlank).reverse,
    fun c member => List.mem_takeWhile_imp member, fun c member => ?_, ?_⟩
  · exact List.mem_takeWhile_imp (List.mem_reverse.mp member)
  · rw [trim, trimEnd, ← List.reverse_append, List.takeWhile_append_dropWhile,
      List.reverse_reverse, trimStart, List.takeWhile_append_dropWhile]

theorem blank_of_trim {text : List Char} (none : trim text = []) :
    ∀ c ∈ text, isBlank c = true := by
  obtain ⟨front, back, before, behind, whole⟩ := exists_trim text
  intro c member
  rw [whole, none, List.nil_append] at member
  rcases List.mem_append.mp member with leading | trailing
  · exact before c leading
  · exact behind c trailing

theorem trim_trimStart (text : List Char) : trim (trimStart text) = trim text := by
  rw [trim, trim, trimStart_trimStart]

theorem trim_trim (text : List Char) : trim (trim text) = trim text := by
  obtain ⟨front, back, before, behind, whole⟩ := exists_trim text
  have trimmed := congrArg trim whole
  rw [trim_append before, trim_append_blanks behind] at trimmed
  exact trimmed.symm

end PanelCompiler.Text
