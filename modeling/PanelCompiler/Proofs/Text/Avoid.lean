import PanelCompiler.Text.Blank

namespace PanelCompiler.Text

/-- None of the marks occurs in the text. -/
def Avoids (marks text : List Char) : Prop :=
  ∀ c ∈ text, c ∉ marks

instance (marks text : List Char) : Decidable (Avoids marks text) :=
  List.decidableBAll (· ∉ marks) text

namespace Avoids

variable {marks text first rest other : List Char}

theorem nil : Avoids marks [] :=
  nofun

theorem cons {c : Char} (head : c ∉ marks) (tail : Avoids marks rest) :
    Avoids marks (c :: rest) := by
  intro other member
  rcases List.mem_cons.mp member with rfl | later
  · exact head
  · exact tail other later

theorem append (head : Avoids marks first) (tail : Avoids marks rest) :
    Avoids marks (first ++ rest) := by
  intro c member
  rcases List.mem_append.mp member with here | later
  · exact head c here
  · exact tail c later

theorem subset (avoids : Avoids marks text) (within : other ⊆ text) : Avoids marks other :=
  fun c member => avoids c (within member)

theorem of_class {belongs : Char → Bool} (apart : marks.any belongs = false)
    (all : ∀ c ∈ text, belongs c = true) : Avoids marks text := by
  intro c member marked
  exact List.any_eq_false.mp apart c marked (all c member)

theorem digits (apart : marks.any Char.isDigit = false) (number : Nat) :
    Avoids marks (Nat.toDigits 10 number) :=
  of_class apart fun _ member => Nat.isDigit_of_mem_toDigits (by decide) (by decide) member

theorem number (apart : marks.any Char.isDigit = false) (number : Nat) :
    Avoids marks (toString number).toList := by
  rw [Nat.toString_eq_repr, Nat.toList_repr]
  exact digits apart number

end Avoids

end PanelCompiler.Text
