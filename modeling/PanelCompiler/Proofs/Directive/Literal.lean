import PanelCompiler.Proofs.Directive.Marks
import PanelCompiler.Proofs.Directive.Template

/-!
Literals in the body of a loop. The marks around a literal are in no word and in no qualifier, so
the rewriting of the body can be cut at them: what is between two marks is rewritten on its own.
There it stays exactly if no word in it begins with the qualifier.
-/

namespace PanelCompiler.Directive

open Text (Avoids isWord)

/-- The mark in front of the content of an element, and the one on both sides of a quoted text. -/
def literalMarks : List Char :=
  ['>', '\'']

theorem isMark_of_literal : ∀ mark ∈ literalMarks, IsMark mark := by
  intro mark marked
  have outside : literalMarks.all (fun mark => !isWord mark && !qualifier.contains mark) := by
    decide +kernel
  obtain ⟨outside, apart⟩ : isWord mark = false ∧ mark ∉ qualifier := by
    simpa using List.all_eq_true.mp outside mark marked
  exact ⟨outside, apart⟩

/-- A name of an item that leaves alone what stands between marks: it is rewritten to itself, or a
reference to it cannot reach across a mark. -/
def SparesLiterals (name : List Char) : Prop :=
  StandsForItself name ∨ Avoids literalMarks name

instance (name : List Char) : Decidable (SparesLiterals name) :=
  inferInstanceAs (Decidable (_ ∨ _))

theorem IsIdentifier.sparesLiterals {name : List Char} (identifier : IsIdentifier name) :
    SparesLiterals name :=
  .inr (.of_class (by decide) identifier.parts)

def Enclosed (inner piece : List Char) : Prop :=
  ∃ first ∈ literalMarks, ∃ last ∈ literalMarks, piece = first :: (inner ++ [last])

namespace Enclosed

variable {inner piece text : List Char} (enclosed : Enclosed inner piece)
include enclosed

private theorem unqualified (within : piece <:+: text) (plain : Unqualified text) :
    Unqualified inner := by
  obtain ⟨first, marked, last, _, rfl⟩ := enclosed
  obtain ⟨front, behind, rfl⟩ := within
  have apart : Unqualified ((front ++ [first]) ++ (inner ++ (last :: behind))) := by
    simpa using plain
  refine apart.within ?_
  rw [List.getLast?_concat]
  exact endsWord_outside (isMark_of_literal first marked).outside

theorem infix_keyed {opening rest : List Char}
    (opens : splitOpeningTag? text = some (opening, rest)) (within : piece <:+: text)
    (index : String) : piece <:+: keyed opening rest index := by
  obtain ⟨first, marked, last, _, rfl⟩ := enclosed
  have apart : literalMarks.any isOpeningPart = false := by decide +kernel
  have behind : isOpeningPart first = false :=
    Bool.eq_false_iff.mpr (List.any_eq_false.mp apart first marked)
  exact Directive.infix_keyed behind opens within index

/-- What is between two marks in a fragment stays in the body of a loop, marks and all, if no word
in it begins with the qualifier. -/
theorem infix_loopBody {item : String} (spares : SparesLiterals item.toList)
    (plain : Unqualified inner) (within : piece <:+: text) :
    piece <:+: (loopBody item (String.ofList text)).toList := by
  rw [toList_loopBody, String.toList_ofList]
  obtain ⟨first, opening, last, closing, rfl⟩ := enclosed
  have kept := infix_rewritten spares opening closing isMark_of_literal within
  rwa [rewritten_between spares opening closing isMark_of_literal, rewritten_plain plain] at kept

/-- Whatever the name of the item, nothing with a qualifier is in the body of a loop. -/
theorem unqualified_of_loopBody {item keyed : String}
    (within : piece <:+: (loopBody item keyed).toList) : Unqualified inner := by
  refine enclosed.unqualified within ?_
  rw [loopBody, String.toList_ofList]
  exact unqualified_stripQualifiers _

end Enclosed

end PanelCompiler.Directive
