import PanelCompiler.Proofs.Tree.Address

namespace PanelCompiler

namespace Path

/-- Below `path`, one place comes before another: it stands above the other, or it goes to an
earlier child where their ways part. -/
def Before (path first second : Path) : Prop :=
  ∃ above below : List Nat, first = path.descend above ∧ second = path.descend below ∧ above < below

namespace Before

variable {path first second : Path}

private theorem inside {index : Nat} (before : (path.child index).Before first second) :
    path.Before first second := by
  obtain ⟨above, below, rfl, rfl, lower⟩ := before
  refine ⟨index :: above, index :: below, ?_, ?_, .cons lower⟩
  · rw [descend_cons]
  · rw [descend_cons]

private theorem siblings {index later : Nat} (lower : index < later) (above below : List Nat) :
    path.Before ((path.child index).descend above) ((path.child later).descend below) := by
  refine ⟨index :: above, later :: below, ?_, ?_, .rel lower⟩
  · rw [descend_cons]
  · rw [descend_cons]

theorem below_child (path : Path) (index : Nat) (below : List Nat) :
    path.Before path ((path.child index).descend below) := by
  refine ⟨[], index :: below, ?_, ?_, .nil⟩
  · rw [descend_nil]
  · rw [descend_cons]

end Before

end Path

namespace Node

private theorem mem_visitsFrom_place {children : List Node} {index : Nat} {parent : Path}
    {visit : Visit}
    (member : visit ∈ gatherFrom (fun node path below => (⟨node, path⟩ : Visit) :: below) index
      children parent) :
    ∃ offset address, visit.path = (parent.child (index + offset)).descend address := by
  obtain ⟨offset, child, _, below⟩ := mem_visitsFrom.mp member
  obtain ⟨address, same, _⟩ := mem_visits.mp below
  exact ⟨offset, address, same⟩

private theorem visitsFrom_ordered {children : List Node}
    (each : ∀ child ∈ children, ∀ path : Path,
      (child.visits path).Pairwise fun earlier later => path.Before earlier.path later.path)
    (index : Nat) (parent : Path) :
    (gatherFrom (fun node path below => (⟨node, path⟩ : Visit) :: below) index children
      parent).Pairwise fun earlier later => parent.Before earlier.path later.path := by
  induction children generalizing index with
  | nil => exact .nil
  | cons child rest ih =>
    rw [gatherFrom, List.pairwise_append]
    refine ⟨?_, ih (fun other member => each other (by simp [member])) (index + 1), ?_⟩
    · exact (each child (by simp) (parent.child index)).imp .inside
    · intro earlier first later second
      obtain ⟨above, here, _⟩ := mem_visits.mp first
      obtain ⟨offset, below, there⟩ := mem_visitsFrom_place second
      rw [here, there]
      exact .siblings (by omega) above below

theorem visits_ordered (node : Node) (path : Path) :
    (node.visits path).Pairwise fun earlier later => path.Before earlier.path later.path := by
  induction node using Node.induct generalizing path with
  | step node ih =>
    rw [visits_eq, List.pairwise_cons]
    split
    · refine ⟨fun visit member => ?_, visitsFrom_ordered ih 0 path⟩
      obtain ⟨offset, address, same⟩ := mem_visitsFrom_place member
      rw [same]
      exact .below_child path (0 + offset) address
    · exact ⟨nofun, .nil⟩

end Node

namespace Path

private theorem toList_foldl_text (steps : List Step) (start : String) :
    (steps.foldl (fun text step => text ++ step.text) start).toList =
      start.toList ++ steps.flatMap (·.text.toList) := by
  induction steps generalizing start with
  | nil => simp
  | cons step rest ih =>
    rw [List.foldl_cons, ih, String.toList_append, List.flatMap_cons, List.append_assoc]

/-- A number in front of a bracket, and what comes behind the bracket, can be told. -/
theorem number_bracket_inj {number other : Nat} {rest others : List Char}
    (same : (toString number).toList ++ ']' :: rest = (toString other).toList ++ ']' :: others) :
    number = other ∧ rest = others := by
  have digits : ∀ (number : Nat) (rest : List Char),
      ((toString number).toList ++ ']' :: rest).takeWhile Char.isDigit =
        Nat.toDigits 10 number := by
    intro number rest
    have all : ∀ digit ∈ Nat.toDigits 10 number, digit.isDigit = true :=
      fun _ member => Nat.isDigit_of_mem_toDigits (by decide) (by decide) member
    rw [Nat.toString_eq_repr, Nat.toList_repr, List.takeWhile_append_of_pos all]
    simp
  have cut := congrArg (List.takeWhile Char.isDigit) same
  rw [digits, digits] at cut
  have read := congrArg (Nat.ofDigitChars 10 · 0) cut
  simp only [Nat.ofDigitChars_ten_toDigits] at read
  subst read
  exact ⟨rfl, (List.cons.inj (List.append_cancel_left same)).2⟩

private theorem child_text (index : Nat) :
    (Step.child index).text.toList = ".children[".toList ++ ((toString index).toList ++ [']']) := by
  simp [Step.text]

private theorem text_descend_inj {first second : List Nat}
    (same : (root.descend first).text = (root.descend second).text) : first = second := by
  have steps := congrArg String.toList same
  simp only [text, toList_foldl_text, descend, root, List.nil_append, List.flatMap_map,
    List.append_cancel_left_eq, child_text] at steps
  clear same
  induction first generalizing second with
  | nil =>
    cases second with
    | nil => rfl
    | cons _ _ => simp at steps
  | cons index rest ih =>
    cases second with
    | nil => simp at steps
    | cons other others =>
      simp only [List.flatMap_cons, List.append_assoc, List.singleton_append,
        List.append_cancel_left_eq] at steps
      obtain ⟨rfl, behind⟩ := number_bracket_inj steps
      rw [ih behind]

theorem Before.text_ne {first second : Path} (before : root.Before first second) :
    first.text ≠ second.text := by
  obtain ⟨above, below, rfl, rfl, lower⟩ := before
  intro same
  rw [text_descend_inj same] at lower
  exact List.lt_irrefl below lower

end Path

end PanelCompiler
