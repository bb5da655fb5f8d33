import Mathlib.Data.List.Induction
import PanelCompiler.Proofs.Tree.Visits

namespace PanelCompiler

/-- The path of the node at an address below `path`. -/
def Path.descend (path : Path) (address : List Nat) : Path :=
  ⟨path.steps ++ address.map .child⟩

theorem Path.descend_nil (path : Path) : path.descend [] = path := by
  simp [descend]

theorem Path.descend_cons (path : Path) (index : Nat) (rest : List Nat) :
    path.descend (index :: rest) = (path.child index).descend rest := by
  simp [descend, child]

theorem Path.descend_inj {path : Path} {first second : List Nat}
    (same : path.descend first = path.descend second) : first = second := by
  have steps := congrArg Path.steps same
  simp only [descend, List.append_cancel_left_eq] at steps
  exact (List.map_inj_right fun _ _ equal => by injection equal).mp steps

namespace Node

def at? (node : Node) : List Nat → Option Node
  | [] => some node
  | index :: rest =>
    match node.children[index]? with
    | some child => child.at? rest
    | none => none

theorem at?_append {root : Node} (above below : List Nat) :
    root.at? (above ++ below) = (root.at? above).bind (·.at? below) := by
  induction above generalizing root with
  | nil => rfl
  | cons index rest ih =>
    simp only [List.cons_append, at?]
    cases root.children[index]? with
    | none => rfl
    | some child => exact ih

theorem at?_child {root node : Node} {above : List Nat} {index : Nat}
    (found : root.at? (above ++ [index]) = some node) :
    ∃ parent, root.at? above = some parent ∧ parent.children[index]? = some node := by
  rw [at?_append] at found
  obtain ⟨parent, present, found⟩ := Option.bind_eq_some_iff.mp found
  refine ⟨parent, present, ?_⟩
  simp only [at?] at found
  split at found
  · rename_i child below
    cases found
    exact below
  · cases found

/-- Visited are the root and every child of a visited box. -/
inductive Visited (root : Node) : List Nat → Node → Prop
  | root : Visited root [] root
  | child {above : List Nat} {parent child : Node} {index : Nat}
      (visited : Visited root above parent) (box : parent.isBox = true)
      (found : parent.children[index]? = some child) :
      Visited root (above ++ [index]) child

namespace Visited

variable {root node : Node} {address : List Nat}

theorem at? (visited : Visited root address node) : root.at? address = some node := by
  induction visited with
  | root => rfl
  | child visited box found ih =>
    rw [at?_append, ih]
    simp [Node.at?, found]

theorem from_child {child : Node} {index : Nat} (box : root.isBox = true)
    (found : root.children[index]? = some child) (visited : Visited child address node) :
    Visited root (index :: address) node := by
  induction visited with
  | root => exact .child .root box found
  | child _ inner deeper ih => exact .child ih inner deeper

theorem cons_inv {index : Nat} (visited : Visited root (index :: address) node) :
    root.isBox = true ∧
      ∃ child, root.children[index]? = some child ∧ Visited child address node := by
  generalize same : index :: address = whole at visited
  induction visited generalizing address with
  | root => cases same
  | @child above parent child last visited box found ih =>
    cases above with
    | nil =>
      cases visited.at?
      cases same
      exact ⟨box, child, found, .root⟩
    | cons first rest =>
      cases same
      obtain ⟨rootBox, top, foundTop, reached⟩ := ih rfl
      exact ⟨rootBox, top, foundTop, .child reached box found⟩

/-- Every node strictly above a visited one is a visited box. -/
theorem above {above : List Nat} (visited : Visited root address node)
    (prefixed : above <+: address) (strict : above ≠ address) :
    ∃ box, Visited root above box ∧ box.isBox = true := by
  induction visited with
  | root => exact absurd (List.prefix_nil.mp prefixed) strict
  | @child upper parent child index visited box found ih =>
    rcases List.prefix_concat_iff.mp prefixed with same | higher
    · exact absurd same strict
    · by_cases same : above = upper
      · exact ⟨parent, same ▸ visited, box⟩
      · exact ih higher same

/-- On the way to one address, the walk stops at one node only. -/
theorem stop_unique {first second : Node} {above other : List Nat}
    (visited : Visited root above first) (stops : first.isBox = false)
    (prefixed : above <+: address) (otherVisited : Visited root other second)
    (otherStops : second.isBox = false) (otherPrefixed : other <+: address) : first = second := by
  by_cases same : above = other
  · subst same
    exact Option.some.inj (visited.at?.symm.trans otherVisited.at?)
  · -- One of the two stands strictly above the other and must be a box.
    rcases List.prefix_or_prefix_of_prefix prefixed otherPrefixed with higher | lower
    · obtain ⟨box, reached, isBox⟩ := otherVisited.above higher same
      cases visited.at?.symm.trans reached.at?
      rw [stops] at isBox
      cases isBox
    · obtain ⟨box, reached, isBox⟩ := visited.above lower (Ne.symm same)
      cases otherVisited.at?.symm.trans reached.at?
      rw [otherStops] at isBox
      cases isBox

end Visited

/-- A node of the tree is visited, unless the walk stops somewhere above it. -/
theorem visited_or_stopped {root node : Node} {address : List Nat}
    (found : root.at? address = some node) :
    Visited root address node ∨ ∃ above stop, above <+: address ∧ above ≠ address ∧
      Visited root above stop ∧ stop.isBox = false := by
  induction address using List.reverseRecOn generalizing node with
  | nil =>
    cases found
    exact .inl .root
  | append_singleton upper index ih =>
    obtain ⟨parent, present, found⟩ := at?_child found
    rcases ih present with visited | ⟨above, stop, prefixed, strict, visited, stops⟩
    · cases box : parent.isBox with
      | true => exact .inl (.child visited box found)
      | false =>
        exact .inr ⟨upper, parent, List.prefix_append upper [index], by simp, visited, box⟩
    · have longer := prefixed.trans (List.prefix_append upper [index])
      refine .inr ⟨above, stop, longer, ?_, visited, stops⟩
      intro same
      have shorter := prefixed.length_le
      rw [same, List.length_append, List.length_singleton] at shorter
      omega

theorem visits_eq (node : Node) (path : Path) :
    node.visits path = ⟨node, path⟩ :: if node.isBox then
      gatherFrom (fun node path below => ⟨node, path⟩ :: below) 0 node.children path else [] :=
  gather_eq _ node path

theorem mem_visitsFrom {children : List Node} {index : Nat} {parent : Path}
    {visit : Visit} :
    visit ∈ gatherFrom (fun node path below => ⟨node, path⟩ :: below) index children parent ↔
      ∃ (offset : Nat) (child : Node), children[offset]? = some child ∧
        visit ∈ child.visits (parent.child (index + offset)) := by
  induction children generalizing index with
  | nil => simp [gatherFrom]
  | cons first rest ih =>
    rw [gatherFrom, List.mem_append, ih]
    constructor
    · rintro (here | ⟨offset, child, found, later⟩)
      · exact ⟨0, first, rfl, here⟩
      · refine ⟨offset + 1, child, found, ?_⟩
        rwa [Nat.add_assoc, Nat.add_comm 1] at later
    · rintro ⟨_ | offset, child, found, member⟩
      · cases found
        exact .inl member
      · refine .inr ⟨offset, child, found, ?_⟩
        rwa [Nat.add_assoc, Nat.add_comm 1]

/-- The list of visits holds the visited nodes under the paths of their addresses. -/
theorem mem_visits {root node : Node} {path location : Path} :
    ⟨node, location⟩ ∈ root.visits path ↔
      ∃ address, location = path.descend address ∧ Visited root address node := by
  induction root using Node.induct generalizing path with
  | step root ih =>
    rw [visits_eq, List.mem_cons]
    constructor
    · rintro (here | below)
      · cases here
        exact ⟨[], (Path.descend_nil _).symm, .root⟩
      · split at below
        · rename_i box
          obtain ⟨offset, child, found, below⟩ := mem_visitsFrom.mp below
          obtain ⟨address, same, visited⟩ := (ih child (List.mem_of_getElem? found)).mp below
          refine ⟨offset :: address, ?_, .from_child box found visited⟩
          rw [same, Path.descend_cons, Nat.zero_add]
        · cases below
    · rintro ⟨_ | ⟨index, rest⟩, same, visited⟩
      · cases visited.at?
        exact .inl (by rw [same, Path.descend_nil])
      · obtain ⟨box, child, found, visited⟩ := visited.cons_inv
        rw [if_pos box]
        refine .inr (mem_visitsFrom.mpr ⟨index, child, found, ?_⟩)
        refine (ih child (List.mem_of_getElem? found)).mpr ⟨rest, ?_, visited⟩
        rw [same, Path.descend_cons, Nat.zero_add]

end Node

end PanelCompiler
