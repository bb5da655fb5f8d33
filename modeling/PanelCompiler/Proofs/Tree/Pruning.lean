import PanelCompiler.Proofs.Tree.Address

namespace PanelCompiler.Node

def isKnown (node : Node) : Bool :=
  node.kind?.isSome

mutual

/-- The tree without the nodes of unknown kinds among the children of visited nodes. The children
of texts and images are not visited themselves, so what stands below them stays. -/
def prune : Node → Node
  | node@⟨kindName, props, children, style, loop, loopArgs, condition, dataSource, rootName⟩ =>
    ⟨kindName, props, if node.isBox then pruneAll children else children.filter isKnown, style,
      loop, loopArgs, condition, dataSource, rootName⟩

def pruneAll : List Node → List Node
  | [] => []
  | child :: rest => if child.isKnown then prune child :: pruneAll rest else pruneAll rest

end

def prunedChildren (node : Node) : List Node :=
  if node.isBox then pruneAll node.children else node.children.filter isKnown

theorem prune_eq (node : Node) : node.prune = { node with children := node.prunedChildren } := by
  cases node
  rw [prune]
  rfl

private theorem pruneAll_eq (children : List Node) :
    pruneAll children = (children.filter isKnown).map prune := by
  induction children with
  | nil => rfl
  | cons child rest ih =>
    cases known : child.isKnown with
    | true => simp [pruneAll, known, ih]
    | false => simp [pruneAll, known, ih]

/-- A box that keeps a child is as empty as before. -/
theorem prunedChildren_isEmpty {node : Node} (box : node.isBox = true)
    (keeps : node.children ≠ [] → ∃ child ∈ node.children, child.isKnown = true) :
    node.prunedChildren.isEmpty = node.children.isEmpty := by
  rw [prunedChildren, if_pos box, pruneAll_eq]
  by_cases none : node.children = []
  · rw [none]
    rfl
  · obtain ⟨child, member, known⟩ := keeps none
    have kept : child ∈ node.children.filter isKnown := List.mem_filter.mpr ⟨member, known⟩
    rw [List.isEmpty_map, List.isEmpty_eq_false_iff.mpr none,
      List.isEmpty_eq_false_iff.mpr (List.ne_nil_of_mem kept)]

theorem forall_visits {motive : Node → Prop} {root : Node} {path : Path} :
    (∀ visit ∈ root.visits path, motive visit.node) ↔
      ∀ address node, root.Visited address node → motive node := by
  constructor
  · intro all address node visited
    exact all ⟨node, path.descend address⟩ (mem_visits.mpr ⟨address, rfl, visited⟩)
  · rintro all ⟨node, location⟩ member
    obtain ⟨address, -, visited⟩ := mem_visits.mp member
    exact all address node visited

/-- What holds of every node visited from a box holds of those visited from its children. -/
theorem Visited.forall_child {motive : Node → Prop} {root child : Node} (box : root.isBox = true)
    (member : child ∈ root.children)
    (all : ∀ address node, root.Visited address node → motive node) :
    ∀ address node, child.Visited address node → motive node := by
  intro address node visited
  obtain ⟨index, found⟩ := List.getElem?_of_mem member
  exact all (index :: address) node (visited.from_child box found)

end PanelCompiler.Node
