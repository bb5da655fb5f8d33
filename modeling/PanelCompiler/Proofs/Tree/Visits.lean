import PanelCompiler.Schema.Node
import PanelCompiler.Schema.Path

/-!
Which nodes of a tree a walk visits: the root, and every child of a visited box. Texts, images and
nodes of unknown kinds are visited, but the nodes below them are not.
-/

namespace PanelCompiler

def Kind.isBox : Kind → Bool
  | .page | .block | .component | .div => true
  | .text | .image => false

namespace Node

/-- Whether the children of a node are walked. -/
def isBox (node : Node) : Bool :=
  match node.kind? with
  | some kind => kind.isBox
  | none => false

theorem isBox_unknown {node : Node} (unknown : node.kind? = none) : node.isBox = false := by
  simp [isBox, unknown]

theorem isBox_known {node : Node} {kind : Kind} (known : node.kind? = some kind) :
    node.isBox = kind.isBox := by
  simp [isBox, known]

mutual

private theorem induct_node {motive : Node → Prop}
    (step : ∀ node, (∀ child ∈ node.children, motive child) → motive node) : ∀ node, motive node
  | ⟨_, _, children, _, _, _, _, _, _⟩ => step _ (induct_children step children)

private theorem induct_children {motive : Node → Prop}
    (step : ∀ node, (∀ child ∈ node.children, motive child) → motive node) :
    ∀ (children : List Node), ∀ child ∈ children, motive child
  | [], _, member => nomatch member
  | first :: rest, child, member => by
    rcases List.mem_cons.mp member with same | later
    · exact same ▸ induct_node step first
    · exact induct_children step rest child later

end

/-- Induction on a tree: what passes from all children to their parent holds of every node. -/
theorem induct {motive : Node → Prop}
    (step : ∀ node, (∀ child ∈ node.children, motive child) → motive node) (node : Node) :
    motive node :=
  induct_node step node

section Gather

variable {X : Type}

mutual

/-- Gather a list over the visited nodes of a tree. What a node gives, `own` makes from the node,
its path and the lists of its walked children. -/
def gather (own : Node → Path → List X → List X) : Node → Path → List X
  | node@⟨_, _, children, _, _, _, _, _, _⟩, path =>
    own node path (if node.isBox then gatherFrom own 0 children path else [])

/-- Gather over siblings, the first of which is child `index` of the node at `parent`. -/
def gatherFrom (own : Node → Path → List X → List X) (index : Nat) : List Node → Path → List X
  | [], _ => []
  | child :: rest, parent =>
    gather own child (parent.child index) ++ gatherFrom own (index + 1) rest parent

end

theorem gather_eq (own : Node → Path → List X → List X) (node : Node) (path : Path) :
    node.gather own path =
      own node path (if node.isBox then gatherFrom own 0 node.children path else []) := by
  cases node
  rw [gather]

private theorem gatherFrom_path {own : Node → List X → List X} {children : List Node}
    (same : ∀ child ∈ children, ∀ first second : Path,
      child.gather (fun node _ => own node) first = child.gather (fun node _ => own node) second)
    (index : Nat) (first second : Path) :
    gatherFrom (fun node _ => own node) index children first =
      gatherFrom (fun node _ => own node) index children second := by
  induction children generalizing index with
  | nil => rfl
  | cons child rest ih =>
    rw [gatherFrom, gatherFrom, same child (by simp) (first.child index) (second.child index),
      ih (fun other member => same other (by simp [member]))]

/-- What takes no path from its nodes is the same wherever the tree stands. -/
theorem gather_path (own : Node → List X → List X) (node : Node) (first second : Path) :
    node.gather (fun node _ => own node) first = node.gather (fun node _ => own node) second := by
  induction node using Node.induct generalizing first second with
  | step node ih => rw [gather_eq, gather_eq, gatherFrom_path ih 0 first second]

section Change

variable {Y : Type} {own : Node → Path → List X → List X} {other : Node → Path → List Y → List Y}
  {change : List X → List Y}

private theorem change_gatherFrom (nil : change [] = [])
    (append : ∀ first rest, change (first ++ rest) = change first ++ change rest)
    {children : List Node}
    (gathered : ∀ child ∈ children, ∀ path, change (child.gather own path) =
      child.gather other path)
    (index : Nat) (parent : Path) :
    change (gatherFrom own index children parent) = gatherFrom other index children parent := by
  induction children generalizing index with
  | nil => exact nil
  | cons child rest ih =>
    have first := gathered child (by simp) (parent.child index)
    have others := ih (fun other member => gathered other (by simp [member])) (index + 1)
    rw [gatherFrom, gatherFrom, append, first, others]

/-- A change of lists that goes through what every node makes of them goes through the tree. -/
theorem change_gather (nil : change [] = [])
    (append : ∀ first rest, change (first ++ rest) = change first ++ change rest)
    (step : ∀ node path below, change (own node path below) = other node path (change below))
    (node : Node) (path : Path) : change (node.gather own path) = node.gather other path := by
  induction node using Node.induct generalizing path with
  | step node ih =>
    rw [gather_eq, gather_eq, step]
    congr 1
    split
    · exact change_gatherFrom nil append ih 0 path
    · exact nil

end Change

end Gather

end Node

/-- A visited node with its path. -/
structure Visit where
  node : Node
  path : Path

namespace Node

/-- The visited nodes of a tree, each before those below it. -/
def visits (node : Node) (path : Path) : List Visit :=
  node.gather (fun node path below => ⟨node, path⟩ :: below) path

/-- What is made of the visits one by one can be gathered over the tree. -/
theorem change_visits {X : Type} {change : List Visit → List X} (nil : change [] = [])
    (append : ∀ first rest, change (first ++ rest) = change first ++ change rest)
    (node : Node) (path : Path) :
    change (node.visits path) =
      node.gather (fun node path below => change [⟨node, path⟩] ++ below) path := by
  refine change_gather nil append (fun node path below => ?_) node path
  rw [← List.singleton_append, append]

end Node

end PanelCompiler
