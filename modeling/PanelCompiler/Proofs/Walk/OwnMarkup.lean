import PanelCompiler.Proofs.Walk.Run

namespace PanelCompiler

/-- The element of a node of a known kind around its content. -/
def Markup.element (kind : Kind) (node : Node) (path : Path) (attributes : String)
    (content : Except CompileError String) : Except CompileError String :=
  match kind with
  | .text => (textContent node (path.field "props")).map (textElement attributes)
  | .image => (imageSource node (path.field "props")).map (imageElement attributes)
  | .page | .block | .component | .div =>
    if node.children.isEmpty then .ok (emptyElement attributes)
    else content.map (boxElement attributes)

namespace Node

mutual

def markup : Node → Path → Except CompileError String
  | node@⟨_, _, children, _, _, _, _, _, _⟩, path =>
    match node.kind? with
    | none => .ok ""
    | some kind => do
      let attributes ← Markup.propAttributes (path.field "props") node.props
      let element ← Markup.element kind node path (Markup.classAttribute node ++ attributes)
        (contentFrom 0 children path)
      Markup.withDirectives node path element

/-- What siblings leave in the markup around them. -/
def contentFrom (index : Nat) : List Node → Path → Except CompileError String
  | [], _ => .ok ""
  | child :: rest, parent => do
    let fragment ←
      if child.isContainer then .ok ""
      else (markup child (parent.child index)).map (Markup.embed child)
    let others ← contentFrom (index + 1) rest parent
    return fragment ++ others

end

/-- What a visited node leaves where it stands. -/
def fragment (node : Node) (path : Path) : Except CompileError String :=
  if node.isContainer then .ok "" else node.markup path

theorem markup_unknown {node : Node} (unknown : node.kind? = none) (path : Path) :
    node.markup path = .ok "" := by
  cases node
  rw [markup]
  simp [unknown]

theorem markup_known {node : Node} {kind : Kind} (known : node.kind? = some kind) (path : Path) :
    node.markup path = (do
      let attributes ← Markup.propAttributes (path.field "props") node.props
      let element ← Markup.element kind node path (Markup.classAttribute node ++ attributes)
        (contentFrom 0 node.children path)
      Markup.withDirectives node path element) := by
  cases node
  rw [markup]
  simp [known]

/-- A container leaves an empty fragment, which stays empty among its siblings. -/
theorem contentFrom_cons (index : Nat) (child : Node) (rest : List Node) (parent : Path) :
    contentFrom index (child :: rest) parent = (do
      let fragment ← child.fragment (parent.child index)
      (contentFrom (index + 1) rest parent).map (Markup.embed child fragment ++ ·)) := by
  have empty : Markup.embed child "" = "" := by simp [Markup.embed]
  rw [contentFrom, fragment]
  cases child.isContainer with
  | true =>
    cases contentFrom (index + 1) rest parent <;>
      simp [bind, Except.bind, pure, Except.pure, Except.map, empty]
  | false => cases child.markup (parent.child index) <;> rfl

theorem isContainer_known {node : Node} {kind : Kind} (known : node.kind? = some kind) :
    node.isContainer = kind.isContainer := by
  simp [isContainer, known]

theorem isContainer_unknown {node : Node} (unknown : node.kind? = none) :
    node.isContainer = false := by
  simp [isContainer, unknown]

end Node

namespace Walk

variable {α β : Type}

/-- A step that succeeds gives the expected value, whatever the context. -/
def Yields (walk : Walk α) (expected : Except CompileError α) : Prop :=
  ∀ context value final, walk.run context = (.ok value, final) → expected = .ok value

namespace Yields

theorem pure (value : α) : Yields (Pure.pure value) (.ok value) := by
  intro context given final success
  cases success
  rfl

theorem ofExcept (outcome : Except CompileError α) : Yields (ofExcept outcome) outcome := by
  intro context value final success
  rw [run_ofExcept] at success
  cases success
  rfl

theorem bind {walk : Walk α} {next : α → Walk β} {first : Except CompileError α}
    {rest : α → Except CompileError β} (head : Yields walk first)
    (tail : ∀ value, Yields (next value) (rest value)) :
    Yields (walk >>= next) (first >>= rest) := by
  intro context value final success
  obtain ⟨middleValue, middle, ran, remaining⟩ := run_bind_ok success
  rw [head context middleValue middle ran]
  exact tail middleValue middle value final remaining

theorem map {walk : Walk α} {expected : Except CompileError α} (head : Yields walk expected)
    (change : α → β) : Yields (do return change (← walk)) (expected.map change) := by
  intro context value final success
  obtain ⟨middleValue, middle, ran, remaining⟩ := run_bind_ok success
  rw [head context middleValue middle ran]
  exact Yields.pure (change middleValue) middle value final remaining

theorem met {body : Walk α} {expected : Except CompileError α} (yields : Yields body expected)
    (node : Node) : Yields (met node body) expected := by
  intro context value final success
  obtain ⟨middle, ran, _⟩ := met_ok success
  exact yields (context.enter node) value middle ran

end Yields

private theorem skipOrFail_yields (kindName : String) (path : Path) :
    Yields (skipOrFail kindName path) (.ok "") := by
  intro context value final success
  rw [run_skipOrFail] at success
  split at success <;> cases success
  rfl

private theorem emitContainer_yields (body : Walk String) (kind : Kind) (node : Node)
    (path : Path) : Yields (emitContainer body kind node path) (.ok "") := by
  intro context value final success
  obtain ⟨_, _, _, success⟩ := run_bind_ok success
  cases success
  rfl

private theorem renderElement_yields {children : Walk String} {content : Except CompileError String}
    (inner : Yields children content) (kind : Kind) (node : Node) (path : Path)
    (attributes : String) :
    Yields (renderElement kind node path attributes children)
      (Markup.element kind node path attributes content) := by
  have box : Yields (renderBox node attributes children)
      (if node.children.isEmpty then .ok (Markup.emptyElement attributes)
        else content.map (Markup.boxElement attributes)) := by
    unfold renderBox
    split
    · exact .pure _
    · exact inner.map _
  cases kind with
  | text => exact (Yields.ofExcept _).map _
  | image => exact (Yields.ofExcept _).map _
  | page => exact box
  | block => exact box
  | component => exact box
  | div => exact box

theorem renderKnown_yields {children : Walk String} {kind : Kind} {node : Node} {path : Path}
    (inner : Yields children (Node.contentFrom 0 node.children path))
    (known : node.kind? = some kind) :
    Yields (renderKnown children kind node path) (node.markup path) := by
  rw [Node.markup_known known]
  refine .bind (.ofExcept _) fun attributes => ?_
  exact .bind (renderElement_yields inner kind node path _) fun element => .ofExcept _

private theorem visitWith_yields {children : Walk String} {node : Node} {path : Path}
    (inner : Yields children (Node.contentFrom 0 node.children path)) :
    Yields (visitWith children node path) (node.fragment path) := by
  unfold Node.fragment
  cases known : node.kind? with
  | none =>
    rw [visitWith_unknown known, Node.isContainer_unknown known, Node.markup_unknown known]
    exact (skipOrFail_yields node.kindName path).met node
  | some kind =>
    rw [Node.isContainer_known known]
    cases container : kind.isContainer with
    | true =>
      rw [visitWith_container known container]
      exact (emitContainer_yields _ kind node path).met node
    | false =>
      rw [visitWith_inline known container]
      exact (renderKnown_yields inner known).met node

theorem transformFrom_yields {children : List Node}
    (visits : ∀ child ∈ children, ∀ path, Yields (transformNode child path) (child.fragment path))
    (index : Nat) (parent : Path) :
    Yields (transformFrom index children parent) (Node.contentFrom index children parent) := by
  induction children generalizing index with
  | nil => exact .pure ""
  | cons child rest ih =>
    have first := visits child (by simp) (parent.child index)
    have others := ih (fun other member => visits other (by simp [member])) (index + 1)
    rw [transformFrom, Node.contentFrom_cons]
    exact first.bind fun fragment => others.map (Markup.embed child fragment ++ ·)

/-- A visit that succeeds gives the fragment of its node. -/
theorem transformNode_yields (node : Node) (path : Path) :
    Yields (transformNode node path) (node.fragment path) := by
  induction node using Node.induct generalizing path with
  | step node ih =>
    rw [transformNode_eq]
    exact visitWith_yields (transformFrom_yields ih 0 path)

end Walk

end PanelCompiler
