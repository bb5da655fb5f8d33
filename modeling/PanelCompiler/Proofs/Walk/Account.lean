import PanelCompiler.Proofs.Walk.OwnMarkup

/-!
What a walk adds, kept node by node. A relation between steps and lists of additions that holds of
the plain steps, of a step after a step and of the three shapes of a visit holds of the walk over
any tree, with the additions gathered over its visited nodes.
-/

namespace PanelCompiler.Walk

variable {X : Type}

/-- `Adds items walk` says that `walk` adds `items`; a step after a step adds what both add. -/
structure Composes (Adds : {α : Type} → List X → Walk α → Prop) : Prop where
  pure {α : Type} (value : α) : Adds [] (pure value : Walk α)
  /-- A step that fails fits whatever was to be added. -/
  fail {α : Type} (error : CompileError) (items : List X) : Adds items (fail error : Walk α)
  bind {α β : Type} {first rest : List X} {walk : Walk α} {next : α → Walk β}
    (head : Adds first walk) (tail : ∀ value, Adds rest (next value)) :
    Adds (first ++ rest) (walk >>= next)

/-- Neither loading data nor reserving and filling a component adds anything. -/
structure Quiet (Adds : {α : Type} → List X → Walk α → Prop) : Prop extends Composes Adds where
  loads (path : Path) (index : Nat) (sources : List DataSource) :
    Adds [] (compileDataSources path index sources)
  reserve (kindName : String) : Adds [] (reserveComponent kindName)
  fill (slot : Nat) (source : String → String) : Adds [] (modify (·.fill slot source) : Walk Unit)

/-- What a visited node adds, `own` makes from what its walked children add. -/
structure Account (Adds : {α : Type} → List X → Walk α → Prop)
    (own : Node → Path → List X → List X) : Prop extends Composes Adds where
  unknown {node : Node} (path : Path) (unknown : node.kind? = none) :
    Adds (own node path []) (met node (skipOrFail node.kindName path))
  inline {node : Node} {path : Path} {kind : Kind} {body : Walk String} {items : List X}
    (known : node.kind? = some kind) (inline : kind.isContainer = false)
    (adds : Adds items body) : Adds (own node path items) (met node body)
  container {node : Node} {path : Path} {kind : Kind} {body : Walk String} {items : List X}
    (known : node.kind? = some kind) (container : kind.isContainer = true)
    (yields : Yields body (node.markup path)) (adds : Adds items body) :
    Adds (own node path items) (met node (emitContainer body kind node path))

variable {Adds : {α : Type} → List X → Walk α → Prop} {own : Node → Path → List X → List X}
  {α β : Type}

namespace Quiet

variable {items : List X} {body : Walk String}

theorem emitting (quiet : Quiet Adds) (adds : Adds items body) (kindName : String) :
    Adds items (emitting kindName body) := by
  have filled := fun slot => quiet.bind adds fun text =>
    quiet.fill slot (Markup.componentSource · text)
  have whole := quiet.bind (quiet.reserve kindName) filled
  rwa [List.append_nil, List.nil_append] at whole

/-- A container adds what its own rendering adds. -/
theorem emitContainer (quiet : Quiet Adds) (adds : Adds items body) (kind : Kind) (node : Node)
    (path : Path) : Adds items (emitContainer body kind node path) := by
  have loads := quiet.loads (path.field "dataSource") 0 node.dataSources
  have emitted := quiet.emitting (quiet.bind loads fun _ => adds) kind.displayName
  have whole := quiet.bind emitted fun _ => quiet.pure ""
  rwa [List.append_nil, List.nil_append] at whole

/-- A whole walk adds what the visit of the root adds. -/
theorem transformSchema (quiet : Quiet Adds) {schema : Node}
    (visit : Adds items (transformNode schema Path.root)) :
    Adds items (transformSchema schema) := by
  unfold Walk.transformSchema
  split
  · have whole := quiet.bind visit fun _ => quiet.pure ()
    rwa [List.append_nil] at whole
  · exact quiet.emitting visit ""

end Quiet

namespace Account

theorem ofExcept (account : Account Adds own) (outcome : Except CompileError α) :
    Adds [] (ofExcept outcome) := by
  cases outcome with
  | error error => exact account.fail error []
  | ok value => exact account.pure value

theorem map (account : Account Adds own) {items : List X} {walk : Walk α} (adds : Adds items walk)
    (change : α → β) : Adds items (do return change (← walk)) := by
  have joined := account.bind adds fun value => account.pure (change value)
  rwa [List.append_nil] at joined

private theorem renderElement (account : Account Adds own) {children : Walk String} {items : List X}
    {node : Node} (kind : Kind) (inner : Adds items children)
    (none : node.children = [] → items = []) (path : Path) (attributes : String) :
    Adds (if kind.isBox then items else [])
      (renderElement kind node path attributes children) := by
  have box : Adds items (renderBox node attributes children) := by
    unfold renderBox
    split
    · rename_i empty
      rw [none (List.isEmpty_iff.mp empty)]
      exact account.pure _
    · exact account.map inner _
  cases kind with
  | text => exact account.map (account.ofExcept _) _
  | image => exact account.map (account.ofExcept _) _
  | page => exact box
  | block => exact box
  | component => exact box
  | div => exact box

theorem renderKnown (account : Account Adds own) {children : Walk String} {items : List X}
    {node : Node} (kind : Kind) (inner : Adds items children)
    (none : node.children = [] → items = []) (path : Path) :
    Adds (if kind.isBox then items else []) (renderKnown children kind node path) := by
  have element := fun attributes => account.bind
    (account.renderElement kind inner none path (Markup.classAttribute node ++ attributes))
    fun element => account.ofExcept (Markup.withDirectives node path element)
  have whole := account.bind
    (account.ofExcept (Markup.propAttributes (path.field "props") node.props)) element
  rwa [List.nil_append, List.append_nil] at whole

/-- A visit adds what its node makes of the additions of the children, if these are walked. -/
theorem visitWith (account : Account Adds own) {children : Walk String} {items : List X}
    {node : Node} {path : Path} (inner : Adds items children)
    (yields : Yields children (Node.contentFrom 0 node.children path))
    (none : node.children = [] → items = []) :
    Adds (own node path (if node.isBox then items else [])) (visitWith children node path) := by
  cases known : node.kind? with
  | none =>
    rw [visitWith_unknown known, Node.isBox_unknown known]
    exact account.unknown path known
  | some kind =>
    rw [Node.isBox_known known]
    have body := account.renderKnown kind inner none path
    cases container : kind.isContainer with
    | true =>
      rw [visitWith_container known container]
      exact account.container known container (renderKnown_yields yields known) body
    | false =>
      rw [visitWith_inline known container]
      exact account.inline known container body

theorem transformFrom (account : Account Adds own) {children : List Node}
    (visits : ∀ child ∈ children, ∀ path,
      Adds (child.gather own path) (transformNode child path)) (index : Nat) (parent : Path) :
    Adds (Node.gatherFrom own index children parent) (transformFrom index children parent) := by
  induction children generalizing index with
  | nil => exact account.pure ""
  | cons child rest ih =>
    have first := visits child (by simp) (parent.child index)
    have others := ih (fun other member => visits other (by simp [member])) (index + 1)
    rw [Walk.transformFrom, Node.gatherFrom]
    exact account.bind first fun fragment => account.map others (Markup.embed child fragment ++ ·)

/-- The walk over a tree adds what its visited nodes add. -/
theorem transformNode (account : Account Adds own) (node : Node) (path : Path) :
    Adds (node.gather own path) (transformNode node path) := by
  induction node using Node.induct generalizing path with
  | step node ih =>
    rw [transformNode_eq, Node.gather_eq]
    refine account.visitWith (account.transformFrom ih 0 path) ?_ ?_
    · exact transformFrom_yields (fun child _ path => transformNode_yields child path) 0 path
    · intro empty
      rw [empty, Node.gatherFrom]

end Account

end PanelCompiler.Walk
