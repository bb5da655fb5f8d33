import PanelCompiler.Proofs.Tree.Visits
import PanelCompiler.Walk.Transform

/-!
How a step of the walk runs, and the three shapes of a visit: a node of an unknown kind, a node
whose markup stays where it is, and a container. Every statement about whole walks is drawn from
these shapes.
-/

namespace PanelCompiler.Walk

variable {α β : Type}

theorem run_pure (value : α) (context : Context) :
    (pure value : Walk α).run context = (.ok value, context) := rfl

theorem run_modify (change : Context → Context) (context : Context) :
    (modify change : Walk Unit).run context = (.ok (), change context) := rfl

/-- Where a walk can be run, it need only be seen what it gives. -/
theorem run_eq_ok {walk : Walk α} {context : Context} {value : α}
    (gives : (walk.run context).1.toOption = some value) :
    walk.run context = (.ok value, (walk.run context).2) := by
  rcases ran : walk.run context with ⟨_ | made, final⟩
  · rw [ran] at gives
    cases gives
  · rw [ran] at gives
    cases gives
    rfl

theorem run_bind (walk : Walk α) (next : α → Walk β) (context : Context) :
    (walk >>= next).run context =
      match walk.run context with
      | (.ok value, middle) => (next value).run middle
      | (.error error, middle) => (.error error, middle) := by
  rw [ExceptT.run_bind]
  rcases ran : walk.run context with ⟨_ | _, _⟩
  · simp [bind, StateT.bind, ran]
    rfl
  · simp [bind, StateT.bind, ran]

theorem run_bind_ok {walk : Walk α} {next : α → Walk β} {context final : Context} {value : β}
    (success : (walk >>= next).run context = (.ok value, final)) :
    ∃ first middle, walk.run context = (.ok first, middle) ∧
      (next first).run middle = (.ok value, final) := by
  rw [run_bind] at success
  rcases ran : walk.run context with ⟨_ | first, middle⟩
  · rw [ran] at success
    cases success
  · rw [ran] at success
    exact ⟨first, middle, rfl, success⟩

theorem run_bind_error {walk : Walk α} {next : α → Walk β} {context final : Context}
    {error : CompileError} (failure : (walk >>= next).run context = (.error error, final)) :
    walk.run context = (.error error, final) ∨
      ∃ first middle, walk.run context = (.ok first, middle) ∧
        (next first).run middle = (.error error, final) := by
  rw [run_bind] at failure
  rcases ran : walk.run context with ⟨fault | first, middle⟩
  · rw [ran] at failure
    cases failure
    exact .inl rfl
  · rw [ran] at failure
    exact .inr ⟨first, middle, rfl, failure⟩

theorem run_ofExcept (outcome : Except CompileError α) (context : Context) :
    (ofExcept outcome).run context = (outcome, context) := by
  cases outcome <;> rfl

theorem run_skipOrFail (kindName : String) (path : Path) (context : Context) :
    (skipOrFail kindName path).run context =
      if context.skipUnsupported then (.ok "", context.skip path kindName)
      else (.error (.unsupportedKind kindName path), context) := by
  have unfolded : (skipOrFail kindName path).run context =
      (if context.skipUnsupported then do
          modify (·.skip path kindName)
          return ""
        else fail (.unsupportedKind kindName path) : Walk String).run context := rfl
  rw [unfolded]
  split <;> rfl

def loaded (context : Context) (imports methods : List String) : Context :=
  { context with imports := imports, dataMethods := methods }

theorem addImport_eq (context : Context) (line : String) :
    context.addImport line = loaded context
      (if line ∈ context.imports then context.imports else context.imports ++ [line])
      context.dataMethods := by
  unfold Context.addImport
  split <;> rfl

/-- Loading data touches nothing but import lines and methods, even when it fails. -/
theorem compileDataSources_frame (path : Path) (index : Nat) (sources : List DataSource)
    (context : Context) :
    ∃ imports methods, ((compileDataSources path index sources).run context).2 =
      loaded context imports methods := by
  induction sources generalizing index context with
  | nil => exact ⟨_, _, rfl⟩
  | cons source rest ih =>
    simp only [compileDataSources, DataSource.compile, run_bind, run_modify, run_ofExcept,
      addImport_eq]
    cases source.methodSource (path.field (toString index)) with
    | error fault => exact ⟨_, _, rfl⟩
    | ok method =>
      exact ih (index + 1) ((loaded context _ context.dataMethods).addDataMethod method)

def met (node : Node) (body : Walk α) : Walk α := do
  modify (·.enter node)
  let value ← body
  modify (·.leave node)
  return value

/-- A component whose slot is reserved before its render section is made. -/
def emitting (kindName : String) (render : Walk String) : Walk Unit := do
  let slot ← reserveComponent kindName
  let text ← render
  modify (·.fill slot (Markup.componentSource · text))

/-- The markup of a node of a known kind. -/
def renderKnown (children : Walk String) (kind : Kind) (node : Node) (path : Path) :
    Walk String := do
  let attributes ← ofExcept (Markup.propAttributes (path.field "props") node.props)
  let element ← renderElement kind node path (Markup.classAttribute node ++ attributes) children
  ofExcept (Markup.withDirectives node path element)

def emitContainer (body : Walk String) (kind : Kind) (node : Node) (path : Path) :
    Walk String := do
  emitting kind.displayName do
    compileDataSources (path.field "dataSource") 0 node.dataSources
    body
  return ""

theorem run_met (node : Node) (body : Walk α) (context : Context) :
    (met node body).run context =
      match body.run (context.enter node) with
      | (.ok value, middle) => (.ok value, middle.leave node)
      | (.error error, middle) => (.error error, middle) := by
  unfold met
  rw [run_bind, run_modify]
  dsimp only
  rw [run_bind]
  rcases body.run (context.enter node) with ⟨_ | _, _⟩ <;> rfl

theorem met_ok {node : Node} {body : Walk α} {context final : Context} {value : α}
    (success : (met node body).run context = (.ok value, final)) :
    ∃ middle, body.run (context.enter node) = (.ok value, middle) ∧ final = middle.leave node := by
  rw [run_met] at success
  rcases ran : body.run (context.enter node) with ⟨_ | made, middle⟩
  · rw [ran] at success
    cases success
  · rw [ran] at success
    cases success
    exact ⟨middle, rfl, rfl⟩

theorem met_error {node : Node} {body : Walk α} {context final : Context} {error : CompileError}
    (failure : (met node body).run context = (.error error, final)) :
    body.run (context.enter node) = (.error error, final) := by
  rw [run_met] at failure
  rcases ran : body.run (context.enter node) with ⟨fault | made, middle⟩
  · rw [ran] at failure
    cases failure
    rfl
  · rw [ran] at failure
    cases failure

theorem emitting_ok {kindName : String} {render : Walk String} {context final : Context}
    {value : Unit} (success : (emitting kindName render).run context = (.ok value, final)) :
    ∃ text middle, render.run (context.reserve kindName) = (.ok text, middle) ∧
      final = middle.fill context.components.length (Markup.componentSource · text) := by
  obtain ⟨slot, reserved, reserving, success⟩ := run_bind_ok success
  obtain ⟨text, middle, ran, filling⟩ := run_bind_ok success
  cases reserving
  cases filling
  exact ⟨text, middle, ran, rfl⟩

/-- The slot is reserved before the render section is made, and filled unless that fails. -/
theorem run_emitting (kindName : String) (render : Walk String) (context : Context) :
    (emitting kindName render).run context =
      match render.run (context.reserve kindName) with
      | (.ok text, middle) =>
        (.ok (), middle.fill context.components.length (Markup.componentSource · text))
      | (.error error, middle) => (.error error, middle) := by
  have reserved : (reserveComponent kindName).run context =
      (.ok context.components.length, context.reserve kindName) := rfl
  unfold emitting
  rw [run_bind, reserved]
  dsimp only
  rw [run_bind]
  rcases render.run (context.reserve kindName) with ⟨_ | _, _⟩ <;> rfl

/-- A container that succeeds has reserved its component, loaded its data, rendered itself and
filled the component. -/
theorem emitContainer_ok {body : Walk String} {kind : Kind} {node : Node} {path : Path}
    {context final : Context} {value : String}
    (success : (emitContainer body kind node path).run context = (.ok value, final)) :
    ∃ imports methods text middle,
      body.run (loaded (context.reserve kind.displayName) imports methods) = (.ok text, middle) ∧
      final = middle.fill context.components.length (Markup.componentSource · text) := by
  obtain ⟨_, _, emitted, success⟩ := run_bind_ok success
  cases success
  obtain ⟨text, middle, ran, filled⟩ := emitting_ok emitted
  obtain ⟨_, loaded, loading, ran⟩ := run_bind_ok ran
  obtain ⟨imports, methods, frame⟩ := compileDataSources_frame (path.field "dataSource") 0
    node.dataSources (context.reserve kind.displayName)
  rw [loading] at frame
  cases frame
  exact ⟨imports, methods, text, middle, ran, filled⟩

section Shapes

variable {children : Walk String} {kind : Kind} {node : Node} {path : Path}

private theorem markupWith_unknown (unknown : node.kind? = none) :
    markupWith children node path = skipOrFail node.kindName path := by
  simp [markupWith, renderWith, unknown]

theorem markupWith_known (known : node.kind? = some kind) :
    markupWith children node path = renderKnown children kind node path := by
  simp [markupWith, renderWith, renderKnown, known]

theorem visitWith_unknown (unknown : node.kind? = none) :
    visitWith children node path = met node (skipOrFail node.kindName path) := by
  simp only [visitWith, fragmentWith, unknown, markupWith_unknown unknown, met]

theorem visitWith_inline (known : node.kind? = some kind) (inline : kind.isContainer = false) :
    visitWith children node path = met node (renderKnown children kind node path) := by
  simp [visitWith, fragmentWith, known, inline, markupWith_known known, met]

theorem visitWith_container (known : node.kind? = some kind) (container : kind.isContainer = true) :
    visitWith children node path =
      met node (emitContainer (renderKnown children kind node path) kind node path) := by
  simp [visitWith, fragmentWith, known, container, emitComponent, markupWith_known known, met,
    emitContainer, emitting]

theorem transformNode_eq (node : Node) (path : Path) :
    transformNode node path = visitWith (transformFrom 0 node.children path) node path := by
  cases node
  rw [transformNode]

end Shapes

end PanelCompiler.Walk
