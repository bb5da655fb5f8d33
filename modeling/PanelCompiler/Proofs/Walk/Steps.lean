import PanelCompiler.Proofs.Walk.Account

/-!
Relations between the context that a step finds and the one that it leaves, whether it succeeds or
fails. Where one such relation holds of every single change and of one change after another, it
holds of every step of a walk, up to the component that is filled at the end.
-/

namespace PanelCompiler.Walk

/-- Whatever comes of a step, the context it leaves is related to the one it found. -/
def Moves (R : Context → Context → Prop) {α : Type} (walk : Walk α) : Prop :=
  ∀ context, R context (walk.run context).2

/-- A relation that the changes of a walk keep, but for reserving and filling a component. -/
structure Kept (R : Context → Context → Prop) : Prop where
  refl (context : Context) : R context context
  trans {first middle last : Context} : R first middle → R middle last → R first last
  enter (context : Context) (node : Node) : R context (context.enter node)
  leave (context : Context) (node : Node) : R context (context.leave node)
  skip (context : Context) (path : Path) (kindName : String) :
    R context (context.skip path kindName)
  addImport (context : Context) (line : String) : R context (context.addImport line)
  addDataMethod (context : Context) (method : String) : R context (context.addDataMethod method)

namespace Kept

variable {R : Context → Context → Prop} {α β : Type} {walk : Walk α} {next : α → Walk β}
  {render : Walk String}

theorem pure (kept : Kept R) (value : α) : Moves R (Pure.pure value : Walk α) :=
  kept.refl

theorem ofExcept (kept : Kept R) (outcome : Except CompileError α) :
    Moves R (ofExcept outcome) := by
  intro context
  rw [run_ofExcept]
  exact kept.refl context

theorem fail (kept : Kept R) (error : CompileError) : Moves R (fail error : Walk α) :=
  kept.ofExcept (.error error)

theorem bind (kept : Kept R) (head : Moves R walk) (tail : ∀ value, Moves R (next value)) :
    Moves R (walk >>= next) := by
  intro context
  have moved := head context
  rw [run_bind]
  rcases ran : walk.run context with ⟨_ | value, middle⟩
  · rwa [ran] at moved
  · rw [ran] at moved
    exact kept.trans moved (tail value middle)

theorem met (kept : Kept R) (moves : Moves R walk) (node : Node) : Moves R (met node walk) := by
  intro context
  have entered := kept.trans (kept.enter context node) (moves (context.enter node))
  rw [run_met]
  rcases ran : walk.run (context.enter node) with ⟨_ | value, middle⟩
  · rwa [ran] at entered
  · rw [ran] at entered
    exact kept.trans entered (kept.leave middle node)

theorem skipOrFail (kept : Kept R) (kindName : String) (path : Path) :
    Moves R (skipOrFail kindName path) := by
  intro context
  rw [run_skipOrFail]
  split
  · exact kept.skip context path kindName
  · exact kept.refl context

theorem compileDataSources (kept : Kept R) (path : Path) (index : Nat)
    (sources : List DataSource) : Moves R (compileDataSources path index sources) := by
  induction sources generalizing index with
  | nil => exact kept.pure ()
  | cons source rest ih =>
    have register : Moves R (modify (·.addImport source.transport.importLine)) :=
      fun context => kept.addImport context _
    have load : Moves R (source.compile (path.field (toString index))) :=
      kept.bind register fun _ => kept.ofExcept _
    have add : ∀ method, Moves R (modify (·.addDataMethod method)) :=
      fun method context => kept.addDataMethod context method
    exact kept.bind load fun method => kept.bind (add method) fun _ => ih (index + 1)

theorem emitting (kept : Kept R) {kindName : String} (moves : Moves R render)
    (reserve : ∀ context : Context, R context (context.reserve kindName))
    (fill : ∀ (context : Context) text middle,
      render.run (context.reserve kindName) = (.ok text, middle) → R context middle →
        R context (middle.fill context.components.length (Markup.componentSource · text))) :
    Moves R (emitting kindName render) := by
  intro context
  have rendered := kept.trans (reserve context) (moves (context.reserve kindName))
  rw [run_emitting]
  rcases ran : render.run (context.reserve kindName) with ⟨_ | text, middle⟩
  · rwa [ran] at rendered
  · rw [ran] at rendered
    exact fill context text middle ran rendered

/-- A container loads its data before its render section is made. -/
theorem loading (kept : Kept R) (moves : Moves R render) (node : Node) (path : Path) :
    Moves R (do
      Walk.compileDataSources (path.field "dataSource") 0 node.dataSources
      render) :=
  kept.bind (kept.compileDataSources _ 0 node.dataSources) fun _ => moves

/-- What hangs on the components and on the root's name alone. -/
theorem of_components {P : Context → Prop}
    (congr : ∀ {before after : Context}, after.rootName = before.rootName →
      after.components = before.components → P before → P after) :
    Kept fun before after => P before → P after where
  refl _ := id
  trans first second := second ∘ first
  enter _ _ := congr rfl rfl
  leave _ _ := congr rfl rfl
  skip _ _ _ := congr rfl rfl
  addImport context line := by
    rw [addImport_eq]
    exact congr rfl rfl
  addDataMethod _ _ := congr rfl rfl

section Walks

variable (kept : Kept R)
  (emits : ∀ (kind : Kind) (render : Walk String), Moves R render →
    Moves R (Walk.emitting kind.displayName render))

include kept emits

/-- Nothing is counted here: what every visit keeps, a walk over any tree keeps. -/
theorem account : Account (fun (_ : List Unit) walk => Moves R walk) fun _ _ below => below where
  pure := kept.pure
  fail error _ := kept.fail error
  bind := kept.bind
  unknown path _ := kept.met (kept.skipOrFail _ path) _
  inline _ _ moves := kept.met moves _
  container {node path kind _ _} _ _ _ moves :=
    have emitted := emits kind _ (kept.loading moves node path)
    kept.met (kept.bind emitted fun _ => kept.pure "") node

theorem transformNode (node : Node) (path : Path) : Moves R (Walk.transformNode node path) :=
  (kept.account emits).transformNode node path

theorem transformChildren (children : List Node) (parent : Path) :
    Moves R (Walk.transformChildren children parent) :=
  (kept.account emits).transformFrom (fun child _ => kept.transformNode emits child) 0 parent

end Walks

/-- A root that is no container is put into a component of its own. -/
theorem transformSchema (kept : Kept R) {schema : Node}
    (visit : Moves R (Walk.transformNode schema Path.root))
    (wrap : schema.isContainer = false →
      Moves R (Walk.emitting "" (Walk.transformNode schema Path.root))) :
    Moves R (Walk.transformSchema schema) := by
  unfold Walk.transformSchema
  split
  · exact kept.bind visit fun _ => kept.pure ()
  · rename_i inline
    exact wrap (Bool.eq_false_iff.mpr inline)

end Kept

end PanelCompiler.Walk
