import Mathlib.Data.List.Forall2
import PanelCompiler.Proofs.Walk.Account

namespace PanelCompiler

def Node.kindLabel (node : Node) : String :=
  match node.kind? with
  | some kind => kind.displayName
  | none => ""

/-- The component of a visited node: the first has the root's name, the others kind and number. -/
structure Visit.Builds (rootName : String) (visit : Visit) (slot : Nat) (component : Component) :
    Prop where
  name : component.name =
    if slot = 0 then rootName else rootName ++ visit.node.kindLabel ++ toString slot
  source : ∃ markup, visit.node.markup visit.path = .ok markup ∧
    component.source = Markup.componentSource component.name markup

/-- The visits whose nodes become components: the root and all containers. -/
def Node.componentVisits (schema : Node) : List Visit :=
  (if schema.isContainer then [] else [⟨schema, Path.root⟩]) ++
    (schema.visits Path.root).filter (·.node.isContainer)

theorem Markup.componentSource_ne_empty (name render : String) :
    Markup.componentSource name render ≠ "" := by
  simp [Markup.componentSource]

namespace Walk

variable {α β : Type}

/-- Components for visited nodes, in their order, the first of them at `slot`. -/
def Built (rootName : String) (slot : Nat) (visits : List Visit) (components : List Component) :
    Prop :=
  List.Forall₂ (fun entry component => entry.1.Builds rootName entry.2 component)
    (visits.zipIdx slot) components

theorem Built.length {rootName : String} {slot : Nat} {visits : List Visit}
    {components : List Component} (built : Built rootName slot visits components) :
    components.length = visits.length := by
  rw [← built.length_eq, List.length_zipIdx]

theorem Built.append {rootName : String} {slot : Nat} {first rest : List Visit}
    {made others : List Component} (head : Built rootName slot first made)
    (tail : Built rootName (slot + made.length) rest others) :
    Built rootName slot (first ++ rest) (made ++ others) := by
  rw [head.length] at tail
  unfold Built
  rw [List.zipIdx_append]
  exact List.rel_append head tail

/-- A step that succeeds adds the components of these visits behind those it finds. -/
def AddsComponents (visits : List Visit) (walk : Walk α) : Prop :=
  ∀ context value final, walk.run context = (.ok value, final) →
    final.rootName = context.rootName ∧
      ∃ components, final.components = context.components ++ components ∧
        Built context.rootName context.components.length visits components

/-- Filling a reserved slot completes its component; those behind it stay. -/
theorem fill_reserved {context middle : Context} {components : List Component} (kindName : String)
    (source : String → String)
    (kept : middle.components = (context.reserve kindName).components ++ components) :
    (middle.fill context.components.length source).components = context.components ++
      ⟨context.nextName kindName, source (context.nextName kindName)⟩ :: components := by
  simp only [Context.fill, kept, Context.reserve]
  rw [List.modify_eq_take_cons_drop (by simp)]
  simp

theorem nextName_eq (context : Context) (kindName : String) :
    context.nextName kindName =
      if context.components.length = 0 then context.rootName
      else context.rootName ++ kindName ++ toString context.components.length := by
  simp [Context.nextName, List.isEmpty_iff]

/-- A component that is reserved, rendered and filled comes before those made by its rendering. -/
theorem built_of_reserved {context middle : Context} {visits : List Visit}
    {components : List Component} {node : Node} {path : Path} {kindName text : String}
    (named : context.components.length = 0 ∨ node.kindLabel = kindName)
    (rendered : node.markup path = .ok text)
    (kept : middle.components = (context.reserve kindName).components ++ components)
    (built : Built context.rootName (context.components.length + 1) visits components) :
    ∃ made, (middle.fill context.components.length (Markup.componentSource · text)).components =
        context.components ++ made ∧
      Built context.rootName context.components.length (⟨node, path⟩ :: visits) made := by
  refine ⟨_, fill_reserved kindName _ kept, .cons ⟨?_, text, rendered, rfl⟩ built⟩
  rw [nextName_eq]
  rcases named with first | labelled
  · simp [first]
  · simp [labelled]

namespace AddsComponents

variable {visits : List Visit} {node : Node} {path : Path} {kind : Kind} {body : Walk String}

theorem pure (value : α) : AddsComponents [] (Pure.pure value : Walk α) := by
  intro context given final success
  cases success
  exact ⟨rfl, [], (List.append_nil _).symm, .nil⟩

theorem bind {first rest : List Visit} {walk : Walk α} {next : α → Walk β}
    (head : AddsComponents first walk) (tail : ∀ value, AddsComponents rest (next value)) :
    AddsComponents (first ++ rest) (walk >>= next) := by
  intro context value final success
  obtain ⟨middleValue, middle, ran, success⟩ := run_bind_ok success
  obtain ⟨sameRoot, made, added, built⟩ := head context middleValue middle ran
  obtain ⟨lastRoot, others, rest, builtRest⟩ := tail middleValue middle value final success
  refine ⟨lastRoot.trans sameRoot, made ++ others, ?_, built.append ?_⟩
  · rw [rest, added, List.append_assoc]
  · rwa [sameRoot, added, List.length_append] at builtRest

theorem met (adds : AddsComponents visits body) : AddsComponents visits (met node body) := by
  intro context value final success
  obtain ⟨middle, ran, left⟩ := met_ok success
  subst left
  exact adds (context.enter node) value middle ran

theorem skipOrFail (kindName : String) (path : Path) :
    AddsComponents [] (skipOrFail kindName path) := by
  intro context value final success
  rw [run_skipOrFail] at success
  split at success <;> cases success
  exact ⟨rfl, [], (List.append_nil _).symm, .nil⟩

theorem emitContainer (known : node.kind? = some kind) (yields : Yields body (node.markup path))
    (adds : AddsComponents visits body) :
    AddsComponents (⟨node, path⟩ :: visits) (emitContainer body kind node path) := by
  intro context value final success
  obtain ⟨imports, methods, text, middle, ran, filled⟩ := emitContainer_ok success
  obtain ⟨sameRoot, made, added, built⟩ := adds _ text middle ran
  have labelled : node.kindLabel = kind.displayName := by simp [Node.kindLabel, known]
  subst filled
  refine ⟨sameRoot, built_of_reserved (.inr labelled) (yields _ text middle ran) added ?_⟩
  simpa [loaded, Context.reserve] using built

end AddsComponents

private theorem account_components :
    Account AddsComponents fun node path below =>
      [(⟨node, path⟩ : Visit)].filter (·.node.isContainer) ++ below where
  pure := .pure
  fail _ _ _ _ _ success := by cases success
  bind := .bind
  unknown path unknown := by
    simpa [Node.isContainer_unknown unknown] using (AddsComponents.skipOrFail _ path).met
  inline known inline adds := by
    simpa [Node.isContainer_known known, inline] using adds.met
  container known container yields adds := by
    simpa [Node.isContainer_known known, container] using (adds.emitContainer known yields).met

/-- The walk over a tree adds one component for every container that it visits. -/
theorem transformNode_components (node : Node) (path : Path) :
    AddsComponents ((node.visits path).filter (·.node.isContainer)) (transformNode node path) := by
  rw [Node.change_visits List.filter_nil List.filter_append]
  exact account_components.transformNode node path

theorem transformSchema_inline {schema : Node} (inline : schema.isContainer = false) :
    transformSchema schema = emitting "" (transformNode schema Path.root) := by
  simp [transformSchema, inline, emitting]

theorem transformSchema_container {schema : Node} (container : schema.isContainer = true) :
    transformSchema schema = (do let _ ← transformNode schema Path.root) := by
  simp [transformSchema, container]

private theorem Built.source_ne_empty {rootName : String} {slot : Nat} {visits : List Visit}
    {components : List Component} (built : Built rootName slot visits components) :
    ∀ component ∈ components, component.source ≠ "" := by
  unfold Built at built
  generalize visits.zipIdx slot = entries at built
  induction built with
  | nil => simp
  | cons builds _ ih =>
    intro component member
    rcases List.mem_cons.mp member with same | later
    · obtain ⟨markup, _, source⟩ := builds.source
      rw [same, source]
      exact Markup.componentSource_ne_empty _ _
    · exact ih component later

/-- A walk that succeeds from a context without components leaves exactly those of the root and of
the visited containers, and none of them without source. -/
theorem transformSchema_components {schema : Node} {context final : Context}
    (bare : context.components = [])
    (success : (transformSchema schema).run context = (.ok (), final)) :
    Built context.rootName 0 schema.componentVisits final.components ∧
      ∀ component ∈ final.components, component.source ≠ "" := by
  have built : Built context.rootName 0 schema.componentVisits final.components := by
    unfold Node.componentVisits
    cases container : schema.isContainer with
    | true =>
      rw [transformSchema_container container] at success
      obtain ⟨_, middle, ran, ended⟩ := run_bind_ok success
      cases ended
      obtain ⟨_, made, added, built⟩ := transformNode_components schema Path.root context _ _ ran
      simpa [added, bare] using built
    | false =>
      rw [transformSchema_inline container] at success
      obtain ⟨text, middle, ran, filled⟩ := emitting_ok success
      obtain ⟨_, made, added, built⟩ := transformNode_components schema Path.root _ _ _ ran
      have rendered := transformNode_yields schema Path.root _ _ _ ran
      simp only [Node.fragment, container, Bool.false_eq_true, if_false] at rendered
      obtain ⟨all, complete, builtAll⟩ := built_of_reserved (.inl (by simp [bare])) rendered added
        (by simpa [Context.reserve] using built)
      rw [filled, complete, bare]
      simpa [bare] using builtAll
  exact ⟨built, built.source_ne_empty⟩

/-- A root that is no container stands in front of a page and of the block inside it. The text of
the root keeps its condition and the image of the page its loop, each in the component around it. -/
theorem transformSchema_components_wrapped :
    let image := { Node.ofKind "Image" with loop := some (.string "\x7b\x7b rows \x7d\x7d") }
    let text := { Node.ofKind "Text" with
      props := [("text", .string "Hello")], condition := some (.bool true) }
    let schema := { Node.ofKind "Div" with children :=
      [{ Node.ofKind "Page" with children := [Node.ofKind "Block", image] }, text,
        Node.ofKind "Video"] }
    let context := { Context.fresh "Home" with skipUnsupported := true }
    ∃ final, (transformSchema schema).run context = (.ok (), final) ∧
      final.components = [
        ⟨"Home", Markup.componentSource "Home"
          "<div>\x7btrue && <span>Hello</span>\x7d</div>"⟩,
        ⟨"HomePage1", Markup.componentSource "HomePage1"
          ("<div>\x7brows.map((item:any, index:number) => \x7b\n" ++
            " return (<img key=\x7bindex\x7d src=\x7bnull\x7d alt='' />);\n\x7d)\x7d</div>")⟩,
        ⟨"HomeBlock2", Markup.componentSource "HomeBlock2" "<div />"⟩] ∧
      Built "Home" 0 schema.componentVisits final.components ∧
      ∀ component ∈ final.components, component.source ≠ "" := by
  intro image text schema context
  have success : (transformSchema schema).run context = (.ok (), _) := run_eq_ok (by decide +kernel)
  exact ⟨_, success, by decide +kernel, transformSchema_components rfl success⟩

end Walk

end PanelCompiler
