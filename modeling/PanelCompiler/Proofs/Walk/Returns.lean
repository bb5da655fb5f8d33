import PanelCompiler.Proofs.Text.Trim
import PanelCompiler.Proofs.Tree.Pruning
import PanelCompiler.Proofs.Walk.Components
import PanelCompiler.Proofs.Walk.OpeningTag

namespace PanelCompiler

theorem exists_match {α β : Type} {R : α → β → Prop} {first : List α} {second : List β}
    (matched : List.Forall₂ R first second) {item : α} (member : item ∈ first) :
    ∃ other ∈ second, R item other := by
  induction matched with
  | nil => cases member
  | @cons _ other _ _ related _ ih =>
    rcases List.mem_cons.mp member with rfl | later
    · exact ⟨other, List.mem_cons_self, related⟩
    · obtain ⟨other, within, related⟩ := ih later
      exact ⟨other, List.mem_cons_of_mem _ within, related⟩

namespace Text

/-- A text shows something: it is not blank all over. -/
def IsShown (text : String) : Prop :=
  ∃ c ∈ text.toList, isBlank c = false

theorem trimmed_ne_empty_iff {text : String} : trimmed text ≠ "" ↔ IsShown text := by
  have empty : trimmed text = "" ↔ trim text.toList = [] := by
    rw [trimmed, ← String.toList_inj, String.toList_ofList, String.toList_empty]
  rw [Ne, empty, IsShown]
  constructor
  · intro something
    by_contra nothing
    refine something (trim_eq_nil fun c member => ?_)
    by_contra shown
    exact nothing ⟨c, member, Bool.eq_false_iff.mpr shown⟩
  · rintro ⟨c, member, shown⟩ nothing
    rw [blank_of_trim nothing c member] at shown
    cases shown

end Text

/-- What a component returns: between the parentheses of its definition stands something. -/
def Component.Returns (component : Component) : Prop :=
  ∃ render, component.source = Markup.componentSource component.name render ∧
    Text.trimmed render ≠ ""

namespace Markup

open Text (IsShown)

variable {node : Node} {path : Path} {kind : Kind} {attributes fragment made : String}

theorem componentSource_inj {name first second : String}
    (same : componentSource name first = componentSource name second) : first = second := by
  simpa [componentSource, ← String.toList_inj] using same

private theorem element_shown {content : Except CompileError String}
    (success : element kind node path attributes content = .ok made) : IsShown made := by
  obtain ⟨fixed, behind, -, whole, -⟩ := element_text success
  obtain ⟨name, begins⟩ := kind.tagStart_begins
  exact ⟨'<', by simp [whole, begins], by decide⟩

theorem within_condition (success : withCondition node path fragment = .ok made) :
    fragment.toList <:+: made.toList := by
  unfold withCondition at success
  cases condition : node.condition with
  | none =>
    rw [condition] at success
    cases success
    exact List.infix_rfl
  | some value =>
    rw [condition] at success
    obtain ⟨guard, -, success⟩ := bind_eq_ok success
    cases success
    exact ⟨(guard ++ " && ").toList, [], by simp⟩

/-- The directives leave something to see around a fragment that shows something. -/
theorem withDirectives_shown (shown : IsShown fragment)
    (success : withDirectives node path fragment = .ok made) : IsShown made := by
  obtain ⟨looped, wrapped, success⟩ := bind_eq_ok success
  have within : IsShown looped := by
    unfold withLoop at wrapped
    cases loop : node.loop with
    | none =>
      rw [loop] at wrapped
      cases wrapped
      exact shown
    | some source =>
      rw [loop] at wrapped
      obtain ⟨text, opening, rest, -, -, rfl⟩ := Directive.wrapLoop_eq_ok wrapped
      exact ⟨'.', by simp [Directive.loopAround, Directive.loopText], by decide⟩
  obtain ⟨c, member, shown⟩ := within
  exact ⟨c, (within_condition success).subset member, shown⟩

end Markup

private theorem Node.isKnown_of_container {node : Node} (container : node.isContainer = true) :
    node.isKnown = true := by
  cases known : node.kind? with
  | some kind => simp [isKnown, known]
  | none => simp [isContainer_unknown known] at container

private theorem Node.markup_shown {node : Node} {path : Path} {kind : Kind} {markup : String}
    (known : node.kind? = some kind) (rendered : node.markup path = .ok markup) :
    Text.IsShown markup := by
  rw [Node.markup_known known] at rendered
  obtain ⟨attributes, -, rendered⟩ := bind_eq_ok rendered
  obtain ⟨element, made, rendered⟩ := bind_eq_ok rendered
  exact Markup.withDirectives_shown (Markup.element_shown made) rendered

section Returns

variable {component : Component} {visit : Visit} {markup : String}

private theorem Component.returns_iff (source : component.source =
    Markup.componentSource component.name markup) : component.Returns ↔ Text.IsShown markup := by
  rw [← Text.trimmed_ne_empty_iff]
  constructor
  · rintro ⟨render, same, shown⟩
    rwa [Markup.componentSource_inj (source.symm.trans same)]
  · exact fun shown => ⟨markup, source, shown⟩

/-- A component holds what a visited node is rendered to. -/
def Visit.Renders (visit : Visit) (component : Component) : Prop :=
  ∃ markup, visit.node.markup visit.path = .ok markup ∧
    component.source = Markup.componentSource component.name markup

/-- A component returns something exactly if the kind of the node that it renders is known. -/
theorem Visit.Renders.returns_iff (renders : visit.Renders component) :
    component.Returns ↔ visit.node.isKnown = true := by
  obtain ⟨markup, rendered, source⟩ := renders
  rw [Component.returns_iff source, Node.isKnown]
  cases known : visit.node.kind? with
  | some kind => exact iff_of_true (Node.markup_shown known rendered) rfl
  | none =>
    rw [Node.markup_unknown known] at rendered
    cases rendered
    refine iff_of_false ?_ nofun
    rintro ⟨c, member, -⟩
    cases member

/-- Of the nodes that become components, the root alone can be of an unknown kind. -/
theorem Node.componentVisits_known_iff (schema : Node) :
    (∀ visit ∈ schema.componentVisits, visit.node.isKnown = true) ↔ schema.isKnown = true := by
  have containers : ∀ visit ∈ (schema.visits Path.root).filter (·.node.isContainer),
      visit.node.isKnown = true := fun visit member =>
    Node.isKnown_of_container (List.mem_filter.mp member).2
  unfold Node.componentVisits
  cases container : schema.isContainer with
  | true => exact iff_of_true containers (Node.isKnown_of_container container)
  | false =>
    rw [if_neg Bool.false_ne_true, List.singleton_append, List.forall_mem_cons]
    exact and_iff_left containers

end Returns

namespace Walk

variable {schema : Node} {context final : Context}

/-- Every component that is built holds what its visit is rendered to. -/
theorem Built.renders {rootName : String} {slot : Nat} {visits : List Visit}
    {components : List Component} (built : Built rootName slot visits components) :
    List.Forall₂ Visit.Renders visits components := by
  induction visits generalizing slot components with
  | nil =>
    cases built
    exact .nil
  | cons visit rest ih =>
    rw [Built, List.zipIdx_cons] at built
    cases built with
    | cons builds later => exact .cons builds.source (ih later)

/-- A walk that succeeds adds one component for the root and for every container, with what that
node is rendered to. -/
theorem transformSchema_renders (success : (transformSchema schema).run context = (.ok (), final)) :
    ∃ added, final.components = context.components ++ added ∧
      List.Forall₂ Visit.Renders schema.componentVisits added := by
  unfold Node.componentVisits
  cases container : schema.isContainer with
  | true =>
    rw [transformSchema_container container] at success
    obtain ⟨_, middle, ran, ended⟩ := run_bind_ok success
    cases ended
    obtain ⟨-, made, added, built⟩ := transformNode_components schema Path.root context _ _ ran
    exact ⟨made, added, built.renders⟩
  | false =>
    rw [transformSchema_inline container] at success
    obtain ⟨text, middle, ran, rfl⟩ := emitting_ok success
    obtain ⟨-, made, added, built⟩ := transformNode_components schema Path.root _ _ _ ran
    have rendered := transformNode_yields schema Path.root _ _ _ ran
    rw [Node.fragment, container, if_neg Bool.false_ne_true] at rendered
    exact ⟨_, fill_reserved "" _ added, .cons ⟨text, rendered, rfl⟩ built.renders⟩

private theorem isKnown_of_strict (strict : context.skipUnsupported = false)
    (success : (transformSchema schema).run context = (.ok (), final)) :
    schema.isKnown = true := by
  cases known : schema.kind? with
  | some kind => simp [Node.isKnown, known]
  | none =>
    rw [transformSchema_inline (Node.isContainer_unknown known)] at success
    obtain ⟨text, middle, ran, -⟩ := emitting_ok success
    rw [transformNode_eq, visitWith_unknown known] at ran
    obtain ⟨last, ran, -⟩ := met_ok ran
    rw [run_skipOrFail] at ran
    simp only [Context.enter, Context.reserve, strict, Bool.false_eq_true, if_false] at ran
    cases ran

/-- A walk that succeeds adds components that are defined by what they return, and all of them
return something exactly if the kind of the root is known; in strict mode it always is. -/
theorem all_return_iff (success : (transformSchema schema).run context = (.ok (), final)) :
    ∃ added, final.components = context.components ++ added ∧
      (∀ component ∈ added, ∃ render,
        component.source = Markup.componentSource component.name render) ∧
      ((∀ component ∈ added, component.Returns) ↔ schema.isKnown = true) ∧
      (context.skipUnsupported = false → ∀ component ∈ added, component.Returns) := by
  obtain ⟨added, all, renders⟩ := transformSchema_renders success
  have defined : ∀ component ∈ added, ∃ render,
      component.source = Markup.componentSource component.name render := by
    intro component member
    obtain ⟨visit, -, markup, -, source⟩ := exists_match renders.flip member
    exact ⟨markup, source⟩
  have returns : (∀ component ∈ added, component.Returns) ↔ schema.isKnown = true := by
    rw [← schema.componentVisits_known_iff]
    constructor
    · intro returns visit member
      obtain ⟨component, added, renders⟩ := exists_match renders member
      exact renders.returns_iff.mp (returns component added)
    · intro known component member
      obtain ⟨visit, visited, renders⟩ := exists_match renders.flip member
      exact (Visit.Renders.returns_iff renders).mpr (known visit visited)
  exact ⟨added, all, defined, returns, fun strict => returns.mpr (isKnown_of_strict strict success)⟩

/-- A block and a node that is skipped, in a box: the box and the block return something. -/
theorem all_return_iff_wrapped :
    let schema := { Node.ofKind "Div" with children := [Node.ofKind "Block", Node.ofKind "Video"] }
    let context := { Context.fresh "Home" with skipUnsupported := true }
    ∃ final, (transformSchema schema).run context = (.ok (), final) ∧
      final.components.map (·.name) = ["Home", "HomeBlock1"] ∧
      ∀ component ∈ final.components, component.Returns := by
  intro schema context
  have success : (transformSchema schema).run context = (.ok (), _) := run_eq_ok (by decide +kernel)
  obtain ⟨added, all, -, returns, -⟩ := all_return_iff success
  refine ⟨_, success, by decide +kernel, ?_⟩
  rw [all]
  exact returns.mpr (by decide +kernel)

/-- A root of an unknown kind is skipped, and the component around it returns nothing. -/
theorem skipped_root_returns_nothing :
    let context := { Context.fresh "Home" with skipUnsupported := true }
    ∃ final, (transformSchema (Node.ofKind "Video")).run context = (.ok (), final) ∧
      final.components = [⟨"Home", Markup.componentSource "Home" ""⟩] ∧
      ¬ ∀ component ∈ final.components, component.Returns := by
  intro context
  have success : (transformSchema (Node.ofKind "Video")).run context = (.ok (), _) :=
    run_eq_ok (by decide +kernel)
  have made : ((transformSchema (Node.ofKind "Video")).run context).2.components =
      [⟨"Home", Markup.componentSource "Home" ""⟩] := by decide +kernel
  refine ⟨_, success, made, fun returns => ?_⟩
  rw [made] at returns
  obtain ⟨render, same, shown⟩ := returns _ List.mem_cons_self
  rw [← Markup.componentSource_inj same] at shown
  exact shown (by decide)

end Walk

end PanelCompiler
