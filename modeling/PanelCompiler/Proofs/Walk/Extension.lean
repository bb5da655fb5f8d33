import PanelCompiler.Proofs.Distinct
import PanelCompiler.Proofs.Walk.Steps

namespace PanelCompiler

/-- The later context holds whatever the earlier one holds, at the same places and with the same
settings. -/
structure Context.Extends (before after : Context) : Prop where
  components : before.components <+: after.components
  dataMethods : before.dataMethods <+: after.dataMethods
  skipped : before.skipped <+: after.skipped
  imports : before.imports <+: after.imports
  /-- No line is imported twice, if none was before. -/
  distinct : before.imports.Nodup → after.imports.Nodup
  classNames : before.styles.classNames <+: after.styles.classNames
  utils : after.utils = before.utils
  rootName : after.rootName = before.rootName
  setting : after.skipUnsupported = before.skipUnsupported

namespace Context.Extends

variable {before middle after : Context}

theorem refl (context : Context) : context.Extends context :=
  ⟨List.prefix_rfl, List.prefix_rfl, List.prefix_rfl, List.prefix_rfl, id, List.prefix_rfl, rfl,
    rfl, rfl⟩

theorem trans (first : before.Extends middle) (second : middle.Extends after) :
    before.Extends after where
  components := first.components.trans second.components
  dataMethods := first.dataMethods.trans second.dataMethods
  skipped := first.skipped.trans second.skipped
  imports := first.imports.trans second.imports
  distinct := second.distinct ∘ first.distinct
  classNames := first.classNames.trans second.classNames
  utils := second.utils.trans first.utils
  rootName := second.rootName.trans first.rootName
  setting := second.setting.trans first.setting

theorem enter (context : Context) (node : Node) : context.Extends (context.enter node) := by
  refine { refl context with classNames := ?_ }
  unfold Context.enter
  cases node.className? with
  | none => exact List.prefix_rfl
  | some className =>
    dsimp only
    rw [StyleRegistry.classNames_register]
    exact prefix_addOnce context.styles.classNames className

theorem leave (context : Context) (node : Node) : context.Extends (context.leave node) :=
  { refl context with }

theorem skip (context : Context) (path : Path) (kindName : String) :
    context.Extends (context.skip path kindName) :=
  { refl context with skipped := List.prefix_append _ _ }

private theorem addDataMethod (context : Context) (method : String) :
    context.Extends (context.addDataMethod method) :=
  { refl context with dataMethods := List.prefix_append _ _ }

theorem addImport (context : Context) (line : String) :
    context.Extends (context.addImport line) := by
  rw [Walk.addImport_eq]
  exact { refl context with
    imports := prefix_addOnce context.imports line
    distinct := (nodup_addOnce · line) }

theorem reserve (context : Context) (kindName : String) :
    context.Extends (context.reserve kindName) :=
  { refl context with components := List.prefix_append _ _ }

theorem fill (extended : before.Extends after) {slot : Nat}
    (behind : before.components.length ≤ slot) (source : String → String) :
    before.Extends (after.fill slot source) := by
  refine { extended with components := ?_ }
  rw [List.prefix_iff_eq_take, Context.fill, List.take_modify]
  have untouched : (after.components.take before.components.length).length ≤ slot :=
    Nat.le_trans (List.length_take_le _ _) behind
  rw [List.modify_eq_self untouched]
  exact List.prefix_iff_eq_take.mp extended.components

end Context.Extends

namespace Walk

theorem kept_extends : Kept Context.Extends where
  refl := .refl
  trans := .trans
  enter := .enter
  leave := .leave
  skip := .skip
  addImport := .addImport
  addDataMethod := .addDataMethod

/-- A component is filled in the slot that was reserved for it, so behind all old ones. -/
theorem emitting_extends {render : Walk String} (moves : Moves Context.Extends render)
    (kindName : String) : Moves Context.Extends (emitting kindName render) :=
  kept_extends.emitting moves (.reserve · kindName) fun _ _ _ _ extended =>
    extended.fill (Nat.le_refl _) _

theorem transformNode_extends (node : Node) (path : Path) :
    Moves Context.Extends (transformNode node path) :=
  kept_extends.transformNode (fun kind _ moves => emitting_extends moves kind.displayName) node path

private theorem transformChildren_extends (children : List Node) (parent : Path) :
    Moves Context.Extends (transformChildren children parent) :=
  kept_extends.transformChildren (fun kind _ moves => emitting_extends moves kind.displayName)
    children parent

theorem transformSchema_extends (schema : Node) :
    Moves Context.Extends (transformSchema schema) :=
  have visit := transformNode_extends schema Path.root
  kept_extends.transformSchema visit fun _ => emitting_extends visit ""

/-- Whatever tree is walked in a context, and whether the walk succeeds or fails, the context is
only extended. -/
theorem walk_extends_context :
    (∀ node path, Moves Context.Extends (transformNode node path)) ∧
      (∀ children parent, Moves Context.Extends (transformChildren children parent)) ∧
      ∀ schema, Moves Context.Extends (transformSchema schema) :=
  ⟨transformNode_extends, transformChildren_extends, transformSchema_extends⟩

end Walk

end PanelCompiler
