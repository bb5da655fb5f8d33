import Mathlib.Data.List.Induction
import PanelCompiler.Proofs.Distinct
import PanelCompiler.Proofs.Stylesheet.Forest
import PanelCompiler.Proofs.Walk.Nesting

namespace PanelCompiler

namespace StyleRegistry

def registerAll (registry : StyleRegistry) (entries : List (String × Fields)) : StyleRegistry :=
  entries.foldl (fun registry entry => registry.register entry.1 entry.2) registry

theorem registerAll_append (registry : StyleRegistry) (first rest : List (String × Fields)) :
    registry.registerAll (first ++ rest) = (registry.registerAll first).registerAll rest :=
  List.foldl_append

private theorem registerAll_concat (registry : StyleRegistry) (entries : List (String × Fields))
    (className : String) (style : Fields) :
    registry.registerAll (entries ++ [(className, style)]) =
      (registry.registerAll entries).register className style :=
  registerAll_append registry entries [(className, style)]

theorem classNames_registerAll (entries : List (String × Fields)) :
    (empty.registerAll entries).classNames = (entries.map (·.1)).eraseDups := by
  rw [← foldl_addOnce, List.foldl_map]
  refine (List.foldl_hom classNames fun registry entry => ?_).symm
  exact (classNames_register registry entry.1 entry.2).symm

/-- A class has the style with which it was last registered, or else the one that it had. -/
theorem get?_registerAll_onto (registry : StyleRegistry) (entries : List (String × Fields))
    (className : String) : (registry.registerAll entries).get? className =
      (entries.reverse.lookup className).or (registry.get? className) := by
  induction entries using List.reverseRecOn with
  | nil => rfl
  | append_singleton entries entry ih =>
    obtain ⟨name, style⟩ := entry
    rw [registerAll_concat, get?_register, ih, List.reverse_append, List.reverse_singleton,
      List.singleton_append, lookup_cons]
    split <;> rfl

theorem get?_registerAll (entries : List (String × Fields)) (className : String) :
    (empty.registerAll entries).get? className = entries.reverse.lookup className := by
  rw [get?_registerAll_onto]
  exact Option.or_none

theorem get?_of_mem {registry : StyleRegistry} {className : String}
    (registered : className ∈ registry.classNames) :
    ∃ style, registry.get? className = some style := by
  obtain ⟨entry, member, same⟩ := List.mem_map.mp registered
  refine Option.ne_none_iff_exists'.mp fun absent => ?_
  have different := List.lookup_eq_none_iff.mp absent entry member
  simp [same] at different

end StyleRegistry

/-- What a visited node registers, if it has a class. -/
def Visit.styled? (visit : Visit) : Option (String × Fields) :=
  visit.node.className?.map fun className => (className, visit.node.classStyle)

/-- The style of the last visited node of a class. -/
def Node.lastStyle? (schema : Node) (className : String) : Option Fields :=
  ((schema.visits Path.root).reverse.find? fun visit => visit.node.className? == some className).map
    (·.node.classStyle)

theorem Visit.names_styled (visits : List Visit) :
    (visits.filterMap Visit.styled?).map (·.1) = visits.filterMap (·.node.className?) := by
  induction visits with
  | nil => rfl
  | cons visit rest ih =>
    cases classed : visit.node.className? with
    | none => simpa [Visit.styled?, classed] using ih
    | some className => simpa [Visit.styled?, classed] using ih

private theorem Visit.lookup_styled (visits : List Visit) (className : String) :
    (visits.filterMap Visit.styled?).lookup className =
      (visits.find? fun visit => visit.node.className? == some className).map
        (·.node.classStyle) := by
  induction visits with
  | nil => rfl
  | cons visit rest ih =>
    cases classed : visit.node.className? with
    | none => simpa [Visit.styled?, classed] using ih
    | some name =>
      by_cases same : className = name
      · subst same
        simp [Visit.styled?, classed]
      · have apart : name ≠ className := Ne.symm same
        simpa [Visit.styled?, classed, StyleRegistry.lookup_cons, same, apart] using ih

/-- The last style of a class is that with which it was last registered. -/
theorem Node.lastStyle?_eq (schema : Node) (className : String) :
    schema.lastStyle? className =
      ((schema.visits Path.root).filterMap Visit.styled?).reverse.lookup className := by
  rw [← List.filterMap_reverse, Visit.lookup_styled]
  rfl

/-- The blocks of a tree are of the classes of its visited nodes, in the order of the visits. -/
theorem Node.classNames_ruleBlocks (node : Node) :
    RuleBlock.classNames node.ruleBlocks =
      (node.visits Path.root).filterMap (·.node.className?) := by
  rw [Node.change_visits List.filterMap_nil fun _ _ => List.filterMap_append]
  refine Node.change_gather rfl RuleBlock.classNames_append (fun node path inside => ?_) node
    Path.root
  unfold Node.aroundBlocks
  cases classed : node.className? with
  | none => simp [classed]
  | some className => simp [classed, RuleBlock.classNames_single]

namespace Walk

variable {α β : Type}

/-- A step that succeeds registers these styles one after another. -/
def Registers (entries : List (String × Fields)) (walk : Walk α) : Prop :=
  ∀ context value final, walk.run context = (.ok value, final) →
    final.styles = context.styles.registerAll entries

namespace Registers

variable {entries : List (String × Fields)} {body : Walk String}

theorem of_same {walk : Walk α}
    (same : ∀ context, (walk.run context).2.styles = context.styles) : Registers [] walk := by
  intro context value final success
  have kept := same context
  rwa [success] at kept

theorem pure (value : α) : Registers [] (Pure.pure value : Walk α) :=
  of_same fun _ => rfl

theorem bind {first rest : List (String × Fields)} {walk : Walk α} {next : α → Walk β}
    (head : Registers first walk) (tail : ∀ value, Registers rest (next value)) :
    Registers (first ++ rest) (walk >>= next) := by
  intro context value final success
  obtain ⟨middleValue, middle, ran, success⟩ := run_bind_ok success
  rw [StyleRegistry.registerAll_append, ← head context middleValue middle ran]
  exact tail middleValue middle value final success

/-- A node is registered when it is met, so before the nodes below it. -/
theorem met (registers : Registers entries body) (node : Node) (path : Path) :
    Registers ([(⟨node, path⟩ : Visit)].filterMap Visit.styled? ++ entries) (met node body) := by
  intro context value final success
  obtain ⟨middle, ran, left⟩ := met_ok success
  have inside := registers (context.enter node) value middle ran
  subst left
  change middle.styles = _
  rw [inside, StyleRegistry.registerAll_append]
  cases classed : node.className? with
  | none => simp [Context.enter, Visit.styled?, classed, StyleRegistry.registerAll]
  | some className => simp [Context.enter, Visit.styled?, classed, StyleRegistry.registerAll]

theorem skipOrFail (kindName : String) (path : Path) :
    Registers [] (skipOrFail kindName path) := by
  apply of_same
  intro context
  rw [run_skipOrFail]
  split <;> rfl

theorem compileDataSources (path : Path) (index : Nat) (sources : List DataSource) :
    Registers [] (compileDataSources path index sources) := by
  apply of_same
  intro context
  obtain ⟨imports, methods, frame⟩ := compileDataSources_frame path index sources context
  rw [frame]
  rfl

end Registers

theorem quiet_registers : Quiet Registers where
  pure := .pure
  fail _ _ _ _ _ success := by cases success
  bind := .bind
  loads := .compileDataSources
  reserve _ := .of_same fun _ => rfl
  fill _ _ := .of_same fun _ => rfl

private theorem account_registers :
    Account Registers fun node path below =>
      [(⟨node, path⟩ : Visit)].filterMap Visit.styled? ++ below where
  toComposes := quiet_registers.toComposes
  unknown {node} path _ := (Registers.skipOrFail node.kindName path).met node path
  inline {node path _ _ _} _ _ registers := registers.met node path
  container {node path kind _ _} _ _ _ registers :=
    (quiet_registers.emitContainer registers kind node path).met node path

/-- The walk over a tree registers the classes of its visited nodes in the order of the visits. -/
theorem transformNode_registers (node : Node) (path : Path) :
    Registers ((node.visits path).filterMap Visit.styled?) (transformNode node path) := by
  rw [Node.change_visits List.filterMap_nil fun _ _ => List.filterMap_append]
  exact account_registers.transformNode node path

theorem transformSchema_registers (schema : Node) :
    Registers ((schema.visits Path.root).filterMap Visit.styled?) (transformSchema schema) :=
  quiet_registers.transformSchema (transformNode_registers schema Path.root)

/-- The styles and the stylesheet that a walk over a tree has to leave behind. -/
structure StylesFollow (schema : Node) (final : Context) : Prop where
  registered : final.styles =
    StyleRegistry.empty.registerAll ((schema.visits Path.root).filterMap Visit.styled?)
  /-- Every class once, at the place of its first visit. -/
  classNames : final.styles.classNames =
    ((schema.visits Path.root).filterMap (·.node.className?)).eraseDups
  lastStyle (className : String) : final.styles.get? className = schema.lastStyle? className
  closed : final.stylesheet.opened = []
  /-- The classes of the rule blocks are those of the registry. -/
  shown (className : String) : className ∈ final.styles.classNames ↔
    ∃ block ∈ RuleBlock.listBlocks final.stylesheet.roots, block.className = className
  /-- Wherever a block stands, it shows the declarations of the last style of its class. -/
  printed (block : RuleBlock) : block ∈ RuleBlock.listBlocks final.stylesheet.roots →
    ∃ style before after, schema.lastStyle? block.className = some style ∧
      final.stylesheetText = before ++
        ("." ++ block.className ++ " \x7b" ++ RuleBlock.declarationsText style ++
          RuleBlock.listText final.styles block.children ++ "\x7d") ++ after

/-- After a walk that succeeds, the registry holds the classes in the order of their first visits
and with their last styles. The blocks are of the same classes, and each is printed with the last
style of its own. -/
theorem styles_follow_visits {schema : Node} {context final : Context}
    (bare : context.styles = .empty) (blank : context.stylesheet = .empty)
    (success : (transformSchema schema).run context = (.ok (), final)) :
    StylesFollow schema final := by
  have registered := transformSchema_registers schema context () final success
  rw [bare] at registered
  have sheet := (transformSchema_grows schema).done context () final success
  rw [blank] at sheet
  have roots : final.stylesheet.roots = schema.ruleBlocks := by rw [sheet]; rfl
  have classNames : final.styles.classNames =
      ((schema.visits Path.root).filterMap (·.node.className?)).eraseDups := by
    rw [registered, StyleRegistry.classNames_registerAll, Visit.names_styled]
  have last : ∀ className, final.styles.get? className = schema.lastStyle? className := by
    intro className
    rw [registered, StyleRegistry.get?_registerAll, Node.lastStyle?_eq]
  have shown : ∀ className, className ∈ final.styles.classNames ↔
      ∃ block ∈ RuleBlock.listBlocks final.stylesheet.roots, block.className = className := by
    intro className
    rw [classNames, List.mem_eraseDups, ← Node.classNames_ruleBlocks, roots]
    exact List.mem_map
  refine ⟨registered, classNames, last, by rw [sheet]; rfl, shown, fun block member => ?_⟩
  have known : block.className ∈ final.styles.classNames :=
    (shown block.className).mpr ⟨block, member, rfl⟩
  obtain ⟨style, found⟩ := StyleRegistry.get?_of_mem known
  obtain ⟨before, after, within⟩ := RuleBlock.listText_within final.styles _ member
  refine ⟨style, before, after, (last block.className).symm.trans found, ?_⟩
  rw [Context.stylesheetText, StylesheetCollector.text, within, RuleBlock.text_eq, found]
  rfl

/-- The class of a page comes again on a text inside it and, with a style of its own, on a node that
is left out: all three blocks show that last style. -/
theorem styles_follow_visits_repeated :
    let styled (kindName className color : String) : Node := { Node.ofKind kindName with props :=
      [("className", .string className), ("style", .object [("backgroundColor", .string color)])] }
    let schema := { styled "Page" "box" "red" with children :=
      [{ styled "Block" "title" "blue" with children := [{ Node.ofKind "Div" with children :=
        [styled "Text" "box" "green"] }] }, styled "Video" "box" "white"] }
    let context := { Context.fresh "Home" with skipUnsupported := true }
    ∃ final, (transformSchema schema).run context = (.ok (), final) ∧
      final.styles.classNames = ["box", "title"] ∧
      final.stylesheetText = ".box \x7bbackground-color: white;\n" ++
        ".title \x7bbackground-color: blue;\n.box \x7bbackground-color: white;\n\x7d\x7d" ++
        ".box \x7bbackground-color: white;\n\x7d\x7d" ∧
      StylesFollow schema final := by
  intro styled schema context
  have success : (transformSchema schema).run context = (.ok (), _) := run_eq_ok (by decide +kernel)
  exact ⟨_, success, by decide +kernel, by decide +kernel,
    styles_follow_visits rfl rfl success⟩

end Walk

end PanelCompiler
