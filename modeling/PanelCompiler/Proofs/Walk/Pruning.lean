import PanelCompiler.Proofs.Tree.Pruning
import PanelCompiler.Proofs.Value.Outcome
import PanelCompiler.Proofs.Walk.Components
import PanelCompiler.Proofs.Walk.Leniency

/-!
Leaving nodes out against never having written them. A walk that leaves out nodes of unknown kinds
makes of a tree what any walk makes of the pruned tree: the paths below a node that is missing
shift, but paths are told in errors only.
-/

namespace PanelCompiler

/-- A context that leaves nodes out and another hold the same components, imports and methods, and
if `styled`, also the same styles and rule blocks. -/
structure Context.Shares (styled : Prop) (lenient other : Context) : Prop where
  imports : lenient.imports = other.imports
  components : lenient.components = other.components
  dataMethods : lenient.dataMethods = other.dataMethods
  rootName : lenient.rootName = other.rootName
  setting : lenient.skipUnsupported = true
  styles : styled → lenient.styles = other.styles
  stylesheet : styled → lenient.stylesheet = other.stylesheet

namespace Context.Shares

variable {styled : Prop} {lenient other : Context}

theorem reserve (shares : lenient.Shares styled other) (kindName : String) :
    (lenient.reserve kindName).Shares styled (other.reserve kindName) :=
  { shares with
    components := by
      rw [Context.reserve, Context.reserve, nextName, nextName, shares.components,
        shares.rootName] }

theorem fill (shares : lenient.Shares styled other) (slot : Nat) (source : String → String) :
    (lenient.fill slot source).Shares styled (other.fill slot source) :=
  { shares with components := by rw [Context.fill, Context.fill, shares.components] }

theorem addImport (shares : lenient.Shares styled other) (line : String) :
    (lenient.addImport line).Shares styled (other.addImport line) := by
  rw [Walk.addImport_eq, Walk.addImport_eq, shares.imports]
  exact { shares with imports := rfl }

theorem addDataMethod (shares : lenient.Shares styled other) (method : String) :
    (lenient.addDataMethod method).Shares styled (other.addDataMethod method) :=
  { shares with
    dataMethods := by rw [Context.addDataMethod, Context.addDataMethod, shares.dataMethods] }

theorem enter (shares : lenient.Shares styled other) (node : Node) :
    (lenient.enter node).Shares styled (other.enter node) :=
  { shares with
    styles same := by rw [Context.enter, Context.enter, shares.styles same]
    stylesheet same := by rw [Context.enter, Context.enter, shares.stylesheet same] }

theorem leave (shares : lenient.Shares styled other) (node : Node) :
    (lenient.leave node).Shares styled (other.leave node) :=
  { shares with
    stylesheet same := by rw [Context.leave, Context.leave, shares.stylesheet same] }

/-- A node that is met, reported and left changes at most the styles and rule blocks, and these only
if it has a class. -/
theorem skipped (shares : lenient.Shares styled other) {node : Node} (path : Path)
    (unclassed : styled → node.className? = none) :
    (((lenient.enter node).skip path node.kindName).leave node).Shares styled other :=
  { shares with
    styles same := by
      simp [Context.leave, Context.skip, Context.enter, unclassed same, shares.styles same]
    stylesheet same := by
      simp [Context.leave, Context.skip, Context.enter, StylesheetCollector.enter,
        StylesheetCollector.leave, unclassed same, shares.stylesheet same] }

end Context.Shares

namespace Walk

variable {α β : Type} {styled : Prop}

/-- From contexts that share what they hold, both steps give the same value or both fail, and where
they give a value they leave contexts that share what they hold. -/
def Follows (styled : Prop) (walk other : Walk α) : Prop :=
  ∀ lenient context : Context, lenient.Shares styled context →
    SameOutcome (walk.run lenient).1 (other.run context).1 ∧
      ∀ value, (walk.run lenient).1 = .ok value →
        (walk.run lenient).2.Shares styled (other.run context).2

namespace Follows

theorem ofExcept {first second : Except CompileError α} (same : SameOutcome first second) :
    Follows styled (ofExcept first) (ofExcept second) := by
  intro lenient context shares
  rw [run_ofExcept, run_ofExcept]
  exact ⟨same, fun _ _ => shares⟩

theorem pure (value : α) : Follows styled (Pure.pure value : Walk α) (Pure.pure value) :=
  ofExcept (.refl (.ok value))

theorem modify (change : Context → Context)
    (kept : ∀ lenient context : Context, lenient.Shares styled context →
      (change lenient).Shares styled (change context)) :
    Follows styled (modify change : Walk Unit) (modify change) := by
  intro lenient context shares
  rw [run_modify, run_modify]
  exact ⟨.refl _, fun _ _ => kept lenient context shares⟩

theorem bind {walk other : Walk α} {next rest : α → Walk β} (head : Follows styled walk other)
    (tail : ∀ value, Follows styled (next value) (rest value)) :
    Follows styled (walk >>= next) (other >>= rest) := by
  intro lenient context shares
  obtain ⟨same, kept⟩ := head lenient context shares
  rw [run_bind, run_bind]
  rcases ran : walk.run lenient with ⟨outcome, middle⟩
  rcases otherRan : other.run context with ⟨given, last⟩
  rw [ran, otherRan] at same kept
  obtain ⟨_, _, rfl, rfl⟩ | ⟨value, rfl, rfl⟩ := same.inv
  · exact ⟨rfl, nofun⟩
  · exact tail value middle last (kept value rfl)

private theorem reserveComponent (kindName : String) :
    Follows styled (reserveComponent kindName) (reserveComponent kindName) := by
  intro lenient context shares
  refine ⟨?_, fun _ _ => shares.reserve kindName⟩
  change some lenient.components.length = some context.components.length
  rw [shares.components]

theorem emitting {render other : Walk String} (follows : Follows styled render other)
    (kindName : String) : Follows styled (emitting kindName render) (emitting kindName other) := by
  refine (reserveComponent kindName).bind fun slot => follows.bind fun text => ?_
  exact modify _ fun _ _ shares => shares.fill slot _

theorem met {body other : Walk α} (follows : Follows styled body other) (node : Node)
    (children : List Node) :
    Follows styled (met node body) (met { node with children := children } other) := by
  have entering := @modify styled (·.enter node) fun _ _ shares => shares.enter node
  have leaving := @modify styled (·.leave node) fun _ _ shares => shares.leave node
  exact entering.bind fun _ => follows.bind fun value => leaving.bind fun _ => pure value

theorem compileDataSources (path place : Path) (index : Nat) (sources : List DataSource) :
    Follows styled (compileDataSources path index sources)
      (compileDataSources place index sources) := by
  induction sources generalizing index with
  | nil => exact pure ()
  | cons source rest ih =>
    have register := @modify styled (·.addImport source.transport.importLine)
      fun _ _ shares => shares.addImport _
    have load := register.bind fun _ => ofExcept (source.methodSource_anywhere
      (path.field (toString index)) (place.field (toString index)))
    have add := fun method => @modify styled (·.addDataMethod method)
      fun _ _ shares => shares.addDataMethod method
    exact load.bind fun method => (add method).bind fun _ => ih (index + 1)

theorem map {walk other : Walk α} (follows : Follows styled walk other) (change : α → β) :
    Follows styled (do return change (← walk)) (do return change (← other)) :=
  follows.bind fun value => pure (change value)

section Rendering

variable {children others : Walk String} {kind : Kind} {node : Node} {kept : List Node}

/-- Where the children of a node are walked, the walks of both lists have to follow, and both have
to be empty or none. -/
theorem renderElement (inner : kind.isBox = true → Follows styled children others)
    (empty : kind.isBox = true → kept.isEmpty = node.children.isEmpty) (path place : Path)
    (attributes : String) :
    Follows styled (renderElement kind node path attributes children)
      (renderElement kind { node with children := kept } place attributes others) := by
  have box (isBox : kind.isBox = true) :
      Follows styled (renderBox node attributes children)
        (renderBox { node with children := kept } attributes others) := by
    unfold renderBox
    rw [empty isBox]
    split
    · exact pure _
    · exact (inner isBox).map _
  cases kind with
  | text => exact (ofExcept (Markup.textContent_anywhere node _ _)).map _
  | image => exact (ofExcept (Markup.imageSource_anywhere node _ _)).map _
  | page => exact box rfl
  | block => exact box rfl
  | component => exact box rfl
  | div => exact box rfl

theorem renderKnown (inner : kind.isBox = true → Follows styled children others)
    (empty : kind.isBox = true → kept.isEmpty = node.children.isEmpty) (path place : Path) :
    Follows styled (renderKnown children kind node path)
      (renderKnown others kind { node with children := kept } place) := by
  refine (ofExcept (Markup.propAttributes_anywhere node.props _ _)).bind fun attributes => ?_
  refine (renderElement inner empty path place _).bind fun element => ?_
  exact ofExcept (Markup.withDirectives_anywhere node element path place)

/-- A container loads the same data and becomes a component of the same name. -/
theorem emitContainer {body other : Walk String} (follows : Follows styled body other)
    (path place : Path) :
    Follows styled (emitContainer body kind node path)
      (emitContainer other kind { node with children := kept } place) := by
  have loads := @compileDataSources styled (path.field "dataSource") (place.field "dataSource") 0
    node.dataSources
  exact ((loads.bind fun _ => follows).emitting kind.displayName).bind fun _ => pure ""

/-- A visit of a node of a known kind follows with another list of children. -/
theorem visitWith (known : node.kind? = some kind)
    (inner : kind.isBox = true → Follows styled children others)
    (empty : kind.isBox = true → kept.isEmpty = node.children.isEmpty) (path place : Path) :
    Follows styled (visitWith children node path)
      (visitWith others { node with children := kept } place) := by
  have body := renderKnown inner empty path place
  have same : ({ node with children := kept } : Node).kind? = some kind := known
  cases container : kind.isContainer with
  | true =>
    rw [visitWith_container known container, visitWith_container same container]
    exact (body.emitContainer path place).met node kept
  | false =>
    rw [visitWith_inline known container, visitWith_inline same container]
    exact body.met node kept

end Rendering

/-- A child of an unknown kind leaves nothing among its siblings. -/
theorem leftOut {rest others : Walk String} {child : Node} (unknown : child.kind? = none)
    (unclassed : styled → child.className? = none) (path : Path)
    (follows : Follows styled rest others) :
    Follows styled (do
      let fragment ← transformNode child path
      let content ← rest
      return Markup.embed child fragment ++ content) others := by
  intro lenient context shares
  have skipped : (transformNode child path).run lenient =
      (.ok "", ((lenient.enter child).skip path child.kindName).leave child) := by
    have setting : (lenient.enter child).skipUnsupported = true := shares.setting
    rw [transformNode_eq, visitWith_unknown unknown, run_met, run_skipOrFail, if_pos setting]
  have nothing : Markup.embed child "" = "" := by simp [Markup.embed]
  have empty : (do
      let content ← rest
      return Markup.embed child "" ++ content) = rest := by
    simp [nothing]
  rw [run_bind, skipped]
  dsimp only
  rw [empty]
  exact follows _ context (shares.skipped path unclassed)

theorem transformFrom {children : List Node}
    (visits : ∀ child ∈ children, child.isKnown = true → ∀ path place,
      Follows styled (transformNode child path) (transformNode child.prune place))
    (unclassed : ∀ child ∈ children, child.kind? = none → styled → child.className? = none)
    (index number : Nat) (parent place : Path) :
    Follows styled (transformFrom index children parent)
      (transformFrom number (Node.pruneAll children) place) := by
  induction children generalizing index number with
  | nil => exact pure ""
  | cons child rest ih =>
    have others := ih (fun other member => visits other (by simp [member]))
      fun other member => unclassed other (by simp [member])
    rw [Walk.transformFrom, Node.pruneAll]
    cases known : child.kind? with
    | none =>
      have isUnknown : child.isKnown = false := by simp [Node.isKnown, known]
      rw [if_neg (by simp [isUnknown])]
      exact leftOut known (unclassed child (by simp) known) _ (others (index + 1) number)
    | some kind =>
      have isKnown : child.isKnown = true := by simp [Node.isKnown, known]
      rw [if_pos isKnown]
      have visit := visits child (by simp) isKnown (parent.child index) (place.child number)
      have same : Markup.embed child.prune = Markup.embed child := by
        rw [Node.prune_eq]
        rfl
      rw [Walk.transformFrom, same]
      exact visit.bind fun fragment =>
        (others (index + 1) (number + 1)).map (Markup.embed child fragment ++ ·)

end Follows

/-- The visit of a pruned node follows that of the node, wherever the two stand. -/
theorem transformNode_follows (node : Node) (known : node.isKnown = true)
    (keeps : ∀ address box, node.Visited address box → box.isBox = true → box.children ≠ [] →
      ∃ child ∈ box.children, child.isKnown = true)
    (unclassed : ∀ address other, node.Visited address other → other.kind? = none → styled →
      other.className? = none) (path place : Path) :
    Follows styled (transformNode node path) (transformNode node.prune place) := by
  induction node using Node.induct generalizing path place with
  | step node ih =>
    obtain ⟨kind, known⟩ := Option.isSome_iff_exists.mp known
    have isBox : node.isBox = kind.isBox := Node.isBox_known known
    rw [transformNode_eq, transformNode_eq, Node.prune_eq]
    refine .visitWith known (fun box => ?_) (fun box => ?_) path place
    · rw [← isBox] at box
      have pruned : node.prunedChildren = Node.pruneAll node.children := if_pos box
      dsimp only
      rw [pruned]
      refine .transformFrom (fun child member known path place => ?_)
        (fun child member unknown => ?_) 0 0 path place
      · have keepsBelow := Node.Visited.forall_child box member keeps
        have unclassedBelow := Node.Visited.forall_child box member unclassed
        exact ih child member known keepsBelow unclassedBelow path place
      · have unclassedBelow := Node.Visited.forall_child box member unclassed
        exact unclassedBelow [] child .root unknown
    · rw [← isBox] at box
      exact Node.prunedChildren_isEmpty box (keeps [] node .root box)

private theorem transformSchema_follows {schema : Node} (known : schema.isKnown = true)
    (keeps : ∀ address box, schema.Visited address box → box.isBox = true → box.children ≠ [] →
      ∃ child ∈ box.children, child.isKnown = true)
    (unclassed : ∀ address other, schema.Visited address other → other.kind? = none → styled →
      other.className? = none) :
    Follows styled (transformSchema schema) (transformSchema schema.prune) := by
  have visit := transformNode_follows schema known keeps unclassed Path.root Path.root
  have same : schema.prune.isContainer = schema.isContainer := by
    rw [Node.prune_eq]
    rfl
  cases container : schema.isContainer with
  | true =>
    rw [transformSchema_container container, transformSchema_container (same.trans container)]
    exact visit.map _
  | false =>
    rw [transformSchema_inline container, transformSchema_inline (same.trans container)]
    exact visit.emitting ""

/-- A walk that leaves out nodes of unknown kinds succeeds exactly if a strict walk of the pruned
tree does, with the same components, imports and methods. If no node that is left out has a class,
the styles and rule blocks are the same, too. -/
theorem pruned_alike {schema : Node} (known : schema.isKnown = true)
    (keeps : ∀ visit ∈ schema.visits Path.root, visit.node.isBox = true →
      visit.node.children ≠ [] → ∃ child ∈ visit.node.children, child.isKnown = true)
    (context : Context) :
    ((∃ final, (transformSchema schema).run (context.withSkipping true) = (.ok (), final)) ↔
      ∃ other, (transformSchema schema.prune).run (context.withSkipping false) =
        (.ok (), other)) ∧
    ∀ final other,
      (transformSchema schema).run (context.withSkipping true) = (.ok (), final) →
      (transformSchema schema.prune).run (context.withSkipping false) = (.ok (), other) →
        final.components = other.components ∧ final.imports = other.imports ∧
        final.dataMethods = other.dataMethods ∧
        ((∀ visit ∈ schema.visits Path.root, visit.node.kind? = none →
          visit.node.className? = none) →
            final.styles = other.styles ∧ final.stylesheet = other.stylesheet ∧
              final.stylesheetText = other.stylesheetText) := by
  -- The runs are compared under the condition that no node left out has a class.
  have unclassed := @Node.forall_visits
    (fun node => node.kind? = none → node.className? = none) schema Path.root
  obtain ⟨same, kept⟩ := transformSchema_follows known (Node.forall_visits.mp keeps)
    (fun address other visited unknown clear => unclassed.mp clear address other visited unknown)
    (context.withSkipping true) (context.withSkipping false)
    ⟨rfl, rfl, rfl, rfl, rfl, fun _ => rfl, fun _ => rfl⟩
  refine ⟨?_, fun final other ran strict => ?_⟩
  · have success := same.eq_ok_iff ()
    constructor
    · rintro ⟨final, ran⟩
      exact ⟨_, Prod.ext (success.mp (congrArg Prod.fst ran)) rfl⟩
    · rintro ⟨other, ran⟩
      exact ⟨_, Prod.ext (success.mpr (congrArg Prod.fst ran)) rfl⟩
  · have shares := kept () (congrArg Prod.fst ran)
    rw [ran, strict] at shares
    refine ⟨shares.components, shares.imports, shares.dataMethods, fun clear => ?_⟩
    have styles := shares.styles clear
    have stylesheet := shares.stylesheet clear
    refine ⟨styles, stylesheet, ?_⟩
    rw [Context.stylesheetText, Context.stylesheetText, styles, stylesheet]

/-- Videos with a condition and a text below them stand before a text on a page and inside a block:
the block is the first one counted with them and without. -/
theorem pruned_alike_nested :
    let text : Node := { Node.ofKind "Text" with props := [("text", .string "Hi")] }
    let video : Node := { Node.ofKind "Video" with
      props := [("title", .string "Clip")], condition := some (.bool true), children := [text] }
    let schema := { Node.ofKind "Page" with
      props := [("className", .string "page")],
      children := [video, text, { Node.ofKind "Block" with children := [video, text] }] }
    let context := Context.fresh "Home"
    (schema.prune.visits Path.root).map (·.node.kindName) = ["Page", "Text", "Block", "Text"] ∧
    ∃ final other,
      (transformSchema schema).run (context.withSkipping true) = (.ok (), final) ∧
      (transformSchema schema.prune).run (context.withSkipping false) = (.ok (), other) ∧
      final.components.map (·.name) = ["Home", "HomeBlock1"] ∧ final.skipped.length = 2 ∧
      other.skipped = [] ∧ final.components = other.components ∧
      final.stylesheetText = other.stylesheetText := by
  intro text video schema context
  have ran : (transformSchema schema).run (context.withSkipping true) = (.ok (), _) :=
    run_eq_ok (by decide +kernel)
  have strict : (transformSchema schema.prune).run (context.withSkipping false) = (.ok (), _) :=
    run_eq_ok (by decide +kernel)
  have alike := @pruned_alike schema (by decide +kernel) (by decide +kernel) context
  obtain ⟨components, -, -, styled⟩ := alike.2 _ _ ran strict
  obtain ⟨-, -, stylesheet⟩ := styled (by decide +kernel)
  exact ⟨by decide +kernel, _, _, ran, strict, by decide +kernel, by decide +kernel,
    by decide +kernel, components, stylesheet⟩

end Walk

end PanelCompiler
