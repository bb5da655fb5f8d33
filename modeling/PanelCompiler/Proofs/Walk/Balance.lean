import Mathlib.Tactic.MkIffOfInductiveProp
import PanelCompiler.Proofs.Directive.Brackets
import PanelCompiler.Proofs.Tree.Pruning
import PanelCompiler.Proofs.Walk.Components
import PanelCompiler.Proofs.Walk.Steps

/-!
Delimiters of the generated code. Where everything that a tree puts into the code as it stands is
balanced, so is whatever a walk makes of it: every template opens and closes its own brackets, and
directives rewrite markup between brackets only.
-/

namespace PanelCompiler

open Text (Avoids Nested brackets bracketWord)

/-- Whatever text is made for a place, it is balanced. -/
def MakesBalanced (made : Path → Except CompileError String) : Prop :=
  ∀ path text, made path = .ok text → Balanced text

/-- One place is enough to look at where the place is told in errors only. -/
theorem makesBalanced_iff {made : Path → Except CompileError String}
    (anywhere : ∀ here there, SameOutcome (made here) (made there)) :
    MakesBalanced made ↔ ∀ text ∈ (made Path.root).toOption, Balanced text := by
  constructor
  · intro all text given
    cases outcome : made Path.root with
    | error fault =>
      rw [outcome] at given
      cases given
    | ok value =>
      rw [outcome] at given
      cases given
      exact all Path.root text outcome
  · intro all path text given
    refine all text ?_
    rw [← anywhere path Path.root, given]
    rfl

instance (value : Json) (position : Position) :
    Decidable (MakesBalanced (value.toSource position)) :=
  decidable_of_iff _ (makesBalanced_iff (value.toSource_anywhere position)).symm

instance (source : Json) : Decidable (MakesBalanced (Directive.loopSource source)) :=
  decidable_of_iff _ (makesBalanced_iff (Directive.loopSource_anywhere source)).symm

/-- What a node puts into the code as it stands is balanced, and the item of its loop has no
brackets in its name. -/
@[mk_iff]
structure Node.PartsBalanced (node : Node) : Prop where
  className : ∀ name ∈ node.className?, Balanced name
  props : ∀ prop ∈ node.props, prop.1 ∉ Markup.reservedProps →
    Balanced prop.1 ∧ MakesBalanced (prop.2.toSource .attribute)
  text : node.kind? = some .text →
    ∀ value ∈ node.props.get? "text", MakesBalanced (value.toSource .content)
  image : node.kind? = some .image →
    ∀ value ∈ node.props.get? "src", MakesBalanced (value.toSource .attribute)
  loop : ∀ source ∈ node.loop, MakesBalanced (Directive.loopSource source)
  item : node.loop.isSome = true →
    Avoids brackets (Directive.Bindings.ofArguments node.loopArgs).item.toList
  index : node.loop.isSome = true →
    Balanced (Directive.Bindings.ofArguments node.loopArgs).index
  condition : ∀ value ∈ node.condition, MakesBalanced (value.toSource .attribute)

instance (node : Node) : Decidable node.PartsBalanced :=
  decidable_of_iff _ (Node.partsBalanced_iff node).symm

/-- All visited nodes of known kinds put only balanced texts into the code. -/
def Node.AllPartsBalanced (root : Node) : Prop :=
  ∀ address node, root.Visited address node → node.isKnown = true → node.PartsBalanced

instance (root : Node) : Decidable root.AllPartsBalanced :=
  decidable_of_iff
    (∀ visit ∈ root.visits Path.root, visit.node.isKnown = true → visit.node.PartsBalanced)
    (Node.forall_visits (motive := fun node => node.isKnown = true → node.PartsBalanced))

namespace Markup

variable {node : Node} {path : Path} {attributes content source markup made : String}

private theorem attributeText_balanced {key : String} (named : Balanced key)
    (given : Balanced source) : Balanced (attributeText key source) := by
  refine .of_word (Nested.append named (Nested.braces given)) ?_
  simp [attributeText, bracketWord, brackets]

theorem classAttribute_balanced (parts : node.PartsBalanced) : Balanced (classAttribute node) := by
  unfold classAttribute
  split
  · rename_i className given
    refine .of_word (Nested.braces (parts.className className given)) ?_
    simp [bracketWord, brackets]
  · decide

theorem propAttributes_balanced {props : Fields}
    (parts : ∀ prop ∈ props, prop.1 ∉ reservedProps →
      Balanced prop.1 ∧ MakesBalanced (prop.2.toSource .attribute))
    (success : propAttributes path props = .ok made) : Balanced made := by
  induction props generalizing made with
  | nil =>
    cases success
    decide
  | cons prop rest ih =>
    obtain ⟨key, value⟩ := prop
    have later := fun prop member => parts prop (List.mem_cons_of_mem _ member)
    unfold propAttributes at success
    split at success
    · exact ih later success
    · rename_i shown
      rw [List.contains_iff_mem] at shown
      obtain ⟨source, given, success⟩ := bind_eq_ok success
      obtain ⟨text, remaining, success⟩ := bind_eq_ok success
      rw [← Except.ok.inj success]
      obtain ⟨named, written⟩ := parts _ List.mem_cons_self shown
      have first := attributeText_balanced named (written _ source given)
      exact first.append (ih later remaining)

theorem textElement_balanced (outer : Balanced attributes) (inner : Balanced content) :
    Balanced (textElement attributes content) := by
  refine .of_word (Nested.append outer inner) ?_
  simp [textElement, bracketWord, brackets]

theorem imageElement_balanced (outer : Balanced attributes) (given : Balanced source) :
    Balanced (imageElement attributes source) := by
  refine .of_word (Nested.append outer (Nested.braces given)) ?_
  simp [imageElement, bracketWord, brackets]

private theorem emptyElement_balanced (outer : Balanced attributes) :
    Balanced (emptyElement attributes) := by
  refine .of_word outer ?_
  simp [emptyElement, bracketWord, brackets]

private theorem boxElement_balanced (outer : Balanced attributes) (inner : Balanced content) :
    Balanced (boxElement attributes content) := by
  refine .of_word (Nested.append outer inner) ?_
  simp [boxElement, bracketWord, brackets]

private theorem textContent_balanced (parts : node.PartsBalanced) (isText : node.kind? = some .text)
    (success : textContent node path = .ok made) : Balanced made := by
  unfold textContent at success
  split at success
  · rename_i value given
    exact parts.text isText value given _ made success
  · cases success
    decide

private theorem imageSource_balanced (parts : node.PartsBalanced)
    (isImage : node.kind? = some .image)
    (success : imageSource node path = .ok made) : Balanced made := by
  unfold imageSource at success
  cases given : node.props.get? "src" with
  | some value =>
    rw [given] at success
    exact parts.image isImage value given _ made success
  | none =>
    rw [given] at success
    cases success
    decide

theorem element_balanced {kind : Kind} {inside : Except CompileError String}
    (parts : node.PartsBalanced) (known : node.kind? = some kind) (outer : Balanced attributes)
    (inner : kind.isBox = true → ∀ content, inside = .ok content → Balanced content)
    (success : element kind node path attributes inside = .ok made) : Balanced made := by
  have box (isBox : kind.isBox = true)
      (success : (if node.children.isEmpty then .ok (emptyElement attributes)
        else inside.map (boxElement attributes)) = .ok made) : Balanced made := by
    split at success
    · rw [← Except.ok.inj success]
      exact emptyElement_balanced outer
    · obtain ⟨content, given, success⟩ := map_eq_ok success
      rw [← success]
      exact boxElement_balanced outer (inner isBox content given)
  cases kind with
  | text =>
    obtain ⟨content, given, success⟩ := map_eq_ok success
    rw [← success]
    exact textElement_balanced outer (textContent_balanced parts known given)
  | image =>
    obtain ⟨source, given, success⟩ := map_eq_ok success
    rw [← success]
    exact imageElement_balanced outer (imageSource_balanced parts known given)
  | page => exact box rfl success
  | block => exact box rfl success
  | component => exact box rfl success
  | div => exact box rfl success

theorem withDirectives_balanced (parts : node.PartsBalanced) (inner : Balanced markup)
    (success : withDirectives node path markup = .ok made) : Balanced made := by
  obtain ⟨looped, loops, success⟩ := bind_eq_ok success
  have middle : Balanced looped := by
    unfold withLoop at loops
    split at loops
    · rename_i source given
      have present : node.loop.isSome = true := by simp [given]
      exact Directive.wrapLoop_balanced (parts.loop source given _) (parts.item present)
        (parts.index present) inner loops
    · rwa [← Except.ok.inj loops]
  unfold withCondition at success
  split at success
  · rename_i condition given
    exact Directive.wrapCondition_balanced (parts.condition condition given _) middle success
  · rwa [← Except.ok.inj success]

private theorem embed_balanced (child : Node) (inner : Balanced markup) :
    Balanced (embed child markup) := by
  unfold embed
  split
  · refine .of_word (Nested.braces inner) ?_
    simp [bracketWord, brackets]
  · exact inner

theorem componentSource_balanced {name render : String} (named : Balanced name)
    (inner : Balanced render) : Balanced (componentSource name render) := by
  have arguments : Nested ['(', '\x7b', '\x7d', ')'] := by decide
  have state : Nested ['[', ']', '(', '[', ']', ')'] := by decide
  have body := state.append (Nested.parentheses inner)
  refine .of_word ((Nested.append named named).append (arguments.append body.braces)) ?_
  simp [componentSource, bracketWord, brackets]

end Markup

namespace Node

/-- What siblings leave is balanced if the markup of each of them is. -/
theorem contentFrom_balanced {children : List Node}
    (inner : ∀ child ∈ children, ∀ path markup, child.markup path = .ok markup → Balanced markup)
    {index : Nat} {parent : Path} {content : String}
    (success : contentFrom index children parent = .ok content) : Balanced content := by
  induction children generalizing index content with
  | nil =>
    rw [contentFrom] at success
    cases success
    decide
  | cons child rest ih =>
    rw [contentFrom_cons] at success
    obtain ⟨fragment, left, success⟩ := bind_eq_ok success
    obtain ⟨others, remaining, success⟩ := map_eq_ok success
    have first : Balanced fragment := by
      unfold Node.fragment at left
      split at left
      · cases left
        decide
      · exact inner child List.mem_cons_self _ fragment left
    have later := ih (fun other member => inner other (List.mem_cons_of_mem _ member)) remaining
    rw [← success]
    exact (Markup.embed_balanced child first).append later

theorem AllPartsBalanced.child {root child : Node} (all : root.AllPartsBalanced)
    (box : root.isBox = true) (member : child ∈ root.children) : child.AllPartsBalanced :=
  Visited.forall_child box member all

/-- The markup of a tree is balanced: the brackets of each node stand around those below it. -/
theorem AllPartsBalanced.markup {root : Node} (all : root.AllPartsBalanced) {path : Path}
    {markup : String} (success : root.markup path = .ok markup) : Balanced markup := by
  induction root using Node.induct generalizing path markup with
  | step node ih =>
    cases known : node.kind? with
    | none =>
      rw [markup_unknown known] at success
      cases success
      decide
    | some kind =>
      have parts := all [] node .root (by simp [isKnown, known])
      rw [markup_known known] at success
      obtain ⟨attributes, given, success⟩ := bind_eq_ok success
      obtain ⟨element, made, success⟩ := bind_eq_ok success
      have props := Markup.propAttributes_balanced parts.props given
      have outer := (Markup.classAttribute_balanced parts).append props
      refine Markup.withDirectives_balanced parts ?_ success
      refine Markup.element_balanced parts known outer (fun isBox content inside => ?_) made
      have box : node.isBox = true := (isBox_known known).trans isBox
      refine contentFrom_balanced (fun child member _ _ => ?_) inside
      exact ih child member (all.child box member)

/-- What is balanced below the root is balanced below every visited node. -/
theorem AllPartsBalanced.visited {root node : Node} {address : List Nat}
    (all : root.AllPartsBalanced) (visited : root.Visited address node) :
    node.AllPartsBalanced := by
  induction visited with
  | root => exact all
  | child _ box found ih => exact ih.child box (List.mem_of_getElem? found)

end Node

/-- Names and sources of all components are balanced. -/
structure Context.BalancedSources (context : Context) : Prop where
  rootName : Balanced context.rootName
  components : ∀ component ∈ context.components,
    Balanced component.name ∧ Balanced component.source

namespace Context.BalancedSources

variable {context : Context}

/-- A component is reserved without source; its name holds a number at most behind the kind. -/
theorem reserve (balanced : context.BalancedSources) {kindName : String}
    (kind : Balanced kindName) : (context.reserve kindName).BalancedSources := by
  have named : Balanced (context.nextName kindName) := by
    rw [Walk.nextName_eq]
    split
    · exact balanced.rootName
    · have number : Balanced (toString context.components.length) :=
        .of_avoids (.number (by decide) _)
      exact (balanced.rootName.append kind).append number
  refine ⟨balanced.rootName, fun component member => ?_⟩
  rcases List.mem_append.mp member with old | reserved
  · exact balanced.components component old
  · cases List.mem_singleton.mp reserved
    exact ⟨named, (by decide : Balanced "")⟩

theorem fill (balanced : context.BalancedSources) {render : String} (rendered : Balanced render)
    (slot : Nat) : (context.fill slot (Markup.componentSource · render)).BalancedSources := by
  refine ⟨balanced.rootName, fun component member => ?_⟩
  obtain ⟨index, found⟩ := List.getElem?_of_mem member
  rw [Context.fill, List.getElem?_modify] at found
  obtain ⟨old, present, changed⟩ := Option.map_eq_some_iff.mp found
  obtain ⟨named, written⟩ := balanced.components old (List.mem_of_getElem? present)
  rw [← changed]
  split
  · exact ⟨named, Markup.componentSource_balanced named rendered⟩
  · exact ⟨named, written⟩

end Context.BalancedSources

namespace Walk

variable {α : Type}

/-- A step that leaves only balanced sources where it finds only such. -/
abbrev KeepsBalance (walk : Walk α) : Prop :=
  Moves (fun before after => before.BalancedSources → after.BalancedSources) walk

theorem kept_balanced : Kept fun before after : Context =>
    before.BalancedSources → after.BalancedSources :=
  .of_components fun rootName components balanced =>
    ⟨rootName ▸ balanced.rootName, components ▸ balanced.components⟩

/-- A component is balanced once it is filled with a balanced render section. -/
theorem emitting_balanced {kindName : String} {render : Walk String} (kind : Balanced kindName)
    (rendered : ∀ context text final, render.run context = (.ok text, final) → Balanced text)
    (keeps : KeepsBalance render) : KeepsBalance (emitting kindName render) :=
  kept_balanced.emitting keeps (fun _ balanced => balanced.reserve kind)
    fun context text middle ran kept balanced =>
      (kept balanced).fill (rendered _ text middle ran) context.components.length

/-- The markup of all these visits is balanced. -/
def MarkupBalanced (visits : List Visit) : Prop :=
  ∀ visit ∈ visits, ∀ markup, visit.node.markup visit.path = .ok markup → Balanced markup

private theorem account_balanced :
    Account (fun visits walk => MarkupBalanced visits → KeepsBalance walk)
      fun node path below => ⟨node, path⟩ :: below where
  pure value _ := kept_balanced.pure value
  fail error _ _ := kept_balanced.fail error
  bind head tail all := kept_balanced.bind
    (head fun visit member => all visit (List.mem_append_left _ member))
    fun value => tail value fun visit member => all visit (List.mem_append_right _ member)
  unknown path _ _ := kept_balanced.met (kept_balanced.skipOrFail _ path) _
  inline _ _ keeps all :=
    kept_balanced.met (keeps fun visit member => all visit (List.mem_cons_of_mem _ member)) _
  container {node path kind _ _} _ _ yields keeps all := by
    have inner := keeps fun visit member => all visit (List.mem_cons_of_mem _ member)
    have named : Balanced kind.displayName := by cases kind <;> decide
    refine kept_balanced.met (kept_balanced.bind (emitting_balanced named ?_
      (kept_balanced.loading inner node path)) fun _ => kept_balanced.pure "") node
    intro context text final success
    obtain ⟨_, middle, _, ran⟩ := run_bind_ok success
    exact all ⟨node, path⟩ List.mem_cons_self text (yields middle text final ran)

private theorem transformNode_balanced {node : Node} (all : node.AllPartsBalanced) (path : Path) :
    KeepsBalance (transformNode node path) := by
  refine account_balanced.transformNode node path fun ⟨inner, location⟩ member markup success => ?_
  obtain ⟨address, -, visited⟩ := Node.mem_visits.mp member
  exact (all.visited visited).markup success

private theorem transformSchema_balanced {schema : Node} (all : schema.AllPartsBalanced) :
    KeepsBalance (transformSchema schema) := by
  have visit := transformNode_balanced all Path.root
  refine kept_balanced.transformSchema visit fun inline => ?_
  refine emitting_balanced (by decide) (fun context text final success => ?_) visit
  have fragment := transformNode_yields schema Path.root context text final success
  rw [Node.fragment, inline] at fragment
  exact all.markup fragment

/-- What a walk over a tree returns and leaves behind has its delimiters balanced. -/
structure DelimitersBalanced (schema : Node) (context : Context) : Prop where
  /-- The fragment of every node that the walk visits. -/
  fragment {address : List Nat} {node : Node} (visited : schema.Visited address node) {path : Path}
    {before after : Context} {fragment : String}
    (success : (transformNode node path).run before = (.ok fragment, after)) : Balanced fragment
  /-- The fragments of the children that the walk visits, put together. -/
  content {address : List Nat} {node : Node} (visited : schema.Visited address node)
    (box : node.isBox = true) {path : Path} {before after : Context} {content : String}
    (success : (transformChildren node.children path).run before = (.ok content, after)) :
    Balanced content
  /-- The sources of all components, also where the walk fails. -/
  sources : ∀ component ∈ ((transformSchema schema).run context).2.components,
    Balanced component.source

/-- If a tree puts only balanced texts into the code, the delimiters of the code are balanced. -/
theorem delimiters_balanced {schema : Node} {context : Context} (all : schema.AllPartsBalanced)
    (rootName : Balanced context.rootName) (unused : context.components = []) :
    DelimitersBalanced schema context where
  fragment {address node} visited path before after fragment success := by
    have made := transformNode_yields node path before fragment after success
    unfold Node.fragment at made
    split at made
    · cases made
      decide
    · exact (all.visited visited).markup made
  content {address node} visited box path before after content success := by
    have yields : Yields (transformChildren node.children path) _ :=
      transformFrom_yields (fun child _ path => transformNode_yields child path) 0 path
    have made := yields before content after success
    refine Node.contentFrom_balanced (fun child member _ _ => ?_) made
    exact ((all.visited visited).child box member).markup
  sources component member := by
    have start : context.BalancedSources := ⟨rootName, by simp [unused]⟩
    exact ((transformSchema_balanced all context start).components component member).2

/-- A page with a loop that depends on a condition, and a block with an image behind it. -/
theorem delimiters_balanced_looped :
    let text := { Node.ofKind "Text" with
      props := [("text", .string "\x7b\x7bthis.row.cells[0]\x7d\x7d")] }
    let rows := { Node.ofKind "Div" with
      props := [("className", .string "row"), ("onClick", .string "\x7b\x7bpick(i)\x7d\x7d")]
      loop := some (.string "\x7b\x7bthis.state.rows\x7d\x7d"), loopArgs := some ["row", "i"]
      condition := some (.string "\x7b\x7bready()\x7d\x7d"), children := [text] }
    let block := { Node.ofKind "Block" with
      children := [{ Node.ofKind "Image" with props := [("src", .string "a.png")] }] }
    let schema := { Node.ofKind "Page" with children := [rows, block] }
    ∃ final, (transformSchema schema).run (Context.fresh "Home") = (.ok (), final) ∧
      final.components.map (·.name) = ["Home", "HomeBlock1"] ∧
      DelimitersBalanced schema (Context.fresh "Home") := by
  intro text rows block schema
  have success : (transformSchema schema).run (Context.fresh "Home") = (.ok (), _) :=
    run_eq_ok (by decide +kernel)
  have all : schema.AllPartsBalanced := by decide +kernel
  exact ⟨_, success, by decide +kernel, delimiters_balanced all (by decide) rfl⟩

end Walk

end PanelCompiler
