import PanelCompiler.Proofs.Script.MemberAccess
import PanelCompiler.Proofs.Walk.Emission
import PanelCompiler.Proofs.Walk.Styles

namespace PanelCompiler

open Directive (Bindings Unqualified rewritten)
open Script (IsPropertyName memberKey?)

def Attribute.rewrittenBy (items : List (List Char)) (entry : Attribute) : Attribute :=
  ⟨PanelCompiler.rewrittenBy items entry.name, PanelCompiler.rewrittenBy items entry.value⟩

section Tags

variable {node : Node} {path : Path} {kind : Kind} {className markup : String}
  {items : List (List Char)} {attributes : List Attribute}

def Node.keyList (node : Node) : List Attribute :=
  if node.loop.isSome then [.ofSource "key" (Bindings.ofArguments node.loopArgs).index] else []

/-- The reference to a class as an attribute, behind the key of a loop. -/
def Node.leading (node : Node) (className : String) : List Attribute :=
  node.keyList ++ [.ofSource "className" ("styles." ++ className)]

private theorem Node.shownAttributes_eq (node : Node) (attributes : List Attribute) :
    node.shownAttributes attributes =
      (node.keyList ++ attributes).map (·.rewrittenBy node.loopItems) := by
  unfold shownAttributes keyList loopItems loopItem?
  cases node.loop with
  | none => simp [Attribute.rewrittenBy, rewrittenBy]
  | some source => rfl

/-- Loops rewrite the attributes of a tag one by one. -/
theorem rewrittenBy_tagText (spares : ∀ item ∈ items, SparesTags item) (kind : Kind)
    (attributes : List Attribute) :
    rewrittenBy items (tagText kind attributes) =
      tagText kind (attributes.map (·.rewrittenBy items)) := by
  induction items generalizing attributes with
  | nil => simp [Attribute.rewrittenBy, rewrittenBy]
  | cons item rest ih =>
    obtain ⟨first, others⟩ := List.forall_mem_cons.mp spares
    have cut : ∀ c ∈ ([] : List Char).head?, c ∈ tagMarks := by simp
    have once := rewritten_tagText first kind attributes cut
    rw [List.append_nil, Directive.rewritten_nil, List.append_nil] at once
    rw [rewrittenBy, List.foldl_cons, once]
    change rewrittenBy rest _ = _
    rw [ih others, List.map_map]
    rfl

theorem rewrittenBy_ofSource (spares : ∀ item ∈ items, SparesTags item) {name : String}
    (plain : Unqualified name.toList) (source : String) :
    (Attribute.ofSource name source).rewrittenBy items =
      .ofSource name (String.ofList (rewrittenBy items source.toList)) := by
  have braced : rewrittenBy items ('\x7b' :: (source.toList ++ ['\x7d'])) =
      '\x7b' :: (rewrittenBy items source.toList ++ ['\x7d']) :=
    rewrittenBy_between spares (by decide) (by decide) source.toList
  rw [Attribute.ofSource, Attribute.rewrittenBy, braced, rewrittenBy_plain plain,
    Attribute.ofSource, String.toList_ofList]

theorem isPiece_tagText (kind : Kind) (attributes : List Attribute) (name source : String) :
    IsPiece (tagText kind (attributes ++ [.ofSource name source])) := by
  obtain ⟨start, begins⟩ := kind.tagStart_begins
  refine ⟨'<', by decide, '\x7d', by decide, start ++ (Attribute.listText attributes ++
    ' ' :: (name.toList ++ '=' :: '\x7b' :: source.toList)), ?_⟩
  simp [tagText, begins, Attribute.listText, Attribute.text, Attribute.ofSource]

/-- The tag of a node shows the reference to its class first, behind the key of its loop. -/
theorem Node.reference_within (known : node.kind? = some kind)
    (classed : node.className? = some className)
    (spares : ∀ item ∈ node.loopItems, SparesTags item)
    (rendered : node.markup path = .ok markup) :
    rewrittenBy node.loopItems (tagText kind (node.leading className)) <:+: markup.toList := by
  have spare : ∀ item ∈ node.loopItem?, SparesTags item := fun item member =>
    spares item (Option.mem_toList.mpr member)
  obtain ⟨shown, attributes, element, looped, given, rfl, ⟨behind, whole, -⟩, around, success⟩ :=
    Node.hasTag known spare rendered
  obtain ⟨props, -, given⟩ := bind_eq_ok given
  obtain ⟨fixed, -, given⟩ := bind_eq_ok given
  cases given
  have first : Markup.classList node = [.ofSource "className" ("styles." ++ className)] := by
    rw [Markup.classList, classed]
  have within : rewrittenBy node.loopItems (tagText kind (node.leading className)) <:+:
      element.toList := by
    rw [shownAttributes_eq, first, ← List.append_assoc, List.map_append, tagText_append,
      List.append_assoc] at whole
    rw [whole, rewrittenBy_tagText spares]
    exact (List.prefix_append _ _).isInfix
  have inside : element.toList <:+: looped.toList := by
    cases around with
    | bare => exact List.infix_rfl
    | looped => exact Directive.body_within_loop _ _ _
  exact within.trans (inside.trans (Markup.within_condition success))

end Tags

section Members

theorem stripQualifiers_styles (text : List Char) :
    Directive.stripQualifiers ("styles.".toList ++ text) =
      "styles.".toList ++ Directive.stripQualifiers text := by
  have ended : Directive.endsWord "styles.".toList.getLast? = true := by decide +kernel
  have kept : Directive.stripQualifiers "styles.".toList = "styles.".toList := by decide +kernel
  rw [Directive.stripQualifiers_append ended, kept]

/-- However it is rewritten, a reference to a class is one to a member of the styles. -/
theorem rewrittenBy_styles (items : List (List Char)) (text : List Char) :
    ∃ later, rewrittenBy items ("styles.".toList ++ text) = "styles.".toList ++ later := by
  induction items generalizing text with
  | nil => exact ⟨text, rfl⟩
  | cons item rest ih =>
    have replaced : Directive.replaceReferences item (Directive.substitute item)
        ("styles.".toList ++ text) = "styles.".toList ++
          Directive.replaceFrom item (Directive.substitute item) (some '.') 0 text := by
      simp [Directive.replaceReferences, Directive.replaceFrom, Directive.isReference,
        Directive.afterQualifier?, Text.afterPrefix?, Directive.qualifier]
    rw [rewrittenBy, List.foldl_cons, rewritten, replaced, stripQualifiers_styles]
    exact ih _

/-- A reference to a class names the class exactly if the class is spelled like a name. -/
theorem memberKey?_reference_iff (items : List (List Char)) (className : String) :
    memberKey? "styles" (rewrittenBy items ("styles." ++ className).toList) = some className ↔
      IsPropertyName className.toList := by
  have object : IsPropertyName "styles".toList := by decide +kernel
  have point (text : List Char) :
      "styles.".toList ++ text = "styles".toList ++ '.' :: text := rfl
  rw [String.toList_append]
  constructor
  · intro read
    obtain ⟨later, written⟩ := rewrittenBy_styles items className.toList
    rw [written, point] at read
    exact Script.memberKey?_sound object read
  · intro named
    have absent : '.' ∉ className.toList := fun member =>
      absurd (named.parts '.' member) (by decide +kernel)
    have plain : Unqualified ("styles.".toList ++ className.toList) := by
      refine Directive.stripQualifiers_eq_self_iff.mp ?_
      rw [stripQualifiers_styles, Directive.stripQualifiers,
        Directive.stripFrom_absent (by decide) none absent]
    rw [rewrittenBy_plain plain, point, Script.memberKey?_name object named, String.ofList_toList]

end Members

section Registered

variable {schema node : Node} {address : List Nat} {className : String}

private theorem Node.exists_lastStyle (visited : schema.Visited address node)
    (classed : node.className? = some className) :
    ∃ style, schema.lastStyle? className = some style := by
  have member : ⟨node, Path.root.descend address⟩ ∈ (schema.visits Path.root).reverse :=
    List.mem_reverse.mpr (Node.mem_visits.mpr ⟨address, rfl, visited⟩)
  have found : ((schema.visits Path.root).reverse.find? fun visit =>
      visit.node.className? == some className).isSome := by
    rw [List.find?_isSome]
    exact ⟨_, member, by simp [classed]⟩
  obtain ⟨visit, found⟩ := Option.isSome_iff_exists.mp found
  exact ⟨visit.node.classStyle, by rw [lastStyle?, found]; rfl⟩

/-- The styles that are exported hold each class of the registry as a key. -/
theorem StyleRegistry.field?_toJson (registry : StyleRegistry) (className : String) :
    registry.toJson.field? className = (registry.get? className).map .object := by
  obtain ⟨entries⟩ := registry
  change Fields.get? (entries.map fun entry => (entry.1, .object entry.2)) className =
    (entries.lookup className).map .object
  induction entries with
  | nil => rfl
  | cons entry rest ih =>
    obtain ⟨name, style⟩ := entry
    rw [List.map_cons, Fields.get?, ih, lookup_cons]
    by_cases same : className = name
    · rw [if_pos same, if_pos same.symm]
      rfl
    · rw [if_neg same, if_neg (Ne.symm same)]

private theorem Node.field?_registered {context final : Context}
    (success : (Walk.transformSchema schema).run context = (.ok (), final))
    (visited : schema.Visited address node) (classed : node.className? = some className) :
    ∃ style, schema.lastStyle? className = some style ∧
      final.styles.toJson.field? className = some (.object style) := by
  obtain ⟨style, last⟩ := Node.exists_lastStyle visited classed
  refine ⟨style, last, ?_⟩
  rw [Node.lastStyle?_eq] at last
  rw [StyleRegistry.field?_toJson, Walk.transformSchema_registers schema context () final success,
    StyleRegistry.get?_registerAll_onto, last]
  rfl

end Registered

namespace Walk

variable {schema node : Node} {kind : Kind} {address : List Nat} {className : String}
  {context final : Context}

/-- After a walk that succeeds, the class of every visited node of a known kind is a key of the
styles, with its last style. The tag of the node refers to a member of the styles, and goes into the
source of a component with the reference rewritten by the loops around it, if these leave tags
alone. The reference names that key exactly if the class is spelled like a name. -/
theorem class_named_iff (success : (transformSchema schema).run context = (.ok (), final))
    (visited : schema.Visited address node) (known : node.kind? = some kind)
    (classed : node.className? = some className) :
    (∃ style, schema.lastStyle? className = some style ∧
      final.styles.toJson.field? className = some (.object style)) ∧
    (∃ around, schema.Stands address around node) ∧
    ∀ around, schema.Stands address around node →
      let items := node.loopItems ++ around
      let reference := String.ofList (rewrittenBy items ("styles." ++ className).toList)
      ((∀ item ∈ items, SparesTags item) → ∃ component ∈ final.components,
        tagText kind (node.keyList.map (·.rewrittenBy items) ++
          [.ofSource "className" reference]) <:+: component.source.toList) ∧
      (memberKey? "styles" reference.toList = some className ↔
        IsPropertyName className.toList) := by
  refine ⟨Node.field?_registered success visited classed, visited.stands, fun around stands => ?_⟩
  intro items reference
  refine ⟨fun spares => ?_, ?_⟩
  · obtain ⟨own, outer⟩ := List.forall_mem_append.mp spares
    obtain ⟨component, member, markup, rendered, kept⟩ := comesOut success stands outer
    have piece : IsPiece (tagText kind (node.leading className)) :=
      isPiece_tagText kind node.keyList "className" ("styles." ++ className)
    have within := kept _ (piece.rewrittenBy own)
      (Node.reference_within known classed own rendered)
    have plain : Unqualified "className".toList := by decide
    rw [← rewrittenBy_append, rewrittenBy_tagText spares, Node.leading,
      List.map_append, List.map_singleton, rewrittenBy_ofSource spares plain] at within
    exact ⟨component, member, within⟩
  · rw [String.toList_ofList]
    exact memberKey?_reference_iff _ className

/-- A text in two loops: the reference to its class comes out as it went in. -/
theorem class_named_iff_looped :
    let rows := some (Json.string "\x7b\x7b this.rows \x7d\x7d")
    let node := { Node.ofKind "Text" with props := [("className", .string "título")], loop := rows }
    let box := { Node.ofKind "Div" with children := [node], loop := rows, loopArgs := some ["row"] }
    let schema := { Node.ofKind "Page" with children := [box] }
    let text := "<span key=\x7bindex\x7d className=\x7bstyles.título\x7d"
    schema.Stands [0, 0] ["row".toList] node ∧
    ∃ final, (transformSchema schema).run (Context.fresh "Home") = (.ok (), final) ∧
      (∃ style, final.styles.toJson.field? "título" = some (.object style)) ∧
      (∃ component ∈ final.components, text.toList <:+: component.source.toList) ∧
      memberKey? "styles" "styles.título".toList = some "título" := by
  intro rows node box schema text
  have success : (transformSchema schema).run (Context.fresh "Home") = (.ok (), _) :=
    run_eq_ok (by decide +kernel)
  have rootBox : schema.isBox = true := by decide +kernel
  have isBox : box.isBox = true := by decide +kernel
  have boxInline : box.isContainer = false := by decide +kernel
  have nodeInline : node.isContainer = false := by decide +kernel
  have stands : schema.Stands [0, 0] ["row".toList] node :=
    .inline (.inline .root rootBox rfl boxInline) isBox rfl nodeInline
  have known : node.kind? = some .text := by decide +kernel
  obtain ⟨⟨style, -, registered⟩, -, rendered⟩ := class_named_iff success stands.visited known rfl
  obtain ⟨within, named⟩ := rendered _ stands
  have spares : ∀ item ∈ node.loopItems ++ ["row".toList], SparesTags item := by decide +kernel
  have kept : String.ofList (rewrittenBy (node.loopItems ++ ["row".toList])
      ("styles." ++ "título").toList) = "styles.título" := by decide +kernel
  have shown : tagText .text (node.keyList.map (·.rewrittenBy (node.loopItems ++ ["row".toList])) ++
      [.ofSource "className" "styles.título"]) = text.toList := by decide +kernel
  rw [kept, shown] at within
  rw [kept] at named
  exact ⟨stands, _, success, ⟨style, registered⟩, within spares, named.mpr (by decide +kernel)⟩

/-- A class with a hyphen is registered, but the reference to it is read as a difference. -/
theorem hyphen_not_named :
    let node := { Node.ofKind "Div" with props := [("className", .string "my-card")] }
    ∃ final, (transformSchema node).run (Context.fresh "Home") = (.ok (), final) ∧
      (final.styles.toJson.field? "my-card").isSome ∧
      final.components = [⟨"Home", Markup.componentSource "Home"
        "<div className=\x7bstyles.my-card\x7d />"⟩] ∧
      memberKey? "styles" "styles.my-card".toList = none ∧
      memberKey? "styles" "styles['my-card']".toList = some "my-card" := by
  intro node
  exact ⟨_, run_eq_ok (by decide +kernel), by decide +kernel, by decide +kernel,
    by decide +kernel, by decide +kernel⟩

end Walk

end PanelCompiler
