import Mathlib.Data.List.Nodup
import PanelCompiler.Proofs.Walk.Literals
import PanelCompiler.Proofs.Walk.OpeningTag

namespace PanelCompiler

open Directive (Bindings Unqualified rewritten_plain)

/-- The names of the attributes that every element of a kind has. -/
def Kind.fixedNames : Kind → List String
  | .image => ["src", "alt"]
  | .text | .page | .block | .component | .div => []

namespace Node

/-- The names of the attributes that are not from props: the key of a loop, the class and those of
the kind. -/
def addedNames (kind : Kind) (node : Node) : List String :=
  (if node.loop.isSome then ["key"] else []) ++
    ((if node.className?.isSome then ["className"] else []) ++ kind.fixedNames)

def freeKeys (node : Node) : List String :=
  (node.props.map (·.1)).filter (!Markup.reservedProps.contains ·)

/-- A name as the tag shows it: a loop rewrites it. -/
def shownName (node : Node) (name : String) : List Char :=
  match node.loopItem? with
  | none => name.toList
  | some item => Directive.rewritten item name.toList

variable {node : Node} {path : Path} {kind : Kind} {attributes : List Attribute}

private theorem names_classList (node : Node) : (Markup.classList node).map (·.name) =
    (if node.className?.isSome then ["className"] else []).map String.toList := by
  unfold Markup.classList
  cases node.className? <;> rfl

private theorem names_propList {props : Fields}
    (success : Markup.propList path props = .ok attributes) : attributes.map (·.name) =
      ((props.map (·.1)).filter (!Markup.reservedProps.contains ·)).map String.toList := by
  induction props generalizing attributes with
  | nil =>
    cases success
    rfl
  | cons prop rest ih =>
    obtain ⟨key, value⟩ := prop
    unfold Markup.propList at success
    split at success
    · rename_i reserved
      rw [List.map_cons, List.filter_cons_of_neg (by simpa using reserved)]
      exact ih success
    · rename_i free
      obtain ⟨source, -, success⟩ := bind_eq_ok success
      obtain ⟨others, remaining, success⟩ := bind_eq_ok success
      cases success
      rw [List.map_cons, ih remaining, List.map_cons, List.filter_cons_of_pos (by simpa using free)]
      rfl

private theorem names_fixedList (success : Markup.fixedList kind node path = .ok attributes) :
    attributes.map (·.name) = kind.fixedNames.map String.toList := by
  cases kind with
  | image =>
    obtain ⟨source, -, success⟩ := bind_eq_ok success
    cases success
    rfl
  | _ =>
    cases success
    rfl

/-- The attributes of a node are named like its class, its free props, and those of its kind. -/
theorem names_attributes (success : node.attributes kind path = .ok attributes) :
    attributes.map (·.name) =
      ((if node.className?.isSome then ["className"] else []) ++
        (node.freeKeys ++ kind.fixedNames)).map String.toList := by
  obtain ⟨props, listed, success⟩ := bind_eq_ok success
  obtain ⟨fixed, given, success⟩ := bind_eq_ok success
  cases success
  simp only [List.map_append, names_classList, names_propList listed, names_fixedList given,
    freeKeys]

theorem addedNames_sublist (kind : Kind) (node : Node) :
    (node.addedNames kind).Sublist ["key", "className", "src", "alt"] := by
  have perhaps (given : Bool) (name : String) : (if given then [name] else []).Sublist [name] := by
    cases given <;> simp
  have fixed : kind.fixedNames.Sublist ["src", "alt"] := by
    cases kind <;> decide
  exact (perhaps _ "key").append ((perhaps _ "className").append fixed)

theorem shownName_plain {name : String} (plain : node.loop.isSome → Unqualified name.toList) :
    node.shownName name = name.toList := by
  unfold shownName loopItem?
  cases looped : node.loop with
  | none => rfl
  | some _ => exact rewritten_plain (plain (by rw [looped]; rfl)) _

/-- Loops leave added names as they are. -/
theorem shownName_added {name : String} (added : name ∈ node.addedNames kind) :
    node.shownName name = name.toList := by
  have plain : ∀ name ∈ ["key", "className", "src", "alt"], Unqualified name.toList := by decide
  exact shownName_plain fun _ => plain name ((node.addedNames_sublist kind).subset added)

/-- The names in a tag are those of the props and those that are added. -/
theorem names_shown (success : node.attributes kind path = .ok attributes) :
    ((node.shownAttributes attributes).map (·.name)).Perm
      ((node.addedNames kind ++ node.freeKeys).map node.shownName) := by
  have shown : (node.shownAttributes attributes).map (·.name) =
      ((if node.loop.isSome then ["key"] else []) ++
        ((if node.className?.isSome then ["className"] else []) ++
          (node.freeKeys ++ kind.fixedNames))).map node.shownName := by
    have names := names_attributes success
    unfold shownAttributes shownName loopItem?
    cases node.loop with
    | none => simpa using names
    | some source =>
      have rewritten := congrArg
        (List.map (Directive.rewritten (Bindings.ofArguments node.loopArgs).item.toList)) names
      rw [List.map_map, List.map_map] at rewritten
      simpa [Attribute.rewritten, Attribute.ofSource, Function.comp_def] using rewritten
  rw [shown, addedNames, List.append_assoc, List.append_assoc]
  refine List.Perm.map _ (List.Perm.append_left _ (List.Perm.append_left _ ?_))
  exact List.perm_append_comm

/-- The names in a tag are distinct exactly if those of the props are, and none of them is one of
the added names. -/
theorem names_nodup_iff (success : node.attributes kind path = .ok attributes) :
    ((node.shownAttributes attributes).map (·.name)).Nodup ↔
      (node.freeKeys.map node.shownName).Nodup ∧
        ∀ name ∈ node.addedNames kind, name.toList ∉ node.freeKeys.map node.shownName := by
  have distinct : ((node.addedNames kind).map String.toList).Nodup := by
    have names : (node.addedNames kind).Nodup :=
      (node.addedNames_sublist kind).nodup (by decide)
    exact List.Nodup.map (fun _ _ => String.toList_inj.mp) names
  have same : (node.addedNames kind).map node.shownName =
      (node.addedNames kind).map String.toList :=
    List.map_congr_left fun _ added => shownName_added added
  rw [(names_shown success).nodup_iff, List.map_append, same, List.nodup_append]
  constructor
  · rintro ⟨-, keys, apart⟩
    exact ⟨keys, fun name added shown => apart _ (List.mem_map_of_mem added) _ shown rfl⟩
  · rintro ⟨keys, apart⟩
    refine ⟨distinct, keys, fun shown added key member same => ?_⟩
    obtain ⟨name, here, rfl⟩ := List.mem_map.mp added
    exact apart name here (same ▸ member)

private theorem mem_addedNames {name : String} : name ∈ node.addedNames kind ↔
    (node.loop.isSome ∧ name = "key") ∨ (node.className?.isSome ∧ name = "className") ∨
      (kind = .image ∧ (name = "src" ∨ name = "alt")) := by
  have fixed : name ∈ kind.fixedNames ↔ kind = .image ∧ (name = "src" ∨ name = "alt") := by
    cases kind <;> simp [Kind.fixedNames]
  rw [addedNames, List.mem_append, List.mem_append, fixed]
  simp [List.mem_ite_nil_right]

/-- Only the `key` of a loop and the `alt` of an image are names that a free prop can have too. -/
theorem addedNames_apart_iff : (∀ name ∈ node.addedNames kind, name ∉ node.freeKeys) ↔
    (kind = .image → "alt" ∉ node.props.map (·.1)) ∧
      (node.loop.isSome → "key" ∉ node.props.map (·.1)) := by
  have free (key : String) (unreserved : key ∉ Markup.reservedProps) :
      key ∈ node.freeKeys ↔ key ∈ node.props.map (·.1) := by
    simp [freeKeys, List.mem_filter, unreserved]
  have reserved (key : String) (kept : key ∈ Markup.reservedProps) : key ∉ node.freeKeys := by
    simp [freeKeys, List.mem_filter, kept]
  rw [← free "alt" (by decide), ← free "key" (by decide)]
  constructor
  · intro apart
    exact ⟨fun image => apart "alt" (mem_addedNames.mpr (.inr (.inr ⟨image, .inr rfl⟩))),
      fun looped => apart "key" (mem_addedNames.mpr (.inl ⟨looped, rfl⟩))⟩
  · rintro ⟨alt, key⟩ name added
    rcases mem_addedNames.mp added with ⟨looped, rfl⟩ | ⟨-, rfl⟩ | ⟨image, rfl | rfl⟩
    · exact key looped
    · exact reserved "className" (by decide)
    · exact reserved "src" (by decide)
    · exact alt image

end Node

namespace Walk

variable {node : Node} {path : Path} {kind : Kind} {context final : Context} {markup : String}

/-- What a node is rendered to has the tag of the node's attributes. Their names are distinct
exactly if those from the props are distinct as they are shown, and differ from the names that are
added. If no loop touches the keys of the props, this is so exactly if an image has no prop `alt`
and a node with a loop no prop `key`. -/
theorem attributes_distinct_iff (known : node.kind? = some kind)
    (once : (node.props.map (·.1)).Nodup) (spares : ∀ item ∈ node.loopItem?, SparesTags item)
    (rendered : (renderNode node path).run context = (.ok (.rendered markup), final)) :
    ∃ shown, node.HasTag kind path shown markup ∧
      ((shown.map (·.name)).Nodup ↔ (node.freeKeys.map node.shownName).Nodup ∧
        ∀ name ∈ node.addedNames kind, name.toList ∉ node.freeKeys.map node.shownName) ∧
      ((node.loop.isSome → ∀ key ∈ node.freeKeys, Unqualified key.toList) →
        ((shown.map (·.name)).Nodup ↔ (kind = .image → "alt" ∉ node.props.map (·.1)) ∧
          (node.loop.isSome → "key" ∉ node.props.map (·.1)))) := by
  obtain ⟨-, success⟩ := renderNode_ok rendered
  obtain ⟨shown, tag⟩ := Node.hasTag known spares success
  refine ⟨shown, tag, ?_⟩
  obtain ⟨attributes, element, looped, given, rfl, -⟩ := tag
  have distinct := Node.names_nodup_iff given
  refine ⟨distinct, fun plain => ?_⟩
  have same : node.freeKeys.map node.shownName = node.freeKeys.map String.toList :=
    List.map_congr_left fun key free => Node.shownName_plain fun looped => plain looped key free
  have keys : (node.freeKeys.map String.toList).Nodup :=
    List.Nodup.map (fun _ _ => String.toList_inj.mp) (once.filter _)
  have member (name : String) :
      name.toList ∈ node.freeKeys.map String.toList ↔ name ∈ node.freeKeys :=
    List.mem_map_of_injective fun _ _ => String.toList_inj.mp
  rw [distinct, same, and_iff_right keys, ← Node.addedNames_apart_iff]
  simp only [member]

/-- A looped image with a class and a title: five attributes, each of them once. -/
theorem attributes_distinct_iff_titled :
    let node := { Node.ofKind "Image" with
      props := [("src", .string "a.png"), ("title", .string "Logo"), ("className", .string "logo")]
      loop := some (.string "\x7b\x7b rows \x7d\x7d") }
    let markup := "rows.map((item:any, index:number) => \x7b\n return (<img key=\x7bindex\x7d " ++
      "className=\x7bstyles.logo\x7d title=\x7b'Logo'\x7d src=\x7b'a.png'\x7d alt='' />);\n\x7d)"
    (∃ final, (renderNode node .root).run (Context.fresh "Home") =
      (.ok (.rendered markup), final)) ∧
    ∃ shown, node.HasTag .image .root shown markup ∧ (shown.map (·.name)).Nodup := by
  intro node markup
  have rendered : (renderNode node .root).run (Context.fresh "Home") =
      (.ok (.rendered markup), _) := run_eq_ok (by decide +kernel)
  have identifier : Directive.IsIdentifier "item".toList := by decide
  have spares : ∀ item ∈ node.loopItem?, SparesTags item := by
    intro item looped
    cases looped
    exact identifier.sparesTags
  have known : node.kind? = some .image := by decide +kernel
  obtain ⟨shown, tag, -, distinct⟩ := attributes_distinct_iff known (by decide) spares rendered
  refine ⟨⟨_, rendered⟩, shown, tag, (distinct fun _ => by decide +kernel).mpr ?_⟩
  exact ⟨fun _ => by decide, fun _ => by decide⟩

/-- An image with a text of its own has it, and then the empty one of its kind. -/
theorem alt_doubled :
    let node := { Node.ofKind "Image" with
      props := [("src", .string "a.png"), ("alt", .string "Logo")] }
    ∃ markup final, (renderNode node .root).run (Context.fresh "Home") =
      (.ok (.rendered markup), final) ∧
      markup = "<img alt=\x7b'Logo'\x7d src=\x7b'a.png'\x7d alt='' />" ∧
      ∃ shown, node.HasTag .image .root shown markup ∧ ¬ (shown.map (·.name)).Nodup := by
  intro node
  refine ⟨_, _, run_eq_ok (by decide +kernel), rfl,
    [.ofSource "alt" "'Logo'", .ofSource "src" "'a.png'", ⟨"alt".toList, "''".toList⟩], ?_, ?_⟩
  · exact ⟨_, _, _, rfl, rfl, ⟨" />".toList, by decide +kernel, .inl rfl⟩, .bare rfl, rfl⟩
  · decide

end Walk

end PanelCompiler
