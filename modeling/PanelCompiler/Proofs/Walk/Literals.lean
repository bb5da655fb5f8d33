import PanelCompiler.Proofs.Directive.Literal
import PanelCompiler.Proofs.Text.Quoted
import PanelCompiler.Proofs.Walk.OwnMarkup

/-!
Literals of a node with a loop. The loop rewrites finished markup, and cannot tell the text of a
literal from code: a literal stays as it is exactly if no word in it begins with the qualifier, and
so does an array that is looped over.
-/

namespace PanelCompiler

open Directive (Bindings Enclosed SparesLiterals Unqualified loopText)

/-- A literal of a node, as it stands in the element of the node, and the same with the marks around
it: the text of a text node between its tags, other literals in quotes. -/
inductive Node.Shows (node : Node) : List Char → List Char → Prop
  | text {value : Json} {text : String} (isText : node.kind? = some .text)
    (given : node.props.get? "text" = some value)
    (literal : ValueClass.ofJson value = .literal text) :
    Shows node text.toList ('>' :: (text.toList ++ "</span>".toList))
  | prop {key text : String} {value : Json} (given : (key, value) ∈ node.props)
    (free : key ∉ Markup.reservedProps)
    (literal : ValueClass.ofJson value = .literal text) :
    Shows node (Text.Quoted.encode text.toList) (Text.Quoted.quote text).toList
  | source {value : Json} {text : String} (isImage : node.kind? = some .image)
    (given : node.props.get? "src" = some value)
    (literal : ValueClass.ofJson value = .literal text) :
    Shows node (Text.Quoted.encode text.toList) (Text.Quoted.quote text).toList

namespace Markup

variable {node : Node} {path : Path} {attributes made text : String} {value : Json}

private theorem attribute_within {props : Fields} {key : String} (given : (key, value) ∈ props)
    (free : key ∉ reservedProps) (success : propAttributes path props = .ok made) :
    ∃ source, value.toSource .attribute (path.field key) = .ok source ∧
      source.toList <:+: made.toList := by
  induction props generalizing made with
  | nil => cases given
  | cons prop rest ih =>
    obtain ⟨first, other⟩ := prop
    unfold propAttributes at success
    split at success
    · rename_i reserved
      rw [List.contains_iff_mem] at reserved
      rcases List.mem_cons.mp given with same | later
      · cases same
        exact absurd reserved free
      · exact ih later success
    · obtain ⟨source, written, success⟩ := bind_eq_ok success
      obtain ⟨others, remaining, success⟩ := bind_eq_ok success
      rw [← Except.ok.inj success, String.toList_append]
      rcases List.mem_cons.mp given with same | later
      · cases same
        exact ⟨source, written, " ".toList ++ (key.toList ++ "=\x7b".toList),
          "\x7d".toList ++ others.toList, by simp [attributeText]⟩
      · obtain ⟨source, written, within⟩ := ih later remaining
        exact ⟨source, written, within.trans (List.suffix_append _ _).isInfix⟩

private theorem attributes_within {kind : Kind} {content : Except CompileError String}
    (success : element kind node path attributes content = .ok made) :
    attributes.toList <:+: made.toList := by
  have box (success : (if node.children.isEmpty then .ok (emptyElement attributes)
      else content.map (boxElement attributes)) = .ok made) :
      attributes.toList <:+: made.toList := by
    split at success
    · rw [← Except.ok.inj success]
      exact ⟨"<div".toList, " />".toList, by simp [emptyElement]⟩
    · obtain ⟨inner, _, success⟩ := map_eq_ok success
      rw [← success]
      exact ⟨"<div".toList, '>' :: (inner.toList ++ "</div>".toList), by simp [boxElement]⟩
  cases kind with
  | text =>
    obtain ⟨inner, _, success⟩ := map_eq_ok success
    rw [← success]
    exact ⟨"<span".toList, '>' :: (inner.toList ++ "</span>".toList), by simp [textElement]⟩
  | image =>
    obtain ⟨source, _, success⟩ := map_eq_ok success
    rw [← success]
    exact ⟨"<img".toList, " src=\x7b".toList ++ (source.toList ++ "\x7d alt='' />".toList),
      by simp [imageElement]⟩
  | page => exact box success
  | block => exact box success
  | component => exact box success
  | div => exact box success

end Markup

namespace Node.Shows

variable {node : Node} {literal shown : List Char}

/-- What is shown is a text between two marks, in which a qualifier begins only if one does in the
literal. -/
theorem enclosed (shows : node.Shows literal shown) :
    ∃ inner, Enclosed inner shown ∧ (Unqualified inner ↔ Unqualified literal) := by
  have quoted (text : String) : Enclosed (Text.Quoted.encode text.toList)
      (Text.Quoted.quote text).toList :=
    ⟨'\'', by decide, '\'', by decide, by simp [Text.Quoted.quote]⟩
  cases shows with
  | @text value text =>
    have tag : "</span>".toList = "</span".toList ++ ['>'] := by decide
    refine ⟨text.toList ++ "</span".toList, ⟨'>', by decide, '>', by decide, ?_⟩, ?_⟩
    · rw [tag, List.append_assoc]
    · exact Directive.unqualified_append (by decide +kernel) (by decide)
  | prop => exact ⟨_, quoted _, Iff.rfl⟩
  | source => exact ⟨_, quoted _, Iff.rfl⟩

private theorem within (shows : node.Shows literal shown) {kind : Kind}
    (known : node.kind? = some kind)
    {path : Path} {attributes element : String} {content : Except CompileError String}
    (listed : Markup.propAttributes (path.field "props") node.props = .ok attributes)
    (made : Markup.element kind node path (Markup.classAttribute node ++ attributes) content =
      .ok element) : shown <:+: element.toList := by
  cases shows with
  | text isText given literal =>
    cases known.symm.trans isText
    obtain ⟨inner, written, made⟩ := map_eq_ok made
    rw [Markup.textContent, given] at written
    cases written.symm.trans (Json.toSource_literal literal _).2
    rw [← made]
    exact ⟨"<span".toList ++ (Markup.classAttribute node ++ attributes).toList, [],
      by simp [Markup.textElement]⟩
  | prop given free literal =>
    obtain ⟨source, written, inside⟩ := Markup.attribute_within given free listed
    cases written.symm.trans (Json.toSource_literal literal _).1
    have behind : attributes.toList <:+: (Markup.classAttribute node ++ attributes).toList := by
      rw [String.toList_append]
      exact (List.suffix_append _ _).isInfix
    exact inside.trans (behind.trans (Markup.attributes_within made))
  | source isImage given literal =>
    cases known.symm.trans isImage
    obtain ⟨inner, written, made⟩ := map_eq_ok made
    rw [Markup.imageSource, given] at written
    cases written.symm.trans (Json.toSource_literal literal _).1
    rw [← made]
    exact ⟨("<img" ++ (Markup.classAttribute node ++ attributes) ++ " src=\x7b").toList,
      "\x7d alt='' />".toList, by simp [Markup.imageElement]⟩

end Node.Shows

namespace Walk

variable {node : Node} {path : Path} {context final : Context} {source : Json} {markup : String}

theorem renderNode_ok
    (rendered : (renderNode node path).run context = (.ok (.rendered markup), final)) :
    (∃ kind, node.kind? = some kind) ∧ node.markup path = .ok markup := by
  have inner : Yields (transformChildren node.children path)
      (Node.contentFrom 0 node.children path) :=
    transformFrom_yields (fun child _ path => transformNode_yields child path) 0 path
  cases known : node.kind? with
  | none =>
    rw [renderNode, renderWith, known] at rendered
    cases rendered
  | some kind =>
    refine ⟨⟨kind, rfl⟩, ?_⟩
    have marked : (markupWith (transformChildren node.children path) node path).run context =
        (.ok markup, final) := by
      rw [renderNode] at rendered
      rw [markupWith, run_bind, rendered]
      rfl
    rw [markupWith_known known] at marked
    exact renderKnown_yields inner known context markup final marked

/-- Of a node with a loop, what is rendered is a loop around its element. If the loop runs over an
array, the array stands in front of it as it is exactly if no word in it begins with the qualifier.
A literal that the element shows is in the body of the loop only if no word in it begins with the
qualifier, and then it is, unless the name of the item does not spare literals. -/
theorem literals_kept_iff (looped : node.loop = some source)
    (rendered : (renderNode node path).run context = (.ok (.rendered markup), final)) :
    let bindings := Bindings.ofArguments node.loopArgs
    ∃ sourceText body,
      Markup.withCondition node path (loopText sourceText bindings body) = .ok markup ∧
      (∀ items, source = .array items →
        (sourceText = source.serialize ↔ Unqualified source.serialize.toList)) ∧
      ∀ literal shown, node.Shows literal shown →
        (shown <:+: body.toList → Unqualified literal) ∧
        (SparesLiterals bindings.item.toList → Unqualified literal → shown <:+: body.toList) := by
  intro bindings
  obtain ⟨⟨kind, known⟩, success⟩ := renderNode_ok rendered
  rw [Node.markup_known known] at success
  obtain ⟨attributes, listed, success⟩ := bind_eq_ok success
  obtain ⟨element, made, success⟩ := bind_eq_ok success
  obtain ⟨loop, wrapped, success⟩ := bind_eq_ok success
  rw [Markup.withLoop, looped] at wrapped
  obtain ⟨text, opening, rest, given, opens, rfl⟩ := Directive.wrapLoop_eq_ok wrapped
  refine ⟨_, _, success, ?_, ?_⟩
  · rintro items rfl
    cases given
    rw [← Directive.stripQualifiers_eq_self_iff, ← String.toList_inj, String.toList_ofList]
  · intro literal shown shows
    obtain ⟨inner, enclosed, same⟩ := shows.enclosed
    constructor
    · intro inside
      exact same.mp (enclosed.unqualified_of_loopBody inside)
    · intro spares plain
      have inside := enclosed.infix_keyed opens (shows.within known listed made) bindings.index
      exact enclosed.infix_loopBody spares (same.mpr plain) inside

/-- A text with a title, for each item of an array. -/
theorem literals_kept_iff_titled :
    let source := Json.array [.string "this one", .string "that one"]
    let node := { Node.ofKind "Text" with
      props := [("text", .string "Read this, now."), ("title", .string "It's this")]
      loop := some source }
    let markup := "[\"this one\",\"that one\"].map((item:any, index:number) => \x7b\n return " ++
      "(<span key=\x7bindex\x7d title=\x7b'It\\'s this'\x7d>Read this, now.</span>);\n\x7d)"
    (∃ final, (renderNode node .root).run (Context.fresh "Home") =
      (.ok (.rendered markup), final)) ∧
    ∃ sourceText body, loopText sourceText ⟨"item", "index"⟩ body = markup ∧
      sourceText = source.serialize ∧
      ">Read this, now.</span>".toList <:+: body.toList ∧
      (Text.Quoted.quote "It's this").toList <:+: body.toList := by
  intro source node markup
  have rendered : (renderNode node .root).run (Context.fresh "Home") =
      (.ok (.rendered markup), _) := run_eq_ok (by decide +kernel)
  obtain ⟨sourceText, body, success, array, literals⟩ := literals_kept_iff rfl rendered
  have identifier : Directive.IsIdentifier "item".toList := by decide
  have text : node.Shows "Read this, now.".toList ">Read this, now.</span>".toList :=
    .text (by decide +kernel) rfl rfl
  have title : node.Shows (Text.Quoted.encode "It's this".toList)
      (Text.Quoted.quote "It's this").toList :=
    .prop (List.mem_cons_of_mem _ List.mem_cons_self) (by decide) rfl
  refine ⟨⟨_, rendered⟩, sourceText, body, Except.ok.inj success, (array _ rfl).mpr ?_, ?_, ?_⟩
  · decide +kernel
  · exact (literals _ _ text).2 identifier.sparesLiterals (by decide +kernel)
  · exact (literals _ _ title).2 identifier.sparesLiterals (by decide +kernel)

/-- A sentence that ends with the word `this` loses the word and the point. -/
theorem literal_lost :
    let node := { Node.ofKind "Text" with
      props := [("text", .string "Read this. Now.")]
      loop := some (.string "\x7b\x7b rows \x7d\x7d") }
    node.Shows "Read this. Now.".toList ">Read this. Now.</span>".toList ∧
    ∃ markup final, (renderNode node .root).run (Context.fresh "Home") =
      (.ok (.rendered markup), final) ∧
      markup = "rows.map((item:any, index:number) => \x7b\n return (<span key=\x7bindex\x7d>" ++
        "Read  Now.</span>);\n\x7d)" ∧
      ¬ ">Read this. Now.</span>".toList <:+: markup.toList := by
  intro node
  refine ⟨.text (by decide +kernel) rfl rfl, _, _, run_eq_ok (by decide +kernel), rfl, ?_⟩
  decide +kernel

end Walk

end PanelCompiler
