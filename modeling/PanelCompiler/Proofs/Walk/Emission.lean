import PanelCompiler.Proofs.Walk.OpeningTag
import PanelCompiler.Proofs.Walk.Returns

/-!
Where the markup of a node comes out. It stands in the markup of its parent and goes up with it to
the next container, or to the root. There it is in the source of a component, and every loop on the
way has rewritten it. From one mark of a tag to another it is rewritten as if it stood alone.
-/

namespace PanelCompiler

open Directive (Bindings Unqualified rewritten)

/-- A text in the bodies of loops over these items, the inner loop first. -/
def rewrittenBy (items : List (List Char)) (text : List Char) : List Char :=
  items.foldl (fun text item => rewritten item text) text

/-- A piece of a tag, from one mark to another. -/
def IsPiece (piece : List Char) : Prop :=
  ∃ first ∈ tagMarks, ∃ last ∈ tagMarks, ∃ inner, piece = first :: (inner ++ [last])

section Pieces

variable {items : List (List Char)} {item piece text : List Char}

theorem rewrittenBy_append (first rest : List (List Char)) (text : List Char) :
    rewrittenBy (first ++ rest) text = rewrittenBy rest (rewrittenBy first text) :=
  List.foldl_append

theorem rewrittenBy_plain (plain : Unqualified text) (items : List (List Char)) :
    rewrittenBy items text = text := by
  induction items with
  | nil => rfl
  | cons item rest ih =>
    rw [rewrittenBy, List.foldl_cons, Directive.rewritten_plain plain]
    exact ih

/-- Loops rewrite what is between two marks on its own. -/
theorem rewrittenBy_between {first last : Char} (spares : ∀ item ∈ items, SparesTags item)
    (opening : first ∈ tagMarks) (closing : last ∈ tagMarks) (inner : List Char) :
    rewrittenBy items (first :: (inner ++ [last])) =
      first :: (rewrittenBy items inner ++ [last]) := by
  induction items generalizing inner with
  | nil => rfl
  | cons item rest ih =>
    obtain ⟨own, others⟩ := List.forall_mem_cons.mp spares
    rw [rewrittenBy, List.foldl_cons,
      Directive.rewritten_between own opening closing isMark_of_tag]
    exact ih others _

theorem IsPiece.infix_rewritten (isPiece : IsPiece piece) (spares : SparesTags item)
    (within : piece <:+: text) : Directive.rewritten item piece <:+:
      Directive.rewritten item text := by
  obtain ⟨first, opening, last, closing, inner, rfl⟩ := isPiece
  exact Directive.infix_rewritten spares opening closing isMark_of_tag within

theorem IsPiece.rewrittenBy (isPiece : IsPiece piece) (spares : ∀ item ∈ items, SparesTags item) :
    IsPiece (PanelCompiler.rewrittenBy items piece) := by
  obtain ⟨first, opening, last, closing, inner, rfl⟩ := isPiece
  exact ⟨first, opening, last, closing, _, rewrittenBy_between spares opening closing inner⟩

end Pieces

def Node.loopItems (node : Node) : List (List Char) :=
  node.loopItem?.toList

/-- Where a visited node stands, and the items of the loops around it, from inside out. A container
is a component of its own, so no loop above it is around it. -/
inductive Node.Stands (root : Node) : List Nat → List (List Char) → Node → Prop
  | root : Stands root [] [] root
  | container {above : List Nat} {items : List (List Char)} {parent child : Node} {index : Nat}
      (stands : Stands root above items parent) (box : parent.isBox = true)
      (found : parent.children[index]? = some child) (container : child.isContainer = true) :
      Stands root (above ++ [index]) [] child
  | inline {above : List Nat} {items : List (List Char)} {parent child : Node} {index : Nat}
      (stands : Stands root above items parent) (box : parent.isBox = true)
      (found : parent.children[index]? = some child) (inline : child.isContainer = false) :
      Stands root (above ++ [index]) (parent.loopItems ++ items) child

theorem Path.descend_concat (path : Path) (above : List Nat) (index : Nat) :
    path.descend (above ++ [index]) = (path.descend above).child index := by
  simp [descend, child]

namespace Node

variable {root node : Node} {address : List Nat} {items : List (List Char)}

theorem Visited.stands (visited : Visited root address node) :
    ∃ items, root.Stands address items node := by
  induction visited with
  | root => exact ⟨[], .root⟩
  | @child above parent child index visited box found ih =>
    obtain ⟨items, stands⟩ := ih
    cases container : child.isContainer with
    | true => exact ⟨[], .container stands box found container⟩
    | false => exact ⟨_, .inline stands box found container⟩

theorem Stands.visited (stands : root.Stands address items node) : root.Visited address node := by
  induction stands with
  | root => exact .root
  | container _ box found _ ih => exact .child ih box found
  | inline _ box found _ ih => exact .child ih box found

end Node

namespace Markup

variable {node : Node} {path : Path} {kind : Kind} {text made looped : String}
  {content piece : List Char}

theorem render_within (name render : String) :
    render.toList <:+: (componentSource name render).toList :=
  ⟨("const " ++ name ++ ":React.FC<" ++ name ++ "Props> = (\x7b\x7d) => \x7b\n const [state, " ++
    "setState] = useState([])\nreturn (\n").toList, "\n)\n\x7d".toList, by simp [componentSource]⟩

private theorem content_within {inside : Except CompileError String} (box : kind.isBox = true)
    (parent : node.children ≠ [])
    (success : element kind node path text inside = .ok made) :
    ∃ content, inside = .ok content ∧ '>' :: content.toList <:+: made.toList := by
  have shape : element kind node path text inside = inside.map (boxElement text) := by
    have filled : node.children.isEmpty = false := List.isEmpty_eq_false_iff.mpr parent
    cases kind with
    | text => cases box
    | image => cases box
    | _ => rw [element, filled]; rfl
  rw [shape] at success
  obtain ⟨content, given, rfl⟩ := map_eq_ok success
  exact ⟨content, given, "<div".toList ++ text.toList, "</div>".toList, by simp [boxElement]⟩

/-- A piece of what stands behind a tag is rewritten by the loop around the tag. -/
theorem piece_within_loop (behind : '>' :: content <:+: text.toList) (isPiece : IsPiece piece)
    (within : piece <:+: content) (spares : ∀ item ∈ node.loopItems, SparesTags item)
    (success : withLoop node path text = .ok looped) :
    rewrittenBy node.loopItems piece <:+: looped.toList := by
  have inside {whole : List Char} (behind : '>' :: content <:+: whole) : piece <:+: whole :=
    within.trans ((List.suffix_cons '>' content).isInfix.trans behind)
  unfold withLoop at success
  unfold Node.loopItems Node.loopItem? at spares ⊢
  cases given : node.loop with
  | none =>
    rw [given] at success
    cases success
    exact inside behind
  | some source =>
    rw [given] at success spares
    obtain ⟨sourceText, opening, rest, -, split, rfl⟩ := Directive.wrapLoop_eq_ok success
    have mark : Directive.isOpeningPart '>' = false := by decide +kernel
    have spare : SparesTags (Bindings.ofArguments node.loopArgs).item.toList := spares _ (by simp)
    have key := Directive.infix_keyed mark split behind (Bindings.ofArguments node.loopArgs).index
    have kept := isPiece.infix_rewritten spare (inside key)
    refine List.IsInfix.trans ?_ (Directive.body_within_loop _ _ _)
    rw [Directive.toList_loopBody, String.toList_ofList]
    exact kept

end Markup

namespace Node

variable {root parent child node : Node} {path : Path} {kind : Kind} {markup : String}
  {children : List Node} {index offset : Nat} {piece : List Char} {address : List Nat}
  {items : List (List Char)}

private theorem contentFrom_within {content : String} (found : children[offset]? = some child)
    (inline : child.isContainer = false)
    (success : contentFrom index children path = .ok content) :
    ∃ inner, child.markup (path.child (index + offset)) = .ok inner ∧
      inner.toList <:+: content.toList := by
  induction children generalizing index offset content with
  | nil => cases found
  | cons first rest ih =>
    rw [contentFrom_cons] at success
    obtain ⟨fragment, made, success⟩ := bind_eq_ok success
    obtain ⟨others, remaining, rfl⟩ := map_eq_ok success
    rw [String.toList_append]
    cases offset with
    | zero =>
      cases found
      rw [Node.fragment, inline, if_neg Bool.false_ne_true] at made
      refine ⟨fragment, made, List.IsInfix.trans ?_ (List.prefix_append _ _).isInfix⟩
      unfold Markup.embed
      split
      · exact ⟨['\x7b'], ['\x7d'], by simp⟩
      · exact List.infix_rfl
    | succ offset =>
      obtain ⟨inner, rendered, within⟩ := ih found remaining
      rw [Nat.add_right_comm] at rendered
      exact ⟨inner, rendered, within.trans (List.suffix_append _ _).isInfix⟩

/-- The markup of a child is in that of its parent, piece by piece, rewritten by the loop of the
parent. -/
theorem child_within (box : parent.isBox = true) (found : parent.children[index]? = some child)
    (inline : child.isContainer = false) (spares : ∀ item ∈ parent.loopItems, SparesTags item)
    (rendered : parent.markup path = .ok markup) :
    ∃ inner, child.markup (path.child index) = .ok inner ∧
      ∀ piece, IsPiece piece → piece <:+: inner.toList →
        rewrittenBy parent.loopItems piece <:+: markup.toList := by
  cases known : parent.kind? with
  | none =>
    rw [isBox_unknown known] at box
    cases box
  | some kind =>
    rw [isBox_known known] at box
    have filled : parent.children ≠ [] := List.ne_nil_of_mem (List.mem_of_getElem? found)
    rw [Node.markup_known known] at rendered
    obtain ⟨attributes, -, rendered⟩ := bind_eq_ok rendered
    obtain ⟨element, made, rendered⟩ := bind_eq_ok rendered
    obtain ⟨looped, wrapped, rendered⟩ := bind_eq_ok rendered
    obtain ⟨content, inside, behind⟩ := Markup.content_within box filled made
    obtain ⟨inner, written, within⟩ := contentFrom_within found inline inside
    rw [Nat.zero_add] at written
    refine ⟨inner, written, fun piece isPiece part => ?_⟩
    exact (Markup.piece_within_loop behind isPiece (part.trans within) spares wrapped).trans
      (Markup.within_condition rendered)

end Node

/-- The markup of a node comes out in one of the components, piece by piece, as loops over these
items rewrite it. -/
def ComesOut (components : List Component) (items : List (List Char)) (node : Node) (path : Path) :
    Prop :=
  ∃ component ∈ components, ∃ markup, node.markup path = .ok markup ∧
    ∀ piece, IsPiece piece → piece <:+: markup.toList →
      rewrittenBy items piece <:+: component.source.toList

namespace Walk

variable {schema node : Node} {context final : Context} {address : List Nat}
  {items : List (List Char)}

/-- What is rendered to a component comes out as it is. -/
theorem comesOut_of_renders {visit : Visit} {component : Component} {components : List Component}
    (member : component ∈ components) (renders : visit.Renders component) :
    ComesOut components [] visit.node visit.path := by
  obtain ⟨markup, rendered, source⟩ := renders
  refine ⟨component, member, markup, rendered, fun piece _ within => within.trans ?_⟩
  rw [source]
  exact Markup.render_within component.name markup

private theorem mem_componentVisits (visited : schema.Visited address node)
    (emitted : address = [] ∨ node.isContainer = true) :
    ⟨node, Path.root.descend address⟩ ∈ schema.componentVisits := by
  have visit : ⟨node, Path.root.descend address⟩ ∈ schema.visits Path.root :=
    Node.mem_visits.mpr ⟨address, rfl, visited⟩
  unfold Node.componentVisits
  cases container : node.isContainer with
  | true => exact List.mem_append_right _ (List.mem_filter.mpr ⟨visit, container⟩)
  | false =>
    obtain rfl : address = [] := emitted.resolve_right (by simp [container])
    cases visited.at?
    rw [container, if_neg Bool.false_ne_true, Path.descend_nil]
    exact List.mem_append_left _ List.mem_cons_self

/-- Every visited node comes out, rewritten by the loops around it. -/
theorem comesOut (success : (transformSchema schema).run context = (.ok (), final))
    (stands : schema.Stands address items node) (spares : ∀ item ∈ items, SparesTags item) :
    ComesOut final.components items node (Path.root.descend address) := by
  obtain ⟨added, all, renders⟩ := transformSchema_renders success
  have emitted {visit : Visit} (member : visit ∈ schema.componentVisits) :
      ComesOut final.components [] visit.node visit.path := by
    obtain ⟨component, within, renders⟩ := exists_match renders member
    exact comesOut_of_renders (all ▸ List.mem_append_right _ within) renders
  induction stands with
  | root => exact emitted (mem_componentVisits .root (.inl rfl))
  | container stands box found container =>
    exact emitted (mem_componentVisits (.child stands.visited box found) (.inr container))
  | @inline above items parent child index stands box found inline ih =>
    obtain ⟨own, around⟩ := List.forall_mem_append.mp spares
    obtain ⟨component, member, markup, rendered, kept⟩ := ih around
    obtain ⟨inner, written, within⟩ := Node.child_within box found inline own rendered
    rw [← Path.descend_concat] at written
    refine ⟨component, member, inner, written, fun piece isPiece part => ?_⟩
    rw [rewrittenBy_append]
    exact kept _ (isPiece.rewrittenBy own) (within piece isPiece part)

end Walk

end PanelCompiler
