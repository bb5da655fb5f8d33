import PanelCompiler.Proofs.Directive.Marks
import PanelCompiler.Proofs.Directive.Template
import PanelCompiler.Proofs.Walk.OwnMarkup

/-!
The opening tag of a node's element: the start of the tag and a list of attributes, each of them
with a name and a value. The key of a loop goes in front of the attributes, and the rewriting of the
loop's body goes through them one by one.
-/

namespace PanelCompiler

open Directive (Bindings IsMark Spares isTagPart loopText rewritten_plain splitOpeningTag?)

/-- An attribute of a tag, as it is written. -/
structure Attribute where
  name : List Char
  value : List Char

namespace Attribute

def ofSource (name source : String) : Attribute :=
  ⟨name.toList, '\x7b' :: (source.toList ++ ['\x7d'])⟩

def text (entry : Attribute) : List Char :=
  ' ' :: (entry.name ++ '=' :: entry.value)

/-- An attribute in the body of a loop. -/
def rewritten (item : List Char) (entry : Attribute) : Attribute :=
  ⟨Directive.rewritten item entry.name, Directive.rewritten item entry.value⟩

end Attribute

def Attribute.listText (attributes : List Attribute) : List Char :=
  attributes.flatMap text

theorem Attribute.head_listText {allowed : Char → Prop} {rest : List Char} (blank : allowed ' ')
    (attributes : List Attribute) (next : ∀ c ∈ rest.head?, allowed c) :
    ∀ c ∈ (listText attributes ++ rest).head?, allowed c := by
  cases attributes with
  | nil => exact next
  | cons => simpa [listText, text] using blank

section Marks

def tagMarks : List Char :=
  ['<', '>', '/', ' ', '=', '\x7b', '\x7d']

theorem isMark_of_tag : ∀ mark ∈ tagMarks, IsMark mark := by
  intro mark marked
  have outside : tagMarks.all
      (fun mark => !Text.isWord mark && !Directive.qualifier.contains mark) = true := by
    decide +kernel
  obtain ⟨outside, apart⟩ : Text.isWord mark = false ∧ mark ∉ Directive.qualifier := by
    simpa using List.all_eq_true.mp outside mark marked
  exact ⟨outside, apart⟩

/-- A name of an item that leaves tags alone. -/
def SparesTags (name : List Char) : Prop :=
  Spares tagMarks name

instance (name : List Char) : Decidable (SparesTags name) :=
  inferInstanceAs (Decidable (Spares tagMarks name))

theorem Directive.IsIdentifier.sparesTags {name : List Char}
    (identifier : Directive.IsIdentifier name) : SparesTags name :=
  .inr (.of_class (by decide) identifier.parts)

variable {item : List Char} (spares : SparesTags item)
include spares

/-- A loop rewrites the names and values of attributes one by one. -/
theorem rewritten_attributes (attributes : List Attribute) {rest : List Char}
    (cut : ∀ c ∈ rest.head?, c ∈ tagMarks) :
    Directive.rewritten item (Attribute.listText attributes ++ rest) =
      Attribute.listText (attributes.map (·.rewritten item)) ++ Directive.rewritten item rest := by
  induction attributes with
  | nil => rfl
  | cons entry others ih =>
    have blank : ' ' ∈ tagMarks := by decide
    have behind := Attribute.head_listText blank others cut
    have whole : Attribute.listText (entry :: others) ++ rest =
        ' ' :: (entry.name ++ '=' :: (entry.value ++
          (Attribute.listText others ++ rest))) := by
      simp [Attribute.listText, Attribute.text]
    rw [whole, Directive.rewritten_cons spares (by decide) (isMark_of_tag _ (by decide)),
      Directive.rewritten_mark spares (by decide) (isMark_of_tag _ (by decide)),
      Directive.rewritten_append spares isMark_of_tag behind, ih]
    simp [Attribute.listText, Attribute.text, Attribute.rewritten]

end Marks

namespace Kind

/-- What the tag of an element begins with. -/
def tagStart : Kind → String
  | .text => "<span"
  | .image => "<img"
  | .page | .block | .component | .div => "<div"

theorem tagStart_begins (kind : Kind) : ∃ name, kind.tagStart.toList = '<' :: name := by
  cases kind <;> exact ⟨_, rfl⟩

end Kind

namespace Markup

def classList (node : Node) : List Attribute :=
  match node.className? with
  | some className => [.ofSource "className" ("styles." ++ className)]
  | none => []

def propList (path : Path) : Fields → Except CompileError (List Attribute)
  | [] => .ok []
  | (key, value) :: rest =>
    if reservedProps.contains key then propList path rest
    else do
      let source ← value.toSource .attribute (path.field key)
      let others ← propList path rest
      return .ofSource key source :: others

def fixedList (kind : Kind) (node : Node) (path : Path) : Except CompileError (List Attribute) :=
  match kind with
  | .image => do
    let source ← imageSource node (path.field "props")
    return [.ofSource "src" source, ⟨"alt".toList, "''".toList⟩]
  | .text | .page | .block | .component | .div => .ok []

end Markup

/-- The attributes of the element of a node: its class, its props, and those of its kind. -/
def Node.attributes (kind : Kind) (node : Node) (path : Path) :
    Except CompileError (List Attribute) := do
  let props ← Markup.propList (path.field "props") node.props
  let fixed ← Markup.fixedList kind node path
  return Markup.classList node ++ (props ++ fixed)

def ClosesTag (behind : List Char) : Prop :=
  behind = " />".toList ∨ behind.head? = some '>'

/-- A tag of these attributes, up to its end. -/
def tagText (kind : Kind) (attributes : List Attribute) : List Char :=
  kind.tagStart.toList ++ Attribute.listText attributes

theorem tagText_append (kind : Kind) (first rest : List Attribute) :
    tagText kind (first ++ rest) = tagText kind first ++ Attribute.listText rest := by
  simp [tagText, Attribute.listText]

/-- A text that begins with a tag of these attributes. -/
def Opens (kind : Kind) (attributes : List Attribute) (text : List Char) : Prop :=
  ∃ behind, text = tagText kind attributes ++ behind ∧ ClosesTag behind

/-- A loop leaves the start of a tag, and rewrites its attributes one by one. -/
theorem rewritten_tagText {item : List Char} (spares : SparesTags item) (kind : Kind)
    (attributes : List Attribute) {rest : List Char} (cut : ∀ c ∈ rest.head?, c ∈ tagMarks) :
    Directive.rewritten item (tagText kind attributes ++ rest) =
      tagText kind (attributes.map (·.rewritten item)) ++ Directive.rewritten item rest := by
  have start : Directive.rewritten item kind.tagStart.toList = kind.tagStart.toList := by
    cases kind <;> exact rewritten_plain (by decide) item
  have blank : ' ' ∈ tagMarks := by decide
  have behind := Attribute.head_listText blank attributes cut
  rw [tagText, List.append_assoc, Directive.rewritten_append spares isMark_of_tag behind, start,
    rewritten_attributes spares attributes cut, tagText, List.append_assoc]

namespace Markup

variable {node : Node} {path : Path} {kind : Kind} {made text : String}

private theorem classAttribute_text (node : Node) :
    (classAttribute node).toList = Attribute.listText (classList node) := by
  unfold classAttribute classList
  cases node.className? with
  | none => rfl
  | some className => simp [Attribute.listText, Attribute.text, Attribute.ofSource]

private theorem propAttributes_text {props : Fields}
    (success : propAttributes path props = .ok text) :
    ∃ attributes, propList path props = .ok attributes ∧
      text.toList = Attribute.listText attributes := by
  induction props generalizing text with
  | nil =>
    cases success
    exact ⟨[], rfl, rfl⟩
  | cons prop rest ih =>
    obtain ⟨key, value⟩ := prop
    unfold propAttributes at success
    unfold propList
    split at success
    · rename_i reserved
      rw [if_pos reserved]
      exact ih success
    · rename_i free
      rw [if_neg free]
      obtain ⟨source, written, success⟩ := bind_eq_ok success
      obtain ⟨others, remaining, success⟩ := bind_eq_ok success
      obtain ⟨attributes, listed, same⟩ := ih remaining
      cases success
      refine ⟨.ofSource key source :: attributes, by rw [written, listed]; rfl, ?_⟩
      simp [attributeText, same, Attribute.listText, Attribute.text, Attribute.ofSource]

/-- An element is the start of its tag, the attributes that it is given, those of its kind, and the
rest. -/
theorem element_text {content : Except CompileError String}
    (success : element kind node path text content = .ok made) :
    ∃ fixed behind, fixedList kind node path = .ok fixed ∧
      made.toList = kind.tagStart.toList ++
        (text.toList ++ (Attribute.listText fixed ++ behind)) ∧ ClosesTag behind := by
  have box (start : kind.tagStart = "<div") (free : fixedList kind node path = .ok [])
      (success : (if node.children.isEmpty then .ok (emptyElement text)
        else content.map (boxElement text)) = .ok made) :
      ∃ fixed behind, fixedList kind node path = .ok fixed ∧
        made.toList = kind.tagStart.toList ++
          (text.toList ++ (Attribute.listText fixed ++ behind)) ∧ ClosesTag behind := by
    rw [start]
    split at success
    · cases success
      exact ⟨[], " />".toList, free, by simp [emptyElement, Attribute.listText], .inl rfl⟩
    · obtain ⟨inner, -, rfl⟩ := map_eq_ok success
      exact ⟨[], '>' :: (inner.toList ++ "</div>".toList), free,
        by simp [boxElement, Attribute.listText], .inr rfl⟩
  cases kind with
  | text =>
    obtain ⟨inner, -, rfl⟩ := map_eq_ok success
    exact ⟨[], '>' :: (inner.toList ++ "</span>".toList), rfl,
      by simp [textElement, Kind.tagStart, Attribute.listText], .inr rfl⟩
  | image =>
    obtain ⟨source, given, rfl⟩ := map_eq_ok success
    refine ⟨_, " />".toList, by rw [fixedList, given]; rfl, ?_, .inl rfl⟩
    simp [imageElement, Kind.tagStart, Attribute.listText, Attribute.text, Attribute.ofSource]
  | page => exact box rfl rfl success
  | block => exact box rfl rfl success
  | component => exact box rfl rfl success
  | div => exact box rfl rfl success

theorem element_opens {content : Except CompileError String}
    (listed : propAttributes (path.field "props") node.props = .ok text)
    (success : element kind node path (classAttribute node ++ text) content = .ok made) :
    ∃ attributes, node.attributes kind path = .ok attributes ∧
      Opens kind attributes made.toList := by
  obtain ⟨props, listed, same⟩ := propAttributes_text listed
  obtain ⟨fixed, behind, given, whole, closes⟩ := element_text success
  refine ⟨classList node ++ (props ++ fixed), by rw [Node.attributes, listed, given]; rfl,
    behind, ?_, closes⟩
  rw [whole, String.toList_append, classAttribute_text, same]
  simp [tagText, Attribute.listText]

end Markup

namespace Opens

variable {kind : Kind} {attributes : List Attribute} {behind text : List Char}

theorem cut_behind (closes : ClosesTag behind) : ∀ c ∈ behind.head?, c = ' ' ∨ c = '>' := by
  intro c first
  rcases closes with rfl | closing
  · cases first
    exact .inl rfl
  · cases first.symm.trans closing
    exact .inr rfl

/-- A text is cut behind the start of its tag. -/
theorem split_start (kind : Kind) {rest : List Char}
    (cut : ∀ c ∈ rest.head?, c = ' ' ∨ c = '>') :
    splitOpeningTag? (kind.tagStart.toList ++ rest) = some (kind.tagStart.toList, rest) := by
  have stops : rest.takeWhile isTagPart = [] ∧ rest.dropWhile isTagPart = rest := by
    cases rest with
    | nil => exact ⟨rfl, rfl⟩
    | cons c rest =>
      have outside : isTagPart c = false := by
        rcases cut c rfl with rfl | rfl <;> decide +kernel
      simp [outside]
  obtain ⟨c, letters, start, letter, word⟩ : ∃ c letters,
      kind.tagStart.toList = '<' :: c :: letters ∧ Text.isAsciiLetter c = true ∧
        letters.all isTagPart = true := by
    cases kind <;> exact ⟨_, _, rfl, by decide, by decide +kernel⟩
  have parts : ∀ d ∈ letters, isTagPart d = true := List.all_eq_true.mp word
  have shown : Text.isBlank '<' = false := by decide
  rw [start, splitOpeningTag?]
  simp [shown, letter, List.takeWhile_append_of_pos parts, List.dropWhile_append_of_pos parts,
    stops]

private theorem keyed (opens : Opens kind attributes text) {opening rest : List Char}
    (split : splitOpeningTag? text = some (opening, rest)) (index : String) :
    Opens kind (.ofSource "key" index :: attributes) (Directive.keyed opening rest index) := by
  obtain ⟨behind, rfl, closes⟩ := opens
  have cut := Attribute.head_listText (.inl rfl) attributes (cut_behind closes)
  rw [tagText, List.append_assoc, split_start kind cut] at split
  cases split
  refine ⟨behind, ?_, closes⟩
  simp [Directive.keyed, Directive.keyAttribute, tagText, Attribute.listText, Attribute.text,
    Attribute.ofSource]

/-- In the body of a loop a tag keeps its start, and its attributes are rewritten one by one. -/
theorem rewritten (opens : Opens kind attributes text) {item : List Char}
    (spares : SparesTags item) :
    Opens kind (attributes.map (·.rewritten item)) (Directive.rewritten item text) := by
  obtain ⟨behind, rfl, closes⟩ := opens
  have cut : ∀ c ∈ behind.head?, c ∈ tagMarks := by
    intro c first
    rcases cut_behind closes c first with rfl | rfl <;> decide
  refine ⟨_, rewritten_tagText spares kind attributes cut, ?_⟩
  rcases closes with rfl | closing
  · exact .inl (rewritten_plain (by decide) item)
  · obtain ⟨rest, rfl⟩ := List.head?_eq_some_iff.mp closing
    rw [Directive.rewritten_cons spares (by decide) (isMark_of_tag _ (by decide))]
    exact .inr rfl

end Opens

namespace Node

/-- The attributes of a node as they are shown: in a loop, behind the key and rewritten. -/
def shownAttributes (node : Node) (attributes : List Attribute) : List Attribute :=
  match node.loop with
  | none => attributes
  | some _ =>
    let bindings := Bindings.ofArguments node.loopArgs
    (.ofSource "key" bindings.index :: attributes).map (·.rewritten bindings.item.toList)

def loopItem? (node : Node) : Option (List Char) :=
  node.loop.map fun _ => (Bindings.ofArguments node.loopArgs).item.toList

/-- Around the element of a node, with its key, there is the loop of the node, if it has one. -/
inductive Around (node : Node) (element : String) : String → Prop
  | bare (unlooped : node.loop = none) : Around node element element
  | looped {source : Json} (given : node.loop = some source) (sourceText : String) :
    Around node element (loopText sourceText (Bindings.ofArguments node.loopArgs) element)

/-- The markup of a node of this kind is an element between the directives of the node, and the tag
of the element shows these attributes. -/
def HasTag (node : Node) (kind : Kind) (path : Path) (shown : List Attribute) (markup : String) :
    Prop :=
  ∃ attributes element looped, node.attributes kind path = .ok attributes ∧
    shown = node.shownAttributes attributes ∧ Opens kind shown element.toList ∧
    node.Around element looped ∧ Markup.withCondition node path looped = .ok markup

variable {node : Node} {path : Path} {kind : Kind} {attributes : List Attribute}
  {element looped markup : String}

private theorem withLoop_opens (opens : Opens kind attributes element.toList)
    (spares : ∀ item ∈ node.loopItem?, SparesTags item)
    (success : Markup.withLoop node path element = .ok looped) :
    ∃ shown, node.Around shown looped ∧
      Opens kind (node.shownAttributes attributes) shown.toList := by
  unfold Markup.withLoop at success
  unfold shownAttributes
  cases given : node.loop with
  | none =>
    rw [given] at success
    cases success
    exact ⟨element, .bare given, opens⟩
  | some source =>
    rw [given] at success
    obtain ⟨sourceText, opening, rest, -, split, rfl⟩ := Directive.wrapLoop_eq_ok success
    refine ⟨_, .looped given _, ?_⟩
    rw [Directive.toList_loopBody, String.toList_ofList]
    exact (opens.keyed split _).rewritten (spares _ (by simp [loopItem?, given]))

/-- The markup of every node of a known kind has a tag of the node's attributes. -/
theorem hasTag (known : node.kind? = some kind) (spares : ∀ item ∈ node.loopItem?, SparesTags item)
    (rendered : node.markup path = .ok markup) :
    ∃ shown, node.HasTag kind path shown markup := by
  rw [Node.markup_known known] at rendered
  obtain ⟨text, listed, rendered⟩ := bind_eq_ok rendered
  obtain ⟨bare, made, rendered⟩ := bind_eq_ok rendered
  obtain ⟨looped, wrapped, rendered⟩ := bind_eq_ok rendered
  obtain ⟨attributes, given, opens⟩ := Markup.element_opens listed made
  obtain ⟨element, around, opens⟩ := withLoop_opens opens spares wrapped
  exact ⟨_, attributes, element, looped, given, rfl, opens, around, rendered⟩

end Node

end PanelCompiler
