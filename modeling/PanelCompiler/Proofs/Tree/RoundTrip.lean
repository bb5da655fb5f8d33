import PanelCompiler.Proofs.Tree.Keys

namespace PanelCompiler

open Json (Document Medium Reader Content BindsOnce)
open Json.Document (Draft ReadsBack)
open Node (jsonOfOption)

namespace Json

/-- A value that can stand where `null` means that there is none. -/
structure Given (value : Json) : Prop where
  once : value.BindsOnce
  present : value ≠ .null

namespace Document

variable {α : Type} {read : Document → Reader α} {write : α → Json} {value? : Option α}

theorem readOption_of_ne {document : Document} (given : document ≠ .null) :
    readOption read document = read document >>= fun value => .ok (some value) := by
  cases document with
  | null => exact absurd rfl given
  | _ => rfl

/-- A value that is present was read, and from something else than `null`. -/
theorem readOption_ok {document : Document} (success : readOption read document = .ok value?) :
    ∀ value ∈ value?, read document = .ok value ∧ document ≠ .null := by
  intro value member
  cases member
  by_cases absent : document = .null
  · rw [absent] at success
    cases success
  · rw [readOption_of_ne absent] at success
    obtain ⟨made, read, success⟩ := Reader.bind_ok success
    cases success
    exact ⟨read, absent⟩

/-- What is absent is written as `null`, and nothing else is. -/
theorem ReadsBack.option
    (back : ∀ value ∈ value?, ReadsBack read write value ∧ write value ≠ .null) :
    ReadsBack (readOption read) (jsonOfOption write) value? := by
  cases value? with
  | none => rfl
  | some value =>
    obtain ⟨restored, present⟩ := back value rfl
    have given : ofJson (write value) ≠ .null := by
      intro absent
      cases written : write value with
      | null => exact present written
      | _ => simp [written, ofJson] at absent
    rw [ReadsBack, jsonOfOption, readOption_of_ne given, restored]
    rfl

theorem readOption_given {medium : Medium} {document : Document} {value? : Option Json}
    (success : readOption (readJson medium) document = .ok value?) :
    ∀ value ∈ value?, value.Given := by
  intro value member
  obtain ⟨made, given⟩ := readOption_ok success value member
  refine ⟨readJson_once document made, fun absent => given ?_⟩
  exact eq_null_of_readJson (absent ▸ made)

theorem ReadsBack.given {value? : Option Json} (given : ∀ value ∈ value?, value.Given) :
    ReadsBack (readOption (readJson .value)) (jsonOfOption id) value? :=
  .option fun value member =>
    ⟨readJson_ofJson (given value member).once, (given value member).present⟩

end Document

theorem getD_null (value? : Option Json) : value?.getD .null = jsonOfOption id value? := by
  cases value? <;> rfl

end Json

namespace DataSource

/-- A descriptor as readers make it. -/
structure Restorable (source : DataSource) : Prop where
  options : BindsOnce (.object source.options)
  handler : ∀ handler ∈ source.handler, handler.Given

theorem restorable_blank : shape.blank.Restorable where
  options := .empty
  handler := by simp [shape]

theorem restorable_of_read {medium : Medium} {source : DataSource} {document : Document}
    (success : read medium document = .ok source) : source.Restorable := by
  refine Document.readRecord_keeps (P := Restorable) ?_ restorable_blank success
  intro medium record read name document kept success
  obtain ⟨options, handler⟩ := kept
  unfold shape readField at success
  dsimp only at success
  split at success
  all_goals try obtain ⟨value, made, success⟩ := Json.Reader.bind_ok success
  all_goals cases success
  case h_3 => exact ⟨Document.readFields_once made, handler⟩
  case h_4 => exact ⟨options, Document.readOption_given made⟩
  all_goals exact ⟨options, handler⟩

theorem restorable_of_readList {medium : Medium} {sources : List DataSource}
    {documents : List Document} (success : readList medium documents = .ok sources) :
    ∀ source ∈ sources, source.Restorable := by
  induction documents generalizing sources with
  | nil =>
    cases success
    exact nofun
  | cons document rest ih =>
    rw [readList] at success
    obtain ⟨source, made, success⟩ := Json.Reader.bind_ok success
    obtain ⟨others, later, success⟩ := Json.Reader.bind_ok success
    cases success
    exact List.forall_mem_cons.mpr ⟨restorable_of_read made, ih later⟩

variable {source : DataSource}

theorem toJson_once (restorable : source.Restorable) : source.toJson.BindsOnce := by
  obtain ⟨options, handler⟩ := restorable
  have handled : (source.handler.getD .null).BindsOnce := by
    cases given : source.handler with
    | none => exact .null
    | some value => exact (handler value given).once
  have distinct : ["id", "type", "options", "dataHandler"].Nodup := by decide
  refine .object distinct ?_
  simp only [List.forall_mem_cons]
  exact ⟨.string _, .string _, options, handled, nofun⟩

theorem readVariant_name (transport : Transport) :
    Document.readVariant [("fetch", Transport.fetch), ("jsonp", Transport.jsonp)]
      (.ofJson (.string transport.name)) = .ok transport := by
  cases transport <;> rfl

theorem read_toJson (restorable : source.Restorable) :
    ReadsBack (read .value) toJson source := by
  obtain ⟨options, handler⟩ := restorable
  have named : readField .value shape.blank "id" (.ofJson (.string source.id)) =
      .ok { shape.blank with id := source.id } := rfl
  have transport : readField .value { shape.blank with id := source.id } "type"
      (.ofJson (.string source.transport.name)) =
      .ok { shape.blank with id := source.id, transport := source.transport } := by
    simp only [readField, readVariant_name]
    rfl
  have options : readField .value
      { shape.blank with id := source.id, transport := source.transport } "options"
      (.ofJson (.object source.options)) = .ok { source with handler := none } := by
    rw [readField, Document.readFields_ofJson options]
    rfl
  have handler : readField .value { source with handler := none } "dataHandler"
      (.ofJson (source.handler.getD .null)) = .ok source := by
    rw [Json.getD_null, readField, ReadsBack.given handler]
    rfl
  rw [ReadsBack, toJson, Document.ofJson, read, Document.readRecord]
  simp only [Medium.enter, Json.Reader.ok_bind, Document.ofFields]
  rw [Document.readRecordEntries_cons rfl rfl named]
  rw [Document.readRecordEntries_cons rfl rfl transport]
  rw [Document.readRecordEntries_cons rfl rfl options]
  rw [Document.readRecordEntries_cons rfl rfl handler]
  rfl

theorem readList_toJson {sources : List DataSource}
    (restorable : ∀ source ∈ sources, source.Restorable) :
    readList .value (Document.ofItems (sources.map toJson)) = .ok sources := by
  induction sources with
  | nil => rfl
  | cons source rest ih =>
    obtain ⟨here, later⟩ := List.forall_mem_cons.mp restorable
    have first : read .value (.ofJson source.toJson) = .ok source := read_toJson here
    rw [List.map_cons, Document.ofItems, readList, first, ih later]
    rfl

/-- A list of descriptors is never taken for one that is written as an array: the first item of such
an array is a text, and it has one. -/
theorem read_list (sources : List DataSource) :
    ∃ fault, read .value (.ofJson (.array (sources.map toJson))) = .error fault := by
  cases sources with
  | nil => exact ⟨_, rfl⟩
  | cons source rest => exact ⟨_, rfl⟩

end DataSource

namespace DataSources

open DataSource (toJson_once read_list readList_toJson)

/-- Descriptors as readers make them. -/
def Restorable (sources : DataSources) : Prop :=
  ∀ source ∈ sources.toList, source.Restorable

theorem restorable_of_readMany {document : Document} {sources : List DataSource}
    (success : readMany document = .ok sources) : ∀ source ∈ sources, source.Restorable := by
  unfold readMany at success
  split at success
  · exact DataSource.restorable_of_readList success
  · exact absurd success (Document.reject_ne_ok _ _ _)

theorem restorable_of_read {medium : Medium} {document : Document} {sources : DataSources}
    (success : read medium document = .ok sources) : sources.Restorable := by
  obtain ⟨_, _, success⟩ := Json.Reader.bind_ok success
  split at success
  · rename_i source made
    cases success
    exact List.forall_mem_singleton.mpr (DataSource.restorable_of_read made)
  · split at success
    · rename_i sources made
      cases success
      exact restorable_of_readMany made
    · cases success

variable {sources : DataSources}

theorem toJson_once (restorable : sources.Restorable) : sources.toJson.BindsOnce := by
  cases sources with
  | one source => exact DataSource.toJson_once (restorable source List.mem_cons_self)
  | many sources =>
    refine .array (List.forall_mem_map.mpr fun source member => ?_)
    exact DataSource.toJson_once (restorable source member)

theorem toJson_ne_null (sources : DataSources) : sources.toJson ≠ .null := by
  cases sources <;> exact nofun

theorem read_toJson (restorable : sources.Restorable) : ReadsBack (read .value) toJson sources := by
  have whole : (Document.ofJson sources.toJson).readJson .value = .ok sources.toJson :=
    Document.readJson_ofJson (toJson_once restorable)
  rw [ReadsBack, read, whole, Json.Reader.ok_bind]
  cases sources with
  | one source =>
    have single : DataSource.read .value (.ofJson source.toJson) = .ok source :=
      DataSource.read_toJson (restorable source List.mem_cons_self)
    rw [toJson, single]
    rfl
  | many sources =>
    obtain ⟨fault, refused⟩ := read_list sources
    have listed : readMany (.ofJson (.array (sources.map DataSource.toJson))) = .ok sources :=
      readList_toJson restorable
    rw [toJson, refused]
    dsimp only
    rw [listed]
    rfl

end DataSources

namespace Node

/-- A tree as readers make it. -/
inductive Restorable : Node → Prop
  | node {node : Node} (props : (Json.object node.props).BindsOnce)
    (style : ∀ style ∈ node.style, (Json.object style).BindsOnce)
    (loop : ∀ loop ∈ node.loop, loop.Given)
    (condition : ∀ condition ∈ node.condition, condition.Given)
    (dataSource : ∀ sources ∈ node.dataSource, sources.Restorable)
    (children : ∀ child ∈ node.children, Restorable child) : Restorable node

private theorem restorable_of_readFlatField {medium : Medium} {node read : Node} {name : String}
    {document : Document} (kept : node.Restorable)
    (success : readFlatField medium node name document = .ok read) : read.Restorable := by
  obtain ⟨props, style, loop, condition, dataSource, children⟩ := kept
  unfold readFlatField at success
  split at success
  all_goals try obtain ⟨value, made, success⟩ := Json.Reader.bind_ok success
  all_goals cases success
  case h_2 => exact .node (Document.readFields_once made) style loop condition dataSource children
  case h_3 =>
    have styled := fun style member => (Document.readOption_ok made style member).1
    exact .node props (fun style member => Document.readFields_once (styled style member)) loop
      condition dataSource children
  case h_4 =>
    exact .node props style (Document.readOption_given made) condition dataSource children
  case h_6 => exact .node props style loop (Document.readOption_given made) dataSource children
  case h_7 =>
    have loaded := fun sources member => (Document.readOption_ok made sources member).1
    exact .node props style loop condition
      (fun sources member => DataSources.restorable_of_read (loaded sources member)) children
  all_goals exact .node props style loop condition dataSource children

theorem inherited_restorable : Inherited Restorable where
  blank := .node .empty nofun nofun nofun nofun nofun
  flat := restorable_of_readFlatField
  nested kept below := by
    obtain ⟨props, style, loop, condition, dataSource, _⟩ := kept
    exact .node props style loop condition dataSource below

section Fields

variable (node : Node)

private theorem readProps {props : Fields} (once : (Json.object props).BindsOnce) :
    readFlatField .value node "props" (.ofJson (.object props)) =
      .ok { node with props := props } := by
  rw [readFlatField, Document.readFields_ofJson once]
  rfl

private theorem readStyle {style : Option Fields}
    (once : ∀ given ∈ style, (Json.object given).BindsOnce) :
    readFlatField .value node "style" (.ofJson (jsonOfOption .object style)) =
      .ok { node with style := style } := by
  have back : ReadsBack (Document.readOption (Document.readFields .value))
      (jsonOfOption .object) style :=
    .option fun style member => ⟨Document.readFields_ofJson (once style member), nofun⟩
  rw [readFlatField, back]
  rfl

private theorem readLoop {loop : Option Json} (given : ∀ source ∈ loop, source.Given) :
    readFlatField .value node "loop" (.ofJson (jsonOfOption id loop)) =
      .ok { node with loop := loop } := by
  rw [readFlatField, ReadsBack.given given]
  rfl

private theorem readLoopArgs (loopArgs : Option (List String)) :
    readFlatField .value node "loopArgs"
        (.ofJson (jsonOfOption (fun names => .array (names.map .string)) loopArgs)) =
      .ok { node with loopArgs := loopArgs } := by
  have back : ReadsBack (Document.readOption (Document.readStrings .value))
      (jsonOfOption fun names => .array (names.map .string)) loopArgs :=
    .option fun names _ => ⟨Document.readStrings_ofJson names, nofun⟩
  rw [readFlatField, back]
  rfl

private theorem readCondition {condition : Option Json}
    (given : ∀ value ∈ condition, value.Given) :
    readFlatField .value node "condition" (.ofJson (jsonOfOption id condition)) =
      .ok { node with condition := condition } := by
  rw [readFlatField, ReadsBack.given given]
  rfl

private theorem readDataSource {dataSource : Option DataSources}
    (restorable : ∀ sources ∈ dataSource, sources.Restorable) :
    readFlatField .value node "dataSource"
        (.ofJson (jsonOfOption DataSources.toJson dataSource)) =
      .ok { node with dataSource := dataSource } := by
  have back := ReadsBack.option fun sources member =>
    ⟨DataSources.read_toJson (restorable sources member), sources.toJson_ne_null⟩
  rw [readFlatField, back]
  rfl

private theorem readRootName (rootName : Option String) :
    readFlatField .value node "myComponentName" (.ofJson (jsonOfOption .string rootName)) =
      .ok { node with rootName := rootName } := by
  cases rootName <;> rfl

end Fields

section Entries

variable {names : List String} {node next : Node} {name : String} {value : Document}

theorem readEntries_flat (known : fieldNames.contains name = true) (flat : name ≠ "children")
    (fresh : names.contains name = false)
    (made : readFlatField .value node name value = .ok next) (rest : List (Content × Document)) :
    readEntries .value ⟨names, node⟩ ((.ok name, value) :: rest) =
      readEntries .value ⟨name :: names, next⟩ rest := by
  rw [readEntries, Document.readContent, Json.Reader.ok_bind, if_neg flat, if_pos known,
    Draft.meet_fresh fresh, Json.Reader.ok_bind, made, Json.Reader.ok_bind]

theorem readEntries_children {children : List Node} (fresh : names.contains "children" = false)
    (made : readChildren .value value = .ok children) (rest : List (Content × Document)) :
    readEntries .value ⟨names, node⟩ ((.ok "children", value) :: rest) =
      readEntries .value ⟨"children" :: names, { node with children := children }⟩ rest := by
  rw [readEntries, Document.readContent, Json.Reader.ok_bind, if_pos rfl,
    Draft.meet_fresh fresh, Json.Reader.ok_bind, made, Json.Reader.ok_bind]

end Entries

mutual

/-- A tree as readers make it is read back from the object that is written for it. -/
theorem read_toJson : ∀ {node : Node}, node.Restorable → ReadsBack (read .value) toJson node
  | ⟨kindName, props, children, style, loop, loopArgs, condition, dataSource, rootName⟩,
    restorable => by
    obtain ⟨once, styled, looped, guarded, loaded, below⟩ := restorable
    have named (node : Node) : readFlatField .value node "componentName"
        (.ofJson (.string kindName)) = .ok { node with kindName := kindName } := rfl
    have nested : readChildren .value (.ofJson (.array (listToJson children))) = .ok children := by
      simp only [Document.ofJson, readChildren, Medium.enter, Json.Reader.ok_bind,
        readNodes_listToJson below, Json.Ending.finish]
      rfl
    rw [ReadsBack, toJson, Document.ofJson, read]
    simp only [Medium.enter, Json.Reader.ok_bind, Document.ofFields]
    rw [readEntries_flat rfl (by decide) rfl (named _)]
    rw [readEntries_flat rfl (by decide) rfl (readProps _ once)]
    rw [readEntries_children rfl nested]
    rw [readEntries_flat rfl (by decide) rfl (readStyle _ styled)]
    rw [readEntries_flat rfl (by decide) rfl (readLoop _ looped)]
    rw [readEntries_flat rfl (by decide) rfl (readLoopArgs _ loopArgs)]
    rw [readEntries_flat rfl (by decide) rfl (readCondition _ guarded)]
    rw [readEntries_flat rfl (by decide) rfl (readDataSource _ loaded)]
    rw [readEntries_flat rfl (by decide) rfl (readRootName _ rootName)]
    rfl

private theorem readNodes_listToJson : ∀ {nodes : List Node}, (∀ node ∈ nodes, node.Restorable) →
    readNodes .value (Document.ofItems (listToJson nodes)) = .ok nodes
  | [], _ => rfl
  | node :: rest, restorable => by
    obtain ⟨here, later⟩ := List.forall_mem_cons.mp restorable
    have first : read .value (.ofJson node.toJson) = .ok node := read_toJson here
    rw [listToJson, Document.ofItems, readNodes, first, readNodes_listToJson later]
    rfl

end

theorem restorable_of_read {medium : Medium} {document : Document} {node : Node}
    (success : read medium document = .ok node) : node.Restorable :=
  inherited_restorable.of_read document success

/-- What was read from a text is read again from the JSON written for it. -/
theorem ofJson?_toJson_of_text {text : List Char} {node : Node}
    (success : Document.readText read text = .ok node) : ofJson? node.toJson = .ok node := by
  unfold Document.readText at success
  rcases parsed : Document.parse text with ⟨document, trailing⟩
  rw [parsed] at success
  obtain ⟨made, reading, success⟩ := Json.Reader.bind_ok success
  cases trailing <;> cases success
  exact read_toJson (restorable_of_read reading)

/-- Reading and writing agree: whatever value a tree was read from, the JSON that is written for the
tree is read as that tree. -/
theorem ofJson?_toJson {value : Json} {node : Node} (success : ofJson? value = .ok node) :
    ofJson? node.toJson = .ok node :=
  read_toJson (restorable_of_read success)

/-- Nodes and descriptors given as arrays, a prop bound twice, and fields that are `null`: the list
of descriptors stays a list, and the one descriptor given as an array stays one. -/
theorem ofJson?_toJson_arrays :
    let value : Json := .array [.string "Page",
      .object [("className", .string "page"), ("className", .string "home")],
      .array [.object [("loop", .null), ("componentName", .string "Text"),
        ("dataSource", .array [.string "load", .string "fetch"])]],
      .null, .array [.number (.integer 1), .null], .null, .null,
      .array [.array [.string "first", .object [("jsonp", .null)]],
        .object [("type", .string "fetch"), ("dataHandler", .null), ("id", .string "second")]]]
    let load : DataSource := { id := "load", transport := .fetch, options := [], handler := none }
    let node : Node := { ofKind "Page" with
      props := [("className", .string "home")]
      children := [{ ofKind "Text" with dataSource := some (.one load) }]
      loop := some (.array [.number (.integer 1), .null])
      dataSource := some (.many
        [{ load with id := "first", transport := .jsonp }, { load with id := "second" }]) }
    ofJson? value = .ok node ∧ ofJson? node.toJson = .ok node := by
  intro value load node
  have given : ofJson? value = .ok node := rfl
  exact ⟨given, ofJson?_toJson given⟩

end Node

end PanelCompiler
