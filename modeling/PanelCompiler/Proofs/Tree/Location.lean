import PanelCompiler.Proofs.Tree.Address
import PanelCompiler.Schema.Reading

namespace PanelCompiler

namespace Json

/-- The item with this decimal number among items counted from `index`. -/
def numbered? (index : Nat) (name : String) : List Json → Option Json
  | [] => none
  | item :: rest => if toString index = name then some item else numbered? (index + 1) name rest

/-- What stands one step below a value: a child is an element of the field `children`, a name is
that of a field or, in an array, the number of an item. -/
def step? (value : Json) : Path.Step → Option Json
  | .child index =>
    match value.field? "children" with
    | some (.array items) => items[index]?
    | _ => none
  | .field name =>
    match value with
    | .object fields => Fields.get? fields name
    | .array items => numbered? 0 name items
    | _ => none

def follow? (value : Json) : List Path.Step → Option Json
  | [] => some value
  | step :: rest => (value.step? step).bind (follow? · rest)

theorem step?_object (fields : Fields) (name : String) :
    (Json.object fields).step? (.field name) = fields.get? name := rfl

theorem step?_array (items : List Json) (name : String) :
    (Json.array items).step? (.field name) = numbered? 0 name items := rfl

theorem follow?_append (value : Json) (first rest : List Path.Step) :
    value.follow? (first ++ rest) = (value.follow? first).bind (·.follow? rest) := by
  induction first generalizing value with
  | nil => rfl
  | cons step steps ih =>
    simp only [List.cons_append, follow?]
    cases value.step? step with
    | none => rfl
    | some next => exact ih next

theorem numbered?_toString (index offset : Nat) (items : List Json) :
    numbered? index (toString (index + offset)) items = items[offset]? := by
  induction items generalizing index offset with
  | nil => rfl
  | cons item rest ih =>
    unfold numbered?
    cases offset with
    | zero => simp
    | succ offset =>
      have apart : toString index ≠ toString (index + (offset + 1)) := by
        intro same
        have digits := congrArg String.toList same
        simp only [Nat.toString_eq_repr, Nat.toList_repr] at digits
        have equal := congrArg (Nat.ofDigitChars 10 · 0) digits
        simp only [Nat.ofDigitChars_ten_toDigits] at equal
        omega
      rw [if_neg apart, List.getElem?_cons_succ, ← ih (index + 1) offset]
      congr 2
      omega

end Json

theorem Fields.get?_of_mem {fields : Fields} {key : String} {value : Json}
    (distinct : fields.keys.Nodup) (member : (key, value) ∈ fields) :
    fields.get? key = some value := by
  induction fields with
  | nil => cases member
  | cons field rest ih =>
    obtain ⟨name, old⟩ := field
    obtain ⟨absent, others⟩ := List.nodup_cons.mp distinct
    rcases List.mem_cons.mp member with here | later
    · cases here
      simp [Fields.get?]
    · have apart : name ≠ key := by
        rintro rfl
        exact absent (List.mem_map.mpr ⟨(name, value), later, rfl⟩)
      simpa [Fields.get?, apart] using ih others later

namespace Node

private theorem listToJson_eq_map (children : List Node) :
    listToJson children = children.map toJson := by
  induction children with
  | nil => rfl
  | cons child rest ih => rw [listToJson, ih, List.map_cons]

def jsonFields (node : Node) : Fields :=
  [("componentName", .string node.kindName), ("props", .object node.props),
    ("children", .array (node.children.map toJson)), ("style", jsonOfOption .object node.style),
    ("loop", jsonOfOption id node.loop),
    ("loopArgs", jsonOfOption (fun names => .array (names.map .string)) node.loopArgs),
    ("condition", jsonOfOption id node.condition),
    ("dataSource", jsonOfOption DataSources.toJson node.dataSource),
    ("myComponentName", jsonOfOption .string node.rootName)]

theorem toJson_eq (node : Node) : node.toJson = .object node.jsonFields := by
  cases node
  rw [toJson, listToJson_eq_map]
  rfl

private theorem step?_child (node : Node) (index : Nat) :
    node.toJson.step? (.child index) = node.children[index]?.map toJson := by
  rw [toJson_eq]
  simp [Json.step?, Json.field?, Json.asObject?, jsonFields, Fields.get?]

theorem step?_field (node : Node) (name : String) :
    node.toJson.step? (.field name) = node.jsonFields.get? name := by
  rw [toJson_eq]
  rfl

/-- An address leads to the JSON form of its node. -/
theorem follow?_address {root node : Node} {address : List Nat}
    (found : root.at? address = some node) :
    root.toJson.follow? (address.map .child) = some node.toJson := by
  induction address generalizing root with
  | nil =>
    cases found
    rfl
  | cons index rest ih =>
    simp only [at?] at found
    split at found
    · rename_i child present
      simp only [List.map_cons, Json.follow?, step?_child, present, Option.map_some,
        Option.bind_some]
      exact ih found
    · cases found

theorem follow?_props (node : Node) (key : String) :
    node.toJson.follow? [.field "props", .field key] = node.props.get? key := by
  simp [Json.follow?, step?_field, jsonFields, Fields.get?, Json.step?_object]

theorem follow?_loop {node : Node} {source : Json} (given : node.loop = some source) :
    node.toJson.follow? [.field "loop"] = some source := by
  simp [Json.follow?, step?_field, jsonFields, Fields.get?, given, jsonOfOption]

theorem follow?_condition {node : Node} {condition : Json}
    (given : node.condition = some condition) :
    node.toJson.follow? [.field "condition"] = some condition := by
  simp [Json.follow?, step?_field, jsonFields, Fields.get?, given, jsonOfOption]

theorem follow?_listedSource {node : Node} {sources : List DataSource} {source : DataSource}
    {index : Nat} (listed : node.dataSource = some (.many sources))
    (found : sources[index]? = some source) (rest : List Path.Step) :
    node.toJson.follow? (.field "dataSource" :: .field (toString index) :: rest) =
      source.toJson.follow? rest := by
  have number := Json.numbered?_toString 0 index (sources.map DataSource.toJson)
  rw [Nat.zero_add, List.getElem?_map, found, Option.map_some] at number
  have list : node.jsonFields.get? "dataSource" =
      some (.array (sources.map DataSource.toJson)) := by
    simp [jsonFields, Fields.get?, listed, jsonOfOption, DataSources.toJson]
  simp only [Json.follow?, step?_field, list, Option.bind_some, Json.step?_array, number]

/-- A lone data source has no numbers to follow. -/
theorem follow?_loneSource {node : Node} {source : DataSource}
    (lone : node.dataSource = some (.one source)) (rest : List Path.Step) :
    node.toJson.follow? (.field "dataSource" :: .field "0" :: rest) = none := by
  have one : node.jsonFields.get? "dataSource" = some source.toJson := by
    simp [jsonFields, Fields.get?, lone, jsonOfOption, DataSources.toJson]
  simp [Json.follow?, step?_field, one, DataSource.toJson, Json.step?_object, Fields.get?]

end Node

namespace DataSource

theorem follow?_option (source : DataSource) (name : String) :
    source.toJson.follow? [.field "options", .field name] = source.options.get? name := by
  simp [Json.follow?, toJson, Json.step?_object, Fields.get?]

theorem follow?_handler {source : DataSource} {handler : Json}
    (given : source.handler = some handler) :
    source.toJson.follow? [.field "dataHandler"] = some handler := by
  simp [Json.follow?, toJson, Json.step?_object, Fields.get?, given]

end DataSource

end PanelCompiler
