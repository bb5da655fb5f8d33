import PanelCompiler.Proofs.Walk.Payload

namespace PanelCompiler

def Fields.mapValues (change : Json → Json) (fields : Fields) : Fields :=
  fields.map fun (key, value) => (key, change value)

namespace Json

def taggedFunction (source : String) : Json :=
  .object [("type", .string functionTag), ("value", .string source)]

/-- A text that looks like a function and is no template. -/
def isFunctionText (text : String) : Bool :=
  Value.looksLikeFunction text.toList && (Value.expressionBody? text.toList).isNone

mutual

/-- A value with a tagged object in place of every text of a function in it. -/
def withTaggedFunctions : Json → Json
  | .string text => if isFunctionText text then taggedFunction text else .string text
  | .array items => .array (withTaggedItems items)
  | .object fields => .object (withTaggedFields fields)
  | other => other

def withTaggedItems : List Json → List Json
  | [] => []
  | item :: rest => withTaggedFunctions item :: withTaggedItems rest

def withTaggedFields : List (String × Json) → List (String × Json)
  | [] => []
  | (key, value) :: rest => (key, withTaggedFunctions value) :: withTaggedFields rest

end

/-- No object in a value is tagged, the value itself included. -/
def Untagged (value : Json) : Prop :=
  ∀ inner, value.Holds inner → inner.carried? = none

end Json

namespace DataSource

/-- A data source with a tagged object in place of every text of a function in its options and its
handler. -/
def withTaggedFunctions (source : DataSource) : DataSource :=
  { source with
    options := source.options.mapValues Json.withTaggedFunctions
    handler := source.handler.map Json.withTaggedFunctions }

/-- Neither the options nor the handler are tagged or hold anything that is. -/
structure Untagged (source : DataSource) : Prop where
  options : (Json.object source.options).Untagged
  handler : ∀ handler ∈ source.handler, handler.Untagged

end DataSource

section Fields

variable (change : Json → Json)

theorem Fields.get?_mapValues (fields : Fields) (key : String) :
    (fields.mapValues change).get? key = (fields.get? key).map change := by
  induction fields with
  | nil => rfl
  | cons field rest ih =>
    obtain ⟨name, value⟩ := field
    have later : Fields.get? (rest.map fun (key, value) => (key, change value)) key =
        (Fields.get? rest key).map change := ih
    by_cases same : name = key
    · simp [mapValues, get?, same]
    · simp [mapValues, get?, same, later]

theorem Fields.filter_mapValues (keep : String → Bool) (fields : Fields) :
    (fields.mapValues change).filter (fun (name, _) => keep name) =
      Fields.mapValues change (fields.filter fun (name, _) => keep name) := by
  unfold mapValues
  rw [List.filter_map]
  rfl

end Fields

/-- A template begins with braces, and no function does. -/
theorem Value.expressionBody?_of_looksLikeFunction {text : List Char}
    (shape : looksLikeFunction text = true) : expressionBody? text = none := by
  unfold expressionBody?
  split
  · cases shape
  · rfl

namespace Json

theorem isFunctionText_eq (text : String) :
    isFunctionText text = Value.looksLikeFunction text.toList := by
  unfold isFunctionText
  cases shape : Value.looksLikeFunction text.toList with
  | false => rfl
  | true => simp [Value.expressionBody?_of_looksLikeFunction shape]

section Tagged

variable (source : String)

private theorem tagged?_taggedFunction (tag : String) :
    (taggedFunction source).tagged? tag = if functionTag = tag then some source else none := by
  simp [taggedFunction, tagged?, field?, asObject?, asString?, Fields.get?]

theorem taggedFunction_function : (taggedFunction source).tagged? functionTag = some source := by
  rw [tagged?_taggedFunction, if_pos rfl]

theorem serialize_taggedFunction : (taggedFunction source).serialize = Text.trimmed source := by
  have carried : (taggedFunction source).carried? = some source :=
    Option.or_eq_some_iff.mpr (.inl (taggedFunction_function source))
  exact serialize_carried carried

theorem ofJson_taggedFunction : ValueClass.ofJson (taggedFunction source) = .function source := by
  unfold ValueClass.ofJson
  rw [taggedFunction_function]

end Tagged

theorem withTaggedItems_eq (items : List Json) :
    withTaggedItems items = items.map withTaggedFunctions := by
  induction items with
  | nil => rfl
  | cons item rest ih => rw [withTaggedItems, ih]; rfl

theorem withTaggedFields_eq (fields : Fields) :
    withTaggedFields fields = fields.mapValues withTaggedFunctions := by
  induction fields with
  | nil => rfl
  | cons field rest ih => rw [withTaggedFields, ih]; rfl

private theorem eq_string_of_withTaggedFunctions {value : Json} {text : String}
    (kept : value.withTaggedFunctions = .string text) : value = .string text := by
  cases value with
  | string other =>
    rw [withTaggedFunctions] at kept
    split at kept
    · cases kept
    · exact kept
  | null | bool | number | array | object => cases kept

/-- Tagging what stands in the fields of an object does not tag the object: the two fields that
would tell a tag are texts, and no texts are new. -/
theorem carried?_mapValues {fields : Fields} (untagged : (Json.object fields).carried? = none) :
    (Json.object (fields.mapValues withTaggedFunctions)).carried? = none := by
  have text : ∀ key text,
      Fields.get? (fields.mapValues withTaggedFunctions) key = some (.string text) →
        fields.get? key = some (.string text) := by
    intro key text found
    rw [Fields.get?_mapValues] at found
    obtain ⟨value, given, kept⟩ := Option.map_eq_some_iff.mp found
    rw [given, eq_string_of_withTaggedFunctions kept]
  rw [← not_expands_object] at untagged ⊢
  intro expands
  cases expands with
  | tagged known type value => exact untagged (.tagged known (text _ _ type) (text _ _ value))

section Untagged

variable {value : Json} {items : List Json} {fields : Fields}

theorem Untagged.self (untagged : value.Untagged) : value.carried? = none :=
  untagged value (.self value)

theorem Untagged.item (untagged : (Json.array items).Untagged) :
    ∀ item ∈ items, item.Untagged :=
  fun _ member inner holds => untagged inner (.item member holds)

theorem Untagged.field (untagged : (Json.object fields).Untagged) :
    ∀ field ∈ fields, field.2.Untagged :=
  fun _ member inner holds => untagged inner (.field member holds)

theorem Untagged.get? {key : String} (untagged : (Json.object fields).Untagged)
    (given : fields.get? key = some value) : value.Untagged :=
  untagged.field _ (Fields.mem_of_get? given)

theorem untagged_string (text : String) : (Json.string text).Untagged := by
  rintro inner (_ | _ | _)
  rfl

theorem untagged_array (each : ∀ item ∈ items, item.Untagged) : (Json.array items).Untagged := by
  rintro inner (_ | ⟨member, holds⟩ | _)
  · rfl
  · exact each _ member inner holds

theorem untagged_object (bare : (Json.object fields).carried? = none)
    (each : ∀ field ∈ fields, field.2.Untagged) : (Json.object fields).Untagged := by
  rintro inner (_ | _ | ⟨member, holds⟩)
  · exact bare
  · exact each _ member inner holds

end Untagged

section Serialize

private theorem serialize_taggedString (text : String) :
    (withTaggedFunctions (.string text)).serialize = (Json.string text).serialize := by
  rw [withTaggedFunctions, isFunctionText_eq, serialize_string]
  split
  · exact serialize_taggedFunction text
  · rename_i other
    rw [serialize_string, if_neg other]

theorem serialize_taggedObject {fields : Fields} (bare : (Json.object fields).carried? = none)
    (each : ∀ field ∈ fields, field.2.withTaggedFunctions.serialize = field.2.serialize) :
    (Json.object (fields.mapValues withTaggedFunctions)).serialize =
      (Json.object fields).serialize := by
  rw [serialize_untagged bare, serialize_untagged (carried?_mapValues bare), serializeFields_eq,
    serializeFields_eq, Fields.mapValues, List.map_map]
  refine congrArg braced (List.map_congr_left fun field member => ?_)
  exact congrArg (fun text => entryText (field.1, text)) (each field member)

mutual

/-- Where nothing is tagged, a function has the same source as a text and as a tagged object. -/
theorem serialize_withTaggedFunctions : ∀ {value : Json}, value.Untagged →
    value.withTaggedFunctions.serialize = value.serialize
  | .null, _ | .bool _, _ | .number _, _ => rfl
  | .string text, _ => serialize_taggedString text
  | .array items, untagged => by
    have listed := List.map_congr_left (serialize_taggedItems items untagged.item)
    have texts : serializeItems (withTaggedItems items) = serializeItems items := by
      rw [serializeItems_eq, serializeItems_eq, withTaggedItems_eq, List.map_map]
      exact listed
    exact congrArg bracketed texts
  | .object fields, untagged => by
    have whole := serialize_taggedObject untagged.self
      (serialize_taggedFields fields untagged.field)
    rwa [withTaggedFunctions, withTaggedFields_eq]

theorem serialize_taggedItems : ∀ items : List Json, (∀ item ∈ items, item.Untagged) →
    ∀ item ∈ items, item.withTaggedFunctions.serialize = item.serialize
  | [], _, _, member => nomatch member
  | first :: rest, untagged, item, member => by
    obtain ⟨here, later⟩ := List.forall_mem_cons.mp untagged
    rcases List.mem_cons.mp member with same | others
    · exact same ▸ serialize_withTaggedFunctions here
    · exact serialize_taggedItems rest later item others

theorem serialize_taggedFields : ∀ fields : List (String × Json),
    (∀ field ∈ fields, field.2.Untagged) →
      ∀ field ∈ fields, field.2.withTaggedFunctions.serialize = field.2.serialize
  | [], _, _, member => nomatch member
  | (key, value) :: rest, untagged, field, member => by
    obtain ⟨here, later⟩ := List.forall_mem_cons.mp untagged
    rcases List.mem_cons.mp member with same | others
    · exact same ▸ serialize_withTaggedFunctions here
    · exact serialize_taggedFields rest later field others

end

end Serialize

section Class

variable {value : Json}

private theorem ofJson_data (bare : value.carried? = none) (other : ∀ text, value ≠ .string text) :
    ValueClass.ofJson value = .data value := by
  obtain ⟨function, expression⟩ := Option.or_eq_none_iff.mp bare
  unfold ValueClass.ofJson
  rw [function, expression]
  cases value with
  | string text => exact absurd rfl (other text)
  | null | bool | number | array | object => rfl

private theorem ofJson_taggedString (text : String) :
    ValueClass.ofJson (withTaggedFunctions (.string text)) = ValueClass.ofJson (.string text) := by
  rw [withTaggedFunctions]
  split
  · rename_i function
    have shape : Value.looksLikeFunction text.toList = true := isFunctionText_eq text ▸ function
    have classed : ValueClass.ofJson (.string text) = ValueClass.ofString text := rfl
    rw [ofJson_taggedFunction, classed, ValueClass.ofString,
      Value.expressionBody?_of_looksLikeFunction shape]
    exact (if_pos shape).symm
  · rfl

/-- A value keeps its class: a text its class and its source, and data is data still. -/
theorem ofJson_withTaggedFunctions (untagged : value.Untagged) :
    ValueClass.ofJson value.withTaggedFunctions = ValueClass.ofJson value ∨
      ValueClass.ofJson value = .data value ∧
        ValueClass.ofJson value.withTaggedFunctions = .data value.withTaggedFunctions := by
  cases value with
  | null | bool | number => exact .inl rfl
  | string text => exact .inl (ofJson_taggedString text)
  | array items => exact .inr ⟨rfl, rfl⟩
  | object fields =>
    have bare : (withTaggedFunctions (.object fields)).carried? = none := by
      rw [withTaggedFunctions, withTaggedFields_eq]
      exact carried?_mapValues untagged.self
    exact .inr ⟨ofJson_data untagged.self nofun, ofJson_data bare nofun⟩

theorem toSource_withTaggedFunctions (untagged : value.Untagged) (position : Position)
    (path : Path) : value.withTaggedFunctions.toSource position path =
      value.toSource position path := by
  unfold toSource
  rcases ofJson_withTaggedFunctions untagged with same | ⟨before, behind⟩
  · rw [same]
  · rw [before, behind]
    exact congrArg Except.ok (serialize_withTaggedFunctions untagged)

end Class

end Json

namespace DataSource

open Json (withTaggedFunctions)

theorem handlerSource_withTaggedFunctions {handler : Json} (untagged : handler.Untagged) :
    handlerSource handler.withTaggedFunctions = handlerSource handler := by
  unfold handlerSource
  rcases Json.ofJson_withTaggedFunctions untagged with same | ⟨before, behind⟩
  · rw [same]
  · rw [before, behind]

/-- No template is tagged, so the parameters are read as one or not as before. -/
theorem parametersSource_withTaggedFunctions {parameters : Json} (untagged : parameters.Untagged) :
    parametersSource parameters.withTaggedFunctions = parametersSource parameters := by
  have written := Json.serialize_withTaggedFunctions untagged
  cases parameters with
  | string text =>
    rw [Json.withTaggedFunctions] at written ⊢
    split at written
    · rename_i function
      have shape : Value.looksLikeFunction text.toList = true :=
        Json.isFunctionText_eq text ▸ function
      rw [if_pos function]
      simp only [parametersSource, Value.expressionBody?_of_looksLikeFunction shape]
      exact written
    · rename_i other
      rw [if_neg other]
  | null | bool | number | array | object => exact written

section Request

variable {source : DataSource}

theorem payloadFields_withTaggedFunctions (source : DataSource) :
    source.withTaggedFunctions.payloadFields =
      source.payloadFields.mapValues Json.withTaggedFunctions := by
  have others := Fields.filter_mapValues Json.withTaggedFunctions
    (fun key => !reservedOptions.contains key) source.options
  unfold payloadFields DataSource.withTaggedFunctions
  simp only [others, Fields.get?_mapValues]
  cases source.transport with
  | jsonp => rfl
  | fetch => cases source.options.get? "method" <;> rfl

private theorem mem_payloadFields {field : String × Json} (member : field ∈ source.payloadFields) :
    field ∈ source.options := by
  unfold payloadFields at member
  rcases List.mem_append.mp member with method | other
  · split at method
    · rename_i given
      cases List.mem_singleton.mp method
      exact Fields.mem_of_get? given
    · cases method
  · exact (List.mem_filter.mp other).1

/-- The payload takes over the tag of its options, and they have none. -/
theorem serialize_payload (untagged : source.Untagged) :
    (Json.object source.withTaggedFunctions.payloadFields).serialize =
      (Json.object source.payloadFields).serialize := by
  have bare : (Json.object source.payloadFields).carried? = none := by
    rw [carried?_payload]
    exact untagged.options.self
  rw [payloadFields_withTaggedFunctions]
  refine Json.serialize_taggedObject bare fun field member => ?_
  exact Json.serialize_withTaggedFunctions (untagged.options.field field (mem_payloadFields member))

private theorem payloadSource_withTaggedFunctions (untagged : source.Untagged) :
    source.withTaggedFunctions.payloadSource = source.payloadSource := by
  have options : source.withTaggedFunctions.options.get? "params" =
      (source.options.get? "params").map Json.withTaggedFunctions :=
    Fields.get?_mapValues _ _ _
  have empty : source.withTaggedFunctions.payloadFields.isEmpty =
      source.payloadFields.isEmpty := by
    rw [payloadFields_withTaggedFunctions, Fields.mapValues, List.isEmpty_map]
  unfold payloadSource
  simp only [options, serialize_payload untagged, empty]
  cases given : source.options.get? "params" with
  | none => rfl
  | some parameters =>
    have same := parametersSource_withTaggedFunctions (untagged.options.get? given)
    simp only [Option.map_some, same]

private theorem uri_withTaggedFunctions (untagged : source.Untagged) (path : Path) :
    ((source.withTaggedFunctions.options.get? "uri").getD .null).toSource .attribute path =
      ((source.options.get? "uri").getD .null).toSource .attribute path := by
  have options : source.withTaggedFunctions.options.get? "uri" =
      (source.options.get? "uri").map Json.withTaggedFunctions :=
    Fields.get?_mapValues _ _ _
  rw [options]
  cases given : source.options.get? "uri" with
  | none => rfl
  | some uri =>
    exact Json.toSource_withTaggedFunctions (untagged.options.get? given) .attribute path

private theorem methodSource_withTaggedFunctions (untagged : source.Untagged) (path : Path) :
    source.withTaggedFunctions.methodSource path = source.methodSource path := by
  have handled : ∀ handler ∈ source.handler,
      handlerSource handler.withTaggedFunctions = handlerSource handler :=
    fun handler given => handlerSource_withTaggedFunctions (untagged.handler handler given)
  unfold methodSource
  dsimp only
  rw [uri_withTaggedFunctions untagged, payloadSource_withTaggedFunctions untagged]
  cases given : source.handler with
  | none => simp only [withTaggedFunctions, given, Option.map_none]
  | some handler =>
    simp only [DataSource.withTaggedFunctions, given, Option.map_some, handled handler given]

end Request

end DataSource

/-- Where nothing is tagged, every text of a function can be replaced by an object that is tagged
with it, at whatever depth: the value is serialized to the same text and has the same source, or
the same error, in both positions, and a data source is compiled to the same outcome in every
context. -/
theorem taggedFunction_as_text :
    (∀ value : Json, value.Untagged →
      value.withTaggedFunctions.serialize = value.serialize ∧
        ∀ position path,
          value.withTaggedFunctions.toSource position path = value.toSource position path) ∧
    ∀ source : DataSource, source.Untagged →
      ∀ path, source.withTaggedFunctions.compile path = source.compile path := by
  refine ⟨fun value untagged => ?_, fun source untagged path => ?_⟩
  · exact ⟨Json.serialize_withTaggedFunctions untagged, Json.toSource_withTaggedFunctions untagged⟩
  · exact DataSource.compile_congr rfl (DataSource.methodSource_withTaggedFunctions untagged path)

/-- The object is named like a tag and carries no source, so the functions in it are tagged and it
is not. -/
theorem taggedFunction_as_text_nested :
    let value : Json := .object [("type", .string "JSFunction"), ("value", .array [
      .string "x => x", .string "\x7b\x7b x => x \x7d\x7d"])]
    let source : DataSource :=
      { id := "load", transport := .fetch, handler := some (.string "(data) => data")
        options := [("uri", .string "() => url"), ("params", value)] }
    value.Untagged ∧ source.Untagged ∧
      value.withTaggedFunctions = .object [("type", .string "JSFunction"), ("value", .array [
        .taggedFunction "x => x", .string "\x7b\x7b x => x \x7d\x7d"])] ∧
      value.withTaggedFunctions.serialize = value.serialize ∧
      value.withTaggedFunctions.toSource .content .root = value.toSource .content .root ∧
      source.withTaggedFunctions.compile .root = source.compile .root := by
  intro value source
  have items : ∀ item ∈ [Json.string "x => x", .string "\x7b\x7b x => x \x7d\x7d"],
      item.Untagged := by
    simp only [List.forall_mem_cons, Json.untagged_string, List.not_mem_nil, false_imp_iff,
      implies_true, and_self]
  have untagged : value.Untagged := by
    refine Json.untagged_object rfl (List.forall_mem_cons.mpr ⟨Json.untagged_string _, ?_⟩)
    exact List.forall_mem_cons.mpr ⟨Json.untagged_array items, nofun⟩
  have options : (Json.object source.options).Untagged := by
    refine Json.untagged_object rfl (List.forall_mem_cons.mpr ⟨Json.untagged_string _, ?_⟩)
    exact List.forall_mem_cons.mpr ⟨untagged, nofun⟩
  have request : source.Untagged := ⟨options, by rintro _ ⟨⟩; exact Json.untagged_string _⟩
  have replaced : value.withTaggedFunctions = .object [("type", .string "JSFunction"),
      ("value", .array [.taggedFunction "x => x", .string "\x7b\x7b x => x \x7d\x7d"])] := by
    have tag : Json.isFunctionText "JSFunction" = false := by decide +kernel
    have function : Json.isFunctionText "x => x" = true := by decide +kernel
    have template : Json.isFunctionText "\x7b\x7b x => x \x7d\x7d" = false := by decide +kernel
    simp [value, Json.withTaggedFunctions, Json.withTaggedFields, Json.withTaggedItems, tag,
      function, template]
  obtain ⟨values, requests⟩ := taggedFunction_as_text
  obtain ⟨serialized, written⟩ := values value untagged
  exact ⟨untagged, request, replaced, serialized, written .content .root,
    requests source request .root⟩

end PanelCompiler
