import PanelCompiler.Proofs.Value.Expression
import PanelCompiler.Proofs.Value.Serialize
import PanelCompiler.Proofs.Walk.Validity

namespace PanelCompiler

namespace Json

/-- An object of entries whose values are written out. -/
def entriesText (entries : List (String × String)) : String :=
  braced (entries.map entryText)

theorem commaSeparated_concat (texts : List String) (last : String) :
    commaSeparated (texts ++ [last]) =
      commaSeparated texts ++ (if texts.isEmpty then "" else ",") ++ last := by
  induction texts with
  | nil => simp [commaSeparated]
  | cons first rest ih =>
    cases rest with
    | nil => simp [commaSeparated]
    | cons second others =>
      simp only [List.cons_append, commaSeparated, List.isEmpty_cons] at ih ⊢
      rw [ih]
      simp [String.append_assoc]

end Json

namespace DataSource

/-- What a request is to say: the method of a fetch, then the options without a meaning of their own
in their order, and the parameters as the body. -/
def payloadEntries (source : DataSource) : List (String × String) :=
  let method := match source.transport with
    | .fetch => (source.options.get? "method").toList.map fun method =>
      ("method", method.serialize)
    | .jsonp => []
  let others := source.options.filter fun (key, _) => key ∉ ["uri", "method", "params"]
  let body := (source.options.get? "params").toList.map fun parameters =>
    ("body", parametersSource parameters)
  method ++ others.map (fun (key, value) => (key, value.serialize)) ++ body

/-- The value that is written out as the parameters are: an expression is one by its tag. -/
def bodyValue (parameters : Json) : Json :=
  match parameters with
  | .string text =>
    match Value.expressionBody? text.toList with
    | some body => .taggedExpression (String.ofList body)
    | none => parameters
  | other => other

/-- The fields of a payload with the parameters bound among them. -/
def boundFields (source : DataSource) : Fields :=
  match source.options.get? "params" with
  | none => source.payloadFields
  | some parameters => source.payloadFields.put "body" (bodyValue parameters)

/-- The payload is an object with these entries, each under a key of its own, and the same as if the
parameters were bound among its fields. -/
structure HasWellFormedPayload (source : DataSource) : Prop where
  text : source.payloadSource = .ok (Json.entriesText source.payloadEntries)
  distinct : (source.payloadEntries.map (·.1)).Nodup
  bound : Json.entriesText source.payloadEntries =
    Json.braced (Json.serializeFields source.boundFields)

section Payload

variable {source : DataSource}

theorem serialize_bodyValue (parameters : Json) :
    (bodyValue parameters).serialize = parametersSource parameters := by
  cases parameters with
  | string text =>
    cases whole : Value.expressionBody? text.toList with
    | none => simp only [bodyValue, parametersSource, whole]
    | some body =>
      have trimmed : Text.trim body = body := by
        unfold Value.expressionBody? at whole
        split at whole
        · obtain ⟨inner, -, rfl⟩ := Option.map_eq_some_iff.mp whole
          exact Text.trim_trim inner
        · cases whole
      have tagged : (Json.taggedExpression (String.ofList body)).serialize =
          Text.trimmed (String.ofList body) :=
        parametersSource_taggedExpression (String.ofList body)
      rw [Text.trimmed, String.toList_ofList, trimmed] at tagged
      simp only [bodyValue, parametersSource, whole, tagged]
  | null | bool | number | array | object => rfl

/-- The payload is made of the fields, and then of the parameters. -/
theorem payloadEntries_eq (source : DataSource) : source.payloadEntries =
    source.payloadFields.map (fun (key, value) => (key, value.serialize)) ++
      (source.options.get? "params").toList.map fun parameters =>
        ("body", parametersSource parameters) := by
  have reserved : ∀ key : String,
      decide (key ∉ ["uri", "method", "params"]) = !reservedOptions.contains key := by
    intro key
    simp [reservedOptions]
  unfold payloadEntries payloadFields
  simp only [reserved]
  cases source.transport with
  | jsonp => simp
  | fetch => cases source.options.get? "method" <;> simp

theorem carried?_payload (source : DataSource) :
    (Json.object source.payloadFields).carried? = (Json.object source.options).carried? := by
  have tagged := Json.tagged?_congr (source.payloadFields_get? (by decide))
    (source.payloadFields_get? (by decide))
  rw [Json.carried?, Json.carried?, tagged, tagged]

theorem hasPlainOptions_iff :
    source.HasPlainOptions ↔ (Json.object source.payloadFields).carried? = none := by
  rw [carried?_payload, Json.carried?, Option.or_eq_none_iff]
  rfl

theorem withoutLastByte?_entries (entries : List String) :
    withoutLastByte? (Json.braced entries) = some ("\x7b" ++ Json.commaSeparated entries) := by
  have single : '\x7d'.utf8Size = 1 := by decide
  have last : (Json.braced entries).toList.reverse =
      '\x7d' :: ("\x7b" ++ Json.commaSeparated entries).toList.reverse := by
    simp [Json.braced]
  unfold withoutLastByte?
  rw [last]
  simp only [single, if_pos, List.reverse_reverse, String.ofList_toList]

private theorem length_withoutLastByte? {text head : String}
    (cut : withoutLastByte? text = some head) : head.length + 1 = text.length := by
  unfold withoutLastByte? at cut
  split at cut
  · rename_i last rest reversed
    split at cut
    · cases cut
      have lengths := congrArg List.length reversed
      rw [List.length_reverse, String.length_toList, List.length_cons] at lengths
      rw [String.length_ofList, List.length_reverse, lengths]
    · cases cut
  · cases cut

/-- The entry of the parameters goes in front of the closing brace, with a comma unless it is the
first. -/
theorem entriesText_payload {parameters : Json}
    (given : source.options.get? "params" = some parameters) :
    Json.entriesText source.payloadEntries =
      "\x7b" ++ Json.commaSeparated (Json.serializeFields source.payloadFields) ++
        (if source.payloadFields.isEmpty then "" else ",") ++ "\"body\":" ++
        parametersSource parameters ++ "\x7d" := by
  have key : Json.quote "body" ++ ":" = "\"body\":" := by decide +kernel
  have entry : Json.entryText ("body", parametersSource parameters) =
      "\"body\":" ++ parametersSource parameters := by
    rw [Json.entryText, key]
  have fields : (source.payloadFields.map fun (key, value) => (key, value.serialize)).map
      Json.entryText = Json.serializeFields source.payloadFields := by
    rw [List.map_map, Json.serializeFields_eq]
    rfl
  have empty : (Json.serializeFields source.payloadFields).isEmpty =
      source.payloadFields.isEmpty := by
    rw [Json.serializeFields_eq, List.isEmpty_map]
  rw [Json.entriesText, payloadEntries_eq, given, Option.toList_some, List.map_cons, List.map_nil,
    List.map_append, fields, List.map_cons, List.map_nil, entry, Json.braced,
    Json.commaSeparated_concat, empty]
  simp only [String.append_assoc]

theorem entriesText_payload_bare (absent : source.options.get? "params" = none) :
    Json.entriesText source.payloadEntries =
      Json.braced (Json.serializeFields source.payloadFields) := by
  rw [Json.entriesText, payloadEntries_eq, absent, Option.toList_none, List.map_nil,
    List.append_nil, List.map_map, Json.serializeFields_eq]
  rfl

/-- The payload has the text of its entries exactly if the options are not taken for a tagged
value: the source of one is too short. -/
theorem payloadSource_eq_entries_iff :
    source.payloadSource = .ok (Json.entriesText source.payloadEntries) ↔
      source.HasPlainOptions := by
  rw [hasPlainOptions_iff]
  cases carried : (Json.object source.payloadFields).carried? with
  | none =>
    refine iff_of_true ?_ rfl
    have plain := Json.serialize_untagged carried
    unfold payloadSource
    cases given : source.options.get? "params" with
    | none => rw [entriesText_payload_bare given, ← plain]
    | some parameters =>
      simp only [plain, withoutLastByte?_entries]
      rw [entriesText_payload given]
  | some tagged =>
    refine iff_of_false (fun whole => ?_) (Option.some_ne_none tagged)
    have shorter := Json.length_carried carried (Json.length_serialize_string tagged)
    rw [← Json.serializeFields_eq] at shorter
    unfold payloadSource at whole
    cases given : source.options.get? "params" with
    | none =>
      rw [given, entriesText_payload_bare given] at whole
      have text := Except.ok.inj whole
      rw [Json.serialize_carried carried] at text
      rw [text] at shorter
      exact Nat.lt_irrefl _ shorter
    | some parameters =>
      simp only [given, Json.serialize_carried carried] at whole
      cases cut : withoutLastByte? (Text.trimmed tagged) with
      | none =>
        rw [cut] at whole
        cases whole
      | some head =>
        rw [cut, entriesText_payload given] at whole
        have lengths := congrArg String.length (Except.ok.inj whole)
        have left := length_withoutLastByte? cut
        have closing : "\x7d".length = 1 := rfl
        rw [Json.braced] at shorter
        simp only [String.length_append] at lengths shorter
        omega

/-- No payload comes about exactly if the source that the options carry has no last byte to give
way to the parameters. -/
theorem payloadSource_succeeds_iff :
    (∃ text, source.payloadSource = .ok text) ↔
      (source.options.get? "params" ≠ none →
        ∀ carried, (Json.object source.options).carried? = some carried →
          ∃ head, withoutLastByte? (Text.trimmed carried) = some head) := by
  rw [← carried?_payload]
  unfold payloadSource
  cases source.options.get? "params" with
  | none => exact iff_of_true ⟨_, rfl⟩ fun given => absurd rfl given
  | some parameters =>
    cases carried : (Json.object source.payloadFields).carried? with
    | none =>
      refine iff_of_true ?_ fun _ _ tagged => nomatch tagged
      simp only [Json.serialize_untagged carried, withoutLastByte?_entries]
      exact ⟨_, rfl⟩
    | some tagged =>
      simp only [Json.serialize_carried carried, Option.some.injEq, forall_eq']
      cases cut : withoutLastByte? (Text.trimmed tagged) with
      | none => simp
      | some head => simp

theorem payloadFields_body (source : DataSource) :
    source.payloadFields.get? "body" = source.options.get? "body" :=
  source.payloadFields_get? (by decide)

private theorem keys_payloadEntries (source : DataSource) : source.payloadEntries.map (·.1) =
    source.payloadFields.keys ++
      (source.options.get? "params").toList.map fun _ => "body" := by
  rw [payloadEntries_eq, List.map_append, List.map_map, List.map_map]
  rfl

private theorem keys_payloadFields_nodup (distinct : source.options.keys.Nodup) :
    source.payloadFields.keys.Nodup := by
  have others : (Fields.keys (source.options.filter fun (key, _) =>
      !reservedOptions.contains key)).Nodup :=
    distinct.sublist (List.filter_sublist.map _)
  have apart : "method" ∉ Fields.keys (source.options.filter fun (key, _) =>
      !reservedOptions.contains key) := by
    intro member
    obtain ⟨⟨key, value⟩, kept, named⟩ := List.mem_map.mp member
    have free : (!reservedOptions.contains key) = true := (List.mem_filter.mp kept).2
    rw [show key = "method" from named] at free
    exact absurd free (by decide)
  unfold payloadFields
  split
  · exact List.nodup_cons.mpr ⟨apart, others⟩
  · exact others

/-- The keys of the entries are distinct unless the options give a body of their own next to the
parameters. -/
theorem keys_payloadEntries_nodup_iff (distinct : source.options.keys.Nodup) :
    (source.payloadEntries.map (·.1)).Nodup ↔
      (source.options.get? "params" ≠ none → source.options.get? "body" = none) := by
  rw [keys_payloadEntries, ← payloadFields_body, Fields.get?_eq_none_iff]
  have fields := keys_payloadFields_nodup distinct
  cases source.options.get? "params" with
  | none => simpa using fields
  | some parameters =>
    have apart : (source.payloadFields.keys ++ ["body"]).Nodup ↔
        "body" ∉ source.payloadFields.keys := by
      rw [List.nodup_append]
      refine ⟨fun ⟨_, _, apart⟩ member => apart _ member _ (by simp) rfl, fun fresh =>
        ⟨fields, by simp, fun key member last here => ?_⟩⟩
      rintro rfl
      exact fresh (List.mem_singleton.mp here ▸ member)
    simpa using apart

/-- Parameters that are bound among the fields are the last entry. -/
theorem entriesText_bound (own : source.options.get? "params" ≠ none →
    source.options.get? "body" = none) :
    Json.entriesText source.payloadEntries =
      Json.braced (Json.serializeFields source.boundFields) := by
  unfold boundFields
  cases given : source.options.get? "params" with
  | none => exact entriesText_payload_bare given
  | some parameters =>
    rw [given, ← payloadFields_body, Fields.get?_eq_none_iff] at own
    have fresh := own (Option.some_ne_none parameters)
    dsimp only
    rw [Json.entriesText, payloadEntries_eq, given, Fields.put_fresh fresh,
      Json.serializeFields_eq, List.map_append, List.map_append, List.map_map]
    simp only [Option.toList_some, List.map_cons, List.map_nil, serialize_bodyValue]
    rfl

theorem read_options_distinct {medium : Json.Medium} {document : Json.Document}
    (success : read medium document = .ok source) : source.options.keys.Nodup := by
  refine Json.Document.readRecord_keeps (P := fun source => source.options.keys.Nodup) ?_
    List.nodup_nil success
  intro medium record next name document kept made
  change readField medium record name document = .ok next at made
  unfold readField at made
  split at made
  all_goals first
    | obtain ⟨options, read, made⟩ := Json.Reader.bind_ok made
      cases made
      first
        | exact kept
        | exact Json.Document.readFields_distinct read
    | cases made
      exact kept

end Payload

/-- The payload of a request is a well-formed object exactly if its options are not taken for a
tagged value, and give no body next to the parameters. It cannot even be cut only if they are taken
for one. The options of every descriptor that is read have distinct keys. -/
theorem payload_wellFormed_iff (source : DataSource) (distinct : source.options.keys.Nodup) :
    (source.HasWellFormedPayload ↔ source.HasPlainOptions ∧
      (source.options.get? "params" ≠ none → source.options.get? "body" = none)) ∧
    ((∃ text, source.payloadSource = .ok text) ↔
      (source.options.get? "params" ≠ none →
        ∀ carried, (Json.object source.options).carried? = some carried →
          ∃ head, withoutLastByte? (Text.trimmed carried) = some head)) := by
  refine ⟨⟨fun formed => ⟨?_, ?_⟩, fun ⟨plain, own⟩ => ⟨?_, ?_, ?_⟩⟩, payloadSource_succeeds_iff⟩
  · exact payloadSource_eq_entries_iff.mp formed.text
  · exact (keys_payloadEntries_nodup_iff distinct).mp formed.distinct
  · exact payloadSource_eq_entries_iff.mpr plain
  · exact (keys_payloadEntries_nodup_iff distinct).mpr own
  · exact entriesText_bound own

/-- A fetch with a method, an option of its own and parameters. -/
theorem payload_wellFormed_iff_fetch :
    let source : DataSource :=
      { id := "load", transport := .fetch, handler := none
        options := [("uri", .string "/items"), ("params", .string "\x7b\x7b this.query \x7d\x7d"),
          ("method", .string "POST"), ("cache", .bool true)] }
    source.options.keys.Nodup ∧ source.HasWellFormedPayload ∧
      source.payloadSource.toOption =
        some "\x7b\"method\":\"POST\",\"cache\":true,\"body\":this.query\x7d" := by
  intro source
  have distinct : source.options.keys.Nodup := by decide +kernel
  have formed := (payload_wellFormed_iff source distinct).1.mpr
    ⟨by decide +kernel, fun _ => rfl⟩
  exact ⟨distinct, formed, by decide +kernel⟩

/-- Options that are taken for an expression without a source leave nothing to cut, and a body next
to the parameters is written twice. -/
theorem payload_not_wellFormed :
    let tagged : DataSource :=
      { id := "load", transport := .fetch, handler := none
        options :=
          [("params", .bool true), ("type", .string "JSExpression"), ("value", .string "")] }
    let doubled : DataSource :=
      { id := "load", transport := .fetch, handler := none
        options := [("body", .bool false), ("params", .bool true)] }
    tagged.payloadSource = .error (.uncutPayload "") ∧ ¬ tagged.HasWellFormedPayload ∧
      doubled.payloadSource.toOption = some "\x7b\"body\":false,\"body\":true\x7d" ∧
      ¬ doubled.HasWellFormedPayload := by
  intro tagged doubled
  have uncut : tagged.payloadSource.toOption = none := by decide +kernel
  refine ⟨rfl, fun formed => ?_, by decide +kernel, fun formed => ?_⟩
  · rw [formed.text] at uncut
    cases uncut
  · exact absurd formed.distinct (by decide +kernel)

end DataSource

end PanelCompiler
