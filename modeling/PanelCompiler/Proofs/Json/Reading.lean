import PanelCompiler.Json.Reading

namespace PanelCompiler

namespace Fields

theorem keys_put_nodup {fields : Fields} (distinct : fields.keys.Nodup) (key : String)
    (value : Json) : (fields.put key value).keys.Nodup := by
  rw [keys_put]
  split
  · exact distinct
  · rename_i fresh
    refine List.nodup_append.mpr ⟨distinct, by simp, fun known bound last here => ?_⟩
    rintro rfl
    exact fresh (List.mem_singleton.mp here ▸ bound)

theorem put_fresh {fields : Fields} {key : String} (fresh : key ∉ fields.keys) (value : Json) :
    fields.put key value = fields ++ [(key, value)] := by
  induction fields with
  | nil => rfl
  | cons field rest ih =>
    obtain ⟨name, old⟩ := field
    obtain ⟨apart, fresh⟩ := List.ne_and_not_mem_of_not_mem_cons fresh
    rw [put, if_neg (Ne.symm apart), ih fresh, List.cons_append]

theorem mem_of_get? {fields : Fields} {key : String} {value : Json}
    (bound : fields.get? key = some value) : (key, value) ∈ fields := by
  induction fields with
  | nil => cases bound
  | cons field rest ih =>
    obtain ⟨name, old⟩ := field
    rw [get?] at bound
    split at bound
    · rename_i same
      cases bound
      exact same ▸ List.mem_cons_self
    · exact List.mem_cons_of_mem _ (ih bound)

theorem get?_eq_none_iff {fields : Fields} {key : String} :
    fields.get? key = none ↔ key ∉ fields.keys := by
  induction fields with
  | nil => simp [get?, keys]
  | cons field rest ih =>
    obtain ⟨name, old⟩ := field
    have head : keys ((name, old) :: rest) = name :: keys rest := rfl
    rw [get?, head, List.mem_cons]
    by_cases same : name = key
    · simp [same]
    · simp [same, ih, Ne.symm same]

private theorem value_of_mem_put {fields : Fields} {key : String} {value : Json}
    {field : String × Json}
    (member : field ∈ fields.put key value) : field.2 = value ∨ field ∈ fields := by
  induction fields with
  | nil =>
    cases List.mem_singleton.mp member
    exact .inl rfl
  | cons first rest ih =>
    obtain ⟨name, old⟩ := first
    rw [put] at member
    split at member
    · rcases List.mem_cons.mp member with rfl | later
      · exact .inl rfl
      · exact .inr (List.mem_cons_of_mem _ later)
    · rcases List.mem_cons.mp member with rfl | later
      · exact .inr List.mem_cons_self
      · exact (ih later).imp_right (List.mem_cons_of_mem _)

end Fields

namespace Json

variable {α β : Type}

theorem Reader.bind_ok {read : Reader α} {next : α → Reader β} {value : β}
    (success : (read >>= next) = .ok value) :
    ∃ first, read = .ok first ∧ next first = .ok value := by
  cases read with
  | error fault => cases success
  | ok first => exact ⟨first, rfl, success⟩

theorem Reader.ok_bind (first : α) (next : α → Reader β) :
    ((.ok first : Reader α) >>= next) = next first :=
  rfl

/-- Every object in a value binds each of its keys once. -/
inductive BindsOnce : Json → Prop
  | null : BindsOnce .null
  | bool (value : Bool) : BindsOnce (.bool value)
  | number (value : Number) : BindsOnce (.number value)
  | string (text : String) : BindsOnce (.string text)
  | array {items : List Json} (all : ∀ item ∈ items, BindsOnce item) : BindsOnce (.array items)
  | object {fields : Fields} (distinct : fields.keys.Nodup)
    (all : ∀ field ∈ fields, BindsOnce field.2) : BindsOnce (.object fields)

theorem BindsOnce.empty : BindsOnce (.object []) :=
  .object List.nodup_nil fun _ member => nomatch member

private theorem BindsOnce.put {fields : Fields} {key : String} {value : Json}
    (bound : BindsOnce (.object fields)) (once : value.BindsOnce) :
    BindsOnce (.object (fields.put key value)) := by
  obtain _ | _ | _ | _ | _ | ⟨distinct, all⟩ := bound
  refine .object (Fields.keys_put_nodup distinct key value) fun field member => ?_
  rcases Fields.value_of_mem_put member with same | known
  · exact same ▸ once
  · exact all field known

namespace Document

theorem reject_ne_ok (document : Document) (expected : Expected) (value : α) :
    document.reject expected ≠ .ok value := by
  intro success
  obtain ⟨found, _, success⟩ := Reader.bind_ok success
  cases success

section Values

mutual

/-- A value that is read binds the keys of its objects once. -/
theorem readJson_once {medium : Medium} {value : Json} : ∀ document : Document,
    document.readJson medium = .ok value → value.BindsOnce
  | .null, success => by
    cases success
    exact .null
  | .bool given, success => by
    cases success
    exact .bool given
  | .number (some given), success => by
    cases success
    exact .number given
  | .number none, success | .broken _ _, success => nomatch success
  | .string content, success => by
    rw [readJson] at success
    obtain ⟨text, _, success⟩ := Reader.bind_ok success
    cases success
    exact .string text
  | .array items ending, success => by
    rw [readJson] at success
    obtain ⟨inner, _, success⟩ := Reader.bind_ok success
    obtain ⟨values, made, success⟩ := Reader.bind_ok success
    obtain ⟨_, _, success⟩ := Reader.bind_ok success
    cases success
    exact .array (readJsonItems_once items made)
  | .object entries ending, success => by
    rw [readJson] at success
    obtain ⟨inner, _, success⟩ := Reader.bind_ok success
    obtain ⟨fields, made, success⟩ := Reader.bind_ok success
    obtain ⟨_, _, success⟩ := Reader.bind_ok success
    cases success
    exact readJsonFields_once entries .empty made

private theorem readJsonItems_once {medium : Medium} {values : List Json} :
    ∀ items : List Document, readJsonItems medium items = .ok values →
      ∀ value ∈ values, value.BindsOnce
  | [], success => by
    cases success
    exact nofun
  | item :: rest, success => by
    rw [readJsonItems] at success
    obtain ⟨first, made, success⟩ := Reader.bind_ok success
    obtain ⟨others, later, success⟩ := Reader.bind_ok success
    cases success
    exact List.forall_mem_cons.mpr ⟨readJson_once item made, readJsonItems_once rest later⟩

theorem readJsonFields_once {medium : Medium} {bound fields : Fields} :
    ∀ entries : List (Content × Document), BindsOnce (.object bound) →
      readJsonFields medium bound entries = .ok fields → BindsOnce (.object fields)
  | [], once, success => by
    cases success
    exact once
  | (key, document) :: rest, once, success => by
    rw [readJsonFields] at success
    obtain ⟨name, _, success⟩ := Reader.bind_ok success
    obtain ⟨value, made, success⟩ := Reader.bind_ok success
    exact readJsonFields_once rest (once.put (readJson_once document made)) success

end

theorem readFields_once {medium : Medium} {document : Document} {fields : Fields}
    (success : document.readFields medium = .ok fields) : BindsOnce (.object fields) := by
  unfold readFields at success
  split at success
  · obtain ⟨inner, _, success⟩ := Reader.bind_ok success
    obtain ⟨made, read, success⟩ := Reader.bind_ok success
    obtain ⟨_, _, success⟩ := Reader.bind_ok success
    cases success
    exact readJsonFields_once _ .empty read
  · exact absurd success (reject_ne_ok _ _ _)

theorem readFields_distinct {medium : Medium} {document : Document} {fields : Fields}
    (success : document.readFields medium = .ok fields) : fields.keys.Nodup := by
  obtain _ | _ | _ | _ | _ | ⟨distinct, _⟩ := readFields_once success
  exact distinct

theorem eq_null_of_readJson {medium : Medium} {document : Document}
    (success : document.readJson medium = .ok .null) : document = .null := by
  cases document with
  | null => rfl
  | bool _ | broken _ _ => cases success
  | number given => cases given <;> cases success
  | string content =>
    rw [readJson] at success
    obtain ⟨text, _, success⟩ := Reader.bind_ok success
    cases success
  | array items ending | object entries ending =>
    rw [readJson] at success
    obtain ⟨inner, _, success⟩ := Reader.bind_ok success
    obtain ⟨values, _, success⟩ := Reader.bind_ok success
    obtain ⟨_, _, success⟩ := Reader.bind_ok success
    cases success

end Values

/-- A value is read back from what is written for it. -/
def ReadsBack (read : Document → Reader α) (write : α → Json) (value : α) : Prop :=
  read (.ofJson (write value)) = .ok value

section Restoring

mutual

/-- A value that binds the keys of its objects once is read back from its own document. -/
theorem readJson_ofJson : ∀ {value : Json}, value.BindsOnce →
    ReadsBack (readJson .value) id value
  | _, .null | _, .bool _ | _, .number _ | _, .string _ => rfl
  | .array items, .array all => by
    have read := readJsonItems_ofItems items all
    simp only [ReadsBack, id, ofJson, readJson, Medium.enter, Reader.ok_bind, read, Ending.finish]
    rfl
  | .object fields, .object distinct all => by
    have read := readJsonFields_ofFields [] fields distinct all
    simp only [ReadsBack, id, ofJson, readJson, Medium.enter, Reader.ok_bind, read, Ending.finish]
    rfl

private theorem readJsonItems_ofItems : ∀ items : List Json, (∀ item ∈ items, item.BindsOnce) →
    readJsonItems .value (ofItems items) = .ok items
  | [], _ => rfl
  | item :: rest, all => by
    obtain ⟨first, others⟩ := List.forall_mem_cons.mp all
    have here : readJson .value (ofJson item) = .ok item := readJson_ofJson first
    have later := readJsonItems_ofItems rest others
    rw [ofItems, readJsonItems, here, later]
    rfl

/-- Fresh keys are bound behind those that are bound already. -/
private theorem readJsonFields_ofFields (bound : Fields) : ∀ fields : Fields,
    (Fields.keys (bound ++ fields)).Nodup → (∀ field ∈ fields, field.2.BindsOnce) →
      readJsonFields .value bound (ofFields fields) = .ok (bound ++ fields)
  | [], _, _ => by rw [ofFields, readJsonFields, List.append_nil]
  | (key, value) :: rest, distinct, all => by
    obtain ⟨first, others⟩ := List.forall_mem_cons.mp all
    have here : readJson .value (ofJson value) = .ok value := readJson_ofJson first
    have fresh : key ∉ bound.keys := by
      rw [Fields.keys, List.map_append, List.map_cons] at distinct
      obtain ⟨_, _, apart⟩ := List.nodup_append.mp distinct
      exact fun known => apart key known key List.mem_cons_self rfl
    rw [List.append_cons] at distinct ⊢
    have later := readJsonFields_ofFields (bound ++ [(key, value)]) rest distinct others
    rw [ofFields, readJsonFields, readContent, Reader.ok_bind, here, Reader.ok_bind,
      Fields.put_fresh fresh, later]

end

theorem readFields_ofJson {fields : Fields} (once : BindsOnce (.object fields)) :
    ReadsBack (readFields .value) .object fields := by
  obtain _ | _ | _ | _ | _ | ⟨distinct, all⟩ := once
  have read := readJsonFields_ofFields [] fields distinct all
  simp only [ReadsBack, ofJson, readFields, Medium.enter, Reader.ok_bind, read, Ending.finish]
  rfl

private theorem readStringItems_ofItems (texts : List String) :
    readStringItems (ofItems (texts.map .string)) = .ok texts := by
  induction texts with
  | nil => rfl
  | cons text rest ih =>
    rw [List.map_cons, ofItems, readStringItems, ih]
    rfl

theorem readStrings_ofJson (texts : List String) :
    ReadsBack (readStrings .value) (fun texts => .array (texts.map .string)) texts := by
  have read := readStringItems_ofItems texts
  simp only [ReadsBack, ofJson, readStrings, Medium.enter, Reader.ok_bind, read, Ending.finish]
  rfl

end Restoring

section Records

variable {draft met : Draft α} {names : List String} {record : α} {shape : RecordShape α}

theorem Draft.finish_ok (success : draft.finish names = .ok record) : record = draft.record := by
  induction names with
  | nil =>
    cases success
    rfl
  | cons name rest ih =>
    unfold finish at success
    split at success
    · exact ih success
    · cases success

theorem Draft.meet_ok {name : String} (success : draft.meet name = .ok met) :
    met.record = draft.record := by
  unfold meet at success
  split at success
  · cases success
  · cases success
    rfl

theorem Draft.meet_fresh {name : String} (fresh : names.contains name = false) :
    Draft.meet ⟨names, record⟩ name = .ok ⟨name :: names, record⟩ := by
  rw [Draft.meet, fresh]
  rfl

theorem RecordShape.finishEarly_ok {ending : Ending} {length : Nat} {final : α}
    (success : shape.finishEarly ending length record = .ok final) : final = record := by
  obtain ⟨_, _, success⟩ := Reader.bind_ok success
  split at success
  · cases success
  · cases success
    rfl

theorem readRecordEntries_cons {medium : Medium} {names : List String} {name : String}
    {value : Document} {next : α} (known : shape.fields.contains name = true)
    (fresh : names.contains name = false)
    (made : shape.readField medium record name value = .ok next)
    (rest : List (Content × Document)) :
    readRecordEntries shape medium ⟨names, record⟩ ((.ok name, value) :: rest) =
      readRecordEntries shape medium ⟨name :: names, next⟩ rest := by
  rw [readRecordEntries, readContent, Reader.ok_bind, if_pos known, Draft.meet_fresh fresh,
    Reader.ok_bind, made, Reader.ok_bind]

section Kept

variable {P : α → Prop}
  (keeps : ∀ {medium : Medium} {record read : α} {name : String} {document : Document},
    P record → shape.readField medium record name document = .ok read → P read)

include keeps

private theorem readRecordEntries_keeps {medium : Medium} {draft final : Draft α}
    {entries : List (Content × Document)} (kept : P draft.record)
    (success : readRecordEntries shape medium draft entries = .ok final) : P final.record := by
  induction entries generalizing draft with
  | nil =>
    cases success
    exact kept
  | cons entry rest ih =>
    obtain ⟨key, value⟩ := entry
    rw [readRecordEntries] at success
    obtain ⟨name, _, success⟩ := Reader.bind_ok success
    split at success
    · obtain ⟨met, meeting, success⟩ := Reader.bind_ok success
      obtain ⟨record, made, success⟩ := Reader.bind_ok success
      exact ih (keeps (Draft.meet_ok meeting ▸ kept) made) success
    · obtain ⟨_, _, success⟩ := Reader.bind_ok success
      exact ih kept success

private theorem readRecordItems_keeps {medium : Medium} {length : Nat} {ending : Ending}
    {names : List String} {record final : α} {items : List Document} (kept : P record)
    (success : readRecordItems shape medium length ending names record items = .ok final) :
    P final := by
  induction items generalizing names record with
  | nil =>
    cases names with
    | nil =>
      obtain ⟨_, _, success⟩ := Reader.bind_ok success
      cases success
      exact kept
    | cons name others => exact RecordShape.finishEarly_ok success ▸ kept
  | cons item rest ih =>
    cases names with
    | nil => cases success
    | cons name others =>
      rw [readRecordItems] at success
      obtain ⟨read, made, success⟩ := Reader.bind_ok success
      exact ih (keeps kept made) success

/-- What holds of the blank record and outlasts the reading of a field holds of every record that is
read, from an object or from an array. -/
theorem readRecord_keeps (blank : P shape.blank) {medium : Medium} {document : Document}
    (success : readRecord shape medium document = .ok record) : P record := by
  unfold readRecord at success
  split at success
  · obtain ⟨inner, _, success⟩ := Reader.bind_ok success
    obtain ⟨draft, entered, success⟩ := Reader.bind_ok success
    obtain ⟨_, _, success⟩ := Reader.bind_ok success
    exact Draft.finish_ok success ▸ readRecordEntries_keeps keeps blank entered
  · obtain ⟨inner, _, success⟩ := Reader.bind_ok success
    exact readRecordItems_keeps keeps blank success
  · exact absurd success (reject_ne_ok _ _ _)

end Kept

end Records

end Document

end Json

end PanelCompiler
