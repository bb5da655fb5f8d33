import PanelCompiler.Proofs.Json.Reading
import PanelCompiler.Proofs.Text.Trim
import PanelCompiler.Value.Source

/-!
The text of a value in other data. It is the compact text of the value unless a function or a tagged
object is in it, at whatever depth: these are written as their sources, which are shorter than what
they replace, so that the whole text is shorter, too.
-/

namespace PanelCompiler

namespace Json

/-- The source that an object is tagged with. -/
def carried? (value : Json) : Option String :=
  (value.tagged? functionTag).or (value.tagged? expressionTag)

/-- The text of an entry: a quoted key, and the source of its value. -/
def entryText (entry : String × String) : String :=
  quote entry.1 ++ ":" ++ entry.2

/-- A value with everything in it, at whatever depth. -/
inductive Holds : Json → Json → Prop
  | self (value : Json) : Holds value value
  | item {items : List Json} {item inner : Json} (member : item ∈ items)
    (holds : Holds item inner) : Holds (.array items) inner
  | field {fields : Fields} {field : String × Json} {inner : Json} (member : field ∈ fields)
    (holds : Holds field.2 inner) : Holds (.object fields) inner

/-- The values that stand as their own source: strings that look like functions, and objects tagged
with a source. -/
inductive Expands : Json → Prop
  | function {text : String} (shape : Value.looksLikeFunction text.toList = true) :
    Expands (.string text)
  | tagged {fields : Fields} {tag source : String} (known : tag = functionTag ∨ tag = expressionTag)
    (type : fields.get? "type" = some (.string tag))
    (value : fields.get? "value" = some (.string source)) : Expands (.object fields)

/-- Nothing in a value stands as its own source. -/
def Plain (value : Json) : Prop :=
  ∀ inner, value.Holds inner → ¬ inner.Expands

section Texts

theorem length_le_commaSeparated {text : String} {texts : List String} (member : text ∈ texts) :
    text.length ≤ (commaSeparated texts).length := by
  induction texts with
  | nil => cases member
  | cons first rest ih =>
    cases rest with
    | nil =>
      rw [List.mem_singleton.mp member]
      exact Nat.le_refl _
    | cons second others =>
      have whole : commaSeparated (first :: second :: others) =
          first ++ "," ++ commaSeparated (second :: others) := rfl
      rw [whole, String.length_append, String.length_append]
      rcases List.mem_cons.mp member with rfl | later
      · omega
      · have shorter := ih later
        omega

private theorem length_trimmed (text : String) : (Text.trimmed text).length ≤ text.length := by
  obtain ⟨front, back, -, -, whole⟩ := Text.exists_trim text.toList
  have lengths := congrArg List.length whole
  rw [List.length_append, List.length_append, String.length_toList] at lengths
  rw [Text.trimmed, String.length_ofList]
  omega

private theorem length_quote (text : String) : text.length < (quote text).length := by
  have kept : ∀ chars : List Char, chars.length ≤ (chars.flatMap escapeChar).length := by
    intro chars
    induction chars with
    | nil => exact Nat.le_refl _
    | cons c rest ih =>
      have shown : 0 < (escapeChar c).length := by
        unfold escapeChar unicodeEscape
        repeat' split
        all_goals exact Nat.succ_pos _
      rw [List.flatMap_cons, List.length_append, List.length_cons]
      omega
  have inner := kept text.toList
  rw [String.length_toList] at inner
  rw [quote, String.length_ofList, List.length_append, List.length_cons]
  omega

theorem length_trimmed_lt_quote (text : String) :
    (Text.trimmed text).length < (quote text).length :=
  Nat.lt_of_le_of_lt (length_trimmed text) (length_quote text)

theorem serialize_string (text : String) : (Json.string text).serialize =
    if Value.looksLikeFunction text.toList then Text.trimmed text else quote text := by
  have untagged : ∀ tag, (Json.string text).tagged? tag = none := fun _ => rfl
  rw [serialize, untagged, untagged]

theorem length_serialize_string (text : String) :
    (Text.trimmed text).length ≤ (serialize (.string text)).length := by
  rw [serialize_string]
  split
  · exact Nat.le_refl _
  · exact Nat.le_of_lt (length_trimmed_lt_quote text)

end Texts

section Objects

variable {fields : Fields}

theorem tagged?_eq_some {tag source : String} : (Json.object fields).tagged? tag = some source ↔
    fields.get? "type" = some (.string tag) ∧ fields.get? "value" = some (.string source) := by
  constructor
  · intro tagged
    unfold tagged? at tagged
    split at tagged
    · rename_i type given
      split at tagged
      · rename_i same
        obtain ⟨value, found, text⟩ := Option.bind_eq_some_iff.mp tagged
        cases value with
        | string other =>
          cases text
          exact ⟨same ▸ given, found⟩
        | null | bool | number | array | object => cases text
      · cases tagged
    · cases tagged
  · rintro ⟨type, value⟩
    simp [tagged?, field?, asObject?, asString?, type, value]

theorem tagged?_congr {first second : Fields} (type : first.get? "type" = second.get? "type")
    (value : first.get? "value" = second.get? "value") (tag : String) :
    (Json.object first).tagged? tag = (Json.object second).tagged? tag := by
  simp [tagged?, field?, asObject?, type, value]

theorem serialize_object (function : (Json.object fields).tagged? functionTag = none)
    (expression : (Json.object fields).tagged? expressionTag = none) :
    (Json.object fields).serialize = braced (serializeFields fields) := by
  rw [serialize]
  simp [function, expression]

theorem serialize_untagged (untagged : (Json.object fields).carried? = none) :
    (Json.object fields).serialize = braced (serializeFields fields) := by
  obtain ⟨function, expression⟩ := Option.or_eq_none_iff.mp untagged
  exact serialize_object function expression

theorem serialize_carried {source : String}
    (carried : (Json.object fields).carried? = some source) :
    (Json.object fields).serialize = Text.trimmed source := by
  rw [serialize]
  unfold carried? at carried
  cases function : (Json.object fields).tagged? functionTag with
  | some other =>
    rw [function] at carried
    cases carried
    rfl
  | none =>
    rw [function, Option.none_or] at carried
    rw [carried]

/-- The source that an object carries is one of its fields. -/
theorem value_of_carried {source : String}
    (carried : (Json.object fields).carried? = some source) :
    fields.get? "value" = some (.string source) := by
  rcases Option.or_eq_some_iff.mp carried with function | ⟨-, expression⟩
  · exact (tagged?_eq_some.mp function).2
  · exact (tagged?_eq_some.mp expression).2

/-- An object is tagged exactly if it carries a source. -/
theorem expands_object : Expands (.object fields) ↔ (Json.object fields).carried? ≠ none := by
  constructor
  · rintro (_ | ⟨known, type, value⟩) none
    have tagged := tagged?_eq_some.mpr ⟨type, value⟩
    obtain ⟨function, expression⟩ := Option.or_eq_none_iff.mp none
    rcases known with rfl | rfl
    · cases tagged.symm.trans function
    · cases tagged.symm.trans expression
  · intro some
    obtain ⟨source, carried⟩ := Option.ne_none_iff_exists'.mp some
    rcases Option.or_eq_some_iff.mp carried with function | ⟨-, expression⟩
    · obtain ⟨type, value⟩ := tagged?_eq_some.mp function
      exact .tagged (.inl rfl) type value
    · obtain ⟨type, value⟩ := tagged?_eq_some.mp expression
      exact .tagged (.inr rfl) type value

theorem not_expands_object :
    ¬ Expands (.object fields) ↔ (Json.object fields).carried? = none := by
  rw [expands_object, not_not]

/-- The source that an object carries is shorter than the object written out, however its values are
written, if only strings keep their characters. -/
theorem length_carried {source : String} (carried : (Json.object fields).carried? = some source)
    {write : Json → String}
    (kept : (Text.trimmed source).length ≤ (write (.string source)).length) :
    (Text.trimmed source).length <
      (braced (fields.map fun (key, value) => entryText (key, write value))).length := by
  have field := Fields.mem_of_get? (value_of_carried carried)
  have entry : entryText ("value", write (.string source)) ∈
      fields.map fun (key, value) => entryText (key, write value) :=
    List.mem_map_of_mem (f := fun (key, value) => entryText (key, write value)) field
  have listed := length_le_commaSeparated entry
  have within : (write (.string source)).length ≤
      (entryText ("value", write (.string source))).length := by
    rw [entryText, String.length_append]
    exact Nat.le_add_left _ _
  rw [braced, String.length_append, String.length_append]
  have brace : "\x7b".length = 1 := rfl
  omega

theorem serializeFields_eq (fields : Fields) : serializeFields fields =
    fields.map fun (key, value) => entryText (key, value.serialize) := by
  induction fields with
  | nil => rfl
  | cons field rest ih => rw [serializeFields, ih]; rfl

theorem compactFields_eq (fields : Fields) : compactFields fields =
    fields.map fun (key, value) => entryText (key, value.compact) := by
  induction fields with
  | nil => rfl
  | cons field rest ih => rw [compactFields, ih]; rfl

theorem serializeItems_eq (items : List Json) : serializeItems items = items.map serialize := by
  induction items with
  | nil => rfl
  | cons item rest ih => rw [serializeItems, ih]; rfl

theorem compactItems_eq (items : List Json) : compactItems items = items.map compact := by
  induction items with
  | nil => rfl
  | cons item rest ih => rw [compactItems, ih]; rfl

end Objects

section Plain

theorem plain_string {text : String} :
    (Json.string text).Plain ↔ Value.looksLikeFunction text.toList = false := by
  rw [← Bool.not_eq_true]
  constructor
  · exact fun plain shape => plain _ (.self _) (.function shape)
  · rintro other _ (_ | _ | _) (shape | _)
    exact other shape

theorem plain_array {items : List Json} :
    (Json.array items).Plain ↔ ∀ item ∈ items, item.Plain := by
  constructor
  · exact fun plain item member inner holds => plain inner (.item member holds)
  · rintro all inner (_ | ⟨member, holds⟩ | _)
    · rintro ⟨⟩
    · exact all _ member inner holds

theorem plain_object {fields : Fields} : (Json.object fields).Plain ↔
    (Json.object fields).carried? = none ∧ ∀ field ∈ fields, field.2.Plain := by
  rw [← not_expands_object]
  constructor
  · intro plain
    refine ⟨plain _ (.self _), ?_⟩
    exact fun field member inner holds => plain inner (.field member holds)
  · rintro ⟨untagged, all⟩ inner (_ | _ | ⟨member, holds⟩)
    · exact untagged
    · exact all _ member inner holds

end Plain

/-- A text is another one if a condition holds, and else it is shorter. -/
def ShorterUnless (same : Prop) (shown full : String) : Prop :=
  same ∧ shown = full ∨ ¬ same ∧ shown.length < full.length

namespace ShorterUnless

variable {same other : Prop} {shown full rest whole : String}

theorem refl (holds : same) (text : String) : ShorterUnless same text text :=
  .inl ⟨holds, rfl⟩

theorem congr (shorter : ShorterUnless same shown full) (iff : same ↔ other) :
    ShorterUnless other shown full := by
  rwa [ShorterUnless, ← iff]

theorem eq_iff (shorter : ShorterUnless same shown full) : shown = full ↔ same := by
  rcases shorter with ⟨holds, equal⟩ | ⟨fails, less⟩
  · exact iff_of_true equal holds
  · refine iff_of_false ?_ fails
    rintro rfl
    exact Nat.lt_irrefl _ less

theorem append (head : ShorterUnless same shown full) (tail : ShorterUnless other rest whole) :
    ShorterUnless (same ∧ other) (shown ++ rest) (full ++ whole) := by
  unfold ShorterUnless
  rw [String.length_append, String.length_append]
  rcases head with ⟨first, rfl⟩ | ⟨first, less⟩ <;>
    rcases tail with ⟨second, rfl⟩ | ⟨second, fewer⟩
  · exact .inl ⟨⟨first, second⟩, rfl⟩
  · exact .inr ⟨fun both => second both.2, by omega⟩
  · exact .inr ⟨fun both => first both.1, by omega⟩
  · exact .inr ⟨fun both => first both.1, by omega⟩

theorem behind (shorter : ShorterUnless same shown full) (front : String) :
    ShorterUnless same (front ++ shown) (front ++ full) :=
  ((refl trivial front).append shorter).congr (iff_of_eq (true_and same))

theorem between (shorter : ShorterUnless same shown full) (front back : String) :
    ShorterUnless same (front ++ shown ++ back) (front ++ full ++ back) :=
  ((shorter.behind front).append (refl trivial back)).congr (iff_of_eq (and_true same))

theorem commaSeparated {α : Type} {same : α → Prop} {shown full : α → String} {items : List α}
    (each : ∀ item ∈ items, ShorterUnless (same item) (shown item) (full item)) :
    ShorterUnless (∀ item ∈ items, same item) (Json.commaSeparated (items.map shown))
      (Json.commaSeparated (items.map full)) := by
  induction items with
  | nil => exact refl nofun ""
  | cons item rest ih =>
    obtain ⟨first, others⟩ := List.forall_mem_cons.mp each
    cases rest with
    | nil => exact first.congr List.forall_mem_singleton.symm
    | cons second more =>
      have later := (ih others).behind ","
      have all := (first.append later).congr List.forall_mem_cons.symm
      rwa [← String.append_assoc, ← String.append_assoc] at all

end ShorterUnless

section Values

private theorem shorter_string (text : String) :
    ShorterUnless (Json.string text).Plain (serialize (.string text)) (compact (.string text)) := by
  refine ShorterUnless.congr ?_ plain_string.symm
  rw [serialize_string, compact]
  split
  · rename_i shape
    exact .inr ⟨by simp [shape], length_trimmed_lt_quote text⟩
  · rename_i other
    exact .inl ⟨Bool.not_eq_true _ ▸ other, rfl⟩

private theorem shorter_array {items : List Json}
    (each : ∀ item ∈ items, ShorterUnless item.Plain item.serialize item.compact) :
    ShorterUnless (Json.array items).Plain (serialize (.array items)) (compact (.array items)) := by
  have listed := (ShorterUnless.commaSeparated each).between "[" "]"
  refine ShorterUnless.congr ?_ plain_array.symm
  rwa [← serializeItems_eq, ← compactItems_eq] at listed

private theorem shorter_object {fields : Fields} (each : ∀ field ∈ fields,
    ShorterUnless field.2.Plain field.2.serialize field.2.compact) :
    ShorterUnless (Json.object fields).Plain (serialize (.object fields))
      (compact (.object fields)) := by
  refine ShorterUnless.congr ?_ plain_object.symm
  rw [compact, compactFields_eq]
  cases carried : (Json.object fields).carried? with
  | some source =>
    have kept : (Text.trimmed source).length ≤ (compact (.string source)).length := by
      rw [compact]
      exact Nat.le_of_lt (length_trimmed_lt_quote source)
    -- The source is one of the object's own values, and shorter than this value alone in quotes.
    rw [serialize_carried carried]
    exact .inr ⟨fun plain => Option.some_ne_none source plain.1, length_carried carried kept⟩
  | none =>
    have entries : ∀ field ∈ fields, ShorterUnless field.2.Plain
        (entryText (field.1, field.2.serialize)) (entryText (field.1, field.2.compact)) :=
      fun field member => (each field member).behind (quote field.1 ++ ":")
    have listed := (ShorterUnless.commaSeparated entries).between "\x7b" "\x7d"
    rw [serialize_untagged carried, serializeFields_eq]
    exact listed.congr ⟨fun all => ⟨rfl, all⟩, And.right⟩

mutual

/-- A value is serialized as its compact text if it is plain, and as a shorter text if it is not. -/
theorem shorter : ∀ value : Json, ShorterUnless value.Plain value.serialize value.compact
  | .null | .bool _ | .number _ => .inl ⟨by rintro _ ⟨⟩ ⟨⟩, rfl⟩
  | .string text => shorter_string text
  | .array items => shorter_array (shorter_items items)
  | .object fields => shorter_object (shorter_fields fields)

theorem shorter_items : ∀ items : List Json,
    ∀ item ∈ items, ShorterUnless item.Plain item.serialize item.compact
  | [], _, member => nomatch member
  | item :: rest, other, member => by
    rcases List.mem_cons.mp member with same | later
    · exact same ▸ shorter item
    · exact shorter_items rest other later

theorem shorter_fields : ∀ fields : List (String × Json),
    ∀ field ∈ fields, ShorterUnless field.2.Plain field.2.serialize field.2.compact
  | [], _, member => nomatch member
  | (key, value) :: rest, other, member => by
    rcases List.mem_cons.mp member with same | later
    · exact same ▸ shorter value
    · exact shorter_fields rest other later

end

end Values

/-- A value is serialized as its compact text exactly if no string in it, at whatever depth, looks
like a function, and no object in it is tagged with the source of a function or an expression. -/
theorem serialize_eq_compact_iff (value : Json) :
    value.serialize = value.compact ↔ ∀ inner, value.Holds inner → ¬ inner.Expands :=
  (shorter value).eq_iff

/-- A list whose only departure from JSON is a function in the field of an object. -/
example : serialize (.array [.bool true, .object [("on tap", .string "() => go()")]]) =
    "[true,\x7b\"on tap\":() => go()\x7d]" := by
  decide +kernel

end Json

end PanelCompiler
