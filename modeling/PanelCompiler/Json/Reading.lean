import PanelCompiler.Json.Document
import PanelCompiler.Json.Printer
import PanelCompiler.Text.UnseenTable

/-!
Reading typed data from a document: the objections a reader can have, their wording, and the
readers of plain values. Records are read from objects or from arrays of their fields in order.
-/

namespace PanelCompiler.Json

/-- What a reader found. -/
inductive Found
  | null
  | bool (value : Bool)
  | number (value : Number)
  | string (text : String)
  | sequence
  | map

/-- What a reader was looking for. -/
inductive Expected
  | boolean
  | float
  | string
  | sequence
  | map
  | unit
  | stringOrMap
  | record (name : String)

inductive ReadError
  | malformed (fault : Fault)
  | wrongType (found : Found) (expected : Expected)
  | tooShort (length : Nat) (record : String) (fields : Nat)
  | tooLong (length : Nat)
  | notSingleKey
  | missingField (name : String)
  | duplicateField (name : String)
  | unknownVariant (name : String) (variants : List String)
  | noMatchingVariant (type : String)

/-- The classes of objections that a caller can tell apart. -/
inductive ReadError.Category
  | data
  | syntaxFault
  | unfinished
  deriving DecidableEq

def ReadError.category : ReadError → ReadError.Category
  | .malformed .unexpected => .syntaxFault
  | .malformed .unfinished => .unfinished
  | _ => .data

def Number.describe : Number → String
  | .integer value => "integer `" ++ toString value ++ "`"
  | .float value => "floating point `" ++ Decimal.jsonText value ++ "`"

/-- A character in a quoted message; what cannot be told by sight is spelled out. -/
def describeChar (c : Char) : List Char :=
  if c == '"' then ['\\', '"']
  else if c == '\\' then ['\\', '\\']
  else if c == '\t' then ['\\', 't']
  else if c == '\n' then ['\\', 'n']
  else if c == '\r' then ['\\', 'r']
  else if c.toNat == 0 then ['\\', '0']
  else if Text.isUnseen c then
    '\\' :: 'u' :: '\x7b' :: Nat.toDigits 16 c.toNat ++ ['\x7d']
  else [c]

def describeString (text : String) : String :=
  String.ofList ('"' :: text.toList.flatMap describeChar ++ ['"'])

def Found.describe : Found → String
  | .null => "null"
  | .bool true => "boolean `true`"
  | .bool false => "boolean `false`"
  | .number value => value.describe
  | .string text => "string " ++ describeString text
  | .sequence => "sequence"
  | .map => "map"

def Expected.describe : Expected → String
  | .boolean => "a boolean"
  | .float => "f64"
  | .string => "a string"
  | .sequence => "a sequence"
  | .map => "a map"
  | .unit => "unit"
  | .stringOrMap => "string or map"
  | .record name => "struct " ++ name

/-- `` `a` or `b` `` for two names, a list for more. -/
def describeVariants : List String → String
  | [] => "there are no variants"
  | [only] => "expected `" ++ only ++ "`"
  | [first, second] => "expected `" ++ first ++ "` or `" ++ second ++ "`"
  | names => "expected one of " ++ ", ".intercalate (names.map fun name => "`" ++ name ++ "`")

/-- The wording of an objection to the data; a malformed text has none of its own. -/
def ReadError.message : ReadError → String
  | .malformed _ => ""
  | .wrongType found expected =>
    "invalid type: " ++ found.describe ++ ", expected " ++ expected.describe
  | .tooShort length record fields =>
    "invalid length " ++ toString length ++ ", expected struct " ++ record ++ " with " ++
      toString fields ++ (if fields == 1 then " element" else " elements")
  | .tooLong length =>
    "invalid length " ++ toString length ++ ", expected fewer elements in array"
  | .notSingleKey => "invalid value: map, expected map with a single key"
  | .missingField name => "missing field `" ++ name ++ "`"
  | .duplicateField name => "duplicate field `" ++ name ++ "`"
  | .unknownVariant name variants =>
    "unknown variant `" ++ name ++ "`, " ++ describeVariants variants
  | .noMatchingVariant type => "data did not match any variant of untagged enum " ++ type

/-- Where a document comes from. A text may nest only so many levels further and ends with its
record; a value has no such bounds. -/
inductive Medium
  | text (levels : Nat)
  | value

/-- A text may nest this deep. -/
def levelLimit : Nat := 127

abbrev Reader (α : Type) := Except ReadError α

/-- Step into an array or object. -/
def Medium.enter : Medium → Reader Medium
  | .text 0 => .error (.malformed .unexpected)
  | .text (levels + 1) => .ok (.text levels)
  | .value => .ok .value

/-- The objection to an array with more items than its record has fields. -/
def Medium.surplus (medium : Medium) (length : Nat) : ReadError :=
  match medium with
  | .text _ => .malformed .unexpected
  | .value => .tooLong length

def Ending.finish : Ending → Reader Unit
  | .closed => .ok ()
  | .cut fault _ => .error (.malformed fault)

/-- The end of an array whose record has no more fields. -/
def Ending.finishRecord : Ending → Reader Unit
  | .closed => .ok ()
  | .cut _ true => .error (.malformed .unexpected)
  | .cut fault false => .error (.malformed fault)

def Number.toFloat : Number → Float
  | .integer value => Float.ofInt value
  | .float value => value

namespace Document

/-- What stands here, for an objection. -/
def found : Document → Reader Found
  | .null => .ok .null
  | .bool value => .ok (.bool value)
  | .number (some value) => .ok (.number value)
  | .number none => .error (.malformed .unexpected)
  | .string (.ok text) => .ok (.string text)
  | .string (.error fault) => .error (.malformed fault)
  | .array _ _ => .ok .sequence
  | .object _ _ => .ok .map
  | .broken reading _ => .error (.malformed reading)

/-- The objection that something else was expected here. -/
def reject {α : Type} (document : Document) (expected : Expected) : Reader α := do
  let found ← document.found
  throw (.wrongType found expected)

def readContent : Content → Reader String
  | .ok text => .ok text
  | .error fault => .error (.malformed fault)

def readString : Document → Reader String
  | .string content => readContent content
  | document => document.reject .string

def readBool : Document → Reader Bool
  | .bool value => .ok value
  | document => document.reject .boolean

def readFloat : Document → Reader Float
  | .number (some value) => .ok (Number.toFloat value)
  | document => document.reject .float

mutual

/-- Any value. Of two entries with one key the last one counts, at the place of the first. -/
def readJson (medium : Medium) : Document → Reader Json
  | .null => .ok .null
  | .bool value => .ok (.bool value)
  | .number (some value) => .ok (.number value)
  | .number none => .error (.malformed .unexpected)
  | .string content => do
    let text ← readContent content
    return .string text
  | .array items ending => do
    let inner ← medium.enter
    let values ← readJsonItems inner items
    Ending.finish ending
    return .array values
  | .object entries ending => do
    let inner ← medium.enter
    let fields ← readJsonFields inner [] entries
    Ending.finish ending
    return .object fields
  | .broken reading _ => .error (.malformed reading)

def readJsonItems (medium : Medium) : List Document → Reader (List Json)
  | [] => .ok []
  | item :: rest => do
    let value ← readJson medium item
    let values ← readJsonItems medium rest
    return value :: values

def readJsonFields (medium : Medium) (fields : Fields) :
    List (Content × Document) → Reader Fields
  | [] => .ok fields
  | (key, document) :: rest => do
    let name ← readContent key
    let value ← readJson medium document
    readJsonFields medium (fields.put name value) rest

end

/-- An object of any values. -/
def readFields (medium : Medium) : Document → Reader Fields
  | .object entries ending => do
    let inner ← medium.enter
    let fields ← readJsonFields inner [] entries
    Ending.finish ending
    return fields
  | document => document.reject .map

def readStringItems : List Document → Reader (List String)
  | [] => .ok []
  | item :: rest => do
    let text ← item.readString
    let texts ← readStringItems rest
    return text :: texts

def readStrings (medium : Medium) : Document → Reader (List String)
  | .array items ending => do
    let _ ← medium.enter
    let texts ← readStringItems items
    Ending.finish ending
    return texts
  | document => document.reject .sequence

/-- `null` stands for an absent value. -/
def readOption {α : Type} (read : Document → Reader α) : Document → Reader (Option α)
  | .null => .ok none
  | document => do
    let value ← read document
    return some value

mutual

/-- Pass over a value. Its escapes, numbers and depth are not looked at. -/
def skip : Document → Reader Unit
  | .array items ending => do
    skipItems items
    Ending.finish ending
  | .object entries ending => do
    skipEntries entries
    Ending.finish ending
  | .broken _ skipping => .error (.malformed skipping)
  | _ => .ok ()

def skipItems : List Document → Reader Unit
  | [] => .ok ()
  | item :: rest => do
    skip item
    skipItems rest

def skipEntries : List (Content × Document) → Reader Unit
  | [] => .ok ()
  | (_, value) :: rest => do
    skip value
    skipEntries rest

end

/-- A record being read from an object, with the names of the fields met so far. -/
structure Draft (α : Type) where
  met : List String
  record : α

/-- Meet a field, which may not have been met before. -/
def Draft.meet {α : Type} (draft : Draft α) (name : String) : Reader (Draft α) :=
  if draft.met.contains name then .error (.duplicateField name)
  else .ok { draft with met := name :: draft.met }

/-- The finished record, once all required fields were met. -/
def Draft.finish {α : Type} (draft : Draft α) : List String → Reader α
  | [] => .ok draft.record
  | name :: rest =>
    if draft.met.contains name then draft.finish rest else .error (.missingField name)

/-- The shape of a record: its name in messages, its fields in order, those that have no default
value first, and the reader of one field. -/
structure RecordShape (α : Type) where
  name : String
  required : List String
  optional : List String
  blank : α
  readField : Medium → α → String → Document → Reader α

def RecordShape.fields {α : Type} (shape : RecordShape α) : List String :=
  shape.required ++ shape.optional

/-- The objection to an array that ends before the required fields. -/
def RecordShape.shortage {α : Type} (shape : RecordShape α) (length : Nat) : ReadError :=
  .tooShort length shape.name shape.fields.length

/-- The end of an array after its last item, with some fields still to come. -/
def RecordShape.finishEarly {α : Type} (shape : RecordShape α) (ending : Ending) (length : Nat)
    (record : α) : Reader α := do
  Ending.finish ending
  if length < shape.required.length then throw (shape.shortage length)
  return record

def readRecordEntries {α : Type} (shape : RecordShape α) (medium : Medium) (draft : Draft α) :
    List (Content × Document) → Reader (Draft α)
  | [] => .ok draft
  | (key, value) :: rest => do
    let name ← readContent key
    if shape.fields.contains name then
      let draft ← draft.meet name
      let record ← shape.readField medium draft.record name value
      readRecordEntries shape medium { draft with record := record } rest
    else
      value.skip
      readRecordEntries shape medium draft rest

def readRecordItems {α : Type} (shape : RecordShape α) (medium : Medium) (length : Nat)
    (ending : Ending) : List String → α → List Document → Reader α
  | [], record, [] => do
    Ending.finishRecord ending
    return record
  | [], _, _ :: _ => .error (medium.surplus length)
  | _ :: _, record, [] => shape.finishEarly ending length record
  | name :: names, record, item :: rest => do
    let record ← shape.readField medium record name item
    readRecordItems shape medium length ending names record rest

/-- A record whose fields do not contain records of its own kind. -/
def readRecord {α : Type} (shape : RecordShape α) (medium : Medium) : Document → Reader α
  | .object entries ending => do
    let inner ← medium.enter
    let draft ← readRecordEntries shape inner ⟨[], shape.blank⟩ entries
    Ending.finish ending
    draft.finish shape.required
  | .array items ending => do
    let inner ← medium.enter
    readRecordItems shape inner items.length ending shape.fields shape.blank items
  | document => document.reject (.record shape.name)

/-- A choice among named variants without content, written as its name or as an object with that
one key and the value `null`. -/
def readVariant {α : Type} (variants : List (String × α)) : Document → Reader α
  | .string content => do
    let name ← readContent content
    match variants.lookup name with
    | some value => return value
    | none => throw (.unknownVariant name (variants.map (·.1)))
  | .object [(key, value)] _ => do
    let name ← readContent key
    match variants.lookup name with
    | none => throw (.unknownVariant name (variants.map (·.1)))
    | some chosen =>
      match value with
      | .null => return chosen
      | other => other.reject .unit
  | .object _ _ => .error .notSingleKey
  | document => document.reject .stringOrMap

/-- A whole text read by a typed reader; nothing but space may follow the value. -/
def readText {α : Type} (read : Medium → Document → Reader α) (text : List Char) :
    Reader α := do
  let (document, trailing) := Document.parse text
  let value ← read (.text levelLimit) document
  if trailing then throw (.malformed .unexpected)
  return value

end Document

/-- A whole text as a value. -/
def parse (text : List Char) : Reader Json :=
  Document.readText (fun _ => Document.readJson .value) text

end PanelCompiler.Json
