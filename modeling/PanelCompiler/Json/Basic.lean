namespace PanelCompiler

/-- An integer of 64 bits, or a binary floating-point number. -/
inductive Json.Number
  | integer (value : Int)
  | float (value : Float)

inductive Json
  | null
  | bool (value : Bool)
  | number (value : Json.Number)
  | string (text : String)
  | array (items : List Json)
  | object (fields : List (String × Json))

instance : Inhabited Json := ⟨.null⟩

/-- The fields of an object. -/
abbrev Fields := List (String × Json)

namespace Fields

/-- The value of a field. -/
def get? (fields : Fields) (key : String) : Option Json :=
  match fields with
  | [] => none
  | (name, value) :: rest => if name = key then some value else get? rest key

/-- Bind a field: a known key keeps its place and takes the new value, a new key goes last. -/
def put (fields : Fields) (key : String) (value : Json) : Fields :=
  match fields with
  | [] => [(key, value)]
  | (name, old) :: rest =>
    if name = key then (name, value) :: rest else (name, old) :: put rest key value

def keys (fields : Fields) : List String :=
  fields.map (·.1)

theorem get?_put_same (fields : Fields) (key : String) (value : Json) :
    (fields.put key value).get? key = some value := by
  induction fields with
  | nil => simp [put, get?]
  | cons field rest ih =>
    obtain ⟨name, old⟩ := field
    by_cases same : name = key <;> simp [put, get?, same, ih]

theorem get?_put_other (fields : Fields) (key other : String) (value : Json)
    (different : other ≠ key) : (fields.put key value).get? other = fields.get? other := by
  induction fields with
  | nil => simp [put, get?, Ne.symm different]
  | cons field rest ih =>
    obtain ⟨name, old⟩ := field
    by_cases same : name = key
    · subst name
      simp [put, get?, Ne.symm different]
    · simp [put, get?, same, ih]

/-- A bound key is not bound twice. -/
theorem keys_put (fields : Fields) (key : String) (value : Json) :
    (fields.put key value).keys =
      if key ∈ fields.keys then fields.keys else fields.keys ++ [key] := by
  induction fields with
  | nil => simp [put, keys]
  | cons field rest ih =>
    obtain ⟨name, old⟩ := field
    by_cases same : name = key
    · subst name
      simp [put, keys]
    · have apart : key ≠ name := Ne.symm same
      simp only [keys] at ih
      by_cases known : key ∈ rest.map (·.1) <;>
        simp_all [put, keys]

end Fields

namespace Json

/-- The text of a string value. -/
def asString? : Json → Option String
  | .string text => some text
  | _ => none

/-- The fields of an object value. -/
def asObject? : Json → Option Fields
  | .object fields => some fields
  | _ => none

/-- The value of an object's field. -/
def field? (value : Json) (key : String) : Option Json :=
  value.asObject?.bind (Fields.get? · key)

end Json

end PanelCompiler
