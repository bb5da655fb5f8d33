import PanelCompiler.Value.Source

/-!
The styles of classes. A class keeps the place of its first registration and the style of its last.
-/

namespace PanelCompiler

structure StyleRegistry where
  entries : List (String × Fields)

namespace StyleRegistry

def empty : StyleRegistry := ⟨[]⟩

/-- Bind a class to a style among entries. -/
def bind (className : String) (style : Fields) : List (String × Fields) → List (String × Fields)
  | [] => [(className, style)]
  | (name, old) :: rest =>
    if name = className then (name, style) :: rest else (name, old) :: bind className style rest

/-- Register the style of a class. -/
def register (registry : StyleRegistry) (className : String) (style : Fields) : StyleRegistry :=
  ⟨bind className style registry.entries⟩

/-- The style of a class. -/
def get? (registry : StyleRegistry) (className : String) : Option Fields :=
  registry.entries.lookup className

def classNames (registry : StyleRegistry) : List String :=
  registry.entries.map (·.1)

def size (registry : StyleRegistry) : Nat :=
  registry.entries.length

def isEmpty (registry : StyleRegistry) : Bool :=
  registry.entries.isEmpty

/-- A class that is known keeps its place, a new one goes last. -/
theorem classNames_register (registry : StyleRegistry) (className : String) (style : Fields) :
    (registry.register className style).classNames =
      if className ∈ registry.classNames then registry.classNames
      else registry.classNames ++ [className] := by
  obtain ⟨entries⟩ := registry
  induction entries with
  | nil => simp [classNames, register, bind]
  | cons entry rest ih =>
    obtain ⟨name, old⟩ := entry
    by_cases same : name = className
    · subst name
      simp [classNames, register, bind]
    · have apart : className ≠ name := Ne.symm same
      simp only [classNames, register] at ih
      by_cases known : className ∈ rest.map (·.1) <;>
        simp_all [classNames, register, bind]

theorem lookup_cons (name other : String) (style : Fields) (rest : List (String × Fields)) :
    ((name, style) :: rest).lookup other =
      if other = name then some style else rest.lookup other := by
  by_cases same : other = name
  · simp [same]
  · simp [List.lookup_cons, same, beq_false_of_ne same]

theorem get?_register (registry : StyleRegistry) (className other : String) (style : Fields) :
    (registry.register className style).get? other =
      if other = className then some style else registry.get? other := by
  obtain ⟨entries⟩ := registry
  unfold register get?
  induction entries with
  | nil => rw [bind, lookup_cons]
  | cons entry rest ih =>
    obtain ⟨name, old⟩ := entry
    by_cases known : name = className
    · subst name
      by_cases same : other = className <;> simp [bind, lookup_cons, same]
    · by_cases same : other = name
      · subst same
        simp [bind, known]
      · simpa [bind, lookup_cons, known, same] using ih

/-- The registry as one object, class by class. -/
def toJson (registry : StyleRegistry) : Json :=
  .object (registry.entries.map fun (className, style) => (className, .object style))

/-- The registry as source text. -/
def toSource (registry : StyleRegistry) : String :=
  registry.toJson.serialize

end StyleRegistry

end PanelCompiler
