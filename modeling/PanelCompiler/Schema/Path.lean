namespace PanelCompiler

inductive Path.Step
  | child (index : Nat)
  | field (name : String)
  deriving DecidableEq

/-- Steps from the root. -/
structure Path where
  steps : List Path.Step
  deriving DecidableEq

namespace Path

def root : Path := ⟨[]⟩

def child (path : Path) (index : Nat) : Path :=
  ⟨path.steps ++ [.child index]⟩

def field (path : Path) (name : String) : Path :=
  ⟨path.steps ++ [.field name]⟩

def Step.text : Step → String
  | .child index => ".children[" ++ toString index ++ "]"
  | .field name => "." ++ name

/-- The written form, `$.children[0].props.onClick`. Field names are not escaped. -/
def text (path : Path) : String :=
  path.steps.foldl (fun text step => text ++ step.text) "$"

end Path

end PanelCompiler
