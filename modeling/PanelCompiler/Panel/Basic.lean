namespace PanelCompiler

/-- The language of a panel. -/
inductive Dialect
  | source
  | nestedStylesheet
  deriving DecidableEq

def Dialect.name : Dialect → String
  | .source => "source"
  | .nestedStylesheet => "nested-stylesheet"

structure Panel where
  name : String
  content : String
  dialect : Dialect
  deriving DecidableEq

/-- A panel that the formatter refused, with its reason. -/
structure PanelFailure where
  panel : String
  diagnostic : String
  deriving DecidableEq

end PanelCompiler
