import PanelCompiler.Error
import PanelCompiler.Stylesheet.Block

namespace PanelCompiler

/-- A component of the generated module. Its source is empty until its node has been rendered. -/
structure Component where
  name : String
  source : String
  deriving DecidableEq

/-- A node that was left out because its kind is unknown. -/
structure SkippedNode where
  path : Path
  kindName : String
  deriving DecidableEq

structure Context where
  /-- Import lines, each once, in the order of their first use. -/
  imports : List String
  styles : StyleRegistry
  stylesheet : StylesheetCollector
  /-- Declarations of utility functions. -/
  utils : List String
  /-- Components in the order in which their nodes are met. -/
  components : List Component
  /-- Methods that load data. -/
  dataMethods : List String
  skipped : List SkippedNode
  /-- The name of the first component. -/
  rootName : String
  /-- Leave out nodes of unknown kinds instead of failing. -/
  skipUnsupported : Bool

namespace Context

def fresh (rootName : String) : Context :=
  { imports := [], styles := .empty, stylesheet := .empty, utils := [], components := [],
    dataMethods := [], skipped := [], rootName := rootName, skipUnsupported := false }

/-- Add an import line, unless it is there. -/
def addImport (context : Context) (line : String) : Context :=
  if line ∈ context.imports then context
  else { context with imports := context.imports ++ [line] }

def addUtil (context : Context) (name source : String) : Context :=
  { context with utils := context.utils ++ ["const " ++ name ++ " = " ++ Text.trimmed source] }

/-- The name of the next component: the root's for the first, then the root's with the kind and a
running number. -/
def nextName (context : Context) (kindName : String) : String :=
  if context.components.isEmpty then context.rootName
  else context.rootName ++ kindName ++ toString context.components.length

/-- Add a component without source, so that it stands before those of the nodes inside it. -/
def reserve (context : Context) (kindName : String) : Context :=
  { context with components := context.components ++ [⟨context.nextName kindName, ""⟩] }

/-- Give the component of a slot its source, which may depend on its name. -/
def fill (context : Context) (slot : Nat) (source : String → String) : Context :=
  { context with
    components := context.components.modify slot fun component =>
      { component with source := source component.name } }

def addDataMethod (context : Context) (method : String) : Context :=
  { context with dataMethods := context.dataMethods ++ [method] }

def skip (context : Context) (path : Path) (kindName : String) : Context :=
  { context with skipped := context.skipped ++ [⟨path, kindName⟩] }

def register (context : Context) (className : String) (style : Fields) : Context :=
  { context with styles := context.styles.register className style }

/-- Meet a node: its class is registered and its rule block opened. -/
def enter (context : Context) (node : Node) : Context :=
  { context with
    styles := match node.className? with
      | some className => context.styles.register className node.classStyle
      | none => context.styles
    stylesheet := context.stylesheet.enter node }

/-- Leave a node: its rule block is closed. -/
def leave (context : Context) (node : Node) : Context :=
  { context with stylesheet := context.stylesheet.leave node }

/-- The text of the nested stylesheet. -/
def stylesheetText (context : Context) : String :=
  context.stylesheet.text context.styles

end Context

/-- A step of the walk. What it collected stays collected when it fails. -/
abbrev Walk (α : Type) := ExceptT CompileError (StateM Context) α

namespace Walk

def fail {α : Type} (error : CompileError) : Walk α :=
  throw error

/-- A step that collects nothing. -/
def ofExcept {α : Type} : Except CompileError α → Walk α
  | .ok value => pure value
  | .error error => fail error

end Walk

end PanelCompiler
