import PanelCompiler.Schema.DataSource
import PanelCompiler.Text.Lowercase

namespace PanelCompiler

/-- The kinds of node that the compiler knows. -/
inductive Kind
  | page
  | block
  | component
  | div
  | text
  | image
  deriving DecidableEq

namespace Kind

/-- The kind with this name; case does not matter. -/
def ofName? (name : String) : Option Kind :=
  match String.ofList (Text.lowercase name.toList) with
  | "page" => some .page
  | "block" => some .block
  | "component" => some .component
  | "div" => some .div
  | "text" => some .text
  | "image" => some .image
  | _ => none

/-- Containers become components of their own. -/
def isContainer : Kind → Bool
  | .page | .block | .component => true
  | .div | .text | .image => false

/-- The name as it stands in names of components. -/
def displayName : Kind → String
  | .page => "Page"
  | .block => "Block"
  | .component => "Component"
  | .div => "Div"
  | .text => "Text"
  | .image => "Image"

end Kind

/-- A node of the component tree. Values that may hold expressions or functions stay JSON. -/
structure Node where
  kindName : String
  props : Fields
  children : List Node
  style : Option Fields
  loop : Option Json
  loopArgs : Option (List String)
  condition : Option Json
  dataSource : Option DataSources
  /-- The name of the root component; it counts on the root node only. -/
  rootName : Option String

namespace Node

/-- A node that says nothing but its kind. -/
def ofKind (kindName : String) : Node :=
  { kindName := kindName, props := [], children := [], style := none, loop := none,
    loopArgs := none, condition := none, dataSource := none, rootName := none }

def kind? (node : Node) : Option Kind :=
  Kind.ofName? node.kindName

def isContainer (node : Node) : Bool :=
  match node.kind? with
  | some kind => kind.isContainer
  | none => false

/-- The class of the node, if `className` is a string. -/
def className? (node : Node) : Option String :=
  (node.props.get? "className").bind Json.asString?

/-- The style of the node's class: the prop when it is an object, then the node's own. -/
def classStyle (node : Node) : Fields :=
  match node.props.get? "style" with
  | some (.object style) => style
  | _ => node.style.getD []

/-- Whether a loop or a condition wraps the node. -/
def hasDirectives (node : Node) : Bool :=
  node.loop.isSome || node.condition.isSome

def dataSources (node : Node) : List DataSource :=
  match node.dataSource with
  | some sources => sources.toList
  | none => []

end Node

end PanelCompiler
