import PanelCompiler.Directive.Wrap
import PanelCompiler.Schema.Node

namespace PanelCompiler

namespace Markup

/-- Props that are no attributes. -/
def reservedProps : List String :=
  ["className", "style", "text", "src"]

/-- The attribute that refers to the class of a node. -/
def classAttribute (node : Node) : String :=
  match node.className? with
  | some className => " className=\x7bstyles." ++ className ++ "\x7d"
  | none => ""

/-- An attribute whose value is source text. -/
def attributeText (key source : String) : String :=
  " " ++ key ++ "=\x7b" ++ source ++ "\x7d"

/-- The attributes of the props found at `path`. -/
def propAttributes (path : Path) : Fields → Except CompileError String
  | [] => .ok ""
  | (key, value) :: rest =>
    if reservedProps.contains key then propAttributes path rest
    else do
      let source ← value.toSource .attribute (path.field key)
      let others ← propAttributes path rest
      return attributeText key source ++ others

/-- The text inside a text node. -/
def textContent (node : Node) (path : Path) : Except CompileError String :=
  match node.props.get? "text" with
  | some value => value.toSource .content (path.field "text")
  | none => .ok ""

/-- The source of an image; without one it is `null`. -/
def imageSource (node : Node) (path : Path) : Except CompileError String :=
  ((node.props.get? "src").getD .null).toSource .attribute (path.field "src")

def textElement (attributes content : String) : String :=
  "<span" ++ attributes ++ ">" ++ content ++ "</span>"

def imageElement (attributes source : String) : String :=
  "<img" ++ attributes ++ " src=\x7b" ++ source ++ "\x7d alt='' />"

def emptyElement (attributes : String) : String :=
  "<div" ++ attributes ++ " />"

def boxElement (attributes content : String) : String :=
  "<div" ++ attributes ++ ">" ++ content ++ "</div>"

/-- Wrap markup in the loop of a node, if it has one. -/
def withLoop (node : Node) (path : Path) (markup : String) : Except CompileError String :=
  match node.loop with
  | some source => Directive.wrapLoop source node.loopArgs markup (path.field "loop")
  | none => .ok markup

/-- Let markup depend on the condition of a node, if it has one. -/
def withCondition (node : Node) (path : Path) (markup : String) : Except CompileError String :=
  match node.condition with
  | some condition => Directive.wrapCondition condition markup (path.field "condition")
  | none => .ok markup

/-- Wrap markup in the directives of a node: the loop inside, the condition outside. -/
def withDirectives (node : Node) (path : Path) (markup : String) :
    Except CompileError String := do
  let looped ← withLoop node path markup
  withCondition node path looped

/-- A child's markup among its siblings: directives are expressions there and need braces. -/
def embed (child : Node) (fragment : String) : String :=
  if child.hasDirectives && !fragment.isEmpty then "\x7b" ++ fragment ++ "\x7d" else fragment

/-- The definition of a component with its render section. -/
def componentSource (name render : String) : String :=
  "const " ++ name ++ ":React.FC<" ++ name ++
    "Props> = (\x7b\x7d) => \x7b\n const [state, setState] = useState([])\nreturn (\n" ++ render ++
    "\n)\n\x7d"

end Markup

end PanelCompiler
