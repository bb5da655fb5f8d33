import PanelCompiler.Walk.DataMethod
import PanelCompiler.Walk.Markup

/-!
The walk over the component tree. Containers become components of their own and leave nothing in
the markup around them; every other node becomes markup.
-/

namespace PanelCompiler

/-- What rendering a node gives. -/
inductive RenderOutcome
  | rendered (markup : String)
  /-- The kind is unknown, so there is no markup. -/
  | skipped (kindName : String)
  deriving DecidableEq

namespace Walk

/-- The markup of a box, whose children are walked only if there are any. -/
def renderBox (node : Node) (attributes : String) (children : Walk String) : Walk String :=
  if node.children.isEmpty then pure (Markup.emptyElement attributes)
  else do
    let content ← children
    return Markup.boxElement attributes content

/-- The element of a node of a known kind. -/
def renderElement (kind : Kind) (node : Node) (path : Path) (attributes : String)
    (children : Walk String) : Walk String :=
  match kind with
  | .text => do
    let content ← ofExcept (Markup.textContent node (path.field "props"))
    return Markup.textElement attributes content
  | .image => do
    let source ← ofExcept (Markup.imageSource node (path.field "props"))
    return Markup.imageElement attributes source
  | .page | .block | .component | .div => renderBox node attributes children

/-- Render a node whose children are walked by the given step. -/
def renderWith (children : Walk String) (node : Node) (path : Path) : Walk RenderOutcome :=
  match node.kind? with
  | none => pure (.skipped node.kindName)
  | some kind => do
    let attributes ← ofExcept (Markup.propAttributes (path.field "props") node.props)
    let element ← renderElement kind node path (Markup.classAttribute node ++ attributes) children
    let markup ← ofExcept (Markup.withDirectives node path element)
    return .rendered markup

/-- A node of an unknown kind is reported, or the walk fails. -/
def skipOrFail (kindName : String) (path : Path) : Walk String := do
  if (← get).skipUnsupported then
    modify (·.skip path kindName)
    return ""
  else fail (.unsupportedKind kindName path)

/-- The markup of a node, which is empty if the node is skipped. -/
def markupWith (children : Walk String) (node : Node) (path : Path) : Walk String := do
  match ← renderWith children node path with
  | .rendered markup => return markup
  | .skipped kindName => skipOrFail kindName path

/-- Compile data sources in order, counting them from `index`. -/
def compileDataSources (path : Path) (index : Nat) : List DataSource → Walk Unit
  | [] => pure ()
  | source :: rest => do
    let method ← source.compile (path.field (toString index))
    modify (·.addDataMethod method)
    compileDataSources path (index + 1) rest

/-- Reserve the next component and give back its slot. -/
def reserveComponent (kindName : String) : Walk Nat := do
  let slot := (← get).components.length
  modify (·.reserve kindName)
  return slot

/-- Make a component of a container. -/
def emitComponent (children : Walk String) (node : Node) (path : Path) (kindName : String) :
    Walk Unit := do
  let slot ← reserveComponent kindName
  compileDataSources (path.field "dataSource") 0 node.dataSources
  let render ← markupWith children node path
  modify (·.fill slot (Markup.componentSource · render))

/-- The fragment of a node that has been met: nothing for a container, else its markup. -/
def fragmentWith (children : Walk String) (node : Node) (path : Path) : Walk String :=
  match node.kind? with
  | some kind =>
    if kind.isContainer then do
      emitComponent children node path kind.displayName
      return ""
    else markupWith children node path
  | none => markupWith children node path

/-- Visit a node whose children are walked by the given step. -/
def visitWith (children : Walk String) (node : Node) (path : Path) : Walk String := do
  modify (·.enter node)
  let fragment ← fragmentWith children node path
  modify (·.leave node)
  return fragment

mutual

/-- Visit a node at `path`. -/
def transformNode : Node → Path → Walk String
  | node@⟨_, _, children, _, _, _, _, _, _⟩, path =>
    visitWith (transformFrom 0 children path) node path

/-- Visit siblings, the first of which is child `index` of the node at `parent`. -/
def transformFrom (index : Nat) : List Node → Path → Walk String
  | [], _ => pure ""
  | child :: rest, parent => do
    let fragment ← transformNode child (parent.child index)
    let others ← transformFrom (index + 1) rest parent
    return Markup.embed child fragment ++ others

end

/-- Visit all children of the node at `parent`. -/
def transformChildren (children : List Node) (parent : Path) : Walk String :=
  transformFrom 0 children parent

/-- Render one node. -/
def renderNode (node : Node) (path : Path) : Walk RenderOutcome :=
  renderWith (transformChildren node.children path) node path

/-- Walk a whole tree. A root that is no container is put into a component of its own. -/
def transformSchema (schema : Node) : Walk Unit :=
  if schema.isContainer then do
    let _ ← transformNode schema Path.root
  else do
    let slot ← reserveComponent ""
    let fragment ← transformNode schema Path.root
    modify (·.fill slot (Markup.componentSource · fragment))

end Walk

end PanelCompiler
