import PanelCompiler.Schema.Node

namespace PanelCompiler.Node

open Json (Document Medium Reader Content Ending)
open Json.Document (Draft)

/-- The fields of a node in order; only the first has no default. -/
def fieldNames : List String :=
  ["componentName", "props", "children", "style", "loop", "loopArgs", "condition", "dataSource",
    "myComponentName"]

/-- Read a field that holds no nodes. -/
def readFlatField (medium : Medium) (node : Node) (name : String) (document : Document) :
    Reader Node :=
  match name with
  | "componentName" => do
    let kindName ← document.readString
    return { node with kindName := kindName }
  | "props" => do
    let props ← document.readFields medium
    return { node with props := props }
  | "style" => do
    let style ← document.readOption (Document.readFields medium)
    return { node with style := style }
  | "loop" => do
    let loop ← document.readOption (Document.readJson medium)
    return { node with loop := loop }
  | "loopArgs" => do
    let loopArgs ← document.readOption (Document.readStrings medium)
    return { node with loopArgs := loopArgs }
  | "condition" => do
    let condition ← document.readOption (Document.readJson medium)
    return { node with condition := condition }
  | "dataSource" => do
    let dataSource ← document.readOption (DataSources.read medium)
    return { node with dataSource := dataSource }
  | "myComponentName" => do
    let rootName ← document.readOption Document.readString
    return { node with rootName := rootName }
  | _ => return node

/-- How nodes are described in messages. Only the flat fields are read through this shape. -/
def shape : Document.RecordShape Node where
  name := "SchemaNode"
  required := fieldNames.take 1
  optional := fieldNames.drop 1
  blank := Node.ofKind ""
  readField := readFlatField

mutual

def read (medium : Medium) : Document → Reader Node
  | .object entries ending => do
    let inner ← medium.enter
    let draft ← readEntries inner ⟨[], shape.blank⟩ entries
    Ending.finish ending
    draft.finish shape.required
  | .array items ending => do
    let inner ← medium.enter
    readItems inner items.length ending fieldNames shape.blank items
  | document => document.reject (.record shape.name)

def readEntries (medium : Medium) (draft : Draft Node) :
    List (Content × Document) → Reader (Draft Node)
  | [] => .ok draft
  | (key, value) :: rest => do
    let name ← Document.readContent key
    if name = "children" then
      let draft ← draft.meet name
      let children ← readChildren medium value
      readEntries medium { draft with record := { draft.record with children := children } } rest
    else if fieldNames.contains name then
      let draft ← draft.meet name
      let node ← readFlatField medium draft.record name value
      readEntries medium { draft with record := node } rest
    else
      value.skip
      readEntries medium draft rest

def readItems (medium : Medium) (length : Nat) (ending : Ending) :
    List String → Node → List Document → Reader Node
  | [], node, [] => do
    Ending.finishRecord ending
    return node
  | [], _, _ :: _ => .error (medium.surplus length)
  | _ :: _, node, [] => shape.finishEarly ending length node
  | name :: names, node, item :: rest => do
    if name = "children" then
      let children ← readChildren medium item
      readItems medium length ending names { node with children := children } rest
    else
      let node ← readFlatField medium node name item
      readItems medium length ending names node rest

def readChildren (medium : Medium) : Document → Reader (List Node)
  | .array items ending => do
    let inner ← medium.enter
    let children ← readNodes inner items
    Ending.finish ending
    return children
  | document => document.reject .sequence

def readNodes (medium : Medium) : List Document → Reader (List Node)
  | [] => .ok []
  | item :: rest => do
    let node ← read medium item
    let nodes ← readNodes medium rest
    return node :: nodes

end

/-- Read a node from a value. -/
def ofJson? (value : Json) : Reader Node :=
  read .value (.ofJson value)

/-- An absent value is written as `null`. -/
def jsonOfOption {α : Type} (write : α → Json) : Option α → Json
  | none => .null
  | some value => write value

mutual

/-- The JSON form of a node. All fields are written. -/
def toJson : Node → Json
  | ⟨kindName, props, children, style, loop, loopArgs, condition, dataSource, rootName⟩ =>
    .object [("componentName", .string kindName), ("props", .object props),
      ("children", .array (listToJson children)), ("style", jsonOfOption .object style),
      ("loop", jsonOfOption id loop),
      ("loopArgs", jsonOfOption (fun names => .array (names.map .string)) loopArgs),
      ("condition", jsonOfOption id condition),
      ("dataSource", jsonOfOption DataSources.toJson dataSource),
      ("myComponentName", jsonOfOption .string rootName)]

def listToJson : List Node → List Json
  | [] => []
  | node :: rest => toJson node :: listToJson rest

end

end PanelCompiler.Node
