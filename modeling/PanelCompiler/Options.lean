import PanelCompiler.Json.Reading

namespace PanelCompiler

/-- The width in pixels that `100vw` stands for when nothing else is said. -/
def defaultViewportWidth : Float := 750.0

structure Options where
  /-- The reference width of the responsive styles. -/
  viewportWidth : Float
  /-- Functions declared before the components. -/
  utils : Fields
  /-- The name of the root component; it wins over the schema's. -/
  rootName : Option String
  /-- Report nodes of unknown kinds instead of failing. -/
  skipUnsupported : Bool

namespace Options

open Json (Document Medium Reader)

def default : Options :=
  { viewportWidth := defaultViewportWidth, utils := [], rootName := none, skipUnsupported := false }

instance : Inhabited Options := ⟨default⟩

def readWidthField (_ : Medium) (width : Float) (name : String) (document : Document) :
    Reader Float :=
  match name with
  | "width" => document.readFloat
  | _ => return width

def widthShape : Document.RecordShape Float where
  name := "ResponsiveOptions"
  required := []
  optional := ["width"]
  blank := defaultViewportWidth
  readField := readWidthField

def readField (medium : Medium) (options : Options) (name : String) (document : Document) :
    Reader Options :=
  match name with
  | "responsive" => do
    let width ← document.readRecord widthShape medium
    return { options with viewportWidth := width }
  | "utils" => do
    let utils ← document.readFields medium
    return { options with utils := utils }
  | "componentName" => do
    let rootName ← document.readOption Document.readString
    return { options with rootName := rootName }
  | "skipUnsupported" => do
    let skipUnsupported ← document.readBool
    return { options with skipUnsupported := skipUnsupported }
  | _ => return options

def shape : Document.RecordShape Options where
  name := "CompileOptions"
  required := []
  optional := ["responsive", "utils", "componentName", "skipUnsupported"]
  blank := default
  readField := readField

def read (medium : Medium) : Document → Reader Options :=
  Document.readRecord shape medium

def ofJson? (value : Json) : Reader Options :=
  read .value (.ofJson value)

def withRootName (options : Options) (name : String) : Options :=
  { options with rootName := some name }

def toJson (options : Options) : Json :=
  .object [("responsive", .object [("width", .number (.float options.viewportWidth))]),
    ("utils", .object options.utils),
    ("componentName", match options.rootName with
      | some name => .string name
      | none => .null),
    ("skipUnsupported", .bool options.skipUnsupported)]

end Options

end PanelCompiler
