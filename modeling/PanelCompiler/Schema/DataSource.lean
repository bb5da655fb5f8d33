import PanelCompiler.Json.Reading

namespace PanelCompiler

/-- How a request is made. -/
inductive Transport
  | fetch
  | jsonp
  deriving DecidableEq

def Transport.name : Transport → String
  | .fetch => "fetch"
  | .jsonp => "jsonp"

structure DataSource where
  id : String
  transport : Transport
  options : Fields
  handler : Option Json

/-- One descriptor, or a list of them. -/
inductive DataSources
  | one (source : DataSource)
  | many (sources : List DataSource)

def DataSources.toList : DataSources → List DataSource
  | .one source => [source]
  | .many sources => sources

namespace DataSource

open Json (Document Medium Reader)

def readField (medium : Medium) (source : DataSource) (name : String) (document : Document) :
    Reader DataSource :=
  match name with
  | "id" => do
    let id ← document.readString
    return { source with id := id }
  | "type" => do
    let transport ← document.readVariant [("fetch", Transport.fetch), ("jsonp", Transport.jsonp)]
    return { source with transport := transport }
  | "options" => do
    let options ← document.readFields medium
    return { source with options := options }
  | "dataHandler" => do
    let handler ← document.readOption (Document.readJson medium)
    return { source with handler := handler }
  | _ => return source

def shape : Document.RecordShape DataSource where
  name := "DataSourceDescriptor"
  required := ["id", "type"]
  optional := ["options", "dataHandler"]
  blank := { id := "", transport := .fetch, options := [], handler := none }
  readField := readField

def read (medium : Medium) : Document → Reader DataSource :=
  Document.readRecord shape medium

def readList (medium : Medium) : List Document → Reader (List DataSource)
  | [] => .ok []
  | item :: rest => do
    let source ← read medium item
    let sources ← readList medium rest
    return source :: sources

def toJson (source : DataSource) : Json :=
  .object [("id", .string source.id), ("type", .string source.transport.name),
    ("options", .object source.options), ("dataHandler", source.handler.getD .null)]

end DataSource

namespace DataSources

open Json (Document Medium Reader)

/-- An array of descriptors. -/
def readMany : Document → Reader (List DataSource)
  | .array items _ => DataSource.readList .value items
  | document => document.reject .sequence

/-- The value is first read whole. Then one descriptor is tried, and a list of them after that. -/
def read (medium : Medium) (document : Document) : Reader DataSources := do
  let _ ← document.readJson medium
  match DataSource.read .value document with
  | .ok source => return .one source
  | .error _ =>
    match readMany document with
    | .ok sources => return .many sources
    | .error _ => throw (.noMatchingVariant "DataSourceField")

def toJson : DataSources → Json
  | .one source => source.toJson
  | .many sources => .array (sources.map DataSource.toJson)

end DataSources

end PanelCompiler
