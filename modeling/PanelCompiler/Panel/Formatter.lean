import PanelCompiler.Json.Reading
import PanelCompiler.Panel.Basic
import PanelCompiler.Script.FunctionParts
import PanelCompiler.Script.Printer
import PanelCompiler.Stylesheet.Layout

namespace PanelCompiler

/-- A formatter lays out the text of a panel or refuses it with a reason. -/
abbrev Formatter := String → Dialect → Except String String

/-- Read the name of a dialect. -/
def Dialect.read (document : Json.Document) : Json.Reader Dialect :=
  document.readVariant [(source.name, source), (nestedStylesheet.name, nestedStylesheet)]

namespace Formatter

/-- Lay out a script. -/
def formatSource (text : String) : Except String String :=
  match Script.parse? text.toList with
  | some program => .ok (Script.programText program)
  | none => .error Script.FunctionFault.unreadable.message

def formatStylesheet (text : String) : Except String String :=
  (Stylesheet.layout text).mapError Stylesheet.Fault.message

/-- Lay out panels of both dialects. -/
def standard : Formatter := fun text dialect =>
  match dialect with
  | .source => formatSource text
  | .nestedStylesheet => formatStylesheet text

/-- Lay out stylesheets, and leave scripts as they are. -/
def stylesheetsOnly : Formatter := fun text dialect =>
  match dialect with
  | .source => .ok text
  | .nestedStylesheet => formatStylesheet text

/-- Leave every panel as it is. -/
def unchanged : Formatter := fun text _ => .ok text

/-- Refuse the panels of some dialects. -/
def rejecting (refused : Dialect → Bool) : Formatter := fun text dialect =>
  if refused dialect then .error "rejected" else .ok text

end Formatter

end PanelCompiler
