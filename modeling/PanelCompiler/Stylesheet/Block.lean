import PanelCompiler.Schema.Node
import PanelCompiler.Style.Declaration
import PanelCompiler.Style.Registry

/-!
Rule blocks that nest as the classed nodes do. Blocks are opened and closed while the tree is
walked, and printed against the registry when the walk is over.
-/

namespace PanelCompiler

/-- A rule block: a class and the blocks inside it. -/
structure RuleBlock where
  className : String
  children : List RuleBlock

/-- Blocks that are closed, and the open ones, the innermost first. -/
structure StylesheetCollector where
  roots : List RuleBlock
  opened : List RuleBlock

namespace StylesheetCollector

def empty : StylesheetCollector := ⟨[], []⟩

/-- Open a block for the class of a node. -/
def enter (sheet : StylesheetCollector) (node : Node) : StylesheetCollector :=
  match node.className? with
  | some className => { sheet with opened := ⟨className, []⟩ :: sheet.opened }
  | none => sheet

/-- Close the innermost block and put it last into the one around it. -/
def close (sheet : StylesheetCollector) : StylesheetCollector :=
  match sheet.opened with
  | [] => sheet
  | [block] => { roots := sheet.roots ++ [block], opened := [] }
  | block :: parent :: rest =>
    { sheet with opened := { parent with children := parent.children ++ [block] } :: rest }

/-- Close the block of a node that has a class. -/
def leave (sheet : StylesheetCollector) (node : Node) : StylesheetCollector :=
  if node.className?.isSome then sheet.close else sheet

end StylesheetCollector

namespace RuleBlock

/-- One declaration on its line. -/
def declarationText (property : String) (value : Json) : String :=
  Style.hyphenate property ++ ": " ++ Style.declarationValue value ++ ";\n"

def declarationsText (style : Fields) : String :=
  String.join (style.map fun (property, value) => declarationText property value)

mutual

/-- The text of a block: its declarations, then the blocks inside it. -/
def text (registry : StyleRegistry) : RuleBlock → String
  | ⟨className, children⟩ =>
    "." ++ className ++ " \x7b" ++ declarationsText ((registry.get? className).getD []) ++
      listText registry children ++ "\x7d"

def listText (registry : StyleRegistry) : List RuleBlock → String
  | [] => ""
  | block :: rest => text registry block ++ listText registry rest

end

end RuleBlock

/-- The text of the closed blocks. -/
def StylesheetCollector.text (sheet : StylesheetCollector) (registry : StyleRegistry) : String :=
  RuleBlock.listText registry sheet.roots

end PanelCompiler
