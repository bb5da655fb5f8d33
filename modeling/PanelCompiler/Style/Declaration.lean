import PanelCompiler.Json.Printer
import PanelCompiler.Text.Lowercase

namespace PanelCompiler.Style

def isCapital (c : Char) : Bool :=
  'A' ≤ c && c ≤ 'Z'

/-- A hyphen before every capital letter. -/
def markCapitals (name : List Char) : List Char :=
  name.flatMap fun c => if isCapital c then ['-', c] else [c]

/-- `flexDirection` becomes `flex-direction`. No hyphen stays at the start. -/
def hyphenate (name : String) : String :=
  String.ofList (Text.lowercase ((markCapitals name.toList).dropWhile (· == '-')))

/-- The text of a value in a declaration: strings stand bare. -/
def declarationValue : Json → String
  | .string text => text
  | other => other.compact

end PanelCompiler.Style
