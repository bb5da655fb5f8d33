import PanelCompiler.Decimal.Layout
import PanelCompiler.Options
import PanelCompiler.Style.Registry

namespace PanelCompiler.Style

/-- The properties that scale. -/
def responsiveProperties : List String :=
  ["fontSize", "marginTop", "marginBottom", "marginLeft", "marginRight", "paddingTop",
    "paddingBottom", "paddingLeft", "paddingRight", "top", "bottom", "left", "right", "width",
    "height", "maxWidth", "lineHeight", "borderRadius", "borderTopLeftRadius",
    "borderTopRightRadius", "borderBottomLeftRadius", "borderBottomRightRadius"]

/-- Properties whose bare numbers are factors and no pixels. -/
def needsUnit (property : String) : Bool :=
  property == "lineHeight"

/-- A size as it is written: a number, and whether its unit follows. -/
structure WrittenSize where
  negative : Bool
  whole : List Char
  fraction : List Char
  hasUnit : Bool

/-- The fraction behind a point, if digits follow the point. -/
def splitFraction (text : List Char) : List Char × List Char :=
  match text with
  | '.' :: rest =>
    match rest.span Text.isDigit with
    | ([], _) => ([], text)
    | (fraction, rest) => (fraction, rest)
  | text => ([], text)

/-- The unit and nothing more, or nothing at all. -/
def readUnit? (text : List Char) : Option Bool :=
  match Text.trimStart text with
  | [] => some false
  | 'p' :: 'x' :: rest => if (Text.trimStart rest).isEmpty then some true else none
  | _ => none

/-- A text that is a size: a number with blanks around it, perhaps with the unit. -/
def WrittenSize.ofText? (text : List Char) : Option WrittenSize :=
  let (negative, text) := match Text.trimStart text with
    | '-' :: rest => (true, rest)
    | text => (false, text)
  let (whole, text) := text.span Text.isDigit
  if whole.isEmpty then none
  else
    let (fraction, text) := splitFraction text
    (readUnit? text).map fun hasUnit => ⟨negative, whole, fraction, hasUnit⟩

/-- The number of a size. Only the usual digits have values. -/
def WrittenSize.pixels? (size : WrittenSize) : Option Float :=
  let digits := size.whole ++ size.fraction
  if digits.all Text.isAsciiDigit then
    let significand := digits.foldl (fun value c => value * 10 + (c.toNat - '0'.toNat)) 0
    let x := Float.ofScientific significand true size.fraction.length
    some (if size.negative then -x else x)
  else none

/-- The pixels that a value of a property stands for. -/
def pixels? (property : String) (value : Json) : Option Float :=
  match value with
  | .number number => if needsUnit property then none else some (Json.Number.toFloat number)
  | .string text =>
    match WrittenSize.ofText? text.toList with
    | some size => if needsUnit property && !size.hasUnit then none else size.pixels?
    | none => none
  | _ => none

/-- A share of the viewport's width in hundredths, for a reference width that makes sense. -/
def viewportUnits (pixels width : Float) : String :=
  let width := if width.isFinite && width > 0.0 then width else defaultViewportWidth
  Decimal.twoPlaces (pixels / (width / 100.0)) ++ "vw"

/-- A value of a property for viewports of any width. -/
def responsiveValue (width : Float) (property : String) (value : Json) : Json :=
  if responsiveProperties.contains property then
    match pixels? property value with
    | some pixels => .string (viewportUnits pixels width)
    | none => value
  else value

def responsiveStyle (width : Float) (style : Fields) : Fields :=
  style.map fun (property, value) => (property, responsiveValue width property value)

end PanelCompiler.Style

namespace PanelCompiler

/-- The registry with every size that scales rewritten for a reference width. -/
def StyleRegistry.responsive (registry : StyleRegistry) (width : Float) : StyleRegistry :=
  ⟨registry.entries.map fun (className, style) =>
    (className, Style.responsiveStyle width style)⟩

end PanelCompiler
