import PanelCompiler.Script.Parser.Type

namespace PanelCompiler.Script.Parser

/-- A name in markup may hold hyphens. -/
def markupName : Parser String := do
  let token ← peek
  require (token.kind == .word)
  let (name, rest) := token.start.span fun c => isNamePart c || c == '-'
  resume rest
  return String.ofList name

/-- The name of an element: plain, with a namespace, or a member, whose parts hold no hyphen. -/
def elementName : Parser String := do
  let first ← markupName
  if ← accept ":" then
    let second ← markupName
    return first ++ ":" ++ second
  iterate first fun name => do
    if ← accept "." then
      let next ← markupName
      let member := name ++ "." ++ next
      require !(member.toList.contains '-')
      return some member
    return none

/-- The value of an attribute in quotes; it has no escapes. -/
def quotedValue : Parser Tree := do
  let token ← peek
  match token.start with
  | quote :: text =>
    require (quote == '"' || quote == '\'')
    let (value, rest) := text.span (· != quote)
    require !rest.isEmpty
    resume (rest.drop 1)
    return .string (String.ofList value) (String.ofList value)
  | [] => fail

/-- The surroundings of a value in markup. -/
def Mode.inMarkup (mode : Mode) : Mode :=
  { Mode.bracketed mode with yield := false }

/-- A value in markup; a comma does not join values there. -/
def markupValue (g : Grammar) : Parser Tree := do
  let value ← under Mode.inMarkup g.expression
  match value with
  | .sequence _ => fail
  | value => return value

/-- The value of braces in markup, behind the opening one. -/
def markupBraces (g : Grammar) : Parser Tree := do
  let value ← markupValue g
  expect "\x7d"
  return .braces (some value)

def attributeValue (g : Grammar) : Parser Tree := do
  if ← accept "\x7b" then markupBraces g
  else if ← atMark "<" then g.element
  else quotedValue

def attributeLike (g : Grammar) : Parser Tree := do
  if ← accept "\x7b" then
    expect "..."
    let value ← under Mode.inMarkup g.assignment
    expect "\x7d"
    return .spread value false
  let first ← markupName
  let name ← if ← accept ":" then
      let second ← markupName
      pure (first ++ ":" ++ second)
    else pure first
  if ← accept "=" then
    let value ← attributeValue g
    return .attribute name (some value)
  return .attribute name none

/-- Attributes up to the end of the tag. -/
def attributes (g : Grammar) : Parser (List Tree) := do
  let reversed ← iterate [] fun items => do
    if (← atMark ">") || (← atMark "/") then return none
    let item ← attributeLike g
    return some (item :: items)
  return reversed.reverse

/-- Braces between tags: nothing, a spread, or an expression. -/
def childBraces (g : Grammar) : Parser Tree := do
  expect "\x7b"
  if ← accept "..." then
    let value ← markupValue g
    expect "\x7d"
    return .spread value false
  if ← accept "\x7d" then return .braces none
  markupBraces g

def endsMarkupText (c : Char) : Bool :=
  c == '\x7b' || c == '\x7d' || c == '<' || c == '>'

/-- What stands between an opening tag and its closing one. Closing angles and braces are no
text. -/
def children (g : Grammar) : Parser (List Tree) := do
  let reversed ← iterate [] fun items => do
    match ← behind with
    | [] => fail
    | c :: rest =>
      resume (c :: rest)
      if c == '\x7b' then
        let item ← childBraces g
        return some (item :: items)
      else if c == '<' then
        if Token.isMark (← peekSecond) "/" then return none
        let item ← g.element
        return some (item :: items)
      else
        let (text, rest) := (c :: rest).span (!endsMarkupText ·)
        require !text.isEmpty
        resume rest
        return some (.markupText (String.ofList text) :: items)
  return reversed.reverse

/-- The closing tag of an element with this name; a fragment has no name. -/
def closingTag (name : String) : Parser Unit := do
  expect "<"
  expect "/"
  if !name.isEmpty then
    let closing ← elementName
    require (closing == name)
  expect ">"

/-- An element or fragment. -/
def element (g : Grammar) : Parser Tree := do
  expect "<"
  if ← accept ">" then
    let items ← children g
    closingTag ""
    return .element "" "" [] false items
  let name ← elementName
  let types ← if ← atMark "<" then sourceOf (typeArguments g) else pure ""
  let items ← attributes g
  if ← accept "/" then
    expect ">"
    return .element name types items true []
  expect ">"
  let inner ← children g
  closingTag name
  return .element name types items false inner

end PanelCompiler.Script.Parser
