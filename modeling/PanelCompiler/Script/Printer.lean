import PanelCompiler.Script.Literal
import PanelCompiler.Script.Precedence
import PanelCompiler.Text.Blank

/-!
The text of a script: one statement a line, indented by tabs, with the parentheses that precedence
asks for and no others. Every text here begins behind its own indentation.
-/

namespace PanelCompiler.Script

def tabs (indent : Nat) : String :=
  String.ofList (List.replicate indent '\t')

def commas (items : List String) : String :=
  ", ".intercalate items

def parentheses (text : String) : String :=
  "(" ++ text ++ ")"

def parenthesesIf (condition : Bool) (text : String) : String :=
  if condition then parentheses text else text

def braces (text : String) : String :=
  "\x7b" ++ text ++ "\x7d"

/-- A text behind something, if there is one. -/
def behind (opening : String) (text? : Option String) : String :=
  match text? with
  | some text => opening ++ text
  | none => ""

/-- Braces around lines, which stand one level deeper. -/
def bracesText (indent : Nat) (lines : List String) : String :=
  if lines.isEmpty then braces ""
  else braces ("\n" ++ String.join (lines.map (tabs (indent + 1) ++ ·)) ++ tabs indent)

/-- Items with a line for each, one level deeper. -/
def itemLines (indent : Nat) (items : List String) : String :=
  let separator := ",\n" ++ tabs (indent + 1)
  "\n" ++ tabs (indent + 1) ++ separator.intercalate items ++ "\n" ++ tabs indent

/-- Arrays of more than two items have a line for each. -/
def isLongArray (items : List Tree) : Bool :=
  2 < items.length

/-- Objects of more than one member have a line for each. -/
def isLongObject (members : List Tree) : Bool :=
  1 < members.length

/-- The texts of array items; a place left empty at the end needs a comma behind it. -/
def arrayItems (items : List Tree) (texts : List String) : List String :=
  match items.getLast? with
  | some .hole => texts.dropLast ++ [","]
  | _ => texts

def arrayText (indent : Nat) (items : List Tree) (texts : List String) : String :=
  let texts := arrayItems items texts
  "[" ++ (if isLongArray items then itemLines indent texts else commas texts) ++ "]"

def objectText (indent : Nat) (members : List Tree) (texts : List String) : String :=
  if texts.isEmpty then braces ""
  else if isLongObject members then braces (itemLines indent texts)
  else braces (" " ++ commas texts ++ " ")

/-- A pattern for arrays; a lone rest that declares a name has a blank before it. -/
def arrayPatternText (role : Role) (items : List Tree) (texts : List String) : String :=
  let blank := match items with
    | [.rest ..] => if role == .binding then " " else ""
    | _ => ""
  "[" ++ blank ++ commas (arrayItems items texts) ++ "]"

/-- The members of an object pattern whose names are declared elsewhere stand without blanks. -/
def targetMembers : List Tree → List String → String
  | [_], [text] => text
  | _ :: .rest target ascription :: others, text :: texts =>
    text ++ "," ++ targetMembers (.rest target ascription :: others) texts
  | _ :: others, text :: texts => text ++ ", " ++ targetMembers others texts
  | _, _ => ""

def objectPatternText (role : Role) (members : List Tree) (texts : List String) : String :=
  if texts.isEmpty then braces ""
  else if role == .target then braces (targetMembers members texts)
  else braces (" " ++ commas texts ++ " ")

/-- Chunks of a template with the values between them. -/
def templateChunks : List String → List String → String
  | chunk :: chunks, value :: values =>
    String.ofList (templateText chunk.toList) ++ "$" ++ braces value ++ templateChunks chunks values
  | chunk :: _, [] => String.ofList (templateText chunk.toList)
  | [], _ => ""

def keyText (computed : Bool) (key : String) : String :=
  if computed then "[" ++ key ++ "]" else key

/-- Whether a tree is this very name. -/
def Tree.isName (tree : Tree) (name : String) : Bool :=
  match tree with
  | .name other => other == name
  | .binding (.name other) _ _ => other == name
  | _ => false

/-- Whether a property is written as its value alone. A value does so where it is the name that
the key is; only `__proto__` has another meaning as a key. -/
def isShorthand (role : Role) (key : Tree) (computed shorthand : Bool) (value : Tree) : Bool :=
  match key with
  | .name name =>
    if role == .target then shorthand
    else if role == .binding then !computed && value.isName name
    else if computed then false
    else if name == "__proto__" then shorthand
    else value.bare.isName name && !isConstantWord name
  | _ => false

def memberKindText : MemberKind → String
  | .method => ""
  | .getter => "get "
  | .setter => "set "

def asyncText (async : Bool) : String :=
  if async then "async " else ""

/-- The marks of a method before its key. -/
def methodMarks : Tree → String
  | .function shape _ _ => asyncText shape.async ++ (if shape.generator then "*" else "")
  | _ => ""

def functionHead (shape : FunctionShape) : String :=
  asyncText shape.async ++ "function" ++ (if shape.generator then "* " else "") ++
    (if shape.name.isEmpty || shape.generator then shape.name else " " ++ shape.name)

/-- Parameters with all that stands around them. -/
def parametersText (shape : FunctionShape) (parameters : List String) : String :=
  shape.typeParameters ++ parentheses (commas parameters) ++ shape.returnType

/-- What a class extends and implements besides its superclass. -/
def heritageText (heritage : String) : String :=
  if heritage.isEmpty || heritage.startsWith "<" then heritage else " " ++ heritage

/-- A sign is parted from an operand that begins with the same sign. -/
def signedText (operator operand : String) : String :=
  if (operator.endsWith "+" && operand.startsWith "+") ||
      (operator.endsWith "-" && operand.startsWith "-") then
    operator ++ " " ++ operand
  else operator ++ operand

def unaryText (operator operand : String) : String :=
  if operator.toList.all isLatinLetter then operator ++ " " ++ operand
  else signedText operator operand

/-- Whether a dot behind this expression would be read as a decimal point. -/
def endsLikeNumber (tree : Tree) (text : String) : Bool :=
  match tree.bare with
  | .number _ => text.toList.all isDecimal
  | _ => false

/-- A statement in the place of a body. -/
def attached (statement : String) : String :=
  if statement.startsWith ";" then statement else " " ++ statement

def Tree.isBlock : Tree → Bool
  | .block _ => true
  | _ => false

/-- Whether a tree takes something apart when it is assigned to. -/
def Tree.isDestructuring : Tree → Bool
  | .array _ => true
  | .object _ => true
  | _ => false

def Tree.isObject : Tree → Bool
  | .object _ => true
  | _ => false

def Tree.isString : Tree → Bool
  | .string .. => true
  | _ => false

/-- The place of what is assigned to. -/
def Place.ofTarget (place : Place) (target : Tree) : Place :=
  if target.isDestructuring then ofRole .target else place.leftEnd Level.call

def lineEnd (place : Place) : String :=
  if place.role == .value then "" else "\n"

/-- An interface without members, or with the members as they are written. -/
def interfaceText (name members : String) : String :=
  let inner := (members.toList.drop 1).dropLast
  "interface " ++ name ++ " " ++ (if (Text.trim inner).isEmpty then braces "" else members) ++ "\n"

def importText (keyword : String) (bindings names : List String) (source : String) : String :=
  let named := if names.isEmpty then [] else [braces (" " ++ commas names ++ " ")]
  let taken := bindings ++ named
  keyword ++ " " ++ (if taken.isEmpty then "" else commas taken ++ " from ") ++ stringText source ++
    ";\n"

def exportText (keyword : String) (names : List Tree) (texts : List String)
    (source : Option String) : String :=
  let listed := match names with
    | [.name everything] => everything
    | [] => braces ""
    | _ => braces (" " ++ commas texts ++ " ")
  keyword ++ " " ++ listed ++ behind " from " (source.map stringText) ++ ";\n"

namespace Place

/-- A statement that is not the first of a body. -/
def statement : Place := ofRole .statement

/-- The first statement of a body, where a string would be a directive. -/
def firstStatement : Place :=
  { statement with edge := .statement }

/-- The value of a declaration, which may stand in the head of a loop. -/
def initial (place : Place) : Place :=
  { item with loopHead := place.loopHead }

/-- The place behind another one in a list. -/
def next (place : Place) : Place :=
  { place with edge := .inner }

end Place

mutual

/-- The text of a tree. -/
def treeText (indent : Nat) (place : Place) : Tree → String
  | .name name => name
  | .verbatim source => source
  | .number source => numberText source
  | .string value _ => if place.role == .markup then attributeText value else stringText value
  | .template chunks values => "`" ++ templateChunks chunks (treeTexts indent .whole values) ++ "`"
  | .tagged tag typeArguments quasi =>
    treeText indent (place.leftEnd Level.postfixed) tag ++ typeArguments ++
      treeText indent .whole quasi
  | .hole => ""
  | .array items =>
    if place.isPattern then
      arrayPatternText place.role items (treeTexts indent place.sameRole items)
    else
      let inner := if isLongArray items then indent + 1 else indent
      arrayText indent items (treeTexts inner .item items)
  | .object members =>
    if place.isPattern then
      objectPatternText place.role members (treeTexts indent place.sameRole members)
    else
      let inner := if isLongObject members then indent + 1 else indent
      parenthesesIf place.opensStatement (objectText indent members (treeTexts inner .item members))
  | .property key computed shorthand value =>
    let valueText := treeText indent (if place.isPattern then place.sameRole else .item) value
    if isShorthand place.role key computed shorthand value then valueText
    else keyText computed (treeText indent .item key) ++ ": " ++ valueText
  | .method kind key computed value =>
    memberKindText kind ++ methodMarks value ++ keyText computed (treeText indent .item key) ++
      treeText indent (.ofRole .member) value ++ lineEnd place
  | .spread value _ =>
    let spread := "..." ++ treeText indent .item value
    if place.role == .markup then braces spread else spread
  | .function shape parameters body =>
    let rest := parametersText shape (treeTexts indent (.ofRole .binding) parameters) ++
      if shape.complete then
        " " ++ bracesText indent (treeTexts (indent + 1) .firstStatement body)
      else ";"
    if place.role == .member then rest
    else if place.role == .statement then functionHead shape ++ rest ++ "\n"
    else parenthesesIf place.opensDeclaration (functionHead shape ++ rest)
  | .arrow shape parameters body =>
    let head := asyncText shape.async ++
      parametersText shape (treeTexts indent (.ofRole .binding) parameters) ++ " => "
    let answer :=
      if shape.expression then
        String.join (treeTexts indent (.beginning Level.comma .arrowBody) body)
      else bracesText indent (treeTexts (indent + 1) .firstStatement body)
    parenthesesIf (Level.assign ≤ place.level) (head ++ answer)
  | .classLike name typeParameters superclass heritage members =>
    let named := if name.isEmpty then "" else " " ++ name ++ typeParameters
    let inner := "class" ++ named ++
      behind " extends " (treeText? indent (.inside Level.postfixed) superclass) ++
      heritageText heritage ++ " " ++
      bracesText indent (treeTexts (indent + 1) (.ofRole .member) members)
    if place.role == .statement then inner ++ "\n"
    else parenthesesIf place.opensDeclaration inner
  | .unary operator operand =>
    parenthesesIf (Level.prefixed ≤ place.level)
      (unaryText operator (treeText indent (.inside Level.power) operand))
  | .update operator before operand =>
    if before then
      parenthesesIf (Level.prefixed ≤ place.level)
        (signedText operator (treeText indent (.inside Level.prefixed) operand))
    else
      let wrap := Level.postfixed ≤ place.level
      parenthesesIf wrap
        (treeText indent ((place.wrapped wrap).leftEnd Level.postfixed) operand ++ operator)
  | .binary operator left right =>
    let wrap := Level.ofOperator operator ≤ place.level || (operator == "in" && place.loopHead)
    let (leftLevel, rightLevel) := operandLevels operator left right
    parenthesesIf wrap
      (treeText indent ((place.wrapped wrap).leftEnd leftLevel) left ++ " " ++ operator ++ " " ++
        treeText indent ((place.wrapped wrap).rightEnd rightLevel) right)
  | .conditional test yes no =>
    let wrap := Level.conditional ≤ place.level
    parenthesesIf wrap
      (treeText indent ((place.wrapped wrap).leftEnd Level.conditional) test ++ " ? " ++
        treeText indent (.inside Level.yield) yes ++ " : " ++
        treeText indent ((place.wrapped wrap).rightEnd Level.yield) no)
  | .assign operator target value =>
    let wrap := Level.assign ≤ place.level || (target.isObject && place.opensStatement)
    parenthesesIf wrap
      (treeText indent ((place.wrapped wrap).ofTarget target) target ++ " " ++ operator ++ " " ++
        treeText indent ((place.wrapped wrap).rightEnd Level.comma) value)
  | .sequence items =>
    let wrap := Level.comma ≤ place.level
    parenthesesIf wrap
      (commas (treeTexts indent ((place.wrapped wrap).leftEnd Level.lowest) items))
  | .call callee optional typeArguments arguments =>
    let wrap := Level.construct ≤ place.level || place.callee
    parenthesesIf wrap
      (treeText indent ((place.wrapped wrap).leftEnd Level.postfixed) callee ++
        (if optional then "?." else "") ++ typeArguments ++
        parentheses (commas (treeTexts indent .item arguments)))
  | .construct callee typeArguments arguments =>
    parenthesesIf (Level.construct ≤ place.level)
      ("new " ++ treeText indent { Place.inside Level.construct with callee := true } callee ++
        typeArguments ++ parentheses (commas (treeTexts indent .item arguments)))
  | .member object optional name =>
    let objectText := treeText indent (place.leftEnd Level.postfixed) object
    objectText ++
      (if optional then "?." else if endsLikeNumber object objectText then " ." else ".") ++ name
  | .index object optional key =>
    treeText indent (place.leftEnd Level.postfixed) object ++ (if optional then "?." else "") ++
      keyText true (treeText indent .whole key)
  | .parenthesized inner =>
    if inner.keepsParentheses || (Level.postfixed ≤ place.level && inner.hasOptionalLink) then
      parentheses (treeText indent .whole inner)
    else treeText indent place inner
  | .typed operator value type =>
    let wrap := Level.shift ≤ place.level
    parenthesesIf wrap
      (treeText indent ((place.wrapped wrap).leftEnd Level.power) value ++ " " ++ operator ++ " " ++
        type)
  | .nonNull value => treeText indent (place.leftEnd Level.postfixed) value ++ "!"
  | .instantiated value typeArguments => treeText indent place value ++ typeArguments
  | .yield delegate value =>
    parenthesesIf (Level.assign ≤ place.level)
      ((if delegate then "yield*" else "yield") ++
        behind " " (treeText? indent (.inside Level.yield) value))
  | .element name typeArguments attributes selfClosing children =>
    let opening := "<" ++ name ++ typeArguments ++
      String.join ((treeTexts indent (.ofRole .markup) attributes).map (" " ++ ·))
    if selfClosing then opening ++ " />"
    else
      opening ++ ">" ++ String.join (treeTexts indent (.ofRole .markup) children) ++ "</" ++ name ++ ">"
  | .attribute name value => name ++ behind "=" (treeText? indent (.ofRole .markup) value)
  | .markupText source => source
  | .braces value => braces ((treeText? indent .whole value).getD "")
  | .binding target ascription default =>
    treeText indent place target ++ ascription ++ behind " = " (treeText? indent .item default)
  | .rest target ascription => "..." ++ treeText indent place target ++ ascription
  | .expression value =>
    match place.edge with
    | .arrowBody => treeText indent (.beginning Level.comma .arrowBody) value
    | .exported => treeText indent (.beginning Level.comma .exported) value ++ ";\n"
    | .statement =>
      parenthesesIf value.bare.isString
        (treeText indent (.beginning Level.lowest .statement) value) ++ ";\n"
    | .inner => treeText indent (.beginning Level.lowest .statement) value ++ ";\n"
  | .directive source => directiveText source ++ ";\n"
  | .empty => ";\n"
  | .block body => bracesText indent (treeTexts (indent + 1) .statement body) ++ lineEnd place
  | .variables keyword declarators =>
    keyword ++ " " ++
      commas (treeTexts indent { place with role := .binding } declarators) ++
      (if place.role == .value then "" else ";\n")
  | .declarator target ascription value =>
    treeText indent (.ofRole .binding) target ++ ascription ++
      behind " = " (treeText? indent place.initial value)
  | .branch test yes no =>
    let wrap := !yes.isBlock && yes.takesElse
    let first :=
      if wrap then " " ++ bracesText indent [treeText (indent + 1) .statement yes]
      else if yes.isBlock then " " ++ treeText indent .whole yes
      else attached (treeText indent .statement yes)
    let braced := wrap || yes.isBlock
    let rest := match treeText? indent .statement no with
      | some second => (if braced then " " else tabs indent) ++ "else" ++ attached second
      | none => if braced then "\n" else ""
    "if " ++ parentheses (treeText indent .whole test) ++ first ++ rest
  | .loop head body => treeText indent .whole head ++ attached (treeText indent .statement body)
  | .whileHead test => "while " ++ parentheses (treeText indent .whole test)
  | .withHead subject => "with " ++ parentheses (treeText indent .whole subject)
  | .forHead start test update =>
    "for " ++ parentheses
      ((treeText? indent { Place.whole with loopHead := true } start).getD "" ++ ";" ++
        behind " " (treeText? indent .whole test) ++ ";" ++ behind " " (treeText? indent .whole update))
  | .forEachHead await target keyword source =>
    (if await then "for await " else "for ") ++ parentheses
      (treeText indent (Place.whole.ofTarget target) target ++ " " ++ keyword ++ " " ++
        treeText indent (if keyword == "of" then .item else .whole) source)
  | .doWhile body test =>
    let inner :=
      if body.isBlock then " " ++ treeText indent .whole body ++ " "
      else "\n" ++ tabs (indent + 1) ++ treeText (indent + 1) .statement body ++ tabs indent
    "do" ++ inner ++ "while " ++ parentheses (treeText indent .whole test) ++ ";\n"
  | .jump keyword label => keyword ++ (if label.isEmpty then "" else " " ++ label) ++ ";\n"
  | .answer keyword value => keyword ++ behind " " (treeText? indent .whole value) ++ ";\n"
  | .switch subject cases =>
    "switch " ++ parentheses (treeText indent .whole subject) ++ " " ++
      bracesText indent (treeTexts (indent + 1) .statement cases) ++ "\n"
  | .switchCase test body =>
    let label := match treeText? indent .whole test with
      | some test => "case " ++ test
      | none => "default"
    let inner := if body.length == 1 then indent else indent + 1
    let lines := match treeTexts inner .statement body with
      | [only] => attached only
      | lines => "\n" ++ String.join (lines.map (tabs (indent + 1) ++ ·))
    label ++ ":" ++ lines
  | .attempt body parameter handler cleanup =>
    "try " ++ treeText indent .whole body ++
      behind (" catch" ++
        behind " " ((treeText? indent (.ofRole .binding) parameter).map parentheses) ++ " ")
        (treeText? indent .whole handler) ++
      behind " finally " (treeText? indent .whole cleanup) ++ "\n"
  | .labelled label body => label ++ ":" ++ attached (treeText indent .statement body)
  | .field modifiers key computed ascription value =>
    modifiers ++ keyText computed (treeText indent .item key) ++ ascription ++
      behind " = " (treeText? indent .item value) ++ ";\n"
  | .staticBlock body =>
    "static " ++ bracesText indent (treeTexts (indent + 1) .firstStatement body) ++ "\n"
  | .modified modifiers member => modifiers ++ treeText indent place member
  | .declaration source => source ++ (if place.role == .member then ";\n" else "\n")
  | .interface name members => interfaceText name members
  | .importModule keyword bindings names source =>
    importText keyword bindings (treeTexts indent .whole names) source
  | .exportDefault value =>
    "export default " ++ treeText indent { Place.statement with edge := .exported } value
  | .exportDeclaration value => "export " ++ treeText indent .statement value
  | .exportNames keyword names source =>
    exportText keyword names (treeTexts indent .whole names) source
  | .alias name renamed => if name == renamed then name else name ++ " as " ++ renamed

/-- The texts of trees, the first of them in this place and the others behind it. -/
def treeTexts (indent : Nat) (place : Place) : List Tree → List String
  | [] => []
  | tree :: rest => treeText indent place tree :: treeTexts indent place.next rest

def treeText? (indent : Nat) (place : Place) : Option Tree → Option String
  | none => none
  | some tree => some (treeText indent place tree)

end

/-- The text of a whole program. -/
def programText (program : List Tree) : String :=
  String.join (treeTexts 0 .firstStatement program)

end PanelCompiler.Script
