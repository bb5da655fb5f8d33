import PanelCompiler.Script.Tree

namespace PanelCompiler.Script

/-- A level of binding; what binds tighter has the greater level. -/
abbrev Level := Nat

namespace Level

def lowest : Level := 0
def comma : Level := 1
def yield : Level := 3
def assign : Level := 4
def conditional : Level := 5
def shift : Level := 14
def power : Level := 17
def prefixed : Level := 18
def postfixed : Level := 19
def construct : Level := 20
def call : Level := 21

/-- The level of a binary operator. -/
def ofOperator (operator : String) : Level :=
  match operator with
  | "??" => 6
  | "||" => 7
  | "&&" => 8
  | "|" => 9
  | "^" => 10
  | "&" => 11
  | "==" | "!=" | "===" | "!==" => 12
  | "<" | ">" | "<=" | ">=" | "instanceof" | "in" => 13
  | "<<" | ">>" | ">>>" => shift
  | "+" | "-" => 15
  | "*" | "/" | "%" => 16
  | _ => power

end Level

/-- What an expression begins, when nothing stands before it. Some openings would be misread
there. -/
inductive Edge
  | inner
  | statement
  | arrowBody
  | exported
  deriving DecidableEq

/-- What a tree is read as, where it could be several things. -/
inductive Role
  | value
  | statement
  /-- A member of a class. -/
  | member
  /-- What stands between tags or in them. -/
  | markup
  /-- A pattern that declares names. -/
  | binding
  /-- A pattern whose names are declared elsewhere. -/
  | target
  deriving DecidableEq

/-- The surroundings of a tree. -/
structure Place where
  role : Role
  level : Level
  edge : Edge
  /-- `in` would be read as part of a loop. -/
  loopHead : Bool
  /-- A call would be read as the arguments of `new`. -/
  callee : Bool

namespace Place

/-- Inside brackets that belong to something else, at a level. -/
def inside (level : Level) : Place :=
  { role := .value, level := level, edge := .inner, loopHead := false, callee := false }

/-- Inside parentheses. -/
def whole : Place := inside Level.lowest

/-- An item of a list. -/
def item : Place := inside Level.comma

def ofRole (role : Role) : Place :=
  { item with role := role }

/-- The beginning of something. -/
def beginning (level : Level) (edge : Edge) : Place :=
  { inside level with edge := edge }

/-- The left end of the same expression. -/
def leftEnd (place : Place) (level : Level) : Place :=
  { place with role := .value, level := level }

/-- The right end of the same expression. -/
def rightEnd (place : Place) (level : Level) : Place :=
  { place.leftEnd level with edge := .inner }

/-- The surroundings behind an opening parenthesis, if one is written. -/
def wrapped (place : Place) (wrap : Bool) : Place :=
  if wrap then inside place.level else place

def opensStatement (place : Place) : Bool :=
  place.edge == .statement || place.edge == .arrowBody

def opensDeclaration (place : Place) : Bool :=
  place.edge == .statement || place.edge == .exported

/-- A pattern inside a pattern, or a value inside a value. -/
def sameRole (place : Place) : Place :=
  ofRole place.role

def isPattern (place : Place) : Bool :=
  place.role == .binding || place.role == .target

end Place

/-- An expression without the parentheses around it. -/
def Tree.bare : Tree → Tree
  | .parenthesized inner => inner.bare
  | tree => tree

/-- Functions keep the parentheses around them. -/
def Tree.keepsParentheses : Tree → Bool
  | .function .. => true
  | .arrow .. => true
  | _ => false

/-- Whether an expression mixes with `??` only in parentheses. -/
def Tree.isLogical (tree : Tree) : Bool :=
  match tree.bare with
  | .binary operator _ _ => operator == "||" || operator == "&&"
  | _ => false

/-- Whether an expression can be the base of a power only in parentheses. -/
def Tree.isPrefixed (tree : Tree) : Bool :=
  match tree.bare with
  | .unary .. => true
  | _ => false

/-- The levels at which a binary operator holds its operands: an equal operator needs parentheses
on one side only. -/
def operandLevels (operator : String) (left right : Tree) : Level × Level :=
  let level := Level.ofOperator operator
  if operator == "**" then (if left.isPrefixed then Level.call else level, level - 1)
  else if operator == "??" then
    (if left.isLogical then Level.prefixed else level - 1,
      if right.isLogical then Level.prefixed else level)
  else (level - 1, level)

/-- Whether an `else` behind this statement would belong to it. -/
def Tree.takesElse : Tree → Bool
  | .branch _ _ none => true
  | .branch _ _ (some no) => no.takesElse
  | .loop _ body => body.takesElse
  | .labelled _ body => body.takesElse
  | _ => false

end PanelCompiler.Script
