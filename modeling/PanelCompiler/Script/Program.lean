import PanelCompiler.Script.Parser.Statement

/-!
Whole programs. The grammar is tied together by nesting: what stands inside something else is one
level deeper, and there are more levels than any text has use for.
-/

namespace PanelCompiler.Script

/-- The grammar with nothing nested. -/
def Grammar.flat : Grammar :=
  { expression := Parser.fail, assignment := Parser.fail, branch := Parser.fail,
    unary := Parser.fail, leftHandSide := Parser.fail, construct := Parser.fail,
    pattern := Parser.fail, type := Parser.fail, operatorType := Parser.fail,
    primaryType := Parser.fail, element := Parser.fail, statement := Parser.fail,
    substatement := Parser.fail }

/-- One more level of nesting. A level is built where it is needed. -/
def Grammar.deeper (g : Unit → Grammar) : Grammar :=
  { expression := fun mode cursor => Parser.expression (g ()) mode cursor
    assignment := fun mode cursor => Parser.assignment (g ()) mode cursor
    branch := fun mode cursor => Parser.branch (g ()) mode cursor
    unary := fun mode cursor => Parser.unary (g ()) mode cursor
    leftHandSide := fun mode cursor => Parser.leftHandSide (g ()) mode cursor
    construct := fun mode cursor => Parser.construct (g ()) mode cursor
    pattern := fun mode cursor => Parser.pattern (g ()) mode cursor
    type := fun mode cursor => Parser.type (g ()) mode cursor
    operatorType := fun mode cursor => Parser.operatorType (g ()) mode cursor
    primaryType := fun mode cursor => Parser.primaryType (g ()) mode cursor
    element := fun mode cursor => Parser.element (g ()) mode cursor
    statement := fun mode cursor => Parser.statement (g ()) mode cursor
    substatement := fun mode cursor => Parser.substatement (g ()) mode cursor }

/-- The grammar with this much nesting. -/
def Grammar.ofDepth : Nat → Grammar
  | 0 => .flat
  | depth + 1 => .deeper fun _ => Grammar.ofDepth depth

/-- Places in a text are told by 32 bits. No text that has them nests deeper than twice its length,
and no loop takes more steps. -/
def nestingLimit : Nat :=
  1 <<< 33

/-- The surroundings of a module, which waits for promises outside of functions too. -/
def Mode.module : Mode :=
  { await := true, yield := false, inOperator := true, answer := false, ambient := false,
    decorator := false, bound := false, steps := nestingLimit }

def Cursor.start (text : List Char) : Cursor :=
  { behind := text, next := Lexer.nextToken text, initializers := 0, arrowless := [] }

/-- The statements of a whole text. -/
def Parser.program (g : Grammar) : Parser (List Tree) := do
  let reversed ← Parser.iterate [] fun statements => do
    if (← Parser.peek).kind == .finish then return none
    let statement ← g.statement
    return some (statement :: statements)
  return Parser.markDirectives reversed.reverse

/-- The statements of a module, unless its text has a fault. -/
def parse? (text : List Char) : Option (List Tree) :=
  match Parser.program (Grammar.ofDepth nestingLimit) Mode.module (Cursor.start text) with
  | (some statements, cursor) => if cursor.initializers == 0 then some statements else none
  | (none, _) => none

end PanelCompiler.Script
