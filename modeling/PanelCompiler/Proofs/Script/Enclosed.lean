import PanelCompiler.Proofs.Script.Levels
import PanelCompiler.Script.FunctionParts

namespace PanelCompiler.Script

namespace FunctionParts

theorem isClosed_of_ofTree? {tree : Tree} {parts : FunctionParts}
    (found : ofTree? tree = some parts) : tree.isClosed = true := by
  unfold ofTree? at found
  split at found
  · rfl
  · rfl
  · rfl
  · rfl
  · cases found

private theorem ofProgram?_first (value : Tree) (others : List Tree) :
    ofProgram? (Parser.markDirectives (.expression value :: others)) = ofTree? value := by
  unfold Parser.markDirectives
  split
  · rename_i same
    cases same
    rfl
  · rfl

end FunctionParts

namespace Parser

open FunctionParts

variable {mode : Mode} {start middle stop : Cursor} {g : Grammar} {d : Nat}

/-- One step through the statements of a program. -/
def programStep (g : Grammar) (statements : List Tree) : Parser (Option (List Tree)) := do
  if (← peek).kind == .finish then return none
  let statement ← g.statement
  return some (statement :: statements)

theorem takes_programStep_iff {statements : List Tree} {next : Option (List Tree)} :
    Takes (programStep g statements) mode start next stop ↔
      start.next.kind = .finish ∧ next = none ∧ stop = start ∨ start.next.kind ≠ .finish ∧
        ∃ statement, Takes g.statement mode start statement stop ∧
          next = some (statement :: statements) := by
  unfold programStep
  rw [takes_peek.bind_iff]
  by_cases finish : start.next.kind = .finish
  · rw [if_pos (by simp [finish])]
    simp [finish, takes_pure_iff]
  · rw [if_neg (by simp [finish])]
    simp only [finish, false_and, false_or, takes_bind_iff, takes_pure_iff, ne_eq,
      not_false_eq_true, true_and]
    constructor
    · rintro ⟨statement, _, one, rfl, rfl⟩
      exact ⟨statement, one, rfl⟩
    · rintro ⟨statement, one, rfl⟩
      exact ⟨statement, stop, one, rfl, rfl⟩

/-- The statements that a program goes on with do not depend on those before them. -/
theorem takes_repeat_push {fuel : Nat} {base statements : List Tree}
    (taken : Takes (repeatWhile (programStep g) fuel base) mode start statements stop) :
    ∃ others, statements = others ++ base ∧
      ∀ base, Takes (repeatWhile (programStep g) fuel base) mode start (others ++ base) stop := by
  induction fuel generalizing base start with
  | zero => cases taken
  | succ fuel ih =>
    obtain ⟨next, middle, step, loop⟩ := taken.of_bind
    rcases takes_programStep_iff.mp step with ⟨finish, rfl, rfl⟩ | ⟨more, statement, one, rfl⟩
    · obtain ⟨rfl, rfl⟩ := takes_pure_iff.mp loop
      exact ⟨[], rfl, fun base =>
        .repeat_done (takes_programStep_iff.mpr (.inl ⟨finish, rfl, rfl⟩))⟩
    · obtain ⟨others, rfl, all⟩ := ih loop
      refine ⟨others ++ [statement], by simp, fun base => ?_⟩
      rw [List.append_assoc]
      exact .repeat_step (takes_programStep_iff.mpr (.inr ⟨more, statement, one, rfl⟩))
        (all (statement :: base))

/-- What stands behind the function in its parentheses, from the closing one on: the statement ends
there, and others follow. -/
structure Continues (d : Nat) (mode : Mode) (middle stop : Cursor) : Prop where
  closing : Token.isMark middle.next ")" = true
  others : ∃ place last statements,
    Linkless (Grammar.ofDepth (d + 3)) (Mode.bracketed mode) middle.after place ∧
    Ends (Mode.bracketed mode) place ∧ Token.isMark place.next "," = false ∧
    Takes endStatement mode place () last ∧
    ∀ base, Takes (repeatWhile (programStep (Grammar.ofDepth (d + 5))) (mode.steps - 1) base) mode
      last (statements ++ base) stop

theorem continues_end (steps : 1 < mode.steps) :
    Continues d mode (start.before [')']) (start.before []) := by
  have token : Lexer.nextToken ([] ++ ')' :: []) = Token.ofMark ")" [] :=
    nextToken_mark .nil (by decide) rfl
  have closing : (start.before [')']).next = Token.ofMark ")" [] := token
  have behind : (start.before [')']).after = start.before [] := Cursor.after_of_next closing
  have finish : (start.before []).next.kind = .finish := nextToken_nil
  have unmarked : ∀ mark, Token.isMark (start.before []).next mark = false :=
    Token.isMark_eq_false (by simp [finish])
  obtain ⟨fuel, same⟩ : ∃ fuel, mode.steps - 1 = fuel + 1 := ⟨mode.steps - 2, by omega⟩
  refine ⟨Token.isMark_of_eq closing, start.before [], start.before [], [], ?_, ends_finish finish,
    unmarked _, .bind takes_peek ?_, fun base => ?_⟩
  · rw [behind]
    exact linkless_finish finish
  · have ends : Token.endsStatement (start.before []).next = true := by
      simp [Token.endsStatement, finish]
    rw [unmarked]
    exact takes_require ends
  · rw [same]
    exact .repeat_done (takes_programStep_iff.mpr (.inl ⟨finish, rfl, rfl⟩))

/-- A program begins with a function in parentheses just where the function is an expression behind
the opening one, and the rest of the program stands behind it. -/
theorem takes_program_iff {rest : List Char} {broken : Bool} {parts : FunctionParts}
    (steps : 0 < mode.steps) (opening : start.next = Token.ofMark "(" rest broken)
    (other : Takes (arrow? (Grammar.ofDepth (d + 3)) false) (Mode.bracketed mode) start none
      start) :
    (∃ statements, Takes (program (Grammar.ofDepth (d + 5))) mode start statements stop ∧
      ofProgram? statements = some parts) ↔
    ∃ inner middle, Takes (assignment (Grammar.ofDepth (d + 2))) (Mode.bracketed mode) start.after
      inner middle ∧ ofTree? inner = some parts ∧ Continues d mode middle stop := by
  have operand := beginsOperand_opening opening
  have unfinished : start.next.kind ≠ .finish := by
    rw [opening]
    exact nofun
  obtain ⟨fuel, same⟩ := Nat.exists_eq_succ_of_ne_zero (Nat.pos_iff_ne_zero.mp steps)
  constructor
  · rintro ⟨statements, taken, found⟩
    obtain ⟨reversed, _, loop, built⟩ := Takes.of_bind taken
    obtain ⟨rfl, rfl⟩ := takes_pure_iff.mp built
    have loop : Takes (repeatWhile (programStep (Grammar.ofDepth (d + 5))) mode.steps []) mode start
      reversed stop := loop.drop takes_read
    rw [same] at loop
    obtain ⟨next, last, step, loop⟩ := loop.of_bind
    rcases takes_programStep_iff.mp step with ⟨finish, -⟩ | ⟨-, first, one, rfl⟩
    · exact absurd finish unfinished
    obtain ⟨others, rfl, all⟩ := takes_repeat_push loop
    have one : Takes (statement (Grammar.ofDepth (d + 4))) mode start first last := one
    obtain ⟨value, place, expression, ends, rfl⟩ := (takes_statement_iff opening).mp one
    rw [List.reverse_append, List.reverse_singleton, List.singleton_append,
      ofProgram?_first] at found
    have expression : Takes (Parser.expression (Grammar.ofDepth (d + 3))) (Mode.bracketed mode)
      start value place := expression
    obtain ⟨whole, alone⟩ := of_takes_expression (isClosed_of_ofTree? found) expression
    obtain ⟨behind, primary, linkless, finished⟩ :=
      of_takes_assignment operand (isClosed_of_ofTree? found) other whole
    obtain ⟨inner, middle, inside, closing, rfl, rfl⟩ := (takes_primary_iff opening).mp primary
    have found : ofTree? inner = some parts := found
    have inside : Takes (Parser.expression (Grammar.ofDepth (d + 2))) (Mode.bracketed mode)
      start.after inner middle := inside
    refine ⟨inner, middle, (of_takes_expression (isClosed_of_ofTree? found) inside).1, found,
      closing, place, last, others, linkless, finished, alone, ends, ?_⟩
    rw [same]
    exact all
  · rintro ⟨inner, middle, inside, found, closing, place, last, others, linkless, finished, alone,
      ends, all⟩
    have comma : Token.isMark middle.next "," = false := Token.isMark_ne closing (by decide)
    have inside : Takes (bracketed (Grammar.ofDepth (d + 3)).expression) (Mode.bracketed mode)
        start.after inner middle :=
      takes_expression inside comma steps
    have enough : 0 < (Mode.bracketed mode).steps := steps
    have primary := (takes_primary_iff opening).mpr ⟨inner, middle, inside, closing, rfl, rfl⟩
    have whole := takes_assignment enough operand other primary linkless finished
    have expression : Takes (bracketed (Grammar.ofDepth (d + 4)).expression) mode start _ place :=
      takes_expression whole alone steps
    have one := (takes_statement_iff opening).mpr ⟨_, place, expression, ends, rfl⟩
    refine ⟨markDirectives (others ++ [Tree.expression (.parenthesized inner)]).reverse, ?_, ?_⟩
    · refine .bind (.bind takes_read ?_) (.pure _)
      rw [same] at all ⊢
      exact .repeat_step (takes_programStep_iff.mpr (.inr ⟨unfinished, _, one, rfl⟩)) (all _)
    · rw [List.reverse_append, List.reverse_singleton, List.singleton_append, ofProgram?_first]
      exact found

end Parser
end PanelCompiler.Script
