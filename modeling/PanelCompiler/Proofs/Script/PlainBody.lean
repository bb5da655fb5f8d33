import PanelCompiler.Proofs.Script.ParameterList
import PanelCompiler.Script.Program

namespace PanelCompiler.Script

open Lexer (nextToken)

def returnWord : List Char :=
  ['r', 'e', 't', 'u', 'r', 'n']

/-- Plain values that are returned, each on the line of its keyword. -/
inductive IsPlainBody : List Char → Prop
  | empty {gap : List Char} {broken : Bool} (trivia : IsTrivia gap broken) : IsPlainBody gap
  | answer {gap line value later others : List Char} {broken brokenLater : Bool}
    (trivia : IsTrivia gap broken) (onLine : IsTrivia line false) (apart : EndsWord (line ++ value))
    (plain : IsPlainValue value) (behind : IsTrivia later brokenLater)
    (rest : IsPlainBody others) :
    IsPlainBody (gap ++ (returnWord ++ (line ++ (value ++ (later ++ ';' :: others)))))

section FirstTokens

variable {gap rest value : List Char} {broken : Bool}

theorem IsPlainValue.filled (plain : IsPlainValue value) : value ≠ [] := by
  cases plain with
  | name free => exact free.ne_nil
  | constant constant =>
    simp only [List.mem_cons, List.not_mem_nil, or_false] at constant
    rcases constant with rfl | rfl | rfl | rfl <;> decide
  | number whole => exact whole.filled
  | string | emptyArray | emptyObject => exact List.cons_ne_nil _ _

private theorem EndsWord.append {text : List Char} (ends : EndsWord text) (filled : text ≠ []) :
    EndsWord (text ++ rest) := by
  obtain ⟨c, text, rfl⟩ := List.exists_cons_of_ne_nil filled
  exact ends

private theorem IsPlainValue.begins (plain : IsPlainValue value) (trivia : IsTrivia gap broken)
    (ends : EndsToken rest) : (nextToken (gap ++ (value ++ rest))).afterBreak = broken ∧
      (nextToken (gap ++ (value ++ rest))).kind ≠ .finish ∧
      ∀ mark ∈ [";", "\x7d"],
        Parser.Token.isMark (nextToken (gap ++ (value ++ rest))) mark = false := by
  cases plain with
  | name free =>
    rw [nextToken_word trivia free.start free.parts ends.word]
    exact ⟨rfl, by simp [Token.ofWord], fun _ _ => rfl⟩
  | constant constant =>
    simp only [List.mem_cons, List.not_mem_nil, or_false] at constant
    rcases constant with rfl | rfl | rfl | rfl
    all_goals
      rw [nextToken_word trivia (by decide) (List.all_eq_true.mp (by decide)) ends.word]
      exact ⟨rfl, by simp [Token.ofWord], fun _ _ => rfl⟩
  | number whole =>
    rw [nextToken_number trivia whole ends]
    exact ⟨rfl, by simp [Token.ofNumber], fun _ _ => rfl⟩
  | string quoted plain =>
    rw [nextToken_string trivia quoted plain]
    exact ⟨rfl, by simp [Token.ofString], fun _ _ => rfl⟩
  | @emptyArray gap =>
    have opening : nextToken (_ ++ '[' :: (gap ++ [']'] ++ rest)) = Token.ofMark "[" _ broken :=
      nextToken_mark trivia (by decide) rfl
    rw [List.cons_append, opening]
    exact ⟨rfl, by simp [Token.ofMark], by simp [Parser.Token.isMark, Token.ofMark]⟩
  | emptyObject =>
    rw [List.cons_append, nextToken_brace trivia]
    exact ⟨rfl, by simp [Token.ofMark], by simp [Parser.Token.isMark, Token.ofMark]⟩

end FirstTokens

namespace Parser

variable {mode : Mode} {start : Cursor} {d : Nat} {rest : List Char}

private theorem nextToken_semicolon {gap : List Char} {broken : Bool}
    (trivia : IsTrivia gap broken) :
    nextToken (gap ++ ';' :: rest) = Token.ofMark ";" rest broken :=
  nextToken_mark trivia (by decide) rfl

private theorem takes_some {α : Type} {parser : Parser α} {value : α} {stop : Cursor}
    (taken : Takes parser mode start value stop) :
    Takes (some <$> parser) mode start (some value) stop := by
  rw [← bind_pure_comp]
  exact .bind taken (.pure _)

/-- Whether `return` goes on with a word does not depend on what stands behind its value. -/
theorem nextToken_return {gap line value : List Char} {broken : Bool} (trivia : IsTrivia gap broken)
    (apart : EndsWord (line ++ value)) (plain : IsPlainValue value) :
    nextToken (gap ++ (returnWord ++ (line ++ (value ++ rest)))) =
      Token.ofWord returnWord (line ++ (value ++ rest)) broken := by
  have separate : EndsWord (line ++ (value ++ rest)) := by
    rw [← List.append_assoc]
    exact apart.append (List.append_ne_nil_of_right_ne_nil line plain.filled)
  exact nextToken_word trivia (by decide) (List.all_eq_true.mp (by decide)) separate

private theorem takes_return {gap line value later : List Char} {broken brokenLater : Bool}
    (answer : mode.answer = true) (steps : 0 < mode.steps) (trivia : IsTrivia gap broken)
    (onLine : IsTrivia line false) (apart : EndsWord (line ++ value)) (plain : IsPlainValue value)
    (behind : IsTrivia later brokenLater) : ∃ tree,
      Takes (statement (Grammar.ofDepth (d + 1))) mode
        (start.before (gap ++ (returnWord ++ (line ++ (value ++ (later ++ ';' :: rest))))))
        (.answer "return" (some tree)) (start.before rest) := by
  have word : (start.before (gap ++ (returnWord ++ (line ++ (value ++ (later ++ ';' ::
      rest)))))).next = Token.ofWord returnWord _ broken :=
    nextToken_return trivia apart plain
  have inside := Cursor.after_of_next word
  have ends : EndsToken (later ++ ';' :: rest) := behind.endsToken (endsToken_cons (by decide))
  have semicolon : (start.before (later ++ ';' :: rest)).next = Token.ofMark ";" rest brokenLater :=
    nextToken_semicolon behind
  obtain ⟨unbroken, more, marks⟩ := plain.begins onLine ends
  have read : ∃ tree, Takes (assignment (Grammar.ofDepth d)) (Mode.bracketed mode)
      (start.before (line ++ (value ++ (later ++ ';' :: rest)))) tree
      (start.before (later ++ ';' :: rest)) :=
    takes_plainValue plain onLine ends (by decide) (Token.isMark_of_eq semicolon) steps
  obtain ⟨tree, read⟩ := read
  have expression : Takes (bracketed (Grammar.ofDepth (d + 1)).expression) mode
      (start.before (line ++ (value ++ (later ++ ';' :: rest)))) tree
      (start.before (later ++ ';' :: rest)) :=
    takes_expression read (Token.isMark_ne (Token.isMark_of_eq semicolon) (by decide)) steps
  have last : Takes endStatement mode (start.before (later ++ ';' :: rest)) ()
      (start.before rest) := by
    refine .bind takes_peek ?_
    rw [semicolon]
    exact .bind takes_advance (Cursor.after_of_next semicolon ▸ .pure ())
  have whole : Takes (returnStatement (Grammar.ofDepth (d + 1))) mode
      (start.before (gap ++ (returnWord ++ (line ++ (value ++ (later ++ ';' :: rest))))))
      (.answer "return" (some tree)) (start.before rest) := by
    refine .bind takes_read (.bind (takes_require answer) (.bind takes_advance ?_))
    rw [inside]
    refine .bind takes_peek ?_
    dsimp only [Cursor.before_next, Token.ofWord]
    rw [if_neg (by simp [unbroken, more, marks])]
    exact .bind (takes_some expression) (.bind last (.pure _))
  refine ⟨tree, .bind takes_peek ?_⟩
  rw [word]
  exact whole

def bodyStep (g : Grammar) (statements : List Tree) : Parser (Option (List Tree)) := do
  if ← atMark "\x7d" then return none
  let statement ← g.statement
  return some (statement :: statements)

private theorem takes_plainStatements {text : List Char} {fuel : Nat} {statements : List Tree}
    (body : IsPlainBody text) (answer : mode.answer = true) (steps : 0 < mode.steps)
    (enough : text.length < fuel) : ∃ all gap broken, IsTrivia gap broken ∧
      Takes (repeatWhile (bodyStep (Grammar.ofDepth (d + 2))) fuel statements) mode
        (start.before (text ++ '\x7d' :: rest)) all (start.before (gap ++ '\x7d' :: rest)) := by
  obtain ⟨fuel, rfl⟩ := Nat.exists_eq_succ_of_ne_zero (Nat.ne_zero_of_lt enough)
  induction body generalizing fuel statements with
  | @empty gap broken trivia =>
    have closing : (start.before (gap ++ '\x7d' :: rest)).next = Token.ofMark "\x7d" rest broken :=
      closes_brace.token trivia rest
    have done : Takes (atMark "\x7d") mode (start.before (gap ++ '\x7d' :: rest)) true _ :=
      takes_atMark_iff.mpr ⟨(Token.isMark_of_eq closing).symm, rfl⟩
    exact ⟨statements, gap, broken, trivia, .repeat_done (.bind done (.pure none))⟩
  | @answer gap line value later others _ _ trivia onLine apart plain behind body ih =>
    have whole : gap ++ (returnWord ++ (line ++ (value ++ (later ++ ';' :: others)))) ++
        '\x7d' :: rest = gap ++ (returnWord ++ (line ++ (value ++ (later ++ ';' :: (others ++
          '\x7d' :: rest))))) := by simp
    have word : nextToken (gap ++ (returnWord ++ (line ++ (value ++ (later ++ ';' :: (others ++
        '\x7d' :: rest)))))) = _ := nextToken_return trivia apart plain
    have opens : Takes (atMark "\x7d") mode (start.before (gap ++ (returnWord ++ (line ++ (value ++
        (later ++ ';' :: (others ++ '\x7d' :: rest))))))) false _ :=
      takes_atMark_iff.mpr ⟨by rw [Cursor.before_next, word]; rfl, rfl⟩
    obtain ⟨tree, one⟩ := takes_return answer steps trivia onLine apart plain behind
    have step : Takes (bodyStep (Grammar.ofDepth (d + 2)) statements) mode _ _ _ :=
      .bind opens (.bind one (.pure _))
    have fewer : 0 < fuel ∧ others.length < fuel := by
      simp only [List.length_append, List.length_cons] at enough
      omega
    obtain ⟨fuel, rfl⟩ := Nat.exists_eq_succ_of_ne_zero (Nat.ne_zero_of_lt fewer.1)
    obtain ⟨all, gap, broken, trivia, loop⟩ := ih fuel fewer.2
    rw [whole]
    exact ⟨all, gap, broken, trivia, .repeat_step step loop⟩

theorem takes_plainBody {text gap : List Char} {broken : Bool} (body : IsPlainBody text)
    (trivia : IsTrivia gap broken) (enough : text.length < mode.steps) : ∃ statements,
      Takes (functionBody (Grammar.ofDepth (d + 2))) mode
        (start.before (gap ++ '\x7b' :: (text ++ '\x7d' :: rest)))
        (String.ofList ('\x7b' :: (text ++ ['\x7d'])), statements) (start.before rest) := by
  have brace : (start.before (gap ++ '\x7b' :: (text ++ '\x7d' :: rest))).next =
      Token.ofMark "\x7b" (text ++ '\x7d' :: rest) broken :=
    nextToken_brace trivia
  have inside : ∃ statements, Takes (statementsUntilBrace (Grammar.ofDepth (d + 2)))
      { Mode.bracketed mode with answer := true } (start.before (text ++ '\x7d' :: rest)) statements
      (start.before rest) := by
    have steps : 0 < mode.steps := Nat.zero_lt_of_lt enough
    have answer : ({ Mode.bracketed mode with answer := true } : Mode).answer = true := rfl
    obtain ⟨all, gap, broken, behind, loop⟩ := takes_plainStatements body answer steps enough
    have closing : (start.before (gap ++ '\x7d' :: rest)).next = Token.ofMark "\x7d" rest broken :=
      closes_brace.token behind rest
    refine ⟨all.reverse, .bind (.bind takes_read loop) (.bind (takes_expect
      (Token.isMark_of_eq closing)) ?_)⟩
    rw [Cursor.after_of_next closing]
    exact .pure _
  obtain ⟨statements, inside⟩ := inside
  have source : sourceBetween ('\x7b' :: (text ++ '\x7d' :: rest)) rest =
      String.ofList ('\x7b' :: (text ++ ['\x7d'])) := by
    rw [← sourceBetween_append _ rest]
    simp
  refine ⟨markDirectives statements, .bind takes_peek ?_⟩
  rw [brace]
  refine .bind (takes_expect (Token.isMark_of_eq brace)) ?_
  rw [Cursor.after_of_next brace]
  refine .bind (takes_under inside) (.bind takes_behind ?_)
  rw [← source]
  exact .pure _

end Parser
end PanelCompiler.Script
