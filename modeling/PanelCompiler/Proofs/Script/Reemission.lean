import PanelCompiler.Proofs.Script.Enclosed
import PanelCompiler.Proofs.Script.FunctionTexts
import PanelCompiler.Proofs.Script.PlainBody
import PanelCompiler.Proofs.Text.Trim

/-!
The arrow function of the parts of a function is split into the same parts. The body is read from
its brace on, so it is read in the same way there; the parameters are read in the same way wherever
they stand, if they are names and object patterns with plain values as defaults. Not all parts come
through: the blanks around the parameters are cut off, with the line break that ends a comment.
-/

namespace PanelCompiler.Script

open Lexer (nextToken)
open PanelCompiler.Script.Parser

instance decidableEqOutcome {fault value : Type} [DecidableEq fault] [DecidableEq value] :
    DecidableEq (Except fault value)
  | .ok first, .ok second =>
    decidable_of_iff (first = second) ⟨congrArg Except.ok, Except.ok.inj⟩
  | .error first, .error second =>
    decidable_of_iff (first = second) ⟨congrArg Except.error, Except.error.inj⟩
  | .ok _, .error _ => .isFalse (by rintro ⟨⟩)
  | .error _, .ok _ => .isFalse (by rintro ⟨⟩)

namespace FunctionParts

section Texts

theorem trim_enclosed {opening closing : Char} (first : Text.isBlank opening = false)
    (last : Text.isBlank closing = false) (inner : List Char) :
    Text.trim (opening :: (inner ++ [closing])) = opening :: (inner ++ [closing]) := by
  rw [Text.trim_cons first, Text.trimEnd_concat last]

theorem unwrap?_enclosed (opening closing : Char) (inner : List Char) :
    unwrap? opening closing (opening :: (inner ++ [closing])) = some inner := by
  simp [unwrap?]

theorem parametersText_list {text : String} (trimmed : Text.trim text.toList = text.toList) :
    parametersText (listSource [] text.toList []) = text := by
  have list : (listSource [] text.toList []).toList = '(' :: (text.toList ++ [')']) := by
    simp [listSource, listText]
  have kept : Text.trim ('(' :: (text.toList ++ [')'])) = '(' :: (text.toList ++ [')']) :=
    trim_enclosed (by decide) (by decide) text.toList
  simp only [parametersText, list, kept, unwrap?_enclosed, trimmed, String.ofList_toList]

theorem bodyText_braced (text : String) :
    bodyText (String.ofList ('\x7b' :: (text.toList ++ ['\x7d']))) false = text := by
  have kept : Text.trim ('\x7b' :: (text.toList ++ ['\x7d'])) =
      '\x7b' :: (text.toList ++ ['\x7d']) :=
    trim_enclosed (by decide) (by decide) text.toList
  simp only [bodyText, String.toList_ofList, kept, unwrap?_enclosed, String.ofList_toList,
    Option.getD_some, Bool.false_eq_true, if_false]

private theorem trimmed_parametersText (source : String) :
    Text.trim (parametersText source).toList = (parametersText source).toList := by
  unfold parametersText
  dsimp only
  split <;> rw [String.toList_ofList, Text.trim_trim]

end Texts

variable {parts : FunctionParts} {source : String}

/-- The parts of a source that is an expression, as functions and arrow functions are. -/
def ofExpression? (source : String) : Option FunctionParts :=
  (parse? ('(' :: Text.trim source.toList ++ [')'])).bind ofProgram?

theorem ofSource_of_ofExpression? (found : ofExpression? source = some parts) :
    ofSource source = .ok parts := by
  have filled : (Text.trim source.toList).isEmpty = false := by
    cases same : Text.trim source.toList with
    | nil =>
      have none : (parse? ['(', ')']).bind ofProgram? = none := by decide +kernel
      rw [ofExpression?, same] at found
      cases none.symm.trans found
    | cons => rfl
  unfold ofSource
  unfold ofExpression? at found
  simp only [filled, found, Bool.false_eq_true, if_false]

private theorem trimmed_of_ofTree? {tree : Tree} (found : ofTree? tree = some parts) :
    Text.trim parts.parameters.toList = parts.parameters.toList := by
  fun_induction ofTree? tree with
  | case1 inner ih => exact ih found
  | case2 | case4 | case5 =>
    cases found
    exact trimmed_parametersText _
  | _ => cases found

theorem trimmed_parameters (accepted : ofSource source = .ok parts) :
    Text.trim parts.parameters.toList = parts.parameters.toList := by
  have trimmed : ∀ {statements}, ofProgram? statements = some parts →
      Text.trim parts.parameters.toList = parts.parameters.toList := by
    intro statements found
    unfold ofProgram? at found
    split at found
    · exact trimmed_of_ofTree? found
    · cases found
  unfold ofSource at accepted
  dsimp only at accepted
  split at accepted
  · cases accepted
  · split at accepted
    · rename_i found
      cases accepted
      obtain ⟨statements, -, found⟩ := Option.bind_eq_some_iff.mp found
      exact trimmed found
    · split at accepted
      · rename_i found
        cases accepted
        obtain ⟨statements, -, found⟩ := Option.bind_eq_some_iff.mp found
        exact trimmed found
      · cases accepted

/-- A text that is written as a function with these parts and a body in braces. -/
inductive IsWritten (parts : FunctionParts) : List Char → Prop
  | function {lead between front back gap : List Char} {brokenFront brokenBack broken : Bool}
    (keyword : IsKeyword true parts.async lead) (named : IsFunctionName between)
    (before : IsTrivia front brokenFront) (after : IsTrivia back brokenBack)
    (trivia : IsTrivia gap broken) : IsWritten parts
      (lead ++ (functionWord ++ (between ++ listText front parts.parameters.toList back
        (gap ++ '\x7b' :: (parts.body.toList ++ ['\x7d'])))))
  | arrow {lead front back line gap : List Char} {brokenFront brokenBack broken : Bool}
    (keyword : IsKeyword false parts.async lead) (before : IsTrivia front brokenFront)
    (after : IsTrivia back brokenBack) (onLine : IsTrivia line false)
    (trivia : IsTrivia gap broken) : IsWritten parts
      (lead ++ listText front parts.parameters.toList back (line ++ '=' :: '>' ::
        (gap ++ '\x7b' :: (parts.body.toList ++ ['\x7d']))))
  | bare {lead line gap : List Char} {broken : Bool} (keyword : IsKeyword true parts.async lead)
    (bound : IsBoundName parts.parameters.toList) (onLine : IsTrivia line false)
    (trivia : IsTrivia gap broken) : IsWritten parts
      (lead ++ (parts.parameters.toList ++ (line ++ '=' :: '>' ::
        (gap ++ '\x7b' :: (parts.body.toList ++ ['\x7d'])))))

private theorem isTrivia_blank : IsTrivia [' '] false :=
  .spacing (by decide) (by decide) .nil

theorem toArrow_eq (parts : FunctionParts) : ∃ lead, IsKeyword false parts.async lead ∧
    parts.toArrow.toList = lead ++ listText [] parts.parameters.toList []
      ([' '] ++ '=' :: '>' :: ([' '] ++ '\x7b' :: (parts.body.toList ++ ['\x7d']))) := by
  obtain ⟨lead, keyword, same⟩ : ∃ lead, IsKeyword false parts.async lead ∧
      lead = parts.asyncPrefix.toList := by
    rw [asyncPrefix]
    cases parts.async with
    | false => exact ⟨[], .none, rfl⟩
    | true => exact ⟨asyncWord ++ [' '], .async isTrivia_blank nofun, rfl⟩
  exact ⟨lead, keyword, by simp [toArrow, same, listText]⟩

theorem trim_toArrow (parts : FunctionParts) :
    Text.trim parts.toArrow.toList = parts.toArrow.toList := by
  obtain ⟨first, inner, shown, whole⟩ : ∃ first inner, Text.isBlank first = false ∧
      parts.toArrow.toList = first :: (inner ++ ['\x7d']) := by
    cases async : parts.async with
    | false =>
      refine ⟨'(', parts.parameters.toList ++ ") => \x7b".toList ++ parts.body.toList,
        by decide, ?_⟩
      simp [toArrow, asyncPrefix, async]
    | true =>
      refine ⟨'a', "sync (".toList ++ parts.parameters.toList ++ ") => \x7b".toList ++
        parts.body.toList, by decide, ?_⟩
      simp [toArrow, asyncPrefix, async]
  rw [whole, trim_enclosed shown (by decide)]

theorem isWritten_toArrow (parts : FunctionParts) : IsWritten parts parts.toArrow.toList := by
  obtain ⟨lead, keyword, printed⟩ := toArrow_eq parts
  rw [printed]
  exact .arrow keyword .nil .nil isTrivia_blank isTrivia_blank

section Bodies

variable {d : Nat} {middle : Cursor} {tree : Tree}

def origin : Cursor :=
  .start []

/-- The body of the parts is read from its brace on, up to a place in front of the parenthesis
behind the function. -/
def ReadsBody (d : Nat) (parts : FunctionParts) (middle : Cursor) : Prop :=
  ∃ gap broken body statements, IsTrivia gap broken ∧
    Takes (functionBody (Grammar.ofDepth (d + 2))) (inBody parts.async)
      (origin.before (gap ++ '\x7b' :: (parts.body.toList ++ ['\x7d', ')']))) (body, statements)
      middle ∧
    bodyText body false = parts.body

private theorem bodyText_of_found {shape : FunctionShape}
    (found : some (ofShape shape) = some parts) :
    bodyText shape.body shape.expression = parts.body := by
  cases found
  rfl

variable (parameters : AreParameters parts.parameters.toList)
  (enough : parts.parameters.toList.length + 1 < nestingLimit)
include parameters enough

theorem readsBody_of_written {text : List Char} (written : IsWritten parts text)
    (taken : Takes (assignment (Grammar.ofDepth (d + 2))) .module (origin.before (text ++ [')']))
      tree middle)
    (found : ofTree? tree = some parts) (closing : Token.isMark middle.next ")" = true) :
    ReadsBody d parts middle := by
  have fresh : origin.arrowless = [] := rfl
  cases written with
  | @function lead between front back gap _ _ _ keyword named before after trivia =>
    have whole : lead ++ (functionWord ++ (between ++ listText front parts.parameters.toList back
        (gap ++ '\x7b' :: (parts.body.toList ++ ['\x7d'])))) ++ [')'] =
        lead ++ (functionWord ++ (between ++ listText front parts.parameters.toList back
          (gap ++ '\x7b' :: (parts.body.toList ++ ['\x7d', ')'])))) := by
      simp [listText]
    rw [whole] at taken
    obtain ⟨name, trees, body, statements, inside, rfl⟩ := of_takes_functionText
      parameters enough before after keyword named trivia (isClosed_of_ofTree? found) closing taken
    exact ⟨gap, _, body, statements, trivia, inside, bodyText_of_found found⟩
  | @arrow lead front back line gap _ _ _ keyword before after onLine trivia =>
    have whole : lead ++ listText front parts.parameters.toList back (line ++ '=' :: '>' ::
        (gap ++ '\x7b' :: (parts.body.toList ++ ['\x7d']))) ++ [')'] =
        lead ++ listText front parts.parameters.toList back (line ++ '=' :: '>' ::
          (gap ++ '\x7b' :: (parts.body.toList ++ ['\x7d', ')']))) := by
      simp [listText]
    rw [whole] at taken
    obtain ⟨trees, alike⟩ := takes_arrowText_iff parameters enough before after fresh
      keyword onLine
    obtain ⟨body, statements, inside, rfl⟩ :=
      (takes_arrowBody_iff (nextToken_brace trivia)).mp ((alike tree middle).mp taken)
    exact ⟨gap, _, body, statements, trivia, inside, bodyText_of_found found⟩
  | @bare lead line gap _ keyword bound onLine trivia =>
    have whole : lead ++ (parts.parameters.toList ++ (line ++ '=' :: '>' ::
        (gap ++ '\x7b' :: (parts.body.toList ++ ['\x7d'])))) ++ [')'] =
        lead ++ (parts.parameters.toList ++ (line ++ '=' :: '>' ::
          (gap ++ '\x7b' :: (parts.body.toList ++ ['\x7d', ')'])))) := by
      simp
    rw [whole] at taken
    obtain ⟨body, statements, inside, rfl⟩ :=
      (takes_arrowBody_iff (nextToken_brace trivia)).mp
        ((takes_bareText_iff keyword bound onLine).mp taken)
    exact ⟨gap, _, body, statements, trivia, inside, bodyText_of_found found⟩

/-- With its body read, the arrow function of the parts is read as a function with these parts. -/
theorem takes_toArrow (trimmed : Text.trim parts.parameters.toList = parts.parameters.toList)
    (body : ReadsBody d parts middle) : ∃ tree, ofTree? tree = some parts ∧
      Takes (assignment (Grammar.ofDepth (d + 2))) .module
        (origin.before (parts.toArrow.toList ++ [')'])) tree middle := by
  have fresh : origin.arrowless = [] := rfl
  have blank := isTrivia_blank
  obtain ⟨gap, broken, source, statements, trivia, inside, same⟩ := body
  obtain ⟨lead, keyword, printed⟩ := toArrow_eq parts
  have whole : parts.toArrow.toList ++ [')'] =
      lead ++ listText [] parts.parameters.toList [] ([' '] ++ '=' :: '>' ::
        ([' '] ++ '\x7b' :: (parts.body.toList ++ ['\x7d', ')']))) := by
    simp [printed, listText]
  have again : Takes (functionBody (Grammar.ofDepth (d + 2))) (inBody parts.async)
      (origin.before ([' '] ++ '\x7b' :: (parts.body.toList ++ ['\x7d', ')']))) (source, statements)
      middle := by
    refine takes_functionBody_congr (nextToken_brace trivia) (nextToken_brace blank) ?_ inside
    rw [Cursor.after_of_next (nextToken_brace trivia), Cursor.after_of_next (nextToken_brace blank)]
    rfl
  obtain ⟨trees, alike⟩ := takes_arrowText_iff parameters enough .nil .nil fresh keyword blank
  refine ⟨arrowTree parts.async (listSource [] parts.parameters.toList []) source trees statements,
    ?_, ?_⟩
  · simp [arrowTree, ofTree?, ofShape, arrowShape, parametersText_list trimmed, same]
  · rw [whole]
    exact (alike _ middle).mpr ((takes_arrowBody_iff (nextToken_brace blank)).mpr
      ⟨source, statements, again, rfl⟩)

end Bodies

/-- No arrow function begins with the parentheses around a text that is written as a function. -/
theorem IsWritten.outside {text rest : List Char} {g : Grammar} {mode : Mode}
    (written : IsWritten parts text) : Takes (arrow? g false) mode
      (origin.before ('(' :: (text ++ rest))) none (origin.before ('(' :: (text ++ rest))) := by
  cases written with
  | @function _ between _ _ _ _ _ _ keyword named =>
    have second : ∀ rest, (nextToken (between ++ '(' :: rest)).kind = .word ∨
        Token.isMark (nextToken (between ++ '(' :: rest)) "(" = true ∨
        Token.isMark (nextToken (between ++ '(' :: rest)) "=>" = true := fun rest => by
      rcases named.opens with ⟨_, mark⟩ | ⟨_, _, _, word⟩
      · exact .inr (.inl (Token.isMark_of_eq mark))
      · exact .inl (congrArg Token.kind word)
    generalize parts.async = async at keyword
    simp only [List.append_assoc, listText, List.cons_append]
    cases keyword with
    | none =>
      exact takes_arrow_outside_word (nextToken_function .nil named.endsWord)
        (fun modifier => absurd modifier (by decide)) (second _)
    | async line apart =>
      rw [List.append_assoc]
      exact takes_arrow_outside_word (nextToken_async (line.endsWord (apart rfl)))
        (fun _ => .inl rfl) (.inl (congrArg Token.kind (nextToken_function line named.endsWord)))
  | arrow keyword =>
    generalize parts.async = async at keyword
    simp only [List.append_assoc, listText, List.cons_append]
    cases keyword with
    | none => exact takes_arrow_outside_list
    | async line =>
      rw [List.append_assoc]
      exact takes_arrow_outside_word (nextToken_async (endsWord_opening line)) (fun _ => .inl rfl)
        (.inr (.inl (Token.isMark_of_eq (nextToken_opening line))))
  | bare keyword bound onLine =>
    generalize parts.async = async at keyword
    simp only [List.append_assoc, List.cons_append]
    cases keyword with
    | none =>
      have mark : ∀ rest, nextToken (_ ++ '=' :: '>' :: rest) = Token.ofMark "=>" rest false :=
        fun _ => nextToken_arrow onLine
      exact takes_arrow_outside_word (nextToken_boundName bound .nil (endsToken_arrow onLine))
        (fun _ => .inr (congrArg Token.kind (mark _))) (.inr (.inr (Token.isMark_of_eq (mark _))))
    | async line apart =>
      rw [List.append_assoc]
      exact takes_arrow_outside_word (nextToken_async (line.endsWord (apart rfl)))
        (fun _ => .inl rfl)
        (.inl (congrArg Token.kind (nextToken_boundName bound line (endsToken_arrow onLine))))

/-- A source is an expression just where a program takes it in its parentheses, and every pattern
in it is one. -/
theorem ofExpression?_iff : ofExpression? source = some parts ↔
    ∃ stop, (∃ statements, Takes (program (Grammar.ofDepth nestingLimit)) .module
      (origin.before ('(' :: (Text.trim source.toList ++ [')']))) statements stop ∧
      ofProgram? statements = some parts) ∧ stop.initializers = 0 := by
  have here : Cursor.start ('(' :: Text.trim source.toList ++ [')']) =
    origin.before ('(' :: (Text.trim source.toList ++ [')'])) := rfl
  rw [ofExpression?, parse?, here]
  unfold Takes
  generalize program (Grammar.ofDepth nestingLimit) .module _ = outcome
  constructor
  · intro whole
    obtain ⟨statements, read, found⟩ := Option.bind_eq_some_iff.mp whole
    split at read
    · rename_i statements stop
      split at read
      · rename_i settled
        cases read
        exact ⟨stop, ⟨statements, rfl, found⟩, beq_iff_eq.mp settled⟩
      · cases read
    · cases read
  · rintro ⟨stop, ⟨statements, rfl, found⟩, settled⟩
    simp [settled, found]

/-- A body that can stand in an arrow function as well: that of a source which is written as a
function or an arrow function with braces, whatever the body is, and in a source of any other form,
such as a method, a body that returns plain values. -/
inductive HasMovableBody (source : String) (parts : FunctionParts) : Prop
  | written (expression : ofExpression? source = some parts)
    (text : IsWritten parts (Text.trim source.toList)) : HasMovableBody source parts
  | plain (body : IsPlainBody parts.body.toList) : HasMovableBody source parts

section Whole

variable {d : Nat} {text : List Char}

theorem opening_program : (origin.before ('(' :: text)).next = Token.ofMark "(" text :=
  nextToken_opening .nil

theorem behind_opening : (origin.before ('(' :: text)).after = origin.before text :=
  Cursor.after_of_next opening_program

theorem length_toArrow : parts.toArrow.length = parts.asyncPrefix.length +
    parts.parameters.toList.length + parts.body.toList.length + 8 := by
  have marks : "(".length = 1 ∧ ") => \x7b".length = 6 ∧ "\x7d".length = 1 := by decide
  simp only [toArrow, String.length_append, String.length_toList]
  omega

private theorem readsBody_of_movable (depth : nestingLimit = d + 5)
    (parameters : AreParameters parts.parameters.toList)
    (short : parts.toArrow.length < nestingLimit) (movable : HasMovableBody source parts) :
    ∃ middle stop, ReadsBody d parts middle ∧ Continues d .module middle stop ∧
      stop.initializers = 0 := by
  have steps : 0 < Mode.module.steps := by decide
  rw [length_toArrow] at short
  cases movable with
  | written expression written =>
    obtain ⟨stop, program, settled⟩ := ofExpression?_iff.mp expression
    rw [depth, takes_program_iff steps opening_program written.outside, behind_opening] at program
    obtain ⟨inner, middle, taken, found, continues⟩ := program
    have body := readsBody_of_written parameters (by omega) written taken found continues.closing
    exact ⟨middle, stop, body, continues, settled⟩
  | plain body =>
    have enough : parts.body.toList.length < (inBody parts.async).steps :=
      Nat.lt_of_le_of_lt (by omega) short
    obtain ⟨statements, inside⟩ := takes_plainBody body .nil enough
    exact ⟨origin.before [')'], origin.before [],
      ⟨[], false, _, statements, .nil, inside, bodyText_braced parts.body⟩,
      continues_end (by decide), rfl⟩

private theorem boundName_of_checked {name : List Char}
    (checked : (name.head?.any isNameStart && name.all isNamePart &&
      !(reservedWords ++ ["await", "yield"]).contains (String.ofList name)) = true) :
    IsBoundName name := by
  simp only [List.contains_eq_mem, Bool.and_eq_true, Bool.not_eq_true', decide_eq_false_iff_not,
    List.mem_append, not_or, List.all_eq_true] at checked
  exact ⟨⟨checked.1.1, checked.1.2, checked.2.1⟩, checked.2.2⟩

end Whole

end FunctionParts
end PanelCompiler.Script
