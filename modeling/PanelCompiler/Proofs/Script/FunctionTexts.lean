import PanelCompiler.Proofs.Script.FunctionForms
import PanelCompiler.Proofs.Script.ParameterList

namespace PanelCompiler.Script

open Lexer (nextToken)

def asyncWord : List Char :=
  ['a', 's', 'y', 'n', 'c']

def functionWord : List Char :=
  ['f', 'u', 'n', 'c', 't', 'i', 'o', 'n']

/-- The keyword of an asynchronous function, on the line of what follows it. Blanks or a comment
have to stand between it and a word. -/
inductive IsKeyword (spaced : Bool) : Bool → List Char → Prop
  | none : IsKeyword spaced false []
  | async {gap : List Char} (line : IsTrivia gap false) (apart : spaced = true → gap ≠ []) :
    IsKeyword spaced true (asyncWord ++ gap)

/-- The name of a function between its keyword and its parameters, or none. -/
inductive IsFunctionName : List Char → Prop
  | none {gap : List Char} {broken : Bool} (trivia : IsTrivia gap broken) : IsFunctionName gap
  | some {gap name later : List Char} {broken brokenLater : Bool} (trivia : IsTrivia gap broken)
    (apart : gap ≠ []) (bound : IsBoundName name) (behind : IsTrivia later brokenLater) :
    IsFunctionName (gap ++ (name ++ later))

section FirstTokens

variable {gap rest : List Char} {broken : Bool}

theorem IsTrivia.endsWord (trivia : IsTrivia gap broken) (apart : gap ≠ []) :
    EndsWord (gap ++ rest) := by
  have ends : EndsToken (gap ++ []) := trivia.endsToken nofun
  obtain ⟨c, gap, rfl⟩ := List.exists_cons_of_ne_nil apart
  exact fun d first => ends.word d (by simpa using first)

theorem endsWord_opening (trivia : IsTrivia gap broken) : EndsWord (gap ++ '(' :: rest) :=
  (trivia.endsToken (endsToken_cons (by decide))).word

theorem nextToken_async (ends : EndsWord rest) :
    nextToken (asyncWord ++ rest) = Token.ofWord asyncWord rest := by
  have start : asyncWord.head?.any isNameStart = true := by decide
  have parts : ∀ c ∈ asyncWord, isNamePart c = true := List.all_eq_true.mp (by decide)
  exact nextToken_word .nil start parts ends

theorem nextToken_function (trivia : IsTrivia gap broken) (ends : EndsWord rest) :
    nextToken (gap ++ (functionWord ++ rest)) =
      Token.ofWord functionWord rest broken :=
  nextToken_word trivia (by decide) (List.all_eq_true.mp (by decide)) ends

theorem nextToken_arrow (trivia : IsTrivia gap broken) :
    nextToken (gap ++ '=' :: '>' :: rest) = Token.ofMark "=>" rest broken :=
  nextToken_mark trivia (by decide) rfl

theorem IsFunctionName.endsWord {between : List Char} (named : IsFunctionName between) :
    EndsWord (between ++ '(' :: rest) := by
  cases named with
  | none between => exact endsWord_opening between
  | some between apart =>
    rw [List.append_assoc]
    exact between.endsWord apart

theorem IsFunctionName.opens {between : List Char} (named : IsFunctionName between) :
    (∃ broken, nextToken (between ++ '(' :: rest) = Token.ofMark "(" rest broken) ∨
      ∃ name behind broken,
        nextToken (between ++ '(' :: rest) = Token.ofWord name behind broken := by
  cases named with
  | none between => exact .inl ⟨_, nextToken_opening between⟩
  | @some between name later _ _ trivia apart bound behind =>
    have ends : EndsToken (later ++ '(' :: rest) :=
      behind.endsToken (endsToken_cons (by decide))
    rw [List.append_assoc, List.append_assoc]
    exact .inr ⟨_, _, _, nextToken_boundName bound trivia ends⟩

theorem IsFunctionName.unmarked {between : List Char} (named : IsFunctionName between) :
    Parser.Token.isMark (nextToken (between ++ '(' :: rest)) "=>" = false := by
  rcases named.opens with ⟨_, mark⟩ | ⟨_, _, _, word⟩
  · rw [mark]
    rfl
  · rw [word]
    rfl

theorem endsToken_arrow (trivia : IsTrivia gap broken) : EndsToken (gap ++ '=' :: '>' :: rest) :=
  trivia.endsToken (endsToken_cons (by decide))

end FirstTokens

namespace Parser

variable {mode : Mode} {start middle stop : Cursor} {g h k : Grammar} {tree : Tree}
  {rest : List Char} {broken async : Bool}

section Keywords

variable {word function : List Char}

theorem beginsOperand_word (apart : String.ofList word ∉ prefixWords ++ ["await", "yield"]) :
    Token.BeginsOperand (Token.ofWord word rest broken) := by
  have exposed : (Token.ofWord word rest broken).kind ≠ .privateName := nofun
  simp only [prefixWords, List.mem_append, List.mem_cons, List.not_mem_nil, or_false, not_or]
    at apart
  exact ⟨by simp [Token.isMark, Token.ofWord], by simp [Token.isWord, Token.ofWord, prefixWords,
    apart], exposed⟩

private theorem takes_primary_function_iff
    (keyword : start.next = Token.ofWord functionWord rest broken) :
    Takes (primary g) mode start tree stop ↔
      Takes (functionExpression g false) mode start tree stop := by
  unfold primary
  rw [takes_peek.bind_iff, keyword]
  exact (takes_require rfl).bind_iff

private theorem takes_primary_async_iff {behind : List Char}
    (keyword : start.next = Token.ofWord asyncWord rest broken)
    (function : start.after.next = Token.ofWord functionWord behind) :
    Takes (primary g) mode start tree stop ↔
      Takes (functionExpression g true) mode start.after tree stop := by
  have second : Token.following (Token.ofWord asyncWord rest broken) =
      Token.ofWord functionWord behind := by
    rw [← function, ← keyword]
    rfl
  unfold primary
  rw [takes_peek.bind_iff, keyword]
  refine (takes_require rfl).bind_iff.trans ?_
  have word : Takes (wordExpression g (Token.ofWord asyncWord rest broken)) mode start tree
      stop ↔ Takes (do
        let _ ← advance
        functionExpression g true) mode start tree stop := by
    unfold wordExpression
    rw [second]
    rfl
  exact word.trans takes_advance.bind_iff

private theorem takes_arrow_asyncFunction {behind : List Char}
    (keyword : start.next = Token.ofWord asyncWord rest broken)
    (function : start.after.next = Token.ofWord functionWord behind)
    (other : Token.isMark start.after.after.next "=>" = false) :
    Takes (arrow? g false) mode start none start := by
  have second : Token.following (Token.ofWord asyncWord rest broken) =
      Token.ofWord functionWord behind := by
    rw [← function, ← keyword]
    rfl
  have third : Token.isMark (Token.following (Token.ofWord functionWord behind)) "=>" =
      false := by
    rw [← function]
    exact other
  refine .bind takes_peek ?_
  rw [keyword, second]
  change Takes (if (!Token.isMark (Token.following (Token.ofWord functionWord behind)) "=>" ||
    _) = true then _ else _) mode start none start
  rw [third]
  exact .pure none

section Bodies

variable {name source : String} {trees : List Tree} {place : Cursor} {brace behind : List Char}
  (closed : tree.isClosed = true) (closing : Token.isMark middle.next ")" = true)
  (taken : Takes (assignment g) mode start tree middle)
include closed closing taken

/-- A function expression in front of a parenthesis is read up to its body, and its body is the rest
of it. -/
theorem of_takes_function (keyword : start.next = Token.ofWord functionWord behind broken)
    (other : Token.isMark start.after.next "=>" = false)
    (lead : FunctionLead g mode false start name source trees place brace) :
    ∃ body statements, Takes (functionBody g) (Mode.inFunction mode false false) place
      (body, statements) middle ∧ tree = functionTree false name source body trees statements := by
  have operand : Token.BeginsOperand start.next := by
    rw [keyword]
    exact beginsOperand_word (by decide)
  have absent : Takes (arrow? g false) mode start none start :=
    takes_arrow_absent (by rw [keyword]; exact fun _ _ => rfl) (by rw [keyword]; rfl) other
  obtain ⟨last, primary, linkless, -⟩ := of_takes_assignment operand closed absent taken
  obtain rfl := linkless.eq_of_closing (by decide) closing
  exact (takes_functionExpression_iff lead).mp ((takes_primary_function_iff keyword).mp primary)

private theorem of_takes_asyncFunction {others : List Char}
    (keyword : start.next = Token.ofWord asyncWord others broken)
    (function : start.after.next = Token.ofWord functionWord behind)
    (other : Token.isMark start.after.after.next "=>" = false)
    (lead : FunctionLead g mode true start.after name source trees place brace) :
    ∃ body statements, Takes (functionBody g) (Mode.inFunction mode true false) place
      (body, statements) middle ∧ tree = functionTree true name source body trees statements := by
  have operand : Token.BeginsOperand start.next := by
    rw [keyword]
    exact beginsOperand_word (by decide)
  have absent : Takes (arrow? g false) mode start none start :=
    takes_arrow_asyncFunction keyword function other
  obtain ⟨last, primary, linkless, -⟩ := of_takes_assignment operand closed absent taken
  obtain rfl := linkless.eq_of_closing (by decide) closing
  exact (takes_functionExpression_iff lead).mp
    ((takes_primary_async_iff keyword function).mp primary)

end Bodies

end Keywords

/-- The surroundings of the parameters and of the body of a function in a module. -/
def inBody (async : Bool) : Mode :=
  Mode.inFunction .module async false

section Forms

variable {list front back gap : List Char} {brokenFront brokenBack : Bool}

def listText (front list back rest : List Char) : List Char :=
  '(' :: (front ++ (list ++ (back ++ ')' :: rest)))

def listSource (front list back : List Char) : String :=
  String.ofList (listText front list back [])

variable {d : Nat} (parameters : AreParameters list) (enough : list.length + 1 < nestingLimit)
  (before : IsTrivia front brokenFront) (after : IsTrivia back brokenBack)
include parameters enough before after

theorem takes_list (async : Bool) (start : Cursor) {between : List Char} {broken : Bool}
    (trivia : IsTrivia between broken) (rest : List Char) :
    ∃ trees, tellsThis trees = false ∧
      Takes (formalParameters (Grammar.ofDepth (d + 2)) .function) (inBody async)
        (start.before (between ++ listText front list back rest))
        (listSource front list back, trees) (start.before rest) :=
  takes_formalParameters rfl rfl rfl parameters enough start trivia before after rest

private theorem functionLead (async : Bool) {between : List Char} {broken later : Bool}
    (named : IsFunctionName between) (trivia : IsTrivia gap later)
    (keyword : start.next = Token.ofWord functionWord
      (between ++ listText front list back (gap ++ '\x7b' :: rest)) broken) :
    ∃ name trees, FunctionLead (Grammar.ofDepth (d + 2)) .module async start name
      (listSource front list back) trees (start.before (gap ++ '\x7b' :: rest)) rest := by
  have behind : start.after =
      start.before (between ++ listText front list back (gap ++ '\x7b' :: rest)) :=
    Cursor.after_of_next keyword
  have word : Token.isWord start.next "function" = true := by
    rw [keyword]
    rfl
  have brace : (start.before (gap ++ '\x7b' :: rest)).next = Token.ofMark "\x7b" rest later :=
    nextToken_brace trivia
  cases named with
  | none between =>
    obtain ⟨trees, -, taken⟩ := takes_list parameters enough before after async
      start between (gap ++ '\x7b' :: rest)
    rw [← behind] at taken
    have opening := (congrArg Cursor.next behind).trans (nextToken_opening between)
    exact ⟨"", trees, word, by rw [opening]; rfl, _, _, _, _,
      .anonymous (congrArg Token.kind opening), opening, taken, brace⟩
  | @some between name later _ _ gapped apart bound behindName =>
    obtain ⟨trees, -, taken⟩ := takes_list parameters enough before after async
      start behindName (gap ++ '\x7b' :: rest)
    rw [List.append_assoc, List.append_assoc] at behind
    have ends : EndsToken (later ++ listText front list back (gap ++ '\x7b' :: rest)) :=
      behindName.endsToken (endsToken_cons (by decide))
    have named : start.after.next =
        Token.ofWord name (later ++ listText front list back (gap ++ '\x7b' :: rest)) _ :=
      (congrArg Cursor.next behind).trans (nextToken_boundName bound gapped ends)
    have place : start.after.after =
        start.before (later ++ listText front list back (gap ++ '\x7b' :: rest)) := by
      rw [Cursor.after_of_next named, behind]
      rfl
    rw [← place] at taken
    have opening := (congrArg Cursor.next place).trans (nextToken_opening behindName)
    have allowed : Mode.allowsName (inBody async) start.after.next.text = true := by
      rw [named]
      exact bound.allowed
    exact ⟨_, trees, word, by rw [named]; rfl, _, _, _, _,
      .named (congrArg Token.kind named) allowed, opening, taken, brace⟩

theorem of_takes_functionText {lead between : List Char} {later : Bool}
    (keyword : IsKeyword true async lead) (named : IsFunctionName between)
    (trivia : IsTrivia gap later) (closed : tree.isClosed = true)
    (closing : Token.isMark middle.next ")" = true)
    (taken : Takes (assignment (Grammar.ofDepth (d + 2))) .module
      (start.before (lead ++ (functionWord ++ (between ++
        listText front list back (gap ++ '\x7b' :: rest))))) tree middle) :
    ∃ name trees body statements, Takes (functionBody (Grammar.ofDepth (d + 2))) (inBody async)
      (start.before (gap ++ '\x7b' :: rest)) (body, statements) middle ∧
      tree = functionTree async name (listSource front list back) body trees statements := by
  cases keyword with
  | none =>
    rw [List.nil_append] at taken
    have word : (start.before (functionWord ++ (between ++ listText front list back
        (gap ++ '\x7b' :: rest)))).next = Token.ofWord functionWord _ :=
      nextToken_function .nil named.endsWord
    obtain ⟨name, trees, lead⟩ := functionLead parameters enough before after
      false named trivia word
    refine ⟨name, trees, of_takes_function closed closing taken word ?_ lead⟩
    rw [Cursor.after_of_next word]
    exact named.unmarked
  | @async gap' line apart =>
    rw [List.append_assoc] at taken
    have word : (start.before (asyncWord ++ (gap' ++ (functionWord ++ (between ++ listText front
        list back (gap ++ '\x7b' :: rest)))))).next = Token.ofWord asyncWord _ :=
      nextToken_async (line.endsWord (apart rfl))
    have behind := Cursor.after_of_next word
    have function := (congrArg Cursor.next behind).trans (nextToken_function line named.endsWord)
    obtain ⟨name, trees, lead⟩ := functionLead parameters enough before after
      true named trivia function
    refine ⟨name, trees, of_takes_asyncFunction closed closing taken word function ?_ lead⟩
    rw [Cursor.after_of_next function]
    exact named.unmarked

/-- An arrow function whose parameters stand at a place is known by them, and the rest of it is its
body. -/
theorem takes_arrowList_iff {place : Cursor} {between : List Char}
    (unlearned : start.arrowless = []) (leads : Leads start async place)
    (other : Token.isWord start.next "yield" = false)
    (trivia : IsTrivia between broken) (line : IsTrivia gap false) (here : place =
      start.before (between ++ listText front list back (gap ++ '=' :: '>' :: rest))) :
    ∃ trees, ∀ tree middle, Takes (assignment (Grammar.ofDepth (d + 2))) .module start tree middle ↔
      Takes (arrowBody (Grammar.ofDepth (d + 2))
        (arrowShape async "" (listSource front list back) "") trees false) .module
        (start.before rest) tree middle := by
  obtain ⟨trees, bound, read⟩ := takes_list parameters enough before after async
    start trivia (gap ++ '=' :: '>' :: rest)
  rw [← here] at read
  have opening := (congrArg Cursor.next here).trans (nextToken_opening trivia)
  have arrow : (start.before (gap ++ '=' :: '>' :: rest)).next = Token.ofMark "=>" rest :=
    nextToken_arrow line
  have head : Takes (arrowHead (Grammar.ofDepth (d + 2)) async) .module start
      (arrowShape async "" (listSource front list back) "", trees)
      (start.before (gap ++ '=' :: '>' :: rest)).after :=
    takes_arrowHead leads opening read arrow bound
  rw [Cursor.after_of_next arrow] at head
  have inside : place.after.next =
      nextToken (front ++ (list ++ (back ++ ')' :: (gap ++ '=' :: '>' :: rest)))) := by
    rw [Cursor.after_of_next opening]
    rfl
  have first : BeginsItem place.after.next ∨
      ∃ broken, place.after.next = Token.ofMark ")" _ broken :=
    inside ▸ parameters.begins before after
  have unmarked : Token.isMark place.after.next "=>" = false := by
    rcases first with begins | ⟨_, closing⟩
    · exact begins.apart (by decide)
    · rw [closing]
      rfl
  have free : place.after.next.kind = .word → place.after.next.text ≠ "await" := by
    rcases first with begins | ⟨_, closing⟩
    · exact begins.ne_await
    · rw [closing]
      exact nofun
  have begins := (of_takes_formalParameters rfl read bound).imp_left
    fun ⟨closing, stop⟩ => And.intro closing (stop ▸ Token.isMark_of_eq arrow)
  have unyielding : Mode.module.yield = (Mode.bracketed (inBody async)).yield := rfl
  obtain ⟨guess, likely, guessed⟩ := takes_guessBehindParenthesis unyielding begins free
  refine ⟨trees, fun tree middle => ?_⟩
  exact takes_assignment_arrow_iff other fun result stop =>
    takes_arrow_iff head unlearned leads opening guessed likely unmarked

theorem takes_arrowText_iff {lead : List Char} (unlearned : start.arrowless = [])
    (keyword : IsKeyword false async lead) (line : IsTrivia gap false) : ∃ trees, ∀ tree middle,
      Takes (assignment (Grammar.ofDepth (d + 2))) .module
        (start.before (lead ++ listText front list back (gap ++ '=' :: '>' :: rest))) tree middle ↔
      Takes (arrowBody (Grammar.ofDepth (d + 2))
        (arrowShape async "" (listSource front list back) "") trees false) .module
        (start.before rest) tree middle := by
  cases keyword with
  | none =>
    have opening : (start.before (listText front list back (gap ++ '=' :: '>' :: rest))).next =
        Token.ofMark "(" (front ++ (list ++ (back ++ ')' :: (gap ++ '=' :: '>' :: rest)))) :=
      nextToken_opening .nil
    exact takes_arrowList_iff parameters enough before after unlearned .plain
      (by rw [List.nil_append, opening]; rfl) .nil line rfl
  | @async gap' keywordLine =>
    rw [List.append_assoc]
    have word : (start.before (asyncWord ++ (gap' ++ listText front list back
        (gap ++ '=' :: '>' :: rest)))).next = Token.ofWord asyncWord _ :=
      nextToken_async (endsWord_opening keywordLine)
    have behind := Cursor.after_of_next word
    have opening := (congrArg Cursor.next behind).trans (nextToken_opening keywordLine)
    exact takes_arrowList_iff parameters enough before after unlearned
      (.async (by rw [word]; rfl) (by rw [opening]; rfl)) (by rw [word]; rfl) keywordLine line
      behind

end Forms

section Bare

variable {name behind : List Char} {result : Option Tree} (bound : IsBoundName name)
  (word : start.next = Token.ofWord name behind)
  (arrow : start.after.next = Token.ofMark "=>" rest)
include bound word arrow

theorem takes_bareArrow_name_iff : Takes (bareArrow g async false) mode start tree stop ↔
    Takes (arrowBody g (arrowShape async "" (String.ofList name) "") [.name (String.ofList name)]
      false) mode start.after.after tree stop := by
  have allowed : Mode.allowsName (Mode.inArrowHead mode async) start.next.text = true := by
    rw [word]
    exact bound.allowed
  have bare : Takes (bareArrow g async false) mode start tree stop ↔ _ :=
    takes_bareArrow_iff (congrArg Token.kind word) arrow allowed
  rwa [word] at bare

private theorem takes_arrow_name_iff : Takes (arrow? g false) mode start result stop ↔
    ∃ tree, result = some tree ∧ Takes (arrowBody g (arrowShape false "" (String.ofList name) "")
      [.name (String.ofList name)] false) mode start.after.after tree stop := by
  have allowed : Mode.allowsName mode start.next.text = true := by
    rw [word]
    exact bound.allowed
  refine (takes_arrow_bare_iff (congrArg Token.kind word) arrow allowed).trans ?_
  exact exists_congr fun tree => and_congr_right fun _ => takes_bareArrow_name_iff bound word arrow

end Bare

theorem takes_bareText_iff {lead name gap : List Char} (keyword : IsKeyword true async lead)
    (bound : IsBoundName name) (line : IsTrivia gap false) : Takes (assignment g) .module
      (start.before (lead ++ (name ++ (gap ++ '=' :: '>' :: rest)))) tree middle ↔
    Takes (arrowBody g (arrowShape async "" (String.ofList name) "") [.name (String.ofList name)]
      false) .module (start.before rest) tree middle := by
  have other : String.ofList name ≠ "yield" := fun same => bound.apart (by simp [same])
  cases keyword with
  | none =>
    have word : (start.before (name ++ (gap ++ '=' :: '>' :: rest))).next = Token.ofWord name _ :=
      nextToken_boundName bound .nil (endsToken_arrow line)
    have arrow := (congrArg Cursor.next (Cursor.after_of_next word)).trans (nextToken_arrow line)
    have place : (start.before (name ++ (gap ++ '=' :: '>' :: rest))).after.after =
        start.before rest :=
      Cursor.after_of_next arrow
    have unyielding : Token.isWord (start.before (name ++ (gap ++ '=' :: '>' :: rest))).next
        "yield" = false := by
      simp [word, Token.isWord, Token.ofWord, other]
    rw [List.nil_append, ← place]
    exact takes_assignment_arrow_iff unyielding fun _ _ => takes_arrow_name_iff bound word arrow
  | @async gap' keywordLine apart =>
    have keyword : (start.before (asyncWord ++ (gap' ++ (name ++ (gap ++ '=' :: '>' ::
        rest))))).next = Token.ofWord asyncWord _ :=
      nextToken_async (keywordLine.endsWord (apart rfl))
    have word := (congrArg Cursor.next (Cursor.after_of_next keyword)).trans
      (nextToken_boundName bound keywordLine (endsToken_arrow line))
    have arrow := (congrArg Cursor.next (Cursor.after_of_next word)).trans (nextToken_arrow line)
    have place : (start.before (asyncWord ++ (gap' ++ (name ++ (gap ++ '=' :: '>' ::
        rest))))).after.after.after = start.before rest :=
      Cursor.after_of_next arrow
    have bare : ∀ result stop, Takes (arrow? g false) .module
        (start.before (asyncWord ++ (gap' ++ (name ++ (gap ++ '=' :: '>' :: rest))))) result stop ↔
        ∃ tree, result = some tree ∧ Takes (arrowBody g (arrowShape true "" (String.ofList name) "")
          [.name (String.ofList name)] false) .module (start.before rest) tree stop := by
      intro result stop
      refine (takes_arrow_bare_async_iff (by rw [keyword]; rfl) (congrArg Token.kind word)
        (congrArg Token.afterBreak word) arrow).trans ?_
      rw [← place]
      exact exists_congr fun tree => and_congr_right fun _ =>
        takes_bareArrow_name_iff bound word arrow
    rw [List.append_assoc]
    exact takes_assignment_arrow_iff (by rw [keyword]; rfl) bare

section Outside

variable {text behind : List Char}

theorem takes_arrow_outside (unmarked : Token.isMark (nextToken text) "=>" = false)
    (absent : Takes guessBehindParenthesis mode (start.before text) .absent (start.before text)) :
    Takes (arrow? g false) mode (start.before ('(' :: text)) none (start.before ('(' :: text)) := by
  have opening : (start.before ('(' :: text)).next = Token.ofMark "(" text := nextToken_opening .nil
  have inside : (start.before ('(' :: text)).after = start.before text :=
    Cursor.after_of_next opening
  rw [← inside] at absent
  exact takes_arrow_enclosed opening (by rw [inside]; exact unmarked) absent

theorem takes_arrow_outside_word {word : List Char}
    (first : nextToken text = Token.ofWord word behind)
    (keyword : modifierWords.contains (String.ofList word) = true → word = asyncWord ∨
      (nextToken behind).kind = .mark)
    (second : (nextToken behind).kind = .word ∨ Token.isMark (nextToken behind) "(" = true ∨
      Token.isMark (nextToken behind) "=>" = true) :
    Takes (arrow? g false) mode (start.before ('(' :: text)) none (start.before ('(' :: text)) := by
  have next : (start.before text).next = Token.ofWord word behind := first
  have after := Cursor.after_of_next next
  refine takes_arrow_outside (by rw [first]; rfl) (takes_guess_word (by rw [next]; rfl) ?_ ?_)
  · rw [next, after]
    intro modifier
    refine (keyword ?_).imp_left ?_
    · simpa [Token.isModifierWord, Token.ofWord] using modifier
    · rintro rfl
      rfl
  · rw [after]
    exact second

theorem takes_arrow_outside_list :
    Takes (arrow? g false) mode (start.before ('(' :: '(' :: text)) none
      (start.before ('(' :: '(' :: text)) := by
  have opening : nextToken ('(' :: text) = Token.ofMark "(" text := nextToken_opening .nil
  exact takes_arrow_outside (by rw [opening]; rfl) (takes_guess_parenthesis opening)

end Outside

end Parser
end PanelCompiler.Script
