import PanelCompiler.Proofs.Script.ArrowGuess
import PanelCompiler.Proofs.Script.Levels

namespace PanelCompiler.Script.Parser

variable {mode : Mode} {start middle stop list place : Cursor} {g : Grammar} {tree : Tree}
  {rest behind : List Char} {broken later async : Bool} {text : String} {shape : FunctionShape}
  {parameters : List Tree}

/-- A body is read from its brace on, whatever stands before that. -/
theorem takes_functionBody_congr {value : String × List Tree}
    (opening : start.next = Token.ofMark "\x7b" rest broken)
    (again : middle.next = Token.ofMark "\x7b" rest later) (same : start.after = middle.after)
    (taken : Takes (functionBody g) mode start value stop) :
    Takes (functionBody g) mode middle value stop := by
  have brace := Token.isMark_of_eq opening
  have taken := (taken.drop takes_peek).drop (takes_expect brace)
  rw [same, opening] at taken
  refine .bind takes_peek (.bind (takes_expect (Token.isMark_of_eq again)) ?_)
  rw [again]
  exact taken

section Function

/-- The name of a function, or nothing in front of its parameters. -/
inductive Named (mode : Mode) (start : Cursor) : String → Cursor → Prop
  | anonymous (opening : start.next.kind = .mark) : Named mode start "" start
  | named (word : start.next.kind = .word)
    (allowed : Mode.allowsName mode start.next.text = true) :
    Named mode start start.next.text start.after

private theorem Named.takes {name : String} (named : Named mode start name list) :
    Takes optionalName mode start name list := by
  cases named with
  | anonymous opening =>
    refine .bind takes_peek (.bind takes_isNameToken ?_)
    rw [opening]
    exact .pure ""
  | named word allowed =>
    refine .bind takes_peek (.bind takes_isNameToken ?_)
    rw [if_pos (by simp [word, allowed])]
    exact takes_nameToken word allowed

def functionTree (async : Bool) (name text body : String) (parameters statements : List Tree) :
    Tree :=
  .function
    { async := async, generator := false, name := name, typeParameters := "", returnType := "",
      parameters := text, body := body, expression := false, complete := true }
    parameters statements

/-- What is read of a function expression before its body. -/
structure FunctionLead (g : Grammar) (mode : Mode) (async : Bool) (start : Cursor) (name : String)
    (text : String) (parameters : List Tree) (place : Cursor) (rest : List Char) : Prop where
  keyword : Token.isWord start.next "function" = true
  single : Token.isMark start.after.next "*" = false
  reads : ∃ list behind broken later,
    Named (Mode.inFunction mode async false) start.after name list ∧
    list.next = Token.ofMark "(" behind broken ∧
    Takes (formalParameters g .function) (Mode.inFunction mode async false) list
      (text, parameters) place ∧
    place.next = Token.ofMark "\x7b" rest later

theorem takes_functionExpression_iff {name : String}
    (lead : FunctionLead g mode async start name text parameters place rest) :
    Takes (functionExpression g async) mode start tree stop ↔
      ∃ body statements, Takes (functionBody g) (Mode.inFunction mode async false) place
        (body, statements) stop ∧
        tree = functionTree async name text body parameters statements := by
  obtain ⟨keyword, single, list, behind, broken, later, named, opening, read, brace⟩ := lead
  have generic : Takes (typeParametersText g) (Mode.inFunction mode async false) list "" list := by
    refine .bind takes_atMark ?_
    rw [opening]
    exact .pure ""
  have untyped : Takes (returnAscription g) (Mode.inFunction mode async false) place "" place :=
    .bind (takes_accept_miss (by rw [brace]; rfl)) (.pure "")
  unfold functionExpression
  rw [(takes_expectWord keyword).bind_iff, (takes_accept_miss single).bind_iff,
    (takes_under named.takes).bind_iff]
  unfold functionRest under
  change Takes (typeParametersText g >>= fun _ => _) (Mode.inFunction mode async false) list tree
    stop ↔ _
  rw [generic.bind_iff, read.bind_iff, untyped.bind_iff, takes_atMark.bind_iff,
    Token.isMark_of_eq brace]
  simp only [takes_bind_iff, takes_pure_iff, if_true]
  constructor
  · rintro ⟨⟨body, statements⟩, middle, inside, rfl, rfl⟩
    exact ⟨body, statements, inside, rfl⟩
  · rintro ⟨body, statements, inside, rfl⟩
    exact ⟨(body, statements), stop, inside, rfl, rfl⟩

end Function

section Arrow

def arrowTree (async : Bool) (text body : String) (parameters statements : List Tree) : Tree :=
  .arrow { arrowShape async "" text "" with body := body, complete := true } parameters statements

/-- The place of the parameters of an arrow function: behind the keyword and on its line, if there
is one. -/
inductive Leads (start : Cursor) : Bool → Cursor → Prop
  | plain : Leads start false start
  | async (keyword : Token.isWord start.next "async" = true)
    (line : start.after.next.afterBreak = false) : Leads start true start.after

theorem takes_arrowMark (arrow : start.next = Token.ofMark "=>" rest) :
    Takes arrowMark mode start () start.after := by
  refine .bind takes_peek ?_
  rw [arrow]
  exact .bind (takes_require rfl) (takes_expect (Token.isMark_of_eq arrow))

theorem takes_arrowHead (leads : Leads start async list)
    (opening : list.next = Token.ofMark "(" rest broken)
    (read : Takes (formalParameters g .function) (Mode.inArrowHead mode async) list
      (text, parameters) stop)
    (arrow : stop.next = Token.ofMark "=>" behind) (bound : tellsThis parameters = false) :
    Takes (arrowHead g async) mode start (arrowShape async "" text "", parameters) stop.after := by
  have generic : Takes (typeParametersText g) (Mode.inArrowHead mode async) list "" list := by
    refine .bind takes_atMark ?_
    rw [opening]
    exact .pure ""
  have untyped : Takes (returnAscription g) (Mode.inArrowHead mode async) stop "" stop :=
    .bind (takes_accept_miss (by rw [arrow]; rfl)) (.pure "")
  have unsaid : Takes (require !(tellsThis parameters)) (Mode.inArrowHead mode async) stop.after ()
      stop.after :=
    takes_require (by rw [bound]; rfl)
  refine takes_under ?_
  cases leads
  case' async keyword _ => refine Takes.bind (takes_expectWord keyword) ?_
  all_goals
    exact .bind generic (.bind read (.bind untyped (.bind (takes_arrowMark arrow)
      (.bind unsaid (.pure _)))))

theorem takes_arrowBody_iff {inBranch : Bool}
    (opening : start.next = Token.ofMark "\x7b" rest broken) :
    Takes (arrowBody g (arrowShape async "" text "") parameters inBranch) mode start tree stop ↔
      ∃ body statements, Takes (functionBody g) { mode with await := async, yield := false } start
        (body, statements) stop ∧ tree = arrowTree async text body parameters statements := by
  unfold arrowBody under
  change Takes (atMark "\x7b" >>= fun _ => _) { mode with await := async, yield := false } start
    tree stop ↔ _
  rw [takes_atMark.bind_iff, Token.isMark_of_eq opening]
  simp only [takes_bind_iff, takes_pure_iff, if_true]
  constructor
  · rintro ⟨⟨body, statements⟩, middle, inside, rfl, rfl⟩
    exact ⟨body, statements, inside, rfl⟩
  · rintro ⟨body, statements, inside, rfl⟩
    exact ⟨(body, statements), stop, inside, rfl, rfl⟩

theorem takes_guessArrow {guess : ArrowGuess} (leads : Leads start async list)
    (opening : list.next = Token.ofMark "(" rest broken)
    (guessed : Takes guessBehindParenthesis mode list.after guess list.after) :
    Takes (guessArrow async) mode start guess start := by
  have behindKeyword : Takes (do
      if ← atMark "<" then return if ← atGenericArrow then .certain else .absent
      if ← accept "(" then guessBehindParenthesis else return .absent)
      mode list guess list.after := by
    refine .bind takes_atMark ?_
    rw [opening]
    exact .bind (takes_accept_hit (Token.isMark_of_eq opening)) guessed
  cases leads with
  | plain => exact takes_lookahead behindKeyword rfl
  | async _ line =>
    refine takes_lookahead (.bind takes_advance (.bind takes_peek ?_))
      (?_ : start.after.after.arrowless = _)
    · rw [line]
      exact behindKeyword
    · rfl

/-- An arrow function without a branch around it, if its head can be read. -/
def triedArrow (g : Grammar) (async : Bool) : Parser (Option Tree) := do
  match ← optional? (arrowHead g async) with
  | none =>
    learnArrowless
    return none
  | some (shape, parameters) =>
    let arrow ← arrowBody g shape parameters false
    if false && !shape.returnType.isEmpty && !(← atMark ":") then return none
    return some arrow

section Guessed

variable {result : Option Tree}
  (head : Takes (arrowHead g async) mode start (shape, parameters) middle)
include head

private theorem takes_triedArrow_iff :
    Takes (triedArrow g async) mode start result stop ↔ ∃ tree, result = some tree ∧
      Takes (arrowBody g shape parameters false) mode middle tree stop := by
  unfold triedArrow
  rw [(takes_optional head).bind_iff]
  simp only [takes_bind_iff, takes_atMark_iff, Bool.false_and, Bool.false_eq_true, if_false,
    takes_pure_iff, and_assoc, exists_and_left, exists_eq_left]
  constructor
  · rintro ⟨tree, _, body, rfl, rfl⟩
    exact ⟨tree, rfl, body⟩
  · rintro ⟨tree, rfl, body⟩
    exact ⟨tree, stop, body, rfl, rfl⟩

private theorem takes_possibleArrow_iff (unlearned : start.arrowless = []) :
    Takes (possibleArrow? g async false) mode start result stop ↔ ∃ tree, result = some tree ∧
      Takes (arrowBody g shape parameters false) mode middle tree stop := by
  have unknown : Takes isArrowless mode start false start := by
    unfold Takes isArrowless
    rw [unlearned]
    rfl
  unfold possibleArrow?
  rw [unknown.bind_iff]
  constructor
  · intro taken
    obtain ⟨later, taken, kept⟩ := of_takes_unlessRefused taken
    obtain ⟨tree, rfl, body⟩ := (takes_triedArrow_iff head).mp taken
    obtain rfl := kept (Option.some_ne_none tree)
    exact ⟨tree, rfl, body⟩
  · rintro ⟨tree, rfl, body⟩
    exact takes_unlessRefused ((takes_triedArrow_iff head).mpr ⟨tree, rfl, body⟩)

/-- An arrow function is what its head and its body are, however sure the parser is of it in
advance. -/
theorem takes_arrow_iff {guess : ArrowGuess} (unlearned : start.arrowless = [])
    (leads : Leads start async list)
    (opening : list.next = Token.ofMark "(" rest broken)
    (guessed : Takes guessBehindParenthesis mode list.after guess list.after)
    (likely : guess ≠ .absent) (unmarked : Token.isMark list.after.next "=>" = false) :
    Takes (arrow? g false) mode start result stop ↔
      ∃ tree, result = some tree ∧
        Takes (arrowBody g shape parameters false) mode middle tree stop := by
  have decided := takes_guessArrow leads opening guessed
  unfold arrow?
  rw [takes_peek.bind_iff]
  cases leads
  case' plain =>
    have second : Token.isMark (Token.following start.next) "=>" = false := unmarked
    have wordless : Token.isWord start.next "async" = false := by
      rw [opening]
      rfl
    rw [if_neg (by simp [second])]
    dsimp only
    rw [wordless]
  case' async keyword line =>
    have second : Token.following start.next = Token.ofMark "(" rest broken := opening
    dsimp only
    rw [second, keyword]
  all_goals
    change Takes (guessArrow _ >>= fun _ => _) mode start result stop ↔ _
    rw [decided.bind_iff]
    cases guess with
    | absent => exact absurd rfl likely
    | possible => exact takes_possibleArrow_iff head unlearned
    | certain =>
      change Takes (arrowHead g _ >>= fun _ => _) mode start result stop ↔ _
      rw [head.bind_iff]
      simp only [takes_bind_iff, takes_pure_iff]
      constructor
      · rintro ⟨tree, _, body, rfl, rfl⟩
        exact ⟨tree, rfl, body⟩
      · rintro ⟨tree, rfl, body⟩
        exact ⟨tree, stop, body, rfl, rfl⟩

end Guessed

theorem takes_assignment_arrow_iff (unyielding : Token.isWord start.next "yield" = false)
    (arrow : ∀ result stop, Takes (arrow? g false) mode start result stop ↔
      ∃ tree, result = some tree ∧
        Takes (arrowBody g shape parameters false) mode middle tree stop) :
    Takes (assignment g) mode start tree stop ↔
      Takes (arrowBody g shape parameters false) mode middle tree stop := by
  have plain : Takes atYield mode start false start := by
    refine .bind takes_peek ?_
    rw [unyielding]
    exact .pure false
  constructor
  · intro taken
    obtain ⟨found, _, one, rest⟩ := (taken.drop plain).of_bind
    obtain ⟨value, rfl, body⟩ := (arrow _ _).mp one
    obtain ⟨rfl, rfl⟩ := takes_pure_iff.mp rest
    exact body
  · intro body
    exact .bind plain (.bind ((arrow _ _).mpr ⟨tree, rfl, body⟩) (.pure tree))

section Bare

variable (word : start.next.kind = .word)
  (arrow : start.after.next = Token.ofMark "=>" behind)
include word arrow

theorem takes_bareArrow_iff (allowed : Mode.allowsName (Mode.inArrowHead mode async)
    start.next.text = true) :
    Takes (bareArrow g async false) mode start tree stop ↔
      Takes (arrowBody g (arrowShape async "" start.next.text "") [.name start.next.text] false)
        mode start.after.after tree stop := by
  unfold bareArrow
  rw [(takes_under (takes_nameToken word allowed)).bind_iff, (takes_arrowMark arrow).bind_iff]

theorem takes_arrow_bare_iff {result : Option Tree}
    (allowed : Mode.allowsName mode start.next.text = true) :
    Takes (arrow? g false) mode start result stop ↔
      ∃ tree, result = some tree ∧ Takes (bareArrow g false false) mode start tree stop := by
  have second : Token.following start.next = Token.ofMark "=>" behind := arrow
  have marked : (Token.isMark (Token.ofMark "=>" behind) "=>" &&
      !(Token.ofMark "=>" behind).afterBreak) = true := rfl
  unfold arrow?
  rw [takes_peek.bind_iff, second, if_pos marked, takes_isNameToken.bind_iff,
    if_pos (by simp [word, allowed])]
  simp only [takes_bind_iff, takes_pure_iff]
  constructor
  · rintro ⟨tree, _, bare, rfl, rfl⟩
    exact ⟨tree, rfl, bare⟩
  · rintro ⟨tree, rfl, bare⟩
    exact ⟨tree, stop, bare, rfl, rfl⟩

end Bare

theorem takes_arrow_bare_async_iff {result : Option Tree}
    (keyword : Token.isWord start.next "async" = true) (word : start.after.next.kind = .word)
    (line : start.after.next.afterBreak = false)
    (arrow : start.after.after.next = Token.ofMark "=>" behind) :
    Takes (arrow? g false) mode start result stop ↔
      ∃ tree, result = some tree ∧ Takes (bareArrow g true false) mode start.after tree stop := by
  have marked : ¬ (!Token.isMark (Token.ofMark "=>" behind) "=>" ||
      (Token.ofMark "=>" behind).afterBreak) = true := nofun
  have unmarked : ¬ (Token.isMark (Token.following start.next) "=>" &&
      !(Token.following start.next).afterBreak) = true := by
    have second : Token.following start.next = start.after.next := rfl
    simp [second, Token.isMark, word]
  have onLine : (Token.isWord start.next "async" && (Token.following start.next).kind == .word &&
      !(Token.following start.next).afterBreak) = true := by
    have second : Token.following start.next = start.after.next := rfl
    simp [second, keyword, word, line]
  have third : Token.following (Token.following start.next) = Token.ofMark "=>" behind := arrow
  unfold arrow?
  rw [takes_peek.bind_iff, if_neg unmarked, if_pos onLine, third, if_neg marked,
    takes_advance.bind_iff]
  simp only [takes_bind_iff, takes_pure_iff]
  constructor
  · rintro ⟨tree, _, bare, rfl, rfl⟩
    exact ⟨tree, rfl, bare⟩
  · rintro ⟨tree, rfl, bare⟩
    exact ⟨tree, stop, bare, rfl, rfl⟩

end Arrow

section Enclosed

/-- Where a function begins in parentheses, no arrow function begins with these. -/
theorem takes_arrow_enclosed (opening : start.next = Token.ofMark "(" rest broken)
    (unmarked : Token.isMark start.after.next "=>" = false)
    (absent : Takes guessBehindParenthesis mode start.after .absent start.after) :
    Takes (arrow? g false) mode start none start := by
  have second : Token.isMark (Token.following start.next) "=>" = false := unmarked
  have wordless : Token.isWord start.next "async" = false := by
    rw [opening]
    rfl
  refine .bind takes_peek ?_
  rw [if_neg (by simp [second])]
  dsimp only
  rw [wordless]
  exact .bind (takes_guessArrow .plain opening absent) (.pure none)

theorem takes_guess_parenthesis (opening : start.next = Token.ofMark "(" rest broken) :
    Takes guessBehindParenthesis mode start .absent start := by
  refine .bind takes_peek ?_
  rw [opening]
  exact .bind takes_isNameToken (.bind takes_isNameToken (.pure _))

/-- A keyword or a name does not begin parameters where a word, a parenthesis or an arrow stands
behind it. -/
theorem takes_guess_word (word : start.next.kind = .word)
    (keyword : Token.isModifierWord start.next = true → start.next.text = "async" ∨
      start.after.next.kind = .mark)
    (behind : start.after.next.kind = .word ∨ Token.isMark start.after.next "(" = true ∨
      Token.isMark start.after.next "=>" = true) :
    Takes guessBehindParenthesis mode start .absent start := by
  have second : Token.following start.next = start.after.next := rfl
  have unmarked := Token.isMark_eq_false (show start.next.kind ≠ .mark by simp [word])
  have absent : guessBehindName start.after.next = .absent := by
    unfold guessBehindName
    rcases behind with word | mark | mark
    · simp [word]
    all_goals
      obtain ⟨kind, text⟩ := Token.isMark_iff.mp mark
      simp [kind, text]
  refine .bind takes_peek ?_
  rw [if_neg (by simp [unmarked]), if_neg (by simp [unmarked]), if_neg (by simp [unmarked]), second,
    absent]
  refine .bind takes_isNameToken ?_
  rw [if_neg ?named]
  case named =>
    simp only [Bool.and_eq_true, beq_iff_eq, bne_iff_ne, ne_eq]
    rintro ⟨⟨modifier, apart⟩, named, -⟩
    rcases keyword modifier with async | mark
    · exact apart async
    · rw [mark] at named
      cases named
  refine .bind takes_isNameToken ?_
  split <;> exact .pure _

end Enclosed

end PanelCompiler.Script.Parser
