import PanelCompiler.Proofs.Script.Takes
import PanelCompiler.Script.Program

/-!
Functions, objects and what stands in parentheses come through all levels of operators as they are:
the parser takes one of them as an expression just where it takes it as a primary one and nothing
goes on behind it.
-/

namespace PanelCompiler.Script

/-- A function, an object, or something in parentheses: no operator makes one. -/
def Tree.isClosed : Tree → Bool
  | .parenthesized _ => true
  | .function .. => true
  | .arrow .. => true
  | .object _ => true
  | _ => false

namespace Parser

variable {mode : Mode} {start middle stop : Cursor} {g : Grammar} {tree value : Tree}

/-- A token that begins an operand, and no operator in front of one. -/
structure Token.BeginsOperand (token : Token) : Prop where
  marks : ∀ mark ∈ prefixMarks ++ ["++", "--", "<"], Token.isMark token mark = false
  words : ∀ word ∈ prefixWords ++ ["await", "yield"], Token.isWord token word = false
  exposed : token.kind ≠ .privateName

/-- The operator that a token begins, and the source behind it. -/
def operatorOf? (mode : Mode) (token : Token) : Option (String × List Char) :=
  match token.kind with
  | .mark =>
    if token.text == ">" then
      some (angleOperator token.start, token.start.drop (angleOperator token.start).length)
    else some (token.text, token.rest)
  | .word =>
    if token.escaped then none
    else if token.text == "in" then
      if mode.inOperator then some (token.text, token.rest) else none
    else if token.text == "instanceof" then some (token.text, token.rest)
    else if (token.text == "as" || token.text == "satisfies") && !token.afterBreak then
      some (token.text, token.rest)
    else none
  | _ => none

theorem takes_operator : Takes operator? mode start (operatorOf? mode start.next) start := by
  refine .bind takes_peek ?_
  unfold operatorOf?
  cases start.next.kind
  case mark =>
    dsimp only
    split <;> exact .pure _
  case word =>
    dsimp only
    split
    · exact .pure _
    split
    · refine .bind takes_read ?_
      split <;> exact .pure _
    split
    · exact .pure _
    split <;> exact .pure _
  all_goals exact .pure _

section Chain

variable {α β : Type} {other : Tree} {calls : Bool}

/-- All values of a parser are of this kind. -/
def Gives (parser : Parser α) (Kind : α → Prop) : Prop :=
  ∀ mode start value stop, Takes parser mode start value stop → Kind value

namespace Gives

variable {parser : Parser α} {next : α → Parser β} {First : α → Prop} {Kind : β → Prop}

theorem seq (first : Gives parser First) (rest : ∀ value, First value → Gives (next value) Kind) :
    Gives (parser >>= next) Kind := by
  intro mode start value stop taken
  obtain ⟨found, middle, one, others⟩ := taken.of_bind
  exact rest found (first mode start found middle one) mode middle value stop others

theorem bind (rest : ∀ value, Gives (next value) Kind) : Gives (parser >>= next) Kind := by
  have any : Gives parser fun _ => True := fun _ _ _ _ _ => trivial
  exact any.seq fun value _ => rest value

theorem pure {value : α} (kind : First value) : Gives (pure value : Parser α) First := by
  intro mode start result stop taken
  rw [(takes_pure_iff.mp taken).1]
  exact kind

theorem ite {condition : Prop} [Decidable condition] {other : Parser α} (yes : Gives parser First)
    (no : Gives other First) : Gives (if condition then parser else other) First := by
  split
  · exact yes
  · exact no

end Gives

theorem Takes.kind {parser : Parser α} {found : α} (Kind : α → Prop)
    (taken : Takes parser mode start found stop) (gives : Gives parser Kind) : Kind found :=
  gives mode start found stop taken

/-- There is a link, and the tree with it is not closed. -/
def IsLink (link : Option Tree) : Prop :=
  ∃ tree, link = some tree ∧ tree.isClosed = false

theorem gives_optionalLink : Gives (optionalLink g value) fun tree => tree.isClosed = false :=
  .bind fun _ => .ite (.bind fun _ => .bind fun _ => .bind fun _ => .pure rfl)
    (.ite (.bind fun _ => .pure rfl) (.ite (.bind fun _ => .bind fun _ => .pure rfl)
      (.bind fun _ => .pure rfl)))

theorem gives_typedLink (types : String) : Gives (do
    let next ← peek
    if Token.isMark next "(" then
      let items ← arguments g
      return some (.call value false types items)
    else if next.kind == .template then
      let (quasi, _) ← templateParts g
      return some (.tagged value types quasi)
    else
      require !(Token.isMark next "." || Token.isMark next "?.")
      return some (.instantiated value types)) IsLink :=
  .bind fun _ => .ite (.bind fun _ => .pure ⟨_, rfl, rfl⟩)
    (.ite (.bind fun _ => .pure ⟨_, rfl, rfl⟩) (.bind fun _ => .pure ⟨_, rfl, rfl⟩))

/-- The first parser gives a link; or neither of the two gives one, and the next token stays. -/
def Passes (first second : Parser (Option Tree)) : Prop :=
  ∀ mode start link stop, Takes first mode start link stop → IsLink link ∨
    link = none ∧ stop.next = start.next ∧ Takes second mode start none stop

namespace Passes

variable {first second : Parser (Option Tree)}

theorem of_gives (links : Gives first IsLink) : Passes first second :=
  fun mode start link stop taken => .inl (links mode start link stop taken)

theorem none : Passes (pure none) (pure none) := by
  intro mode start link stop taken
  obtain ⟨rfl, rfl⟩ := takes_pure_iff.mp taken
  exact .inr ⟨rfl, rfl, taken⟩

theorem ite {condition : Prop} [Decidable condition] {third fourth : Parser (Option Tree)}
    (yes : Passes first second) (no : Passes third fourth) :
    Passes (if condition then first else third) (if condition then second else fourth) := by
  split
  · exact yes
  · exact no

private theorem peek {next after : Token → Parser (Option Tree)}
    (rest : ∀ token, Passes (next token) (after token)) :
    Passes (Parser.peek >>= next) (Parser.peek >>= after) := by
  intro mode start link stop taken
  refine (rest _ mode start link stop (taken.drop takes_peek)).imp_right ?_
  rintro ⟨same, stays, behind⟩
  exact ⟨same, stays, .bind takes_peek behind⟩

private theorem read {next after : Mode → Parser (Option Tree)}
    (rest : ∀ mode, Passes (next mode) (after mode)) :
    Passes (MonadReader.read >>= next) (MonadReader.read >>= after) := by
  intro mode start link stop taken
  refine (rest _ mode start link stop (taken.drop takes_read)).imp_right ?_
  rintro ⟨same, stays, behind⟩
  exact ⟨same, stays, .bind takes_read behind⟩

end Passes

private theorem next_of_takes_optional {parser : Parser α}
    (taken : Takes (optional? parser) mode start none stop) : stop.next = start.next := by
  unfold Takes optional? at taken
  split at taken <;> cases taken
  rfl

private theorem passes_typedLink : Passes (typedLink g value) (typedLink g other) := by
  intro mode start link stop taken
  obtain ⟨types, middle, tried, rest⟩ := taken.of_bind
  cases types with
  | some types => exact .inl (gives_typedLink types mode middle link stop rest)
  | none =>
    obtain ⟨rfl, rfl⟩ := takes_pure_iff.mp rest
    refine .inr ⟨rfl, ?_, .bind tried rest⟩
    have found := tried.drop takes_peek
    split at found
    · exact next_of_takes_optional found
    · rw [(takes_pure_iff.mp found).2]

/-- Whether a chain goes on does not depend on what it is a chain of. -/
theorem passes_chainLink : Passes (chainLink g calls value) (chainLink g calls other) := by
  refine .peek fun token =>
    .ite (Passes.of_gives (.bind fun _ => .bind fun _ => .pure ⟨_, rfl, rfl⟩)) (.ite .none ?_)
  split
  · exact Passes.of_gives (.bind fun _ => .bind fun _ => .pure ⟨_, rfl, rfl⟩)
  · exact .read fun _ => .ite .none
      (Passes.of_gives (.bind fun _ => .bind fun _ => .bind fun _ => .pure ⟨_, rfl, rfl⟩))
  · exact .ite .none (Passes.of_gives (.bind fun _ => .pure ⟨_, rfl, rfl⟩))
  · exact Passes.of_gives (.bind fun _ => .bind fun _ => .seq gives_optionalLink fun _ isOpen =>
      .pure ⟨_, rfl, isOpen⟩)
  · exact .ite .none (Passes.of_gives (.bind fun _ => .pure ⟨_, rfl, rfl⟩))
  · exact .ite passes_typedLink .none
  · exact .ite passes_typedLink .none
  · exact .none

end Chain

/-- No operator, condition or assignment goes on here. -/
structure Ends (mode : Mode) (stop : Cursor) : Prop where
  update : ((Token.isMark stop.next "++" || Token.isMark stop.next "--") &&
    !stop.next.afterBreak) = false
  power : Token.isMark stop.next "**" = false
  binary : ∀ level ∈ operatorLevels, ∀ operator ∈ operatorOf? mode stop.next, operator.1 ∉ level
  conditional : Token.isMark stop.next "?" = false
  assignment : ∀ operator ∈ operatorOf? mode stop.next, operator.1 ∉ assignmentOperators

/-- A chain goes on no further here, whatever it is a chain of. -/
def Linkless (g : Grammar) (mode : Mode) (start stop : Cursor) : Prop :=
  ∀ value, Takes (chainLink g true value) mode start none stop

theorem linkless_of_takes (taken : Takes (chainLink g true value) mode start none stop) :
    Linkless g mode start stop := by
  intro other
  rcases passes_chainLink mode start none stop taken with ⟨tree, same, -⟩ | ⟨-, -, again⟩
  · cases same
  · exact again

theorem Linkless.next (linkless : Linkless g mode start stop) : stop.next = start.next := by
  have same : Passes (chainLink g true .hole) (chainLink g true .hole) := passes_chainLink
  rcases same mode start none stop (linkless .hole) with
    ⟨tree, same, -⟩ | ⟨-, stays, -⟩
  · cases same
  · exact stays

section Levels

variable (steps : 0 < mode.steps) (operand : Token.BeginsOperand start.next)

section Unary

include operand

theorem takes_unary_iff : Takes (unary g) mode start tree stop ↔
    Takes (postfix? g) mode start tree stop := by
  have operators : ¬ (start.next.kind == .mark && prefixMarks.contains start.next.text ||
      start.next.kind == .word && !start.next.escaped &&
        prefixWords.contains start.next.text) = true := by
    simp only [Bool.or_eq_true, Bool.and_eq_true, beq_iff_eq, List.contains_eq_mem,
      decide_eq_true_eq, Bool.not_eq_true', not_or, not_and]
    constructor
    · intro mark member
      have none := operand.marks _ (List.mem_append_left _ member)
      simp [Token.isMark, mark] at none
    · rintro ⟨word, plain⟩ member
      have none := operand.words _ (List.mem_append_left _ member)
      simp [Token.isWord, word, plain] at none
  have awaits : Takes atAwait mode start false start := by
    refine .bind takes_peek ?_
    rw [operand.words "await" (by decide)]
    exact .pure false
  unfold unary
  rw [takes_peek.bind_iff, if_neg operators, operand.marks "++" (by decide),
    operand.marks "--" (by decide), operand.marks "<" (by decide)]
  exact awaits.bind_iff

theorem takes_privateOperand (level : List String) :
    Takes (privateOperand? level) mode start none start := by
  refine .bind takes_peek ?_
  rw [if_pos (by simp [operand.exposed])]
  exact .pure none

theorem takes_atYield : Takes atYield mode start false start := by
  refine .bind takes_peek ?_
  rw [operand.words "yield" (by decide)]
  exact .pure false

end Unary

section Upwards

include steps operand

private theorem takes_power (one : Takes (primary g) mode start tree middle)
    (linkless : Linkless g mode middle stop) (ends : Ends mode stop) :
    Takes (power g) mode start tree stop := by
  have done : Takes (atMark "**") mode stop false stop :=
    takes_atMark_iff.mpr ⟨ends.power.symm, rfl⟩
  have chain : Takes (leftHandSide g) mode start tree stop :=
    .bind one (.iterate_done (linkless tree) steps)
  have whole : Takes (postfix? g) mode start tree stop := by
    refine .bind chain (.bind takes_peek ?_)
    rw [if_neg (Bool.eq_false_iff.mp ends.update)]
    exact .pure tree
  exact .bind ((takes_unary_iff operand).mpr whole)
    (.bind (.iterate_done (.bind done (.pure none)) steps) (.pure tree))

private theorem takes_binaryLevels {levels : List (List String)} (ends : ∀ level ∈ levels,
      ∀ operator ∈ operatorOf? mode stop.next, operator.1 ∉ level)
    (one : Takes (power g) mode start tree stop) :
    Takes (binaryLevels g levels) mode start tree stop := by
  induction levels with
  | nil => exact one
  | cons level tighter ih =>
    obtain ⟨here, others⟩ := List.forall_mem_cons.mp ends
    refine .bind (takes_privateOperand operand level)
      (.bind (ih others) (.iterate_done (.bind takes_operator ?_) steps))
    cases found : operatorOf? mode stop.next with
    | none => exact .pure none
    | some operator =>
      rw [found] at here
      dsimp only
      rw [if_pos (by simpa using here)]
      exact .pure none

/-- An operand that no arrow function begins is an expression where nothing goes on behind it. -/
theorem takes_assignment (other : Takes (arrow? g false) mode start none start)
    (one : Takes (primary g) mode start tree middle) (linkless : Linkless g mode middle stop)
    (ends : Ends mode stop) : Takes (assignment g) mode start tree stop := by
  have levels := takes_binaryLevels steps operand ends.binary
    (takes_power steps operand one linkless ends)
  have whole : Takes (conditional g false) mode start tree stop :=
    .bind levels (.bind (takes_accept_miss ends.conditional) (.pure tree))
  refine .bind (takes_atYield operand) (.bind other (.bind whole (.bind takes_operator ?_)))
  have assignment := ends.assignment
  cases found : operatorOf? mode stop.next with
  | none => exact .pure tree
  | some operator =>
    rw [found] at assignment
    dsimp only
    rw [if_pos (by simpa using assignment)]
    exact .pure tree

end Upwards

private theorem foldl_power {operands : List Tree} (some : operands ≠ []) (last : Tree) :
    (operands.foldl (fun right left => .binary "**" left right) last).isClosed = false := by
  obtain ⟨others, operand, rfl⟩ := List.eq_nil_or_concat' operands |>.resolve_left some
  rw [List.foldl_concat]
  rfl

/-- Where no operator of the level goes on, the operands stay what they are; and where one does,
they are no closed tree. -/
theorem of_takes_binaryStep {level : List String} {tighter : List (List String)} {left : Tree}
    {link : Option Tree} (taken : Takes (do
      match ← operator? with
      | none => return none
      | some (operator, rest) =>
        if !level.contains operator then return none
        resume rest
        if operator == "as" || operator == "satisfies" then
          let type ← assertedType g
          return some (.typed operator left type)
        let right ← binaryLevels g tighter
        if operator == "??" then require !(isLogical left || isLogical right)
        return some (.binary operator left right)) mode start link stop) :
    IsLink link ∨ link = none ∧ stop = start ∧
      ∀ operator ∈ operatorOf? mode start.next, operator.1 ∉ level := by
  have taken := taken.drop takes_operator
  cases found : operatorOf? mode start.next with
  | none =>
    rw [found] at taken
    obtain ⟨rfl, rfl⟩ := takes_pure_iff.mp taken
    exact .inr ⟨rfl, rfl, nofun⟩
  | some operator =>
    rw [found] at taken
    dsimp only at taken
    split at taken
    · rename_i outside
      obtain ⟨rfl, rfl⟩ := takes_pure_iff.mp taken
      refine .inr ⟨rfl, rfl, ?_⟩
      rintro _ ⟨⟩
      simpa using outside
    · exact .inl (taken.kind IsLink (.bind fun _ => .ite (.bind fun _ => .pure ⟨_, rfl, rfl⟩)
        (.bind fun _ => .ite (.bind fun _ => .pure ⟨_, rfl, rfl⟩) (.pure ⟨_, rfl, rfl⟩))))

section Downwards

variable (closed : tree.isClosed = true)
include closed

theorem of_takes_leftHandSide (taken : Takes (leftHandSide g) mode start tree stop) :
    ∃ middle, Takes (primary g) mode start tree middle ∧ Linkless g mode middle stop := by
  obtain ⟨first, middle, one, loop⟩ := taken.of_bind
  refine (loop.iterate_cases (·.isClosed = false) ?links).elim ?done ?isOpen
  case links =>
    intro value next start stop _ link
    have passes : Passes (chainLink g true value) (chainLink g true value) := passes_chainLink
    rcases passes mode start _ stop link with
      ⟨tree, same, isOpen⟩ | ⟨same, -⟩
    · cases same
      exact isOpen
    · cases same
  case done =>
    rintro ⟨done, rfl⟩
    exact ⟨middle, one, linkless_of_takes done⟩
  case isOpen =>
    intro isOpen
    rw [closed] at isOpen
    cases isOpen

private theorem of_takes_postfix (taken : Takes (postfix? g) mode start tree stop) :
    Takes (leftHandSide g) mode start tree stop ∧
      ((Token.isMark stop.next "++" || Token.isMark stop.next "--") &&
        !stop.next.afterBreak) = false := by
  obtain ⟨value, place, whole, rest⟩ := taken.of_bind
  have rest := rest.drop takes_peek
  split at rest
  · obtain ⟨target, _, -, rest⟩ := rest.of_bind
    rw [(takes_pure_iff.mp (rest.drop takes_advance)).1] at closed
    cases closed
  · rename_i update
    obtain ⟨rfl, rfl⟩ := takes_pure_iff.mp rest
    exact ⟨whole, Bool.eq_false_iff.mpr update⟩

private theorem of_takes_power (taken : Takes (power g) mode start tree stop) :
    Takes (unary g) mode start tree stop ∧ Token.isMark stop.next "**" = false := by
  obtain ⟨first, place, one, others⟩ := taken.of_bind
  obtain ⟨reversed, behind, loop, built⟩ := others.of_bind
  refine (loop.iterate_cases (2 ≤ ·.length) ?several).elim ?done ?two
  case several =>
    intro operands next start stop before step
    obtain ⟨found, _, mark, step⟩ := step.of_bind
    split at step
    · obtain ⟨_, _, -, step⟩ := step.of_bind
      obtain ⟨_, _, -, step⟩ := (step.drop takes_advance).of_bind
      cases (takes_pure_iff.mp step).1
      rcases before with rfl | several
      · exact Nat.le_refl 2
      · exact Nat.le_succ_of_le several
    · cases (takes_pure_iff.mp step).1
  case done =>
    rintro ⟨done, rfl⟩
    obtain ⟨found, _, mark, done⟩ := done.of_bind
    obtain ⟨rfl, rfl⟩ := takes_atMark_iff.mp mark
    split at done
    · obtain ⟨_, _, -, done⟩ := done.of_bind
      obtain ⟨_, _, -, done⟩ := (done.drop takes_advance).of_bind
      cases (takes_pure_iff.mp done).1
    · rename_i power
      obtain ⟨-, rfl⟩ := takes_pure_iff.mp done
      obtain ⟨rfl, rfl⟩ := takes_pure_iff.mp built
      exact ⟨one, Bool.eq_false_iff.mpr power⟩
  case two =>
    intro two
    match reversed, two with
    | last :: second :: others, _ =>
      rw [(takes_pure_iff.mp built).1, foldl_power (List.cons_ne_nil _ _)] at closed
      cases closed

include operand in
private theorem of_takes_binaryLevels {levels : List (List String)}
    (taken : Takes (binaryLevels g levels) mode start tree stop) :
    Takes (power g) mode start tree stop ∧
      ∀ level ∈ levels, ∀ operator ∈ operatorOf? mode stop.next, operator.1 ∉ level := by
  induction levels with
  | nil => exact ⟨taken, nofun⟩
  | cons level tighter ih =>
    obtain ⟨first, middle, one, loop⟩ := (taken.drop (takes_privateOperand operand level)).of_bind
    rw [List.forall_mem_cons]
    refine (loop.iterate_cases (·.isClosed = false) ?keeps).elim ?done ?isOpen
    case keeps =>
      intro before next start stop _ step
      rcases of_takes_binaryStep step with ⟨tree, same, isOpen⟩ | ⟨same, -⟩
      · cases same
        exact isOpen
      · cases same
    case done =>
      rintro ⟨done, rfl⟩
      rcases of_takes_binaryStep done with ⟨tree, same, -⟩ | ⟨-, rfl, here⟩
      · cases same
      · obtain ⟨power, others⟩ := ih one
        exact ⟨power, here, others⟩
    case isOpen =>
      intro isOpen
      rw [closed] at isOpen
      cases isOpen

private theorem of_takes_conditional (taken : Takes (conditional g false) mode start tree stop) :
    Takes (binaryLevels g operatorLevels) mode start tree stop ∧
      Token.isMark stop.next "?" = false := by
  obtain ⟨test, middle, one, rest⟩ := taken.of_bind
  obtain ⟨found, _, accepted, rest⟩ := rest.of_bind
  obtain ⟨rfl, rfl⟩ := takes_accept_iff.mp accepted
  split at rest
  · obtain ⟨_, _, -, rest⟩ := rest.of_bind
    obtain ⟨_, _, -, rest⟩ := rest.of_bind
    obtain ⟨_, _, -, rest⟩ := rest.of_bind
    rw [(takes_pure_iff.mp rest).1] at closed
    cases closed
  · rename_i miss
    obtain ⟨rfl, rfl⟩ := takes_pure_iff.mp rest
    exact ⟨one, Bool.eq_false_iff.mpr miss⟩

include operand in
/-- A closed tree that no arrow function begins is a primary expression, and nothing goes on behind
it. -/
theorem of_takes_assignment (other : Takes (arrow? g false) mode start none start)
    (taken : Takes (assignment g) mode start tree stop) :
    ∃ middle, Takes (primary g) mode start tree middle ∧ Linkless g mode middle stop ∧
      Ends mode stop := by
  obtain ⟨left, middle, one, rest⟩ := ((taken.drop (takes_atYield operand)).drop other).of_bind
  have rest := rest.drop takes_operator
  have whole : left = tree ∧ middle = stop ∧
      ∀ operator ∈ operatorOf? mode middle.next, operator.1 ∉ assignmentOperators := by
    cases found : operatorOf? mode middle.next with
    | none =>
      rw [found] at rest
      obtain ⟨rfl, rfl⟩ := takes_pure_iff.mp rest
      exact ⟨rfl, rfl, nofun⟩
    | some operator =>
      rw [found] at rest
      dsimp only at rest
      split at rest
      · rename_i outside
        obtain ⟨rfl, rfl⟩ := takes_pure_iff.mp rest
        refine ⟨rfl, rfl, ?_⟩
        rintro _ ⟨⟩
        simpa using outside
      · have isOpen := rest.kind (·.isClosed = false)
          (.ite (.bind fun _ => .bind fun _ => .bind fun _ => .pure rfl)
            (.bind fun _ => .bind fun _ => .bind fun _ => .pure rfl))
        rw [closed] at isOpen
        cases isOpen
  obtain ⟨rfl, rfl, assignment⟩ := whole
  obtain ⟨levels, conditional⟩ := of_takes_conditional closed one
  obtain ⟨powers, binary⟩ := of_takes_binaryLevels operand closed levels
  obtain ⟨unary, power⟩ := of_takes_power closed powers
  obtain ⟨chain, update⟩ := of_takes_postfix closed ((takes_unary_iff operand).mp unary)
  obtain ⟨place, primary, linkless⟩ := of_takes_leftHandSide closed chain
  exact ⟨place, primary, linkless, update, power, binary, conditional, assignment⟩

end Downwards

end Levels

/-- Marks that end every expression. -/
def closingMarks : List String :=
  [")", "]", "\x7d", ",", ";", ":"]

section Closing

variable {mark : String} (member : mark ∈ closingMarks)
  (marked : Token.isMark start.next mark = true)
include member marked

theorem linkless_closing : Linkless g mode start start := by
  intro value
  obtain ⟨kind, text⟩ := Token.isMark_iff.mp marked
  refine .bind takes_peek ?_
  rw [if_neg (by simp [kind]), if_neg (by simp [kind]), text]
  simp only [closingMarks, List.mem_cons, List.not_mem_nil, or_false] at member
  rcases member with rfl | rfl | rfl | rfl | rfl | rfl <;> exact .pure none

theorem ends_closing : Ends mode start := by
  obtain ⟨kind, text⟩ := Token.isMark_iff.mp marked
  have apart : ∀ other ∉ closingMarks, Token.isMark start.next other = false := by
    rintro other outside
    exact Token.isMark_ne marked (by rintro rfl; exact outside member)
  have operator : operatorOf? mode start.next = some (mark, start.next.rest) := by
    have angle : mark ≠ ">" := by
      rintro rfl
      exact absurd member (by decide)
    simp [operatorOf?, kind, text, angle]
  refine ⟨by simp [apart, closingMarks], apart _ (by decide), ?_, apart _ (by decide), ?_⟩
  · rw [operator]
    rintro level inside _ ⟨⟩ among
    have none : operatorLevels.all (fun level => closingMarks.all (!level.contains ·)) = true := by
      decide
    have none := List.all_eq_true.mp (List.all_eq_true.mp none _ inside) _ member
    simp [among] at none
  · rw [operator]
    rintro _ ⟨⟩ among
    have none : closingMarks.all (!assignmentOperators.contains ·) = true := by decide
    have none := List.all_eq_true.mp none _ member
    simp [among] at none

end Closing

section Finish

variable (finish : start.next.kind = .finish)
include finish

theorem linkless_finish : Linkless g mode start start := by
  intro value
  refine .bind takes_peek ?_
  rw [if_neg (by simp [finish]), if_pos (by simp [finish])]
  exact .pure none

theorem ends_finish : Ends mode start := by
  have apart : ∀ mark, Token.isMark start.next mark = false :=
    Token.isMark_eq_false (by simp [finish])
  have operator : operatorOf? mode start.next = none := by
    simp [operatorOf?, finish]
  refine ⟨by simp [apart], apart _, ?_, apart _, ?_⟩
  · rw [operator]
    exact fun _ _ => nofun
  · rw [operator]
    exact nofun

end Finish

theorem Linkless.eq_of_closing {mark : String} (linkless : Linkless g mode start stop)
    (member : mark ∈ closingMarks) (marked : Token.isMark stop.next mark = true) :
    stop = start := by
  rw [linkless.next] at marked
  have stays : Takes (chainLink g true .hole) mode start none start :=
    linkless_closing member marked .hole
  exact (stays.iff_eq.mp (linkless .hole)).2

theorem takes_expression (one : Takes (assignment g) mode start tree stop)
    (ends : Token.isMark stop.next "," = false) (steps : 0 < mode.steps) :
    Takes (expression g) mode start tree stop :=
  .bind (takes_commaSeparated one ends steps) (.pure tree)

theorem of_takes_expression (closed : tree.isClosed = true)
    (taken : Takes (expression g) mode start tree stop) :
    Takes (assignment g) mode start tree stop ∧ Token.isMark stop.next "," = false := by
  obtain ⟨items, middle, separated, built⟩ := taken.of_bind
  obtain ⟨first, place, one, others⟩ := separated.of_bind
  obtain ⟨reversed, behind, loop, reversing⟩ := others.of_bind
  obtain ⟨rfl, rfl⟩ := takes_pure_iff.mp reversing
  refine (loop.iterate_cases (2 ≤ ·.length) ?several).elim ?done ?two
  case several =>
    intro items next start stop before step
    obtain ⟨found, _, accepted, step⟩ := step.of_bind
    split at step
    · obtain ⟨_, _, -, step⟩ := step.of_bind
      cases (takes_pure_iff.mp step).1
      rcases before with rfl | several
      · exact Nat.le_refl 2
      · exact Nat.le_succ_of_le several
    · cases (takes_pure_iff.mp step).1
  case done =>
    rintro ⟨done, rfl⟩
    obtain ⟨found, _, accepted, done⟩ := done.of_bind
    obtain ⟨rfl, rfl⟩ := takes_accept_iff.mp accepted
    split at done
    · obtain ⟨_, _, -, done⟩ := done.of_bind
      cases (takes_pure_iff.mp done).1
    · rename_i miss
      obtain ⟨-, rfl⟩ := takes_pure_iff.mp done
      obtain ⟨rfl, rfl⟩ := takes_pure_iff.mp built
      exact ⟨one, Bool.eq_false_iff.mpr miss⟩
  case two =>
    intro two
    rw [← List.length_reverse] at two
    generalize reversed.reverse = items at built two
    match items, two with
    | first :: second :: others, _ =>
      rw [(takes_pure_iff.mp built).1] at closed
      cases closed

section Parentheses

variable {rest : List Char} {broken : Bool} (opening : start.next = Token.ofMark "(" rest broken)
include opening

theorem beginsOperand_opening : Token.BeginsOperand start.next := by
  rw [opening]
  exact ⟨by simp [prefixMarks, Token.isMark, Token.ofMark], by simp [Token.isWord, Token.ofMark],
    by simp [Token.ofMark]⟩

theorem takes_primary_iff : Takes (primary g) mode start tree stop ↔
    ∃ inner middle, Takes (bracketed g.expression) mode start.after inner middle ∧
      Token.isMark middle.next ")" = true ∧ stop = middle.after ∧
        tree = .parenthesized inner := by
  unfold primary
  rw [takes_peek.bind_iff, opening]
  change Takes (advance >>= fun _ => _) mode start tree stop ↔ _
  rw [takes_advance.bind_iff]
  simp only [takes_bind_iff, takes_expect_iff, takes_pure_iff, and_assoc, exists_and_left,
    exists_eq_left, exists_const]
  constructor
  · rintro ⟨inner, middle, one, closing, rfl, rfl⟩
    exact ⟨inner, middle, one, closing, rfl, rfl⟩
  · rintro ⟨inner, middle, one, closing, rfl, rfl⟩
    exact ⟨inner, middle, one, closing, rfl, rfl⟩

theorem takes_statement_iff : Takes (statement g) mode start tree stop ↔
    ∃ value middle, Takes (bracketed g.expression) mode start value middle ∧
      Takes endStatement mode middle () stop ∧ tree = .expression value := by
  unfold statement anyStatement
  rw [takes_peek.bind_iff, opening]
  change Takes (bracketed g.expression >>= fun value => _) mode start tree stop ↔ _
  simp only [takes_bind_iff, takes_pure_iff]
  constructor
  · rintro ⟨value, middle, one, _, _, ends, rfl, rfl⟩
    exact ⟨value, middle, one, ends, rfl⟩
  · rintro ⟨value, middle, one, ends, rfl⟩
    exact ⟨value, middle, one, (), stop, ends, rfl, rfl⟩

end Parentheses

end Parser
end PanelCompiler.Script
