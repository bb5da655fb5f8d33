import PanelCompiler.Script.Precedence

/-!
Expressions, as the grammar of the script language divides a sequence of lexemes into them. Levels
say which expression can be the operand of which: what binds looser stands in parentheses. A reader
with a stack of unfinished expressions finds the expression again, so there is one at most.
-/

namespace PanelCompiler.Script

/-- Operators that decide whether their right operand counts. -/
inductive Operator
  | and
  | or
  | coalesce
  deriving DecidableEq

namespace Operator

def text : Operator → String
  | .and => "&&"
  | .or => "||"
  | .coalesce => "??"

def level (operator : Operator) : Level :=
  Level.ofOperator operator.text

theorem level_bounds (operator : Operator) :
    Level.conditional < operator.level ∧ operator.level < Level.prefixed := by
  cases operator <;> decide

/-- The levels at which an operator can hold its operands. The right one binds tighter. An operand
of `??` is none of the other two without parentheses. -/
def Holds (operator : Operator) (left right : Level) : Prop :=
  match operator with
  | .and | .or => operator.level ≤ left ∧ operator.level < right
  | .coalesce =>
    (left = operator.level ∨ Level.ofOperator "|" ≤ left) ∧ Level.ofOperator "|" ≤ right

instance (operator : Operator) (left right : Level) : Decidable (operator.Holds left right) := by
  cases operator <;> exact inferInstanceAs (Decidable (_ ∧ _))

theorem Holds.levels {operator : Operator} {left right : Level}
    (holds : operator.Holds left right) :
    operator.level ≤ left ∧ operator.level < right := by
  cases operator with
  | and | or => exact holds
  | coalesce =>
    have looser : Operator.coalesce.level < Level.ofOperator "|" := by decide
    obtain ⟨same | tight, right⟩ := holds
    · exact ⟨Nat.le_of_eq same.symm, Nat.lt_of_lt_of_le looser right⟩
    · exact ⟨Nat.le_trans (Nat.le_of_lt looser) tight, Nat.lt_of_lt_of_le looser right⟩

end Operator

/-- The units of an expression: words and marks, and elements and functions that stand in it. -/
inductive Lexeme
  | word (name : List Char)
  | element (markup : String)
  | function (source : String)
  | operator (operator : Operator)
  | bang
  | question
  | colon
  | point
  | comma
  | opening
  | closing
  | keyOpening
  | keyClosing
  deriving DecidableEq

inductive Expression
  | name (word : List Char)
  | element (markup : String)
  | function (source : String)
  | parenthesized (inner : Expression)
  | member (object : Expression) (property : List Char)
  | index (object key : Expression)
  | call (callee : Expression) (arguments : List Expression)
  | not (operand : Expression)
  | binary (operator : Operator) (left right : Expression)
  | conditional (test yes no : Expression)

/-- A word that does not begin with a digit. -/
def IsWord (word : List Char) : Prop :=
  word.head?.any isNameStart = true

instance (word : List Char) : Decidable (IsWord word) :=
  inferInstanceAs (Decidable (_ = _))

/-- A word that is an expression by itself. -/
def IsName (word : List Char) : Prop :=
  IsWord word ∧ (word = ['t', 'h', 'i', 's'] ∨ String.ofList word ∉ reservedWords)

instance (word : List Char) : Decidable (IsName word) :=
  inferInstanceAs (Decidable (_ ∧ _))

namespace Expression

/-- How tightly an expression is bound on the outside. Everything that can be called binds as
tightly as a call. -/
def level : Expression → Level
  | .function _ => Level.assign
  | .not _ => Level.prefixed
  | .binary operator _ _ => operator.level
  | .conditional .. => Level.conditional
  | _ => Level.call

mutual

def lexemes : Expression → List Lexeme
  | .name word => [.word word]
  | .element markup => [.element markup]
  | .function source => [.function source]
  | .parenthesized inner => .opening :: (inner.lexemes ++ [.closing])
  | .member object property => object.lexemes ++ [.point, .word property]
  | .index object key => object.lexemes ++ .keyOpening :: (key.lexemes ++ [.keyClosing])
  | .call callee arguments =>
    callee.lexemes ++ .opening :: (separated arguments ++ [.closing])
  | .not operand => .bang :: operand.lexemes
  | .binary operator left right => left.lexemes ++ .operator operator :: right.lexemes
  | .conditional test yes no =>
    test.lexemes ++ .question :: (yes.lexemes ++ .colon :: no.lexemes)

def separated : List Expression → List Lexeme
  | [] => []
  | [last] => last.lexemes
  | first :: rest => first.lexemes ++ .comma :: separated rest

end

/-- The expressions of the grammar: operands bind as tightly as what holds them asks for. -/
inductive Fits : Expression → Prop
  | name {word : List Char} (known : IsName word) : Fits (.name word)
  | element (markup : String) : Fits (.element markup)
  | function (source : String) : Fits (.function source)
  | parenthesized {inner : Expression} (within : Fits inner) : Fits (.parenthesized inner)
  | member {object : Expression} {property : List Char} (of : Fits object)
    (tight : Level.call ≤ object.level) (word : IsWord property) : Fits (.member object property)
  | index {object key : Expression} (of : Fits object) (tight : Level.call ≤ object.level)
    (within : Fits key) : Fits (.index object key)
  | call {callee : Expression} {arguments : List Expression} (of : Fits callee)
    (tight : Level.call ≤ callee.level) (given : ∀ argument ∈ arguments, Fits argument) :
    Fits (.call callee arguments)
  | not {operand : Expression} (of : Fits operand) (tight : Level.prefixed ≤ operand.level) :
    Fits (.not operand)
  | binary {operator : Operator} {left right : Expression} (first : Fits left)
    (second : Fits right) (holds : operator.Holds left.level right.level) :
    Fits (.binary operator left right)
  | conditional {test yes no : Expression} (decides : Fits test) (first : Fits yes)
    (second : Fits no) (short : Operator.coalesce.level ≤ test.level) :
    Fits (.conditional test yes no)

section Reader

/-- An expression that still lacks its last part. -/
inductive Frame
  | not
  | left (operator : Operator) (operand : Expression)
  | test (test : Expression)
  | branch (test yes : Expression)
  | group
  | key (object : Expression)
  | arguments (callee : Expression) (before : List Expression)

/-- What the reader is at: it expects an operand, it has found one, or it expects the name of a
property. -/
inductive Focus
  | operand
  | found (expression : Expression)
  | property (object : Expression)

/-- The innermost unfinished expression first. -/
abbrev Reader := List Frame × Focus

/-- Let an operand complete the unfinished expressions that bind at least as tightly as this. -/
def close (bound : Level) : List Frame → Expression → List Frame × Expression
  | .not :: frames, operand =>
    if bound ≤ Level.prefixed then close bound frames (.not operand) else (.not :: frames, operand)
  | .left operator left :: frames, right =>
    if bound ≤ operator.level then close bound frames (.binary operator left right)
    else (.left operator left :: frames, right)
  | .branch test yes :: frames, no =>
    if bound ≤ Level.conditional then close bound frames (.conditional test yes no)
    else (.branch test yes :: frames, no)
  | frames, operand => (frames, operand)

/-- What a mark behind a complete expression makes of the brackets around it. -/
def enclose : List Frame × Expression → Lexeme → Option Reader
  | (.test test :: frames, yes), .colon => some (.branch test yes :: frames, .operand)
  | (.group :: frames, inner), .closing => some (frames, .found (.parenthesized inner))
  | (.key object :: frames, key), .keyClosing => some (frames, .found (.index object key))
  | (.arguments callee before :: frames, last), .closing =>
    some (frames, .found (.call callee (before ++ [last])))
  | (.arguments callee before :: frames, next), .comma =>
    some (.arguments callee (before ++ [next]) :: frames, .operand)
  | _, _ => none

def step : Reader → Lexeme → Option Reader
  | (frames, .operand), .word word => some (frames, .found (.name word))
  | (frames, .operand), .element markup => some (frames, .found (.element markup))
  | (frames, .operand), .function source => some (frames, .found (.function source))
  | (frames, .operand), .opening => some (.group :: frames, .operand)
  | (frames, .operand), .bang => some (.not :: frames, .operand)
  | (.arguments callee [] :: frames, .operand), .closing => some (frames, .found (.call callee []))
  | (frames, .property object), .word word => some (frames, .found (.member object word))
  | (frames, .found object), .point => some (frames, .property object)
  | (frames, .found object), .keyOpening => some (.key object :: frames, .operand)
  | (frames, .found callee), .opening => some (.arguments callee [] :: frames, .operand)
  | (frames, .found operand), .operator operator =>
    let (frames, left) := close operator.level frames operand
    some (.left operator left :: frames, .operand)
  | (frames, .found operand), .question =>
    let (frames, test) := close Operator.coalesce.level frames operand
    some (.test test :: frames, .operand)
  | (frames, .found operand), mark => enclose (close Level.lowest frames operand) mark
  | _, _ => none

def run (reader : Reader) (lexemes : List Lexeme) : Option Reader :=
  lexemes.foldlM step reader

/-- The expression that a sequence of lexemes is read as. -/
def read? (lexemes : List Lexeme) : Option Expression :=
  match run ([], .operand) lexemes with
  | some (frames, .found last) =>
    match close Level.lowest frames last with
    | ([], whole) => some whole
    | _ => none
  | _ => none

/-- The unfinished expressions and the operand that an expression is, in front of further
lexemes. -/
def spine (frames : List Frame) : Expression → List Frame × Expression
  | .not operand => spine (.not :: frames) operand
  | .binary operator left right => spine (.left operator left :: frames) right
  | .conditional test yes no => spine (.branch test yes :: frames) no
  | last => (frames, last)

/-- The reader behind an expression. -/
def behind (frames : List Frame) (expression : Expression) : Reader :=
  ((spine frames expression).1, .found (spine frames expression).2)

end Reader

section Levels

/-- The limit at which the first operator behind the leftmost operand closes what is before it. -/
def entry : Expression → Level
  | .binary operator _ _ => operator.level
  | .conditional .. => Operator.coalesce.level
  | _ => Level.call

/-- The limit up to which the innermost unfinished expression is closed. -/
def limit : List Frame → Level
  | .not :: _ => Level.prefixed
  | .left operator _ :: _ => operator.level
  | .branch .. :: _ => Level.conditional
  | _ => Level.lowest

theorem conditional_le_level (expression : Expression) :
    (∃ source, expression = .function source) ∨ Level.conditional ≤ expression.level := by
  cases expression with
  | function source => exact .inl ⟨source, rfl⟩
  | binary operator _ _ => exact .inr (Nat.le_of_lt operator.level_bounds.1)
  | _ => exact .inr (by simp only [level]; decide)

theorem level_le_entry (expression : Expression) : expression.level ≤ expression.entry := by
  cases expression with
  | binary operator _ _ => exact Nat.le_refl _
  | _ => simp only [level, entry]; decide

theorem conditional_lt_entry (expression : Expression) :
    Level.conditional < expression.entry := by
  cases expression with
  | binary operator _ _ => exact operator.level_bounds.1
  | _ => simp only [entry]; decide

theorem prefixed_lt_entry {expression : Expression} (tight : Level.prefixed ≤ expression.level) :
    Level.prefixed < expression.entry := by
  cases expression with
  | binary operator _ _ =>
    exact absurd tight (Nat.not_le.mpr operator.level_bounds.2)
  | conditional | function => exact absurd tight (by simp only [level]; decide)
  | _ => simp only [entry]; decide

end Levels

section Closing

variable {frames : List Frame} {bound : Level}

theorem close_of_lt (open_ : limit frames < bound) (operand : Expression) :
    close bound frames operand = (frames, operand) := by
  cases frames with
  | nil => rfl
  | cons frame frames =>
    cases frame with
    | not | left | branch => exact if_neg (Nat.not_le.mpr open_)
    | test | group | key | arguments => rfl

/-- What an expression falls into is put together again by a limit that it reaches. -/
theorem close_spine {expression : Expression} (fits : expression.Fits)
    (reaches : bound ≤ expression.level) (frames : List Frame) :
    close bound (spine frames expression).1 (spine frames expression).2 =
      close bound frames expression := by
  induction fits generalizing frames with
  | name | element | function | parenthesized | member | index | call => rfl
  | not of tight ih =>
    rw [spine, ih (Nat.le_trans reaches tight)]
    exact if_pos reaches
  | binary first second holds _ ih =>
    have tighter := Nat.le_of_lt holds.levels.2
    rw [spine, ih (Nat.le_trans reaches tighter)]
    exact if_pos reaches
  | @conditional test yes no decides first second short _ _ ih =>
    have same : close bound (spine (.branch test yes :: frames) no).1
        (spine (.branch test yes :: frames) no).2 =
          close bound (.branch test yes :: frames) no := by
      rcases conditional_le_level no with ⟨source, rfl⟩ | tight
      · rfl
      · exact ih (Nat.le_trans reaches tight) _
    rw [spine, same]
    exact if_pos reaches

end Closing

section Reading

private theorem limit_lt_call (frames : List Frame) : limit frames < Level.call := by
  cases frames with
  | nil => decide
  | cons frame frames =>
    cases frame with
    | left operator operand =>
      exact Nat.lt_trans operator.level_bounds.2 (by decide)
    | _ => simp only [limit]; decide

/-- What can be called is no operation with an operand at its end. -/
theorem spine_tight {expression : Expression} (tight : Level.call ≤ expression.level)
    (frames : List Frame) : spine frames expression = (frames, expression) := by
  cases expression with
  | not | conditional => exact absurd tight (by simp only [level]; decide)
  | binary operator left right =>
    exact absurd tight (Nat.not_le.mpr (Nat.lt_trans operator.level_bounds.2 (by decide)))
  | _ => rfl

theorem run_step {reader next : Reader} {lexeme : Lexeme} (made : step reader lexeme = some next)
    (rest : List Lexeme) : run reader (lexeme :: rest) = run next rest := by
  rw [run, List.foldlM_cons, made]
  rfl

/-- The reader takes in the lexemes of an expression in front of whatever follows. -/
def Taken (expression : Expression) : Prop :=
  ∀ frames rest, limit frames < expression.entry →
    run (frames, .operand) (expression.lexemes ++ rest) = run (behind frames expression) rest

namespace Taken

variable {expression : Expression} (taken : Taken expression)

include taken

private theorem tight (tight : Level.call ≤ expression.level) (frames : List Frame)
    (rest : List Lexeme) : run (frames, .operand) (expression.lexemes ++ rest) =
      run (frames, .found expression) rest := by
  have stops : limit frames < expression.entry :=
    Nat.lt_of_lt_of_le (limit_lt_call frames) (Nat.le_trans tight expression.level_le_entry)
  rw [taken frames rest stops, behind, spine_tight tight]

theorem enclosed (fits : expression.Fits) {frames : List Frame} {mark : Lexeme} {next : Reader}
    (bracket : limit frames = Level.lowest)
    (closes : ∀ frames operand, step (frames, .found operand) mark =
      enclose (close Level.lowest frames operand) mark)
    (made : enclose (close Level.lowest frames expression) mark = some next) (rest : List Lexeme) :
    run (frames, .operand) (expression.lexemes ++ mark :: rest) = run next rest := by
  have stops : limit frames < expression.entry :=
    bracket ▸ Nat.zero_lt_of_lt expression.conditional_lt_entry
  have closed : close Level.lowest (spine frames expression).1 (spine frames expression).2 =
      close Level.lowest frames expression := close_spine fits (Nat.zero_le _) frames
  rw [taken frames _ stops]
  refine run_step ?_ rest
  rw [behind, closes, closed, made]

private theorem operand (fits : expression.Fits) {frames : List Frame} {bound : Level}
    {mark : Lexeme}
    (frame : Expression → Frame) (stops : limit frames < bound) (reaches : bound ≤ expression.level)
    (opens : ∀ frames operand, step (frames, .found operand) mark =
      some (frame (close bound frames operand).2 :: (close bound frames operand).1, .operand))
    (rest : List Lexeme) :
    run (frames, .operand) (expression.lexemes ++ mark :: rest) =
      run (frame expression :: frames, .operand) rest := by
  have before : limit frames < expression.entry :=
    Nat.lt_of_lt_of_le stops (Nat.le_trans reaches expression.level_le_entry)
  have closed := (close_spine fits reaches frames).trans (close_of_lt stops expression)
  rw [taken frames _ before]
  refine run_step ?_ rest
  rw [behind, opens, closed]

end Taken

private theorem run_separated {callee : Expression} {arguments : List Expression}
    {frames : List Frame} (taken : ∀ argument ∈ arguments, Taken argument)
    (given : ∀ argument ∈ arguments, argument.Fits) (some : arguments ≠ [])
    (earlier : List Expression) (rest : List Lexeme) :
    run (.arguments callee earlier :: frames, .operand)
        (separated arguments ++ .closing :: rest) =
      run (frames, .found (.call callee (earlier ++ arguments))) rest := by
  induction arguments generalizing earlier with
  | nil => exact absurd rfl some
  | cons first others ih =>
    have head := taken first List.mem_cons_self
    have fits := given first List.mem_cons_self
    cases others with
    | nil => exact head.enclosed fits rfl (fun _ _ => rfl) rfl rest
    | cons second others =>
      have listed : separated (first :: second :: others) =
          first.lexemes ++ .comma :: separated (second :: others) := rfl
      have later := ih (fun argument member => taken argument (List.mem_cons_of_mem _ member))
        (fun argument member => given argument (List.mem_cons_of_mem _ member))
        (List.cons_ne_nil _ _) (earlier ++ [first])
      rw [listed, List.append_assoc, List.cons_append,
        head.enclosed fits rfl (fun _ _ => rfl) rfl, later, List.append_assoc]
      rfl

private theorem Fits.taken {expression : Expression} (fits : expression.Fits) :
    Taken expression := by
  induction fits with
  | name | element | function => exact fun _ rest _ => run_step rfl rest
  | parenthesized within ih =>
    intro frames rest _
    rw [lexemes, List.cons_append, List.append_assoc, run_step rfl]
    exact ih.enclosed within rfl (fun _ _ => rfl) rfl rest
  | member of tight word ih =>
    intro frames rest _
    rw [lexemes, List.append_assoc, ih.tight tight]
    exact (run_step rfl _).trans (run_step rfl rest)
  | index of tight within ih inner =>
    intro frames rest _
    rw [lexemes, List.append_assoc, ih.tight tight, List.cons_append, List.append_assoc,
      run_step rfl]
    exact inner.enclosed within rfl (fun _ _ => rfl) rfl rest
  | @call callee arguments of tight given ih inner =>
    intro frames rest _
    rw [lexemes, List.append_assoc, ih.tight tight, List.cons_append, List.append_assoc,
      run_step rfl]
    cases arguments with
    | nil => exact run_step rfl rest
    | cons first others => exact run_separated inner given (List.cons_ne_nil _ _) [] rest
  | not of tight ih =>
    intro frames rest _
    rw [lexemes, List.cons_append, run_step rfl, ih (.not :: frames) rest (prefixed_lt_entry tight)]
    rfl
  | @binary operator left right first second holds ih inner =>
    intro frames rest stops
    have inside : limit (.left operator left :: frames) < right.entry :=
      Nat.lt_of_lt_of_le holds.levels.2 right.level_le_entry
    rw [lexemes, List.append_assoc, List.cons_append,
      ih.operand first (.left operator) stops holds.levels.1 (fun _ _ => rfl),
      inner _ rest inside]
    rfl
  | @conditional test yes no decides first second short ih ihYes ihNo =>
    intro frames rest stops
    have last : limit (.branch test yes :: frames) < no.entry := no.conditional_lt_entry
    rw [lexemes, List.append_assoc, List.cons_append, List.append_assoc, List.cons_append,
      ih.operand decides .test stops short (fun _ _ => rfl),
      ihYes.enclosed first rfl (fun _ _ => rfl) rfl, ihNo _ rest last]
    rfl

variable {expression : Expression} (fits : expression.Fits)

include fits

private theorem read?_lexemes : read? expression.lexemes = some expression := by
  have stops : limit [] < expression.entry := Nat.zero_lt_of_lt expression.conditional_lt_entry
  have all := fits.taken [] [] stops
  have closed : close Level.lowest (spine [] expression).1 (spine [] expression).2 =
      ([], expression) := close_spine fits (Nat.zero_le _) []
  rw [List.append_nil] at all
  rw [read?, all]
  simp only [run, List.foldlM_nil, behind, pure, closed]

end Reading

/-- The same lexemes are no two expressions. -/
theorem eq_of_lexemes {first second : Expression} (fits : first.Fits) (other : second.Fits)
    (same : first.lexemes = second.lexemes) : first = second := by
  have read := read?_lexemes fits
  rw [same, read?_lexemes other] at read
  exact (Option.some.inj read).symm

end Expression

end PanelCompiler.Script
