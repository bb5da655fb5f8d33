import PanelCompiler.Proofs.Script.ArrowGuess
import PanelCompiler.Proofs.Script.ItemList

namespace PanelCompiler.Script

open Lexer (nextToken)

/-- A name that can be bound in a function of any kind. -/
structure IsBoundName (name : List Char) : Prop extends IsFreeName name where
  apart : String.ofList name ∉ ["await", "yield"]

theorem IsBoundName.allowed {mode : Mode} {name : List Char} (bound : IsBoundName name) :
    Parser.Mode.allowsName mode (String.ofList name) = true := by
  have apart := bound.apart
  simp only [List.mem_cons, List.not_mem_nil, or_false, not_or] at apart
  simp [Parser.Mode.allowsName, bound.unreserved, apart]

/-- A name, or an object pattern of names with defaults. -/
inductive IsTarget : List Char → Prop
  | name {name : List Char} (bound : IsBoundName name) : IsTarget name
  | object {members : List Char}
    (list : IsList (WithDefault IsBoundName) (WithDefault IsBoundName) members) :
    IsTarget ('\x7b' :: (members ++ ['\x7d']))

abbrev IsParameter : List Char → Prop :=
  WithDefault IsTarget

/-- A parameter at the end, which may take the rest of the arguments. -/
inductive IsLastParameter : List Char → Prop
  | plain {text : List Char} (parameter : IsParameter text) : IsLastParameter text
  | rest {gap name : List Char} {broken : Bool} (trivia : IsTrivia gap broken)
    (bound : IsBoundName name) : IsLastParameter ('.' :: '.' :: '.' :: (gap ++ name))

abbrev AreParameters : List Char → Prop :=
  IsList IsParameter IsLastParameter

section FirstTokens

variable {gap rest text name : List Char} {broken : Bool}

theorem nextToken_boundName (bound : IsBoundName name) (trivia : IsTrivia gap broken)
    (ends : EndsToken rest) : nextToken (gap ++ (name ++ rest)) = Token.ofWord name rest broken :=
  nextToken_word trivia bound.start bound.parts ends.word

theorem nextToken_brace (trivia : IsTrivia gap broken) :
    nextToken (gap ++ '\x7b' :: rest) = Token.ofMark "\x7b" rest broken :=
  nextToken_mark trivia (by decide) rfl

theorem nextToken_opening (trivia : IsTrivia gap broken) :
    nextToken (gap ++ '(' :: rest) = Token.ofMark "(" rest broken :=
  nextToken_mark trivia (by decide) rfl

theorem nextToken_dots (trivia : IsTrivia gap broken) :
    nextToken (gap ++ '.' :: '.' :: '.' :: rest) = Token.ofMark "..." rest broken :=
  nextToken_mark trivia (by decide) rfl

/-- How a parameter begins: with a mark that closes nothing, or with a name. -/
inductive BeginsItem : Token → Prop
  | brace {rest : List Char} {broken : Bool} : BeginsItem (Token.ofMark "\x7b" rest broken)
  | dots {rest : List Char} {broken : Bool} : BeginsItem (Token.ofMark "..." rest broken)
  | name {name rest : List Char} {broken : Bool} (bound : IsBoundName name) :
    BeginsItem (Token.ofWord name rest broken)

theorem BeginsItem.apart {token : Token} (begins : BeginsItem token) {mark : String}
    (other : mark ∉ ["\x7b", "..."]) : Parser.Token.isMark token mark = false := by
  simp only [List.mem_cons, List.not_mem_nil, or_false, not_or] at other
  cases begins with
  | brace => exact Parser.Token.isMark_ne (Parser.Token.isMark_of_eq rfl) (Ne.symm other.1)
  | dots => exact Parser.Token.isMark_ne (Parser.Token.isMark_of_eq rfl) (Ne.symm other.2)
  | name => rfl

theorem BeginsItem.ne_await {token : Token} (begins : BeginsItem token)
    (word : token.kind = .word) : token.text ≠ "await" := by
  cases begins with
  | brace | dots => cases word
  | name bound =>
    intro await
    exact bound.apart (List.mem_cons.mpr (.inl await))

theorem BeginsItem.ne_this {token : Token} (begins : BeginsItem token) :
    Parser.Token.isWord token "this" = false := by
  cases begins with
  | brace | dots => rfl
  | name bound => simp [Parser.Token.isWord, Token.ofWord, bound.ne_this]

private theorem IsTarget.beginsItem (target : IsTarget text) (trivia : IsTrivia gap broken)
    (ends : EndsToken rest) : BeginsItem (nextToken (gap ++ (text ++ rest))) := by
  cases target with
  | name bound =>
    rw [nextToken_boundName bound trivia ends]
    exact .name bound
  | object =>
    rw [List.cons_append, nextToken_brace trivia]
    exact .brace

theorem WithDefault.undotted (parameter : IsParameter text) (trivia : IsTrivia gap broken)
    (ends : EndsToken rest) :
    Parser.Token.isMark (nextToken (gap ++ (text ++ rest))) "..." = false := by
  obtain ⟨bound, given⟩ := parameter
  rw [List.append_assoc]
  cases bound with
  | name bound =>
    rw [nextToken_boundName bound trivia (given.endsToken ends)]
    rfl
  | object =>
    rw [List.cons_append, nextToken_brace trivia]
    rfl

theorem IsLastParameter.beginsItem (parameter : IsLastParameter text) (trivia : IsTrivia gap broken)
    (ends : EndsToken rest) : BeginsItem (nextToken (gap ++ (text ++ rest))) := by
  cases parameter with
  | plain parameter =>
    obtain ⟨bound, given⟩ := parameter
    rw [List.append_assoc]
    exact bound.beginsItem trivia (given.endsToken ends)
  | rest =>
    rw [List.cons_append, List.cons_append, List.cons_append, nextToken_dots trivia]
    exact .dots

theorem IsList.begins {front back : List Char} {brokenFront brokenBack : Bool}
    (list : AreParameters text) (before : IsTrivia front brokenFront)
    (after : IsTrivia back brokenBack) :
    BeginsItem (nextToken (front ++ (text ++ (back ++ ')' :: rest)))) ∨
      ∃ broken, nextToken (front ++ (text ++ (back ++ ')' :: rest))) =
        Token.ofMark ")" rest broken := by
  cases list with
  | empty trivia =>
    have whole : front ++ (text ++ (back ++ ')' :: rest)) =
        front ++ (text ++ back) ++ ')' :: rest := by simp
    rw [whole]
    exact .inr ⟨_, nextToken_mark (before.append (trivia.append after)) (by decide) rfl⟩
  | @last text gap later _ _ trivia item behind =>
    have whole : front ++ (gap ++ (text ++ later) ++ (back ++ ')' :: rest)) =
        front ++ gap ++ (text ++ (later ++ back ++ ')' :: rest)) := by simp
    rw [whole]
    exact .inl (item.beginsItem (before.append trivia)
      (Parser.closes_parenthesis.behindItem (behind.append after) rest).1)
  | @cons text gap later others _ _ trivia item behind =>
    have whole : front ++ (gap ++ (text ++ (later ++ ',' :: others)) ++ (back ++ ')' :: rest)) =
        front ++ gap ++ (text ++ (later ++ ',' :: (others ++ (back ++ ')' :: rest)))) := by simp
    rw [whole]
    exact .inl ((IsLastParameter.plain item).beginsItem (before.append trivia)
      (Parser.behindItem_comma ")" behind _).1)

end FirstTokens

namespace Parser

variable {mode : Mode} {start : Cursor} {g h k : Grammar} {text name : List Char}

section Names

variable (bound : IsBoundName name) {gap rest : List Char} {broken : Bool}
  (trivia : IsTrivia gap broken) (ends : EndsToken rest)
include bound trivia ends

theorem takes_nameToken_bound (start : Cursor) :
    Takes nameToken mode (start.before (gap ++ (name ++ rest))) (String.ofList name)
      (start.before rest) := by
  have word : (start.before (gap ++ (name ++ rest))).next = Token.ofWord name rest broken :=
    nextToken_boundName bound trivia ends
  have named : Takes nameToken mode (start.before (gap ++ (name ++ rest))) _ _ :=
    takes_nameToken (congrArg Token.kind word) (by rw [word]; exact bound.allowed)
  rwa [Cursor.after_of_next word, word] at named

end Names

section Patterns

variable (inner : h.assignment = assignment k)
include inner

private theorem reads_member (steps : 0 < mode.steps) (member : WithDefault IsBoundName text) :
    ReadsItem (objectPatternMember h) mode "\x7d" (fun _ => True) text := by
  obtain @⟨name, default, bound, given⟩ := member
  constructor
  case opens =>
    intro gap rest broken trivia ends
    rw [List.append_assoc, nextToken_boundName bound trivia (given.endsToken ends)]
    rfl
  case reads =>
    intro start gap rest broken trivia behind
    obtain ⟨mark, inside, marked⟩ := marked_default given behind
    obtain ⟨value, valued⟩ := takes_default start inner steps (by decide) given behind
    have ends := given.endsToken behind.1
    have word : (start.before (gap ++ (name ++ (default ++ rest)))).next =
        Token.ofWord name (default ++ rest) broken :=
      nextToken_boundName bound trivia ends
    have unmarked : Token.isMark (start.before (gap ++ (name ++ (default ++ rest)))).next "..." =
        false := by
      rw [word]
      rfl
    have second : Token.isMark (Token.following (Token.ofWord name (default ++ rest) broken)) ":" =
        false := by
      refine Token.isMark_ne marked ?_
      rintro rfl
      exact absurd inside (by decide)
    have named : Takes nameToken mode (start.before (gap ++ (name ++ (default ++ rest)))) _ _ :=
      takes_nameToken_bound bound trivia ends start
    rw [List.append_assoc]
    refine ⟨.property (.name (String.ofList name)) false true
      (value.elim (.name (String.ofList name)) fun value => .binding (.name (String.ofList name)) ""
        (some value)), trivial, .bind takes_atMark ?_⟩
    rw [unmarked]
    refine .bind takes_peek (.bind (.bind takes_peek (.pure _)) ?_)
    rw [word, second]
    cases value <;> exact .bind named (.bind valued (.pure _))

/-- What a name or an object pattern is read as. -/
inductive IsTargetTree : Tree → Prop
  | name {text : String} (apart : text ≠ "this") : IsTargetTree (.name text)
  | object {members : List Tree} : IsTargetTree (.object members)

theorem reads_target (target : IsTarget text) (enough : text.length + 1 < mode.steps) :
    Reads (pattern h) mode IsTargetTree EndsToken text := by
  intro start gap rest broken trivia ends
  cases target with
  | name bound =>
    have word : (start.before (gap ++ (text ++ rest))).next = Token.ofWord text rest broken :=
      nextToken_boundName bound trivia ends
    have unmarked : ∀ mark, Token.isMark (start.before (gap ++ (text ++ rest))).next mark = false :=
      fun mark => by rw [word]; rfl
    refine ⟨_, .name bound.ne_this, .bind takes_atMark ?_⟩
    rw [unmarked]
    refine .bind takes_atMark ?_
    rw [unmarked]
    exact .bind (takes_nameToken_bound bound trivia ends start) (.pure _)
  | @object members list =>
    have whole : '\x7b' :: (members ++ ['\x7d']) ++ rest =
        '\x7b' :: (members ++ '\x7d' :: rest) := by simp
    have brace : (start.before (gap ++ '\x7b' :: (members ++ '\x7d' :: rest))).next =
        Token.ofMark "\x7b" (members ++ '\x7d' :: rest) broken :=
      nextToken_brace trivia
    have bracket : Token.isMark (start.before (gap ++ '\x7b' :: (members ++ '\x7d' :: rest))).next
        "[" = false := by
      rw [brace]
      rfl
    have items : ∀ text, WithDefault IsBoundName text → text.length ≤ members.length →
        ReadsItem (objectPatternMember h) mode "\x7d" (fun _ => True) text :=
      fun _ member _ => reads_member inner (by omega) member
    have fewer : members.length + 1 < mode.steps := by
      simp only [List.length_cons, List.length_append] at enough
      omega
    obtain ⟨values, trailing, -, taken⟩ := reads_commaListEnd closes_brace (fun _ => id) items items
      list (Nat.le_refl _) fewer start .nil .nil rest
    rw [whole]
    refine ⟨.object values.reverse, .object, .bind takes_atMark ?_⟩
    rw [bracket]
    refine .bind takes_atMark ?_
    rw [Token.isMark_of_eq brace]
    refine .bind (takes_expect (Token.isMark_of_eq brace)) ?_
    rw [Cursor.after_of_next brace]
    exact .bind (.bind taken (.pure _)) (.pure _)

end Patterns

/-- A parameter that is no type of `this`. -/
def TakesArgument (tree : Tree) : Prop :=
  ∀ others, takingArguments (tree :: others) = tree :: others

/-- A parameter that takes one argument. -/
structure TakesOne (tree : Tree) : Prop where
  single : Tree.isRest tree = false
  taking : TakesArgument tree

private theorem IsTargetTree.takesOne {tree : Tree} (target : IsTargetTree tree)
    (value : Option Tree) :
    TakesOne (value.elim tree fun value => .binding tree "" (some value)) := by
  cases target with
  | name apart => cases value <;> exact ⟨rfl, fun _ => by simp [takingArguments, apart]⟩
  | object => cases value <;> exact ⟨rfl, fun _ => rfl⟩

section Modifiers

variable {tree : Tree} {stop : Cursor}

theorem takes_formalParameter (steps : 0 < mode.steps) (begins : BeginsItem start.next)
    (plain : (Token.isModifierWord start.next && Token.modifies start.next) = false)
    (taken : Takes (if Token.isMark start.next "..." then restParameter g else plainParameter g)
      mode start tree stop) : Takes (formalParameter g .function) mode start tree stop := by
  have undecorated : Takes (decorators g) mode start false start :=
    .iterate_done (.bind (takes_accept_miss (begins.apart (by decide))) (.pure none)) steps
  have unmodified : Takes takeModifiers mode start [] start := by
    refine .bind (.iterate_done (.bind takes_peek ?_) steps) (.pure _)
    rw [plain]
    exact .pure none
  refine .bind undecorated (.bind (takes_require rfl) (.bind unmodified
    (.bind (takes_require rfl) (.bind takes_atMark ?_))))
  split at taken
  · rename_i dots
    rw [if_pos dots]
    exact .bind (takes_require rfl) taken
  · rename_i dots
    rw [if_neg dots]
    exact .bind takes_peek (.bind (takes_require (by simp)) taken)

theorem unmodified_parameter {gap rest : List Char} {broken : Bool}
    (parameter : IsLastParameter text) (trivia : IsTrivia gap broken)
    (behind : BehindItem ")" rest) :
    (Token.isModifierWord (nextToken (gap ++ (text ++ rest))) &&
      Token.modifies (nextToken (gap ++ (text ++ rest)))) = false := by
  cases parameter with
  | rest =>
    rw [List.cons_append, List.cons_append, List.cons_append, nextToken_dots trivia]
    rfl
  | plain parameter =>
    obtain @⟨target, default, bound, given⟩ := parameter
    rw [List.append_assoc]
    cases bound with
    | object =>
      rw [List.cons_append, nextToken_brace trivia]
      rfl
    | name bound =>
      obtain ⟨mark, inside, marked⟩ := marked_default given behind
      obtain ⟨kind, text⟩ := Token.isMark_iff.mp marked
      simp only [List.mem_cons, List.not_mem_nil, or_false] at inside
      have fixed : Token.isModifiable (nextToken (default ++ rest)) = false := by
        rcases inside with rfl | rfl | rfl <;>
          simp [Token.isModifiable, Token.isKey, Token.isMark, kind, text]
      rw [nextToken_boundName bound trivia (given.endsToken behind.1), Bool.and_eq_false_iff]
      right
      change (Token.isModifiable (nextToken (default ++ rest)) && _) = false
      rw [fixed]
      rfl

end Modifiers

theorem tellsThis_values {values : List Tree} {trailing : Bool}
    (kept : ListKept TakesOne TakesArgument values trailing) :
    tellsThis values.reverse = false := by
  cases same : values.reverse with
  | nil => rfl
  | cons first others =>
    have member : first ∈ values := List.mem_reverse.mp (same ▸ List.mem_cons_self)
    simp [tellsThis, kept.final first member others]

section Parameters

variable (pattern : g.pattern = pattern h) (outer : g.assignment = assignment h)
  (inner : h.assignment = assignment k)

include pattern outer inner in
private theorem reads_plainParameter (parameter : IsParameter text)
    (enough : text.length + 1 < mode.steps) :
    Reads (plainParameter g) mode TakesOne (BehindItem ")") text := by
  obtain @⟨target, default, bound, given⟩ := parameter
  rw [List.length_append] at enough
  intro start gap rest broken trivia behind
  obtain ⟨mark, inside, marked⟩ := marked_default given behind
  have steps : 0 < mode.steps := Nat.zero_lt_of_lt enough
  obtain ⟨value, valued⟩ := takes_default start outer steps (by decide) given behind
  have fewer : target.length + 1 < mode.steps := by omega
  obtain ⟨tree, targeted, one⟩ := reads_target inner bound fewer start trivia
    (given.endsToken behind.1)
  have miss : ∀ other ∉ [",", "=", ")"],
      Token.isMark (start.before (default ++ rest)).next other = false := fun other outside =>
    Token.isMark_ne marked (by rintro rfl; exact outside inside)
  have unasked : Takes (acceptText "?") mode (start.before (default ++ rest)) ""
      (start.before (default ++ rest)) :=
    .bind (takes_accept_miss (miss _ (by decide))) (.pure "")
  have untyped : Takes (typeAscription g) mode (start.before (default ++ rest)) ""
      (start.before (default ++ rest)) :=
    .bind (takes_accept_miss (miss _ (by decide))) (.pure "")
  rw [← pattern] at one
  rw [List.append_assoc]
  refine ⟨_, targeted.takesOne value, .bind one (.bind unasked (.bind untyped (.bind valued ?_)))⟩
  cases value <;> exact .bind (takes_require rfl) (.pure _)

include pattern in
private theorem takes_restParameter {name gap later rest : List Char} {broken brokenLater : Bool}
    (bound : IsBoundName name) (trivia : IsTrivia gap broken) (after : IsTrivia later brokenLater)
    (behind : BehindItem ")" rest) : Takes (restParameter g) mode
      (start.before (gap ++ ('.' :: '.' :: '.' :: (later ++ name) ++ rest)))
      (.rest (.name (String.ofList name)) "") (start.before rest) := by
  have whole : gap ++ ('.' :: '.' :: '.' :: (later ++ name) ++ rest) =
      gap ++ '.' :: '.' :: '.' :: (later ++ (name ++ rest)) := by simp
  have dots : (start.before (gap ++ '.' :: '.' :: '.' :: (later ++ (name ++ rest)))).next =
      Token.ofMark "..." (later ++ (name ++ rest)) broken :=
    nextToken_dots trivia
  have word : (start.before (later ++ (name ++ rest))).next = Token.ofWord name rest brokenLater :=
    nextToken_boundName bound after behind.1
  have unmarked : ∀ mark, Token.isMark (start.before (later ++ (name ++ rest))).next mark = false :=
    fun mark => by rw [word]; rfl
  have target : Takes g.pattern mode (start.before (later ++ (name ++ rest)))
      (.name (String.ofList name)) (start.before rest) := by
    rw [pattern]
    refine .bind takes_atMark ?_
    rw [unmarked]
    refine .bind takes_atMark ?_
    rw [unmarked]
    exact .bind (takes_nameToken_bound bound after behind.1 start) (.pure _)
  have miss : Token.isMark (start.before rest).next ":" = false := by
    rcases behind.2 with comma | closing
    · exact Token.isMark_ne comma (by decide)
    · exact Token.isMark_ne closing (by decide)
  have untyped : Takes (typeAscription g) mode (start.before rest) "" (start.before rest) :=
    .bind (takes_accept_miss miss) (.pure "")
  rw [whole]
  refine .bind (takes_expect (Token.isMark_of_eq dots)) ?_
  rw [Cursor.after_of_next dots]
  exact .bind target (.bind untyped (.pure _))

include pattern outer inner

theorem reads_parameter (parameter : IsParameter text) (enough : text.length + 1 < mode.steps) :
    ReadsItem (bracketed (formalParameter g .function)) mode ")" TakesOne text := by
  have begins : ∀ {gap rest broken}, IsTrivia gap broken → EndsToken rest →
      BeginsItem (nextToken (gap ++ (text ++ rest))) :=
    (IsLastParameter.plain parameter).beginsItem
  refine ⟨fun trivia ends => (begins trivia ends).apart (by decide), ?_⟩
  intro start gap rest broken trivia behind
  have steps : 0 < (Mode.bracketed mode).steps := Nat.zero_lt_of_lt enough
  have plain : Reads (plainParameter g) (Mode.bracketed mode) TakesOne (BehindItem ")") text :=
    reads_plainParameter pattern outer inner parameter enough
  obtain ⟨tree, kept, taken⟩ := plain start trivia behind
  refine ⟨tree, kept, takes_formalParameter steps (begins trivia behind.1)
    (unmodified_parameter (.plain parameter) trivia behind) ?_⟩
  rwa [Cursor.before_next, if_neg (Bool.eq_false_iff.mp (parameter.undotted trivia behind.1))]

private theorem reads_lastParameter (parameter : IsLastParameter text)
    (enough : text.length + 1 < mode.steps) :
    ReadsItem (bracketed (formalParameter g .function)) mode ")" TakesArgument text := by
  cases parameter with
  | plain parameter =>
    exact (reads_parameter pattern outer inner parameter enough).mono fun _ kept => kept.taking
  | @rest later name _ after bound =>
    have last : IsLastParameter ('.' :: '.' :: '.' :: (later ++ name)) := .rest after bound
    refine ⟨fun trivia ends => (last.beginsItem trivia ends).apart (by decide), ?_⟩
    intro start gap rest broken trivia behind
    have steps : 0 < (Mode.bracketed mode).steps := Nat.zero_lt_of_lt enough
    have dots : Token.isMark (nextToken (gap ++ ('.' :: '.' :: '.' :: (later ++ name) ++ rest)))
        "..." = true :=
      Token.isMark_of_eq (nextToken_dots trivia)
    refine ⟨.rest (.name (String.ofList name)) "", fun _ => rfl,
      takes_formalParameter steps (last.beginsItem trivia behind.1)
        (unmodified_parameter last trivia behind) ?_⟩
    rw [Cursor.before_next, if_pos dots]
    exact takes_restParameter pattern bound trivia after behind

/-- Parameters in their parentheses are read wherever these stand, with the text between them. -/
theorem takes_formalParameters (list : AreParameters text) (enough : text.length + 1 < mode.steps)
    (start : Cursor) {gap front back : List Char} {broken brokenFront brokenBack : Bool}
    (trivia : IsTrivia gap broken) (before : IsTrivia front brokenFront)
    (after : IsTrivia back brokenBack) (rest : List Char) :
    ∃ parameters, tellsThis parameters = false ∧ Takes (formalParameters g .function) mode
      (start.before (gap ++ '(' :: (front ++ (text ++ (back ++ ')' :: rest)))))
      (String.ofList ('(' :: (front ++ (text ++ (back ++ [')'])))), parameters)
      (start.before rest) := by
  have items : ∀ item, IsParameter item → item.length ≤ text.length →
      ReadsItem (bracketed (formalParameter g .function)) mode ")" TakesOne item :=
    fun _ item short => reads_parameter pattern outer inner item (by omega)
  have lasts : ∀ item, IsLastParameter item → item.length ≤ text.length →
      ReadsItem (bracketed (formalParameter g .function)) mode ")" TakesArgument item :=
    fun _ item short => reads_lastParameter pattern outer inner item (by omega)
  obtain ⟨values, trailing, kept, taken⟩ := reads_commaListEnd closes_parenthesis
    (fun _ kept => kept.taking) items lasts list (Nat.le_refl _) enough start before after rest
  have opening : (start.before (gap ++ '(' :: (front ++ (text ++ (back ++ ')' :: rest))))).next =
      Token.ofMark "(" (front ++ (text ++ (back ++ ')' :: rest))) broken :=
    nextToken_opening trivia
  have subject : Token.isWord (nextToken (front ++ (text ++ (back ++ ')' :: rest)))) "this" =
      false := by
    rcases list.begins before after with begins | ⟨_, closing⟩
    · exact begins.ne_this
    · rw [closing]
      rfl
  have source : sourceBetween ('(' :: (front ++ (text ++ (back ++ ')' :: rest)))) rest =
      String.ofList ('(' :: (front ++ (text ++ (back ++ [')'])))) := by
    rw [← sourceBetween_append _ rest]
    simp
  have single : values.reverse.dropLast.all (!Tree.isRest ·) = true := by
    rw [List.dropLast_reverse, List.all_reverse, List.all_eq_true]
    exact fun value member => by rw [(kept.tail value member).single]; rfl
  have last : (!trailing || mode.ambient || !values.reverse.getLast?.any Tree.isRest) = true := by
    cases trailing with
    | false => rfl
    | true =>
      rw [List.getLast?_reverse]
      cases values with
      | nil => simp
      | cons last values => simp [(kept.trailing rfl last List.mem_cons_self).single]
  refine ⟨values.reverse, tellsThis_values kept, .bind takes_peek ?_⟩
  rw [opening]
  refine .bind (takes_expect (Token.isMark_of_eq opening)) ?_
  rw [Cursor.after_of_next opening]
  refine .bind (.bind (takes_acceptWord_miss subject) (.pure [])) (.bind taken
    (.bind (takes_require single) (.bind takes_read (.bind (takes_require last)
      (.bind takes_behind ?_)))))
  rw [← source]
  exact .pure _

end Parameters

end Parser
end PanelCompiler.Script
