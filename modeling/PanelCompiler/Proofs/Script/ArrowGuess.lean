import PanelCompiler.Proofs.Script.Takes
import PanelCompiler.Script.Parser.Expression

/-!
Where parameters are read, the guess whether an arrow function begins is right: it looks at the
first tokens behind the parenthesis, and parameters tell themselves by these.
-/

namespace PanelCompiler.Script.Parser

variable {mode : Mode} {start stop : Cursor} {g h : Grammar} {tree : Tree}

def Token.followsParameter (token : Token) : Bool :=
  ([":", "=", ",", ")"].any fun mark => Token.isMark token mark) ||
    Token.isMark token "?" &&
      [":", "=", ",", ")"].any fun mark => Token.isMark (Token.following token) mark

theorem Token.followsParameter_mark {token : Token}
    (follows : Token.followsParameter token = true) : token.kind = .mark := by
  simp only [Token.followsParameter, List.any_cons, List.any_nil, Bool.or_false, Bool.or_eq_true,
    Bool.and_eq_true, Token.isMark_iff] at follows
  rcases follows with (colon | equals | comma | closing) | ⟨question, -⟩
  · exact colon.1
  · exact equals.1
  · exact comma.1
  · exact closing.1
  · exact question.1

theorem guessBehindName_likely {token : Token} (follows : Token.followsParameter token = true) :
    guessBehindName token ≠ .absent := by
  simp only [Token.followsParameter, List.any_cons, List.any_nil, Token.isMark, Bool.or_false,
    Bool.or_eq_true, Bool.and_eq_true, beq_iff_eq] at follows
  unfold guessBehindName
  simp only [Bool.and_eq_true, beq_iff_eq, List.contains_cons, List.contains_nil,
    Bool.or_eq_true, Bool.or_false]
  grind

inductive BeginsParameter (mode : Mode) (start : Cursor) : Prop
  | pattern (opening : Token.isMark start.next "[" = true ∨ Token.isMark start.next "\x7b" = true)
  | rest (dots : Token.isMark start.next "..." = true)
  | name (word : start.next.kind = .word)
    (allowed : Mode.allowsName mode start.next.text = true)
    (follows : Token.followsParameter start.after.next = true)

section Parameter

private theorem of_takes_decorators (taken : Takes (decorators g) mode start false stop) :
    stop = start := by
  refine (Takes.iterate_cases (· = true) (fun _ next start stop _ one => ?keeps) taken).elim
    (fun ⟨done, _⟩ => ?done) nofun
  case done =>
    obtain ⟨found, _, accepted, rest⟩ := Takes.of_bind done
    obtain ⟨-, rfl⟩ := takes_accept_iff.mp accepted
    cases found with
    | false => exact (takes_pure_iff.mp rest).2
    | true =>
      obtain ⟨_, _, -, rest⟩ := Takes.of_bind rest
      cases (takes_pure_iff.mp rest).1
  case keeps =>
    obtain ⟨found, _, -, rest⟩ := Takes.of_bind one
    cases found with
    | false => cases (takes_pure_iff.mp rest).1
    | true =>
      obtain ⟨_, _, -, rest⟩ := Takes.of_bind rest
      cases (takes_pure_iff.mp rest).1
      rfl

private theorem of_takes_takeModifiers (taken : Takes takeModifiers mode start [] stop) :
    stop = start := by
  obtain ⟨reversed, _, loop, rest⟩ := Takes.of_bind taken
  obtain ⟨same, rfl⟩ := takes_pure_iff.mp rest
  have none : reversed = [] := by simpa using same.symm
  subst none
  refine (Takes.iterate_cases (· ≠ []) (fun words next start stop _ one => ?keeps) loop).elim
    (fun ⟨done, _⟩ => ?done) (absurd rfl)
  case done =>
    obtain ⟨_, _, one, rest⟩ := Takes.of_bind done
    obtain ⟨rfl, rfl⟩ := takes_peek_iff.mp one
    split at rest
    · obtain ⟨_, _, -, rest⟩ := Takes.of_bind rest
      cases (takes_pure_iff.mp rest).1
    · exact (takes_pure_iff.mp rest).2
  case keeps =>
    obtain ⟨token, _, -, rest⟩ := Takes.of_bind one
    split at rest
    · obtain ⟨_, _, -, rest⟩ := Takes.of_bind rest
      cases (takes_pure_iff.mp rest).1
      exact List.cons_ne_nil _ _
    · cases (takes_pure_iff.mp rest).1

private theorem of_takes_pattern (taken : Takes (pattern h) mode start tree stop) :
    (Token.isMark start.next "[" = true ∨ Token.isMark start.next "\x7b" = true) ∨
      start.next.kind = .word ∧ Mode.allowsName mode start.next.text = true ∧
        stop = start.after := by
  by_cases bracket : Token.isMark start.next "[" = true
  · exact .inl (.inl bracket)
  by_cases brace : Token.isMark start.next "\x7b" = true
  · exact .inl (.inr brace)
  simp only [pattern, takes_bind_iff, takes_atMark_iff, and_assoc, exists_and_left,
    exists_eq_left, bracket, brace, if_false, Bool.false_eq_true] at taken
  obtain ⟨name, middle, named, rest⟩ := taken
  obtain ⟨-, rfl⟩ := takes_pure_iff.mp rest
  exact .inr (of_takes_nameToken named)

/-- A pattern is all of the parameter, or a mark of its type or default value follows. -/
theorem of_takes_plainParameter (taken : Takes (plainParameter g) mode start tree stop)
    (ends : Token.isMark stop.next "," = true ∨ Token.isMark stop.next ")" = true) :
    ∃ target middle, Takes g.pattern mode start target middle ∧
      Token.followsParameter middle.next = true := by
  simp only [plainParameter, acceptText, typeAscription, ascription, defaultValue, optionalAfter,
    takes_accept_iff, takes_bind_iff, takes_pure_iff, takes_require_iff, and_assoc,
    exists_and_left, exists_eq_left] at taken
  obtain ⟨target, middle, first, type, behindType, typed, value, behindValue, valued, -, -,
    built⟩ := taken
  obtain rfl := of_takes_ite_pure built
  have follows : ∀ place : Cursor,
      Takes (if Token.isMark place.next ":" = true then do
          let text ← sourceOf g.type
          return ": " ++ text
        else return "") mode (if Token.isMark place.next ":" = true then place.after else place)
        type behindType →
      [":", "=", ",", ")"].any (fun mark => Token.isMark place.next mark) = true := by
    intro place typed
    by_cases colon : Token.isMark place.next ":" = true
    · simp [colon]
    rw [if_neg colon, if_neg colon] at typed
    obtain ⟨-, rfl⟩ := takes_pure_iff.mp typed
    by_cases equals : Token.isMark behindType.next "=" = true
    · simp [equals]
    rw [if_neg equals, if_neg equals] at valued
    obtain ⟨-, rfl⟩ := takes_pure_iff.mp valued
    rcases ends with comma | closing
    · simp [comma]
    · simp [closing]
  refine ⟨target, middle, first, Bool.or_eq_true_iff.mpr ?_⟩
  by_cases question : Token.isMark middle.next "?" = true
  · rw [if_pos question] at typed
    exact .inr (Bool.and_eq_true_iff.mpr ⟨question, follows _ typed⟩)
  · rw [if_neg question] at typed
    exact .inl (follows _ typed)

private theorem of_takes_formalParameter (inner : g.pattern = pattern h)
    (taken : Takes (formalParameter g .function) mode start tree stop)
    (ends : Token.isMark stop.next "," = true ∨ Token.isMark stop.next ")" = true) :
    BeginsParameter mode start := by
  simp only [formalParameter, takes_bind_iff, takes_require_iff, takes_atMark_iff, and_assoc,
    exists_and_left, exists_eq_left, exists_const] at taken
  obtain ⟨decorated, _, decorating, undecorated, words, _, modifying, unmodified, taken⟩ := taken
  have plain : decorated = false := by simpa using undecorated
  subst plain
  obtain rfl := of_takes_decorators decorating
  have none : words = [] := by
    cases words with
    | nil => rfl
    | cons word words => simp [areModifiersOf, Signature.modifiers] at unmodified
  subst none
  obtain rfl := of_takes_takeModifiers modifying
  split at taken
  · rename_i dots
    exact .rest dots
  · simp only [takes_bind_iff, takes_peek_iff, takes_require_iff, and_assoc, exists_and_left,
      exists_eq_left, exists_const] at taken
    obtain ⟨target, middle, first, follows⟩ := of_takes_plainParameter taken.2 ends
    rw [inner] at first
    rcases of_takes_pattern first with opening | ⟨word, allowed, rfl⟩
    · exact .pattern opening
    · exact .name word allowed follows

private theorem of_takes_thisParameter {subject : List Tree}
    (taken : Takes (thisParameter g) mode start subject stop) :
    (subject = [] ∧ stop = start) ∨ ∀ items, tellsThis (subject ++ items) = true := by
  obtain ⟨found, _, accepted, rest⟩ := Takes.of_bind taken
  obtain ⟨-, rfl⟩ := takes_acceptWord_iff.mp accepted
  cases found with
  | false => exact .inl (takes_pure_iff.mp rest)
  | true =>
    obtain ⟨type, _, -, rest⟩ := Takes.of_bind rest
    obtain ⟨closing, _, -, rest⟩ := Takes.of_bind rest
    have told : subject =
        [if type.isEmpty then .name "this" else .binding (.name "this") type none] := by
      cases closing with
      | true => exact (takes_pure_iff.mp rest).1
      | false =>
        obtain ⟨_, _, -, rest⟩ := Takes.of_bind rest
        exact (takes_pure_iff.mp rest).1
    refine .inr fun items => ?_
    rw [told]
    cases type.isEmpty <;> simp [tellsThis, takingArguments]

/-- Parameters that do not tell the type of `this`: there are none, or the first one begins. -/
theorem of_takes_formalParameters {text : String} {parameters : List Tree}
    (inner : g.pattern = pattern h)
    (taken : Takes (formalParameters g .function) mode start (text, parameters) stop)
    (bound : tellsThis parameters = false) :
    (Token.isMark start.after.next ")" = true ∧ stop = start.after.after) ∨
      BeginsParameter (Mode.bracketed mode) start.after := by
  simp only [formalParameters, takes_expect_iff, takes_bind_iff, takes_peek_iff, takes_behind_iff,
    takes_read_iff, takes_pure_iff, takes_require_iff, and_assoc, exists_and_left, exists_eq_left,
    exists_const, Prod.mk.injEq] at taken
  obtain ⟨opens, subject, behind, subjects, items, last, list, -, -, -, rfl, rfl⟩ := taken
  rcases of_takes_thisParameter subjects with ⟨rfl, rfl⟩ | tells
  · rcases of_takes_commaListEnd list with closed | ⟨value, middle, first, ends⟩
    · exact .inl closed
    · exact .inr (of_takes_formalParameter inner first ends)
  · rw [tells] at bound
    cases bound

end Parameter

/-- An arrow function is taken to begin in front of an arrow behind empty parentheses, and in front
of a parameter. In a module no name is `await`, so one that begins the parameters does not count. -/
theorem takes_guessBehindParenthesis {inner : Mode} (same : mode.yield = inner.yield)
    (begins : (Token.isMark start.next ")" = true ∧ Token.isMark start.after.next "=>" = true) ∨
      BeginsParameter inner start)
    (free : start.next.kind = .word → start.next.text ≠ "await") :
    ∃ guess, guess ≠ .absent ∧ Takes guessBehindParenthesis mode start guess start := by
  have second : Token.following start.next = start.after.next := rfl
  rcases begins with ⟨closing, arrow⟩ | opening | dots | ⟨word, allowed, follows⟩
  · refine ⟨.certain, nofun, .bind takes_peek ?_⟩
    have typed : Token.isMark start.after.next ":" = false := Token.isMark_ne arrow (by decide)
    rw [if_pos closing, second, typed, arrow]
    exact .pure _
  · refine ⟨.possible, nofun, .bind takes_peek ?_⟩
    have closing : Token.isMark start.next ")" = false := by
      rcases opening with bracket | brace
      · exact Token.isMark_ne bracket (by decide)
      · exact Token.isMark_ne brace (by decide)
    rw [if_neg (by simp [closing]), if_pos (by simpa using opening)]
    exact .pure _
  · refine ⟨.certain, nofun, .bind takes_peek ?_⟩
    have apart : ∀ mark ∈ [")", "[", "\x7b"], Token.isMark start.next mark = false := by
      intro mark member
      exact Token.isMark_ne dots (by rintro rfl; simp at member)
    rw [if_neg (by simp [apart]), if_neg (by simp [apart]), if_pos dots]
    exact .pure _
  · refine ⟨guessBehindName start.after.next, guessBehindName_likely follows,
      .bind takes_peek ?_⟩
    have unmarked := Token.isMark_eq_false (show start.next.kind ≠ .mark by simp [word])
    have marked := Token.followsParameter_mark follows
    have named : (start.next.kind == .word && Mode.allowsName mode start.next.text) = true := by
      simp only [Mode.allowsName, Bool.and_eq_true, Bool.not_eq_true', Bool.and_eq_false_iff,
        beq_iff_eq, beq_eq_false_iff_ne] at allowed ⊢
      exact ⟨word, ⟨allowed.1.1, .inr (free word)⟩, same ▸ allowed.2⟩
    rw [if_neg (by simp [unmarked]), if_neg (by simp [unmarked]), if_neg (by simp [unmarked])]
    refine .bind takes_isNameToken ?_
    rw [if_neg (by simp [second, marked])]
    refine .bind takes_isNameToken ?_
    rw [if_pos (by simp [named])]
    exact .pure _

end PanelCompiler.Script.Parser
