import PanelCompiler.Proofs.Directive.Qualifier
import PanelCompiler.Proofs.Directive.Wrap
import PanelCompiler.Proofs.Script.Lexemes
import PanelCompiler.Proofs.Value.Expression

/-!
The expression of a directive as an operand. A condition is written in front of `&&` as it is, and
the source of a loop in front of `.map`, so each is the operand there only if it binds as tightly.
A looser one keeps its first operands to itself: what follows joins the last of them.
-/

namespace PanelCompiler

namespace Script.Expression

/-- What an expression becomes when `&&` and an element follow it: they join its last operand that
binds as tightly. Behind `??` they cannot stand without parentheses. -/
def guarded (markup : String) : Expression → Option Expression
  | .function _ => none
  | .binary .or left right => some (.binary .or left (.binary .and right (.element markup)))
  | .binary .coalesce _ _ => none
  | .conditional test yes no => (guarded markup no).map (.conditional test yes)
  | tight => some (.binary .and tight (.element markup))

/-- What an expression becomes when a call of `map` follows it: the call is made on its last
operand. -/
def mapped (source : String) : Expression → Option Expression
  | .function _ => none
  | .not operand => (mapped source operand).map .not
  | .binary operator left right => (mapped source right).map (.binary operator left)
  | .conditional test yes no => (mapped source no).map (.conditional test yes)
  | tight => some (.call (.member tight ['m', 'a', 'p']) [.function source])

section Guarded

variable {markup : String} {expression whole : Expression}

theorem lexemes_guarded (made : expression.guarded markup = some whole) :
    whole.lexemes = expression.lexemes ++ [.operator .and, .element markup] := by
  fun_induction guarded markup expression generalizing whole with
  | case1 | case3 => cases made
  | case2 left right =>
    cases made
    simp [lexemes]
  | case4 test yes no ih =>
    obtain ⟨inner, given, rfl⟩ := Option.map_eq_some_iff.mp made
    simp [lexemes, ih given]
  | case5 tight =>
    cases made
    simp [lexemes]

/-- An element depends on the whole of an expression exactly if that binds as tightly as `&&`. -/
theorem fits_and_iff (fits : expression.Fits) :
    (binary .and expression (.element markup)).Fits ↔ Operator.and.level ≤ expression.level := by
  constructor
  · rintro (_ | _ | _ | _ | _ | _ | _ | _ | ⟨_, _, holds⟩)
    exact holds.levels.1
  · intro tight
    exact .binary fits (.element markup) ⟨tight, show Operator.and.level < Level.call by decide⟩

theorem fits_guarded (fits : expression.Fits) (made : expression.guarded markup = some whole) :
    whole.Fits := by
  induction fits generalizing whole with
  | function => cases made
  | name | element | parenthesized | member | index | call | not =>
    cases made
    refine (fits_and_iff ?_).mpr (by simp only [level]; decide)
    constructor <;> assumption
  | @binary operator left right first second levels =>
    cases operator with
    | coalesce => cases made
    | and =>
      cases made
      exact (fits_and_iff (.binary first second levels)).mpr (Nat.le_refl _)
    | or =>
      cases made
      have looser : Operator.or.level < Operator.and.level := by decide
      exact .binary first ((fits_and_iff second).mpr levels.2) ⟨levels.1, looser⟩
  | conditional decides first second short _ _ ih =>
    obtain ⟨inner, given, rfl⟩ := Option.map_eq_some_iff.mp made
    exact .conditional decides first (ih given) short

end Guarded

section Mapped

variable {source : String} {expression whole : Expression}

theorem lexemes_mapped (made : expression.mapped source = some whole) :
    whole.lexemes = expression.lexemes ++
      [.point, .word ['m', 'a', 'p'], .opening, .function source, .closing] := by
  fun_induction mapped source expression generalizing whole with
  | case1 => cases made
  | case2 operand ih | case3 operator left right ih | case4 test yes no ih =>
    obtain ⟨inner, given, rfl⟩ := Option.map_eq_some_iff.mp made
    simp [lexemes, ih given]
  | case5 tight =>
    cases made
    simp [lexemes, separated]

private theorem level_mapped (made : expression.mapped source = some whole) :
    whole.level = expression.level := by
  cases expression with
  | function => cases made
  | not | binary | conditional =>
    obtain ⟨inner, _, rfl⟩ := Option.map_eq_some_iff.mp made
    rfl
  | _ =>
    cases made
    rfl

/-- The list of a call of `map` is the whole of an expression exactly if that can be called. -/
theorem fits_call_iff (fits : expression.Fits) :
    (call (.member expression ['m', 'a', 'p']) [.function source]).Fits ↔
      Level.call ≤ expression.level := by
  constructor
  · rintro (_ | _ | _ | _ | _ | _ | ⟨_ | _ | _ | _ | ⟨_, tight, _⟩, _, _⟩)
    exact tight
  · intro tight
    refine .call (.member fits tight (by decide)) (Nat.le_refl _) fun argument given => ?_
    exact List.mem_singleton.mp given ▸ .function source

theorem fits_mapped (fits : expression.Fits) (made : expression.mapped source = some whole) :
    whole.Fits := by
  induction fits generalizing whole with
  | function => cases made
  | name | element | parenthesized | member | index | call =>
    cases made
    refine (fits_call_iff ?_).mpr (Nat.le_refl _)
    constructor <;> assumption
  | not of tight ih =>
    obtain ⟨inner, given, rfl⟩ := Option.map_eq_some_iff.mp made
    exact .not (ih given) (level_mapped given ▸ tight)
  | binary first second levels _ ih =>
    obtain ⟨inner, given, rfl⟩ := Option.map_eq_some_iff.mp made
    exact .binary first (ih given) (level_mapped given ▸ levels)
  | conditional decides first second short _ _ ih =>
    obtain ⟨inner, given, rfl⟩ := Option.map_eq_some_iff.mp made
    exact .conditional decides first (ih given) short

/-- Only a function at the end of an expression is in the way of a call. -/
theorem function_of_mapped (made : expression.mapped source = none) :
    ∃ inner, .function inner ∈ expression.lexemes := by
  fun_induction mapped source expression with
  | case1 inner => exact ⟨inner, List.mem_singleton_self _⟩
  | case2 operand ih | case3 operator left right ih | case4 test yes no ih =>
    obtain ⟨inner, member⟩ := ih (Option.map_eq_none_iff.mp made)
    exact ⟨inner, by simp [lexemes, member]⟩
  | case5 => cases made

end Mapped

end Script.Expression

namespace Directive

open Script (Expression Level Operator Reads isGap gap_of_blank gap_outside lexemes?
  lexemes?_append lexemes?_append_gaps lexemes?_gaps lexemes?_trim function_not_mem)

/-- What stands in front of a fragment with a condition. -/
def guardText (source : String) : String :=
  Text.trimmed source ++ " && "

/-- What stands in front of the function of a loop. -/
def listText (source : String) : String :=
  String.ofList (outsideQualifiers (Text.trim source.toList)) ++ ".map("

def loopFunction (bindings : Bindings) (body : String) : String :=
  "(" ++ bindings.item ++ ":any, " ++ bindings.index ++ ":number) => \x7b\n return (" ++ body ++
    ");\n\x7d"

section Gaps

private theorem stripQualifiers_gaps {gaps : List Char} (gap : ∀ c ∈ gaps, isGap c = true) :
    stripQualifiers gaps = gaps := by
  refine stripFrom_absent (show 't' ∈ qualifier by decide) none fun member => ?_
  exact absurd (gap 't' member) (by decide)

/-- No qualifier reaches from a text into the gaps around it. -/
theorem stripQualifiers_between {front back : List Char} (leading : ∀ c ∈ front, isGap c = true)
    (trailing : ∀ c ∈ back, isGap c = true) (text : List Char) :
    stripQualifiers (front ++ (text ++ back)) = front ++ (stripQualifiers text ++ back) := by
  have start : endsWord front.getLast? = true := by
    cases last : front.getLast? with
    | none => rfl
    | some c => exact endsWord_outside (gap_outside (leading c (List.mem_of_getLast? last))).2
  have behind : stripQualifiers (text ++ back) = stripQualifiers text ++ back := by
    cases back with
    | nil => simp
    | cons c more =>
      have gap := trailing c List.mem_cons_self
      have point : c ≠ '.' := by
        rintro rfl
        exact absurd gap (by decide)
      rw [stripQualifiers_mark (gap_outside gap).2 point,
        stripQualifiers_gaps fun d member => trailing d (List.mem_cons_of_mem c member)]
  rw [stripQualifiers_append start, stripQualifiers_gaps leading, behind]

end Gaps

section Texts

private theorem loopText_eq (source body : String) (bindings : Bindings) :
    loopText source bindings body = source ++ ".map(" ++ loopFunction bindings body ++ ")" := by
  have opening : ".map((" = ".map(" ++ "(" := rfl
  have closing : ");\n\x7d)" = ");\n\x7d" ++ ")" := rfl
  rw [loopText, loopFunction, opening, closing]
  simp only [String.append_assoc]

variable (source : String)

theorem wrapCondition_template (fragment : String) (path : Path) :
    wrapCondition (.templateExpression source) fragment path =
      .ok (guardText source ++ fragment) := by
  have guard : conditionSource (.templateExpression source) path = .ok (Text.trimmed source) := by
    have given : conditionSource (.templateExpression source) path =
        (Json.templateExpression source).toSource .attribute path := rfl
    rw [given, Json.toSource, Json.ofJson_templateExpression]
  rw [wrapCondition, guard]
  rfl

theorem wrapLoop_template {fragment : String} (opens : Opens fragment)
    (arguments : Option (List String)) (path : Path) :
    ∃ body, wrapLoop (.templateExpression source) arguments fragment path =
      .ok (listText source ++ loopFunction (Bindings.ofArguments arguments) body ++ ")") := by
  obtain ⟨⟨opening, rest⟩, found⟩ := Option.isSome_iff_exists.mp opens
  have runs : loopSource (.templateExpression source) path = .ok (Text.trimmed source) := by
    simp only [Json.templateExpression, loopSource, Value.expressionBody?_template, Text.trimmed]
  have made : wrapLoop (.templateExpression source) arguments fragment path = .ok _ :=
    wrapLoop_opened runs found
  rw [loopAround, loopText_eq, Text.trimmed, String.toList_ofList, stripQualifiers_eq_outside]
    at made
  exact ⟨_, made⟩

theorem lexemes?_guardText : lexemes? (guardText source).toList =
    (lexemes? source.toList).map (· ++ [.operator .and]) := by
  have own : lexemes? " && ".toList = some [.operator .and] := rfl
  have apart : Script.Apart " && ".toList := by
    intro c first
    cases first
    decide
  rw [guardText, Text.trimmed, String.toList_append, String.toList_ofList, lexemes?_append _ apart,
    own, lexemes?_trim]
  cases lexemes? source.toList <;> rfl

/-- Once the qualifiers are out of a text, the blanks at its ends are still in no lexeme. -/
theorem lexemes?_outside_trim (text : List Char) :
    lexemes? (outsideQualifiers (Text.trim text)) = lexemes? (outsideQualifiers text) := by
  obtain ⟨front, back, before, after, whole⟩ := Text.exists_trim text
  have leading : ∀ c ∈ front, isGap c = true := fun c member => gap_of_blank (before c member)
  have trailing : ∀ c ∈ back, isGap c = true := fun c member => gap_of_blank (after c member)
  have same := congrArg (fun text => lexemes? (stripQualifiers text)) whole
  rw [stripQualifiers_between leading trailing, lexemes?_gaps leading,
    lexemes?_append_gaps trailing] at same
  rw [← stripQualifiers_eq_outside, ← stripQualifiers_eq_outside]
  exact same.symm

theorem lexemes?_listText : lexemes? (listText source).toList =
    (lexemes? (outsideQualifiers source.toList)).map
      (· ++ [.point, .word ['m', 'a', 'p'], .opening]) := by
  have own : lexemes? ".map(".toList = some [.point, .word ['m', 'a', 'p'], .opening] := rfl
  have apart : Script.Apart ".map(".toList := by
    intro c first
    cases first
    decide
  rw [listText, String.toList_append, String.toList_ofList, lexemes?_append _ apart, own,
    lexemes?_outside_trim]
  cases lexemes? (outsideQualifiers source.toList) <;> rfl

end Texts

section Operands

variable {source : String} {expression object whole : Expression}

theorem reads_guard_iff (reads : Reads source.toList [] expression) (fragment : String) :
    Reads (guardText source).toList [.element fragment]
        (.binary .and expression (.element fragment)) ↔
      Operator.and.level ≤ expression.level := by
  rw [reads.iff_lexemes (lexemes?_guardText source), Expression.fits_and_iff reads.fits]
  exact and_iff_left (by simp [Expression.lexemes])

theorem reads_guarded (reads : Reads source.toList [] expression) {fragment : String}
    (made : expression.guarded fragment = some whole) (other : Expression) :
    Reads (guardText source).toList [.element fragment] other ↔ other = whole := by
  refine Reads.iff_eq ((reads.iff_lexemes (lexemes?_guardText source)).mpr ?_) other
  exact ⟨Expression.fits_guarded reads.fits made, Expression.lexemes_guarded made⟩

theorem reads_list_iff (reads : Reads (outsideQualifiers source.toList) [] object)
    (function : String) :
    Reads (listText source).toList [.function function, .closing]
        (.call (.member object ['m', 'a', 'p']) [.function function]) ↔
      Level.call ≤ object.level := by
  rw [reads.iff_lexemes (lexemes?_listText source), Expression.fits_call_iff reads.fits]
  exact and_iff_left (by simp [Expression.lexemes, Expression.separated])

private theorem object_eq (reads : Reads source.toList [] expression)
    (unqualified : Reads (outsideQualifiers source.toList) [] object)
    (plain : Unqualified source.toList) : object = expression := by
  rw [← stripQualifiers_eq_outside, stripQualifiers_eq_self_iff.mpr plain] at unqualified
  exact unqualified.unique reads

private theorem reads_mapped (reads : Reads (outsideQualifiers source.toList) [] object)
    (function : String) : ∃ whole, object.mapped function = some whole ∧
      ∀ other, Reads (listText source).toList [.function function, .closing] other ↔
        other = whole := by
  cases made : object.mapped function with
  | none =>
    obtain ⟨inner, member⟩ := Expression.function_of_mapped made
    exact absurd member (function_not_mem reads.lexemes inner)
  | some whole =>
    refine ⟨whole, rfl, Reads.iff_eq ((reads.iff_lexemes (lexemes?_listText source)).mpr ?_)⟩
    exact ⟨Expression.fits_mapped reads.fits made, Expression.lexemes_mapped made⟩

end Operands

/-- The expression of a condition is the left operand of the conjunction with a fragment exactly if
it binds as tightly as `&&`. The expression of a loop, without its qualifiers, is the list whose
`map` is called exactly if it can be called. Otherwise the fragment and the call go to the last
operand. -/
theorem wrapped_operand_iff {source fragment : String} {expression : Expression}
    (reads : Reads source.toList [] expression) (opens : Opens fragment)
    (arguments : Option (List String)) (path : Path) :
    wrapCondition (.templateExpression source) fragment path =
        .ok (guardText source ++ fragment) ∧
      (Reads (guardText source).toList [.element fragment]
          (.binary .and expression (.element fragment)) ↔
        Operator.and.level ≤ expression.level) ∧
      (∀ whole, expression.guarded fragment = some whole →
        ∀ other, Reads (guardText source).toList [.element fragment] other ↔ other = whole) ∧
    ∃ body,
      let function := loopFunction (Bindings.ofArguments arguments) body
      wrapLoop (.templateExpression source) arguments fragment path =
          .ok (listText source ++ function ++ ")") ∧
        ∀ object, Reads (outsideQualifiers source.toList) [] object →
          (Unqualified source.toList → object = expression) ∧
          (Reads (listText source).toList [.function function, .closing]
              (.call (.member object ['m', 'a', 'p']) [.function function]) ↔
            Level.call ≤ object.level) ∧
          ∃ whole, object.mapped function = some whole ∧
            ∀ other, Reads (listText source).toList [.function function, .closing] other ↔
              other = whole := by
  obtain ⟨body, looped⟩ := wrapLoop_template source opens arguments path
  refine ⟨wrapCondition_template source fragment path, reads_guard_iff reads fragment,
    fun whole made => reads_guarded reads made, body, looped, fun object unqualified => ?_⟩
  exact ⟨object_eq reads unqualified, reads_list_iff unqualified _, reads_mapped unqualified _⟩

/-- The rows of a state, as a condition and as a list. -/
theorem wrapped_operand_iff_rows :
    let rows (state : Expression) := Expression.member state "rows".toList
    let expression := rows (.member (.name "this".toList) "state".toList)
    let object := rows (.name "state".toList)
    let source := "this.state.rows"
    Reads source.toList [] expression ∧ Opens "<li />" ∧
      Reads (guardText source).toList [.element "<li />"]
        (.binary .and expression (.element "<li />")) ∧
      Reads (outsideQualifiers source.toList) [] object ∧
      ∃ function, Reads (listText source).toList [.function function, .closing]
        (.call (.member object ['m', 'a', 'p']) [.function function]) := by
  intro rows expression object source
  have this : (Expression.name "this".toList).Fits := .name (by decide +kernel)
  have state : (Expression.name "state".toList).Fits := .name (by decide +kernel)
  have reads : Reads source.toList [] expression :=
    ⟨.member (.member this (Nat.le_refl _) (by decide +kernel)) (Nat.le_refl _) (by decide +kernel),
      by decide +kernel⟩
  have unqualified : Reads (outsideQualifiers source.toList) [] object :=
    ⟨.member state (Nat.le_refl _) (by decide +kernel), by decide +kernel⟩
  have opens : Opens "<li />" := opens_of_letter (c := 'l') (by decide) (by decide +kernel)
  obtain ⟨_, guard, _, body, _, list⟩ := wrapped_operand_iff reads opens none .root
  exact ⟨reads, opens, guard.mpr (by decide), unqualified, _,
    (list object unqualified).2.1.mpr (Nat.le_refl _)⟩

/-- An element behind a disjunction depends on its second part only, and so does a loop. -/
theorem disjunction_divided :
    let a := Expression.name ['a']
    let b := Expression.name ['b']
    let source := "a || b"
    let condition := Expression.binary .and (.binary .or a b) (.element "<div />")
    Reads source.toList [] (.binary .or a b) ∧
      wrapCondition (.templateExpression source) "<div />" .root = .ok "a || b && <div />" ∧
      (∀ other, Reads (guardText source).toList [.element "<div />"] other ↔
        other = .binary .or a (.binary .and b (.element "<div />"))) ∧
      ¬ Reads (guardText source).toList [.element "<div />"] condition ∧
      ∀ function, ¬ Reads (listText source).toList [.function function, .closing]
        (.call (.member (.binary .or a b) ['m', 'a', 'p']) [.function function]) := by
  intro a b source condition
  have reads : Reads source.toList [] (.binary .or a b) :=
    ⟨.binary (.name (by decide +kernel)) (.name (by decide +kernel)) (by decide), by decide +kernel⟩
  have plain : outsideQualifiers source.toList = source.toList := by decide +kernel
  have unqualified : Reads (outsideQualifiers source.toList) [] (.binary .or a b) := by
    rwa [plain]
  have guarded := wrapCondition_template source "<div />" .root
  rw [show guardText source ++ "<div />" = "a || b && <div />" by decide +kernel] at guarded
  refine ⟨reads, guarded, reads_guarded reads rfl, fun read => ?_, fun function read => ?_⟩
  · exact absurd ((reads_guard_iff reads "<div />").mp read) (by decide)
  · exact absurd ((reads_list_iff unqualified function).mp read) (by decide)

end Directive

end PanelCompiler
