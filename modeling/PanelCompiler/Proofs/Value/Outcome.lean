import PanelCompiler.Walk.DataMethod
import PanelCompiler.Walk.Markup

/-!
Outcomes compared up to their errors. The path of a node is told in errors only: what is written
out for a node, its values and its data sources is the same wherever the node stands.
-/

namespace PanelCompiler

section Outcomes

variable {α β : Type}

/-- The same value, or both an error. -/
def SameOutcome (first second : Except CompileError α) : Prop :=
  first.toOption = second.toOption

namespace SameOutcome

variable {first second : Except CompileError α}

theorem refl (outcome : Except CompileError α) : SameOutcome outcome outcome :=
  rfl

theorem inv (same : SameOutcome first second) :
    (∃ fault other, first = .error fault ∧ second = .error other) ∨
      ∃ value, first = .ok value ∧ second = .ok value := by
  cases first with
  | error fault =>
    cases second with
    | error other => exact .inl ⟨fault, other, rfl, rfl⟩
    | ok value => cases same
  | ok value =>
    cases second with
    | error fault => cases same
    | ok other =>
      cases same
      exact .inr ⟨value, rfl, rfl⟩

theorem bind {next other : α → Except CompileError β} (head : SameOutcome first second)
    (tail : ∀ value, SameOutcome (next value) (other value)) :
    SameOutcome (first >>= next) (second >>= other) := by
  obtain ⟨_, _, rfl, rfl⟩ | ⟨value, rfl, rfl⟩ := head.inv
  · rfl
  · exact tail value

theorem map (same : SameOutcome first second) (change : α → β) :
    SameOutcome (first.map change) (second.map change) := by
  obtain ⟨_, _, rfl, rfl⟩ | ⟨value, rfl, rfl⟩ := same.inv
  · rfl
  · rfl

theorem eq_ok_iff (same : SameOutcome first second) (value : α) :
    first = .ok value ↔ second = .ok value := by
  obtain ⟨_, _, rfl, rfl⟩ | ⟨given, rfl, rfl⟩ := same.inv
  · exact iff_of_false nofun nofun
  · rfl

end SameOutcome

variable {first : Except CompileError α}

theorem bind_eq_ok {next : α → Except CompileError β} {value : β}
    (made : (first >>= next) = .ok value) :
    ∃ middle, first = .ok middle ∧ next middle = .ok value := by
  cases first with
  | error fault => cases made
  | ok middle => exact ⟨middle, rfl, made⟩

theorem map_eq_ok {change : α → β} {value : β} (made : first.map change = .ok value) :
    ∃ middle, first = .ok middle ∧ change middle = value := by
  cases first with
  | error fault => cases made
  | ok middle =>
    cases made
    exact ⟨middle, rfl, rfl⟩

end Outcomes

theorem functionParts_anywhere (source : String) (here there : Path) :
    SameOutcome (functionParts source here) (functionParts source there) := by
  unfold functionParts
  cases Script.FunctionParts.ofSource source <;> rfl

theorem Json.toSource_anywhere (value : Json) (position : Position) (here there : Path) :
    SameOutcome (value.toSource position here) (value.toSource position there) := by
  unfold toSource
  cases ValueClass.ofJson value with
  | function source => exact (functionParts_anywhere source here there).map _
  | expression _ => rfl
  | literal _ => rfl
  | data _ => rfl

namespace Directive

theorem loopSource_anywhere (source : Json) (here there : Path) :
    SameOutcome (loopSource source here) (loopSource source there) := by
  unfold loopSource
  split
  · rfl
  · split <;> rfl
  · rfl

private theorem injectKey_anywhere (fragment index : String) (here there : Path) :
    SameOutcome (injectKey fragment index here) (injectKey fragment index there) := by
  unfold injectKey
  cases splitOpeningTag? fragment.toList <;> rfl

theorem wrapLoop_anywhere (source : Json) (arguments : Option (List String)) (fragment : String)
    (here there : Path) :
    SameOutcome (wrapLoop source arguments fragment here)
      (wrapLoop source arguments fragment there) := by
  refine (loopSource_anywhere source here there).bind fun text => ?_
  exact (injectKey_anywhere fragment _ here there).bind fun _ => .refl _

private theorem wrapCondition_anywhere (condition : Json) (fragment : String) (here there : Path) :
    SameOutcome (wrapCondition condition fragment here)
      (wrapCondition condition fragment there) := by
  have guard : SameOutcome (conditionSource condition here) (conditionSource condition there) := by
    unfold conditionSource
    split
    · rfl
    · rfl
    · exact condition.toSource_anywhere .attribute here there
  exact guard.bind fun _ => .refl _

end Directive

namespace Markup

theorem propAttributes_anywhere (props : Fields) (here there : Path) :
    SameOutcome (propAttributes here props) (propAttributes there props) := by
  induction props with
  | nil => rfl
  | cons prop rest ih =>
    obtain ⟨key, value⟩ := prop
    unfold propAttributes
    split
    · exact ih
    · exact (value.toSource_anywhere .attribute _ _).bind fun _ => ih.bind fun _ => .refl _

theorem textContent_anywhere (node : Node) (here there : Path) :
    SameOutcome (textContent node here) (textContent node there) := by
  unfold textContent
  split
  · exact Json.toSource_anywhere _ .content _ _
  · rfl

theorem imageSource_anywhere (node : Node) (here there : Path) :
    SameOutcome (imageSource node here) (imageSource node there) :=
  Json.toSource_anywhere _ .attribute _ _

theorem withDirectives_anywhere (node : Node) (markup : String) (here there : Path) :
    SameOutcome (withDirectives node here markup) (withDirectives node there markup) := by
  have looped : SameOutcome (withLoop node here markup) (withLoop node there markup) := by
    unfold withLoop
    split
    · exact Directive.wrapLoop_anywhere _ _ _ _ _
    · rfl
  refine looped.bind fun text => ?_
  unfold withCondition
  split
  · exact Directive.wrapCondition_anywhere _ _ _ _
  · rfl

end Markup

theorem DataSource.methodSource_anywhere (source : DataSource) (here there : Path) :
    SameOutcome (source.methodSource here) (source.methodSource there) := by
  unfold methodSource
  refine (Json.toSource_anywhere _ .attribute _ _).bind fun uri => ?_
  refine (SameOutcome.refl source.payloadSource).bind fun payload => ?_
  cases source.handler with
  | none => exact .refl _
  | some handler =>
    have parts := functionParts_anywhere (handlerSource handler) (here.field "dataHandler")
      (there.field "dataHandler")
    exact (parts.map handlerSteps).bind fun _ => .refl _

end PanelCompiler
