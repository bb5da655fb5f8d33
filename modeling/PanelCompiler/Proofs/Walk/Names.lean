import Mathlib.Data.List.DropRight
import Mathlib.Data.List.Nodup
import PanelCompiler.Panel.Compile
import PanelCompiler.Proofs.Tree.Address
import PanelCompiler.Proofs.Walk.Components
import PanelCompiler.Proofs.Walk.Steps

namespace PanelCompiler

/-- A label that does not end in a digit, so that a number after it can be told apart. -/
def Unnumbered (label : String) : Prop :=
  label.toList.rtakeWhile Char.isDigit = []

instance (label : String) : Decidable (Unnumbered label) :=
  inferInstanceAs (Decidable (_ = _))

theorem Kind.displayName_unnumbered (kind : Kind) : Unnumbered kind.displayName := by
  cases kind <;> decide +kernel

theorem Unnumbered.rtakeWhile {label : String} (unnumbered : Unnumbered label) (number : Nat) :
    (label ++ toString number).toList.rtakeWhile Char.isDigit = Nat.toDigits 10 number := by
  have digits : ∀ digit ∈ (Nat.toDigits 10 number).reverse, digit.isDigit = true := by
    intro digit member
    exact Nat.isDigit_of_mem_toDigits (by decide) (by decide) (List.mem_reverse.mp member)
  have ending : label.toList.reverse.takeWhile Char.isDigit = [] :=
    List.reverse_eq_nil_iff.mp unnumbered
  rw [String.toList_append, Nat.toString_eq_repr, Nat.toList_repr, List.rtakeWhile,
    List.reverse_append, List.takeWhile_append_of_pos digits, ending, List.append_nil,
    List.reverse_reverse]

/-- Labels that do not end in a digit leave their numbers readable. -/
theorem Unnumbered.inj {first second : String} {number other : Nat} (left : Unnumbered first)
    (right : Unnumbered second)
    (same : first ++ toString number = second ++ toString other) : number = other := by
  -- The labels may differ, so nothing cancels on the left: the digits are read from the right.
  have digits := left.rtakeWhile number
  rw [same, right.rtakeWhile] at digits
  have read := congrArg (Nat.ofDigitChars 10 · 0) digits
  simpa only [Nat.ofDigitChars_ten_toDigits] using read.symm

/-- The names that a component can have by its slot. -/
inductive NamedAt (rootName : String) : Nat → String → Prop
  | root : NamedAt rootName 0 rootName
  | numbered {label : String} (slot : Nat) (unnumbered : Unnumbered label) :
    NamedAt rootName (slot + 1) (rootName ++ label ++ toString (slot + 1))

theorem numbered_ne_root (rootName label : String) (slot : Nat) :
    rootName ++ label ++ toString slot ≠ rootName := by
  intro same
  have shorter := congrArg String.length same
  have digits : (toString slot).length ≠ 0 := by
    rw [Nat.toString_eq_repr, String.length_eq_zero_iff.ne]
    exact Nat.repr_ne_empty
  simp only [String.length_append] at shorter
  omega

theorem NamedAt.inj {rootName name other : String} {first second : Nat}
    (left : NamedAt rootName first name) (right : NamedAt rootName second other)
    (same : name = other) : first = second := by
  cases left with
  | root =>
    cases right with
    | root => rfl
    | numbered slot _ => exact absurd same.symm (numbered_ne_root _ _ _)
  | numbered slot unnumbered =>
    cases right with
    | root => exact absurd same (numbered_ne_root _ _ _)
    | numbered last others =>
      rw [String.append_assoc, String.append_assoc, String.append_right_inj] at same
      exact unnumbered.inj others same

def Context.names (context : Context) : List String :=
  context.components.map (·.name)

namespace Context

theorem names_reserve (context : Context) (kindName : String) :
    (context.reserve kindName).names = context.names ++ [context.nextName kindName] := by
  simp [names, reserve]

theorem names_fill (context : Context) (slot : Nat) (source : String → String) :
    (context.fill slot source).names = context.names := by
  refine List.ext_getElem? fun index => ?_
  simp only [names, fill, List.getElem?_map, List.getElem?_modify]
  cases context.components[index]? with
  | none => rfl
  | some component => by_cases here : slot = index <;> simp [here]

end Context

/-- The components of a context are named by their slots. -/
structure Context.Numbered (rootName : String) (context : Context) : Prop where
  root : context.rootName = rootName
  named (slot : Nat) (name : String) : context.names[slot]? = some name →
    NamedAt rootName slot name

namespace Context.Numbered

variable {rootName : String} {context other : Context}

theorem fresh (rootName : String) : Numbered rootName (Context.fresh rootName) where
  root := rfl
  named slot name found := by simp [names, Context.fresh] at found

theorem congr (numbered : Numbered rootName context) (root : other.rootName = context.rootName)
    (names : other.names = context.names) : Numbered rootName other where
  root := root.trans numbered.root
  named := names ▸ numbered.named

private theorem nextName (numbered : Numbered rootName context) {kindName : String}
    (unnumbered : Unnumbered kindName) :
    NamedAt rootName context.names.length (context.nextName kindName) := by
  rw [Walk.nextName_eq, numbered.root, names, List.length_map]
  cases context.components.length with
  | zero => exact .root
  | succ slot => exact .numbered slot unnumbered

theorem reserve (numbered : Numbered rootName context) {kindName : String}
    (unnumbered : Unnumbered kindName) : Numbered rootName (context.reserve kindName) where
  root := numbered.root
  named slot name found := by
    rw [names_reserve, List.getElem?_append] at found
    split at found
    · exact numbered.named slot name found
    · rename_i beyond
      obtain ⟨last, same⟩ := List.getElem?_eq_some_iff.mp found
      have here : slot = context.names.length := by
        rw [List.length_singleton] at last
        omega
      subst here
      simp only [Nat.sub_self, List.getElem_cons_zero] at same
      exact same ▸ numbered.nextName unnumbered

theorem nodup (numbered : Numbered rootName context) : context.names.Nodup := by
  refine List.pairwise_iff_getElem.mpr fun first second inFirst inSecond lower same => ?_
  have left := numbered.named first _ (List.getElem?_eq_getElem inFirst)
  have right := numbered.named second _ (List.getElem?_eq_getElem inSecond)
  exact absurd (left.inj right same) (Nat.ne_of_lt lower)

theorem head (numbered : Numbered rootName context) {name : String}
    (first : context.names.head? = some name) : name = rootName := by
  rw [List.head?_eq_getElem?] at first
  cases numbered.named 0 name first
  rfl

end Context.Numbered

namespace Walk

variable {α : Type} {rootName : String}

/-- Whether it succeeds or fails, a step leaves the components named by their slots. -/
def KeepsNames (rootName : String) (walk : Walk α) : Prop :=
  ∀ context : Context, context.Numbered rootName → (walk.run context).2.Numbered rootName

theorem kept_numbered (rootName : String) : Kept fun before after : Context =>
    before.Numbered rootName → after.Numbered rootName :=
  .of_components fun root components numbered =>
    numbered.congr root (congrArg (List.map Component.name) components)

/-- A component is named when it is reserved; filling it, if it comes to that, keeps its name. -/
theorem emitting_keepsNames {body : Walk String} (keeps : KeepsNames rootName body)
    {kindName : String} (unnumbered : Unnumbered kindName) :
    KeepsNames rootName (emitting kindName body) :=
  (kept_numbered rootName).emitting keeps (fun _ numbered => numbered.reserve unnumbered)
    fun _ _ _ _ kept numbered => (kept numbered).congr rfl (Context.names_fill _ _ _)

theorem transformNode_keepsNames (node : Node) (path : Path) :
    KeepsNames rootName (transformNode node path) :=
  (kept_numbered rootName).transformNode
    (fun kind _ keeps => emitting_keepsNames keeps kind.displayName_unnumbered) node path

private theorem transformChildren_keepsNames (children : List Node) (parent : Path) :
    KeepsNames rootName (transformChildren children parent) :=
  (kept_numbered rootName).transformChildren
    (fun kind _ keeps => emitting_keepsNames keeps kind.displayName_unnumbered) children parent

private theorem transformSchema_keepsNames (schema : Node) :
    KeepsNames rootName (transformSchema schema) :=
  have visit := transformNode_keepsNames schema Path.root
  (kept_numbered rootName).transformSchema visit fun _ =>
    emitting_keepsNames visit (by decide +kernel)

/-- What can be asked of one context, time and again. -/
inductive Call
  | setting (skipUnsupported : Bool)
  | visit (node : Node) (path : Path)
  | siblings (children : List Node) (parent : Path)
  | whole (schema : Node)

/-- The context after a call. A walk that fails leaves what it has collected so far. -/
def Call.final (context : Context) : Call → Context
  | .setting skipUnsupported => { context with skipUnsupported := skipUnsupported }
  | .visit node path => ((transformNode node path).run context).2
  | .siblings children parent => ((transformChildren children parent).run context).2
  | .whole schema => ((transformSchema schema).run context).2

private theorem Call.keepsNames (call : Call) {context : Context}
    (numbered : context.Numbered rootName) : (call.final context).Numbered rootName := by
  cases call with
  | setting _ => exact numbered.congr rfl rfl
  | visit node path => exact transformNode_keepsNames node path context numbered
  | siblings children parent => exact transformChildren_keepsNames children parent context numbered
  | whole schema => exact transformSchema_keepsNames schema context numbered

/-- However often a context is called, its components stay named by their slots. -/
theorem calls_keepNames (calls : List Call) {context : Context}
    (numbered : context.Numbered rootName) :
    (calls.foldl Call.final context).Numbered rootName := by
  induction calls generalizing context with
  | nil => exact numbered
  | cons call rest ih => exact ih (call.keepsNames numbered)

/-- A walk over a whole tree that succeeds has named a component. -/
theorem transformSchema_names {schema : Node} {context final : Context}
    (success : (transformSchema schema).run context = (.ok (), final)) : final.names ≠ [] := by
  cases container : schema.isContainer with
  | true =>
    rw [transformSchema_container container] at success
    obtain ⟨_, middle, ran, ended⟩ := run_bind_ok success
    cases ended
    obtain ⟨-, made, added, built⟩ := transformNode_components schema Path.root context _ _ ran
    have entry : ⟨schema, Path.root⟩ ∈
        (schema.visits Path.root).filter (·.node.isContainer) := by
      simp [Node.visits_eq, container]
    have counted := List.length_pos_of_mem entry
    rw [← built.length] at counted
    intro none
    rw [Context.names, added, List.map_eq_nil_iff, List.append_eq_nil_iff] at none
    simp [none.2] at counted
  | false =>
    rw [transformSchema_inline container] at success
    obtain ⟨text, middle, ran, rfl⟩ := emitting_ok success
    obtain ⟨-, made, added, -⟩ := transformNode_components schema Path.root _ _ _ ran
    rw [Context.names_fill, Context.names, added]
    simp [Context.reserve]

/-- However often a fresh context is called, its components have distinct names, the first that of
the root. After one walk over a tree that succeeds, the module exports exactly one of them. -/
theorem names_distinct (rootName : String) :
    (∀ calls : List Call,
      (calls.foldl Call.final (Context.fresh rootName)).names.Nodup ∧
        ∀ name, (calls.foldl Call.final (Context.fresh rootName)).names.head? = some name →
          name = rootName) ∧
    ∀ (lenient : Bool) (schema : Node) (final : Context),
      (transformSchema schema).run { Context.fresh rootName with skipUnsupported := lenient } =
        (.ok (), final) →
      (Panel.indexLines final).getLast? = some (Panel.exportLine rootName) ∧
        final.names.count rootName = 1 := by
  refine ⟨fun calls => ?_, fun lenient schema final success => ?_⟩
  · have numbered := calls_keepNames calls (.fresh rootName)
    exact ⟨numbered.nodup, fun name => numbered.head⟩
  · have numbered := calls_keepNames [.setting lenient, .whole schema] (.fresh rootName)
    simp only [List.foldl_cons, List.foldl_nil, Call.final, success] at numbered
    have lastLine : (Panel.indexLines final).getLast? = some (Panel.exportLine rootName) := by
      rw [Panel.indexLines, numbered.root]
      exact List.getLast?_concat
    obtain ⟨first, rest, names⟩ := List.exists_cons_of_ne_nil (transformSchema_names success)
    have exported : rootName ∈ final.names := by
      have root : first = rootName := numbered.head (by rw [names]; rfl)
      rw [names, root]
      exact List.mem_cons_self
    exact ⟨lastLine, List.count_eq_one_of_mem numbered.nodup exported⟩

/-- A walk that fails, siblings, a root that is no container and a page, one after another in one
context; and a walk that succeeds. -/
theorem names_distinct_mixed :
    let schema := { Node.ofKind "Page" with children := [Node.ofKind "Block", Node.ofKind "Video"] }
    let calls := [.whole schema, .setting true,
      .siblings [Node.ofKind "Component", Node.ofKind "Video"] Path.root,
      .whole (Node.ofKind "Div"), .visit schema Path.root]
    let context := { Context.fresh "Home" with skipUnsupported := true }
    (calls.foldl Call.final (Context.fresh "Home")).names =
        ["Home", "HomeBlock1", "HomeComponent2", "Home3", "HomePage4", "HomeBlock5"] ∧
      (calls.foldl Call.final (Context.fresh "Home")).names.Nodup ∧
      ∃ final, (transformSchema schema).run context = (.ok (), final) ∧
        (Panel.indexLines final).getLast? = some "export default Home;" ∧
        final.names.count "Home" = 1 := by
  intro schema calls context
  obtain ⟨distinct, exported⟩ := names_distinct "Home"
  have success : (transformSchema schema).run context = (.ok (), _) := run_eq_ok (by decide +kernel)
  exact ⟨by decide +kernel, (distinct calls).1, _, success, exported true schema _ success⟩

end Walk

end PanelCompiler
