import PanelCompiler.Proofs.Json.Reading
import PanelCompiler.Proofs.Tree.Address
import PanelCompiler.Schema.Reading

/-!
Trees that are read. What the blank node has, and no field takes away, every tree has that is read
from an object or from an array. So, however often a text or a value gives a prop, the node that is
read binds it once, and so do the nodes below it.
-/

namespace PanelCompiler

namespace Node

open Json (Document Medium Reader Content Ending)
open Json.Document (Draft RecordShape)

/-- What holds of the blank node and outlasts the reading of each field, the children included. -/
structure Inherited (P : Node → Prop) : Prop where
  blank : P shape.blank
  flat {medium : Medium} {node read : Node} {name : String} {document : Document} :
    P node → readFlatField medium node name document = .ok read → P read
  nested {node : Node} {children : List Node} :
    P node → (∀ child ∈ children, P child) → P { node with children := children }

namespace Inherited

variable {P : Node → Prop}

mutual

theorem of_read (inherited : Inherited P) {medium : Medium} {node : Node} : ∀ document : Document,
    read medium document = .ok node → P node
  | .object entries ending, success => by
    rw [read] at success
    obtain ⟨inner, _, success⟩ := Reader.bind_ok success
    obtain ⟨draft, entered, success⟩ := Reader.bind_ok success
    obtain ⟨_, _, success⟩ := Reader.bind_ok success
    exact Draft.finish_ok success ▸ inherited.of_readEntries entries inherited.blank entered
  | .array items ending, success => by
    rw [read] at success
    obtain ⟨inner, _, success⟩ := Reader.bind_ok success
    exact inherited.of_readItems items inherited.blank success
  | .null, success | .bool _, success | .number _, success | .string _, success
  | .broken _ _, success => absurd success (Document.reject_ne_ok _ _ _)

private theorem of_readEntries (inherited : Inherited P) {medium : Medium}
    {draft final : Draft Node} : ∀ entries : List (Content × Document), P draft.record →
      readEntries medium draft entries = .ok final → P final.record
  | [], kept, success => by
    rw [readEntries] at success
    cases success
    exact kept
  | (key, value) :: rest, kept, success => by
    rw [readEntries] at success
    obtain ⟨name, _, success⟩ := Reader.bind_ok success
    split at success
    · obtain ⟨met, meeting, success⟩ := Reader.bind_ok success
      obtain ⟨children, made, success⟩ := Reader.bind_ok success
      have below := inherited.of_readChildren value made
      have kept := inherited.nested (Draft.meet_ok meeting ▸ kept) below
      exact inherited.of_readEntries rest kept success
    · split at success
      · obtain ⟨met, meeting, success⟩ := Reader.bind_ok success
        obtain ⟨read, made, success⟩ := Reader.bind_ok success
        have kept := inherited.flat (Draft.meet_ok meeting ▸ kept) made
        exact inherited.of_readEntries rest kept success
      · obtain ⟨_, _, success⟩ := Reader.bind_ok success
        exact inherited.of_readEntries rest kept success

private theorem of_readItems (inherited : Inherited P) {medium : Medium} {length : Nat}
    {ending : Ending} {names : List String} {node final : Node} : ∀ items : List Document, P node →
      readItems medium length ending names node items = .ok final → P final
  | [], kept, success => by
    cases names with
    | nil =>
      rw [readItems] at success
      obtain ⟨_, _, success⟩ := Reader.bind_ok success
      cases success
      exact kept
    | cons name others =>
      rw [readItems] at success
      exact RecordShape.finishEarly_ok success ▸ kept
  | item :: rest, kept, success => by
    cases names with
    | nil =>
      rw [readItems] at success
      cases success
    | cons name others =>
      rw [readItems] at success
      split at success
      · obtain ⟨children, made, success⟩ := Reader.bind_ok success
        have below := inherited.of_readChildren item made
        exact inherited.of_readItems rest (inherited.nested kept below) success
      · obtain ⟨read, made, success⟩ := Reader.bind_ok success
        exact inherited.of_readItems rest (inherited.flat kept made) success

private theorem of_readChildren (inherited : Inherited P) {medium : Medium}
    {children : List Node} : ∀ document : Document,
      readChildren medium document = .ok children → ∀ child ∈ children, P child
  | .array items ending, success => by
    rw [readChildren] at success
    obtain ⟨inner, _, success⟩ := Reader.bind_ok success
    obtain ⟨nodes, made, success⟩ := Reader.bind_ok success
    obtain ⟨_, _, success⟩ := Reader.bind_ok success
    cases success
    exact inherited.of_readNodes items made
  | .null, success | .bool _, success | .number _, success | .string _, success
  | .object _ _, success | .broken _ _, success => absurd success (Document.reject_ne_ok _ _ _)

private theorem of_readNodes (inherited : Inherited P) {medium : Medium}
    {children : List Node} : ∀ items : List Document,
      readNodes medium items = .ok children → ∀ child ∈ children, P child
  | [], success => by
    rw [readNodes] at success
    cases success
    exact nofun
  | item :: rest, success => by
    rw [readNodes] at success
    obtain ⟨first, made, success⟩ := Reader.bind_ok success
    obtain ⟨others, later, success⟩ := Reader.bind_ok success
    cases success
    exact List.forall_mem_cons.mpr ⟨inherited.of_read item made, inherited.of_readNodes rest later⟩

end

end Inherited

/-- Every node of a tree binds each prop once. -/
inductive BindsOnce : Node → Prop
  | node {node : Node} (props : node.props.keys.Nodup)
    (children : ∀ child ∈ node.children, BindsOnce child) : BindsOnce node

theorem BindsOnce.props {node : Node} (once : node.BindsOnce) : node.props.keys.Nodup := by
  obtain ⟨props, _⟩ := once
  exact props

theorem BindsOnce.visited {root node : Node} {address : List Nat} (once : root.BindsOnce)
    (visited : root.Visited address node) : node.BindsOnce := by
  induction visited with
  | root => exact once
  | child _ _ found ih =>
    obtain ⟨_, children⟩ := ih
    exact children _ (List.mem_of_getElem? found)

/-- A field without nodes keeps the props bound once. -/
theorem readFlatField_once {medium : Medium} {node read : Node} {name : String}
    {document : Document} (once : node.BindsOnce)
    (success : readFlatField medium node name document = .ok read) : read.BindsOnce := by
  obtain ⟨props, children⟩ := once
  unfold readFlatField at success
  split at success
  all_goals try obtain ⟨value, made, success⟩ := Reader.bind_ok success
  all_goals cases success
  case h_2 => exact .node (Document.readFields_distinct made) children
  all_goals exact .node props children

private theorem BindsOnce.withChildren {node : Node} {children : List Node} (once : node.BindsOnce)
    (below : ∀ child ∈ children, child.BindsOnce) :
    { node with children := children }.BindsOnce :=
  .node once.props below

private theorem blank_once : shape.blank.BindsOnce :=
  .node List.nodup_nil nofun

private theorem inherited_once : Inherited BindsOnce where
  blank := blank_once
  flat := readFlatField_once
  nested := BindsOnce.withChildren

theorem read_once {medium : Medium} {node : Node} {document : Document}
    (success : read medium document = .ok node) : node.BindsOnce :=
  inherited_once.of_read document success

end Node

end PanelCompiler
