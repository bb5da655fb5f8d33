import PanelCompiler.Proofs.Stylesheet.Forest
import PanelCompiler.Walk.Context

/-!
What a collector makes of the nodes that are entered and left. Whether or not every node that is
entered is left again, the blocks are those of the entered nodes with a class, in order of entry:
closing a block moves it, but not past another. Where all nodes are left in turn, the blocks go
where the first of them was opened, and none stays open.
-/

namespace PanelCompiler

namespace StylesheetCollector

/-- Put closed blocks last into the innermost open block, or last of all if none is open. -/
def append (sheet : StylesheetCollector) (blocks : List RuleBlock) : StylesheetCollector :=
  match sheet.opened with
  | [] => { sheet with roots := sheet.roots ++ blocks }
  | innermost :: outer =>
    { sheet with opened := { innermost with children := innermost.children ++ blocks } :: outer }

theorem append_nil (sheet : StylesheetCollector) : sheet.append [] = sheet := by
  obtain ⟨roots, opened⟩ := sheet
  cases opened with
  | nil => simp [append]
  | cons innermost outer => cases innermost; simp [append]

theorem append_append (sheet : StylesheetCollector) (first rest : List RuleBlock) :
    (sheet.append first).append rest = sheet.append (first ++ rest) := by
  obtain ⟨roots, opened⟩ := sheet
  cases opened <;> simp [append]

end StylesheetCollector

/-- The blocks of a node around the blocks inside it. -/
def Node.aroundBlocks (node : Node) (inside : List RuleBlock) : List RuleBlock :=
  match node.className? with
  | some className => [⟨className, inside⟩]
  | none => inside

namespace StylesheetCollector

/-- Blocks put in between opening and closing the block of a node end up inside it. -/
theorem enter_append_leave (sheet : StylesheetCollector) (node : Node) (blocks : List RuleBlock) :
    ((sheet.enter node).append blocks).leave node = sheet.append (node.aroundBlocks blocks) := by
  obtain ⟨roots, opened⟩ := sheet
  unfold enter leave Node.aroundBlocks
  cases node.className? with
  | none => simp
  | some className => cases opened <;> simp [append, close]

inductive Event
  | enter (node : Node)
  | leave (node : Node)

/-- The class for which an event opens a block. -/
def Event.className? : Event → Option String
  | .enter node => node.className?
  | .leave _ => none

def step (sheet : StylesheetCollector) : Event → StylesheetCollector
  | .enter node => sheet.enter node
  | .leave node => sheet.leave node

def run (sheet : StylesheetCollector) (events : List Event) : StylesheetCollector :=
  events.foldl step sheet

theorem run_append (sheet : StylesheetCollector) (first rest : List Event) :
    sheet.run (first ++ rest) = (sheet.run first).run rest :=
  List.foldl_append

/-- The classes of all blocks: of the closed ones, then of the open ones from the outermost, each
before those of the blocks inside it. -/
def classNames (sheet : StylesheetCollector) : List String :=
  RuleBlock.classNames (sheet.roots ++ sheet.opened.reverse)

section Order

variable (sheet : StylesheetCollector)

private theorem classNames_enter (node : Node) :
    (sheet.enter node).classNames = sheet.classNames ++ node.className?.toList := by
  unfold enter
  cases node.className? with
  | none => simp
  | some className =>
    -- The new block is the innermost, so it is read last, and there is nothing inside it yet.
    simp only [classNames, List.reverse_cons, ← List.append_assoc, RuleBlock.classNames_append,
      RuleBlock.classNames_single]
    rfl

/-- A block that is closed is the last to be read, and goes behind the blocks that were read just
before it. -/
theorem classNames_close : sheet.close.classNames = sheet.classNames := by
  obtain ⟨roots, opened⟩ := sheet
  match opened with
  | [] => rfl
  | [block] => simp [close, classNames]
  | block :: parent :: rest =>
    simp only [close, classNames, List.reverse_cons, RuleBlock.classNames_append,
      RuleBlock.classNames_single]
    simp only [List.append_assoc, List.cons_append]

private theorem classNames_leave (node : Node) :
    (sheet.leave node).classNames = sheet.classNames := by
  unfold leave
  split
  · exact classNames_close sheet
  · rfl

/-- An event adds the class that it opens a block for, and leaves the others in their order. -/
theorem classNames_step (event : Event) :
    (sheet.step event).classNames = sheet.classNames ++ event.className?.toList := by
  cases event with
  | enter node => exact classNames_enter sheet node
  | leave node =>
    rw [step, classNames_leave]
    exact (List.append_nil _).symm

private theorem classNames_run (events : List Event) :
    (sheet.run events).classNames = sheet.classNames ++ events.filterMap Event.className? := by
  induction events generalizing sheet with
  | nil => exact (List.append_nil _).symm
  | cons event rest ih =>
    have later : sheet.run (event :: rest) = (sheet.step event).run rest := rfl
    rw [later, ih, classNames_step, List.append_assoc, List.filterMap_cons]
    cases event.className? <;> rfl

end Order

/-- Events that are matched: a node that is entered is left after those that are entered in between
have been left, and no other node is left. -/
inductive Matched : List Event → Prop
  | nil : Matched []
  | node (node : Node) {inside rest : List Event} (within : Matched inside) (after : Matched rest) :
    Matched (.enter node :: inside ++ .leave node :: rest)

/-- Matched events put closed blocks where they find the collector. -/
theorem Matched.appends {events : List Event} (matched : Matched events) :
    ∃ blocks, ∀ sheet : StylesheetCollector, sheet.run events = sheet.append blocks := by
  induction matched with
  | nil => exact ⟨[], fun sheet => (append_nil sheet).symm⟩
  | @node node inside rest _ _ within after =>
    obtain ⟨blocks, inner⟩ := within
    obtain ⟨others, outer⟩ := after
    refine ⟨node.aroundBlocks blocks ++ others, fun sheet => ?_⟩
    have left : sheet.run (.enter node :: inside ++ .leave node :: rest) =
        ((((sheet.enter node).run inside).leave node).run rest) := by
      rw [List.cons_append, ← List.singleton_append, run_append, run_append]
      rfl
    rw [left, inner, enter_append_leave, outer, append_append]

end StylesheetCollector

open StylesheetCollector (Event Matched)

/-- A context that is told of a node tells its collector. -/
def Context.step (context : Context) : Event → Context
  | .enter node => context.enter node
  | .leave node => context.leave node

private theorem Context.stylesheet_foldl_step (context : Context) (events : List Event) :
    (events.foldl step context).stylesheet = context.stylesheet.run events := by
  refine (List.foldl_hom Context.stylesheet fun context event => ?_).symm
  cases event <;> rfl

namespace StylesheetCollector

/-- No block is lost, doubled or moved past another: whatever is entered and left, the blocks read
in order are those of the entered nodes with a class, in order of entry. If the events are matched,
they are all closed. -/
theorem collected_in_order (events : List Event) :
    (empty.run events).classNames = events.filterMap Event.className? ∧
    (∀ rootName, (events.foldl Context.step (.fresh rootName)).stylesheet = empty.run events) ∧
    (Matched events → (empty.run events).opened = []) := by
  refine ⟨empty.classNames_run events, fun rootName => ?_, fun matched => ?_⟩
  · exact Context.stylesheet_foldl_step (.fresh rootName) events
  · obtain ⟨blocks, closed⟩ := matched.appends
    rw [closed]
    rfl

/-- One node inside another, both with a class, and a node without one around them. -/
theorem collected_in_order_nested :
    let classed (className : String) : Node :=
      { Node.ofKind "Div" with props := [("className", .string className)] }
    let events : List Event := [.enter (Node.ofKind "Page"), .enter (classed "outer"),
      .enter (classed "inner"), .leave (classed "inner"), .leave (classed "outer"),
      .leave (Node.ofKind "Page")]
    Matched events ∧ (empty.run events).classNames = ["outer", "inner"] ∧
      (empty.run events).opened = [] := by
  intro classed events
  have inner : Matched [.enter (classed "inner"), .leave (classed "inner")] := .node _ .nil .nil
  have matched : Matched events := .node _ (.node _ inner .nil) .nil
  exact ⟨matched, (collected_in_order events).1, (collected_in_order events).2.2 matched⟩

/-- What is left without having been entered changes nothing, and a block that is closed for another
node keeps its place. -/
example :
    let classed (className : String) : Node :=
      { Node.ofKind "Div" with props := [("className", .string className)] }
    (empty.run [.leave (classed "none"), .enter (classed "outer"), .enter (classed "inner"),
      .leave (classed "outer"), .enter (classed "last")]).classNames =
        ["outer", "inner", "last"] := by
  decide +kernel

end StylesheetCollector

end PanelCompiler
