import PanelCompiler.Proofs.Stylesheet.Collecting
import PanelCompiler.Proofs.Walk.Account

/-!
Rule blocks nest as the visited classed nodes do. A visit that succeeds puts the blocks of its tree
into the innermost open block and leaves the open blocks as they were; one that fails may leave
further blocks open above them, but disturbs none but the innermost.
-/

namespace PanelCompiler

namespace StylesheetCollector

/-- What a step may leave when it fails: blocks gained by the innermost open one, or by the roots if
none was open, and newly opened blocks above the old ones. -/
def Interrupted (before after : StylesheetCollector) : Prop :=
  ∃ gained newer, after.roots = (before.append gained).roots ∧
    after.opened = newer ++ (before.append gained).opened

theorem Interrupted.refl (sheet : StylesheetCollector) : Interrupted sheet sheet :=
  ⟨[], [], by rw [append_nil], by rw [append_nil, List.nil_append]⟩

theorem Interrupted.after_append {sheet after : StylesheetCollector} {blocks : List RuleBlock}
    (later : Interrupted (sheet.append blocks) after) : Interrupted sheet after := by
  obtain ⟨gained, newer, roots, opened⟩ := later
  rw [append_append] at roots opened
  exact ⟨blocks ++ gained, newer, roots, opened⟩

/-- Opening a block and then being interrupted leaves that block open, or gains within it. -/
theorem Interrupted.after_enter {sheet after : StylesheetCollector} {node : Node}
    (later : Interrupted (sheet.enter node) after) : Interrupted sheet after := by
  unfold enter at later
  split at later
  · obtain ⟨gained, newer, roots, opened⟩ := later
    rename_i className classed
    refine ⟨[], newer ++ [⟨className, gained⟩], ?_, ?_⟩
    · rw [append_nil, roots]
      rfl
    · rw [append_nil, opened]
      simp [append]
  · exact later

end StylesheetCollector

/-- The rule blocks of a tree: one for every visited node with a class, each inside that of its
nearest ancestor with a class, in the order of the tree. -/
def Node.ruleBlocks (node : Node) : List RuleBlock :=
  node.gather (fun node _ inside => node.aroundBlocks inside) Path.root

namespace Walk

variable {α β : Type}

/-- A step puts `blocks` into the stylesheet if it succeeds, and only interrupts it if it fails. -/
structure Grows (blocks : List RuleBlock) (walk : Walk α) : Prop where
  done : ∀ context value final, walk.run context = (.ok value, final) →
    final.stylesheet = context.stylesheet.append blocks
  broken : ∀ context error final, walk.run context = (.error error, final) →
    context.stylesheet.Interrupted final.stylesheet

namespace Grows

variable {blocks : List RuleBlock} {node : Node} {body : Walk String}

theorem of_same {walk : Walk α}
    (same : ∀ context, (walk.run context).2.stylesheet = context.stylesheet) : Grows [] walk where
  done context value final success := by
    rw [StylesheetCollector.append_nil, ← same context, success]
  broken context error final failure := by
    rw [← same context, failure]
    exact .refl _

theorem pure (value : α) : Grows [] (Pure.pure value : Walk α) :=
  of_same fun _ => rfl

theorem fail (error : CompileError) (blocks : List RuleBlock) :
    Grows blocks (fail error : Walk α) where
  done _ _ _ success := by cases success
  broken context _ _ failure := by
    cases failure
    exact .refl _

theorem bind {first rest : List RuleBlock} {walk : Walk α} {next : α → Walk β}
    (head : Grows first walk) (tail : ∀ value, Grows rest (next value)) :
    Grows (first ++ rest) (walk >>= next) where
  done context value final success := by
    obtain ⟨middleValue, middle, ran, success⟩ := run_bind_ok success
    rw [(tail middleValue).done middle value final success,
      head.done context middleValue middle ran, StylesheetCollector.append_append]
  broken context error final failure := by
    rcases run_bind_error failure with failed | ⟨value, middle, ran, failed⟩
    · exact head.broken context error final failed
    · have later := (tail value).broken middle error final failed
      rw [head.done context value middle ran] at later
      exact later.after_append

/-- The blocks put in between meeting and leaving a node are those around which it puts its own. -/
theorem met (grows : Grows blocks body) : Grows (node.aroundBlocks blocks) (met node body) where
  done context value final success := by
    obtain ⟨middle, ran, left⟩ := met_ok success
    have inside := grows.done (context.enter node) value middle ran
    subst left
    change middle.stylesheet.leave node = _
    rw [inside]
    exact StylesheetCollector.enter_append_leave context.stylesheet node blocks
  broken context error final failure :=
    (grows.broken (context.enter node) error final (met_error failure)).after_enter

theorem skipOrFail (kindName : String) (path : Path) : Grows [] (skipOrFail kindName path) := by
  apply of_same
  intro context
  rw [run_skipOrFail]
  split <;> rfl

theorem compileDataSources (path : Path) (index : Nat) (sources : List DataSource) :
    Grows [] (compileDataSources path index sources) := by
  apply of_same
  intro context
  obtain ⟨imports, methods, frame⟩ := compileDataSources_frame path index sources context
  rw [frame]
  rfl

end Grows

theorem quiet_grows : Quiet Grows where
  pure := .pure
  fail := .fail
  bind := .bind
  loads := .compileDataSources
  reserve _ := .of_same fun _ => rfl
  fill _ _ := .of_same fun _ => rfl

private theorem account_grows : Account Grows fun node _ inside => node.aroundBlocks inside where
  toComposes := quiet_grows.toComposes
  unknown path _ := (Grows.skipOrFail _ path).met
  inline _ _ grows := grows.met
  container _ _ _ grows := (quiet_grows.emitContainer grows _ _ _).met

theorem transformNode_grows (node : Node) (path : Path) :
    Grows node.ruleBlocks (transformNode node path) := by
  have grows := account_grows.transformNode node path
  rwa [Node.gather_path Node.aroundBlocks node path Path.root] at grows

theorem transformSchema_grows (schema : Node) :
    Grows schema.ruleBlocks (transformSchema schema) :=
  quiet_grows.transformSchema (transformNode_grows schema Path.root)

/-- The stylesheet follows the tree: a visit adds the blocks of its tree where it stands or merely
interrupts, and the text of a whole walk is that of the root's blocks with the last styles. -/
theorem stylesheet_follows_tree :
    (∀ node path, Grows node.ruleBlocks (transformNode node path)) ∧
      ∀ schema context final, context.stylesheet = .empty →
        (transformSchema schema).run context = (.ok (), final) →
          final.stylesheet.opened = [] ∧
            final.stylesheetText = RuleBlock.listText final.styles schema.ruleBlocks := by
  refine ⟨transformNode_grows, fun schema context final fresh success => ?_⟩
  have whole := (transformSchema_grows schema).done context () final success
  rw [fresh] at whole
  unfold Context.stylesheetText
  rw [whole]
  exact ⟨rfl, rfl⟩

/-- The blocks of two texts stand in that of their page, one of them past a node without a class;
both show the style of the later text. -/
theorem stylesheet_follows_tree_nested :
    let title := { Node.ofKind "Text" with props :=
      [("className", .string "title"), ("style", .object [("fontSize", .string "12px")])] }
    let later := { Node.ofKind "Text" with props :=
      [("className", .string "title"), ("style", .object [("color", .string "red")])] }
    let schema := { Node.ofKind "Page" with
      props := [("className", .string "page")]
      children := [{ Node.ofKind "Div" with children := [title] }, later] }
    schema.ruleBlocks = [⟨"page", [⟨"title", []⟩, ⟨"title", []⟩]⟩] ∧
      ∃ final, (transformSchema schema).run (Context.fresh "Home") = (.ok (), final) ∧
        final.stylesheet.opened = [] ∧
        final.stylesheetText =
          ".page \x7b.title \x7bcolor: red;\n\x7d.title \x7bcolor: red;\n\x7d\x7d" := by
  intro title later schema
  have success : (transformSchema schema).run (Context.fresh "Home") = (.ok (), _) :=
    run_eq_ok (by decide +kernel)
  obtain ⟨closed, printed⟩ := stylesheet_follows_tree.2 schema _ _ rfl success
  have blocks : schema.ruleBlocks = [⟨"page", [⟨"title", []⟩, ⟨"title", []⟩]⟩] := by
    subst schema later title
    rfl
  exact ⟨blocks, _, success, closed, printed.trans (by decide +kernel)⟩

end Walk

end PanelCompiler
