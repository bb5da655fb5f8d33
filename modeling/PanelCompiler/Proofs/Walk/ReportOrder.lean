import Mathlib.Data.List.Nodup
import PanelCompiler.Proofs.Tree.Order
import PanelCompiler.Proofs.Walk.Reports

namespace PanelCompiler

/-- The reports of a walk are those of the visited nodes of unknown kinds, in their order. -/
structure Node.ReportsExact (schema : Node) (skipped : List SkippedNode) : Prop where
  listed : skipped = (schema.visits Path.root).filterMap Visit.report?
  /-- A report gives the kind and the path of a visited node, which is there to be found. -/
  visited (report : SkippedNode) : report ∈ skipped ↔ ∃ address node,
    schema.Visited address node ∧ schema.at? address = some node ∧ node.kind? = none ∧
      report = ⟨Path.root.descend address, node.kindName⟩
  /-- As a list that is strictly in order, it holds every node once. -/
  ordered : skipped.Pairwise fun earlier later => Path.root.Before earlier.path later.path
  distinct : (skipped.map (·.path)).Nodup
  /-- The written forms of the paths differ, too. -/
  told : (skipped.map (·.path.text)).Nodup

private theorem Visit.report?_path {visit : Visit} {report : SkippedNode}
    (reported : visit.report? = some report) : report.path = visit.path := by
  unfold report? at reported
  split at reported
  · cases reported
  · cases reported
    rfl

private theorem Node.reports_ordered (schema : Node) :
    ((schema.visits Path.root).filterMap Visit.report?).Pairwise fun earlier later =>
      Path.root.Before earlier.path later.path := by
  refine (schema.visits_ordered Path.root).filterMap Visit.report? ?_
  intro earlier later before first reported second reportedLater
  rw [Visit.report?_path reported, Visit.report?_path reportedLater]
  exact before

namespace Walk

/-- The reports of a walk that succeeds are exactly those of the visited nodes of unknown kinds. -/
theorem reports_exact {schema : Node} {context final : Context} (clean : context.skipped = [])
    (success : (transformSchema schema).run context = (.ok (), final)) :
    schema.ReportsExact final.skipped := by
  obtain ⟨reports, -, -⟩ := transformSchema_reports schema context () final success
  rw [clean, List.nil_append] at reports
  have ordered := schema.reports_ordered
  rw [← reports] at ordered
  have told : (final.skipped.map (·.path.text)).Nodup :=
    List.pairwise_map.mpr (ordered.imp Path.Before.text_ne)
  refine ⟨reports, fun report => ?_, ordered, ?_, told⟩
  · rw [mem_skipped clean success]
    constructor
    · rintro ⟨address, node, visited, unknown, same⟩
      exact ⟨address, node, visited, visited.at?, unknown, same⟩
    · rintro ⟨address, node, visited, -, unknown, same⟩
      exact ⟨address, node, visited, unknown, same⟩
  · refine List.Nodup.of_map Path.text ?_
    rwa [List.map_map]

/-- Nodes of unknown kinds in a block, behind it and with others below them. -/
theorem reports_exact_nested :
    let video := { Node.ofKind "Video" with children := [Node.ofKind "Audio"] }
    let schema := { Node.ofKind "Page" with children :=
      [{ Node.ofKind "Block" with children := [Node.ofKind "Text", video] }, Node.ofKind "Audio",
        video] }
    let context := { Context.fresh "Home" with skipUnsupported := true }
    ∃ final, (transformSchema schema).run context = (.ok (), final) ∧
      final.skipped = [⟨(Path.root.child 0).child 1, "Video"⟩, ⟨Path.root.child 1, "Audio"⟩,
        ⟨Path.root.child 2, "Video"⟩] ∧
      schema.ReportsExact final.skipped := by
  intro video schema context
  have success : (transformSchema schema).run context = (.ok (), _) := run_eq_ok (by decide +kernel)
  exact ⟨_, success, by decide +kernel, reports_exact rfl success⟩

end Walk

end PanelCompiler
