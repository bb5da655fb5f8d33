import PanelCompiler.Proofs.Tree.Address
import PanelCompiler.Proofs.Walk.Account

/-!
Which nodes of unknown kinds are reported. A walk that succeeds reports the visited ones, and a
strict walk that succeeds visits none. Below a visited text or image nothing is visited, so a node
of an unknown kind is dropped there without a report; those are the only ones.
-/

namespace PanelCompiler

/-- The report of a visited node, if its kind is unknown. -/
def Visit.report? (visit : Visit) : Option SkippedNode :=
  match visit.node.kind? with
  | some _ => none
  | none => some ⟨visit.path, visit.node.kindName⟩

theorem Visit.report?_unknown {node : Node} (path : Path) (unknown : node.kind? = none) :
    Visit.report? ⟨node, path⟩ = some ⟨path, node.kindName⟩ := by
  simp [report?, unknown]

theorem Visit.report?_known {node : Node} {kind : Kind} (path : Path)
    (known : node.kind? = some kind) : Visit.report? ⟨node, path⟩ = none := by
  simp [report?, known]

namespace Node

/-- A node of an unknown kind, somewhere in the tree. -/
def HasUnknown (schema : Node) (address : List Nat) (node : Node) : Prop :=
  schema.at? address = some node ∧ node.kind? = none

/-- A node is reported itself, or one above it is. -/
def Reported (schema : Node) (skipped : List SkippedNode) (address : List Nat) : Prop :=
  ∃ above node, above <+: address ∧ schema.at? above = some node ∧
    ⟨Path.root.descend above, node.kindName⟩ ∈ skipped

/-- A node stands below a visited text or image. -/
def Hidden (schema : Node) (address : List Nat) : Prop :=
  ∃ above leaf kind, above <+: address ∧ above ≠ address ∧ schema.Visited above leaf ∧
    leaf.kind? = some kind ∧ kind.isBox = false

/-- What a walk that succeeds ought to promise: a strict one that no kind is unknown, a lenient one
that every node of an unknown kind is reported, or one above it. -/
def NothingDropped (schema : Node) (lenient : Bool) (skipped : List SkippedNode) : Prop :=
  match lenient with
  | false => ∀ address node, ¬ schema.HasUnknown address node
  | true => ∀ address node, schema.HasUnknown address node → schema.Reported skipped address

/-- On the way to a node of an unknown kind the walk stops, at the latest at the node itself. -/
theorem HasUnknown.stopped {schema node : Node} {address : List Nat}
    (unknown : schema.HasUnknown address node) :
    ∃ above stop, above <+: address ∧ schema.Visited above stop ∧ stop.isBox = false ∧
      (above = address → stop = node) := by
  obtain ⟨found, unknown⟩ := unknown
  rcases visited_or_stopped found with visited | ⟨above, stop, prefixed, strict, visited, stops⟩
  · exact ⟨address, node, List.prefix_rfl, visited, isBox_unknown unknown, fun _ => rfl⟩
  · exact ⟨above, stop, prefixed, visited, stops, fun same => absurd same strict⟩

end Node

namespace Walk

variable {α β : Type}

/-- A step that succeeds appends these reports, and only a lenient one has any. -/
def AddsReports (reports : List SkippedNode) (walk : Walk α) : Prop :=
  ∀ context value final, walk.run context = (.ok value, final) →
    final.skipped = context.skipped ++ reports ∧
      final.skipUnsupported = context.skipUnsupported ∧
      (context.skipUnsupported = false → reports = [])

namespace AddsReports

variable {reports : List SkippedNode} {node : Node} {body : Walk String}

theorem of_same {walk : Walk α}
    (skipped : ∀ context, (walk.run context).2.skipped = context.skipped)
    (setting : ∀ context, (walk.run context).2.skipUnsupported = context.skipUnsupported) :
    AddsReports [] walk := by
  intro context value final success
  have sameReports := skipped context
  have sameSetting := setting context
  rw [success] at sameReports sameSetting
  exact ⟨by rw [sameReports, List.append_nil], sameSetting, fun _ => rfl⟩

theorem pure (value : α) : AddsReports [] (Pure.pure value : Walk α) :=
  of_same (fun _ => rfl) fun _ => rfl

theorem bind {first rest : List SkippedNode} {walk : Walk α} {next : α → Walk β}
    (head : AddsReports first walk) (tail : ∀ value, AddsReports rest (next value)) :
    AddsReports (first ++ rest) (walk >>= next) := by
  intro context value final success
  obtain ⟨middleValue, middle, ran, success⟩ := run_bind_ok success
  obtain ⟨added, setting, noneFirst⟩ := head context middleValue middle ran
  obtain ⟨addedRest, settingRest, noneRest⟩ := tail middleValue middle value final success
  refine ⟨?_, settingRest.trans setting, fun strict => ?_⟩
  · rw [addedRest, added, List.append_assoc]
  · rw [noneFirst strict, noneRest (setting.trans strict), List.append_nil]

theorem met (adds : AddsReports reports body) : AddsReports reports (met node body) := by
  intro context value final success
  obtain ⟨middle, ran, left⟩ := met_ok success
  subst left
  exact adds (context.enter node) value middle ran

theorem skipOrFail (kindName : String) (path : Path) :
    AddsReports [⟨path, kindName⟩] (skipOrFail kindName path) := by
  intro context value final success
  rw [run_skipOrFail] at success
  split at success
  · rename_i lenient
    cases success
    refine ⟨rfl, rfl, fun strict => ?_⟩
    rw [lenient] at strict
    cases strict
  · cases success

theorem compileDataSources (path : Path) (index : Nat) (sources : List DataSource) :
    AddsReports [] (compileDataSources path index sources) := by
  have frame := compileDataSources_frame path index sources
  apply of_same
  · intro context
    obtain ⟨imports, methods, same⟩ := frame context
    rw [same]
    rfl
  · intro context
    obtain ⟨imports, methods, same⟩ := frame context
    rw [same]
    rfl

end AddsReports

theorem quiet_reports : Quiet AddsReports where
  pure := .pure
  fail _ _ _ _ _ success := by cases success
  bind := .bind
  loads := .compileDataSources
  reserve _ := .of_same (fun _ => rfl) fun _ => rfl
  fill _ _ := .of_same (fun _ => rfl) fun _ => rfl

private theorem account_reports :
    Account AddsReports fun node path below =>
      [(⟨node, path⟩ : Visit)].filterMap Visit.report? ++ below where
  toComposes := quiet_reports.toComposes
  unknown path unknown := by
    simpa [Visit.report?_unknown path unknown] using (AddsReports.skipOrFail _ path).met
  inline known _ adds := by
    simpa [Visit.report?_known _ known] using adds.met
  container known _ _ adds := by
    simpa [Visit.report?_known _ known] using (quiet_reports.emitContainer adds _ _ _).met

/-- The walk over a tree reports the visited nodes of unknown kinds in the order of the visits. -/
theorem transformNode_reports (node : Node) (path : Path) :
    AddsReports ((node.visits path).filterMap Visit.report?) (transformNode node path) := by
  rw [Node.change_visits List.filterMap_nil fun _ _ => List.filterMap_append]
  exact account_reports.transformNode node path

theorem transformSchema_reports (schema : Node) :
    AddsReports ((schema.visits Path.root).filterMap Visit.report?) (transformSchema schema) :=
  quiet_reports.transformSchema (transformNode_reports schema Path.root)

/-- A report of a whole walk names a visited node of an unknown kind. -/
theorem mem_skipped {schema : Node} {context final : Context} (clean : context.skipped = [])
    (success : (transformSchema schema).run context = (.ok (), final)) (report : SkippedNode) :
    report ∈ final.skipped ↔ ∃ address node, schema.Visited address node ∧ node.kind? = none ∧
      report = ⟨Path.root.descend address, node.kindName⟩ := by
  obtain ⟨reports, -, -⟩ := transformSchema_reports schema context () final success
  rw [reports, clean, List.nil_append, List.mem_filterMap]
  constructor
  · rintro ⟨⟨node, path⟩, member, made⟩
    obtain ⟨address, same, visited⟩ := Node.mem_visits.mp member
    cases known : node.kind? with
    | none =>
      rw [Visit.report?_unknown path known] at made
      cases made
      exact ⟨address, node, visited, known, by rw [same]⟩
    | some kind =>
      rw [Visit.report?_known path known] at made
      cases made
  · rintro ⟨address, node, visited, unknown, same⟩
    refine ⟨⟨node, Path.root.descend address⟩, Node.mem_visits.mpr ⟨address, rfl, visited⟩, ?_⟩
    rw [same]
    exact Visit.report?_unknown _ unknown

private theorem skipped_strict {schema : Node} {context final : Context}
    (clean : context.skipped = []) (strict : context.skipUnsupported = false)
    (success : (transformSchema schema).run context = (.ok (), final)) : final.skipped = [] := by
  obtain ⟨reports, -, none⟩ := transformSchema_reports schema context () final success
  rw [reports, clean, none strict]
  rfl

/-- After a walk that succeeds, a node of an unknown kind is reported unless it is hidden. -/
theorem reported_iff_not_hidden {schema : Node} {context final : Context}
    (clean : context.skipped = [])
    (success : (transformSchema schema).run context = (.ok (), final)) {address : List Nat}
    {node : Node} (unknown : schema.HasUnknown address node) :
    schema.Reported final.skipped address ↔ ¬ schema.Hidden address := by
  constructor
  · rintro ⟨above, _, prefixed, _, member⟩ ⟨other, leaf, kind, lower, _, reached, known, isLeaf⟩
    obtain ⟨place, skipped, visited, skippedUnknown, same⟩ :=
      (mem_skipped clean success _).mp member
    cases Path.descend_inj (congrArg SkippedNode.path same)
    -- The walk to the node would stop both at the reported node and at the text or image.
    have leafStops : leaf.isBox = false := by rw [Node.isBox_known known, isLeaf]
    have skippedStops := Node.isBox_unknown skippedUnknown
    have one := visited.stop_unique skippedStops prefixed reached leafStops lower
    rw [one, known] at skippedUnknown
    cases skippedUnknown
  · intro shown
    obtain ⟨above, stop, prefixed, visited, stops, atNode⟩ := unknown.stopped
    cases known : stop.kind? with
    | none =>
      refine ⟨above, stop, prefixed, visited.at?, ?_⟩
      exact (mem_skipped clean success _).mpr ⟨above, stop, visited, known, rfl⟩
    | some kind =>
      refine absurd ⟨above, stop, kind, prefixed, ?_, visited, known, ?_⟩ shown
      · intro same
        rw [atNode same, unknown.2] at known
        cases known
      · rw [← Node.isBox_known known, stops]

/-- A walk that succeeds keeps the promise exactly if no node of an unknown kind is hidden. -/
theorem nothing_dropped_iff {schema : Node} {context final : Context} (clean : context.skipped = [])
    (success : (transformSchema schema).run context = (.ok (), final)) :
    schema.NothingDropped context.skipUnsupported final.skipped ↔
      ∀ address node, schema.HasUnknown address node → ¬ schema.Hidden address := by
  have reported := fun address node (unknown : schema.HasUnknown address node) =>
    reported_iff_not_hidden clean success unknown
  unfold Node.NothingDropped
  cases setting : context.skipUnsupported with
  | false =>
    constructor
    · intro known address node unknown
      exact absurd unknown (known address node)
    · intro shown address node unknown
      have notHidden := shown address node unknown
      obtain ⟨_, _, _, _, member⟩ := (reported address node unknown).mpr notHidden
      rw [skipped_strict clean setting success] at member
      cases member
  | true =>
    constructor
    · intro promise address node unknown
      exact (reported address node unknown).mp (promise address node unknown)
    · intro shown address node unknown
      exact (reported address node unknown).mpr (shown address node unknown)

/-- Nodes of unknown kinds on a page and below one another are left out, and nothing is dropped
exactly if none is hidden. -/
theorem nothing_dropped_iff_lenient :
    let schema := { Node.ofKind "Page" with children :=
      [{ Node.ofKind "Video" with children := [Node.ofKind "Video"] }] }
    let context := { Context.fresh "Home" with skipUnsupported := true }
    ∃ final, (transformSchema schema).run context = (.ok (), final) ∧
      final.skipped = [⟨Path.root.child 0, "Video"⟩] ∧
      (schema.NothingDropped true final.skipped ↔
        ∀ address node, schema.HasUnknown address node → ¬ schema.Hidden address) := by
  intro schema context
  have success : (transformSchema schema).run context = (.ok (), _) := run_eq_ok (by decide +kernel)
  exact ⟨_, success, by decide +kernel, nothing_dropped_iff rfl success⟩

/-- A strict walk succeeds on a text with a node of an unknown kind below it. -/
theorem dropped_below_text :
    let schema := { Node.ofKind "Page" with children :=
      [{ Node.ofKind "Text" with children := [Node.ofKind "Video"] }] }
    ∃ final, (transformSchema schema).run (Context.fresh "Home") = (.ok (), final) ∧
      ¬ schema.NothingDropped (Context.fresh "Home").skipUnsupported final.skipped := by
  intro schema
  have dropped : schema.HasUnknown [0, 0] (Node.ofKind "Video") := ⟨rfl, by decide +kernel⟩
  exact ⟨_, run_eq_ok (by decide +kernel), fun known => known [0, 0] _ dropped⟩

end Walk

end PanelCompiler
