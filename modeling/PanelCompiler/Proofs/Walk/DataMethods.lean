import Mathlib.Data.List.Forall2
import PanelCompiler.Proofs.Tree.Address
import PanelCompiler.Proofs.Value.Outcome
import PanelCompiler.Proofs.Walk.Extension

namespace PanelCompiler

theorem Transport.importLine_inj {first second : Transport}
    (same : first.importLine = second.importLine) : first = second := by
  cases first with
  | jsonp =>
    cases second with
    | jsonp => rfl
    | fetch => exact absurd same (by decide)
  | fetch =>
    cases second with
    | jsonp => exact absurd same (by decide)
    | fetch => rfl

/-- What a data source compiles to on its own, wherever it stands. -/
def DataSource.HasMethod (source : DataSource) (method : String) : Prop :=
  ∀ rootName path, ((source.compile path).run (Context.fresh rootName)).1 = .ok method

theorem DataSource.run_compile (source : DataSource) (path : Path) (context : Context) :
    (source.compile path).run context =
      (source.methodSource path, context.addImport source.transport.importLine) := by
  unfold compile
  rw [Walk.run_bind, Walk.run_modify]
  exact Walk.run_ofExcept _ _

/-- Only the error of a data source tells where it stands. -/
theorem DataSource.hasMethod {source : DataSource} {path : Path} {method : String}
    (made : source.methodSource path = .ok method) : source.HasMethod method := by
  intro rootName other
  rw [run_compile]
  exact ((source.methodSource_anywhere path other).eq_ok_iff method).mp made

/-- The data sources that a visited node loads: containers alone load any. -/
def Visit.dataSources (visit : Visit) : List DataSource :=
  if visit.node.isContainer then visit.node.dataSources else []

/-- The data sources that a walk over a tree loads, in the order of the visits. -/
def Node.loadedSources (node : Node) (path : Path) : List DataSource :=
  (node.visits path).flatMap Visit.dataSources

theorem Node.mem_loadedSources {schema : Node} {source : DataSource} :
    source ∈ schema.loadedSources Path.root ↔ ∃ address node, schema.Visited address node ∧
      node.isContainer = true ∧ source ∈ node.dataSources := by
  unfold loadedSources
  rw [List.mem_flatMap]
  constructor
  · rintro ⟨⟨node, location⟩, member, loaded⟩
    obtain ⟨address, -, visited⟩ := mem_visits.mp member
    unfold Visit.dataSources at loaded
    split at loaded
    · rename_i container
      exact ⟨address, node, visited, container, loaded⟩
    · cases loaded
  · rintro ⟨address, node, visited, container, loaded⟩
    refine ⟨⟨node, Path.root.descend address⟩, mem_visits.mpr ⟨address, rfl, visited⟩, ?_⟩
    rwa [Visit.dataSources, if_pos container]

namespace Walk

variable {α β : Type}

/-- A step that succeeds appends the methods of these data sources, one for each, and registers
their import lines one after another. -/
def Loads (sources : List DataSource) (walk : Walk α) : Prop :=
  ∀ context value final, walk.run context = (.ok value, final) →
    (∃ methods, final.dataMethods = context.dataMethods ++ methods ∧
      List.Forall₂ DataSource.HasMethod sources methods) ∧
    final.imports = (sources.map (·.transport.importLine)).foldl addOnce context.imports

namespace Loads

variable {sources : List DataSource} {body : Walk String}

theorem of_same {walk : Walk α}
    (same : ∀ context, (walk.run context).2.dataMethods = context.dataMethods ∧
      (walk.run context).2.imports = context.imports) : Loads [] walk := by
  intro context value final success
  obtain ⟨methods, imports⟩ := same context
  rw [success] at methods imports
  exact ⟨⟨[], by rw [methods, List.append_nil], .nil⟩, imports⟩

theorem pure (value : α) : Loads [] (Pure.pure value : Walk α) :=
  of_same fun _ => ⟨rfl, rfl⟩

theorem bind {first rest : List DataSource} {walk : Walk α} {next : α → Walk β}
    (head : Loads first walk) (tail : ∀ value, Loads rest (next value)) :
    Loads (first ++ rest) (walk >>= next) := by
  intro context value final success
  obtain ⟨middleValue, middle, ran, success⟩ := run_bind_ok success
  obtain ⟨⟨methods, added, made⟩, imported⟩ := head context middleValue middle ran
  obtain ⟨⟨others, addedRest, madeRest⟩, importedRest⟩ :=
    tail middleValue middle value final success
  refine ⟨⟨methods ++ others, ?_, List.rel_append made madeRest⟩, ?_⟩
  · rw [addedRest, added, List.append_assoc]
  · rw [importedRest, imported, List.map_append, List.foldl_append]

theorem met (loads : Loads sources body) (node : Node) : Loads sources (met node body) := by
  intro context value final success
  obtain ⟨middle, ran, left⟩ := met_ok success
  subst left
  exact loads (context.enter node) value middle ran

theorem skipOrFail (kindName : String) (path : Path) : Loads [] (skipOrFail kindName path) := by
  refine of_same fun context => ?_
  rw [run_skipOrFail]
  split
  · exact ⟨rfl, rfl⟩
  · exact ⟨rfl, rfl⟩

/-- A data source registers its import line, then adds its method. -/
theorem compileDataSources (path : Path) (index : Nat) (sources : List DataSource) :
    Loads sources (compileDataSources path index sources) := by
  induction sources generalizing index with
  | nil => exact pure ()
  | cons source rest ih =>
    intro context value final success
    obtain ⟨method, middle, compiled, success⟩ := run_bind_ok success
    rw [DataSource.run_compile] at compiled
    obtain ⟨made, registered⟩ := Prod.mk.inj compiled
    obtain ⟨_, _, adding, success⟩ := run_bind_ok success
    cases adding
    obtain ⟨⟨methods, added, madeRest⟩, imported⟩ := ih (index + 1) _ value final success
    rw [← registered, addImport_eq] at added imported
    refine ⟨⟨method :: methods, ?_, .cons (DataSource.hasMethod made) madeRest⟩, imported⟩
    rw [added]
    simp [Context.addDataMethod, loaded]

theorem emitting (loads : Loads sources body) (kindName : String) :
    Loads sources (emitting kindName body) := by
  intro context value final success
  obtain ⟨text, middle, ran, filled⟩ := emitting_ok success
  subst filled
  exact loads (context.reserve kindName) text middle ran

/-- A container loads its own data sources before those of the containers below it. -/
theorem emitContainer (loads : Loads sources body) (kind : Kind) (node : Node) (path : Path) :
    Loads (node.dataSources ++ sources) (emitContainer body kind node path) := by
  have own := compileDataSources (path.field "dataSource") 0 node.dataSources
  have emitted := (own.bind fun _ => loads).emitting kind.displayName
  have whole := emitted.bind fun _ => pure ""
  rwa [List.append_nil] at whole

end Loads

private theorem account_loads :
    Account Loads fun node path below =>
      [(⟨node, path⟩ : Visit)].flatMap Visit.dataSources ++ below where
  pure := .pure
  fail _ _ _ _ _ success := by cases success
  bind := .bind
  unknown path unknown := by
    simpa [Visit.dataSources, Node.isContainer_unknown unknown] using
      (Loads.skipOrFail _ path).met _
  inline known inline loads := by
    simpa [Visit.dataSources, Node.isContainer_known known, inline] using loads.met _
  container known container _ loads := by
    simpa [Visit.dataSources, Node.isContainer_known known, container] using
      (loads.emitContainer _ _ _).met _

/-- The walk over a tree loads the data sources of its visited containers. -/
theorem transformNode_loads (node : Node) (path : Path) :
    Loads (node.loadedSources path) (transformNode node path) := by
  unfold Node.loadedSources
  rw [Node.change_visits List.flatMap_nil fun _ _ => List.flatMap_append]
  exact account_loads.transformNode node path

private theorem transformSchema_loads (schema : Node) :
    Loads (schema.loadedSources Path.root) (transformSchema schema) := by
  have visit := transformNode_loads schema Path.root
  unfold transformSchema
  split
  · have whole := visit.bind fun _ => Loads.pure ()
    rwa [List.append_nil] at whole
  · exact visit.emitting ""

/-- The methods and the import lines that a walk over a tree has to leave behind. -/
structure DataFollows (schema : Node) (final : Context) : Prop where
  /-- One method for each data source of the visited containers, in the order of the visits. -/
  methods : List.Forall₂ DataSource.HasMethod (schema.loadedSources Path.root) final.dataMethods
  /-- The lines of the same data sources, without repetitions. -/
  imports : final.imports =
    ((schema.loadedSources Path.root).map (·.transport.importLine)).eraseDups
  once (transport : Transport) : final.imports.count transport.importLine ≤ 1
  used (transport : Transport) : transport.importLine ∈ final.imports ↔
    ∃ address node source, schema.Visited address node ∧ node.isContainer = true ∧
      source ∈ node.dataSources ∧ source.transport = transport

/-- A walk that succeeds leaves the methods of all data sources of the visited containers and,
once each, the import lines that they use. -/
theorem data_follows_visits {schema : Node} {context final : Context}
    (idle : context.dataMethods = []) (bare : context.imports = [])
    (success : (transformSchema schema).run context = (.ok (), final)) :
    DataFollows schema final := by
  obtain ⟨⟨methods, added, made⟩, imported⟩ := transformSchema_loads schema context () final success
  rw [idle, List.nil_append] at added
  rw [bare, foldl_addOnce] at imported
  have extended := transformSchema_extends schema context
  rw [success] at extended
  have distinct : final.imports.Nodup := extended.distinct (by rw [bare]; exact List.nodup_nil)
  refine ⟨added ▸ made, imported, fun transport => ?_, fun transport => ?_⟩
  · exact List.nodup_iff_count_le_one.mp distinct transport.importLine
  · rw [imported, List.mem_eraseDups, List.mem_map]
    constructor
    · rintro ⟨source, loaded, same⟩
      obtain ⟨address, node, visited, container, member⟩ := Node.mem_loadedSources.mp loaded
      exact ⟨address, node, source, visited, container, member, Transport.importLine_inj same⟩
    · rintro ⟨address, node, source, visited, container, member, rfl⟩
      exact ⟨source, Node.mem_loadedSources.mpr ⟨address, node, visited, container, member⟩, rfl⟩

/-- A page with a list of two data sources, a block inside it with a single one, and a text with one
that is not loaded. -/
theorem data_follows_visits_nested :
    let source (id : String) (transport : Transport) : DataSource :=
      ⟨id, transport, [("uri", .string id)], none⟩
    let schema := { Node.ofKind "Page" with
      dataSource := some (.many [source "list" .jsonp, source "user" .fetch])
      children := [{ Node.ofKind "Text" with dataSource := some (.one (source "lost" .fetch)) },
        { Node.ofKind "Div" with children := [{ Node.ofKind "Block" with
          dataSource := some (.one (source "more" .jsonp)) }] }] }
    ∃ final, (transformSchema schema).run (Context.fresh "Home") = (.ok (), final) ∧
      (schema.loadedSources Path.root).map (·.id) = ["list", "user", "more"] ∧
      final.imports = [Transport.jsonp.importLine, Transport.fetch.importLine] ∧
      DataFollows schema final := by
  intro source schema
  have success : (transformSchema schema).run (Context.fresh "Home") = (.ok (), _) :=
    run_eq_ok (by decide +kernel)
  exact ⟨_, success, by decide +kernel, by decide +kernel, data_follows_visits rfl rfl success⟩

end Walk

end PanelCompiler
