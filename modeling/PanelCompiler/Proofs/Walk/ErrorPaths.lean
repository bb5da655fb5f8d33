import PanelCompiler.Proofs.Tree.Keys
import PanelCompiler.Proofs.Tree.Location
import PanelCompiler.Proofs.Walk.Validity

/-!
Where the path of an error leads. In the JSON form of the tree it leads to what the error is about,
unless that is part of a lone data source: data sources are numbered even where there is no list of
them, so the path of such an error leads nowhere.
-/

namespace PanelCompiler

/-- What an error is about: a node of an unknown kind, a function without parts or a handler that
is no function, or a loop over something else than an array or an expression. -/
def CompileError.Concerns (error : CompileError) (value : Json) : Prop :=
  match error with
  | .unsupportedKind kindName _ =>
    ∃ node : Node, value = node.toJson ∧ node.kindName = kindName ∧ node.kind? = none
  | .malformedFunction path fault =>
    ∃ source, Script.FunctionParts.ofSource source = .error fault ∧
      (ValueClass.ofJson value = .function source ∨
        path.steps.getLast? = some (.field "dataHandler") ∧
          DataSource.handlerSource value = source)
  | .invalidLoopSource path =>
    path.steps.getLast? = some (.field "loop") ∧ ¬ value.Iterable
  | _ => False

/-- The path of an error leads to what the error is about. -/
def Node.LeadsTo (schema : Node) (path : Path) (error : CompileError) : Prop :=
  ∃ value, schema.toJson.follow? path.steps = some value ∧ error.Concerns value

/-- A path goes into the data source of a visited node that has no list of them. -/
def Node.InLoneSource (schema : Node) (path : Path) : Prop :=
  ∃ address node source, schema.Visited address node ∧
    node.dataSource = some (.one source) ∧
    ((Path.root.descend address).field "dataSource").steps <+: path.steps

/-- The fields that lead to a place of a node, and what stands there; payloads are made up. -/
def Site.target? : Site → Option (List String × Json)
  | .value names content => some (names, content)
  | .payload _ => none
  | .handler names content => some (names, content)
  | .loop names source => some (names, source)

/-- A path that goes on from an address with the names of fields begins with that address alone. -/
theorem Path.descend_prefix {above address : List Nat} {name : String} {names : List String} :
    ((Path.root.descend above).field name).steps <+:
      ((Path.root.descend address).fields names).steps ↔
        above = address ∧ names.head? = some name := by
  simp only [descend, field, fields, root, List.nil_append]
  induction above generalizing address with
  | nil =>
    cases address with
    | nil => cases names <;> simp [eq_comm]
    | cons index rest => simp
  | cons index rest ih =>
    cases address with
    | nil => cases names <;> simp
    | cons other others => simp [List.cons_prefix_cons, ih, and_assoc]

/-- Below a data source, its fields lead to its places. -/
theorem DataSource.follow?_site {source : DataSource} {above names : List String} {site : Site}
    {content : Json} (member : site ∈ source.sites above)
    (target : site.target? = some (names, content)) :
    ∃ below, names = above ++ below ∧
      source.toJson.follow? (below.map .field) = some content := by
  unfold sites at member
  rcases List.mem_append.mp member with requested | handled
  · rcases List.mem_append.mp requested with given | payload
    · obtain ⟨uri, present, rfl⟩ := List.mem_map.mp given
      cases target
      refine ⟨["options", "uri"], rfl, ?_⟩
      exact (follow?_option source "uri").trans (Option.mem_toList.mp present)
    · cases List.mem_singleton.mp payload
      cases target
  · obtain ⟨handler, present, rfl⟩ := List.mem_map.mp handled
    cases target
    exact ⟨["dataHandler"], rfl, follow?_handler (Option.mem_toList.mp present)⟩

namespace Node

/-- These fields of the node go into its lone data source. -/
def EntersLoneSource (node : Node) (names : List String) : Prop :=
  names.head? = some "dataSource" ∧ ∃ source, node.dataSource = some (.one source)

section Places

variable {node : Node} {site : Site} {names : List String} {content : Json}

/-- The numbers of data sources lead on in a list of them only. -/
theorem follow?_dataSite (member : site ∈ dataSites 0 node.dataSources)
    (target : site.target? = some (names, content)) :
    node.EntersLoneSource names ∧ node.toJson.follow? (names.map .field) = none ∨
      ¬ node.EntersLoneSource names ∧ node.toJson.follow? (names.map .field) = some content := by
  obtain ⟨offset, source, found, inside⟩ := mem_dataSites.mp member
  obtain ⟨below, rfl, leads⟩ := DataSource.follow?_site inside target
  unfold dataSources at found
  cases form : node.dataSource with
  | none => simp [form] at found
  | some sources =>
    rw [form] at found
    cases sources with
    | one lone =>
      -- The only source has number 0, and no field of its JSON form is called that.
      refine .inl ⟨⟨rfl, lone, form⟩, ?_⟩
      have first : offset = 0 := by
        have bound := (List.getElem?_eq_some_iff.mp found).1
        simpa [DataSources.toList] using bound
      subst first
      exact follow?_loneSource form _
    | many listed =>
      refine .inr ⟨?_, ?_⟩
      · rintro ⟨-, lone, same⟩
        rw [form] at same
        cases same
      · rw [Nat.zero_add]
        exact (follow?_listedSource form found _).trans leads

/-- The places outside the data sources are found under their fields. -/
theorem follow?_ownSite {kind : Kind} (distinct : node.props.keys.Nodup)
    (member : site ∈ propSites node.props ++ node.contentSites kind ++ node.directiveSites)
    (target : site.target? = some (names, content)) :
    names.head? ≠ some "dataSource" ∧ node.toJson.follow? (names.map .field) = some content := by
  rcases List.mem_append.mp member with shown | wrapped
  · rcases List.mem_append.mp shown with prop | inner
    · obtain ⟨key, value, present, -, rfl⟩ := mem_propSites.mp prop
      cases target
      refine ⟨by simp, ?_⟩
      exact (follow?_props node key).trans (Fields.get?_of_mem distinct present)
    · cases kind with
      | text =>
        obtain ⟨value, present, rfl⟩ := List.mem_map.mp inner
        cases target
        exact ⟨by simp, (follow?_props node "text").trans (Option.mem_toList.mp present)⟩
      | image =>
        obtain ⟨value, present, rfl⟩ := List.mem_map.mp inner
        cases target
        exact ⟨by simp, (follow?_props node "src").trans (Option.mem_toList.mp present)⟩
      | page | block | component | div => cases inner
  · rcases List.mem_append.mp wrapped with looped | guarded
    · obtain ⟨source, present, rfl⟩ := List.mem_map.mp looped
      cases target
      exact ⟨by simp, follow?_loop (Option.mem_toList.mp present)⟩
    · obtain ⟨condition, present, rfl⟩ := List.mem_map.mp guarded
      cases target
      exact ⟨by simp, follow?_condition (Option.mem_toList.mp present)⟩

/-- The fields that lead to a place of a node lead there in its JSON form, but not into a lone data
source. -/
theorem follow?_site {kind : Kind} (distinct : node.props.keys.Nodup)
    (member : site ∈ node.sites kind) (target : site.target? = some (names, content)) :
    node.EntersLoneSource names ∧ node.toJson.follow? (names.map .field) = none ∨
      ¬ node.EntersLoneSource names ∧ node.toJson.follow? (names.map .field) = some content := by
  unfold sites leadingSites at member
  rw [List.append_assoc] at member
  rcases List.mem_append.mp member with loaded | own
  · split at loaded
    · exact follow?_dataSite loaded target
    · cases loaded
  · obtain ⟨outside, leads⟩ := follow?_ownSite distinct own target
    exact .inr ⟨fun enters => outside enters.1, leads⟩

end Places

end Node

/-- Handlers and loops stand in the fields that are named after them. -/
def Site.Named : Site → Prop
  | .value _ _ | .payload _ => True
  | .handler names _ => names.getLast? = some "dataHandler"
  | .loop names _ => names.getLast? = some "loop"

private theorem DataSource.sites_named {source : DataSource} {names : List String} {site : Site}
    (member : site ∈ source.sites names) : site.Named := by
  unfold sites at member
  rcases List.mem_append.mp member with requested | handled
  · rcases List.mem_append.mp requested with given | payload
    · obtain ⟨uri, -, rfl⟩ := List.mem_map.mp given
      trivial
    · cases List.mem_singleton.mp payload
      trivial
  · obtain ⟨handler, -, rfl⟩ := List.mem_map.mp handled
    simp [Site.Named]

theorem Node.sites_named {node : Node} {kind : Kind} {site : Site}
    (member : site ∈ node.sites kind) : site.Named := by
  unfold sites leadingSites directiveSites at member
  simp only [List.mem_append] at member
  rcases member with (loaded | prop | inner) | looped | guarded
  · split at loaded
    · obtain ⟨_, _, _, inside⟩ := mem_dataSites.mp loaded
      exact DataSource.sites_named inside
    · cases loaded
  · obtain ⟨_, _, _, _, rfl⟩ := mem_propSites.mp prop
    trivial
  · cases kind with
    | text | image =>
      obtain ⟨_, _, rfl⟩ := List.mem_map.mp inner
      trivial
    | page | block | component | div => cases inner
  · obtain ⟨_, _, rfl⟩ := List.mem_map.mp looped
    rfl
  · obtain ⟨_, _, rfl⟩ := List.mem_map.mp guarded
    trivial

private theorem Path.getLast?_fields {path : Path} {names : List String} {name : String}
    (last : names.getLast? = some name) :
    (path.fields names).steps.getLast? = some (.field name) := by
  simp [fields, List.getLast?_append, List.getLast?_map, last]

/-- An error with a path that comes from a place of a node is about what stands there. -/
theorem Site.error_concerns {site : Site} {path place : Path} {error : CompileError}
    (named : site.Named) (fault : error ∈ site.faults path) (located : error.path? = some place) :
    ∃ names content, site.target? = some (names, content) ∧ place = path.fields names ∧
      error.Concerns content := by
  cases site with
  | value names content =>
    obtain ⟨source, cause, function, failed, rfl⟩ := mem_faultOf_toSource.mp fault
    cases located
    exact ⟨names, content, rfl, rfl, source, failed, .inl function⟩
  | payload source =>
    obtain ⟨payload, rfl⟩ := mem_faultOf_payloadSource fault
    cases located
  | handler names content =>
    obtain ⟨cause, failed, rfl⟩ := mem_faultOf_functionParts.mp fault
    cases located
    exact ⟨names, content, rfl, rfl, _, failed, .inr ⟨Path.getLast?_fields named, rfl⟩⟩
  | loop names source =>
    cases mem_faultOf_loopSource fault
    cases located
    refine ⟨names, source, rfl, rfl, Path.getLast?_fields named, fun iterable => ?_⟩
    rw [Site.faults, faultOf_loopSource_eq_nil.mpr iterable] at fault
    cases fault

namespace Node

/-- A path that goes from a visited node into its fields enters a lone data source exactly if the
fields of this node do. -/
theorem inLoneSource_iff {schema node : Node} {address : List Nat} {names : List String}
    (visited : schema.Visited address node) :
    schema.InLoneSource ((Path.root.descend address).fields names) ↔
      node.EntersLoneSource names := by
  constructor
  · rintro ⟨above, other, source, reached, lone, begins⟩
    obtain ⟨rfl, enters⟩ := Path.descend_prefix.mp begins
    cases visited.at?.symm.trans reached.at?
    exact ⟨enters, source, lone⟩
  · rintro ⟨enters, source, lone⟩
    exact ⟨address, node, source, visited, lone, Path.descend_prefix.mpr ⟨rfl, enters⟩⟩

theorem follow?_fields {schema node : Node} {address : List Nat}
    (visited : schema.Visited address node) (names : List String) :
    schema.toJson.follow? ((Path.root.descend address).fields names).steps =
      node.toJson.follow? (names.map .field) := by
  have whole : ((Path.root.descend address).fields names).steps =
      address.map .child ++ names.map .field := by
    simp [Path.fields, Path.descend, Path.root]
  rw [whole, Json.follow?_append, follow?_address visited.at?, Option.bind_some]

/-- The path of a visited node leads to that node, and into no data source. -/
theorem leadsTo_unknown {schema node : Node} {address : List Nat}
    (visited : schema.Visited address node) (unknown : node.kind? = none) :
    schema.LeadsTo (Path.root.descend address)
        (.unsupportedKind node.kindName (Path.root.descend address)) ∧
      ¬ schema.InLoneSource (Path.root.descend address) := by
  -- A path without fields is one with no names of fields behind the address.
  have leads := follow?_fields visited []
  have lone := @inLoneSource_iff schema node address [] visited
  rw [Path.fields_nil] at leads lone
  refine ⟨⟨node.toJson, leads, node, rfl, rfl, unknown⟩, ?_⟩
  rw [lone]
  rintro ⟨enters, _⟩
  cases enters

/-- A fault at a place of a visited node leads to what it is about, unless it is inside a lone data
source. -/
theorem leadsTo_site {schema node : Node} {address : List Nat} {kind : Kind} {site : Site}
    {error : CompileError} {path : Path} (visited : schema.Visited address node)
    (distinct : node.props.keys.Nodup) (placed : site ∈ node.sites kind)
    (fault : error ∈ site.faults (Path.root.descend address))
    (located : error.path? = some path) :
    schema.LeadsTo path error ↔ ¬ schema.InLoneSource path := by
  obtain ⟨names, content, target, rfl, concerns⟩ :=
    Site.error_concerns (sites_named placed) fault located
  unfold LeadsTo
  rw [inLoneSource_iff visited, follow?_fields visited]
  rcases follow?_site distinct placed target with ⟨enters, lost⟩ | ⟨outside, leads⟩
  · refine iff_of_false ?_ (not_not_intro enters)
    rintro ⟨value, found, -⟩
    rw [lost] at found
    cases found
  · exact iff_of_true ⟨content, leads, concerns⟩ outside

end Node

namespace Walk

/-- Where a walk can be run, it need only be seen to fail at a path. -/
theorem run_eq_error {walk : Walk Unit} {context : Context} {path : Path}
    (fails : (faultOf (walk.run context).1).filterMap CompileError.path? = [path]) :
    ∃ error final, walk.run context = (.error error, final) ∧ error.path? = some path := by
  rcases ran : walk.run context with ⟨error | value, final⟩
  · rw [ran] at fails
    refine ⟨error, final, rfl, ?_⟩
    cases located : error.path? with
    | none => simp [faultOf, located] at fails
    | some place => simpa [faultOf, located] using fails
  · rw [ran] at fails
    cases fails

/-- An error that has a path leads to what it is about, unless it is inside a lone data source of a
visited node. -/
theorem error_leads_iff {schema : Node} {context final : Context} {error : CompileError}
    {path : Path} (once : schema.BindsOnce)
    (failure : (transformSchema schema).run context = (.error error, final))
    (located : error.path? = some path) :
    schema.LeadsTo path error ↔ ¬ schema.InLoneSource path := by
  have fault := (transformSchema_stops schema).error_mem failure
  obtain ⟨⟨node, location⟩, member, fault⟩ := (Node.mem_faults schema Path.root).mp fault
  obtain ⟨address, rfl, visited⟩ := Node.mem_visits.mp member
  cases known : node.kind? with
  | none =>
    rw [Node.aroundFaults_unknown known] at fault
    split at fault
    · cases fault
    · cases List.mem_singleton.mp fault
      cases located
      obtain ⟨leads, outside⟩ := Node.leadsTo_unknown visited known
      exact iff_of_true leads outside
  | some kind =>
    rw [Node.aroundFaults_known known] at fault
    obtain ⟨site, placed, fault⟩ := List.mem_flatMap.mp fault
    exact Node.leadsTo_site visited (once.visited visited).props placed fault located

/-- The second of two data sources is found by its number. -/
theorem error_leads_listed :
    let parts := "function (data) \x7b return data; \x7d"
    let good : DataSource := { id := "load", transport := .fetch, options := [], handler := none }
    let lone := { good with handler := some (.string parts) }
    let bad := { good with handler := some (.string "no function") }
    let block := { Node.ofKind "Block" with dataSource := some (.many [good, bad]) }
    let schema := { Node.ofKind "Page" with dataSource := some (.one lone), children := [block] }
    let path := ((Path.root.child 0).field "dataSource").fields ["1", "dataHandler"]
    schema.BindsOnce ∧
      ∃ error final, (transformSchema schema).run (Context.fresh "Home") = (.error error, final) ∧
        error.path? = some path ∧ schema.LeadsTo path error := by
  intro parts good lone bad block schema path
  have below : block.BindsOnce := .node List.nodup_nil nofun
  have once : schema.BindsOnce := .node List.nodup_nil (List.forall_mem_singleton.mpr below)
  obtain ⟨error, final, failure, located⟩ :
      ∃ error final, (transformSchema schema).run (Context.fresh "Home") = (.error error, final) ∧
        error.path? = some path := run_eq_error (by decide +kernel)
  have visited : schema.Visited [0] block := .child .root (by decide +kernel) rfl
  have outside : ¬ schema.InLoneSource path := by
    have fields :=
      @Node.inLoneSource_iff schema block [0] ["dataSource", "1", "dataHandler"] visited
    intro inside
    obtain ⟨-, _, same⟩ := fields.mp inside
    cases same
  exact ⟨once, error, final, failure, located,
    (error_leads_iff once failure located).mpr outside⟩

/-- The path of an error in a lone data source goes on with a number, which leads nowhere. -/
theorem error_astray_in_lone :
    let uri := Json.object [("type", .string functionTag), ("value", .string "x")]
    let source : DataSource :=
      { id := "load", transport := .fetch, options := [("uri", uri)], handler := none }
    let schema := { Node.ofKind "Page" with dataSource := some (.one source) }
    let path := Path.root.fields ["dataSource", "0", "options", "uri"]
    schema.BindsOnce ∧
      ∃ error final, (transformSchema schema).run (Context.fresh "Home") = (.error error, final) ∧
        error.path? = some path ∧ schema.toJson.follow? path.steps = none ∧
        ¬ schema.LeadsTo path error := by
  intro uri source schema path
  obtain ⟨error, final, failure, located⟩ :
      ∃ error final, (transformSchema schema).run (Context.fresh "Home") = (.error error, final) ∧
        error.path? = some path := run_eq_error (by decide +kernel)
  have lost : schema.toJson.follow? path.steps = none := Node.follow?_loneSource rfl _
  refine ⟨.node List.nodup_nil nofun, error, final, failure, located, lost, ?_⟩
  rintro ⟨value, found, -⟩
  rw [lost] at found
  cases found

end Walk

end PanelCompiler
