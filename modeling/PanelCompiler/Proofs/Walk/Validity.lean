import PanelCompiler.Proofs.Value.Serialize
import PanelCompiler.Proofs.Walk.Faults

namespace PanelCompiler

/-- A value can be written out: it is no function, or one that falls into its parts. -/
def Json.HasSource (value : Json) : Prop :=
  ∀ source, ValueClass.ofJson value = .function source →
    ∃ parts, Script.FunctionParts.ofSource source = .ok parts

/-- What a loop can run over: an array, or a text that is one whole expression. -/
inductive Json.Iterable : Json → Prop
  | array (items : List Json) : Iterable (.array items)
  | expression {text : String} {body : List Char}
      (whole : Value.expressionBody? text.toList = some body) : Iterable (.string text)

/-- The uri of a data source can be written out, and its handler is a function. -/
structure DataSource.Valid (source : DataSource) : Prop where
  uri : ∀ uri, source.options.get? "uri" = some uri → uri.HasSource
  handler : ∀ handler, source.handler = some handler →
    ∃ parts, Script.FunctionParts.ofSource (DataSource.handlerSource handler) = .ok parts

/-- The options of a data source are not themselves a tagged value. -/
def DataSource.HasPlainOptions (source : DataSource) : Prop :=
  (Json.object source.options).tagged? functionTag = none ∧
    (Json.object source.options).tagged? expressionTag = none

instance (source : DataSource) : Decidable source.HasPlainOptions :=
  inferInstanceAs (Decidable (_ ∧ _))

/-- What a node of a known kind has to satisfy on its own. -/
structure Node.Valid (node : Node) (kind : Kind) : Prop where
  props : ∀ key value, (key, value) ∈ node.props → key ∉ ["className", "style", "text", "src"] →
    value.HasSource
  text : kind = .text → ∀ value, node.props.get? "text" = some value → value.HasSource
  image : kind = .image → ∀ value, node.props.get? "src" = some value → value.HasSource
  loop : ∀ source, node.loop = some source → source.Iterable
  condition : ∀ condition, node.condition = some condition → condition.HasSource
  dataSources : kind.isContainer = true → ∀ source ∈ node.dataSources, source.Valid

section Outcomes

theorem faultOf_functionParts_eq_nil {source : String} {path : Path} :
    faultOf (functionParts source path) = [] ↔
      ∃ parts, Script.FunctionParts.ofSource source = .ok parts := by
  unfold functionParts
  cases Script.FunctionParts.ofSource source <;> simp [faultOf]

theorem faultOf_toSource_eq_nil {value : Json} {path : Path} :
    faultOf (value.toSource .attribute path) = [] ↔ value.HasSource := by
  unfold Json.toSource Json.HasSource
  cases ValueClass.ofJson value with
  | function source =>
    simp only [faultOf_map, ValueClass.function.injEq, forall_eq']
    exact faultOf_functionParts_eq_nil
  | expression _ => simp [faultOf]
  | literal _ => simp [faultOf]
  | data _ => simp [faultOf]

theorem faultOf_loopSource_eq_nil {source : Json} {path : Path} :
    faultOf (Directive.loopSource source path) = [] ↔ source.Iterable := by
  cases source with
  | array items => exact iff_of_true rfl (.array items)
  | string text =>
    unfold Directive.loopSource
    cases whole : Value.expressionBody? text.toList with
    | some body => exact iff_of_true (by simp [faultOf, whole]) (.expression whole)
    | none =>
      refine iff_of_false (by simp [faultOf, whole]) ?_
      rintro (_ | found)
      rw [whole] at found
      cases found
  | null | bool | number | object =>
    refine iff_of_false (by simp [Directive.loopSource, faultOf]) fun iterable => ?_
    cases iterable

end Outcomes

section Payload

private theorem Fields.get?_filter {keep : String → Bool} {key : String} (kept : keep key = true)
    (fields : Fields) :
    Fields.get? (fields.filter fun (name, _) => keep name) key = fields.get? key := by
  induction fields with
  | nil => rfl
  | cons field rest ih =>
    obtain ⟨name, value⟩ := field
    by_cases same : name = key
    · subst same
      simp [kept, Fields.get?]
    · cases keeps : keep name <;> simpa [keeps, Fields.get?, same] using ih

/-- Options without a meaning of their own go into the payload as they are. -/
theorem DataSource.payloadFields_get? (source : DataSource) {key : String}
    (free : reservedOptions.contains key = false) :
    source.payloadFields.get? key = source.options.get? key := by
  have kept : (!reservedOptions.contains key) = true := by
    rw [free]
    rfl
  have others := @Fields.get?_filter (fun key => !reservedOptions.contains key) key kept
    source.options
  have apart : "method" ≠ key := by
    rintro rfl
    exact absurd free (by decide)
  unfold payloadFields
  split
  · simpa [Fields.get?, apart] using others
  · exact others

private theorem DataSource.withoutLastByte?_braced (entries : List String) :
    ∃ head, withoutLastByte? (Json.braced entries) = some head := by
  have single : '\x7d'.utf8Size = 1 := by decide
  simp [withoutLastByte?, Json.braced, single]

/-- The payload of plain options ends with a brace, in front of which parameters find room. -/
theorem DataSource.HasPlainOptions.payload {source : DataSource} (plain : source.HasPlainOptions) :
    faultOf source.payloadSource = [] := by
  have tagged := Json.tagged?_congr (source.payloadFields_get? (by decide))
    (source.payloadFields_get? (by decide))
  have function := (tagged functionTag).trans plain.1
  have expression := (tagged expressionTag).trans plain.2
  obtain ⟨head, cut⟩ := withoutLastByte?_braced (Json.serializeFields source.payloadFields)
  unfold payloadSource
  cases source.options.get? "params" with
  | none => rfl
  | some parameters => simp [Json.serialize_object function expression, cut, faultOf]

end Payload

theorem siteFaults_eq_nil {sites : List Site} {path : Path} :
    siteFaults sites path = [] ↔ ∀ site ∈ sites, site.faults path = [] :=
  List.flatMap_eq_nil_iff

/-- A place that is there only for a given value fails only for that. -/
theorem siteFaults_given {value? : Option Json} {site : Json → Site} {path : Path} :
    siteFaults (value?.toList.map site) path = [] ↔
      ∀ value, value? = some value → (site value).faults path = [] := by
  rw [siteFaults_eq_nil]
  simp

private theorem DataSource.sites_valid {source : DataSource} (plain : source.HasPlainOptions)
    (names : List String) (path : Path) :
    siteFaults (source.sites names) path = [] ↔ source.Valid := by
  have payload : siteFaults [.payload source] path = [] := by
    rw [siteFaults_single]
    exact plain.payload
  unfold sites
  rw [siteFaults_append, siteFaults_append, List.append_eq_nil_iff, List.append_eq_nil_iff,
    siteFaults_given, siteFaults_given]
  constructor
  · rintro ⟨⟨uris, -⟩, handlers⟩
    refine ⟨fun uri given => ?_, fun handler given => ?_⟩
    · exact faultOf_toSource_eq_nil.mp (uris uri given)
    · exact faultOf_functionParts_eq_nil.mp (handlers handler given)
  · intro valid
    refine ⟨⟨fun uri given => ?_, payload⟩, fun handler given => ?_⟩
    · exact faultOf_toSource_eq_nil.mpr (valid.uri uri given)
    · exact faultOf_functionParts_eq_nil.mpr (valid.handler handler given)

namespace Node

theorem propSites_valid {props : Fields} {path : Path} :
    siteFaults (propSites props) path = [] ↔
      ∀ key value, (key, value) ∈ props → key ∉ ["className", "style", "text", "src"] →
        value.HasSource := by
  rw [siteFaults_eq_nil]
  constructor
  · intro valid key value member free
    have unreserved : Markup.reservedProps.contains key = false := by
      simpa [Markup.reservedProps] using free
    have site := valid _ (mem_propSites.mpr ⟨key, value, member, unreserved, rfl⟩)
    exact faultOf_toSource_eq_nil.mp site
  · intro valid site member
    obtain ⟨key, value, member, unreserved, same⟩ := mem_propSites.mp member
    have free : key ∉ ["className", "style", "text", "src"] := by
      simpa [Markup.reservedProps] using unreserved
    rw [same]
    exact faultOf_toSource_eq_nil.mpr (valid key value member free)

theorem dataSites_valid {sources : List DataSource} (index : Nat) (path : Path)
    (plain : ∀ source ∈ sources, source.HasPlainOptions) :
    siteFaults (dataSites index sources) path = [] ↔ ∀ source ∈ sources, source.Valid := by
  induction sources generalizing index with
  | nil => simp [dataSites, siteFaults]
  | cons source rest ih =>
    have first := DataSource.sites_valid (plain source (by simp)) ["dataSource", toString index]
      path
    have others := ih (index + 1) fun other member => plain other (by simp [member])
    rw [dataSites, siteFaults_append, List.append_eq_nil_iff, first, others, List.forall_mem_cons]

theorem contentSites_valid {node : Node} {kind : Kind} {path : Path} :
    siteFaults (node.contentSites kind) path = [] ↔
      (kind = .text → ∀ value, node.props.get? "text" = some value → value.HasSource) ∧
        (kind = .image → ∀ value, node.props.get? "src" = some value → value.HasSource) := by
  cases kind with
  | text =>
    rw [contentSites, siteFaults_given]
    simp only [Site.faults, faultOf_toSource_eq_nil, forall_const, reduceCtorEq, false_implies,
      and_true]
  | image =>
    rw [contentSites, siteFaults_given]
    simp only [Site.faults, faultOf_toSource_eq_nil, forall_const, reduceCtorEq, false_implies,
      true_and]
  | page | block | component | div => simp [contentSites, siteFaults]

theorem directiveSites_valid {node : Node} {path : Path} :
    siteFaults node.directiveSites path = [] ↔
      (∀ source, node.loop = some source → source.Iterable) ∧
        ∀ condition, node.condition = some condition → condition.HasSource := by
  rw [directiveSites, siteFaults_append, List.append_eq_nil_iff, siteFaults_given,
    siteFaults_given]
  simp only [Site.faults, faultOf_loopSource_eq_nil, faultOf_toSource_eq_nil]

/-- A node of a known kind is valid exactly if none of its places fails. -/
theorem sites_valid {node : Node} {kind : Kind}
    (plain : ∀ source ∈ node.dataSources, source.HasPlainOptions) (path : Path) :
    siteFaults (node.sites kind) path = [] ↔ node.Valid kind := by
  have loads : siteFaults (if kind.isContainer then dataSites 0 node.dataSources else []) path =
      [] ↔ (kind.isContainer = true → ∀ source ∈ node.dataSources, source.Valid) := by
    rw [← dataSites_valid 0 path plain]
    cases kind.isContainer <;> simp [siteFaults]
  unfold sites leadingSites
  simp only [siteFaults_append, List.append_eq_nil_iff]
  rw [loads, propSites_valid, contentSites_valid, directiveSites_valid]
  constructor
  · rintro ⟨⟨sources, props, text, image⟩, loop, condition⟩
    exact ⟨props, text, image, loop, condition, sources⟩
  · intro valid
    exact ⟨⟨valid.dataSources, valid.props, valid.text, valid.image⟩, valid.loop,
      valid.condition⟩

/-- A node has no faults of its own, unknown kinds being left out, exactly if it is valid. -/
theorem aroundFaults_lenient {node : Node}
    (plain : ∀ source ∈ node.dataSources, source.HasPlainOptions) (path : Path) :
    node.aroundFaults true path [] = [] ↔
      ∀ kind, node.kind? = some kind → node.Valid kind := by
  cases known : node.kind? with
  | none => simp [aroundFaults_unknown known]
  | some kind =>
    rw [aroundFaults_known known, sites_valid plain]
    simp

end Node

private theorem Site.keyed {site : Site} {path target : Path} {fragment : String} :
    .malformedLoopTarget target fragment ∉ site.faults path := by
  intro failed
  cases site with
  | value names content =>
    obtain ⟨_, _, _, _, same⟩ := mem_faultOf_toSource.mp failed
    cases same
  | payload source =>
    obtain ⟨_, same⟩ := mem_faultOf_payloadSource failed
    cases same
  | handler names content =>
    obtain ⟨_, _, same⟩ := mem_faultOf_functionParts.mp failed
    cases same
  | loop names source => cases mem_faultOf_loopSource failed

private theorem Node.keyed {lenient : Bool} {node : Node} {path target : Path} {fragment : String} :
    .malformedLoopTarget target fragment ∉ node.aroundFaults lenient path [] := by
  intro failed
  cases known : node.kind? with
  | none =>
    rw [aroundFaults_unknown known] at failed
    cases lenient <;> simp at failed
  | some kind =>
    rw [aroundFaults_known known] at failed
    obtain ⟨site, _, fault⟩ := List.mem_flatMap.mp failed
    exact Site.keyed fault

namespace Walk

/-- A walk that leaves out nodes of unknown kinds succeeds exactly if all visited nodes of known
kinds are valid, and no walk fails because markup cannot carry a key: every element begins with its
tag. -/
theorem succeeds_iff_valid (schema : Node) :
    (∀ context : Context, context.skipUnsupported = true →
      (∀ visit ∈ schema.visits Path.root, ∀ source ∈ visit.node.dataSources,
        source.HasPlainOptions) →
      ((∃ final, (transformSchema schema).run context = (.ok (), final)) ↔
        ∀ visit ∈ schema.visits Path.root, ∀ kind, visit.node.kind? = some kind →
          visit.node.Valid kind)) ∧
    (∀ context path fragment final,
      (transformSchema schema).run context ≠ (.error (.malformedLoopTarget path fragment), final)) ∧
    ∀ kind node path attributes children context element final,
      (renderElement kind node path attributes children).run context = (.ok element, final) →
        Directive.Opens element := by
  refine ⟨fun context lenient plain => ?_, fun context path fragment final failure => ?_,
    fun _ _ _ _ _ _ _ _ success => renderElement_opens success⟩
  · have stops := (transformSchema_stops schema).succeeds_iff context
    rw [lenient, Node.faults_eq_nil] at stops
    have own := fun visit member => Node.aroundFaults_lenient (plain visit member) visit.path
    rw [← forall₂_congr own, ← stops]
    exact ⟨fun ⟨final, success⟩ => ⟨(), final, success⟩,
      fun ⟨_, final, success⟩ => ⟨final, success⟩⟩
  · have member := (transformSchema_stops schema).error_mem failure
    obtain ⟨visit, _, fault⟩ := (Node.mem_faults schema Path.root).mp member
    exact Node.keyed fault

/-- A looped text, a data source and a node of an unknown kind on one page: the walk succeeds, so
what it visits is valid. -/
theorem succeeds_iff_valid_looped :
    let parts := Json.string "function (data) \x7b return data; \x7d"
    let source : DataSource :=
      { id := "load", transport := .fetch, options := [("uri", .string "/items")],
        handler := some parts }
    let text := { Node.ofKind "Text" with
      props := [("text", .string "\x7b\x7bthis.item\x7d\x7d"), ("onClick", parts)]
      loop := some (.string "\x7b\x7bthis.state.items\x7d\x7d")
      condition := some (.bool true) }
    let schema := { Node.ofKind "Page" with
      dataSource := some (.one source), children := [text, Node.ofKind "Video"] }
    let context := { Context.fresh "Home" with skipUnsupported := true }
    context.skipUnsupported = true ∧
      (∀ visit ∈ schema.visits Path.root, ∀ source ∈ visit.node.dataSources,
        source.HasPlainOptions) ∧
      (∃ final, (transformSchema schema).run context = (.ok (), final)) ∧
      ∀ visit ∈ schema.visits Path.root, ∀ kind, visit.node.kind? = some kind →
        visit.node.Valid kind := by
  intro parts source text schema context
  have plain : ∀ visit ∈ schema.visits Path.root, ∀ source ∈ visit.node.dataSources,
      source.HasPlainOptions := by
    decide +kernel
  have success : (transformSchema schema).run context = (.ok (), _) := run_eq_ok (by decide +kernel)
  exact ⟨rfl, plain, ⟨_, success⟩,
    ((succeeds_iff_valid schema).1 context rfl plain).mp ⟨_, success⟩⟩

end Walk

end PanelCompiler
