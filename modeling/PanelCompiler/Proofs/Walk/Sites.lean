import PanelCompiler.Walk.Transform

/-!
The places of a node that can fail, in the order in which they are looked at: each is a value below
the node that has to be written out, a request payload or a loop. Every part of a rendering fails
with the fault of the first such place, and gives its text if there is none.
-/

namespace PanelCompiler

/-- The fault of an outcome, if it has one. -/
def faultOf {α : Type} : Except CompileError α → List CompileError
  | .ok _ => []
  | .error error => [error]

section Faults

variable {α β : Type}

theorem take_faultOf (outcome : Except CompileError α) :
    (faultOf outcome).take 1 = faultOf outcome := by
  cases outcome <;> rfl

theorem faultOf_map (outcome : Except CompileError α) (change : α → β) :
    faultOf (outcome.map change) = faultOf outcome := by
  cases outcome <;> rfl

theorem take_append_faults {first rest : List CompileError} :
    (first ++ rest).take 1 = if first = [] then rest.take 1 else first.take 1 := by
  cases first <;> simp

/-- A step after a step fails with the first fault of both. -/
theorem faultOf_bind {outcome : Except CompileError α} {next : α → Except CompileError β}
    {first rest : List CompileError} (head : faultOf outcome = first.take 1)
    (tail : ∀ value, outcome = .ok value → faultOf (next value) = rest.take 1) :
    faultOf (outcome >>= next) = (first ++ rest).take 1 := by
  rw [take_append_faults]
  cases outcome with
  | error error =>
    have some : first ≠ [] := by
      rintro rfl
      simp [faultOf] at head
    rw [if_neg some, ← head]
    rfl
  | ok value =>
    have none : first = [] := by
      cases first with
      | nil => rfl
      | cons _ _ => simp [faultOf] at head
    rw [if_pos none]
    exact tail value rfl

end Faults

/-- The place of a field inside a field, and so on, below `path`. -/
def Path.fields (path : Path) (names : List String) : Path :=
  ⟨path.steps ++ names.map .field⟩

theorem Path.fields_nil (path : Path) : path.fields [] = path := by
  simp [fields]

theorem Path.fields_field (path : Path) (names : List String) (name : String) :
    (path.fields names).field name = path.fields (names ++ [name]) := by
  simp [fields, field]

/-- A place of a node that can fail. Values and sources are given with the names of the fields that
lead to them. -/
inductive Site
  /-- A value that is written out where it stands. -/
  | value (names : List String) (content : Json)
  /-- The payload of a request. -/
  | payload (source : DataSource)
  /-- A handler, which has to be a function whatever its class. -/
  | handler (names : List String) (content : Json)
  /-- What a loop runs over. -/
  | loop (names : List String) (source : Json)

/-- The fault of a place of the node at `path`, if it fails. -/
def Site.faults (path : Path) : Site → List CompileError
  | .value names content => faultOf (content.toSource .attribute (path.fields names))
  | .payload source => faultOf source.payloadSource
  | .handler names content =>
    faultOf (functionParts (DataSource.handlerSource content) (path.fields names))
  | .loop names source => faultOf (Directive.loopSource source (path.fields names))

def siteFaults (sites : List Site) (path : Path) : List CompileError :=
  sites.flatMap (Site.faults path)

theorem siteFaults_append (first rest : List Site) (path : Path) :
    siteFaults (first ++ rest) path = siteFaults first path ++ siteFaults rest path :=
  List.flatMap_append

theorem siteFaults_cons (site : Site) (rest : List Site) (path : Path) :
    siteFaults (site :: rest) path = site.faults path ++ siteFaults rest path :=
  List.flatMap_cons

theorem siteFaults_single (site : Site) (path : Path) : siteFaults [site] path = site.faults path :=
  List.flatMap_singleton ..

def DataSource.sites (names : List String) (source : DataSource) : List Site :=
  (source.options.get? "uri").toList.map (.value (names ++ ["options", "uri"])) ++
    [.payload source] ++ source.handler.toList.map (.handler (names ++ ["dataHandler"]))

namespace Node

def dataSites (index : Nat) : List DataSource → List Site
  | [] => []
  | source :: rest =>
    source.sites ["dataSource", toString index] ++ dataSites (index + 1) rest

def propSites : Fields → List Site
  | [] => []
  | (key, value) :: rest =>
    if Markup.reservedProps.contains key then propSites rest
    else .value ["props", key] value :: propSites rest

/-- The place of the content of a text or the source of an image. -/
def contentSites (kind : Kind) (node : Node) : List Site :=
  match kind with
  | .text => (node.props.get? "text").toList.map (.value ["props", "text"])
  | .image => (node.props.get? "src").toList.map (.value ["props", "src"])
  | .page | .block | .component | .div => []

/-- The places looked at before the children of a node are walked. -/
def leadingSites (kind : Kind) (node : Node) : List Site :=
  (if kind.isContainer then dataSites 0 node.dataSources else []) ++
    (propSites node.props ++ node.contentSites kind)

/-- The places looked at when the children of a node are done. -/
def directiveSites (node : Node) : List Site :=
  node.loop.toList.map (.loop ["loop"]) ++ node.condition.toList.map (.value ["condition"])

/-- All places of a node of a known kind. -/
def sites (kind : Kind) (node : Node) : List Site :=
  node.leadingSites kind ++ node.directiveSites

end Node

section Causes

variable {error : CompileError} {path : Path}

theorem mem_faultOf_functionParts {source : String} :
    error ∈ faultOf (functionParts source path) ↔
      ∃ fault, Script.FunctionParts.ofSource source = .error fault ∧
        error = .malformedFunction path fault := by
  unfold functionParts
  cases Script.FunctionParts.ofSource source <;> simp [faultOf]

/-- A value fails only as a function without parts. -/
theorem mem_faultOf_toSource {value : Json} :
    error ∈ faultOf (value.toSource .attribute path) ↔
      ∃ source fault, ValueClass.ofJson value = .function source ∧
        Script.FunctionParts.ofSource source = .error fault ∧
        error = .malformedFunction path fault := by
  unfold Json.toSource
  cases ValueClass.ofJson value with
  | function source =>
    simp only [faultOf_map, mem_faultOf_functionParts, ValueClass.function.injEq]
    constructor
    · rintro ⟨fault, failed, same⟩
      exact ⟨source, fault, rfl, failed, same⟩
    · rintro ⟨_, fault, rfl, failed, same⟩
      exact ⟨fault, failed, same⟩
  | expression _ => simp [faultOf]
  | literal _ => simp [faultOf]
  | data _ => simp [faultOf]

theorem mem_faultOf_payloadSource {source : DataSource}
    (failed : error ∈ faultOf source.payloadSource) : ∃ payload, error = .uncutPayload payload := by
  unfold DataSource.payloadSource at failed
  split at failed
  · cases failed
  · dsimp only at failed
    split at failed
    · exact ⟨_, List.mem_singleton.mp failed⟩
    · cases failed

theorem mem_faultOf_loopSource {source : Json}
    (failed : error ∈ faultOf (Directive.loopSource source path)) :
    error = .invalidLoopSource path := by
  unfold Directive.loopSource at failed
  split at failed
  · cases failed
  · split at failed
    · cases failed
    · exact List.mem_singleton.mp failed
  · exact List.mem_singleton.mp failed

end Causes

theorem Node.mem_propSites {props : Fields} {site : Site} :
    site ∈ Node.propSites props ↔ ∃ key value, (key, value) ∈ props ∧
      Markup.reservedProps.contains key = false ∧ site = .value ["props", key] value := by
  induction props with
  | nil => simp [Node.propSites]
  | cons prop rest ih =>
    obtain ⟨key, value⟩ := prop
    unfold Node.propSites
    split
    · rename_i reserved
      rw [ih]
      constructor
      · rintro ⟨other, content, member, plain, same⟩
        exact ⟨other, content, List.mem_cons_of_mem _ member, plain, same⟩
      · rintro ⟨other, content, member, plain, same⟩
        rcases List.mem_cons.mp member with here | later
        · cases here
          rw [reserved] at plain
          cases plain
        · exact ⟨other, content, later, plain, same⟩
    · rename_i plain
      rw [List.mem_cons, ih]
      constructor
      · rintro (same | ⟨other, content, member, plain, same⟩)
        · exact ⟨key, value, List.mem_cons_self, Bool.eq_false_iff.mpr plain, same⟩
        · exact ⟨other, content, List.mem_cons_of_mem _ member, plain, same⟩
      · rintro ⟨other, content, member, plain, same⟩
        rcases List.mem_cons.mp member with here | later
        · cases here
          exact .inl same
        · exact .inr ⟨other, content, later, plain, same⟩

theorem Node.mem_dataSites {index : Nat} {sources : List DataSource} {site : Site} :
    site ∈ Node.dataSites index sources ↔ ∃ (offset : Nat) (source : DataSource),
      sources[offset]? = some source ∧
      site ∈ source.sites ["dataSource", toString (index + offset)] := by
  induction sources generalizing index with
  | nil => simp [Node.dataSites]
  | cons first rest ih =>
    unfold Node.dataSites
    rw [List.mem_append, ih]
    constructor
    · rintro (here | ⟨offset, source, found, later⟩)
      · exact ⟨0, first, rfl, here⟩
      · refine ⟨offset + 1, source, found, ?_⟩
        rwa [Nat.add_assoc, Nat.add_comm 1] at later
    · rintro ⟨_ | offset, source, found, member⟩
      · cases found
        exact .inl member
      · refine .inr ⟨offset, source, found, ?_⟩
        rwa [Nat.add_assoc, Nat.add_comm 1]

/-- Whether a value fails does not hang on its position. -/
theorem faultOf_toSource (value : Json) (position : Position) (path : Path) :
    faultOf (value.toSource position path) = faultOf (value.toSource .attribute path) := by
  unfold Json.toSource
  cases ValueClass.ofJson value with
  | function _ => rfl
  | data _ => rfl
  | expression _ => cases position <;> rfl
  | literal _ => cases position <;> rfl

theorem faultOf_propAttributes (path : Path) (props : Fields) :
    faultOf (Markup.propAttributes (path.field "props") props) =
      (siteFaults (Node.propSites props) path).take 1 := by
  induction props with
  | nil => rfl
  | cons prop rest ih =>
    obtain ⟨key, value⟩ := prop
    unfold Markup.propAttributes Node.propSites
    split
    · exact ih
    · rw [siteFaults_cons]
      refine faultOf_bind ?_ fun source _ => ?_
      · rw [Site.faults, take_faultOf]
        simp [Path.fields, Path.field]
      · have others := faultOf_map (Markup.propAttributes (path.field "props") rest)
          (Markup.attributeText key source ++ ·)
        rw [← ih, ← others]
        rfl

theorem faultOf_textContent (node : Node) (path : Path) :
    faultOf (Markup.textContent node (path.field "props")) =
      siteFaults (node.contentSites .text) path := by
  unfold Markup.textContent Node.contentSites
  cases node.props.get? "text" with
  | none => rfl
  | some value =>
    simp only [Option.toList_some, List.map_cons, List.map_nil, siteFaults_single, Site.faults]
    rw [faultOf_toSource]
    simp [Path.fields, Path.field]

theorem faultOf_imageSource (node : Node) (path : Path) :
    faultOf (Markup.imageSource node (path.field "props")) =
      siteFaults (node.contentSites .image) path := by
  unfold Markup.imageSource Node.contentSites
  cases node.props.get? "src" with
  | none => rfl
  | some value =>
    simp only [Option.toList_some, List.map_cons, List.map_nil, siteFaults_single, Site.faults]
    simp [Path.fields, Path.field]

/-- A data source fails with the first fault of its places. -/
theorem faultOf_methodSource (source : DataSource) (path : Path) (names : List String) :
    faultOf (source.methodSource (path.fields names)) =
      (siteFaults (source.sites names) path).take 1 := by
  unfold DataSource.methodSource DataSource.sites
  rw [siteFaults_append, siteFaults_append, List.append_assoc]
  refine faultOf_bind ?_ fun uri _ => faultOf_bind ?_ fun payload _ => ?_
  · cases source.options.get? "uri" with
    | none => rfl
    | some value =>
      simp only [Option.toList_some, List.map_cons, List.map_nil, siteFaults_single, Site.faults]
      rw [take_faultOf]
      simp [Path.fields, Path.field]
  · rw [siteFaults_single, Site.faults, take_faultOf]
  · cases source.handler with
    | none => rfl
    | some handler =>
      simp only [Option.toList_some, List.map_cons, List.map_nil, siteFaults_single, Site.faults]
      rw [take_faultOf, ← Path.fields_field]
      cases functionParts (DataSource.handlerSource handler)
        ((path.fields names).field "dataHandler") <;> rfl

namespace Directive

/-- Markup that begins with the opening tag of an element. -/
def Opens (markup : String) : Prop :=
  (splitOpeningTag? markup.toList).isSome = true

theorem opens_of_letter {markup : String} {c : Char} (letter : Text.isAsciiLetter c = true)
    (begins : markup.toList.take 2 = ['<', c]) : Opens markup := by
  have visible : Text.isBlank '<' = false := by decide
  have whole := List.take_append_drop 2 markup.toList
  rw [begins] at whole
  unfold Opens
  rw [← whole]
  simp [splitOpeningTag?, visible, letter]

/-- A key goes into markup that opens an element, so only the source of a loop can fail. -/
theorem faultOf_wrapLoop {markup : String} (opens : Opens markup) (source : Json)
    (arguments : Option (List String)) (path : Path) :
    faultOf (wrapLoop source arguments markup path) = faultOf (loopSource source path) := by
  obtain ⟨parts, found⟩ := Option.isSome_iff_exists.mp opens
  unfold wrapLoop injectKey
  rw [found]
  cases loopSource source path with
  | error fault => rfl
  | ok text => simp [bind, Except.bind, pure, Except.pure, faultOf]

private theorem faultOf_wrapCondition (condition : Json) (markup : String) (path : Path) :
    faultOf (wrapCondition condition markup path) =
      faultOf (condition.toSource .attribute path) := by
  unfold wrapCondition conditionSource
  cases condition with
  | bool value => cases value <;> rfl
  | null | number | string | array | object =>
    simp only
    cases Json.toSource _ .attribute path <;> rfl

end Directive

theorem faultOf_withDirectives {markup : String} (opens : Directive.Opens markup) (node : Node)
    (path : Path) :
    faultOf (Markup.withDirectives node path markup) =
      (siteFaults node.directiveSites path).take 1 := by
  unfold Markup.withDirectives Markup.withLoop Markup.withCondition Node.directiveSites
  rw [siteFaults_append]
  refine faultOf_bind ?_ fun looped _ => ?_
  · cases node.loop with
    | none => rfl
    | some source =>
      simp only [Option.toList_some, List.map_cons, List.map_nil, siteFaults_single, Site.faults]
      rw [Directive.faultOf_wrapLoop opens, take_faultOf]
      rfl
  · cases node.condition with
    | none => rfl
    | some condition =>
      simp only [Option.toList_some, List.map_cons, List.map_nil, siteFaults_single, Site.faults]
      rw [Directive.faultOf_wrapCondition, take_faultOf]
      rfl

end PanelCompiler
