import PanelCompiler.Proofs.Tree.Address
import PanelCompiler.Proofs.Walk.Run
import PanelCompiler.Proofs.Walk.Sites

/-!
Where a walk stops. The faults of a tree are those of its visited nodes, each around those of the
nodes below it; a walk fails with the first of them, whatever its context holds, and succeeds if
there are none.
-/

namespace PanelCompiler

namespace Node

def faultsBefore (lenient : Bool) (node : Node) (path : Path) : List CompileError :=
  match node.kind? with
  | none => if lenient then [] else [.unsupportedKind node.kindName path]
  | some kind => siteFaults (node.leadingSites kind) path

def faultsAfter (node : Node) (path : Path) : List CompileError :=
  match node.kind? with
  | none => []
  | some _ => siteFaults node.directiveSites path

/-- The faults of a visited node around those of its walked children. -/
def aroundFaults (lenient : Bool) (node : Node) (path : Path) (below : List CompileError) :
    List CompileError :=
  node.faultsBefore lenient path ++ below ++ node.faultsAfter path

/-- The faults of a tree, in the order in which a walk comes upon them. -/
def faults (lenient : Bool) (node : Node) (path : Path) : List CompileError :=
  node.gather (aroundFaults lenient) path

theorem aroundFaults_unknown {node : Node} (unknown : node.kind? = none) (lenient : Bool)
    (path : Path) :
    node.aroundFaults lenient path [] =
      if lenient then [] else [.unsupportedKind node.kindName path] := by
  simp [aroundFaults, faultsBefore, faultsAfter, unknown]

theorem aroundFaults_known {node : Node} {kind : Kind} (known : node.kind? = some kind)
    (lenient : Bool) (path : Path) :
    node.aroundFaults lenient path [] = siteFaults (node.sites kind) path := by
  simp [aroundFaults, faultsBefore, faultsAfter, known, sites, siteFaults_append]

private theorem mem_aroundFaults {lenient : Bool} {node : Node} {path : Path} {fault : CompileError}
    {below : List CompileError} :
    fault ∈ node.aroundFaults lenient path below ↔
      fault ∈ node.aroundFaults lenient path [] ∨ fault ∈ below := by
  simp only [aroundFaults, List.mem_append, List.not_mem_nil, or_false]
  exact or_right_comm

private theorem mem_faultsFrom {lenient : Bool} {fault : CompileError} {children : List Node}
    (each : ∀ child ∈ children, ∀ path, fault ∈ child.faults lenient path ↔
      ∃ visit ∈ child.visits path, fault ∈ visit.node.aroundFaults lenient visit.path [])
    (index : Nat) (parent : Path) :
    fault ∈ gatherFrom (aroundFaults lenient) index children parent ↔
      ∃ visit ∈ gatherFrom (fun node path below => (⟨node, path⟩ : Visit) :: below) index children
        parent, fault ∈ visit.node.aroundFaults lenient visit.path [] := by
  induction children generalizing index with
  | nil => simp [gatherFrom]
  | cons child rest ih =>
    have first := each child (by simp) (parent.child index)
    have others := ih (fun other member => each other (by simp [member])) (index + 1)
    unfold faults at first
    rw [gatherFrom, gatherFrom, List.mem_append, first, others]
    simp only [List.mem_append, or_and_right, exists_or]
    rfl

theorem mem_faults {lenient : Bool} {fault : CompileError} (node : Node) (path : Path) :
    fault ∈ node.faults lenient path ↔
      ∃ visit ∈ node.visits path, fault ∈ visit.node.aroundFaults lenient visit.path [] := by
  induction node using Node.induct generalizing path with
  | step node ih =>
    rw [faults, gather_eq, visits_eq, mem_aroundFaults]
    simp only [List.mem_cons, or_and_right, exists_or, exists_eq_left]
    refine or_congr_right ?_
    split
    · exact mem_faultsFrom ih 0 path
    · simp

theorem faults_eq_nil {lenient : Bool} {node : Node} {path : Path} :
    node.faults lenient path = [] ↔
      ∀ visit ∈ node.visits path, visit.node.aroundFaults lenient visit.path [] = [] := by
  simp only [List.eq_nil_iff_forall_not_mem, mem_faults, not_exists, not_and]
  exact ⟨fun none visit member fault => none fault visit member,
    fun none fault visit member => none visit member fault⟩

end Node

namespace Walk

variable {α β : Type}

/-- A step stops at the first of these faults and goes through if there are none. They may hang on
the setting, which the step leaves as it is. -/
structure StopsAt (faults : Bool → List CompileError) (walk : Walk α) : Prop where
  first : ∀ context : Context,
    faultOf (walk.run context).1 = (faults context.skipUnsupported).take 1
  setting : ∀ context : Context,
    (walk.run context).2.skipUnsupported = context.skipUnsupported

namespace StopsAt

variable {faults first rest : Bool → List CompileError} {walk : Walk α} {next : α → Walk β}

theorem of_eq (stops : StopsAt first walk) (same : ∀ lenient, first lenient = rest lenient) :
    StopsAt rest walk := by
  rwa [← funext same]

theorem ofExcept {outcome : Except CompileError α} {faults : List CompileError}
    (same : faultOf outcome = faults.take 1) : StopsAt (fun _ => faults) (ofExcept outcome) where
  first context := by rw [run_ofExcept, same]
  setting context := by rw [run_ofExcept]

theorem pure (value : α) : StopsAt (fun _ => []) (Pure.pure value : Walk α) where
  first _ := rfl
  setting _ := rfl

theorem modify (change : Context → Context)
    (setting : ∀ context, (change context).skipUnsupported = context.skipUnsupported) :
    StopsAt (fun _ => []) (modify change : Walk Unit) where
  first _ := rfl
  setting := setting

theorem bind (head : StopsAt first walk)
    (tail : ∀ context value final, walk.run context = (.ok value, final) →
      StopsAt rest (next value)) :
    StopsAt (fun lenient => first lenient ++ rest lenient) (walk >>= next) where
  first context := by
    have stopped := head.first context
    have setting := head.setting context
    rw [run_bind, take_append_faults]
    rcases ran : walk.run context with ⟨error | value, middle⟩
    · rw [ran] at stopped
      have some : first context.skipUnsupported ≠ [] := by
        intro none
        simp [none, faultOf] at stopped
      rw [if_neg some, ← stopped]
      rfl
    · rw [ran] at stopped setting
      have none : first context.skipUnsupported = [] := by
        cases equal : first context.skipUnsupported with
        | nil => rfl
        | cons _ _ => simp [equal, faultOf] at stopped
      rw [if_pos none, ← setting]
      exact (tail context value middle ran).first middle
  setting context := by
    have setting := head.setting context
    rw [run_bind]
    rcases ran : walk.run context with ⟨error | value, middle⟩
    · rw [ran] at setting
      exact setting
    · rw [ran] at setting
      exact ((tail context value middle ran).setting middle).trans setting

theorem succeeds_iff (stops : StopsAt faults walk) (context : Context) :
    (∃ value final, walk.run context = (.ok value, final)) ↔
      faults context.skipUnsupported = [] := by
  have stopped := stops.first context
  rcases ran : walk.run context with ⟨error | value, final⟩
  · rw [ran] at stopped
    constructor
    · rintro ⟨value, other, success⟩
      cases success
    · intro none
      simp [none, faultOf] at stopped
  · rw [ran] at stopped
    refine iff_of_true ⟨value, final, rfl⟩ ?_
    cases equal : faults context.skipUnsupported with
    | nil => rfl
    | cons _ _ => simp [equal, faultOf] at stopped

theorem error_mem (stops : StopsAt faults walk) {context final : Context} {error : CompileError}
    (failure : walk.run context = (.error error, final)) :
    error ∈ faults context.skipUnsupported := by
  have stopped := stops.first context
  rw [failure] at stopped
  apply List.mem_of_mem_take (i := 1)
  rw [← stopped]
  exact List.mem_singleton.mpr rfl

theorem map (stops : StopsAt faults walk) (change : α → β) :
    StopsAt faults (do return change (← walk)) :=
  (stops.bind fun _ value _ _ => pure (change value)).of_eq fun _ => List.append_nil _

theorem met (stops : StopsAt faults walk) (node : Node) : StopsAt faults (met node walk) := by
  have entering := modify (·.enter node) fun _ => rfl
  have leaving := modify (·.leave node) fun _ => rfl
  have left := fun value : α => leaving.bind fun _ _ _ _ => pure value
  refine (entering.bind fun _ _ _ _ => stops.bind fun _ value _ _ => left value).of_eq ?_
  intro lenient
  simp

theorem skipOrFail (node : Node) (path : Path) :
    StopsAt (fun lenient => if lenient then [] else [.unsupportedKind node.kindName path])
      (skipOrFail node.kindName path) where
  first context := by
    rw [run_skipOrFail]
    cases context.skipUnsupported <;> rfl
  setting context := by
    rw [run_skipOrFail]
    split <;> rfl

theorem compileDataSources (path : Path) (index : Nat) (sources : List DataSource) :
    StopsAt (fun _ => siteFaults (Node.dataSites index sources) path)
      (compileDataSources (path.field "dataSource") index sources) := by
  induction sources generalizing index with
  | nil => exact pure ()
  | cons source rest ih =>
    have place : (path.field "dataSource").field (toString index) =
        path.fields ["dataSource", toString index] := by
      simp [Path.fields, Path.field]
    have register := modify (·.addImport source.transport.importLine) fun context => by
      rw [addImport_eq]
      rfl
    have load := register.bind fun _ _ _ _ =>
      ofExcept (faultOf_methodSource source path ["dataSource", toString index])
    have add := fun method => modify (·.addDataMethod method) fun _ => rfl
    have whole := load.bind fun _ method _ _ => (add method).bind fun _ _ _ _ => ih (index + 1)
    rw [← place] at whole
    exact whole.of_eq fun _ => (siteFaults_append _ _ path).symm

theorem emitting {render : Walk String} (stops : StopsAt faults render) (kindName : String) :
    StopsAt faults (emitting kindName render) where
  first context := by
    have stopped := stops.first (context.reserve kindName)
    rw [run_emitting]
    rcases ran : render.run (context.reserve kindName) with ⟨error | text, middle⟩
    · rw [ran] at stopped
      exact stopped
    · rw [ran] at stopped
      exact stopped
  setting context := by
    have setting := stops.setting (context.reserve kindName)
    rw [run_emitting]
    rcases ran : render.run (context.reserve kindName) with ⟨error | text, middle⟩
    · rw [ran] at setting
      exact setting
    · rw [ran] at setting
      exact setting

end StopsAt

theorem renderElement_opens {children : Walk String} {kind : Kind} {node : Node} {path : Path}
    {attributes element : String} {context final : Context}
    (success : (renderElement kind node path attributes children).run context =
      (.ok element, final)) : Directive.Opens element := by
  have box (success : (renderBox node attributes children).run context = (.ok element, final)) :
      Directive.Opens element := by
    unfold renderBox at success
    split at success
    · cases success
      exact Directive.opens_of_letter (c := 'd') (by decide) (by simp [Markup.emptyElement])
    · obtain ⟨content, _, _, success⟩ := run_bind_ok success
      cases success
      exact Directive.opens_of_letter (c := 'd') (by decide) (by simp [Markup.boxElement])
  cases kind with
  | text =>
    obtain ⟨content, _, _, success⟩ := run_bind_ok success
    cases success
    exact Directive.opens_of_letter (c := 's') (by decide) (by simp [Markup.textElement])
  | image =>
    obtain ⟨source, _, _, success⟩ := run_bind_ok success
    cases success
    exact Directive.opens_of_letter (c := 'i') (by decide) (by simp [Markup.imageElement])
  | page => exact box success
  | block => exact box success
  | component => exact box success
  | div => exact box success

namespace StopsAt

variable {children : Walk String} {below : Bool → List CompileError} {kind : Kind} {node : Node}

/-- A text or an image stops at its content, a box where its children do. -/
theorem renderElement (inner : StopsAt below children)
    (none : node.children = [] → ∀ lenient, below lenient = []) (kind : Kind) (path : Path)
    (attributes : String) :
    StopsAt (fun lenient => siteFaults (node.contentSites kind) path ++
      if kind.isBox then below lenient else [])
      (renderElement kind node path attributes children) := by
  have box : StopsAt below (renderBox node attributes children) := by
    unfold renderBox
    split
    · rename_i empty
      refine (pure _).of_eq fun lenient => ?_
      rw [none (List.isEmpty_iff.mp empty)]
    · exact inner.map _
  cases kind with
  | text =>
    have content : faultOf (Markup.textContent node (path.field "props")) =
        (siteFaults (node.contentSites .text) path).take 1 := by
      rw [← faultOf_textContent, take_faultOf]
    exact ((ofExcept content).map _).of_eq fun _ => (List.append_nil _).symm
  | image =>
    have source : faultOf (Markup.imageSource node (path.field "props")) =
        (siteFaults (node.contentSites .image) path).take 1 := by
      rw [← faultOf_imageSource, take_faultOf]
    exact ((ofExcept source).map _).of_eq fun _ => (List.append_nil _).symm
  | page => exact box
  | block => exact box
  | component => exact box
  | div => exact box

/-- Attributes come first, then the element with the children inside it, then the directives. -/
theorem renderKnown (inner : StopsAt below children)
    (none : node.children = [] → ∀ lenient, below lenient = []) (kind : Kind) (path : Path) :
    StopsAt (fun lenient => siteFaults (Node.propSites node.props) path ++
      siteFaults (node.contentSites kind) path ++ (if kind.isBox then below lenient else []) ++
      siteFaults node.directiveSites path) (renderKnown children kind node path) := by
  have attributes := ofExcept (faultOf_propAttributes path node.props)
  have element := fun attributes =>
    (renderElement inner none kind path (Markup.classAttribute node ++ attributes)).bind
      fun _ _ _ success => ofExcept (faultOf_withDirectives (renderElement_opens success) node path)
  refine (attributes.bind fun _ text _ _ => element text).of_eq fun lenient => ?_
  simp only [List.append_assoc]

/-- A visit stops at the faults of its node around those of its children, if these are walked. -/
theorem visitWith (inner : StopsAt below children)
    (none : node.children = [] → ∀ lenient, below lenient = []) (path : Path) :
    StopsAt
      (fun lenient => node.aroundFaults lenient path (if node.isBox then below lenient else []))
      (visitWith children node path) := by
  unfold Node.aroundFaults Node.faultsBefore Node.faultsAfter
  cases known : node.kind? with
  | none =>
    rw [visitWith_unknown known, Node.isBox_unknown known]
    exact ((skipOrFail node path).met node).of_eq fun _ => by simp
  | some kind =>
    rw [Node.isBox_known known]
    have rendered := renderKnown inner none kind path
    cases container : kind.isContainer with
    | false =>
      rw [visitWith_inline known container]
      exact (rendered.met node).of_eq fun _ => by
        simp [container, Node.leadingSites, siteFaults_append]
    | true =>
      rw [visitWith_container known container]
      have loads := compileDataSources path 0 node.dataSources
      have emitted := (loads.bind fun _ _ _ _ => rendered).emitting kind.displayName
      have whole := (emitted.bind fun _ _ _ _ => pure "").met node
      exact whole.of_eq fun _ => by simp [container, Node.leadingSites, siteFaults_append]

theorem transformFrom {children : List Node}
    (visits : ∀ child ∈ children, ∀ path,
      StopsAt (fun lenient => child.faults lenient path) (transformNode child path))
    (index : Nat) (parent : Path) :
    StopsAt (fun lenient => Node.gatherFrom (Node.aroundFaults lenient) index children parent)
      (transformFrom index children parent) := by
  induction children generalizing index with
  | nil => exact pure ""
  | cons child rest ih =>
    have first := visits child (by simp) (parent.child index)
    have others := ih (fun other member => visits other (by simp [member])) (index + 1)
    unfold Walk.transformFrom
    exact first.bind fun _ fragment _ _ => others.map (Markup.embed child fragment ++ ·)

end StopsAt

/-- A visit stops at the first fault of its tree. -/
theorem transformNode_stops (node : Node) (path : Path) :
    StopsAt (fun lenient => node.faults lenient path) (transformNode node path) := by
  induction node using Node.induct generalizing path with
  | step node ih =>
    unfold Node.faults
    rw [transformNode_eq]
    simp only [Node.gather_eq]
    refine StopsAt.visitWith (.transformFrom ih 0 path) ?_ path
    intro empty lenient
    rw [empty, Node.gatherFrom]

theorem transformSchema_stops (schema : Node) :
    StopsAt (fun lenient => schema.faults lenient Path.root) (transformSchema schema) := by
  have visit := transformNode_stops schema Path.root
  unfold transformSchema
  split
  · exact (visit.bind fun _ _ _ _ => .pure ()).of_eq fun _ => List.append_nil _
  · exact visit.emitting ""

end Walk

end PanelCompiler
