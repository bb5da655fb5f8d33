import PanelCompiler.Proofs.Walk.Components

/-!
What a visit makes of a tree does not hang on what was collected before it. Two runs of the same
visit give the same result, append the same methods and reports, and add as many components; the
components are the same where their names count from the same number.
-/

namespace PanelCompiler

/-- A step has appended these methods, reports and components to a context. -/
structure Context.Gains (before : Context) (methods : List String) (reports : List SkippedNode)
    (components : List Component) (after : Context) : Prop where
  methods : after.dataMethods = before.dataMethods ++ methods
  reports : after.skipped = before.skipped ++ reports
  components : after.components = before.components ++ components
  rootName : after.rootName = before.rootName
  setting : after.skipUnsupported = before.skipUnsupported

namespace Context.Gains

variable {before middle after : Context} {methods laterMethods : List String}
  {reports laterReports : List SkippedNode} {components laterComponents : List Component}

theorem nothing (methods : after.dataMethods = before.dataMethods)
    (reports : after.skipped = before.skipped) (components : after.components = before.components)
    (rootName : after.rootName = before.rootName)
    (setting : after.skipUnsupported = before.skipUnsupported) :
    before.Gains [] [] [] after :=
  ⟨by rw [methods, List.append_nil], by rw [reports, List.append_nil],
    by rw [components, List.append_nil], rootName, setting⟩

theorem trans (earlier : before.Gains methods reports components middle)
    (later : middle.Gains laterMethods laterReports laterComponents after) :
    before.Gains (methods ++ laterMethods) (reports ++ laterReports)
      (components ++ laterComponents) after where
  methods := by rw [later.methods, earlier.methods, List.append_assoc]
  reports := by rw [later.reports, earlier.reports, List.append_assoc]
  components := by rw [later.components, earlier.components, List.append_assoc]
  rootName := later.rootName.trans earlier.rootName
  setting := later.setting.trans earlier.setting

/-- A component that stays reserved stands before those gained after it. -/
theorem of_reserve {kindName : String}
    (gains : (before.reserve kindName).Gains methods reports components after) :
    before.Gains methods reports (⟨before.nextName kindName, ""⟩ :: components) after where
  methods := gains.methods
  reports := gains.reports
  components := by rw [gains.components]; simp [reserve]
  rootName := gains.rootName
  setting := gains.setting

/-- A component that was reserved and then filled stands before those gained in between. -/
theorem of_fill {kindName : String} (source : String → String)
    (gains : (before.reserve kindName).Gains methods reports components after) :
    before.Gains methods reports
      (⟨before.nextName kindName, source (before.nextName kindName)⟩ :: components)
      (after.fill before.components.length source) where
  methods := gains.methods
  reports := gains.reports
  components := Walk.fill_reserved kindName source gains.components
  rootName := gains.rootName
  setting := gains.setting

end Context.Gains

namespace Walk

variable {α β : Type}

/-- Two contexts give the next component of a kind the same name. -/
def SameNumbering (first second : Context) : Prop :=
  first.rootName = second.rootName ∧ first.components.length = second.components.length

/-- Two runs have the same result and the same gains; their components are as many, and the same
if both runs number them alike. -/
def Alike (first second : Context) (one other : Except CompileError α × Context) : Prop :=
  one.1 = other.1 ∧ ∃ methods reports components others,
    first.Gains methods reports components one.2 ∧
    second.Gains methods reports others other.2 ∧
    components.length = others.length ∧
    (SameNumbering first second → components = others)

/-- Runs from contexts with the same setting are alike, whatever else the contexts hold. -/
def Independent (walk : Walk α) : Prop :=
  ∀ first second : Context, first.skipUnsupported = second.skipUnsupported →
    Alike first second (walk.run first) (walk.run second)

/-- Gaining as many components after the same numbering leaves the same numbering. -/
theorem SameNumbering.after {first second firstAfter secondAfter : Context}
    {methods : List String} {reports : List SkippedNode} {components others : List Component}
    (numbering : SameNumbering first second)
    (mine : first.Gains methods reports components firstAfter)
    (yours : second.Gains methods reports others secondAfter)
    (asMany : components.length = others.length) : SameNumbering firstAfter secondAfter := by
  obtain ⟨sameRoot, sameLength⟩ := numbering
  refine ⟨?_, ?_⟩
  · rw [mine.rootName, yours.rootName, sameRoot]
  · rw [mine.components, yours.components, List.length_append, List.length_append, sameLength,
      asMany]

theorem SameNumbering.reserve {first second : Context} (numbering : SameNumbering first second)
    (kindName : String) : SameNumbering (first.reserve kindName) (second.reserve kindName) := by
  refine ⟨numbering.1, ?_⟩
  simp [Context.reserve, numbering.2]

theorem SameNumbering.nextName {first second : Context} (numbering : SameNumbering first second)
    (kindName : String) : first.nextName kindName = second.nextName kindName := by
  rw [nextName_eq, nextName_eq, numbering.1, numbering.2]

namespace Independent

/-- A step that gains no components, and whose outcome and gains hang on nothing but the setting. -/
theorem of_run {walk : Walk α} (outcome : Bool → Except CompileError α) (methods : List String)
    (reports : Bool → List SkippedNode) (change : Context → Context)
    (runs : ∀ context, walk.run context = (outcome context.skipUnsupported, change context))
    (gains : ∀ context : Context,
      context.Gains methods (reports context.skipUnsupported) [] (change context)) :
    Independent walk := by
  intro first second setting
  rw [runs, runs]
  refine ⟨?_, methods, reports first.skipUnsupported, [], [], gains first, ?_, rfl, fun _ => rfl⟩
  · rw [setting]
  · rw [setting]
    exact gains second

theorem ofExcept (outcome : Except CompileError α) : Independent (ofExcept outcome) :=
  of_run (fun _ => outcome) [] (fun _ => []) id (run_ofExcept outcome) fun _ =>
    .nothing rfl rfl rfl rfl rfl

theorem pure (value : α) : Independent (Pure.pure value) :=
  ofExcept (.ok value)

theorem modify (change : Context → Context) (methods : List String)
    (gains : ∀ context : Context, context.Gains methods [] [] (change context)) :
    Independent (modify change) :=
  of_run (fun _ => .ok ()) methods (fun _ => []) change (run_modify change) gains

theorem skipOrFail (kindName : String) (path : Path) : Independent (skipOrFail kindName path) := by
  refine of_run
    (fun lenient => if lenient then .ok "" else .error (.unsupportedKind kindName path)) []
    (fun lenient => if lenient then [⟨path, kindName⟩] else [])
    (fun context => if context.skipUnsupported then context.skip path kindName else context) ?_ ?_
  · intro context
    rw [run_skipOrFail]
    cases context.skipUnsupported <;> rfl
  · intro context
    cases setting : context.skipUnsupported with
    | true =>
      exact ⟨(List.append_nil _).symm, rfl, (List.append_nil _).symm, rfl, rfl⟩
    | false => exact .nothing rfl rfl rfl rfl rfl

theorem bind {walk : Walk α} {next : α → Walk β} (head : Independent walk)
    (tail : ∀ value, Independent (next value)) : Independent (walk >>= next) := by
  intro first second setting
  have alike := head first second setting
  rw [run_bind, run_bind]
  rcases firstRan : walk.run first with ⟨firstResult, firstMiddle⟩
  rcases secondRan : walk.run second with ⟨secondResult, secondMiddle⟩
  rw [firstRan, secondRan] at alike
  obtain ⟨same, methods, reports, components, others, mine, yours, asMany, equal⟩ := alike
  cases same
  cases firstResult with
  | error error => exact ⟨rfl, methods, reports, components, others, mine, yours, asMany, equal⟩
  | ok value =>
    have settingAfter : firstMiddle.skipUnsupported = secondMiddle.skipUnsupported := by
      rw [mine.setting, yours.setting, setting]
    obtain ⟨sameRest, laterMethods, laterReports, laterComponents, laterOthers, mineLater,
      yoursLater, asManyLater, equalLater⟩ := tail value firstMiddle secondMiddle settingAfter
    refine ⟨sameRest, _, _, _, _, mine.trans mineLater, yours.trans yoursLater, ?_, ?_⟩
    · rw [List.length_append, List.length_append, asMany, asManyLater]
    · intro numbering
      rw [equal numbering, equalLater (numbering.after mine yours asMany)]

/-- The slot of a component differs between the two runs, but each run fills its own. -/
theorem emitting {render : Walk String} (independent : Independent render) (kindName : String) :
    Independent (emitting kindName render) := by
  intro first second setting
  have alike := independent (first.reserve kindName) (second.reserve kindName) setting
  rw [run_emitting, run_emitting]
  rcases firstRan : render.run (first.reserve kindName) with ⟨firstResult, firstMiddle⟩
  rcases secondRan : render.run (second.reserve kindName) with ⟨secondResult, secondMiddle⟩
  rw [firstRan, secondRan] at alike
  obtain ⟨same, methods, reports, components, others, mine, yours, asMany, equal⟩ := alike
  cases same
  cases firstResult with
  | error error =>
    refine ⟨rfl, methods, reports, _, _, mine.of_reserve, yours.of_reserve, ?_, ?_⟩
    · rw [List.length_cons, List.length_cons, asMany]
    · intro numbering
      rw [numbering.nextName, equal (numbering.reserve kindName)]
  | ok text =>
    refine ⟨rfl, methods, reports, _, _, mine.of_fill (Markup.componentSource · text),
      yours.of_fill (Markup.componentSource · text), ?_, ?_⟩
    · rw [List.length_cons, List.length_cons, asMany]
    · intro numbering
      rw [numbering.nextName, equal (numbering.reserve kindName)]

theorem met {body : Walk α} (independent : Independent body) (node : Node) :
    Independent (met node body) := by
  have entering := modify (·.enter node) [] fun _ => .nothing rfl rfl rfl rfl rfl
  have leaving := modify (·.leave node) [] fun _ => .nothing rfl rfl rfl rfl rfl
  exact entering.bind fun _ => independent.bind fun value => leaving.bind fun _ => pure value

theorem compileDataSources (path : Path) (index : Nat) (sources : List DataSource) :
    Independent (compileDataSources path index sources) := by
  induction sources generalizing index with
  | nil => exact pure ()
  | cons source rest ih =>
    have register := modify (·.addImport source.transport.importLine) [] fun context => by
      rw [addImport_eq]
      exact .nothing rfl rfl rfl rfl rfl
    have load : Independent (source.compile (path.field (toString index))) :=
      register.bind fun _ => ofExcept _
    have add := fun method => modify (·.addDataMethod method) [method] fun context =>
      ⟨rfl, (List.append_nil _).symm, (List.append_nil _).symm, rfl, rfl⟩
    exact load.bind fun method => (add method).bind fun _ => ih (index + 1)

theorem emitContainer {body : Walk String} (independent : Independent body) (kind : Kind)
    (node : Node) (path : Path) : Independent (emitContainer body kind node path) := by
  have loads := compileDataSources (path.field "dataSource") 0 node.dataSources
  exact ((loads.bind fun _ => independent).emitting kind.displayName).bind fun _ => pure ""

end Independent

private theorem account_independent :
    Account (fun (_ : List Unit) walk => Independent walk) fun _ _ below => below where
  pure := .pure
  fail error _ := .ofExcept (.error error)
  bind head tail := head.bind tail
  unknown path _ := (Independent.skipOrFail _ path).met _
  inline _ _ independent := independent.met _
  container _ _ _ independent := (independent.emitContainer _ _ _).met _

/-- Two visits of one node from contexts with the same setting are alike. -/
theorem transformNode_independent (node : Node) (path : Path) {first second : Context}
    (setting : first.skipUnsupported = second.skipUnsupported) :
    Alike first second ((transformNode node path).run first)
      ((transformNode node path).run second) :=
  account_independent.transformNode node path first second setting

/-- A page with a block and a node of an unknown kind, visited first of all and after a visit of
itself: names count on, and all else is the same. -/
theorem transformNode_independent_again :
    let node := { Node.ofKind "Page" with children := [Node.ofKind "Block", Node.ofKind "Video"] }
    let first := { Context.fresh "Home" with skipUnsupported := true }
    let second := ((transformNode node Path.root).run first).2
    first.skipUnsupported = second.skipUnsupported ∧
      second.components.map (·.name) = ["Home", "HomeBlock1"] ∧
      ((transformNode node Path.root).run second).2.components.map (·.name) =
        ["Home", "HomeBlock1", "HomePage2", "HomeBlock3"] ∧
      Alike first second ((transformNode node Path.root).run first)
        ((transformNode node Path.root).run second) := by
  intro node first second
  have setting : first.skipUnsupported = second.skipUnsupported := by decide +kernel
  exact ⟨setting, by decide +kernel, by decide +kernel,
    transformNode_independent node Path.root setting⟩

end Walk

end PanelCompiler
