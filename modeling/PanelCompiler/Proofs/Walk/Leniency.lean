import PanelCompiler.Proofs.Walk.Account

/-!
Leaving nodes out against failing on them. The two walks agree until the first node of an unknown
kind: where one reports it, the other fails with its kind and path.
-/

namespace PanelCompiler

/-- The same context with nodes of unknown kinds left out, or not. -/
def Context.withSkipping (context : Context) (skip : Bool) : Context :=
  { context with skipUnsupported := skip }

theorem Context.withSkipping_self {context : Context} {skip : Bool}
    (same : context.skipUnsupported = skip) : context.withSkipping skip = context := by
  cases context
  cases same
  rfl

namespace Walk

variable {α β : Type}

/-- What a strict run gives beside a lenient one that made these reports. -/
def Agrees (lenient strict : Except CompileError α × Context) : List SkippedNode → Prop
  | [] => strict = (lenient.1, lenient.2.withSkipping false)
  | first :: _ => strict.1 = .error (.unsupportedKind first.kindName first.path)

/-- From every context, the lenient run appends reports, whether it then fails or not; the strict
run is the same if there are none, else it fails at the first. -/
def Simulated (walk : Walk α) : Prop :=
  ∀ context : Context, ∃ reports,
    (walk.run (context.withSkipping true)).2.skipped = context.skipped ++ reports ∧
    (walk.run (context.withSkipping true)).2.skipUnsupported = true ∧
    Agrees (walk.run (context.withSkipping true)) (walk.run (context.withSkipping false)) reports

namespace Simulated

/-- A step whose outcome and change do not look at the setting makes no reports. -/
theorem of_run {walk : Walk α} (outcome : Context → Except CompileError α)
    (change : Context → Context)
    (runs : ∀ context, walk.run context = (outcome context, change context))
    (same : ∀ context skip, outcome (context.withSkipping skip) = outcome context)
    (commutes : ∀ context skip,
      change (context.withSkipping skip) = (change context).withSkipping skip)
    (kept : ∀ context, (change context).skipped = context.skipped) : Simulated walk := by
  intro context
  refine ⟨[], ?_, ?_, ?_⟩
  · rw [runs, commutes, List.append_nil]
    exact kept context
  · rw [runs, commutes]
    rfl
  · unfold Agrees
    rw [runs, runs, same, same, commutes, commutes]
    rfl

theorem pure (value : α) : Simulated (Pure.pure value) :=
  of_run (fun _ => .ok value) id (run_pure value) (fun _ _ => rfl) (fun _ _ => rfl) fun _ => rfl

theorem ofExcept (outcome : Except CompileError α) : Simulated (ofExcept outcome) :=
  of_run (fun _ => outcome) id (run_ofExcept outcome) (fun _ _ => rfl) (fun _ _ => rfl) fun _ => rfl

theorem modify (change : Context → Context)
    (commutes : ∀ context skip,
      change (context.withSkipping skip) = (change context).withSkipping skip)
    (kept : ∀ context, (change context).skipped = context.skipped) :
    Simulated (modify change) :=
  of_run (fun _ => .ok ()) change (run_modify change) (fun _ _ => rfl) commutes kept

theorem reserveComponent (kindName : String) : Simulated (reserveComponent kindName) :=
  of_run (fun context => .ok context.components.length) (·.reserve kindName) (fun _ => rfl)
    (fun _ _ => rfl) (fun _ _ => rfl) fun _ => rfl

/-- A strict run that has failed at a report stays there, whatever comes next. -/
theorem agrees_of_reported {lenient : Except CompileError β × Context} {walk : Walk α}
    {next : α → Walk β} {context : Context} {first : SkippedNode} (rest : List SkippedNode)
    (failed : (walk.run context).1 = .error (.unsupportedKind first.kindName first.path)) :
    Agrees lenient ((walk >>= next).run context) (first :: rest) := by
  unfold Agrees
  rw [run_bind]
  rcases ran : walk.run context with ⟨error | value, middle⟩
  · simpa [ran] using failed
  · simp [ran] at failed

theorem bind {walk : Walk α} {next : α → Walk β} (head : Simulated walk)
    (tail : ∀ value, Simulated (next value)) : Simulated (walk >>= next) := by
  intro context
  obtain ⟨reports, reported, lenient, agrees⟩ := head context
  rcases ran : walk.run (context.withSkipping true) with ⟨error | value, middle⟩
  · have failed : (walk >>= next).run (context.withSkipping true) = (.error error, middle) := by
      rw [run_bind, ran]
    rw [failed]
    rw [ran] at reported lenient agrees
    refine ⟨reports, reported, lenient, ?_⟩
    cases reports with
    | nil =>
      unfold Agrees at agrees ⊢
      rw [run_bind, agrees]
    | cons first rest => exact agrees_of_reported rest agrees
  · have went : (walk >>= next).run (context.withSkipping true) = (next value).run middle := by
      rw [run_bind, ran]
    rw [went]
    rw [ran] at reported lenient agrees
    obtain ⟨others, reportedRest, lenientRest, agreesRest⟩ := tail value middle
    rw [Context.withSkipping_self lenient] at reportedRest lenientRest agreesRest
    refine ⟨reports ++ others, ?_, lenientRest, ?_⟩
    · rw [reportedRest, reported, List.append_assoc]
    · cases reports with
      | nil =>
        unfold Agrees at agrees
        rwa [run_bind, agrees]
      | cons first rest => exact agrees_of_reported (rest ++ others) agrees

theorem skipOrFail (kindName : String) (path : Path) : Simulated (skipOrFail kindName path) := by
  intro context
  refine ⟨[⟨path, kindName⟩], ?_, ?_, ?_⟩
  · rw [run_skipOrFail]
    rfl
  · rw [run_skipOrFail]
    rfl
  · unfold Agrees
    rw [run_skipOrFail, run_skipOrFail]
    rfl

private theorem addImport_withSkipping (line : String) (context : Context) (skip : Bool) :
    (context.withSkipping skip).addImport line = (context.addImport line).withSkipping skip := by
  rw [addImport_eq, addImport_eq]
  rfl

private theorem addImport_skipped (line : String) (context : Context) :
    (context.addImport line).skipped = context.skipped := by
  rw [addImport_eq]
  rfl

theorem compileDataSources (path : Path) (index : Nat) (sources : List DataSource) :
    Simulated (compileDataSources path index sources) := by
  induction sources generalizing index with
  | nil => exact pure ()
  | cons source rest ih =>
    have load : Simulated (source.compile (path.field (toString index))) :=
      (modify _ (addImport_withSkipping _) (addImport_skipped _)).bind fun _ => ofExcept _
    have add := fun method => modify (·.addDataMethod method) (fun _ _ => rfl) fun _ => rfl
    exact load.bind fun method => (add method).bind fun _ => ih (index + 1)

theorem met {node : Node} {body : Walk α} (simulated : Simulated body) :
    Simulated (met node body) := by
  refine (modify (·.enter node) (fun _ _ => rfl) fun _ => rfl).bind fun _ => ?_
  refine simulated.bind fun value => ?_
  exact (modify (·.leave node) (fun _ _ => rfl) fun _ => rfl).bind fun _ => pure value

end Simulated

theorem quiet_simulated : Quiet fun (_ : List Unit) walk => Simulated walk where
  pure := .pure
  fail error _ := .ofExcept (.error error)
  bind head tail := head.bind tail
  loads := .compileDataSources
  reserve := .reserveComponent
  fill _ _ := .modify _ (fun _ _ => rfl) fun _ => rfl

private theorem account_simulated :
    Account (fun (_ : List Unit) walk => Simulated walk) fun _ _ below => below where
  toComposes := quiet_simulated.toComposes
  unknown path _ := (Simulated.skipOrFail _ path).met
  inline _ _ simulated := simulated.met
  container _ _ _ simulated :=
    (@Quiet.emitContainer Unit _ [] _ quiet_simulated simulated _ _ _).met

/-- Failing on nodes of unknown kinds against leaving them out, for a visit and for a whole walk. -/
theorem strict_simulated_by_lenient :
    (∀ node path, Simulated (transformNode node path)) ∧
      ∀ schema, Simulated (transformSchema schema) := by
  have visits := fun node path => account_simulated.transformNode node path
  refine ⟨visits, fun schema => ?_⟩
  exact @Quiet.transformSchema Unit _ [] quiet_simulated schema (visits schema Path.root)

end Walk

end PanelCompiler
