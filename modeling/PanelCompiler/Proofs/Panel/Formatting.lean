import Mathlib.Data.List.Forall2
import PanelCompiler.Panel.Compile
import PanelCompiler.Proofs.Walk.Run

namespace PanelCompiler

namespace Panel

variable {format : Formatter} {panel : Panel} {panels formatted : List Panel}
  {failures : List PanelFailure}

/-- A panel with its text laid out; its name and its language stay. -/
structure Formatted (format : Formatter) (raw formatted : Panel) : Prop where
  name : formatted.name = raw.name
  dialect : formatted.dialect = raw.dialect
  content : format raw.content raw.dialect = .ok formatted.content

/-- The refusal of a panel, with the diagnostic that its own text is given. -/
structure Refused (format : Formatter) (raw : Panel) (failure : PanelFailure) : Prop where
  panel : failure.panel = raw.name
  diagnostic : format raw.content raw.dialect = .error failure.diagnostic

/-- The formatter lays out the panel. -/
def IsAccepted (format : Formatter) (panel : Panel) : Prop :=
  ∃ content, format panel.content panel.dialect = .ok content

/-- The panels fall into two parts that both keep their order: those that are laid out, and those
that are refused. -/
def Divided (format : Formatter) (panels formatted : List Panel) (failures : List PanelFailure) :
    Prop :=
  ∃ accepted refused : List Panel, accepted.Sublist panels ∧ refused.Sublist panels ∧
    (accepted ++ refused).Perm panels ∧ List.Forall₂ (Formatted format) accepted formatted ∧
    List.Forall₂ (Refused format) refused failures

theorem Formatted.isAccepted {raw formatted : Panel} (laid : Formatted format raw formatted) :
    IsAccepted format raw :=
  ⟨formatted.content, laid.content⟩

theorem Refused.not_accepted {failure : PanelFailure} (refused : Refused format panel failure) :
    ¬ IsAccepted format panel := by
  rintro ⟨content, laid⟩
  cases refused.diagnostic.symm.trans laid

namespace Divided

theorem nil : Divided format [] [] [] :=
  ⟨[], [], .slnil, .slnil, .nil, .nil, .nil⟩

private theorem accept {content : String} (divided : Divided format panels formatted failures)
    (laid : format panel.content panel.dialect = .ok content) :
    Divided format (panel :: panels) ({ panel with content := content } :: formatted) failures := by
  obtain ⟨accepted, refused, kept, others, all, made, told⟩ := divided
  have first : Formatted format panel { panel with content := content } := ⟨rfl, rfl, laid⟩
  exact ⟨panel :: accepted, refused, kept.cons_cons panel, others.cons panel, all.cons panel,
    .cons first made, told⟩

private theorem refuse {diagnostic : String} (divided : Divided format panels formatted failures)
    (reason : format panel.content panel.dialect = .error diagnostic) :
    Divided format (panel :: panels) formatted (⟨panel.name, diagnostic⟩ :: failures) := by
  obtain ⟨accepted, refused, kept, others, all, made, told⟩ := divided
  have first : Refused format panel ⟨panel.name, diagnostic⟩ := ⟨rfl, reason⟩
  have whole : (accepted ++ panel :: refused).Perm (panel :: panels) :=
    List.perm_middle.trans (all.cons panel)
  exact ⟨accepted, panel :: refused, kept.cons panel, others.cons_cons panel, whole, made,
    .cons first told⟩

theorem all (divided : Divided format panels formatted []) :
    List.Forall₂ (Formatted format) panels formatted := by
  obtain ⟨accepted, refused, kept, -, all, made, told⟩ := divided
  cases told
  rw [List.append_nil] at all
  rwa [← kept.eq_of_length all.length_eq]

theorem failures_eq_nil_iff (divided : Divided format panels formatted failures) :
    failures = [] ↔ ∀ panel ∈ panels, IsAccepted format panel := by
  constructor
  · rintro rfl panel member
    obtain ⟨index, found⟩ := List.getElem?_of_mem member
    obtain ⟨inside, rfl⟩ := List.getElem?_eq_some_iff.mp found
    exact (divided.all.get inside (divided.all.length_eq ▸ inside)).isAccepted
  · intro accepts
    obtain ⟨_, refused, -, others, -, -, told⟩ := divided
    cases told with
    | nil => rfl
    | cons first _ =>
      have member := others.subset List.mem_cons_self
      exact absurd (accepts _ member) first.not_accepted

end Divided

/-- One panel after another goes to its own part. -/
theorem partitionFormatted_divided (format : Formatter) (panels : List Panel) :
    Divided format panels (partitionFormatted format panels).1
      (partitionFormatted format panels).2 := by
  induction panels with
  | nil => exact .nil
  | cons panel rest ih =>
    rw [partitionFormatted]
    cases laid : format panel.content panel.dialect with
    | ok content => exact ih.accept laid
    | error diagnostic => exact ih.refuse laid

private theorem formatAll_eq (format : Formatter) (panels : List Panel) :
    formatAll format panels =
      if (partitionFormatted format panels).2 = [] then .ok (partitionFormatted format panels).1
      else .error (.rejectedPanels (partitionFormatted format panels).2
        (partitionFormatted format panels).1) := by
  unfold formatAll
  rcases partitionFormatted format panels with ⟨formatted, _ | ⟨failure, others⟩⟩ <;> rfl

end Panel

/-- What a compilation gives for raw panels: all of them laid out in their order, if the formatter
accepts every one, and else the refusals beside the panels that are laid out. -/
structure FormatsApart (format : Formatter) (panels : List Panel)
    (result : Except CompileError Output) : Prop where
  succeeds_iff : (∃ output, result = .ok output) ↔ ∀ panel ∈ panels, panel.IsAccepted format
  formatted {output : Output} : result = .ok output →
    List.Forall₂ (Panel.Formatted format) panels output.panels
  refused {error : CompileError} : result = .error error →
    ∃ failures formatted, error = .rejectedPanels failures formatted ∧
      Panel.Divided format panels formatted failures

/-- The outcome of the walk in a compilation, and what it has collected. -/
def walkOf (schema : Node) (options : Options) (stamp : String) :
    Except CompileError Unit × Context :=
  (Walk.transformSchema schema).run
    (Context.forCompilation (resolveRootName schema options stamp) options)

section Compilation

variable {schema : Node} {options : Options} {stamp : String} {context : Context}

/-- A walk that fails decides the outcome alone. -/
theorem compile_of_failure {fault : CompileError}
    (walked : walkOf schema options stamp = (.error fault, context)) (format : Formatter) :
    compile schema options format stamp = .error fault := by
  rw [walkOf] at walked
  rw [compile, walked]
  rfl

private theorem compile_of_success (walked : walkOf schema options stamp = (.ok (), context))
    (format : Formatter) :
    compile schema options format stamp =
      (Panel.formatAll format (Panel.raw context options.viewportWidth)).map fun panels =>
        { rootName := resolveRootName schema options stamp, panels := panels,
          dataMethods := context.dataMethods, skipped := context.skipped } := by
  rw [walkOf] at walked
  rw [compile, walked]
  dsimp only
  cases Panel.formatAll format (Panel.raw context options.viewportWidth) <;> rfl

/-- After a walk that succeeds, every panel is formatted apart from the others. After one that
fails, its error is the outcome for every formatter. -/
theorem compile_formats_apart {result : Except CompileError Unit}
    (walked : walkOf schema options stamp = (result, context)) :
    (∀ fault, result = .error fault →
      ∀ format, compile schema options format stamp = .error fault) ∧
    (result = .ok () → ∀ format, FormatsApart format (Panel.raw context options.viewportWidth)
      (compile schema options format stamp)) := by
  constructor
  · rintro fault rfl format
    exact compile_of_failure walked format
  · rintro rfl format
    have divided := Panel.partitionFormatted_divided format
      (Panel.raw context options.viewportWidth)
    rw [compile_of_success walked, Panel.formatAll_eq]
    by_cases none : (Panel.partitionFormatted format
        (Panel.raw context options.viewportWidth)).2 = []
    · rw [if_pos none]
      have accepts := divided.failures_eq_nil_iff.mp none
      rw [none] at divided
      refine ⟨iff_of_true ⟨_, rfl⟩ accepts, fun success => ?_, nofun⟩
      cases success
      exact divided.all
    · rw [if_neg none]
      have refuses := mt divided.failures_eq_nil_iff.mpr none
      refine ⟨iff_of_false nofun refuses, nofun, fun failure => ?_⟩
      cases failure
      exact ⟨_, _, rfl, divided⟩

/-- Where scripts are refused, the stylesheet of a page is handed out beside the refusals. -/
theorem compile_formats_apart_page :
    let schema := { Node.ofKind "Page" with props := [("className", .string "card")] }
    let options := { Options.default with rootName := some "Home" }
    let format := Formatter.rejecting (· == .source)
    let failures := [Panel.indexName, Panel.styleName, Panel.responsiveName].map
      fun name => (⟨name, "rejected"⟩ : PanelFailure)
    let formatted := [(⟨Panel.stylesheetName, ".card \x7b\x7d", .nestedStylesheet⟩ : Panel)]
    ∃ context, walkOf schema options "" = (.ok (), context) ∧
      compile schema options format "" = .error (.rejectedPanels failures formatted) ∧
      Panel.Divided format (Panel.raw context options.viewportWidth) formatted failures := by
  intro schema options format failures formatted
  have walked : walkOf schema options "" = (.ok (), _) := Walk.run_eq_ok (by decide +kernel)
  have outcome : compile schema options format "" =
      .error (.rejectedPanels failures formatted) := by
    subst schema options format failures formatted
    rfl
  obtain ⟨told, made, same, divided⟩ :=
    ((compile_formats_apart walked).2 rfl format).refused outcome
  cases same
  exact ⟨_, walked, outcome, divided⟩

end Compilation

end PanelCompiler
