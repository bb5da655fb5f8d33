import PanelCompiler.Proofs.Value.Outcome
import PanelCompiler.Proofs.Walk.Sites

/-!
The two written forms of an expression: an object that is tagged with its source, and a text that
is one template around it. Attributes, contents, conditions and data sources make the same of both.
A loop knows the template only.
-/

namespace PanelCompiler

namespace Json

def taggedExpression (source : String) : Json :=
  .object [("type", .string expressionTag), ("value", .string source)]

def templateExpression (source : String) : Json :=
  .string ("\x7b\x7b" ++ source ++ "\x7d\x7d")

end Json

def DataSource.withOption (source : DataSource) (key : String) (value : Json) : DataSource :=
  { source with options := source.options.put key value }

/-- Whatever the source holds, also braces and line breaks, a template around it gives it back
without the blanks at its ends. -/
theorem Value.expressionBody?_template (source : String) :
    expressionBody? ("\x7b\x7b" ++ source ++ "\x7d\x7d").toList =
      some (Text.trim source.toList) := by
  have whole : ("\x7b\x7b" ++ source ++ "\x7d\x7d").toList =
      '\x7b' :: '\x7b' :: (source.toList ++ ['\x7d', '\x7d']) := by
    simp
  have closing : beforeClosing? (source.toList ++ ['\x7d', '\x7d']) = some source.toList := by
    simp [beforeClosing?]
  rw [whole]
  simp only [expressionBody?, closing, Option.map_some]

namespace Json

variable (source : String)

theorem tagged?_taggedExpression (tag : String) :
    (taggedExpression source).tagged? tag = if expressionTag = tag then some source else none := by
  simp [taggedExpression, tagged?, field?, asObject?, asString?, Fields.get?]

theorem taggedExpression_function : (taggedExpression source).tagged? functionTag = none := by
  rw [tagged?_taggedExpression, if_neg (by decide)]

theorem taggedExpression_expression :
    (taggedExpression source).tagged? expressionTag = some source := by
  rw [tagged?_taggedExpression, if_pos rfl]

private theorem ofJson_taggedExpression :
    ValueClass.ofJson (taggedExpression source) = .expression (Text.trimmed source) := by
  unfold ValueClass.ofJson
  rw [taggedExpression_function, taggedExpression_expression]

theorem ofJson_templateExpression :
    ValueClass.ofJson (templateExpression source) = .expression (Text.trimmed source) := by
  have untagged : ∀ tag, (templateExpression source).tagged? tag = none := fun _ => rfl
  unfold ValueClass.ofJson
  rw [untagged, untagged]
  simp only [templateExpression, ValueClass.ofString, Value.expressionBody?_template, Text.trimmed]

theorem toSource_taggedExpression (position : Position) (path : Path) :
    (taggedExpression source).toSource position path =
      (templateExpression source).toSource position path := by
  unfold toSource
  rw [ofJson_taggedExpression, ofJson_templateExpression]

end Json

/-- Neither form is a truth value, so a condition is written out like any other value. -/
theorem Directive.wrapCondition_taggedExpression (source fragment : String) (path : Path) :
    wrapCondition (.taggedExpression source) fragment path =
      wrapCondition (.templateExpression source) fragment path := by
  have guard : conditionSource (.taggedExpression source) path =
      conditionSource (.templateExpression source) path :=
    Json.toSource_taggedExpression source .attribute path
  unfold wrapCondition
  rw [guard]

namespace DataSource

theorem parametersSource_taggedExpression (source : String) :
    parametersSource (.taggedExpression source) = Text.trimmed source := by
  have serialized : (Json.taggedExpression source).serialize = Text.trimmed source := by
    have function := Json.taggedExpression_function source
    have expression := Json.taggedExpression_expression source
    unfold Json.taggedExpression at function expression ⊢
    rw [Json.serialize, function, expression]
  exact serialized

theorem parametersSource_templateExpression (source : String) :
    parametersSource (.templateExpression source) = Text.trimmed source := by
  simp only [Json.templateExpression, parametersSource, Value.expressionBody?_template,
    Text.trimmed]

end DataSource

private theorem Fields.filter_put {keep : String → Bool} {key : String} (dropped : keep key = false)
    (fields : Fields) (value : Json) :
    (fields.put key value).filter (fun (name, _) => keep name) =
      fields.filter fun (name, _) => keep name := by
  induction fields with
  | nil => simp [put, dropped]
  | cons field rest ih =>
    obtain ⟨name, old⟩ := field
    by_cases same : name = key
    · subst same
      simp [put, dropped]
    · simp [put, same, List.filter_cons, ih]

namespace DataSource

/-- Options with a meaning of their own, the method apart, leave the rest of the payload alone. -/
theorem payloadFields_withOption (request : DataSource) {key : String} (value : Json)
    (reserved : reservedOptions.contains key = true) (other : "method" ≠ key) :
    (request.withOption key value).payloadFields = request.payloadFields := by
  have method := Fields.get?_put_other request.options key "method" value other
  have rest := @Fields.filter_put (fun name => !reservedOptions.contains name) key
    (by rw [reserved]; rfl) request.options value
  simp only [payloadFields, withOption, method, rest]

/-- Two uris that are written out the same make the same request. -/
theorem methodSource_uri (request : DataSource) {first second : Json} (path : Path)
    (same : ∀ path, first.toSource .attribute path = second.toSource .attribute path) :
    (request.withOption "uri" first).methodSource path =
      (request.withOption "uri" second).methodSource path := by
  have payload : (request.withOption "uri" first).payloadSource =
      (request.withOption "uri" second).payloadSource := by
    have parameters := fun value =>
      Fields.get?_put_other request.options "uri" "params" value (by decide)
    unfold payloadSource
    rw [payloadFields_withOption request first rfl (by decide),
      payloadFields_withOption request second rfl (by decide)]
    simp only [withOption, parameters]
  unfold methodSource
  rw [payload]
  simp only [withOption, Fields.get?_put_same, Option.getD_some, same]

/-- Two parameters that are written out the same make the same request. -/
theorem methodSource_parameters (request : DataSource) {first second : Json} (path : Path)
    (same : parametersSource first = parametersSource second) :
    (request.withOption "params" first).methodSource path =
      (request.withOption "params" second).methodSource path := by
  have payload : (request.withOption "params" first).payloadSource =
      (request.withOption "params" second).payloadSource := by
    unfold payloadSource
    rw [payloadFields_withOption request first rfl (by decide),
      payloadFields_withOption request second rfl (by decide)]
    simp only [withOption, Fields.get?_put_same, same]
  have uri := fun value => Fields.get?_put_other request.options "params" "uri" value (by decide)
  unfold methodSource
  rw [payload]
  simp only [withOption, uri]

/-- Requests with the same method are compiled alike, whatever the context. -/
theorem compile_congr {first second : DataSource} {path : Path}
    (transport : first.transport = second.transport)
    (method : first.methodSource path = second.methodSource path) :
    first.compile path = second.compile path := by
  unfold compile
  rw [transport, method]

end DataSource

namespace Directive

private theorem wrapLoop_taggedExpression (source : String) (arguments : Option (List String))
    (fragment : String) (path : Path) :
    wrapLoop (.taggedExpression source) arguments fragment path =
      .error (.invalidLoopSource path) :=
  rfl

/-- Markup that opens no element can carry no key, so it fails in a loop over whatever there is. -/
theorem wrapLoop_closed {fragment : String} (closed : ¬ Opens fragment) (source : Json)
    (arguments : Option (List String)) (path : Path) :
    (wrapLoop source arguments fragment path).toOption = none := by
  have none : splitOpeningTag? fragment.toList = none := Option.not_isSome_iff_eq_none.mp closed
  unfold wrapLoop injectKey
  rw [none]
  cases loopSource source path <;> rfl

/-- A loop over a template succeeds around every element. -/
theorem wrapLoop_templateExpression {fragment : String} (opens : Opens fragment) (source : String)
    (arguments : Option (List String)) (path : Path) :
    (wrapLoop (.templateExpression source) arguments fragment path).toOption ≠ none := by
  have runs : loopSource (.templateExpression source) path = .ok (Text.trimmed source) := by
    simp only [Json.templateExpression, loopSource, Value.expressionBody?_template, Text.trimmed]
  have faults := faultOf_wrapLoop opens (.templateExpression source) arguments path
  rw [runs] at faults
  cases wrapped : wrapLoop (.templateExpression source) arguments fragment path with
  | error fault => simp [wrapped, faultOf] at faults
  | ok text => exact Option.some_ne_none text

end Directive

/-- Both forms of an expression are the same as an attribute and as content, as a condition, and as
the uri and the parameters of a data source. In a loop they are so only where both fail because the
markup cannot carry a key. -/
theorem taggedExpression_as_template (source : String) :
    (∀ position path, (Json.taggedExpression source).toSource position path =
      (Json.templateExpression source).toSource position path) ∧
    (∀ fragment path, Directive.wrapCondition (.taggedExpression source) fragment path =
      Directive.wrapCondition (.templateExpression source) fragment path) ∧
    (∀ (request : DataSource) path,
      (request.withOption "uri" (.taggedExpression source)).compile path =
        (request.withOption "uri" (.templateExpression source)).compile path) ∧
    (∀ (request : DataSource) path,
      (request.withOption "params" (.taggedExpression source)).compile path =
        (request.withOption "params" (.templateExpression source)).compile path) ∧
    ∀ arguments fragment path,
      SameOutcome (Directive.wrapLoop (.taggedExpression source) arguments fragment path)
        (Directive.wrapLoop (.templateExpression source) arguments fragment path) ↔
      ¬ Directive.Opens fragment := by
  refine ⟨Json.toSource_taggedExpression source,
    Directive.wrapCondition_taggedExpression source, fun request path => ?_, fun request path => ?_,
    fun arguments fragment path => ?_⟩
  · refine DataSource.compile_congr rfl (request.methodSource_uri path fun path => ?_)
    exact Json.toSource_taggedExpression source .attribute path
  · refine DataSource.compile_congr rfl (request.methodSource_parameters path ?_)
    rw [DataSource.parametersSource_taggedExpression,
      DataSource.parametersSource_templateExpression]
  · unfold SameOutcome
    rw [Directive.wrapLoop_taggedExpression]
    constructor
    · intro same opens
      exact Directive.wrapLoop_templateExpression opens source arguments path same.symm
    · intro closed
      exact (Directive.wrapLoop_closed closed _ arguments path).symm

/-- A list is looped over when it is given as a template, and refused when it is given as a tagged
object. -/
theorem taggedExpression_no_loop :
    let path := Path.root.field "loop"
    let tagged := Directive.wrapLoop (.taggedExpression "items") none "<div />" path
    let template := Directive.wrapLoop (.templateExpression "items") none "<div />" path
    tagged = .error (.invalidLoopSource path) ∧
      template.toOption = some
        "items.map((item:any, index:number) => \x7b\n return (<div key=\x7bindex\x7d />);\n\x7d)" ∧
      ¬ SameOutcome tagged template := by
  intro path tagged template
  have looped : template.toOption = some
      "items.map((item:any, index:number) => \x7b\n return (<div key=\x7bindex\x7d />);\n\x7d)" := by
    decide +kernel
  refine ⟨rfl, looped, fun same => ?_⟩
  cases same.trans looped

end PanelCompiler
