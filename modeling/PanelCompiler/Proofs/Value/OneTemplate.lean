import PanelCompiler.Proofs.Text.Paired
import PanelCompiler.Value.Source

/-!
Whole texts that are read as one expression. A text is read so if it begins with two braces and
ends with two. It is one template only if the two in front stay open up to the end; a text that is
made of several templates is read as one expression just the same.
-/

namespace PanelCompiler

open Text (Group Paired)

namespace Value

/-- The two braces in front are open up to the two at the end. -/
def IsOneTemplate (text : List Char) : Prop :=
  ∀ front back, text = front ++ back → 2 ≤ front.length → 2 ≤ back.length →
    front.count '\x7d' + 2 ≤ front.count '\x7b'

/-- Two templates at the ends, with anything between them, also more templates. -/
def HasSeveralTemplates (text : List Char) : Prop :=
  ∃ first middle last, Paired '\x7b' '\x7d' first ∧ Paired '\x7b' '\x7d' middle ∧
    Paired '\x7b' '\x7d' last ∧ text = ['\x7b', '\x7b'] ++ first ++ ['\x7d', '\x7d'] ++ middle ++
      (['\x7b', '\x7b'] ++ last ++ ['\x7d', '\x7d'])

section Template

variable {text body : List Char}

private theorem beforeClosing?_eq_some {inside : List Char}
    (found : beforeClosing? text = some inside) : text = inside ++ ['\x7d', '\x7d'] := by
  unfold beforeClosing? at found
  split at found
  · rename_i reversed inner backward
    cases found
    have forward := congrArg List.reverse backward
    simpa using forward
  · cases found

private theorem expressionBody?_eq_some (whole : expressionBody? text = some body) :
    ∃ inside, text = '\x7b' :: '\x7b' :: (inside ++ ['\x7d', '\x7d']) ∧
      body = Text.trim inside := by
  unfold expressionBody? at whole
  split at whole
  · obtain ⟨inside, found, trimmed⟩ := Option.map_eq_some_iff.mp whole
    exact ⟨inside, by rw [beforeClosing?_eq_some found], trimmed.symm⟩
  · cases whole

/-- What stands between the braces is balanced exactly if those in front are closed by those at the
end. -/
theorem isOneTemplate_iff {inside : List Char}
    (paired : Paired '\x7b' '\x7d' ('\x7b' :: '\x7b' :: (inside ++ ['\x7d', '\x7d']))) :
    IsOneTemplate ('\x7b' :: '\x7b' :: (inside ++ ['\x7d', '\x7d'])) ↔
      Paired '\x7b' '\x7d' inside := by
  constructor
  · intro one
    refine ⟨fun front back split => ?_, ?_⟩
    · have counted := one ('\x7b' :: '\x7b' :: front) (back ++ ['\x7d', '\x7d']) (by simp [split])
        (by simp) (by simp)
      simp at counted
      omega
    · have counted := paired.whole
      simp at counted
      exact counted
  · intro inner front back split long more
    obtain ⟨c, d, front, rfl⟩ : ∃ c d rest, front = c :: d :: rest := by
      match front, long with
      | c :: d :: rest, _ => exact ⟨c, d, rest, rfl⟩
    simp only [List.cons_append, List.cons.injEq] at split
    obtain ⟨rfl, rfl, split⟩ := split
    have within : ∃ between, inside = front ++ between := by
      rcases List.append_eq_append_iff.mp split with ⟨between, rfl, closing⟩ | ⟨between, known, -⟩
      · -- The front reaches beyond the inside only if less than two braces are left behind it.
        have lengths := congrArg List.length closing
        simp only [List.length_cons, List.length_append, List.length_nil] at lengths
        have none : between = [] := List.length_eq_zero_iff.mp (by omega)
        exact ⟨[], by simp [none]⟩
      · exact ⟨between, known⟩
    obtain ⟨between, rfl⟩ := within
    have counted := inner.front
    simp
    omega

private theorem paired_body_iff (whole : expressionBody? text = some body)
    (paired : Paired '\x7b' '\x7d' text) :
    Paired '\x7b' '\x7d' body ↔ IsOneTemplate text := by
  obtain ⟨inside, rfl, rfl⟩ := expressionBody?_eq_some whole
  rw [isOneTemplate_iff paired, Text.paired_trim_iff (by decide) (by decide)]

/-- The first template of several ends in front of the last one. -/
theorem HasSeveralTemplates.not_one (several : HasSeveralTemplates text) :
    ¬ IsOneTemplate text := by
  obtain ⟨first, middle, last, one, -, -, rfl⟩ := several
  intro whole
  have long : 2 ≤ (middle ++ (['\x7b', '\x7b'] ++ last ++ ['\x7d', '\x7d'])).length := by
    simp only [List.length_append, List.length_cons, List.length_nil]
    omega
  have counted := whole (['\x7b', '\x7b'] ++ first ++ ['\x7d', '\x7d']) _
    (List.append_assoc ..) (by simp) long
  have inner := one.whole
  simp at counted
  omega

private theorem HasSeveralTemplates.taken (several : HasSeveralTemplates text) :
    (expressionBody? text).isSome = true := by
  obtain ⟨first, middle, last, -, -, -, rfl⟩ := several
  simp [expressionBody?, beforeClosing?]

end Template

end Value

open Value (HasSeveralTemplates IsOneTemplate expressionBody?)

private theorem Json.toSource_expression {text : String} {body : List Char}
    (whole : expressionBody? text.toList = some body) (path : Path) :
    (Json.string text).toSource .content path =
      .ok ("\x7b" ++ String.ofList body ++ "\x7d") := by
  have untagged : ∀ tag, (Json.string text).tagged? tag = none := fun _ => rfl
  unfold toSource ValueClass.ofJson
  rw [untagged, untagged]
  simp only [ValueClass.ofString, whole]

/-- Of a text with balanced braces that is read as one expression, the expression is balanced, and
between tags it is one group, exactly if the text is one template. A text of several templates is no
template, and yet it is always read so. -/
theorem expression_balanced_iff {text : String} {body : List Char}
    (balanced : Paired '\x7b' '\x7d' text.toList)
    (whole : expressionBody? text.toList = some body) :
    (Paired '\x7b' '\x7d' body ↔ IsOneTemplate text.toList) ∧
      (∀ path, ∃ source, (Json.string text).toSource .content path = .ok source ∧
        (Group '\x7b' '\x7d' source.toList ↔ IsOneTemplate text.toList)) ∧
      ∀ other, HasSeveralTemplates other →
        (expressionBody? other).isSome = true ∧ ¬ IsOneTemplate other := by
  have inner := Value.paired_body_iff whole balanced
  refine ⟨inner, fun path => ⟨_, Json.toSource_expression whole path, ?_⟩, fun other several => ?_⟩
  · have braced : ("\x7b" ++ String.ofList body ++ "\x7d").toList =
        '\x7b' :: body ++ ['\x7d'] := by
      simp
    rw [braced, Text.group_iff (by decide), inner]
  · exact ⟨several.taken, several.not_one⟩

/-- The braces of an object go together with those of the template around it. -/
theorem expression_balanced_iff_object :
    let text := "\x7b\x7b \x7ba: \x7bb: 1\x7d\x7d\x7d\x7d"
    let body := "\x7ba: \x7bb: 1\x7d\x7d".toList
    Paired '\x7b' '\x7d' text.toList ∧ expressionBody? text.toList = some body ∧
      Paired '\x7b' '\x7d' body ∧ IsOneTemplate text.toList := by
  intro text body
  have balanced : Paired '\x7b' '\x7d' text.toList := by decide +kernel
  have whole : expressionBody? text.toList = some body := by decide +kernel
  have inner : Paired '\x7b' '\x7d' body := by decide +kernel
  exact ⟨balanced, whole, inner, (expression_balanced_iff balanced whole).1.mp inner⟩

/-- Two templates with a word between them are read as one expression, whose braces do not match. -/
theorem several_templates_taken :
    let text := "\x7b\x7b a \x7d\x7d and \x7b\x7b b \x7d\x7d"
    Paired '\x7b' '\x7d' text.toList ∧ HasSeveralTemplates text.toList ∧
      expressionBody? text.toList = some "a \x7d\x7d and \x7b\x7b b".toList ∧
      ¬ Paired '\x7b' '\x7d' "a \x7d\x7d and \x7b\x7b b".toList := by
  intro text
  refine ⟨by decide +kernel, ⟨" a ".toList, " and ".toList, " b ".toList, ?_⟩, by decide +kernel,
    by decide +kernel⟩
  decide +kernel

end PanelCompiler
