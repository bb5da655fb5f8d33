import PanelCompiler.Proofs.Directive.Qualifier
import PanelCompiler.Proofs.Directive.Wrap

namespace PanelCompiler.Directive

section Meeting

variable {front text rest : List Char} {place : Nat}

/-- No qualifier begins in a text without any, if what follows continues none. -/
theorem Unqualified.not_qualifierAt (plain : Unqualified text) (inside : place < text.length)
    (apart : ∀ c ∈ rest.head?, c ∉ qualifier.tail) :
    ¬ QualifierAt (front ++ (text ++ rest)) (front.length + place) := by
  rintro ⟨ended, found⟩
  have begun : text.drop place ≠ [] := by
    rw [Ne, List.drop_eq_nil_iff]
    omega
  rw [List.drop_length_add_append, List.drop_append_of_le_length inside.le] at found
  refine plain place ⟨?_, prefix_of_parts begun (.inr apart) found⟩
  rw [List.take_length_add_append, List.take_append_of_le_length inside.le,
    List.getLast?_append] at ended
  cases last : (text.take place).getLast? with
  | none => rfl
  | some c => rwa [last] at ended

/-- A qualifier that takes its point from behind a text without any is the word at the end of the
text. -/
theorem Unqualified.ends_with_word (plain : Unqualified text) (inside : place < text.length)
    (found : QualifierAt (text ++ '.' :: rest) place) :
    text.drop place = ['t', 'h', 'i', 's'] := by
  obtain ⟨ended, found⟩ := found
  rw [List.take_append_of_le_length inside.le] at ended
  rw [List.drop_append_of_le_length inside.le] at found
  rcases List.prefix_or_prefix_of_prefix found (List.prefix_append (text.drop place) _) with
    within | ⟨more, whole⟩
  · exact absurd ⟨ended, within⟩ (plain place)
  · cases more with
    | nil =>
      rw [List.append_nil] at whole
      exact absurd ⟨ended, whole ▸ List.prefix_rfl⟩ (plain place)
    | cons c more =>
      rw [← whole, List.prefix_append_right_inj, List.cons_prefix_cons] at found
      obtain ⟨rfl, _⟩ := found
      -- The point of the qualifier is its last character, so what is in front is the whole word.
      have points : ∀ length < 5, qualifier[length]? = some '.' → length = 4 := by decide
      have short := congrArg List.length whole
      rw [length_qualifier, List.length_append, List.length_cons] at short
      have point : qualifier[(text.drop place).length]? = some '.' := by
        rw [← whole]
        simp
      have length := points _ (by omega) point
      have word := congrArg (List.take 4) whole
      rwa [List.take_append_of_le_length length.ge, List.take_of_length_le length.le] at word

end Meeting

def loopHead (source : String) (bindings : Bindings) : String :=
  source ++ ".map((" ++ bindings.item ++ ":any, " ++ bindings.index ++ ":number) => \x7b\n return ("

private theorem toList_loopText (source : String) (bindings : Bindings) (body : String) :
    (loopText source bindings body).toList =
      (loopHead source bindings).toList ++ (body.toList ++ ");\n\x7d)".toList) := by
  simp [loopText, loopHead]

variable {source : Json} {arguments : Option (List String)} {fragment made : String} {path : Path}

/-- The list and the body of a loop hold no qualifiers, and removing qualifiers from them, or from
any text a second time, changes nothing. In the whole text of the loop no qualifier begins in the
body, and one begins in the list only where the list ends in `this`. -/
theorem wrapLoop_unqualified (success : wrapLoop source arguments fragment path = .ok made) :
    (∃ given opening rest, loopSource source path = .ok given ∧
      splitOpeningTag? fragment.toList = some (opening, rest) ∧
      let bindings := Bindings.ofArguments arguments
      let list := String.ofList (stripQualifiers given.toList)
      let body := loopBody bindings.item (String.ofList (keyed opening rest bindings.index))
      made = loopText list bindings body ∧
        Unqualified list.toList ∧ Unqualified body.toList ∧
        stripQualifiers list.toList = list.toList ∧ stripQualifiers body.toList = body.toList ∧
        (∀ place < list.toList.length, QualifierAt made.toList place →
          list.toList.drop place = ['t', 'h', 'i', 's']) ∧
        ∀ place < body.toList.length,
          ¬ QualifierAt made.toList ((loopHead list bindings).toList.length + place)) ∧
      ∀ text, Unqualified (stripQualifiers text) ∧
        stripQualifiers (stripQualifiers text) = stripQualifiers text := by
  refine ⟨?_, fun text => ⟨unqualified_stripQualifiers text, stripQualifiers_idem text⟩⟩
  obtain ⟨given, opening, rest, looped, opens, rfl⟩ := wrapLoop_eq_ok success
  refine ⟨given, opening, rest, looped, opens, ?_⟩
  intro bindings list body
  have listPlain : Unqualified list.toList := by
    rw [String.toList_ofList]
    exact unqualified_stripQualifiers _
  have bodyPlain : Unqualified body.toList := by
    simp only [body, loopBody, String.toList_ofList]
    exact unqualified_stripQualifiers _
  refine ⟨rfl, listPlain, bodyPlain, stripQualifiers_eq_self_iff.mpr listPlain,
    stripQualifiers_eq_self_iff.mpr bodyPlain, fun place inside found => ?_,
    fun place inside => ?_⟩
  · have opened : (loopText list bindings body).toList = list.toList ++ '.' :: ("map((" ++
        bindings.item ++ ":any, " ++ bindings.index ++ ":number) => \x7b\n return (" ++ body ++
        ");\n\x7d)").toList := by simp [loopText]
    rw [loopAround] at found
    exact listPlain.ends_with_word inside (opened ▸ found)
  · rw [loopAround, toList_loopText]
    refine bodyPlain.not_qualifierAt inside fun c front => ?_
    obtain rfl : ')' = c := Option.some.inj front
    decide

/-- Several qualifiers in a row go together, and what is behind them becomes no new one. -/
theorem wrapLoop_unqualified_chain :
    let fragment := "<td title=\x7bthis.this.x\x7d>\x7bthis.this.item.x\x7d</td>"
    let made := "rows.map((item:any, index:number) => \x7b\n return (" ++
      "<td key=\x7bindex\x7d title=\x7bx\x7d>\x7bitem.x\x7d</td>);\n\x7d)"
    wrapLoop (.string "\x7b\x7b this.this.rows \x7d\x7d") none fragment .root = .ok made ∧
      ∃ list body, made = loopText list ⟨"item", "index"⟩ body ∧ Unqualified list.toList ∧
        Unqualified body.toList := by
  intro fragment made
  have success : wrapLoop (.string "\x7b\x7b this.this.rows \x7d\x7d") none fragment .root =
      .ok made := by
    have opens : splitOpeningTag? fragment.toList = some ("<td".toList,
        " title=\x7bthis.this.x\x7d>\x7bthis.this.item.x\x7d</td>".toList) := by decide +kernel
    rw [wrapLoop_opened rfl opens]
    exact congrArg Except.ok (by decide +kernel)
  obtain ⟨⟨_, _, _, _, _, same, list, body, _⟩, _⟩ := wrapLoop_unqualified success
  exact ⟨success, _, _, same, list, body⟩

end PanelCompiler.Directive
