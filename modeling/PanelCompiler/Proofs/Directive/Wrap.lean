import PanelCompiler.Directive.Wrap
import PanelCompiler.Proofs.Text.Word
import PanelCompiler.Proofs.Value.Outcome

namespace PanelCompiler.Directive

open Text (isAsciiWord isBlank isWord isWord_of_isAsciiWord)

/-- Characters up to the end of the name in an opening tag. -/
def isOpeningPart (c : Char) : Bool :=
  isBlank c || c == '<' || isTagPart c

theorem splitOpeningTag?_eq_some {text opening rest : List Char}
    (found : splitOpeningTag? text = some (opening, rest)) :
    text = opening ++ rest ∧ ∀ c ∈ opening, isOpeningPart c = true := by
  unfold splitOpeningTag? at found
  split at found
  · rename_i c behind shown
    split at found
    · rename_i letter
      cases found
      have whole : text.takeWhile isBlank ++ text.dropWhile isBlank = text :=
        List.takeWhile_append_dropWhile
      have blanks : ∀ c ∈ text.takeWhile isBlank, isBlank c = true :=
        List.all_eq_true.mp List.all_takeWhile
      have first : isTagPart c = true := by
        have word : isWord c = true := isWord_of_isAsciiWord (by simp [isAsciiWord, letter])
        simp [isTagPart, word]
      have parts : ∀ c ∈ behind.takeWhile isTagPart, isTagPart c = true :=
        List.all_eq_true.mp List.all_takeWhile
      rw [shown] at whole
      constructor
      · rw [List.append_assoc, List.cons_append, List.cons_append,
          List.takeWhile_append_dropWhile, whole]
      · intro d member
        rcases List.mem_append.mp member with blank | member
        · simp [isOpeningPart, blanks d blank]
        · rcases List.mem_cons.mp member with rfl | member
          · rfl
          · rcases List.mem_cons.mp member with rfl | part
            · simp [isOpeningPart, first]
            · simp [isOpeningPart, parts d part]
    · cases found
  · cases found

/-- The characters of a fragment with a key behind its opening tag. -/
def keyed (opening rest : List Char) (index : String) : List Char :=
  opening ++ ((keyAttribute index).toList ++ rest)

variable {source : Json} {arguments : Option (List String)}
  {fragment index sourceText made : String} {path : Path} {opening rest : List Char}

theorem injectKey_opened (opens : splitOpeningTag? fragment.toList = some (opening, rest)) :
    injectKey fragment index path = .ok (String.ofList (keyed opening rest index)) := by
  rw [injectKey, opens, keyed, String.ofList_append, String.ofList_append, String.ofList_toList,
    ← String.append_assoc]

theorem injectKey_eq_ok (success : injectKey fragment index path = .ok made) :
    ∃ opening rest, splitOpeningTag? fragment.toList = some (opening, rest) ∧
      made = String.ofList (keyed opening rest index) := by
  cases opens : splitOpeningTag? fragment.toList with
  | none =>
    rw [injectKey, opens] at success
    cases success
  | some parts =>
    obtain ⟨opening, rest⟩ := parts
    rw [injectKey_opened opens] at success
    exact ⟨opening, rest, rfl, (Except.ok.inj success).symm⟩

theorem body_within_loop (sourceText : String) (bindings : Bindings) (body : String) :
    body.toList <:+: (loopText sourceText bindings body).toList :=
  ⟨(sourceText ++ ".map((" ++ bindings.item ++ ":any, " ++ bindings.index ++
    ":number) => \x7b\n return (").toList, ");\n\x7d)".toList, by simp [loopText]⟩

/-- The loop over a source, around a fragment cut behind its opening tag. -/
def loopAround (sourceText : String) (bindings : Bindings) (opening rest : List Char) : String :=
  loopText (String.ofList (stripQualifiers sourceText.toList)) bindings
    (loopBody bindings.item (String.ofList (keyed opening rest bindings.index)))

theorem wrapLoop_opened (looped : loopSource source path = .ok sourceText)
    (opens : splitOpeningTag? fragment.toList = some (opening, rest)) :
    wrapLoop source arguments fragment path =
      .ok (loopAround sourceText (Bindings.ofArguments arguments) opening rest) := by
  rw [wrapLoop, looped]
  simp only [injectKey_opened opens]
  rfl

theorem wrapLoop_eq_ok (success : wrapLoop source arguments fragment path = .ok made) :
    ∃ sourceText opening rest, loopSource source path = .ok sourceText ∧
      splitOpeningTag? fragment.toList = some (opening, rest) ∧
      made = loopAround sourceText (Bindings.ofArguments arguments) opening rest := by
  obtain ⟨sourceText, given, success⟩ := bind_eq_ok success
  obtain ⟨whole, injected, success⟩ := bind_eq_ok success
  obtain ⟨opening, rest, opens, rfl⟩ := injectKey_eq_ok injected
  exact ⟨sourceText, opening, rest, given, opens, (Except.ok.inj success).symm⟩

end PanelCompiler.Directive
