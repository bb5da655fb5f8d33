import PanelCompiler.Proofs.Directive.Reference
import PanelCompiler.Proofs.Directive.Wrap
import PanelCompiler.Proofs.Text.Brackets

/-!
Directives keep delimiters balanced. Qualifiers, references and opening tags hold no brackets, so
taking out the first, replacing the second and putting a key behind the third leave the brackets of
the markup in their order.
-/

namespace PanelCompiler.Directive

open Text (Avoids Nested brackets bracketWord)

section Rewriting

theorem bracketWord_cons_congr (c : Char) {first rest : List Char}
    (same : bracketWord first = bracketWord rest) :
    bracketWord (c :: first) = bracketWord (c :: rest) := by
  unfold bracketWord at same ⊢
  rw [List.filter_cons, List.filter_cons, same]

theorem qualifier_avoids : Avoids brackets qualifier := by
  decide

theorem bracketWord_stripFrom (before : Option Char) (text : List Char) :
    bracketWord (stripFrom before 0 text) = bracketWord text := by
  induction before, text using qualifierInduction with
  | nil before => rfl
  | qualified before rest start ih =>
    rw [stripFrom_qualifier start, ih, Text.bracketWord_append,
      Text.bracketWord_avoids qualifier_avoids, List.nil_append]
  | char before c rest plain ih =>
    rw [stripFrom_char plain]
    exact bracketWord_cons_congr c ih

private theorem bracketWord_replaceFrom {name substitute : List Char} (named : Avoids brackets name)
    (replaced : Avoids brackets substitute) (before : Option Char) (text : List Char) :
    bracketWord (replaceFrom name substitute before 0 text) = bracketWord text := by
  induction before, text using referenceInduction name with
  | nil before => rfl
  | reference before rest start ending ih =>
    have passed := qualifier_avoids.append named
    rw [replaceFrom_reference start ending, ← List.append_assoc, Text.bracketWord_append,
      Text.bracketWord_append, ih, Text.bracketWord_avoids replaced,
      Text.bracketWord_avoids passed]
  | char before c rest plain ih =>
    rw [replaceFrom_char plain]
    exact bracketWord_cons_congr c ih

/-- What a template is written out to comes from the template or from the reference. -/
theorem expandFrom_subset (reference : List Char) (skip : Nat) (text : List Char) :
    expandFrom reference skip text ⊆ reference ++ text := by
  induction text generalizing skip with
  | nil => exact List.nil_subset _
  | cons c rest ih =>
    have wider : reference ++ rest ⊆ reference ++ c :: rest := by simp
    have here : c ∈ reference ++ c :: rest := by simp
    cases skip with
    | succ skip => exact List.Subset.trans (ih skip) wider
    | zero =>
      unfold expandFrom
      dsimp only
      split
      · rename_i dollar
        have sign : '$' ∈ reference ++ c :: rest := beq_iff_eq.mp dollar ▸ here
        split
        · exact List.cons_subset.mpr ⟨sign, List.Subset.trans (ih 1) wider⟩
        · split
          · refine List.append_subset.mpr ⟨?_, List.Subset.trans (ih _) wider⟩
            unfold groupText
            split
            · exact List.subset_append_left _ _
            · exact List.nil_subset _
          · exact List.cons_subset.mpr ⟨sign, List.Subset.trans (ih 0) wider⟩
      · exact List.cons_subset.mpr ⟨here, List.Subset.trans (ih 0) wider⟩

private theorem substitute_avoids {name : List Char} (named : Avoids brackets name) :
    Avoids brackets (substitute name) :=
  ((qualifier_avoids.append named).append named).subset (expandFrom_subset _ 0 name)

private theorem bracketWord_loopBody {item : String} (named : Avoids brackets item.toList)
    (keyed : String) : bracketWord (loopBody item keyed).toList = bracketWord keyed.toList := by
  unfold loopBody
  rw [String.toList_ofList, stripQualifiers, bracketWord_stripFrom]
  exact bracketWord_replaceFrom named (substitute_avoids named) none keyed.toList

end Rewriting

private theorem bracketWord_injectKey {fragment index keyed : String} {path : Path}
    (made : injectKey fragment index path = .ok keyed) :
    bracketWord keyed.toList =
      '\x7b' :: bracketWord index.toList ++ ['\x7d'] ++ bracketWord fragment.toList := by
  obtain ⟨opening, rest, found, rfl⟩ := injectKey_eq_ok made
  obtain ⟨whole, parts⟩ := splitOpeningTag?_eq_some found
  have plain : Avoids brackets opening := .of_class (by decide +kernel) parts
  have key : bracketWord (keyAttribute index).toList =
      '\x7b' :: bracketWord index.toList ++ ['\x7d'] := by
    simp [keyAttribute, bracketWord, brackets]
  rw [whole, String.toList_ofList, keyed]
  simp [Text.bracketWord_append, Text.bracketWord_avoids plain, key]

private theorem bracketWord_loopText (source body : String) (bindings : Bindings) :
    bracketWord (loopText source bindings body).toList =
      bracketWord source.toList ++ ('(' :: (
        ('(' :: (bracketWord bindings.item.toList ++ bracketWord bindings.index.toList) ++ [')']) ++
        ('\x7b' :: ('(' :: bracketWord body.toList ++ [')']) ++ ['\x7d'])) ++ [')']) := by
  simp [loopText, bracketWord, brackets]

/-- A loop around balanced markup is balanced: its source, the key and the body stand in brackets
of their own. -/
theorem wrapLoop_balanced {source : Json} {arguments : Option (List String)}
    {fragment looped : String} {path : Path}
    (runs : ∀ text, loopSource source path = .ok text → Balanced text)
    (item : Avoids brackets (Bindings.ofArguments arguments).item.toList)
    (index : Balanced (Bindings.ofArguments arguments).index) (inner : Balanced fragment)
    (made : wrapLoop source arguments fragment path = .ok looped) : Balanced looped := by
  obtain ⟨text, given, made⟩ := bind_eq_ok made
  obtain ⟨keyed, injected, made⟩ := bind_eq_ok made
  have key : Nested (bracketWord keyed.toList) := by
    rw [bracketWord_injectKey injected]
    exact (Nested.braces index).append inner
  have names : Nested (bracketWord (Bindings.ofArguments arguments).item.toList ++
      bracketWord (Bindings.ofArguments arguments).index.toList) :=
    Nested.append (Balanced.of_avoids item) index
  have function := names.parentheses.append key.parentheses.braces
  refine .of_word (Nested.append (runs text given) function.parentheses) ?_
  rw [← Except.ok.inj made, bracketWord_loopText, String.toList_ofList, stripQualifiers,
    bracketWord_stripFrom, bracketWord_loopBody item]

theorem wrapCondition_balanced {condition : Json} {fragment guarded : String} {path : Path}
    (decides : ∀ text, condition.toSource .attribute path = .ok text → Balanced text)
    (inner : Balanced fragment) (made : wrapCondition condition fragment path = .ok guarded) :
    Balanced guarded := by
  have guard : ∀ text, conditionSource condition path = .ok text → Balanced text := by
    intro text given
    unfold conditionSource at given
    split at given
    · cases given
      decide
    · cases given
      decide
    · exact decides text given
  obtain ⟨text, given, made⟩ := bind_eq_ok made
  cases made
  exact ((guard text given).append (by decide)).append inner

end PanelCompiler.Directive
