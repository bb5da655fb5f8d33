import PanelCompiler.Proofs.Directive.Template
import PanelCompiler.Proofs.Directive.Wrap

/-!
What becomes of the body of a loop. Where the name of the item stands for itself, exactly the
qualifiers go. Where it does not, every reference to the item shows: removing qualifiers leaves the
dollar signs as they are, so a substitute with another number of them cannot be made good, and
neither can letters that were put in front of a reference and keep its qualifier from being one.
-/

namespace PanelCompiler.Directive

open Text (isAsciiWord isWord)

section Counting

variable {mark : Char}

private theorem count_stripFrom (apart : mark ∉ qualifier) (before : Option Char)
    (text : List Char) : (stripFrom before 0 text).count mark = text.count mark := by
  induction before, text using qualifierInduction with
  | nil before => rfl
  | qualified before rest start ih =>
    rw [stripFrom_qualifier start, ih, List.count_append, List.count_eq_zero.mpr apart,
      Nat.zero_add]
  | char before c rest plain ih => rw [stripFrom_char plain, List.count_cons, ih, List.count_cons]

private theorem count_replaceFrom (name substitute : List Char) (apart : mark ∉ qualifier)
    (before : Option Char) (text : List Char) :
    ∃ times, (replaceFrom name substitute before 0 text).count mark + times * name.count mark =
        text.count mark + times * substitute.count mark ∧
      (RefersFrom before name text → 0 < times) := by
  induction before, text using referenceInduction name with
  | nil before => exact ⟨0, by simp [replaceFrom], fun refers => absurd refers not_refersFrom_nil⟩
  | reference before rest start ending ih =>
    obtain ⟨times, same, _⟩ := ih
    refine ⟨times + 1, ?_, fun _ => Nat.succ_pos times⟩
    have unmarked : qualifier.count mark = 0 := List.count_eq_zero.mpr apart
    rw [replaceFrom_reference start ending]
    simp only [List.count_append, unmarked, Nat.succ_mul]
    omega
  | char before c rest plain ih =>
    obtain ⟨times, same, found⟩ := ih
    refine ⟨times, ?_, fun refers => found (refers.tail plain)⟩
    rw [replaceFrom_char plain, List.count_cons, List.count_cons]
    omega

end Counting

section Lengthening

variable {letters : List Char}

/-- A qualifier behind letters is none: it stays with them. -/
theorem stripFrom_letters (nonempty : letters ≠ []) (words : ∀ c ∈ letters, isWord c = true)
    (before : Option Char) (rest : List Char) :
    stripFrom before 0 (letters ++ (qualifier ++ rest)) =
      letters ++ (qualifier ++ stripFrom (some '.') 0 rest) := by
  have point : '.' ∉ letters := fun member => absurd (words '.' member) (by decide +kernel)
  have inside : endsWord (letters.getLast?.or before) = endsWord (some 't') := by
    rw [List.getLast?_eq_some_getLast nonempty]
    simp only [Option.some_or, endsWord, Option.any_some, words _ (List.getLast_mem nonempty)]
    decide +kernel
  have cut : Parts (letters.getLast?.or before) (qualifier ++ rest) := by
    refine .inr fun c first => ?_
    cases first
    decide
  have ended : Parts (qualifier.getLast?.or (letters.getLast?.or before)) rest := .inl rfl
  have kept : stripFrom (letters.getLast?.or before) 0 qualifier = qualifier := by
    rw [stripFrom_congr inside]
    decide +kernel
  rw [stripFrom_append cut, stripFrom_append ended, stripFrom_absent (by decide) before point, kept]
  rfl

/-- Letters put in front of references stay, and so do the qualifiers behind them. The text `front`
comes before both texts, so that the induction can go on behind any character. -/
theorem length_stripFrom_letters (nonempty : letters ≠ []) (words : ∀ c ∈ letters, isWord c = true)
    (name : List Char) (before : Option Char) (text : List Char) :
    ∀ (first : Option Char) (front : List Char), front.getLast?.or first = before →
      ∃ more, (stripFrom first 0 (front ++
          replaceFrom name (letters ++ (qualifier ++ name)) before 0 text)).length =
          (stripFrom first 0 (front ++ text)).length + more ∧
        (RefersFrom before name text → 0 < more) := by
  induction before, text using referenceInduction name with
  | nil before => exact fun _ _ _ => ⟨0, rfl, fun refers => absurd refers not_refersFrom_nil⟩
  | reference before rest start ending ih =>
    intro first front last
    obtain ⟨more, longer, _⟩ := ih (some '.') name rfl
    refine ⟨letters.length + qualifier.length + more, ?_, fun _ => ?_⟩
    · have parts : ∀ rest, Parts (front.getLast?.or first) rest := fun rest => .inl (last ▸ start)
      rw [replaceFrom_reference start ending, stripFrom_append (parts _),
        stripFrom_append (parts _), List.append_assoc, List.append_assoc,
        stripFrom_letters nonempty words, last, stripFrom_qualifier start]
      simp only [List.length_append, longer]
      omega
    · rw [length_qualifier]
      omega
  | char before c rest plain ih =>
    intro first front last
    obtain ⟨more, longer, found⟩ := ih first (front ++ [c]) (by rw [List.getLast?_concat]; rfl)
    refine ⟨more, ?_, fun refers => found (refers.tail plain)⟩
    rw [replaceFrom_char plain, List.append_cons, longer, ← List.append_cons]

end Lengthening

section Body

variable {name : List Char}

/-- In the end the references to an item have lost their qualifiers, and nothing else has changed,
exactly if the name of the item stands for itself or there are no references to it. -/
theorem stripQualifiers_replaced_iff (identifier : IsIdentifier name) (text : List Char) :
    stripQualifiers (replaceReferences name (substitute name) text) = stripQualifiers text ↔
      StandsForItself name ∨ ¬ Refers name text := by
  constructor
  · intro same
    rcases substitute_cases identifier with stands | signs | ⟨letters, nonempty, words, whole⟩
    · exact .inl stands
    · have apart : '$' ∉ qualifier := by decide
      refine .inr fun refers => signs ?_
      obtain ⟨times, traded, found⟩ := count_replaceFrom name (substitute name) apart none text
      have counted := congrArg (List.count '$') same
      rw [stripQualifiers, stripQualifiers, count_stripFrom apart, count_stripFrom apart,
        replaceReferences] at counted
      rw [counted, Nat.add_left_cancel_iff] at traded
      exact (Nat.eq_of_mul_eq_mul_left (found refers) traded).symm
    · have letter : ∀ c ∈ letters, isWord c = true := fun c member =>
        Text.isWord_of_isAsciiWord (words c member)
      refine .inr fun refers => ?_
      obtain ⟨more, longer, found⟩ :=
        length_stripFrom_letters nonempty letter name none text none [] rfl
      have positive := found refers
      have lengths := congrArg List.length same
      rw [replaceReferences, whole, stripQualifiers, stripQualifiers] at lengths
      rw [List.nil_append, List.nil_append, lengths] at longer
      omega
  · rintro (stands | absent)
    · exact stands.strip text
    · rw [replaceReferences, replaceFrom_absent _ absent]

/-- A name in which no qualifier begins, not even with a point behind it, stays in front of a place
where a word begins or ends. -/
theorem stripQualifiers_name {behind : List Char} (plain : Unqualified (name ++ ['.']))
    (ending : atBoundary name.getLast? behind = true) :
    stripQualifiers (name ++ behind) = name ++ stripQualifiers behind := by
  have named : stripQualifiers name = name := stripQualifiers_eq_self_iff.mpr plain.of_append
  by_cases ended : endsWord name.getLast? = true
  · rw [stripQualifiers_append ended, named]
  · cases behind with
    | nil => rw [List.append_nil, named, stripQualifiers, stripFrom, List.append_nil]
    | cons c rest =>
      have outside : isWord c = false := by
        rw [endsWord, Bool.not_eq_true, Bool.not_eq_false'] at ended
        rw [atBoundary, ended, Text.startsWithWord] at ending
        simpa using ending
      have whole : Unqualified (name ++ [c]) := by
        by_cases point : c = '.'
        · rwa [point]
        · exact (unqualified_append outside (by simp [Ne.symm point])).mpr plain.of_append
      have fresh := endsWord_outside outside
      have next : stripQualifiers (c :: rest) = c :: stripQualifiers rest := by
        rw [stripQualifiers, stripFrom_outside outside, stripFrom_start fresh]
      rw [List.append_cons, stripQualifiers_append (by rwa [List.getLast?_concat]),
        stripQualifiers_eq_self_iff.mpr whole, next, ← List.append_cons]

private theorem stripQualifiers_reference {front behind : List Char}
    (plain : Unqualified (name ++ ['.']))
    (start : endsWord front.getLast? = true) (ending : atBoundary name.getLast? behind = true) :
    stripQualifiers (front ++ (qualifier ++ (name ++ behind))) =
      stripQualifiers front ++ (name ++ stripQualifiers behind) := by
  rw [stripQualifiers_append start, stripQualifiers_qualifier, stripQualifiers_name plain ending]

end Body

section Loop

variable {source : Json} {arguments : Option (List String)} {fragment sourceText : String}
  {path : Path} {opening rest : List Char}

/-- A fragment that opens an element can be looped, and the body of the loop is the fragment with
its key and without its qualifiers exactly if the name of the item stands for itself or the fragment
does not refer to it. If the name stands for itself and no qualifier begins in it, every reference
to it becomes the name. -/
theorem wrapLoop_body_iff (looped : loopSource source path = .ok sourceText)
    (opens : splitOpeningTag? fragment.toList = some (opening, rest))
    (identifier : IsIdentifier (Bindings.ofArguments arguments).item.toList) :
    let bindings := Bindings.ofArguments arguments
    let item := bindings.item.toList
    let whole := keyed opening rest bindings.index
    ∃ body, wrapLoop source arguments fragment path =
        .ok (loopText (String.ofList (stripQualifiers sourceText.toList)) bindings body) ∧
      (body.toList = outsideQualifiers whole ↔ StandsForItself item ∨ ¬ Refers item whole) ∧
      (StandsForItself item → Unqualified (item ++ ['.']) →
        ∀ front behind, whole = front ++ (qualifier ++ (item ++ behind)) →
          endsWord front.getLast? = true → atBoundary item.getLast? behind = true →
          body.toList = outsideQualifiers front ++ (item ++ outsideQualifiers behind)) := by
  intro bindings item whole
  refine ⟨_, wrapLoop_opened looped opens, ?_, ?_⟩
  · rw [loopBody, String.toList_ofList, String.toList_ofList, ← stripQualifiers_eq_outside]
    exact stripQualifiers_replaced_iff identifier whole
  · intro stands plain front behind reference start ending
    rw [loopBody, String.toList_ofList, String.toList_ofList, stands.strip,
      ← stripQualifiers_eq_outside, ← stripQualifiers_eq_outside]
    exact (congrArg stripQualifiers reference).trans
      (stripQualifiers_reference plain start ending)

/-- A name without dollar signs stands for itself. -/
theorem wrapLoop_body_iff_row :
    let source := Json.string "\x7b\x7b this.state.rows \x7d\x7d"
    let fragment := "<img src=\x7bthis.row.url\x7d alt=\x7bthis.alt\x7d />"
    let whole := keyed "<img".toList " src=\x7bthis.row.url\x7d alt=\x7bthis.alt\x7d />".toList "i"
    loopSource source .root = .ok "this.state.rows" ∧ IsIdentifier "row".toList ∧
      ∃ body, wrapLoop source (some ["row", "i"]) fragment .root =
          .ok (loopText "state.rows" ⟨"row", "i"⟩ body) ∧
        body.toList = outsideQualifiers whole := by
  intro source fragment whole
  have looped : loopSource source .root = .ok "this.state.rows" := rfl
  have opens : splitOpeningTag? fragment.toList =
      some ("<img".toList, " src=\x7bthis.row.url\x7d alt=\x7bthis.alt\x7d />".toList) := by
    decide +kernel
  have identifier : IsIdentifier "row".toList := by decide
  have named : IsIdentifier (Bindings.ofArguments (some ["row", "i"])).item.toList := identifier
  have stands : StandsForItself "row".toList :=
    .inl ((substitute_eq_self_iff identifier).mpr (by decide))
  obtain ⟨body, wrapped, same, _⟩ := wrapLoop_body_iff looped opens named
  exact ⟨looped, identifier, body, wrapped, same.mpr (.inl stands)⟩

/-- The name `$row` is read as a group that matches nothing, and goes with its reference. -/
theorem item_with_dollar_lost :
    let whole := keyed "<td".toList ">\x7bthis.$row.name\x7d</td>".toList "i"
    IsIdentifier "$row".toList ∧ IsIdentifier "i".toList ∧
      ∃ body, wrapLoop (.string "\x7b\x7b rows \x7d\x7d") (some ["$row", "i"])
          "<td>\x7bthis.$row.name\x7d</td>" .root =
          .ok (loopText "rows" ⟨"$row", "i"⟩ body) ∧
        body = "<td key=\x7bi\x7d>\x7b.name\x7d</td>" ∧ body.toList ≠ outsideQualifiers whole := by
  intro whole
  refine ⟨by decide, by decide, _, rfl, by decide +kernel, ?_⟩
  -- What is left outside the qualifiers is `<td key={i}>{$row.name}</td>`.
  decide +kernel

end Loop

end PanelCompiler.Directive
