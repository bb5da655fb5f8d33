import PanelCompiler.Proofs.Directive.Qualifier
import PanelCompiler.Proofs.Script.FirstToken

namespace PanelCompiler.Script

open Lexer (nextToken scanMark scanToken scanWord skipTrivia)

/-- What is spelled like a name; reserved words are. -/
structure IsPropertyName (name : List Char) : Prop where
  start : name.head?.any isNameStart = true
  parts : ∀ c ∈ name, isNamePart c = true

instance (name : List Char) : Decidable (IsPropertyName name) :=
  decidable_of_iff (name.head?.any isNameStart = true ∧ name.all isNamePart = true)
    ⟨fun ⟨start, parts⟩ => ⟨start, List.all_eq_true.mp parts⟩,
      fun ⟨start, parts⟩ => ⟨start, List.all_eq_true.mpr parts⟩⟩

/-- The key that is named behind an object, and the source behind that. -/
def keyBehind? (source : List Char) : Option (String × List Char) :=
  let mark := nextToken source
  let key := nextToken mark.rest
  if mark.kind = .mark ∧ mark.text = "." then
    if key.kind = .word then some (key.text, key.rest) else none
  else if mark.kind = .mark ∧ mark.text = "[" then
    let closing := nextToken key.rest
    if key.kind = .string ∧ closing.kind = .mark ∧ closing.text = "]" then
      some (key.text, closing.rest)
    else none
  else none

/-- The key that a source reads from an object of this name, if the whole source is that. -/
def memberKey? (object : String) (source : List Char) : Option String :=
  let name := nextToken source
  if name.kind = .word ∧ name.text = object then
    match keyBehind? name.rest with
    | some (key, rest) => if (nextToken rest).kind = .finish then some key else none
    | none => none
  else none

section Words

variable {reversed text name rest : List Char} {fuel : Nat} {escaped marked : Bool}

private theorem isNamePart_of_isNameStart {c : Char} (start : isNameStart c = true) :
    isNamePart c = true := by
  unfold isNameStart at start
  unfold isNamePart isNameStart
  split
  · rename_i ascii
    rw [if_pos ascii, Bool.or_assoc] at start
    simp only [Bool.or_eq_true] at start ⊢
    tauto
  · rename_i beyond
    rw [if_neg beyond] at start
    simp [start]

theorem IsPropertyName.ne_nil (named : IsPropertyName name) : name ≠ [] := by
  rintro rfl
  cases named.start

private theorem IsPropertyName.concat {c : Char} (named : IsPropertyName name)
    (part : isNamePart c = true) : IsPropertyName (name ++ [c]) where
  start := by
    obtain ⟨first, others, rfl⟩ := List.exists_cons_of_ne_nil named.ne_nil
    exact named.start
  parts := by
    intro d member
    rcases List.mem_append.mp member with here | last
    · exact named.parts d here
    · rwa [List.mem_singleton.mp last]

/-- What is scanned as a word goes on as a name: its escapes, too, stand for letters of one. -/
theorem scanWord_sound (begun : IsPropertyName reversed.reverse)
    (scanned : scanWord fuel reversed escaped text = some (name, marked, rest)) :
    IsPropertyName name := by
  have ongoing : reversed.isEmpty = false := by
    cases reversed with
    | nil => cases begun.start
    | cons => rfl
  induction fuel generalizing reversed escaped text with
  | zero => cases scanned
  | succ fuel ih =>
    have later {c : Char} (part : isNamePart c = true) :
        IsPropertyName (c :: reversed).reverse := by
      rw [List.reverse_cons]
      exact begun.concat part
    unfold scanWord at scanned
    simp only [ongoing, Bool.false_eq_true, if_false] at scanned
    split at scanned
    · split at scanned
      · split at scanned
        · rename_i part
          exact ih (later part) scanned rfl
        · cases scanned
      · cases scanned
    · cases scanned
    · split at scanned
      · rename_i part
        exact ih (later part) scanned rfl
      · cases scanned
        exact begun
    · cases scanned
      exact begun

private theorem IsPropertyName.singleton {c : Char} (start : isNameStart c = true) :
    IsPropertyName [c] where
  start := start
  parts := by simpa using isNamePart_of_isNameStart start

private theorem scanWord_begun {c : Char} (begins : (isNameStart c || c == '\\') = true)
    (scanned : scanWord fuel [] escaped (c :: text) = some (name, marked, rest)) :
    IsPropertyName name := by
  cases fuel with
  | zero => cases scanned
  | succ fuel =>
    unfold scanWord at scanned
    simp only [List.isEmpty_nil, if_true] at scanned
    split at scanned
    · split at scanned
      · split at scanned
        · rename_i start
          exact scanWord_sound (show IsPropertyName [_].reverse from .singleton start) scanned
        · cases scanned
      · cases scanned
    · cases scanned
    · rename_i unescaped same
      obtain ⟨rfl, rfl⟩ := List.cons.inj same
      split at scanned
      · rename_i start
        exact scanWord_sound (show IsPropertyName [c].reverse from .singleton start) scanned
      · rename_i apart
        rw [Bool.not_eq_true] at apart
        rw [apart, Bool.false_or, beq_iff_eq] at begins
        exact absurd begins unescaped
    · rename_i none
      cases none

private theorem scanMark_sound {listed : List String} {mark : String}
    (scanned : scanMark text listed = some (mark, rest)) : text = mark.toList ++ rest := by
  induction listed with
  | nil => cases scanned
  | cons first others ih =>
    unfold scanMark at scanned
    split at scanned
    · rename_i behind found
      split at scanned
      · exact ih scanned
      · cases scanned
        exact Directive.afterPrefix?_eq_some.mp found
    · exact ih scanned

private theorem scanToken_word {word : String}
    (scanned : scanToken text = (.word, word, escaped, rest)) : IsPropertyName word.toList := by
  cases text with
  | nil => cases scanned
  | cons c text =>
    unfold scanToken at scanned
    simp only at scanned
    split at scanned
    · rename_i begins
      split at scanned
      · rename_i named
        cases scanned
        rw [String.toList_ofList]
        exact scanWord_begun begins named
      · cases scanned
    · -- What begins with another character is no word.
      repeat' split at scanned
      all_goals cases scanned

/-- A mark is what the text begins with. -/
theorem scanToken_mark {mark : String} (scanned : scanToken text = (.mark, mark, escaped, rest)) :
    text = mark.toList ++ rest := by
  cases text with
  | nil => cases scanned
  | cons c text =>
    unfold scanToken at scanned
    simp only at scanned
    repeat' split at scanned
    all_goals cases scanned
    rename_i found
    exact scanMark_sound found

private theorem nextToken_word_sound (word : (nextToken text).kind = .word) :
    IsPropertyName (nextToken text).text.toList := by
  unfold nextToken at word ⊢
  cases skipped : skipTrivia .space false text with
  | none =>
    rw [skipped] at word
    cases word
  | some start =>
    rcases scanned : scanToken start.1 with ⟨kind, name, escaped, rest⟩
    simp only [skipped, scanned] at word ⊢
    cases word
    exact scanToken_word scanned

end Words

section Points

variable {name rest : List Char}

private theorem nextToken_point {c : Char} (start : isNameStart c = true) :
    nextToken ('.' :: c :: rest) = Token.ofMark "." (c :: rest) := by
  have number : isDecimal c = false := isDecimal_of_isNameStart start
  have apart : '.' ≠ c := by
    rintro rfl
    exact absurd start (by decide +kernel)
  have scanned : scanMark ('.' :: c :: rest) marks = some (".", c :: rest) := by
    simp [scanMark, marks, Text.afterPrefix?, apart]
  have token : scanToken ('.' :: c :: rest) = (.mark, ".", false, c :: rest) := by
    have letter : isNameStart '.' = false := by decide
    have digit : isDecimal '.' = false := by decide
    rw [scanToken]
    simp [letter, digit, number, scanned]
  rw [nextToken_shown (by decide), Token.atStart, token]
  rfl

/-- A source that begins with a point names nothing in brackets. -/
theorem keyBehind?_point {key : String} (named : keyBehind? ('.' :: name) = some (key, rest)) :
    IsPropertyName key.toList := by
  unfold keyBehind? at named
  simp only at named
  split at named
  · split at named
    · rename_i word
      cases named
      exact nextToken_word_sound word
    · cases named
  · split at named
    · rename_i bracket
      have shown : isShown '.' = true := by decide
      rcases scanned : scanToken ('.' :: name) with ⟨kind, mark, escaped, behind⟩
      simp only [nextToken_shown shown, Token.atStart, scanned] at bracket
      obtain ⟨rfl, rfl⟩ := bracket
      cases scanToken_mark scanned
    · cases named

variable {object : String} (named : IsPropertyName object.toList)
include named

theorem nextToken_object : nextToken (object.toList ++ '.' :: name) =
    Token.ofWord object.toList ('.' :: name) := by
  have ends : EndsWord ('.' :: name) := by
    intro c first
    cases first
    decide +kernel
  exact nextToken_word .nil named.start named.parts ends

/-- The key that is read behind a point is spelled like a name. -/
theorem memberKey?_sound {key : String}
    (read : memberKey? object (object.toList ++ '.' :: name) = some key) :
    IsPropertyName key.toList := by
  rw [memberKey?, nextToken_object named] at read
  simp only [Token.ofWord, String.ofList_toList, and_self, if_true] at read
  split at read
  · rename_i key rest found
    split at read
    · cases read
      exact keyBehind?_point found
    · cases read
  · cases read

theorem memberKey?_name (property : IsPropertyName name) :
    memberKey? object (object.toList ++ '.' :: name) = some (String.ofList name) := by
  have whole : nextToken name = Token.ofWord name [] := by
    have ends : EndsWord [] := nofun
    have read := nextToken_word .nil property.start property.parts ends
    rwa [List.append_nil] at read
  obtain ⟨c, behind, rfl⟩ := List.exists_cons_of_ne_nil property.ne_nil
  have start : isNameStart c = true := by simpa using property.start
  have key : keyBehind? ('.' :: c :: behind) = some (String.ofList (c :: behind), []) := by
    simp only [keyBehind?, nextToken_point start, Token.ofMark, whole, Token.ofWord, and_self,
      if_true]
  rw [memberKey?, nextToken_object named]
  simp only [Token.ofWord, String.ofList_toList, and_self, if_true, key]
  exact if_pos nextToken_nil

end Points

end PanelCompiler.Script
