import PanelCompiler.Proofs.Directive.Qualifier
import PanelCompiler.Proofs.Script.FirstToken
import PanelCompiler.Proofs.Text.Paired
import PanelCompiler.Proofs.Text.Word
import PanelCompiler.Value.Class

/-!
The forms in which a function may begin, and the texts that are classified differently. A text is
classified by its first characters alone: behind the word `function` any parenthesis will do, a list
before an arrow may hold no parentheses, `async` has to be followed by a blank, and a name is told
by the classes of its characters.
-/

namespace PanelCompiler.Value

open Script (IsFreeName isNamePart startsWithName)
open Text (Paired isBlank trimStart)

def functionWord : List Char :=
  ['f', 'u', 'n', 'c', 't', 'i', 'o', 'n']

def asyncWord : List Char :=
  ['a', 's', 'y', 'n', 'c']

def arrow : List Char :=
  ['=', '>']

def Blank (gap : List Char) : Prop :=
  ∀ c ∈ gap, isBlank c = true

instance (gap : List Char) : Decidable (Blank gap) :=
  List.decidableBAll _ gap

/-- A name as it is told by the classes of its characters. -/
structure IsBareName (name : List Char) : Prop where
  start : name.head?.any isBareNameStart = true
  parts : ∀ c ∈ name, isBareNamePart c = true

/-- Parameters in parentheses. -/
def IsList (list : List Char) : Prop :=
  ∃ inside, Paired '(' ')' inside ∧ list = '(' :: (inside ++ [')'])

/-- The forms of a function, behind `async` if it has it. -/
inductive Form : List Char → Prop
  | function {front name between list back rest : List Char}
    (named : name = [] ∨ IsFreeName name ∧ front ≠ []) (before : Blank front)
    (middle : Blank between) (parameters : IsList list) (behind : Blank back) :
    Form (functionWord ++ (front ++ (name ++ (between ++ (list ++ (back ++ '\x7b' :: rest))))))
  | arrow {list gap rest : List Char} (parameters : IsList list) (blank : Blank gap) :
    Form (list ++ (gap ++ (arrow ++ rest)))
  | bare {name gap rest : List Char} (named : IsFreeName name) (blank : Blank gap) :
    Form (name ++ (gap ++ (arrow ++ rest)))

/-- A text that begins like a function: with one of the forms, behind blanks and the keyword
`async`, if there are any. -/
inductive HasFunctionForm : List Char → Prop
  | plain {front form : List Char} (blank : Blank front) (begins : Form form) :
    HasFunctionForm (front ++ form)
  | async {front gap form : List Char} (blank : Blank front) (between : Blank gap)
    (ends : startsWithName (gap ++ form) = false) (begins : Form form) :
    HasFunctionForm (front ++ (asyncWord ++ (gap ++ form)))

/-- The texts that are taken for a function and have none of the forms, or the other way. -/
inductive MisreadForm : List Char → Prop
  /-- Prose: the word `function`, and a parenthesis somewhere behind it. -/
  | prose {text : List Char} (word : beginsFunctionWord text = true) (none : ¬ Form text) :
    MisreadForm text
  /-- Parentheses among the parameters of an arrow function. -/
  | nested {inside gap rest : List Char} (paired : Paired '(' ')' inside) (deeper : '(' ∈ inside)
    (blank : Blank gap) : MisreadForm ('(' :: (inside ++ [')']) ++ (gap ++ (arrow ++ rest)))
  /-- A name with other characters than the classes have. -/
  | foreign {name gap rest : List Char} (named : IsFreeName name) (unknown : ¬ IsBareName name)
    (blank : Blank gap) (other : beginsFunctionWord (name ++ (gap ++ (arrow ++ rest))) = false) :
    MisreadForm (name ++ (gap ++ (arrow ++ rest)))
  /-- A reserved word, or one with characters that no name has. -/
  | unnamed {name gap rest : List Char} (bare : IsBareName name) (none : ¬ IsFreeName name)
    (blank : Blank gap) : MisreadForm (name ++ (gap ++ (arrow ++ rest)))

/-- Behind the blanks in front of it, and `async` with a blank or more, if they are there. -/
inductive Behind (form : List Char) : List Char → Prop
  | plain {front : List Char} (blank : Blank front) : Behind form (front ++ form)
  | async {front gap : List Char} (blank : Blank front) (between : Blank gap) (some : gap ≠ []) :
    Behind form (front ++ (asyncWord ++ (gap ++ form)))

/-- An asynchronous arrow function without a blank in front of its parameters. -/
inductive Tight : List Char → Prop
  | intro {front list gap rest : List Char} (blank : Blank front) (parameters : IsList list)
    (between : Blank gap) : Tight (front ++ (asyncWord ++ (list ++ (gap ++ (arrow ++ rest)))))

/-- The texts whose class is not that of their form. -/
def Misread (text : List Char) : Prop :=
  (∃ form, Behind form text ∧ MisreadForm form) ∨ Tight text

section Runs

/-- A character that may be in a name. -/
def inRun (c : Char) : Bool :=
  !isBlank c && c != '=' && c != '('

theorem inRun_of_isNamePart {c : Char} (part : isNamePart c = true) : inRun c = true := by
  have shown : isBlank c = false := by
    cases blank : isBlank c with
    | false => rfl
    | true => rw [(Script.gap_outside (Script.gap_of_blank blank)).1] at part; cases part
  have apart : ∀ mark, isNamePart mark = false → c ≠ mark := by
    rintro mark none rfl
    rw [part] at none
    cases none
  simp [inRun, shown, apart '=' (by decide +kernel), apart '(' (by decide +kernel)]

theorem inRun_of_isBareNamePart {c : Char} (part : isBareNamePart c = true) : inRun c = true := by
  rcases Bool.or_eq_true_iff.mp part with word | dollar
  · have shown : isBlank c = false := by
      cases blank : isBlank c with
      | false => rfl
      | true => rw [Text.isWord_eq_false_of_isBlank blank] at word; cases word
    have apart : ∀ mark, Text.isWord mark = false → c ≠ mark := by
      rintro mark none rfl
      rw [word] at none
      cases none
    simp [inRun, shown, apart '=' (by decide +kernel), apart '(' (by decide +kernel)]
  · rw [beq_iff_eq.mp dollar]
    decide

theorem inRun_of_isBlank {c : Char} (blank : isBlank c = true) : inRun c = false := by
  simp [inRun, blank]

theorem shown_of_inRun {c : Char} (run : inRun c = true) : isBlank c = false := by
  cases blank : isBlank c with
  | false => rfl
  | true => rw [inRun_of_isBlank blank] at run; cases run

/-- A text that does not go on in a run. -/
def Stops (text : List Char) : Prop :=
  ∀ c ∈ text.head?, inRun c = false

theorem Stops.gap {gap rest : List Char} (blank : Blank gap) (stops : Stops rest) :
    Stops (gap ++ rest) := by
  cases gap with
  | nil => exact stops
  | cons c gap =>
    rintro d ⟨⟩
    exact inRun_of_isBlank (blank c List.mem_cons_self)

theorem Stops.arrow (rest : List Char) : Stops (arrow ++ rest) := by
  rintro c ⟨⟩
  decide

theorem Stops.list {list : List Char} (parameters : IsList list) (rest : List Char) :
    Stops (list ++ rest) := by
  obtain ⟨inside, -, rfl⟩ := parameters
  rintro c ⟨⟩
  decide

theorem startsWithWord_stops {text : List Char} (stops : Stops text) :
    Text.startsWithWord text = false := by
  cases text with
  | nil => rfl
  | cons c rest =>
    cases word : Text.isWord c with
    | false => exact word
    | true =>
      have part : isBareNamePart c = true := by simp [isBareNamePart, word]
      cases (inRun_of_isBareNamePart part).symm.trans (stops c rfl)

/-- A run ends where the text stops, so it is told by the text. -/
theorem run_unique {first second rest other : List Char} (one : ∀ c ∈ first, inRun c = true)
    (two : ∀ c ∈ second, inRun c = true) (here : Stops rest) (there : Stops other)
    (same : first ++ rest = second ++ other) : first = second ∧ rest = other := by
  have taken : ∀ {run back : List Char}, (∀ c ∈ run, inRun c = true) → Stops back →
      (run ++ back).takeWhile inRun = run := by
    intro run back all stops
    rw [List.takeWhile_append_of_pos all]
    cases back with
    | nil => simp
    | cons c back => simp [stops c rfl]
  have runs : first = second := by rw [← taken one here, same, taken two there]
  exact ⟨runs, List.append_cancel_left (runs ▸ same)⟩

theorem run_of_isFreeName {name : List Char} (named : IsFreeName name) :
    ∀ c ∈ name, inRun c = true :=
  fun c member => inRun_of_isNamePart (named.parts c member)

theorem IsBareName.run {name : List Char} (bare : IsBareName name) : ∀ c ∈ name, inRun c = true :=
  fun c member => inRun_of_isBareNamePart (bare.parts c member)

end Runs

section Shapes

variable {text : List Char}

theorem arrowFollows_iff :
    arrowFollows text = true ↔ ∃ gap rest, Blank gap ∧ text = gap ++ (arrow ++ rest) := by
  constructor
  · intro follows
    obtain ⟨front, blank, whole⟩ := Text.exists_trimStart text
    unfold arrowFollows at follows
    split at follows
    · rename_i rest shown
      exact ⟨front, rest, blank, by rw [shown] at whole; exact whole⟩
    · cases follows
  · rintro ⟨gap, rest, blank, rfl⟩
    unfold arrowFollows
    rw [Text.trimStart_append blank]
    rfl

theorem beginsFunctionWord_iff : beginsFunctionWord text = true ↔
    ∃ rest, text = functionWord ++ rest ∧ Text.startsWithWord rest = false ∧ '(' ∈ rest := by
  unfold beginsFunctionWord
  split
  · rename_i rest found
    have whole := Directive.afterPrefix?_eq_some.mp found
    simp only [Bool.and_eq_true, Bool.not_eq_true', List.contains_iff_mem]
    constructor
    · exact fun ⟨ends, opens⟩ => ⟨rest, whole, ends, opens⟩
    · rintro ⟨other, split, ends, opens⟩
      rw [List.append_cancel_left (whole.symm.trans split)]
      exact ⟨ends, opens⟩
  · rename_i none
    refine iff_of_false Bool.false_ne_true ?_
    rintro ⟨rest, whole, -⟩
    cases none.symm.trans (Directive.afterPrefix?_eq_some.mpr whole)

theorem beginsParameterList_iff : beginsParameterList text = true ↔
    ∃ inside gap rest, '(' ∉ inside ∧ ')' ∉ inside ∧ Blank gap ∧
      text = '(' :: (inside ++ [')']) ++ (gap ++ (arrow ++ rest)) := by
  constructor
  · intro begins
    unfold beginsParameterList at begins
    split at begins
    · rename_i inner
      have whole := List.takeWhile_append_dropWhile (p := fun c => !isParenthesis c) (l := inner)
      have plain : ∀ c ∈ inner.takeWhile (fun c => !isParenthesis c), isParenthesis c = false :=
        fun c member => by simpa using List.mem_takeWhile_imp member
      split at begins
      · rename_i rest behind
        obtain ⟨gap, rest, blank, rfl⟩ := arrowFollows_iff.mp begins
        refine ⟨inner.takeWhile fun c => !isParenthesis c, gap, rest, fun member => ?_,
          fun member => ?_, blank, ?_⟩
        · cases plain _ member
        · cases plain _ member
        · rw [behind] at whole
          simp [whole]
      · cases begins
    · cases begins
  · rintro ⟨inside, gap, rest, none, nor, blank, rfl⟩
    have plain : ∀ c ∈ inside, (!isParenthesis c) = true := by
      intro c member
      have first : c ≠ '(' := fun same => none (same ▸ member)
      have second : c ≠ ')' := fun same => nor (same ▸ member)
      simp [isParenthesis, first, second]
    have behind : (inside ++ ')' :: (gap ++ (arrow ++ rest))).dropWhile
        (fun c => !isParenthesis c) = ')' :: (gap ++ (arrow ++ rest)) :=
      List.dropWhile_append_of_pos plain
    have whole : '(' :: (inside ++ [')']) ++ (gap ++ (arrow ++ rest)) =
        '(' :: (inside ++ ')' :: (gap ++ (arrow ++ rest))) := by
      simp
    rw [whole]
    simp only [beginsParameterList, behind]
    exact arrowFollows_iff.mpr ⟨gap, rest, blank, rfl⟩

private theorem isBareNamePart_of_start {c : Char} (start : isBareNameStart c = true) :
    isBareNamePart c = true := by
  simp only [isBareNameStart, Bool.or_eq_true] at start
  rcases start with (letter | underscore) | dollar
  · have word : Text.isWord c = true :=
      Text.isWord_of_isAsciiWord (by simp [Text.isAsciiWord, letter])
    simp [isBareNamePart, word]
  · have word : Text.isWord c = true :=
      Text.isWord_of_isAsciiWord (by simp [Text.isAsciiWord, underscore])
    simp [isBareNamePart, word]
  · simp [isBareNamePart, dollar]

private theorem dropWhile_stops (stops : Stops text) : text.dropWhile isBareNamePart = text := by
  cases text with
  | nil => rfl
  | cons c rest =>
    refine List.dropWhile_cons_of_neg fun part => ?_
    cases (inRun_of_isBareNamePart part).symm.trans (stops c rfl)

theorem beginsBareParameter_iff : beginsBareParameter text = true ↔
    ∃ name gap rest, IsBareName name ∧ Blank gap ∧ text = name ++ (gap ++ (arrow ++ rest)) := by
  constructor
  · intro begins
    cases text with
    | nil => cases begins
    | cons c others =>
      obtain ⟨start, follows⟩ := Bool.and_eq_true_iff.mp begins
      obtain ⟨gap, rest, blank, behind⟩ := arrowFollows_iff.mp follows
      refine ⟨c :: others.takeWhile isBareNamePart, gap, rest, ⟨start, ?_⟩, blank, ?_⟩
      · refine List.forall_mem_cons.mpr ⟨isBareNamePart_of_start start, ?_⟩
        exact fun d member => List.mem_takeWhile_imp member
      · rw [List.cons_append, ← behind, List.takeWhile_append_dropWhile]
  · rintro ⟨name, gap, rest, ⟨start, parts⟩, blank, rfl⟩
    cases name with
    | nil => cases start
    | cons c name =>
      have stops : Stops (gap ++ (arrow ++ rest)) := .gap blank (.arrow rest)
      have later : ∀ d ∈ name, isBareNamePart d = true :=
        fun d member => parts d (List.mem_cons_of_mem c member)
      have behind : (name ++ (gap ++ (arrow ++ rest))).dropWhile isBareNamePart =
          gap ++ (arrow ++ rest) := by
        rw [List.dropWhile_append_of_pos later]
        exact dropWhile_stops stops
      simp only [List.cons_append, beginsBareParameter, behind]
      exact Bool.and_eq_true_iff.mpr ⟨start, arrowFollows_iff.mpr ⟨gap, rest, blank, rfl⟩⟩

end Shapes

section Forms

variable {text : List Char}

theorem isList_of_flat {inside : List Char} (none : '(' ∉ inside) (nor : ')' ∉ inside) :
    IsList ('(' :: (inside ++ [')'])) :=
  ⟨inside, Text.paired_of_not_mem none nor, rfl⟩

/-- What a name before an arrow is taken for is a name before an arrow, and the same one. -/
theorem bare_unique {name gap rest other between back : List Char}
    (one : ∀ c ∈ name, inRun c = true) (blank : Blank gap) (two : ∀ c ∈ other, inRun c = true)
    (middle : Blank between)
    (same : name ++ (gap ++ (arrow ++ rest)) = other ++ (between ++ (arrow ++ back))) :
    name = other :=
  (run_unique one two (.gap blank (.arrow rest)) (.gap middle (.arrow back)) same).1

/-- No name with an arrow behind it begins with parentheses. -/
theorem bare_ne_list {name gap rest list back : List Char} (some : name ≠ [])
    (run : ∀ c ∈ name, inRun c = true) (parameters : IsList list) :
    name ++ (gap ++ (arrow ++ rest)) ≠ list ++ back := by
  intro same
  obtain ⟨c, name, rfl⟩ := List.exists_cons_of_ne_nil some
  obtain ⟨inside, -, rfl⟩ := parameters
  cases (List.cons.inj same).1
  cases run '(' List.mem_cons_self

theorem IsBareName.ne_nil {name : List Char} (bare : IsBareName name) : name ≠ [] := by
  rintro rfl
  cases bare.start

section Function

variable {front name between list back rest : List Char}
  (named : name = [] ∨ IsFreeName name ∧ front ≠ []) (before : Blank front) (middle : Blank between)
  (parameters : IsList list)

include named before middle parameters

/-- The word `function` ends in front of a name or a list. -/
theorem function_stops :
    Stops (front ++ (name ++ (between ++ (list ++ (back ++ '\x7b' :: rest))))) := by
  have opens := Stops.gap middle (Stops.list parameters (back ++ '\x7b' :: rest))
  rcases named with rfl | ⟨-, some⟩
  · exact Stops.gap before opens
  · obtain ⟨c, front, rfl⟩ := List.exists_cons_of_ne_nil some
    rintro d ⟨⟩
    exact inRun_of_isBlank (before c List.mem_cons_self)

theorem beginsFunctionWord_function : beginsFunctionWord
    (functionWord ++ (front ++ (name ++ (between ++ (list ++ (back ++ '\x7b' :: rest)))))) =
      true := by
  refine beginsFunctionWord_iff.mpr
    ⟨_, rfl, startsWithWord_stops (function_stops named before middle parameters), ?_⟩
  obtain ⟨inside, -, rfl⟩ := parameters
  simp

/-- What follows the word `function` in a form of a function is no arrow. -/
theorem function_ne_bare {other gap behind : List Char} (run : ∀ c ∈ other, inRun c = true)
    (blank : Blank gap) :
    functionWord ++ (front ++ (name ++ (between ++ (list ++ (back ++ '\x7b' :: rest))))) ≠
      other ++ (gap ++ (arrow ++ behind)) := by
  intro same
  have word : ∀ c ∈ functionWord, inRun c = true := List.all_eq_true.mp (by decide)
  obtain ⟨-, arrows⟩ := run_unique word run (function_stops named before middle parameters)
    (.gap blank (.arrow behind)) same
  have shown := congrArg trimStart arrows
  rw [Text.trimStart_append before, Text.trimStart_append blank] at shown
  rcases named with rfl | ⟨named, -⟩
  · obtain ⟨inside, -, rfl⟩ := parameters
    rw [List.nil_append, Text.trimStart_append middle] at shown
    cases shown
  · obtain ⟨c, name, rfl⟩ := List.exists_cons_of_ne_nil named.ne_nil
    have inside := (run_of_isFreeName named) c List.mem_cons_self
    rw [List.cons_append, Text.trimStart_shown (by rintro d ⟨⟩; exact shown_of_inRun inside)]
      at shown
    cases (List.cons.inj shown).1
    cases inside

end Function

/-- Of paired parentheses the first one opens, so a list with parentheses in it is no list
without. -/
theorem nested_ne_flat {inside flat rest back : List Char} (paired : Paired '(' ')' inside)
    (deeper : '(' ∈ inside) (none : '(' ∉ flat) :
    inside ++ ')' :: rest ≠ flat ++ ')' :: back := by
  intro same
  rcases List.append_eq_append_iff.mp same with ⟨more, rfl, -⟩ | ⟨more, rfl, behind⟩
  · exact none (List.mem_append_left more deeper)
  · cases more with
    | nil =>
      rw [List.append_nil] at deeper
      exact none deeper
    | cons c more =>
      cases (List.cons.inj behind).1
      have counted := paired.within (flat ++ [')']) more (by simp)
      simp [List.count_eq_zero_of_not_mem none] at counted

theorem beginsFunction_iff : beginsFunction text = true ↔ beginsFunctionWord text = true ∨
    beginsParameterList text = true ∨ beginsBareParameter text = true := by
  simp [beginsFunction, or_assoc]

theorem beginsFunction_flat {inside gap rest : List Char} (none : '(' ∉ inside)
    (nor : ')' ∉ inside) (blank : Blank gap) :
    beginsFunction ('(' :: (inside ++ [')']) ++ (gap ++ (arrow ++ rest))) = true :=
  beginsFunction_iff.mpr
    (.inr (.inl (beginsParameterList_iff.mpr ⟨inside, gap, rest, none, nor, blank, rfl⟩)))

private theorem beginsFunction_bare {name gap rest : List Char} (bare : IsBareName name)
    (blank : Blank gap) : beginsFunction (name ++ (gap ++ (arrow ++ rest))) = true :=
  beginsFunction_iff.mpr
    (.inr (.inr (beginsBareParameter_iff.mpr ⟨name, gap, rest, bare, blank, rfl⟩)))

private theorem not_beginsFunction_nested {inside gap rest : List Char}
    (paired : Paired '(' ')' inside) (deeper : '(' ∈ inside) :
    ¬ beginsFunction ('(' :: (inside ++ [')']) ++ (gap ++ (arrow ++ rest))) = true := by
  rw [beginsFunction_iff]
  rintro (word | list | bare)
  · cases word
  · obtain ⟨flat, between, back, none, -, -, same⟩ := beginsParameterList_iff.mp list
    have behind : inside ++ ')' :: (gap ++ (arrow ++ rest)) =
        flat ++ ')' :: (between ++ (arrow ++ back)) := by
      simpa using same
    exact nested_ne_flat paired deeper none behind
  · cases bare

private theorem not_beginsFunction_foreign {name gap rest : List Char} (named : IsFreeName name)
    (unknown : ¬ IsBareName name) (blank : Blank gap)
    (other : beginsFunctionWord (name ++ (gap ++ (arrow ++ rest))) = false) :
    ¬ beginsFunction (name ++ (gap ++ (arrow ++ rest))) = true := by
  rw [beginsFunction_iff]
  rintro (word | list | bare)
  · cases word.symm.trans other
  · obtain ⟨flat, between, back, absent, nor, -, same⟩ := beginsParameterList_iff.mp list
    exact bare_ne_list named.ne_nil (run_of_isFreeName named) (isList_of_flat absent nor) same
  · obtain ⟨known, between, back, bare, middle, same⟩ := beginsBareParameter_iff.mp bare
    exact unknown (bare_unique (run_of_isFreeName named) blank bare.run middle same ▸ bare)

private theorem not_form_unnamed {name gap rest : List Char} (bare : IsBareName name)
    (none : ¬ IsFreeName name) (blank : Blank gap) : ¬ Form (name ++ (gap ++ (arrow ++ rest))) := by
  intro form
  generalize same : name ++ (gap ++ (arrow ++ rest)) = text at form
  cases form with
  | function named before middle parameters behind =>
    exact function_ne_bare named before middle parameters bare.run blank same.symm
  | arrow parameters _ => exact bare_ne_list bare.ne_nil bare.run parameters same
  | bare named between =>
    have one := bare_unique bare.run blank (run_of_isFreeName named) between same
    exact none (one ▸ named)

/-- A text is misread exactly if it is taken for a function and has none of the forms, or has one
and is not taken for a function. -/
theorem misreadForm_iff : MisreadForm text ↔
    (beginsFunction text = true ∧ ¬ Form text) ∨ (Form text ∧ ¬ beginsFunction text = true) := by
  constructor
  · rintro (⟨word, none⟩ | ⟨paired, deeper, blank⟩ | ⟨named, unknown, blank, other⟩ |
      ⟨bare, none, blank⟩)
    · exact .inl ⟨beginsFunction_iff.mpr (.inl word), none⟩
    · exact .inr ⟨.arrow ⟨_, paired, rfl⟩ blank, not_beginsFunction_nested paired deeper⟩
    · exact .inr ⟨.bare named blank, not_beginsFunction_foreign named unknown blank other⟩
    · exact .inl ⟨beginsFunction_bare bare blank, not_form_unnamed bare none blank⟩
  · rintro (⟨begins, none⟩ | ⟨form, not⟩)
    · rcases beginsFunction_iff.mp begins with word | list | single
      · exact .prose word none
      · obtain ⟨inside, gap, rest, absent, nor, blank, rfl⟩ := beginsParameterList_iff.mp list
        exact absurd (.arrow (isList_of_flat absent nor) blank) none
      · obtain ⟨name, gap, rest, bare, blank, rfl⟩ := beginsBareParameter_iff.mp single
        exact .unnamed bare (fun named => none (.bare named blank)) blank
    · cases form with
      | function named before middle parameters behind =>
        refine absurd (beginsFunction_iff.mpr (.inl ?_)) not
        exact beginsFunctionWord_function named before middle parameters
      | arrow parameters blank =>
        obtain ⟨inside, paired, rfl⟩ := parameters
        by_cases deeper : '(' ∈ inside
        · exact .nested paired deeper blank
        · exact absurd (beginsFunction_flat deeper (paired.not_mem deeper) blank) not
      | @bare name gap rest named blank =>
        by_cases bare : IsBareName name
        · exact absurd (beginsFunction_bare bare blank) not
        · refine .foreign named bare blank (Bool.eq_false_iff.mpr fun word => not ?_)
          exact beginsFunction_iff.mpr (.inl word)

end Forms

section Beginnings

variable {text form other : List Char}

/-- A text that is taken for a function, or has one of its forms. -/
def Candidate (form : List Char) : Prop :=
  beginsFunction form = true ∨ Form form

theorem Candidate.cases (candidate : Candidate form) :
    (∃ rest, form = functionWord ++ rest) ∨ (∃ rest, form = '(' :: rest) ∨
      ∃ name gap rest, name ≠ [] ∧ (∀ c ∈ name, inRun c = true) ∧ Blank gap ∧
        form = name ++ (gap ++ (arrow ++ rest)) := by
  rcases candidate with begins | form
  · rcases beginsFunction_iff.mp begins with word | list | single
    · obtain ⟨rest, whole, -⟩ := beginsFunctionWord_iff.mp word
      exact .inl ⟨rest, whole⟩
    · obtain ⟨inside, gap, rest, -, -, -, whole⟩ := beginsParameterList_iff.mp list
      exact .inr (.inl ⟨_, whole⟩)
    · obtain ⟨name, gap, rest, bare, blank, whole⟩ := beginsBareParameter_iff.mp single
      exact .inr (.inr ⟨name, gap, rest, bare.ne_nil, bare.run, blank, whole⟩)
  · cases form with
    | function => exact .inl ⟨_, rfl⟩
    | arrow parameters _ =>
      obtain ⟨inside, -, rfl⟩ := parameters
      exact .inr (.inl ⟨_, rfl⟩)
    | bare named blank =>
      exact .inr (.inr ⟨_, _, _, named.ne_nil, run_of_isFreeName named, blank, rfl⟩)

theorem Candidate.head (candidate : Candidate form) :
    ∃ c rest, form = c :: rest ∧ isBlank c = false ∧ c ≠ '=' := by
  rcases candidate.cases with ⟨rest, rfl⟩ | ⟨rest, rfl⟩ | ⟨name, gap, rest, some, run, -, rfl⟩
  · exact ⟨_, _, rfl, by decide, by decide⟩
  · exact ⟨_, _, rfl, by decide, by decide⟩
  · obtain ⟨c, name, rfl⟩ := List.exists_cons_of_ne_nil some
    have inside := run c List.mem_cons_self
    refine ⟨c, _, rfl, shown_of_inRun inside, ?_⟩
    rintro rfl
    cases inside

theorem Candidate.trimStart (candidate : Candidate form) : trimStart form = form := by
  obtain ⟨c, rest, rfl, shown, -⟩ := candidate.head
  exact Text.trimStart_shown (by rintro d ⟨⟩; exact shown)

/-- The word `async` with blanks behind it is a candidate only as a parameter, with an arrow next,
and no candidate begins with an arrow. -/
theorem not_candidate_async {gap : List Char} (blank : Blank gap) (some : gap ≠ [])
    (candidate : Candidate form) : ¬ Candidate (asyncWord ++ (gap ++ form)) := by
  intro outer
  obtain ⟨c, rest, rfl, shown, apart⟩ := candidate.head
  have word : ∀ c ∈ asyncWord, inRun c = true := List.all_eq_true.mp (by decide)
  have stops : Stops (gap ++ c :: rest) := by
    obtain ⟨d, gap, rfl⟩ := List.exists_cons_of_ne_nil some
    rintro e ⟨⟩
    exact inRun_of_isBlank (blank d List.mem_cons_self)
  rcases outer.cases with ⟨_, same⟩ | ⟨_, same⟩ | ⟨name, between, back, -, run, middle, same⟩
  · cases (List.cons.inj same).1
  · cases (List.cons.inj same).1
  · obtain ⟨-, arrows⟩ := run_unique word run stops (.gap middle (.arrow back)) same
    have first := congrArg Text.trimStart arrows
    rw [Text.trimStart_append blank, Text.trimStart_append middle,
      Text.trimStart_shown (by rintro d ⟨⟩; exact shown)] at first
    exact apart (List.cons.inj first).1

private theorem not_candidate_tight {list rest : List Char} (parameters : IsList list) :
    ¬ Candidate (asyncWord ++ (list ++ rest)) := by
  intro candidate
  have word : ∀ c ∈ asyncWord, inRun c = true := List.all_eq_true.mp (by decide)
  rcases candidate.cases with ⟨_, same⟩ | ⟨_, same⟩ | ⟨name, between, back, -, run, middle, same⟩
  · cases (List.cons.inj same).1
  · cases (List.cons.inj same).1
  · obtain ⟨-, arrows⟩ := run_unique word run (.list parameters rest)
      (.gap middle (.arrow back)) same
    obtain ⟨inside, -, rfl⟩ := parameters
    have first := congrArg Text.trimStart arrows
    rw [Text.trimStart_append middle] at first
    cases first

/-- Where a text has a candidate behind its blanks and `async`, it has no other. -/
theorem Behind.unique (here : Behind form text) (there : Behind other text)
    (one : Candidate form) (two : Candidate other) : form = other := by
  have async : ∀ gap rest : List Char,
      Text.trimStart (asyncWord ++ (gap ++ rest)) = asyncWord ++ (gap ++ rest) := fun _ _ => rfl
  generalize same : text = whole at there
  cases here with
  | plain blank =>
    cases there with
    | plain before =>
      have shown := congrArg Text.trimStart same
      rwa [Text.trimStart_append blank, Text.trimStart_append before, one.trimStart,
        two.trimStart] at shown
    | async before between some =>
      have shown := congrArg Text.trimStart same
      rw [Text.trimStart_append blank, Text.trimStart_append before, one.trimStart, async] at shown
      exact absurd (shown ▸ one) (not_candidate_async between some two)
  | async blank between some =>
    cases there with
    | plain before =>
      have shown := congrArg Text.trimStart same
      rw [Text.trimStart_append blank, Text.trimStart_append before, two.trimStart, async] at shown
      exact absurd (shown ▸ two) (not_candidate_async between some one)
    | async before middle _ =>
      have shown := congrArg Text.trimStart same
      rw [Text.trimStart_append blank, Text.trimStart_append before, async, async] at shown
      have forms := congrArg Text.trimStart (List.append_cancel_left shown)
      rwa [Text.trimStart_append between, Text.trimStart_append middle, one.trimStart,
        two.trimStart] at forms

theorem Tight.not_candidate (tight : Tight text) (behind : Behind form text) :
    ¬ Candidate form := by
  intro candidate
  have async : ∀ rest : List Char,
      Text.trimStart (asyncWord ++ rest) = asyncWord ++ rest := fun _ => rfl
  cases tight with
  | @intro front list gap rest before parameters middle =>
    generalize same : front ++ (asyncWord ++ (list ++ (gap ++ (arrow ++ rest)))) = whole at behind
    have shown := congrArg Text.trimStart same
    cases behind with
    | plain blank =>
      rw [Text.trimStart_append before, Text.trimStart_append blank, candidate.trimStart, async]
        at shown
      exact not_candidate_tight parameters (shown ▸ candidate)
    | async blank between some =>
      rw [Text.trimStart_append before, Text.trimStart_append blank, async, async] at shown
      obtain ⟨inside, -, rfl⟩ := parameters
      obtain ⟨c, gap, rfl⟩ := List.exists_cons_of_ne_nil some
      have first := between c List.mem_cons_self
      cases (List.cons.inj (List.append_cancel_left shown)).1
      cases first

private theorem afterAsync?_eq_some {rest : List Char} : afterAsync? text = some rest ↔
    ∃ gap, gap ≠ [] ∧ Blank gap ∧ text = asyncWord ++ (gap ++ rest) ∧ trimStart rest = rest := by
  constructor
  · intro found
    unfold afterAsync? at found
    split at found
    · rename_i c behind async
      split at found
      · rename_i blank
        cases found
        obtain ⟨gap, blanks, split⟩ := Text.exists_trimStart behind
        refine ⟨c :: gap, List.cons_ne_nil c gap, List.forall_mem_cons.mpr ⟨blank, blanks⟩, ?_,
          Text.trimStart_trimStart behind⟩
        have whole := Directive.afterPrefix?_eq_some.mp async
        rw [split] at whole
        exact whole
      · cases found
    · cases found
  · rintro ⟨gap, some, blank, rfl, shown⟩
    obtain ⟨c, gap, rfl⟩ := List.exists_cons_of_ne_nil some
    obtain ⟨first, blanks⟩ := List.forall_mem_cons.mp blank
    have async : Text.afterPrefix? ['a', 's', 'y', 'n', 'c'] (asyncWord ++ (c :: gap ++ rest)) =
        Option.some (c :: (gap ++ rest)) :=
      Directive.afterPrefix?_eq_some.mpr rfl
    unfold afterAsync?
    rw [async]
    simp [first, Text.trimStart_append blanks, shown]

/-- A text is taken for a function by what stands behind its blanks and `async`. -/
theorem looksLikeFunction_iff : looksLikeFunction text = true ↔
    ∃ form, Behind form text ∧ beginsFunction form = true := by
  unfold looksLikeFunction
  simp only [Bool.or_eq_true, Option.any_eq_true]
  constructor
  · obtain ⟨front, blank, whole⟩ := Text.exists_trimStart text
    generalize trimStart text = shown at whole ⊢
    subst whole
    rintro (begins | ⟨form, found, begins⟩)
    · exact ⟨shown, .plain blank, begins⟩
    · obtain ⟨gap, some, between, rfl, -⟩ := afterAsync?_eq_some.mp found
      exact ⟨form, .async blank between some, begins⟩
  · rintro ⟨form, behind, begins⟩
    have shown : trimStart form = form := Candidate.trimStart (.inl begins)
    cases behind with
    | plain blank =>
      rw [Text.trimStart_append blank, shown]
      exact .inl begins
    | @async front gap blank between some =>
      rw [Text.trimStart_append blank]
      exact .inr ⟨form, afterAsync?_eq_some.mpr ⟨gap, some, between, rfl, shown⟩, begins⟩

/-- What follows `async` without a blank goes on in the word, unless it is a list. -/
theorem Form.tight {front : List Char} (form : Form text) (ends : startsWithName text = false)
    (blank : Blank front) : Tight (front ++ (asyncWord ++ text)) := by
  cases form with
  | function => cases ends
  | arrow parameters between => exact .intro blank parameters between
  | bare named _ =>
    obtain ⟨c, name, rfl⟩ := List.exists_cons_of_ne_nil named.ne_nil
    cases (named.parts c List.mem_cons_self).symm.trans ends

private theorem hasFunctionForm_iff : HasFunctionForm text ↔
    (∃ form, Behind form text ∧ Form form) ∨ Tight text := by
  constructor
  · intro has
    cases has with
    | plain blank form => exact .inl ⟨_, .plain blank, form⟩
    | @async front gap form blank between ends begins =>
      by_cases some : gap = []
      · subst some
        exact .inr (begins.tight ends blank)
      · exact .inl ⟨form, .async blank between some, begins⟩
  · rintro (⟨form, behind, begins⟩ | tight)
    · cases behind with
      | plain blank => exact .plain blank begins
      | async blank between some =>
        refine .async blank between ?_ begins
        obtain ⟨c, gap, rfl⟩ := List.exists_cons_of_ne_nil some
        exact (Script.gap_outside (Script.gap_of_blank (between c List.mem_cons_self))).1
    · cases tight with
      | @intro front list gap rest blank parameters between =>
        refine @HasFunctionForm.async front [] (list ++ (gap ++ (arrow ++ rest))) blank nofun ?_
          (.arrow parameters between)
        obtain ⟨inside, -, rfl⟩ := parameters
        exact (by decide +kernel : isNamePart '(' = false)

private theorem Form.marked (form : Form text) : '\x7b' ∈ text ∨ '=' ∈ text := by
  cases form with
  | function => exact .inl (by simp)
  | arrow => exact .inr (by simp [Value.arrow])
  | bare => exact .inr (by simp [Value.arrow])

/-- No text has one of the forms without a brace or an arrow. -/
theorem HasFunctionForm.marked (has : HasFunctionForm text) : '\x7b' ∈ text ∨ '=' ∈ text := by
  cases has with
  | plain _ form => exact form.marked.imp (List.mem_append_right _) (List.mem_append_right _)
  | async _ _ _ form =>
    have behind := form.marked
    simp only [List.mem_append]
    exact behind.imp (fun brace => .inr (.inr (.inr brace))) fun arrow => .inr (.inr (.inr arrow))

/-- A text is told right exactly if it is not misread. -/
theorem looksLikeFunction_iff_form :
    (looksLikeFunction text = true ↔ HasFunctionForm text) ↔ ¬ Misread text := by
  rw [looksLikeFunction_iff, hasFunctionForm_iff]
  constructor
  · rintro told (⟨form, behind, misread⟩ | tight)
    · rcases misreadForm_iff.mp misread with ⟨begins, none⟩ | ⟨has, not⟩
      · rcases told.mp ⟨form, behind, begins⟩ with ⟨other, there, has⟩ | tight
        · exact none (behind.unique there (.inl begins) (.inr has) ▸ has)
        · exact tight.not_candidate behind (.inl begins)
      · obtain ⟨other, there, begins⟩ := told.mpr (.inl ⟨form, behind, has⟩)
        exact not (behind.unique there (.inr has) (.inl begins) ▸ begins)
    · obtain ⟨form, behind, begins⟩ := told.mpr (.inr tight)
      exact tight.not_candidate behind (.inl begins)
  · intro told
    constructor
    · rintro ⟨form, behind, begins⟩
      refine .inl ⟨form, behind, by_contra fun none => told (.inl ⟨form, behind, ?_⟩)⟩
      exact misreadForm_iff.mpr (.inl ⟨begins, none⟩)
    · rintro (⟨form, behind, has⟩ | tight)
      · refine ⟨form, behind, by_contra fun not => told (.inl ⟨form, behind, ?_⟩)⟩
        exact misreadForm_iff.mpr (.inr ⟨has, not⟩)
      · exact absurd (.inr tight) told

end Beginnings

theorem ofJson_string {text : String} (whole : expressionBody? text.toList = none) :
    ValueClass.ofJson (.string text) =
      if looksLikeFunction text.toList then .function text else .literal text := by
  have untagged : ∀ tag, (Json.string text).tagged? tag = none := fun _ => rfl
  unfold ValueClass.ofJson
  rw [untagged, untagged]
  simp only [ValueClass.ofString, whole]

/-- A text that is no template is a function or a literal. It is a function exactly if it has one of
the forms in which functions begin, unless it is misread: as prose behind the word `function`, for
parentheses among the parameters of an arrow function, for `async` right in front of them, or for
the characters of a name. -/
theorem function_iff_form {text : String} (whole : expressionBody? text.toList = none) :
    (ValueClass.ofJson (.string text) = .function text ∨
      ValueClass.ofJson (.string text) = .literal text) ∧
    ((ValueClass.ofJson (.string text) = .function text ↔ HasFunctionForm text.toList) ↔
      ¬ Misread text.toList) := by
  rw [ofJson_string whole, ← looksLikeFunction_iff_form]
  cases looksLikeFunction text.toList with
  | true => exact ⟨.inl rfl, by simp⟩
  | false => exact ⟨.inr rfl, by simp⟩

/-- A parameter with a dollar sign, and then an arrow. -/
theorem function_iff_form_bare :
    let text := " async $row => row.id"
    expressionBody? text.toList = none ∧ ValueClass.ofJson (.string text) = .function text ∧
      HasFunctionForm text.toList ∧ ¬ Misread text.toList := by
  intro text
  have whole : expressionBody? text.toList = none := by decide +kernel
  have parts : text.toList =
      [' '] ++ (asyncWord ++ ([' '] ++
        (['$', 'r', 'o', 'w'] ++ ([' '] ++ (arrow ++ " row.id".toList))))) := by
    decide +kernel
  have named : IsFreeName ['$', 'r', 'o', 'w'] :=
    ⟨by decide +kernel, List.all_eq_true.mp (by decide +kernel), by decide +kernel⟩
  have form : HasFunctionForm text.toList := by
    rw [parts]
    exact .async (by decide) (by decide) (by decide +kernel) (.bare named (by decide))
  have classed : ValueClass.ofJson (.string text) = .function text := by
    rw [ofJson_string whole, if_pos (by decide +kernel)]
  exact ⟨whole, classed, form, (function_iff_form whole).2.mp (iff_of_true classed form)⟩

/-- An arrow function with a call among its parameters is taken for a literal text, and a sentence
that begins with the word `function` for a function. -/
theorem function_forms_misread :
    let nested := "(a, b = f(1)) => a + b"
    let prose := "function keys (see below)"
    (expressionBody? nested.toList = none ∧ HasFunctionForm nested.toList ∧
      ValueClass.ofJson (.string nested) = .literal nested) ∧
    expressionBody? prose.toList = none ∧ ¬ HasFunctionForm prose.toList ∧
      ValueClass.ofJson (.string prose) = .function prose := by
  intro nested prose
  have parts : nested.toList =
      [] ++ ("(a, b = f(1))".toList ++ ([' '] ++ (arrow ++ " a + b".toList))) := by
    decide +kernel
  have form : HasFunctionForm nested.toList := by
    rw [parts]
    exact .plain nofun (.arrow ⟨"a, b = f(1)".toList, by decide +kernel, rfl⟩ (by decide))
  have formless : ¬ HasFunctionForm prose.toList := fun has =>
    absurd has.marked (by decide +kernel)
  have untemplated : ∀ text ∈ [nested, prose], expressionBody? text.toList = none := by
    decide +kernel
  have literal : ValueClass.ofJson (.string nested) = .literal nested := by
    rw [ofJson_string (untemplated nested (by simp)), if_neg (by decide +kernel)]
  have function : ValueClass.ofJson (.string prose) = .function prose := by
    rw [ofJson_string (untemplated prose (by simp)), if_pos (by decide +kernel)]
  exact ⟨⟨untemplated nested (by simp), form, literal⟩, untemplated prose (by simp), formless,
    function⟩

end PanelCompiler.Value
