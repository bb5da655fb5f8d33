import PanelCompiler.Proofs.Text.Avoid

/-!
Texts with balanced delimiters. The bracket word of a text is what is left of it when all other
characters are ignored; the text is balanced if every bracket of that word is closed by its partner,
and inside the brackets around it.
-/

namespace PanelCompiler

namespace Text

def brackets : List Char :=
  ['(', ')', '[', ']', '\x7b', '\x7d']

/-- The partner of an opening bracket. -/
def closing? : Char → Option Char
  | '(' => some ')'
  | '[' => some ']'
  | '\x7b' => some '\x7d'
  | _ => none

/-- The words of brackets that are properly nested. -/
inductive Nested : List Char → Prop
  | nil : Nested []
  | append {first rest : List Char} (head : Nested first) (tail : Nested rest) :
    Nested (first ++ rest)
  | enclose {opening closing : Char} {inside : List Char}
    (partners : closing? opening = some closing) (nested : Nested inside) :
    Nested (opening :: inside ++ [closing])

theorem Nested.parentheses {inside : List Char} (nested : Nested inside) :
    Nested ('(' :: inside ++ [')']) :=
  .enclose rfl nested

theorem Nested.braces {inside : List Char} (nested : Nested inside) :
    Nested ('\x7b' :: inside ++ ['\x7d']) :=
  .enclose rfl nested

private theorem closing?_closing {opening closing : Char}
    (partners : closing? opening = some closing) : closing? closing = none := by
  unfold closing? at partners
  split at partners <;> cases partners <;> rfl

section Reading

/-- Read a word with the closing brackets that are still due, the next one first. -/
def readsNested (due : List Char) : List Char → Bool
  | [] => due.isEmpty
  | c :: rest =>
    match closing? c with
    | some closing => readsNested (closing :: due) rest
    | none =>
      match due with
      | expected :: outer => expected == c && readsNested outer rest
      | [] => false

/-- A nested word leaves what is due as it was. -/
theorem Nested.reads {word : List Char} (nested : Nested word) (due rest : List Char) :
    readsNested due (word ++ rest) = readsNested due rest := by
  induction nested generalizing due rest with
  | nil => rfl
  | append _ _ head tail => rw [List.append_assoc, head, tail]
  | @enclose opening closing inside partners _ ih =>
    have inner := ih (closing :: due) (closing :: rest)
    simp only [List.cons_append, List.append_assoc, List.nil_append, readsNested, partners]
    rw [inner]
    simp [readsNested, closing?_closing partners]

/-- A word that pays what is due: nested words, each before one of the brackets due, and one behind
them. -/
inductive Pays : List Char → List Char → Prop
  | last {word : List Char} (nested : Nested word) : Pays [] word
  | next {expected : Char} {outer inside rest : List Char} (nested : Nested inside)
    (pays : Pays outer rest) : Pays (expected :: outer) (inside ++ expected :: rest)

private theorem Pays.prepend {due word first : List Char} (nested : Nested first)
    (pays : Pays due word) : Pays due (first ++ word) := by
  cases pays with
  | last rest => exact .last (nested.append rest)
  | next inside rest =>
    rw [← List.append_assoc]
    exact .next (nested.append inside) rest

private theorem pays_of_reads {due word : List Char} (reads : readsNested due word = true) :
    Pays due word := by
  induction word generalizing due with
  | nil =>
    cases List.isEmpty_iff.mp reads
    exact .last .nil
  | cons c rest ih =>
    unfold readsNested at reads
    split at reads
    · rename_i closing partners
      -- What stands before the partner of this bracket is enclosed by the two.
      cases ih reads with
      | @next _ _ inside behind nested pays =>
        have enclosed := pays.prepend (nested.enclose partners)
        simpa using enclosed
    · split at reads
      · rename_i expected outer
        obtain ⟨same, behind⟩ := Bool.and_eq_true_iff.mp reads
        cases beq_iff_eq.mp same
        exact .next .nil (ih behind)
      · cases reads

theorem nested_iff_reads {word : List Char} : Nested word ↔ readsNested [] word = true := by
  constructor
  · intro nested
    have read := nested.reads [] []
    rw [List.append_nil] at read
    exact read
  · intro reads
    cases pays_of_reads reads with
    | last nested => exact nested

instance (word : List Char) : Decidable (Nested word) :=
  decidable_of_iff _ nested_iff_reads.symm

end Reading

def bracketWord (text : List Char) : List Char :=
  text.filter (brackets.contains ·)

theorem bracketWord_append (first rest : List Char) :
    bracketWord (first ++ rest) = bracketWord first ++ bracketWord rest :=
  List.filter_append ..

theorem bracketWord_avoids {text : List Char} (avoids : Avoids brackets text) :
    bracketWord text = [] := by
  unfold bracketWord
  rw [List.filter_eq_nil_iff]
  intro c member marked
  exact avoids c member (List.contains_iff_mem.mp marked)

end Text

open Text (Avoids Nested brackets bracketWord)

def Balanced (text : String) : Prop :=
  Nested (bracketWord text.toList)

instance (text : String) : Decidable (Balanced text) :=
  inferInstanceAs (Decidable (Nested _))

theorem Balanced.of_word {text : String} {word : List Char} (nested : Nested word)
    (same : bracketWord text.toList = word) : Balanced text := by
  unfold Balanced
  rwa [same]

theorem Balanced.of_avoids {text : String} (avoids : Avoids brackets text.toList) :
    Balanced text :=
  .of_word .nil (Text.bracketWord_avoids avoids)

theorem Balanced.append {first rest : String} (head : Balanced first) (tail : Balanced rest) :
    Balanced (first ++ rest) := by
  refine .of_word (Nested.append head tail) ?_
  rw [String.toList_append, Text.bracketWord_append]

end PanelCompiler
