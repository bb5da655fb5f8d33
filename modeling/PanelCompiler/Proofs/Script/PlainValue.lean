import Mathlib.Data.List.TakeDrop
import PanelCompiler.Proofs.Script.Levels

namespace PanelCompiler.Script

open Lexer (nextToken scanDigits scanReal scanNumber scanString scanToken)

/-- A text in which no token goes on. -/
def EndsToken (text : List Char) : Prop :=
  ∀ c ∈ text.head?, isNamePart c = false ∧ c ≠ '\\' ∧ c ≠ '.'

theorem EndsToken.word {text : List Char} (ends : EndsToken text) : EndsWord text :=
  fun c member => ⟨(ends c member).1, (ends c member).2.1⟩

theorem endsToken_cons {c : Char} {rest : List Char}
    (ends : isNamePart c = false ∧ c ≠ '\\' ∧ c ≠ '.') : EndsToken (c :: rest) := by
  rintro _ ⟨⟩
  exact ends

theorem IsTrivia.endsToken {gap rest : List Char} {broken : Bool} (trivia : IsTrivia gap broken)
    (ends : EndsToken rest) : EndsToken (gap ++ rest) := by
  have blank : ∀ c, isGap c = true → isNamePart c = false ∧ c ≠ '\\' ∧ c ≠ '.' := by
    intro c gap
    refine ⟨(gap_outside gap).1, ?_, ?_⟩ <;>
    · rintro rfl
      exact absurd gap (by decide)
  cases trivia with
  | nil => exact ends
  | spacing _ space _ => exact endsToken_cons (blank _ (Bool.or_eq_true_iff.mpr (.inr space)))
  | lineBreak broken _ => exact endsToken_cons (blank _ (Bool.or_eq_true_iff.mpr (.inl broken)))
  | lineComment | blockComment => exact endsToken_cons (by decide)

section Numbers

variable {digits rest : List Char}

theorem isNamePart_of_isDecimal {c : Char} (decimal : isDecimal c = true) :
    isNamePart c = true := by
  have ascii : c.toNat < 128 := by
    simp only [isDecimal, Bool.and_eq_true, decide_eq_true_eq, Char.le_def,
      UInt32.le_iff_toNat_le] at decimal
    exact Nat.lt_of_le_of_lt decimal.2 (by decide)
  simp [isNamePart, ascii, decimal]

private theorem scanReal_end (ends : EndsToken rest) :
    scanReal digits rest = some (digits, rest) := by
  cases rest with
  | nil => rfl
  | cons c rest =>
    obtain ⟨part, escape, point⟩ := ends c rfl
    have apart : ∀ d, isNamePart d = true → c ≠ d := by
      rintro d name rfl
      rw [part] at name
      cases name
    have fraction : Lexer.scanFraction (c :: rest) = some ([], c :: rest) := by
      simp [Lexer.scanFraction, point]
    have exponent : Lexer.scanExponent (c :: rest) = some ([], c :: rest) := by
      simp [Lexer.scanExponent, apart 'e' (by decide), apart 'E' (by decide)]
    have integer : Lexer.endInteger digits (c :: rest) = some (digits, c :: rest) := by
      simp [Lexer.endInteger, Lexer.endNumber, apart 'n' (by decide), part, escape]
    simp [scanReal, fraction, exponent, integer]

/-- The digits of a whole number, without a zero in front. -/
structure IsWhole (digits : List Char) : Prop where
  filled : digits ≠ []
  decimal : ∀ c ∈ digits, isDecimal c = true
  leading : digits.head? = some '0' → digits = ['0']

private theorem separated_of_decimal (decimal : ∀ c ∈ digits, isDecimal c = true) :
    Lexer.separated digits = true := by
  fun_induction Lexer.separated digits with
  | case1 | case3 => rfl
  | case2 => exact absurd (decimal '_' List.mem_cons_self) (by decide)
  | case4 =>
    exact absurd (decimal '_' (List.mem_cons_of_mem _ List.mem_cons_self)) (by decide)
  | case5 c rest _ _ _ ih => exact ih (List.forall_mem_cons.mp decimal).2

private theorem scanDigits_decimal (filled : digits ≠ [])
    (decimal : ∀ c ∈ digits, isDecimal c = true)
    (ends : EndsToken rest) : scanDigits isDecimal (digits ++ rest) = some (digits, rest) := by
  have inside : ∀ c ∈ digits, (isDecimal c || c == '_') = true := fun c member =>
    Bool.or_eq_true_iff.mpr (.inl (decimal c member))
  have behind : ∀ c ∈ rest.head?, ¬ (isDecimal c || c == '_') = true := by
    intro c member digit
    have outside := (ends c member).1
    rcases Bool.or_eq_true_iff.mp digit with digit | underscore
    · rw [isNamePart_of_isDecimal digit] at outside
      cases outside
    · rw [beq_iff_eq.mp underscore] at outside
      exact absurd outside (by decide)
  have none : rest.takeWhile (fun c => isDecimal c || c == '_') = [] ∧
      rest.dropWhile (fun c => isDecimal c || c == '_') = rest := by
    cases rest with
    | nil => exact ⟨rfl, rfl⟩
    | cons c rest =>
      have apart := behind c rfl
      exact ⟨List.takeWhile_cons_of_neg apart, List.dropWhile_cons_of_neg apart⟩
  have span : (digits ++ rest).span (fun c => isDecimal c || c == '_') = (digits, rest) := by
    rw [List.span_eq_takeWhile_dropWhile, List.takeWhile_append_of_pos inside,
      List.dropWhile_append_of_pos inside, none.1, none.2, List.append_nil]
  have some : digits.isEmpty = false := List.isEmpty_eq_false_iff.mpr filled
  simp only [scanDigits, span, some, separated_of_decimal decimal]
  rfl

private theorem scanNumber_whole (whole : IsWhole digits) (ends : EndsToken rest) :
    scanNumber (digits ++ rest) = some (digits, rest) := by
  have scanned : (scanDigits isDecimal (digits ++ rest)).bind
      (fun found => scanReal found.1 found.2) = some (digits, rest) := by
    rw [scanDigits_decimal whole.filled whole.decimal ends]
    exact scanReal_end ends
  obtain ⟨filled, decimal, leading⟩ := whole
  unfold scanNumber
  split
  case h_1 same =>
    obtain ⟨first, digits, rfl⟩ := List.exists_cons_of_ne_nil filled
    cases same
    exact absurd (decimal '.' List.mem_cons_self) (by decide)
  case h_2 letter others same =>
    obtain ⟨first, digits, rfl⟩ := List.exists_cons_of_ne_nil filled
    obtain ⟨rfl, behind⟩ := List.cons.inj same
    obtain rfl : digits = [] := by simpa using leading rfl
    obtain rfl : rest = letter :: others := behind
    obtain ⟨part, -, -⟩ := ends letter rfl
    have apart : ∀ d, isNamePart d = true → letter ≠ d := by
      rintro d name rfl
      rw [part] at name
      cases name
    have radix : Lexer.radixDigits? letter = none := by
      simp [Lexer.radixDigits?, apart 'x' (by decide), apart 'X' (by decide),
        apart 'o' (by decide), apart 'O' (by decide), apart 'b' (by decide),
        apart 'B' (by decide)]
    have digit : isDecimal letter = false := by
      cases found : isDecimal letter with
      | false => rfl
      | true => exact absurd rfl (apart letter (isNamePart_of_isDecimal found))
    simp only [radix, digit, apart '_' (by decide), beq_iff_eq, if_false, Bool.false_eq_true]
    exact scanReal_end ends
  case h_3 => exact scanned

end Numbers

section Strings

variable {quote : Char} {body rest reversed : List Char} {fuel : Nat}

/-- The inside of a string on one line, with no quote of its own and no escape. -/
def IsPlainText (quote : Char) (body : List Char) : Prop :=
  ∀ c ∈ body, c ≠ quote ∧ c ≠ '\\' ∧ c ≠ '\n' ∧ c ≠ '\r'

private theorem scanString_plain (plain : IsPlainText quote body) (enough : body.length < fuel) :
    scanString quote fuel reversed (body ++ quote :: rest) =
      some (reversed.reverse ++ body, rest) := by
  induction body generalizing reversed fuel with
  | nil =>
    obtain ⟨fuel, rfl⟩ := Nat.exists_eq_succ_of_ne_zero (Nat.ne_of_gt enough)
    simp [scanString]
  | cons c body ih =>
    obtain ⟨⟨apart, escape, feed, break'⟩, others⟩ := List.forall_mem_cons.mp plain
    obtain ⟨fuel, rfl⟩ := Nat.exists_eq_succ_of_ne_zero (Nat.ne_zero_of_lt enough)
    simp only [List.cons_append, scanString, apart, escape, feed, break', beq_iff_eq, if_false,
      Bool.or_eq_true, or_self, ih others (Nat.lt_of_succ_lt_succ enough)]
    simp

end Strings

/-- A value of one token, or an empty array or object. -/
inductive IsPlainValue : List Char → Prop
  | name {name : List Char} (free : IsFreeName name)
    (apart : String.ofList name ∉ ["async", "await", "yield"]) : IsPlainValue name
  | constant {word : String} (constant : word ∈ ["this", "null", "true", "false"]) :
    IsPlainValue word.toList
  | number {digits : List Char} (whole : IsWhole digits) : IsPlainValue digits
  | string {quote : Char} {body : List Char} (quoted : quote = '"' ∨ quote = '\'')
    (plain : IsPlainText quote body) : IsPlainValue (quote :: (body ++ [quote]))
  | emptyArray {gap : List Char} {broken : Bool} (trivia : IsTrivia gap broken) :
    IsPlainValue ('[' :: (gap ++ [']']))
  | emptyObject {gap : List Char} {broken : Bool} (trivia : IsTrivia gap broken) :
    IsPlainValue ('\x7b' :: (gap ++ ['\x7d']))

def Token.ofNumber (digits rest : List Char) (broken : Bool) : Token :=
  { kind := .number, text := String.ofList digits, start := digits ++ rest, rest := rest,
    afterBreak := broken, escaped := false }

def Token.ofString (quote : Char) (body rest : List Char) (broken : Bool) : Token :=
  { kind := .string, text := String.ofList body, start := quote :: (body ++ quote :: rest),
    rest := rest, afterBreak := broken, escaped := false }

section Tokens

variable {gap rest : List Char} {broken : Bool} (trivia : IsTrivia gap broken)
include trivia

theorem nextToken_number {digits : List Char} (whole : IsWhole digits) (ends : EndsToken rest) :
    nextToken (gap ++ (digits ++ rest)) = Token.ofNumber digits rest broken := by
  have scanned := scanNumber_whole whole ends
  obtain ⟨filled, decimal, -⟩ := whole
  match digits, filled with
  | c :: digits, _ =>
    have digit := decimal c List.mem_cons_self
    have letter : isNameStart c = false := by
      cases found : isNameStart c with
      | false => rfl
      | true => rw [isDecimal_of_isNameStart found] at digit; cases digit
    have escape : c ≠ '\\' := ne_escape (isNamePart_of_isDecimal digit)
    have token : scanToken (c :: (digits ++ rest)) =
        (.number, String.ofList (c :: digits), false, rest) := by
      unfold scanToken
      simp only [letter, digit, escape, beq_iff_eq, Bool.false_or, Bool.true_or, if_false, if_true]
      rw [← List.cons_append, scanned]
    rw [List.cons_append, nextToken_trivia trivia (isShown_of_isNamePart
      (isNamePart_of_isDecimal digit)), Token.atStart, token]
    rfl

theorem nextToken_string {quote : Char} {body : List Char}
    (quoted : quote = '"' ∨ quote = '\'') (plain : IsPlainText quote body) :
    nextToken (gap ++ (quote :: (body ++ [quote]) ++ rest)) =
      Token.ofString quote body rest broken := by
  have whole : quote :: (body ++ [quote]) ++ rest = quote :: (body ++ quote :: rest) := by simp
  have scanned : scanString quote ((quote :: (body ++ quote :: rest)).length + 1) []
      (body ++ quote :: rest) = some (body, rest) := by
    rw [scanString_plain plain (by simp; omega)]
    rfl
  have shown : isShown quote = true := by
    rcases quoted with rfl | rfl <;> decide
  have token : scanToken (quote :: (body ++ quote :: rest)) =
      (.string, String.ofList body, false, rest) := by
    unfold scanToken
    rcases quoted with rfl | rfl
    all_goals
      simp only [scanned]
      rfl
  rw [whole, nextToken_trivia trivia shown, Token.atStart, token]
  rfl

end Tokens

namespace Parser

variable {mode : Mode} {start : Cursor} {g : Grammar}

/-- No arrow function begins with a token that is neither a parenthesis nor `async` nor the name in
front of an arrow. -/
theorem takes_arrow_absent (marks : ∀ mark ∈ ["(", "<"], Token.isMark start.next mark = false)
    (keyword : Token.isWord start.next "async" = false)
    (arrow : Token.isMark start.after.next "=>" = false) :
    Takes (arrow? g false) mode start none start := by
  have second : Token.isMark (Token.following start.next) "=>" = false := arrow
  have absent : Takes (guessArrow false) mode start .absent start := by
    refine takes_lookahead (.bind takes_atMark ?_) rfl
    rw [marks "<" (by decide)]
    refine .bind (takes_accept_miss (marks "(" (by decide))) ?_
    exact .pure _
  refine .bind takes_peek ?_
  rw [if_neg (by simp [second])]
  dsimp only
  rw [keyword]
  exact .bind absent (.pure none)

/-- A token that begins an operand, and no arrow function. -/
structure Token.BeginsValue (token : Token) : Prop where
  operand : Token.BeginsOperand token
  marks : ∀ mark ∈ ["(", "<"], Token.isMark token mark = false
  keyword : Token.isWord token "async" = false

section Primary

variable {rest : List Char} {broken : Bool}

theorem takes_primary_name {name : List Char} (free : IsFreeName name)
    (apart : String.ofList name ∉ ["async", "await", "yield"])
    (word : start.next = Token.ofWord name rest broken) :
    Takes (primary g) mode start (.name (String.ofList name)) start.after := by
  have unreserved : reservedWords.contains (String.ofList name) = false := by
    simpa using free.unreserved
  have allowed : Mode.allowsName mode start.next.text = true := by
    simp only [List.mem_cons, List.not_mem_nil, or_false, not_or] at apart
    simp [word, Token.ofWord, Mode.allowsName, free.unreserved, apart]
  have named : Takes nameToken mode start (String.ofList name) start.after := by
    have named : Takes nameToken mode start start.next.text start.after :=
      takes_nameToken (by rw [word]; rfl) allowed
    rwa [word] at named
  have reserved : ∀ other ∈ reservedWords, String.ofList name ≠ other := by
    rintro other member rfl
    exact free.unreserved member
  have expression : Takes (wordExpression g (Token.ofWord name rest broken)) mode start
      (.name (String.ofList name)) start.after := by
    unfold wordExpression
    split
    case h_10 =>
      simp only [List.mem_cons, not_or] at apart
      rw [if_neg (by simp [Token.ofWord, apart.1])]
      exact .bind named (.pure _)
    all_goals
      rename_i same
      exact absurd same (reserved _ (by decide))
  refine .bind takes_peek ?_
  rw [word]
  exact .bind (takes_require rfl) expression

theorem takes_primary_constant {name : String} (constant : name ∈ ["this", "null", "true", "false"])
    (word : start.next = Token.ofWord name.toList rest broken) :
    Takes (primary g) mode start (.name name) start.after := by
  refine .bind takes_peek ?_
  rw [word]
  simp only [List.mem_cons, List.not_mem_nil, or_false] at constant
  rcases constant with rfl | rfl | rfl | rfl <;>
    exact .bind (takes_require rfl) (.bind takes_advance (.pure _))

theorem takes_primary_number {digits : List Char}
    (number : start.next = Token.ofNumber digits rest broken) :
    Takes (primary g) mode start (.number (String.ofList digits)) start.after := by
  refine .bind takes_peek ?_
  rw [number]
  exact .bind takes_advance (.pure _)

theorem takes_primary_string {quote : Char} {body : List Char}
    (string : start.next = Token.ofString quote body rest broken) :
    Takes (primary g) mode start
      (.string (String.ofList body) (stringSource (Token.ofString quote body rest broken)))
      start.after := by
  refine .bind takes_peek ?_
  rw [string]
  exact .bind takes_advance (.pure _)

variable (steps : 0 < mode.steps)
include steps

theorem takes_primary_emptyArray (opening : start.next = Token.ofMark "[" rest broken)
    (closing : Token.isMark start.after.next "]" = true) :
    Takes (primary g) mode start (.array []) start.after.after := by
  have done : Takes (atMark "]") mode start.after true start.after :=
    takes_atMark_iff.mpr ⟨closing.symm, rfl⟩
  have array : Takes (arrayLiteral g) mode start (.array []) start.after.after :=
    .bind (takes_expect (Token.isMark_of_eq opening))
      (.bind (.iterate_done (.bind done (.pure none)) steps)
        (.bind (takes_expect closing) (.pure _)))
  refine .bind takes_peek ?_
  rw [opening]
  exact array

theorem takes_primary_emptyObject (opening : start.next = Token.ofMark "\x7b" rest broken)
    (closing : Token.isMark start.after.next "\x7d" = true) :
    Takes (primary g) mode start (.object []) start.after.after := by
  have object : Takes (objectLiteral g) mode start (.object []) start.after.after :=
    .bind (takes_expect (Token.isMark_of_eq opening))
      (.bind (takes_commaListEnd_empty closing steps) (.pure _))
  refine .bind takes_peek ?_
  rw [opening]
  exact object

end Primary

section Begins

variable {rest : List Char} {broken : Bool}

theorem beginsValue_word {word : List Char}
    (apart : String.ofList word ∉ prefixWords ++ ["async", "await", "yield"]) :
    Token.BeginsValue (Token.ofWord word rest broken) := by
  have exposed : (Token.ofWord word rest broken).kind ≠ .privateName := nofun
  simp only [prefixWords, List.mem_append, List.mem_cons, List.not_mem_nil, or_false, not_or]
    at apart
  exact ⟨⟨by simp [Token.isMark, Token.ofWord], by simp [Token.isWord, Token.ofWord, prefixWords,
    apart], exposed⟩, by simp [Token.isMark, Token.ofWord],
    by simp [Token.isWord, Token.ofWord, apart]⟩

private theorem beginsValue_mark {mark : String}
    (outside : mark ∉ prefixMarks ++ ["++", "--", "<", "("]) :
    Token.BeginsValue (Token.ofMark mark rest broken) := by
  have exposed : (Token.ofMark mark rest broken).kind ≠ .privateName := nofun
  simp only [prefixMarks, List.mem_append, List.mem_cons, List.not_mem_nil, or_false, not_or]
    at outside
  exact ⟨⟨by simp [Token.isMark, Token.ofMark, prefixMarks, outside], by simp [Token.isWord,
    Token.ofMark], exposed⟩, by simp [Token.isMark, Token.ofMark, outside], rfl⟩

private theorem beginsValue_number {digits : List Char} :
    Token.BeginsValue (Token.ofNumber digits rest broken) :=
  ⟨⟨fun _ _ => rfl, fun _ _ => rfl, nofun⟩, fun _ _ => rfl, rfl⟩

private theorem beginsValue_string {quote : Char} {body : List Char} :
    Token.BeginsValue (Token.ofString quote body rest broken) :=
  ⟨⟨fun _ _ => rfl, fun _ _ => rfl, nofun⟩, fun _ _ => rfl, rfl⟩

end Begins

private theorem emptyBrackets (first last : Char) (opening closing : String)
    {gap inner rest : List Char}
    {broken later : Bool} (trivia : IsTrivia gap broken) (empty : IsTrivia inner later)
    (shown : isShown first = true) (shownLast : isShown last = true)
    (opens : ∀ rest, Token.atStart (first :: rest) = Token.ofMark opening rest)
    (closes : ∀ rest, Token.atStart (last :: rest) = Token.ofMark closing rest) :
    let place := start.before (gap ++ (first :: (inner ++ [last]) ++ rest))
    ∃ inside later, place.next = Token.ofMark opening inside broken ∧
      place.after.next = Token.ofMark closing rest later ∧
      place.after.after = start.before rest := by
  intro place
  have whole : first :: (inner ++ [last]) ++ rest = first :: (inner ++ last :: rest) := by simp
  have next : place.next = Token.ofMark opening (inner ++ last :: rest) broken := by
    change nextToken _ = _
    rw [whole]
    exact nextToken_mark trivia shown (opens _)
  have behind : place.after.next = Token.ofMark closing rest later := by
    rw [Cursor.after_of_next next]
    exact nextToken_mark empty shownLast (closes _)
  exact ⟨_, later, next, behind, Cursor.after_of_next behind⟩

/-- A plain value is read as it stands, up to what ends it. -/
theorem takes_plainValue {text gap rest : List Char} {broken : Bool} {mark : String}
    (value : IsPlainValue text) (trivia : IsTrivia gap broken) (ends : EndsToken rest)
    (member : mark ∈ closingMarks) (marked : Token.isMark (nextToken rest) mark = true)
    (steps : 0 < mode.steps) :
    ∃ tree, Takes (assignment g) mode (start.before (gap ++ (text ++ rest))) tree
      (start.before rest) := by
  have finish : ∀ tree, Token.BeginsValue (start.before (gap ++ (text ++ rest))).next →
      Token.isMark (start.before (gap ++ (text ++ rest))).after.next "=>" = false →
      Takes (primary g) mode (start.before (gap ++ (text ++ rest))) tree (start.before rest) →
      ∃ tree, Takes (assignment g) mode (start.before (gap ++ (text ++ rest))) tree
        (start.before rest) :=
    fun tree begins arrow primary => ⟨tree, takes_assignment steps begins.operand
      (takes_arrow_absent begins.marks begins.keyword arrow) primary
      (linkless_closing member marked) (ends_closing member marked)⟩
  have arrow : Token.isMark (start.before rest).next "=>" = false := by
    refine Token.isMark_ne marked ?_
    rintro rfl
    exact absurd member (by decide)
  cases value with
  | name free apart =>
    have word : (start.before (gap ++ (text ++ rest))).next = Token.ofWord text rest broken :=
      nextToken_word trivia free.start free.parts ends.word
    have after : (start.before (gap ++ (text ++ rest))).after = start.before rest :=
      Cursor.after_of_next word
    refine finish _ (word ▸ beginsValue_word fun member => ?_) (after ▸ arrow)
      (after ▸ takes_primary_name free apart word)
    rcases List.mem_append.mp member with member | member
    · have reserved : ∀ other ∈ prefixWords, other ∈ reservedWords := by decide
      exact free.unreserved (reserved _ member)
    · exact apart member
  | @constant word constant =>
    have word : (start.before (gap ++ (word.toList ++ rest))).next =
        Token.ofWord word.toList rest broken := by
      simp only [List.mem_cons, List.not_mem_nil, or_false] at constant
      rcases constant with rfl | rfl | rfl | rfl <;>
        exact nextToken_word trivia (by decide) (List.all_eq_true.mp (by decide)) ends.word
    have after := Cursor.after_of_next word
    refine finish _ (word ▸ beginsValue_word ?_) (after ▸ arrow)
      (after ▸ takes_primary_constant constant word)
    simp only [List.mem_cons, List.not_mem_nil, or_false] at constant
    rcases constant with rfl | rfl | rfl | rfl <;> decide
  | number whole =>
    have number : (start.before (gap ++ (text ++ rest))).next = _ :=
      nextToken_number trivia whole ends
    have after := Cursor.after_of_next number
    exact finish _ (number ▸ beginsValue_number) (after ▸ arrow)
      (after ▸ takes_primary_number number)
  | string quoted plain =>
    have string : (start.before (gap ++ (_ :: (_ ++ [_]) ++ rest))).next = _ :=
      nextToken_string trivia quoted plain
    have after := Cursor.after_of_next string
    exact finish _ (string ▸ beginsValue_string) (after ▸ arrow)
      (after ▸ takes_primary_string string)
  | @emptyArray _ _ inner =>
    obtain ⟨inside, later, opening, closing, behind⟩ :=
      emptyBrackets '[' ']' "[" "]" trivia inner (by decide) (by decide) (fun _ => rfl)
        (fun _ => rfl)
    have primary := behind ▸
      takes_primary_emptyArray (g := g) steps opening (Token.isMark_of_eq closing)
    exact finish _ (opening ▸ beginsValue_mark (by decide)) (closing ▸ rfl) primary
  | @emptyObject _ _ inner =>
    obtain ⟨inside, later, opening, closing, behind⟩ :=
      emptyBrackets '\x7b' '\x7d' "\x7b" "\x7d" trivia inner (by decide) (by decide)
        (fun _ => rfl) (fun _ => rfl)
    have primary := behind ▸
      takes_primary_emptyObject (g := g) steps opening (Token.isMark_of_eq closing)
    exact finish _ (opening ▸ beginsValue_mark (by decide)) (closing ▸ rfl) primary

end Parser

end PanelCompiler.Script
