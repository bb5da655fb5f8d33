import PanelCompiler.Value.Source

namespace PanelCompiler

namespace Text.Quoted

/-- The characters that end a line of script. -/
def endsLine (c : Char) : Bool :=
  c == '\n' || c == '\r' || c.toNat == 0x2028 || c.toNat == 0x2029

def isControl (c : Char) : Bool :=
  c.toNat < 0x20 || (0x7f ≤ c.toNat && c.toNat < 0xa0)

def backslashes (text : List Char) : Nat :=
  (text.reverse.takeWhile (· == '\\')).length

/-- What may stand between two single quotes on one line. A quote is escaped by an odd number of
backslashes in front of it: each two of them escape each other. -/
structure WellFormed (body : List Char) : Prop where
  line : ∀ c ∈ body, endsLine c = false
  shown : ∀ c ∈ body, isControl c = false
  escaped : ∀ before behind, body = before ++ '\'' :: behind → backslashes before % 2 = 1
  closed : backslashes body % 2 = 0

section Reading

def hexValue? (c : Char) : Option Nat :=
  if '0' ≤ c ∧ c ≤ '9' then some (c.toNat - '0'.toNat)
  else if 'a' ≤ c ∧ c ≤ 'f' then some (10 + (c.toNat - 'a'.toNat))
  else if 'A' ≤ c ∧ c ≤ 'F' then some (10 + (c.toNat - 'A'.toNat))
  else none

/-- The character that four hexadecimal digits stand for, unless they are half of a pair. -/
def unicodeChar? (first second third fourth : Char) : Option Char := do
  let code := (((← hexValue? first) * 16 + (← hexValue? second)) * 16 + (← hexValue? third)) * 16 +
    (← hexValue? fourth)
  if code.isValidChar then some (Char.ofNat code) else none

/-- The character that a character behind a backslash stands for. -/
def escapedChar? : Char → Option Char
  | '\\' => some '\\'
  | '\'' => some '\''
  | 'n' => some '\n'
  | 'r' => some '\r'
  | 't' => some '\t'
  | _ => none

/-- Read a literal from behind its opening quote. Nothing may stand behind the closing one. -/
def readInside? : List Char → Option (List Char)
  | [] => none
  | '\\' :: 'u' :: first :: second :: third :: fourth :: rest => do
    let c ← unicodeChar? first second third fourth
    let later ← readInside? rest
    return c :: later
  | '\\' :: escaped :: rest => do
    let c ← escapedChar? escaped
    let later ← readInside? rest
    return c :: later
  | c :: rest =>
    if c = '\'' then if rest.isEmpty then some [] else none
    else if c = '\\' ∨ endsLine c then none
    else (readInside? rest).map (c :: ·)

def read? : List Char → Option (List Char)
  | '\'' :: rest => readInside? rest
  | _ => none

end Reading

section Escapes

def marks : List Char :=
  ['\\', '\'', 'n', 'r', 't']

/-- The three spellings of a character: a backslash and a mark, a backslash and its number, and the
character itself. -/
inductive Spelling (c : Char) : List Char → Prop
  | marked {mark : Char} (known : mark ∈ marks) (stands : escapedChar? mark = some c) :
    Spelling c ['\\', mark]
  | numbered (code : c.toNat < 0x10000) : Spelling c (Json.unicodeEscape c.toNat)
  | plain (backslash : c ≠ '\\') (quote : c ≠ '\'') (line : endsLine c = false)
    (shown : isControl c = false) : Spelling c [c]

theorem spelling (c : Char) : Spelling c (escapeChar c) := by
  have same (d : Char) : c = d ↔ c.toNat = d.toNat := Char.toNat_inj.symm
  unfold escapeChar
  split
  · rename_i backslash
    cases beq_iff_eq.mp backslash
    exact .marked (by decide) rfl
  split
  · rename_i _ quote
    cases beq_iff_eq.mp quote
    exact .marked (by decide) rfl
  split
  · rename_i _ _ newline
    cases beq_iff_eq.mp newline
    exact .marked (by decide) rfl
  split
  · rename_i _ _ _ carriage
    cases beq_iff_eq.mp carriage
    exact .marked (by decide) rfl
  split
  · rename_i _ _ _ _ tab
    cases beq_iff_eq.mp tab
    exact .marked (by decide) rfl
  split
  · rename_i escaped
    refine .numbered ?_
    simp only [needsEscape, Bool.or_eq_true, Bool.and_eq_true, decide_eq_true_eq, beq_iff_eq]
      at escaped
    omega
  · rename_i backslash quote newline carriage tab plain
    simp only [needsEscape, beq_iff_eq, Bool.or_eq_true, Bool.and_eq_true, decide_eq_true_eq] at *
    refine .plain backslash quote ?_ ?_
    · simp [endsLine, newline, carriage]
      omega
    · simp [isControl]
      omega

variable {c : Char} {rest piece : List Char}

private theorem hexValue?_hexDigit :
    ∀ digit < 16, hexValue? (Json.hexDigit digit) = some digit := by
  decide

private theorem unicodeChar?_hexDigits (code : c.toNat < 0x10000) :
    unicodeChar? (Json.hexDigit (c.toNat / 4096 % 16)) (Json.hexDigit (c.toNat / 256 % 16))
      (Json.hexDigit (c.toNat / 16 % 16)) (Json.hexDigit (c.toNat % 16)) = some c := by
  have digit (place : Nat) := hexValue?_hexDigit (c.toNat / place % 16) (Nat.mod_lt _ (by decide))
  have last := hexValue?_hexDigit (c.toNat % 16) (Nat.mod_lt _ (by decide))
  have whole : ((c.toNat / 4096 % 16 * 16 + c.toNat / 256 % 16) * 16 + c.toNat / 16 % 16) * 16 +
      c.toNat % 16 = c.toNat := by
    omega
  have valid : c.toNat.isValidChar := c.valid
  simp [unicodeChar?, digit, last, whole, valid]

theorem Spelling.read (spelling : Spelling c piece) (rest : List Char) :
    readInside? (piece ++ rest) = (readInside? rest).map (c :: ·) := by
  cases spelling with
  | @marked mark known stands =>
    have number : 'u' ∉ marks := by decide
    have other : mark ≠ 'u' := fun same => number (same ▸ known)
    rw [List.cons_append, List.singleton_append, readInside?]
    · rw [stands]
      cases readInside? rest <;> rfl
    · rintro first second third fourth more rfl
      exact absurd rfl other
  | numbered code =>
    simp only [Json.unicodeEscape, List.cons_append, List.nil_append, readInside?,
      unicodeChar?_hexDigits code]
    cases readInside? rest <;> rfl
  | plain backslash quote line _ =>
    rw [List.singleton_append, readInside?]
    · simp [backslash, quote, line]
    all_goals
      intros
      exact absurd ‹c = '\\'› backslash

theorem hexDigit_plain : ∀ digit < 16, endsLine (Json.hexDigit digit) = false ∧
    isControl (Json.hexDigit digit) = false ∧ Json.hexDigit digit ≠ '\'' ∧
    Json.hexDigit digit ≠ '\\' := by
  decide

theorem mem_unicodeEscape {d : Char} {code : Nat} (member : d ∈ Json.unicodeEscape code) :
    d = '\\' ∨ d = 'u' ∨ ∃ digit < 16, d = Json.hexDigit digit := by
  have small (number : Nat) : number % 16 < 16 := Nat.mod_lt _ (by decide)
  simp only [Json.unicodeEscape, List.mem_cons, List.not_mem_nil, or_false] at member
  rcases member with rfl | rfl | rfl | rfl | rfl | rfl
  · exact .inl rfl
  · exact .inr (.inl rfl)
  all_goals exact .inr (.inr ⟨_, small _, rfl⟩)

theorem Spelling.shown (spelling : Spelling c piece) :
    ∀ d ∈ piece, endsLine d = false ∧ isControl d = false := by
  intro d member
  cases spelling with
  | @marked mark known _ =>
    have plain : ∀ d ∈ marks, endsLine d = false ∧ isControl d = false := by
      simp [marks, endsLine, isControl]
    have within : ['\\', mark] ⊆ marks := List.cons_subset.mpr ⟨by decide, by simpa using known⟩
    exact plain d (within member)
  | numbered _ =>
    rcases mem_unicodeEscape member with rfl | rfl | ⟨digit, small, rfl⟩
    · decide
    · decide
    · exact ⟨(hexDigit_plain digit small).1, (hexDigit_plain digit small).2.1⟩
  | plain _ _ line shown =>
    rw [List.mem_singleton.mp member]
    exact ⟨line, shown⟩

theorem Spelling.escaped (spelling : Spelling c piece) {before behind : List Char}
    (quote : piece = before ++ '\'' :: behind) : backslashes before % 2 = 1 := by
  cases spelling with
  | marked _ _ =>
    rcases before with _ | ⟨first, _ | ⟨second, more⟩⟩
    · cases quote
    · cases quote
      decide
    · cases more <;> cases quote
  | numbered _ =>
    have member : '\'' ∈ Json.unicodeEscape c.toNat := by simp [quote]
    rcases mem_unicodeEscape member with same | same | ⟨digit, small, same⟩
    · cases same
    · cases same
    · exact absurd same.symm (hexDigit_plain digit small).2.2.1
  | plain _ other _ _ =>
    have member : '\'' ∈ [c] := by simp [quote]
    exact absurd (List.mem_singleton.mp member).symm other

private theorem backslashes_concat (text : List Char) (last : Char) (other : last ≠ '\\') :
    backslashes (text ++ [last]) = 0 := by
  simp [backslashes, other]

/-- A spelling leaves no backslash behind that would escape what follows. -/
theorem Spelling.closed (spelling : Spelling c piece) : backslashes piece % 2 = 0 := by
  cases spelling with
  | marked known _ =>
    have even : ∀ mark ∈ marks, backslashes ['\\', mark] % 2 = 0 := by
      simp [marks, backslashes]
    exact even _ known
  | numbered _ =>
    have last := hexDigit_plain (c.toNat % 16) (Nat.mod_lt _ (by decide))
    have none := fun front => backslashes_concat front _ last.2.2.2
    exact congrArg (· % 2) (none ['\\', 'u', _, _, _])
  | plain backslash _ _ _ => exact congrArg (· % 2) (backslashes_concat [] c backslash)

/-- Behind a text that leaves no backslash over, the count begins anew. -/
theorem backslashes_append {first : List Char} (even : backslashes first % 2 = 0)
    (rest : List Char) : backslashes (first ++ rest) % 2 = backslashes rest % 2 := by
  unfold backslashes at even ⊢
  rw [List.reverse_append, List.takeWhile_append]
  split
  · rename_i all
    rw [List.length_append]
    omega
  · rfl

end Escapes

section Encoding

private theorem readInside?_encode (text rest : List Char) :
    readInside? (encode text ++ rest) = (readInside? rest).map (text ++ ·) := by
  induction text with
  | nil => simp [encode]
  | cons c text ih =>
    rw [encode, List.flatMap_cons, List.append_assoc, (spelling c).read]
    change (readInside? (encode text ++ rest)).map _ = _
    rw [ih, Option.map_map]
    rfl

theorem wellFormed_encode (text : List Char) : WellFormed (encode text) := by
  induction text with
  | nil => exact ⟨nofun, nofun, fun before _ none => by simp [encode] at none, rfl⟩
  | cons c text ih =>
    have whole : encode (c :: text) = escapeChar c ++ encode text := List.flatMap_cons
    have first := spelling c
    rw [whole]
    refine ⟨fun d member => ?_, fun d member => ?_, fun before behind quote => ?_, ?_⟩
    · rcases List.mem_append.mp member with here | later
      · exact (first.shown d here).1
      · exact ih.line d later
    · rcases List.mem_append.mp member with here | later
      · exact (first.shown d here).2
      · exact ih.shown d later
    · rcases List.append_eq_append_iff.mp quote with ⟨more, rfl, later⟩ | ⟨more, here, later⟩
      · rw [backslashes_append first.closed]
        exact ih.escaped more behind later
      · cases more with
        | nil =>
          -- A quote in front of which nothing stands would be escaped by nothing.
          have odd := ih.escaped [] behind later.symm
          cases odd
        | cons d more =>
          obtain ⟨rfl, -⟩ := List.cons.inj later
          exact first.escaped here
    · rw [backslashes_append first.closed, ih.closed]

theorem read?_quote (text : String) : read? (quote text).toList = some text.toList := by
  have inside := readInside?_encode text.toList ['\'']
  rw [quote, String.toList_ofList, List.cons_append, read?, inside]
  simp [readInside?]

private theorem quote_injective : Function.Injective quote := by
  intro first second same
  have read := (read?_quote first).symm.trans (same ▸ read?_quote second)
  exact String.toList_inj.mp (Option.some.inj read)

end Encoding

end Text.Quoted

/-- A literal is quoted as an attribute, and stands as it is between tags. -/
theorem Json.toSource_literal {value : Json} {text : String}
    (literal : ValueClass.ofJson value = .literal text) (path : Path) :
    value.toSource .attribute path = .ok (Text.Quoted.quote text) ∧
      value.toSource .content path = .ok text := by
  constructor <;> rw [Json.toSource, literal]

private theorem ValueClass.ofJson_literal {text : String}
    (divided : Value.expressionBody? text.toList = none)
    (other : Value.looksLikeFunction text.toList = false) :
    ofJson (.string text) = .literal text := by
  have untagged : ∀ tag, (Json.string text).tagged? tag = none := fun _ => rfl
  simp [ofJson, untagged, ofString, divided, other]

namespace Text.Quoted

/-- A text in single quotes is a well-formed literal that is read as the text, so that attributes
with distinct literals are written out differently. -/
theorem quote_reads_back (text : String) :
    (∃ body, (quote text).toList = '\'' :: (body ++ ['\'']) ∧ WellFormed body) ∧
    read? (quote text).toList = some text.toList ∧
    ∀ other (value another : Json) (here there : Path), ValueClass.ofJson value = .literal text →
      ValueClass.ofJson another = .literal other → text ≠ other →
      value.toSource .attribute here ≠ another.toSource .attribute there := by
  refine ⟨⟨encode text.toList, ?_, wellFormed_encode text.toList⟩, read?_quote text,
    fun other value another here there literal literal' apart same => ?_⟩
  · rw [quote, String.toList_ofList, List.cons_append]
  · rw [(Json.toSource_literal literal here).1, (Json.toSource_literal literal' there).1] at same
    exact apart (quote_injective (Except.ok.inj same))

/-- The end of a line, and the two characters that spell it. -/
theorem quote_reads_back_newline :
    let text := "it's \\\n\x07\u2028"
    let other := "it's \\\\n\x07\u2028"
    quote text = "'it\\'s \\\\\\n\\u0007\\u2028'" ∧
      read? (quote text).toList = some text.toList ∧
      ValueClass.ofJson (.string text) = .literal text ∧
      ValueClass.ofJson (.string other) = .literal other ∧ text ≠ other ∧
      (Json.string text).toSource .attribute .root ≠
        (Json.string other).toSource .attribute .root := by
  intro text other
  obtain ⟨-, read, distinct⟩ := quote_reads_back text
  have literal : ValueClass.ofJson (.string text) = .literal text :=
    ValueClass.ofJson_literal (by decide +kernel) (by decide +kernel)
  have another : ValueClass.ofJson (.string other) = .literal other :=
    ValueClass.ofJson_literal (by decide +kernel) (by decide +kernel)
  have apart : text ≠ other := by decide
  exact ⟨by decide +kernel, read, literal, another, apart,
    distinct other _ _ .root .root literal another apart⟩

end Text.Quoted

end PanelCompiler
