import PanelCompiler.Script.Parser.Basic

/-!
Words before a declaration, member or parameter that say more about it. None of them is reserved,
so each is a modifier only where something follows it that it can modify.
-/

namespace PanelCompiler.Script.Parser

/-- Words that say who may use a member. -/
def accessWords : List String :=
  ["public", "private", "protected"]

def modifierWords : List String :=
  accessWords ++ ["static", "override", "abstract", "readonly", "accessor", "declare", "async", "in",
    "out"]

def Token.isModifierWord (token : Token) : Bool :=
  token.kind == .word && !token.escaped && modifierWords.contains token.text

/-- Whether a token names a member. -/
def Token.isKey (token : Token) : Bool :=
  token.kind == .word || token.kind == .string || token.kind == .number ||
    token.kind == .privateName || Token.isMark token "["

/-- Whether a token can be modified by the word before it. -/
def Token.isModifiable (token : Token) : Bool :=
  Token.isKey token || Token.isMark token "\x7b" || Token.isMark token "*" ||
    Token.isMark token "..."

/-- Whether this word modifies what follows it. Only `static` may stand on a line of its own. -/
def Token.modifies (token : Token) : Bool :=
  let second := Token.following token
  Token.isModifiable second && (token.text == "static" || !second.afterBreak)

/-- The modifiers that come next. A second `static` is a name. -/
def takeModifiers : Parser (List String) := do
  let reversed ← iterate [] fun words => do
    let token ← peek
    if Token.isModifierWord token && Token.modifies token &&
        !(token.text == "static" && words.contains "static") then
      let _ ← advance
      return some (token.text :: words)
    return none
  return reversed.reverse

/-- The modifiers that may not stand somewhere before this one. -/
def modifiersNotBefore (word : String) : List String :=
  match word with
  | "static" => ["static", "override", "readonly", "accessor", "async", "abstract"]
  | "override" => ["override", "readonly", "accessor", "async", "declare"]
  | "readonly" => ["readonly", "accessor"]
  | "accessor" => ["accessor", "readonly", "declare"]
  | "declare" => ["declare", "override", "accessor", "async"]
  | "abstract" => ["abstract", "static", "private", "override", "accessor", "async"]
  | "async" => ["async", "abstract", "declare"]
  | _ => accessWords ++ ["static", "override", "readonly", "accessor", "async", "abstract"]

/-- Whether modifiers stand in their order and go together. -/
def areOrdered : List String → Bool
  | [] => true
  | word :: rest =>
    rest.all (fun later => !(modifiersNotBefore later).contains word) && areOrdered rest

/-- Modifiers that are all of one list, in their order. -/
def areModifiersOf (allowed words : List String) : Bool :=
  words.all allowed.contains && areOrdered words

/-- Modifiers as they are written before something. -/
def modifiersText (words : List String) : String :=
  String.join (words.map (· ++ " "))

/-- Whether the next word is `get` or `set` before the name of a member. -/
def atAccessor (word : String) : Parser Bool := do
  let token ← peek
  return Token.isWord token word && Token.isKey (Token.following token)

end PanelCompiler.Script.Parser
