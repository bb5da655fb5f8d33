import PanelCompiler.Text.Blank
import PanelCompiler.Text.Word

namespace PanelCompiler.Value

/-- The text before two closing braces at the end. -/
def beforeClosing? (text : List Char) : Option (List Char) :=
  match text.reverse with
  | '\x7d' :: '\x7d' :: inner => some inner.reverse
  | _ => none

/-- The trimmed inside of a text that is one template from its first two braces to its last two. -/
def expressionBody? (text : List Char) : Option (List Char) :=
  match text with
  | '\x7b' :: '\x7b' :: rest => (beforeClosing? rest).map Text.trim
  | _ => none

/-- Blanks, then an arrow. -/
def arrowFollows (text : List Char) : Bool :=
  match Text.trimStart text with
  | '=' :: '>' :: _ => true
  | _ => false

/-- The word `function`, and an opening parenthesis anywhere behind it. -/
def beginsFunctionWord (text : List Char) : Bool :=
  match Text.afterPrefix? ['f', 'u', 'n', 'c', 't', 'i', 'o', 'n'] text with
  | some rest => !Text.startsWithWord rest && rest.contains '('
  | none => false

def isParenthesis (c : Char) : Bool :=
  c == '(' || c == ')'

/-- Parentheses with none inside, then an arrow. -/
def beginsParameterList (text : List Char) : Bool :=
  match text with
  | '(' :: rest =>
    match rest.dropWhile fun c => !isParenthesis c with
    | ')' :: rest => arrowFollows rest
    | _ => false
  | _ => false

def isBareNameStart (c : Char) : Bool :=
  Text.isAsciiLetter c || c == '_' || c == '$'

def isBareNamePart (c : Char) : Bool :=
  Text.isWord c || c == '$'

/-- A bare parameter, then an arrow. -/
def beginsBareParameter (text : List Char) : Bool :=
  match text with
  | c :: rest => isBareNameStart c && arrowFollows (rest.dropWhile isBareNamePart)
  | [] => false

def beginsFunction (text : List Char) : Bool :=
  beginsFunctionWord text || beginsParameterList text || beginsBareParameter text

/-- The text behind `async` and the blanks that have to follow it. -/
def afterAsync? (text : List Char) : Option (List Char) :=
  match Text.afterPrefix? ['a', 's', 'y', 'n', 'c'] text with
  | some (c :: rest) => if Text.isBlank c then some (Text.trimStart rest) else none
  | _ => none

/-- Whether a text begins like a function, an arrow function or an asynchronous one of these. Only
the beginning is looked at. -/
def looksLikeFunction (text : List Char) : Bool :=
  let text := Text.trimStart text
  beginsFunction text || (afterAsync? text).any beginsFunction

end PanelCompiler.Value
