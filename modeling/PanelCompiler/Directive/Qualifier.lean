import PanelCompiler.Text.Word

namespace PanelCompiler.Directive

/-- The characters of the qualifier. -/
def qualifier : List Char :=
  ['t', 'h', 'i', 's', '.']

/-- Whether a word may begin behind this character. -/
def endsWord (before : Option Char) : Bool :=
  !before.any Text.isWord

/-- Whether a word ends between two texts, given the last character of the first. -/
def atBoundary (before : Option Char) (rest : List Char) : Bool :=
  before.any Text.isWord != Text.startsWithWord rest

/-- The text behind an occurrence of the qualifier at the start of a word. -/
def afterQualifier? (before : Option Char) (text : List Char) : Option (List Char) :=
  if endsWord before then Text.afterPrefix? qualifier text else none

/-- Remove the qualifier wherever a word begins with it. The character before the text decides
whether its first word begins there; `skip` characters belong to an occurrence already found. -/
def stripFrom (before : Option Char) (skip : Nat) : List Char → List Char
  | [] => []
  | c :: rest =>
    match skip with
    | skip + 1 => stripFrom (some c) skip rest
    | 0 =>
      if (afterQualifier? before (c :: rest)).isSome then
        stripFrom (some c) (qualifier.length - 1) rest
      else c :: stripFrom (some c) 0 rest

/-- A text without its qualifiers. -/
def stripQualifiers (text : List Char) : List Char :=
  stripFrom none 0 text

/-- A qualified reference to `name` at the start of a word, up to the end of one. -/
def isReference (name : List Char) (before : Option Char) (text : List Char) : Bool :=
  match afterQualifier? before text with
  | none => false
  | some rest =>
    match Text.afterPrefix? name rest with
    | none => false
    | some rest => atBoundary name.getLast? rest

/-- Put a text in place of every qualified reference to a name. -/
def replaceFrom (name substitute : List Char) (before : Option Char) (skip : Nat) :
    List Char → List Char
  | [] => []
  | c :: rest =>
    match skip with
    | skip + 1 => replaceFrom name substitute (some c) skip rest
    | 0 =>
      if isReference name before (c :: rest) then
        substitute ++ replaceFrom name substitute (some c) (qualifier.length + name.length - 1) rest
      else c :: replaceFrom name substitute (some c) 0 rest

def replaceReferences (name substitute text : List Char) : List Char :=
  replaceFrom name substitute none 0 text

end PanelCompiler.Directive
