import PanelCompiler.Directive.Qualifier

/-!
The text that takes the place of a qualified reference. A name is read as a template of that text:
a dollar sign with a group after it stands for what the group matched. Group zero is the whole
reference; there is no other group, so every other one is empty.
-/

namespace PanelCompiler.Directive

/-- The number written by a group's name, if it is one. -/
def groupNumber? (name : List Char) : Option Nat :=
  let digits := match name with
    | '+' :: rest => rest
    | name => name
  if digits.isEmpty || !digits.all Text.isAsciiDigit then none
  else some (digits.foldl (fun value c => value * 10 + (c.toNat - '0'.toNat)) 0)

/-- What a group stands for. -/
def groupText (reference name : List Char) : List Char :=
  if groupNumber? name = some 0 then reference else []

/-- The name of the group behind a dollar sign, and how many characters it takes. -/
def groupName? (text : List Char) : Option (List Char × Nat) :=
  match text with
  | '\x7b' :: rest =>
    let name := rest.takeWhile (· != '\x7d')
    if name.length < rest.length then some (name, name.length + 2) else none
  | text =>
    let name := text.takeWhile Text.isAsciiWord
    if name.isEmpty then none else some (name, name.length)

/-- Write out a template; `skip` characters are already dealt with. -/
def expandFrom (reference : List Char) (skip : Nat) : List Char → List Char
  | [] => []
  | c :: rest =>
    match skip with
    | skip + 1 => expandFrom reference skip rest
    | 0 =>
      if c == '$' then
        if rest.head? = some '$' then '$' :: expandFrom reference 1 rest
        else match groupName? rest with
          | some (name, length) => groupText reference name ++ expandFrom reference length rest
          | none => '$' :: expandFrom reference 0 rest
      else c :: expandFrom reference 0 rest

/-- The substitute for references to a name. -/
def substitute (name : List Char) : List Char :=
  expandFrom (qualifier ++ name) 0 name

end PanelCompiler.Directive
