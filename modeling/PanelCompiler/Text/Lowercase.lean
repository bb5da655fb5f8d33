import PanelCompiler.Text.CaseTable

/-!
Lower-casing of whole texts. One letter may become two, and a sigma that ends its word becomes a
final sigma.
-/

namespace PanelCompiler.Text

/-- The lower-case partner found in the runs, or the character itself. -/
def lowerByRuns (c : Char) : CaseRuns → Char
  | [] => c
  | (first, last, step, shift) :: rest =>
    if first ≤ c.toNat && c.toNat ≤ last then
      if (c.toNat - first) % step == 0 then Char.ofNat (c.toNat + shift).toNat
      else lowerByRuns c rest
    else lowerByRuns c rest

/-- The lower-case form of one character away from any context. -/
def lowerChar (c : Char) : Char :=
  if c.toNat < 128 then
    if 'A' ≤ c && c ≤ 'Z' then Char.ofNat (c.toNat + 32) else c
  else lowerByRuns c lowerRuns

def capitalSigma : Char := '\u03a3'
def smallSigma : Char := '\u03c3'
def finalSigma : Char := '\u03c2'
def capitalDottedI : Char := '\u0130'
def combiningDot : Char := '\u0307'

/-- Whether the nearest character that is not looked through has case. -/
def nearestCased (neighbours : List Char) : Bool :=
  match neighbours.dropWhile caseIgnorableRanges.contains with
  | [] => false
  | c :: _ => casedRanges.contains c

/-- Lower-case a text, given the characters before it, nearest first. -/
def lowercaseAfter (before : List Char) : List Char → List Char
  | [] => []
  | c :: rest =>
    let lowered :=
      if c == capitalSigma then
        [if nearestCased before && !nearestCased rest then finalSigma else smallSigma]
      else if c == capitalDottedI then ['i', combiningDot]
      else [lowerChar c]
    lowered ++ lowercaseAfter (c :: before) rest

def lowercase (text : List Char) : List Char :=
  lowercaseAfter [] text

end PanelCompiler.Text
