import PanelCompiler.Json.Basic

/-!
Reading of number tokens. An integer that fits into 64 bits stays an integer. Any other number
collects the digits that fit into 64 bits and is scaled by powers of ten.
-/

namespace PanelCompiler.Json

/-- A number as it is written. -/
structure NumberToken where
  negative : Bool
  whole : List Char
  fraction : List Char
  exponent : Option Int
  /-- Written with a point or an exponent. -/
  floating : Bool

def greatestUnsigned : Nat := 0xffffffffffffffff

def greatestNegative : Nat := 0x8000000000000000

def digitValue (c : Char) : Nat :=
  c.toNat - '0'.toNat

/-- Append digits to a significand while it stays within 64 bits; the digits left over follow. -/
def collectDigits (significand : Nat) : List Char → Nat × List Char
  | [] => (significand, [])
  | c :: rest =>
    let longer := significand * 10 + digitValue c
    if longer ≤ greatestUnsigned then collectDigits longer rest else (significand, c :: rest)

/-- The greatest power of ten among the doubles. -/
def greatestPower : Nat := 308

def powerOfTen (exponent : Nat) : Float :=
  Float.ofScientific 1 false exponent

/-- Divide by a power of ten, in steps that the doubles can hold. -/
def scaleDown (x : Float) (places : Nat) : Float :=
  if places ≤ greatestPower then x / powerOfTen places
  else if x == 0.0 then x
  else scaleDown (x / powerOfTen greatestPower) (places - greatestPower)
termination_by places
decreasing_by simp [greatestPower] at *; omega

/-- Multiply by a power of ten; there is no answer beyond the doubles. -/
def scaleUp? (x : Float) (places : Nat) : Option Float :=
  if places ≤ greatestPower then
    let scaled := x * powerOfTen places
    if scaled.isInf then none else some scaled
  else if x == 0.0 then some x
  else none

def scale? (significand : Nat) (exponent : Int) : Option Float :=
  let x := Float.ofNat significand
  if exponent < 0 then some (scaleDown x exponent.natAbs) else scaleUp? x exponent.natAbs

/-- The value of a token, unless it is too large. Minus zero is a float. -/
def NumberToken.value? (token : NumberToken) : Option Number :=
  let (head, overflow) := collectDigits 0 token.whole
  if !token.floating && overflow.isEmpty &&
      (!token.negative || (0 < head && head ≤ greatestNegative)) then
    some (.integer (if token.negative then -head else head))
  else
    let (significand, dropped) := collectDigits head token.fraction
    let used := token.fraction.length - dropped.length
    let exponent := token.exponent.getD 0 + overflow.length - used
    (scale? significand exponent).map fun size =>
      .float (if token.negative then -size else size)

end PanelCompiler.Json
