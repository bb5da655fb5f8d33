namespace PanelCompiler.Decimal

def powerOfTwo (n : Nat) : Nat := Nat.pow 2 n

def powerOfTen (n : Nat) : Nat := Nat.pow 10 n

/-- The parts of a finite number: its size is `significand * 2 ^ exponent`. -/
structure Binary where
  negative : Bool
  significand : Nat
  exponent : Int

inductive Parts
  | finite (value : Binary)
  | infinite (negative : Bool)
  | undefined

/-- The least exponent, that of the numbers nearest to zero. -/
def leastExponent : Int := -1074

/-- The significand of a normal number is at least this large. -/
def leastNormal : Nat := powerOfTwo 52

def Parts.ofFloat (x : Float) : Parts :=
  let bits : Nat := x.toBits.toNat
  let negative := bits / powerOfTwo 63 == 1
  let field : Nat := bits / powerOfTwo 52 % 2048
  let fraction : Nat := bits % powerOfTwo 52
  if field == 2047 then
    if fraction == 0 then .infinite negative else .undefined
  else if field == 0 then .finite ⟨negative, fraction, leastExponent⟩
  else .finite ⟨negative, leastNormal + fraction, (field : Int) - 1 + leastExponent⟩

/-- A non-negative rational as numerator and denominator: `significand * 2 ^ exponent`. -/
def powerOfTwoRatio (significand : Nat) (exponent : Int) : Nat × Nat :=
  if exponent < 0 then (significand, powerOfTwo exponent.natAbs)
  else (significand * powerOfTwo exponent.natAbs, 1)

/-- The same with ten for two. -/
def powerOfTenRatio (significand : Nat) (exponent : Int) : Nat × Nat :=
  if exponent < 0 then (significand, powerOfTen exponent.natAbs)
  else (significand * powerOfTen exponent.natAbs, 1)

end PanelCompiler.Decimal
