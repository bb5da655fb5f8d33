import PanelCompiler.Decimal.Shortest

namespace PanelCompiler.Decimal

/-- Where the plain layout ends: decimal exponents of the first digit from `least` to `greatest`
are written without an exponent. -/
structure PlainRange where
  least : Int
  greatest : Int

/-- Numbers in JSON are plain from `0.00001` up to below `10 ^ 16`. -/
def jsonPlainRange : PlainRange := ⟨-5, 15⟩

def digitChars (n : Nat) : List Char :=
  Nat.toDigits 10 n

def zeros (count : Nat) : List Char :=
  List.replicate count '0'

/-- The digits without the zeros at their end; `0` keeps its one digit. -/
def significantChars (n : Nat) : List Char :=
  match ((digitChars n).reverse.dropWhile (· == '0')).reverse with
  | [] => ['0']
  | kept => kept

/-- Digits around the point, with `.0` when nothing follows it. -/
def plainText (digits : List Char) (leading : Int) : List Char :=
  if leading < 0 then
    '0' :: '.' :: zeros (leading.natAbs - 1) ++ digits
  else
    let whole := leading.natAbs + 1
    if digits.length ≤ whole then digits ++ zeros (whole - digits.length) ++ ['.', '0']
    else digits.take whole ++ '.' :: digits.drop whole

/-- One digit before the point, and an exponent with its sign. -/
def exponentText (digits : List Char) (leading : Int) : List Char :=
  let mantissa := match digits with
    | first :: second :: rest => first :: '.' :: second :: rest
    | short => short
  let sign := if leading < 0 then '-' else '+'
  mantissa ++ 'e' :: sign :: digitChars leading.natAbs

/-- The size of a finite number in its shortest form. -/
def sizeText (range : PlainRange) (x : Binary) : List Char :=
  if x.significand == 0 then ['0', '.', '0']
  else
    let found := shortest x
    let leading := found.exponent + digitCount found.digits - 1
    let digits := significantChars found.digits
    if range.least ≤ leading && leading ≤ range.greatest then plainText digits leading
    else exponentText digits leading

def withSign (negative : Bool) (size : List Char) : String :=
  String.ofList (if negative then '-' :: size else size)

/-- A number as JSON writes it; JSON has no text for the other two cases but `null`. -/
def jsonText (x : Float) : String :=
  match Parts.ofFloat x with
  | .finite value => withSign value.negative (sizeText jsonPlainRange value)
  | .infinite _ => "null"
  | .undefined => "null"

/-- A quotient rounded to the nearest integer, a half to the even one. -/
def roundDiv (num den : Nat) : Nat :=
  let floor := num / den
  match compare (2 * (num % den)) den with
  | .lt => floor
  | .gt => floor + 1
  | .eq => if floor % 2 == 0 then floor else floor + 1

/-- A number of hundredths with two places after the point. -/
def hundredthsText (n : Nat) : List Char :=
  digitChars (n / 100) ++ '.' :: digitChars (n / 10 % 10) ++ digitChars (n % 10)

/-- A number with two places, rounded from its exact value. -/
def twoPlaces (x : Float) : String :=
  match Parts.ofFloat x with
  | .finite value =>
    let (num, den) := powerOfTwoRatio value.significand value.exponent
    withSign value.negative (hundredthsText (roundDiv (100 * num) den))
  | .infinite negative => withSign negative ['i', 'n', 'f']
  | .undefined => "NaN"

end PanelCompiler.Decimal
