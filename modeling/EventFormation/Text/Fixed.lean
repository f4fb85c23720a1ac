/-!
# Numbers with a fixed number of places

A double is a whole number times a power of two. Its decimal form with a fixed
number of places is found exactly from these two: the nearest one, and of two
that are equally near the one with the even last digit.
-/

namespace EventFormation.Fixed

/-- The nearest whole number to a quotient; a half goes to the even neighbour. -/
def roundDiv (numerator denominator : Nat) : Nat :=
  let quotient := numerator / denominator
  let twice := 2 * (numerator % denominator)
  if twice < denominator then quotient
  else if denominator < twice then quotient + 1
  else quotient + quotient % 2

/-- The first whole number that has 53 binary digits. -/
def leadingBit : Nat := 1 <<< 52

/-- A double that is not negative as a whole number and an exponent of two
that is 1075 too large. -/
def parts (value : Float) : Nat × Nat :=
  let bits := value.toBits.toNat
  let exponent := bits / leadingBit % 2048
  let fraction := bits % leadingBit
  if exponent = 0 then (fraction, 1) else (fraction + leadingBit, exponent)

/-- How many units of the last of so many places make one. -/
def scale (places : Nat) : Nat :=
  Nat.pow 10 places

/-- A double that is not negative in units of the last of so many places. -/
def scaled (places : Nat) (value : Float) : Nat :=
  let (whole, exponent) := parts value
  if 1075 ≤ exponent then (whole * scale places) <<< (exponent - 1075)
  else roundDiv (whole * scale places) (1 <<< (1075 - exponent))

/-- A number with leading zeros, if it has fewer digits than wanted. -/
def padded (width value : Nat) : String :=
  let digits := Nat.toDigits 10 value
  String.ofList (List.replicate (width - digits.length) '0' ++ digits)

/-- The decimal form of a double that is not negative. -/
def text (places : Nat) (value : Float) : String :=
  let units := scaled places value
  let whole := units / scale places
  let fraction := padded places (units % scale places)
  s!"{whole}.{fraction}"

end EventFormation.Fixed
