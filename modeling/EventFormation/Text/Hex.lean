/-!
# Hexadecimal digits

Numbers in lower-case hexadecimal, with a least number of digits.
-/

namespace EventFormation.Hex

/-- The lower-case digit of a number below sixteen. -/
def digit (value : Nat) : Char :=
  if value < 10 then .ofNat ('0'.toNat + value) else .ofNat ('a'.toNat + (value - 10))

/-- Exactly `count` digits of a number, the lowest ones. -/
def fixed (count value : Nat) : List Char :=
  match count with
  | 0 => []
  | count + 1 => fixed count (value / 16) ++ [digit (value % 16)]

/-- The digits of a number without leading zeros. -/
def digits (value : Nat) : List Char :=
  if value < 16 then [digit value] else digits (value / 16) ++ [digit (value % 16)]
  termination_by value

end EventFormation.Hex
