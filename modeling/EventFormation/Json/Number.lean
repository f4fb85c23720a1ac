import EventFormation.Clock
import EventFormation.Json.Basic

/-!
# JSON numbers

A number is wanted as an unsigned integer that fits 64 bits. Any other number
is still read to its end: it must be well formed and must not be larger than
every double. Its size is judged by the digits that fit 64 bits, scaled by a
power of ten; further digits only count as places.
-/

namespace EventFormation.Json

def isDigit (byte : UInt8) : Bool :=
  48 ≤ byte.toNat && byte.toNat ≤ 57

/-- The digits at the front and what follows them. -/
def digits (input : Bytes) : Bytes × Bytes :=
  (input.takeWhile isDigit, input.dropWhile isDigit)

/-- Continues a number with digits for as long as it fits 64 bits. Gives the
number and how many digits went into it. -/
def accumulate (value : Nat) : Bytes → Nat × Nat
  | [] => (value, 0)
  | digit :: rest =>
    let next := value * 10 + (digit.toNat - 48)
    if clockEnd < next then
      (value, 0)
    else
      let (last, used) := accumulate next rest
      (last, used + 1)

/-- The largest power of ten that is a double. -/
def largestPower : Nat := 308

/-- Whether a number is larger than every double. -/
def tooLarge (significand : Nat) (exponent : Int) : Bool :=
  if exponent < 0 then false
  else if (largestPower : Int) < exponent then significand != 0
  else (significand.toUInt64.toFloat * Float.ofScientific 1 false exponent.toNat).isInf

/-- The largest exponent that is taken at its value. A larger one stands for
zero or for a number larger than every double. -/
def largestExponent : Nat := 2147483647

/-- Accepts a number that is not larger than every double. -/
def accept (significand : Nat) (exponent : Int) (rest : Bytes) : Except Fault Bytes :=
  if tooLarge significand exponent then .error .malformed else .ok rest

/-- Reads an exponent after its mark. -/
def exponentPart (significand : Nat) (places : Int) (input : Bytes) : Except Fault Bytes :=
  let (negative, unsigned) :=
    match input with
    | byte :: rest =>
      if is byte '-' then (true, rest) else if is byte '+' then (false, rest) else (false, input)
    | [] => (false, [])
  match digits unsigned with
  | ([], []) => .error .ended
  | ([], _ :: _) => .error .malformed
  | (written, rest) =>
    let (exponent, used) := accumulate 0 written
    if used < written.length || largestExponent < exponent then
      if !negative && significand != 0 then .error .malformed else .ok rest
    else
      accept significand (if negative then places - exponent else places + exponent) rest

def exponentPart? (significand : Nat) (places : Int) (input : Bytes) : Except Fault Bytes :=
  match input with
  | byte :: rest =>
    if is byte 'e' || is byte 'E' then exponentPart significand places rest
    else accept significand places input
  | [] => accept significand places input

/-- Reads the digits after a decimal point, and an exponent if there is one. -/
def fractionPart (significand : Nat) (places : Int) (input : Bytes) : Except Fault Bytes :=
  match digits input with
  | ([], []) => .error .ended
  | ([], _ :: _) => .error .malformed
  | (written, rest) =>
    let (significand, used) := accumulate significand written
    exponentPart? significand (places - used) rest

/-- Reads a number whose sign has been read. Gives its value if it is written
as an integer of at most 64 bits. -/
def magnitude : Reader (Option Nat) := fun input =>
  match digits input with
  | ([], []) => .error .ended
  | ([], _ :: _) => .error .malformed
  | (first :: more, rest) =>
    if is first '0' && !more.isEmpty then
      .error .malformed
    else
      let (significand, used) := accumulate 0 (first :: more)
      let places : Int := (more.length + 1 - used : Nat)
      let inexact := fun (outcome : Except Fault Bytes) => outcome.map fun rest => (none, rest)
      match rest with
      | byte :: after =>
        if is byte '.' then inexact (fractionPart significand places after)
        else if is byte 'e' || is byte 'E' then inexact (exponentPart significand places after)
        else if places = 0 then .ok (some significand, rest)
        else inexact (accept significand places rest)
      | [] =>
        if places = 0 then .ok (some significand, rest)
        else inexact (accept significand places rest)

/-- Whether a number can start with a byte. -/
def startsNumber (byte : UInt8) : Bool :=
  is byte '-' || isDigit byte

/-- Reads a number. Gives its value if it is written as an unsigned integer of
at most 64 bits. -/
def number : Reader (Option Nat) := fun input =>
  match input with
  | byte :: rest =>
    if is byte '-' then (magnitude rest).map fun (_, rest) => (none, rest)
    else magnitude input
  | [] => .error .ended

end EventFormation.Json
