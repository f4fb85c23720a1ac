import EventFormation.Json.Basic

/-!
# JSON strings

A string ends at the next quote that is not escaped. Control characters must
be escaped. An escape of four hexadecimal digits gives a UTF-16 unit; a
leading surrogate must be followed at once by the escape of a trailing one.
What has been gathered must be UTF-8, which is found out at the closing quote.
-/

namespace EventFormation.Json

def hexValue? (byte : UInt8) : Option Nat :=
  let code := byte.toNat
  if 48 ≤ code ∧ code ≤ 57 then some (code - 48)
  else if 97 ≤ code ∧ code ≤ 102 then some (code - 87)
  else if 65 ≤ code ∧ code ≤ 70 then some (code - 55)
  else none

/-- Reads four hexadecimal digits. -/
def hexUnit : Reader Nat := fun input =>
  match input with
  | a :: b :: c :: d :: rest =>
    match hexValue? a, hexValue? b, hexValue? c, hexValue? d with
    | some a, some b, some c, some d => .ok (((a * 16 + b) * 16 + c) * 16 + d, rest)
    | _, _, _, _ => .error .malformed
  | _ => .error .ended

/-- The byte that a letter after a backslash stands for. -/
def simpleEscape? (byte : UInt8) : Option UInt8 :=
  if is byte '"' then some 34
  else if is byte '\\' then some 92
  else if is byte '/' then some 47
  else if is byte 'b' then some 8
  else if is byte 'f' then some 12
  else if is byte 'n' then some 10
  else if is byte 'r' then some 13
  else if is byte 't' then some 9
  else none

def utf8 (code : Nat) : Bytes :=
  (String.singleton (Char.ofNat code)).toUTF8.toList

/-- Reads the escape of a trailing surrogate after a leading one. -/
def trailing (leading : Nat) : Reader Bytes := fun input =>
  match input with
  | [] => .error .ended
  | slash :: rest =>
    if !is slash '\\' then .error .malformed
    else match rest with
      | [] => .error .ended
      | letter :: rest =>
        if !is letter 'u' then .error .malformed
        else do
          let (unit, rest) ← hexUnit rest
          if unit < 0xDC00 || 0xDFFF < unit then .error .malformed
          else .ok (utf8 (0x10000 + (leading - 0xD800) * 0x400 + (unit - 0xDC00)), rest)

/-- Reads a character written as one or two escaped UTF-16 units. -/
def escapedCharacter : Reader Bytes := fun input => do
  let (unit, rest) ← hexUnit input
  if 0xDC00 ≤ unit && unit ≤ 0xDFFF then .error .malformed
  else if 0xD800 ≤ unit && unit ≤ 0xDBFF then trailing unit rest
  else .ok (utf8 unit, rest)

/-- Reads what follows a backslash. -/
def escape : Reader Bytes := fun input =>
  match input with
  | [] => .error .ended
  | letter :: rest =>
    if is letter 'u' then escapedCharacter rest
    else match simpleEscape? letter with
      | some byte => .ok ([byte], rest)
      | none => .error .malformed

/-- Reads a string after its opening quote. `gathered` holds what has been read
of it, the last byte first. Every round takes at least one byte, so as many
rounds as there are bytes are enough. -/
def gather (rounds : Nat) (gathered : Bytes) : Reader Bytes := fun input =>
  match rounds, input with
  | 0, _ | _, [] => .error .ended
  | rounds + 1, byte :: rest =>
    if is byte '"' then .ok (gathered.reverse, rest)
    else if is byte '\\' then do
      let (bytes, rest) ← escape rest
      gather rounds (bytes.reverse ++ gathered) rest
    else if byte.toNat < 32 then .error .malformed
    else gather rounds (byte :: gathered) rest

def text : Reader String := fun input => do
  let (bytes, rest) ← gather (input.length + 1) [] input
  match String.fromUTF8? ⟨bytes.toArray⟩ with
  | some text => .ok (text, rest)
  | none => .error .malformed

end EventFormation.Json
