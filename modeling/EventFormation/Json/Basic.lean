import EventFormation.Wire.Word

/-!
# Reading JSON from bytes

A document is read in one pass from its first byte to its last, and the first
problem is reported. There are three sorts of problems: the text ends too
early, it is not JSON, or it is JSON so far but of another type than wanted.

Every reader takes the bytes that are left and gives a value and the bytes
that are left after it.
-/

namespace EventFormation

namespace Json

/-- What is wrong with a document. -/
inductive Fault where
  /-- The text ends before the value does. -/
  | ended
  /-- The text is not JSON. -/
  | malformed
  /-- A value has another type or range than wanted, or a key is repeated. -/
  | mismatch
  deriving DecidableEq

/-- The sort of a problem in one word. -/
def Fault.category : Fault → String
  | .ended => "eof"
  | .malformed => "syntax"
  | .mismatch => "data"

/-- Reads a value from the front of some bytes. -/
abbrev Reader (α : Type) := Bytes → Except Fault (α × Bytes)

/-- Whether a byte is that character. -/
def is (byte : UInt8) (character : Char) : Bool :=
  byte.toNat == character.toNat

def isBlank (byte : UInt8) : Bool :=
  is byte ' ' || is byte '\t' || is byte '\n' || is byte '\r'

def skipBlank (input : Bytes) : Bytes :=
  input.dropWhile isBlank

def word : List Char → Bytes → Except Fault Bytes
  | [], rest => .ok rest
  | _ :: _, [] => .error .ended
  | character :: more, byte :: rest =>
    if is byte character then word more rest else .error .malformed

end Json

end EventFormation
