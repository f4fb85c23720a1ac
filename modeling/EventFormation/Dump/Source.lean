import EventFormation.Wire.Summary

/-!
# Dump files as a source

A dump file is read back as a whole or in batches of so many records. Its
length must be a whole number of records.
-/

namespace EventFormation

/-- Why a dump file cannot be read. -/
inductive DumpFault where
  /-- The file cannot be opened. -/
  | unreadable
  /-- The length of the file is no whole number of records. -/
  | torn (length : Nat)
  deriving DecidableEq

/-- What is wrong with a file of that length. -/
def DumpFault.tornText (length : Nat) : String :=
  s!"file size {length} is not a multiple of {Record.size}"

/-- What is reported for a file of that length, with where it comes from. -/
def DumpFault.tornReport (length : Nat) : String :=
  "invalid file format: " ++ tornText length

/-- Readouts that are processed together. -/
structure Batch where
  /-- The readouts, in order. -/
  readouts : List Readout
  /-- Their times and what was lost. -/
  summary : Summary
  deriving DecidableEq, Inhabited

/-- An opened dump file. -/
structure DumpSource where
  /-- The contents of the file. -/
  bytes : Bytes
  deriving DecidableEq, Inhabited

namespace DumpSource

/-- Opens a file with these contents; there are none if the file is missing. -/
def open? (contents : Option Bytes) : Except DumpFault DumpSource :=
  match contents with
  | none => .error .unreadable
  | some bytes =>
    if bytes.length % Record.size = 0 then .ok { bytes } else .error (.torn bytes.length)

def recordCount (source : DumpSource) : Nat :=
  source.bytes.length / Record.size

def readAll (source : DumpSource) : List Readout :=
  (Record.decodeAll source.bytes).filter Record.known

/-- Cuts bytes into at most `count` pieces of the given length, the last of which
may be shorter. -/
def pieces (length count : Nat) (bytes : Bytes) : List Bytes :=
  match count with
  | 0 => []
  | count + 1 =>
    if bytes.isEmpty then [] else bytes.take length :: pieces length count (bytes.drop length)

/-- The length of so many records, with zero acting as one, in words of 64 bits. -/
def pieceLength (size : Nat) : Nat :=
  max 1 size * Record.size % UInt64.size

/-- The file in batches of so many records; zero acts as one. There is no answer if the
length of a batch comes out as zero. -/
def batches? (source : DumpSource) (size : Nat) : Option (List Batch) :=
  if pieceLength size = 0 then none
  else
    some ((pieces (pieceLength size) source.bytes.length source.bytes).map fun piece =>
      let (readouts, summary) := Record.decodeKnown piece
      { readouts, summary })

theorem pieceLength_of_fits {size : Nat} (fits : max 1 size * Record.size < UInt64.size) :
    pieceLength size = max 1 size * Record.size :=
  Nat.mod_eq_of_lt fits

/-- The length of a batch is not lost as long as it fits into a word. -/
theorem isSome_batches? (source : DumpSource) {size : Nat}
    (fits : max 1 size * Record.size < UInt64.size) : (source.batches? size).isSome := by
  have positive : pieceLength size ≠ 0 := by
    rw [pieceLength_of_fits fits, Record.size]
    omega
  rw [batches?, if_neg positive]
  rfl

end DumpSource

end EventFormation
