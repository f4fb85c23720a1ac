import EventFormation.Clock
import EventFormation.Wire.Record

/-!
# Summaries of decoded bytes

A summary tells the span of the times that were decoded and how much could
not be: records of unknown kind and a torn record at the end count byte by
byte, and gaps in the numbering of packets one by one.
-/

namespace EventFormation

/-- What became of one buffer or batch. -/
structure Summary where
  /-- Earliest time, the end of the clock if there is none. -/
  earliest : Nat := clockEnd
  /-- Latest time, zero if there is none. -/
  latest : Nat := 0
  lostBytes : Nat := 0
  gaps : Nat := 0
  deriving DecidableEq, Inhabited

namespace Summary

/-- Takes a time in. -/
def observe (summary : Summary) (time : Nat) : Summary :=
  { summary with earliest := min summary.earliest time, latest := max summary.latest time }

/-- Whether a time was taken in. -/
def hasReadouts (summary : Summary) : Bool :=
  summary.earliest ≤ summary.latest

def ofReadouts (readouts : List Readout) : Summary :=
  readouts.foldl (fun summary readout => summary.observe readout.time.toNat) {}

end Summary

namespace Record

/-- Takes the next record in. A readout of known kind is appended and its time
observed; any other record is lost. -/
def accept (state : Array Readout × Summary) (record : Bytes) : Array Readout × Summary :=
  let (readouts, summary) := state
  let readout := decode record
  if known readout then
    (readouts.push readout, summary.observe readout.time.toNat)
  else
    (readouts, { summary with lostBytes := summary.lostBytes + size })

/-- Appends the readouts of known kind in a string of bytes, and tells what became
of all of its bytes. -/
def decodeOnto (readouts : Array Readout) (bytes : Bytes) : Array Readout × Summary :=
  (whole bytes).foldl accept (readouts, { lostBytes := bytes.length % size })

/-- The readouts of known kind in a string of bytes, and what became of all of
its bytes. -/
def decodeKnown (bytes : Bytes) : List Readout × Summary :=
  let (readouts, summary) := decodeOnto #[] bytes
  (readouts.toList, summary)

end Record

end EventFormation
