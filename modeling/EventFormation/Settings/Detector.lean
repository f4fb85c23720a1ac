import EventFormation.Clock

/-!
# Detector

The pixels of the detector are numbered column by column from a base number.
The other parameters say how the stream of readouts is timed: how far behind
the newest readout the processing may run, and what the time of flight is
measured against.
-/

namespace EventFormation

/-- Geometry and timing of the detector. -/
structure Detector where
  basePixel : UInt32 := 0
  columns : UInt16 := 1024
  rows : UInt16 := 1024
  /-- How far behind the newest readout the processing may run, in nanoseconds. -/
  eventLag : Nat := 50000000
  /-- Times of flight are measured against chopper frame starts. -/
  frameMode : Bool := false
  /-- Shortest time of flight when frames are used, in nanoseconds. -/
  minFlight : Nat := 3000000
  /-- Milliseconds without input before partly filled bins are released. -/
  idleMillis : Nat := 100
  deriving DecidableEq, Inhabited

namespace Detector

/-- The number of the pixel at a position. There is none outside the detector,
nor where the numbers of pixels end. -/
def pixel? (detector : Detector) (x y : UInt16) : Option UInt32 :=
  if x < detector.columns ∧ y < detector.rows then
    let number := detector.basePixel.toNat + (x.toNat * detector.rows.toNat + y.toNat)
    if number < UInt32.size then some (.ofNat number) else none
  else
    none

/-- Time without input before partly filled bins are released, in nanoseconds. -/
def idleSpan (detector : Detector) : Nat :=
  saturate (detector.idleMillis * 1000000)

end Detector

end EventFormation
