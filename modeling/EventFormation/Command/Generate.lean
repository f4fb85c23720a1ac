import EventFormation.Command.Failure
import EventFormation.Dump.Series

/-!
# Synthetic readouts

Streaks of neutrons at random places, one after the other in time, with frame
starts at a fixed period between them. The random numbers come from a linear
congruence in 31 bits, so the same seed always gives the same readouts.
-/

namespace EventFormation

/-- What synthetic readouts are made of. -/
structure Synthesis where
  streaks : Nat := 10000
  hits : Nat := 4
  /-- Nanoseconds between frame starts; zero for none. -/
  framePeriod : Nat := 1000000
  /-- Width and height of the detector. -/
  pixels : Nat := 1024
  /-- Where the random numbers start. -/
  seed : Nat := 12345
  deriving DecidableEq, Inhabited

namespace Synthesis

def nextRandom (random : Nat) : Nat :=
  (random * 1103515245 + 12345) % 0x80000000

/-- What is reached after some streaks. -/
structure Progress where
  readouts : Array Readout := #[]
  random : Nat
  /-- Start of the next streak. -/
  time : Nat := 1000
  /-- The next frame start. -/
  nextFrame : Nat := 0
  deriving Inhabited

/-- Number of frame starts from the next one up to an instant. -/
def framesDue (synthesis : Synthesis) (progress : Progress) : Nat :=
  if synthesis.framePeriod = 0 ∨ progress.time < progress.nextFrame then 0
  else (progress.time - progress.nextFrame) / synthesis.framePeriod + 1

/-- Adds the frame starts that come before the next streak. -/
def addFrames (synthesis : Synthesis) (progress : Progress) : Progress :=
  let due := synthesis.framesDue progress
  let frames := (List.range due).map fun number =>
    Readout.marker .frameStart (.ofNat (progress.nextFrame + number * synthesis.framePeriod)) 0
  { progress with
    readouts := progress.readouts ++ frames
    nextFrame := progress.nextFrame + due * synthesis.framePeriod }

/-- Adds one readout of a streak that starts in the given pixel. Every other
readout lies one column further. -/
def addHit (x y : Nat) (progress : Progress) (number : Nat) : Progress :=
  let random := nextRandom progress.random
  { progress with
    random
    readouts := progress.readouts.push
      (.neutron (.ofNat (progress.time + number * 40)) (.ofNat (x + number % 2)) (.ofNat y)
        (.ofNat (1 + random % 8))) }

/-- Adds a streak, and the frame starts before it. -/
def addStreak (synthesis : Synthesis) (progress : Progress) : Progress :=
  let width := max 2 synthesis.pixels - 1
  let framed := synthesis.addFrames progress
  let column := nextRandom framed.random
  let row := nextRandom column
  let hit := (List.range synthesis.hits).foldl (addHit (column % width) (row % width))
    { framed with random := row }
  let random := nextRandom hit.random
  { hit with random, time := hit.time + (200 + random % 1000) }

/-- The readouts, in the order in which they are written. -/
def readouts (synthesis : Synthesis) : List Readout :=
  ((List.range synthesis.streaks).foldl (fun progress _ => synthesis.addStreak progress)
    { random := synthesis.seed }).readouts.toList

end Synthesis

namespace Command

/-- Writes synthetic readouts to a dump series with one file. -/
def generate (creates : String → Bool) (stem : String) (synthesis : Synthesis) :
    Outcome × Option DumpSeries :=
  match DumpSeries.create creates stem none with
  | .error _ => (.failed "" .keeping, none)
  | .ok empty =>
    let series := (empty.push synthesis.readouts).flush
    let names := String.intercalate ", " series.names
    ({ stdout := s!"Wrote {series.records} readouts to {names}\n" }, some series)

end Command

end EventFormation
