import EventFormation.Clock
import EventFormation.Readout
import EventFormation.Settings.Basic

/-!
# Time bins

Readouts wait in a ring of coarse bins that starts at the base time. The last
bin of the ring is kept free, so that a full ring can be told from an empty
one. The base bin can be spread over fine bins, and is let go by moving the
base one bin on.

The ring is re-anchored when time jumps. If the new base lies in the window
the bins before it are let go one by one; otherwise everything is dropped.
-/

namespace EventFormation

/-- A ring of coarse time bins and the fine bins of its base. -/
structure TimeRing where
  layout : Layout
  /-- Slot of the base bin. -/
  first : Nat := 0
  /-- Slot after the newest occupied bin; the ring is empty if it is the base slot. -/
  stop : Nat := 0
  /-- Start of the base bin in nanoseconds. -/
  base : Nat := 0
  coarse : Array (Array Readout)
  fine : Array (Array Readout)
  deriving Inhabited

namespace TimeRing

/-- Empty bins of a layout, with the base at time zero. -/
def empty (layout : Layout) : TimeRing where
  layout
  coarse := Array.replicate layout.coarseCount #[]
  fine := Array.replicate layout.fineCount #[]

/-- Empty bins of a layout, if it can be used. -/
def create (layout : Layout) : Except Settings.Fault TimeRing :=
  match Settings.layoutFault? layout with
  | some fault => .error fault
  | none => .ok (empty layout)

def isEmpty (ring : TimeRing) : Bool :=
  ring.first == ring.stop

def occupied (ring : TimeRing) : Nat :=
  (ring.stop + ring.layout.coarseCount - ring.first) % ring.layout.coarseCount

def span (ring : TimeRing) : Nat :=
  ring.layout.coarseWidth * ring.occupied

/-- Whether the window of a ring with that base takes an instant in. The last
bin of the ring is not part of the window. -/
def inWindow (layout : Layout) (base time : Nat) : Bool :=
  base ≤ time && (time - base) / layout.coarseWidth < layout.coarseCount - 1

/-- Whether the window takes an instant in. -/
def accepts (ring : TimeRing) (time : Nat) : Bool :=
  inWindow ring.layout ring.base time

/-- Start of the coarse bin that lies so many bins after the base. -/
def binStart (ring : TimeRing) (bins : Nat) : Nat :=
  bins * ring.layout.coarseWidth + ring.base

/-- Adds a readout to the coarse bin of its time. -/
def file (layout : Layout) (bins : Array (Array Readout)) (readout : Readout) :
    Array (Array Readout) :=
  bins.modify (layout.coarseIndex readout.time.toNat) (·.push readout)

/-- The latest of the times, or `base` if they are all before it. -/
def newest (base : Nat) (readouts : List Readout) : Nat :=
  readouts.foldl (fun time readout => max time readout.time.toNat) base

/-- Files every readout of the window in its coarse bin and says how many
there were. The others are dropped. -/
def insert (ring : TimeRing) (readouts : List Readout) : TimeRing × Nat :=
  let layout := ring.layout
  let base := ring.base
  let accepted := readouts.filter fun readout => inWindow layout base readout.time.toNat
  let last := newest base accepted
  let stop :=
    if accepted ≠ [] ∧ ring.span ≤ last - base then
      (layout.coarseIndex last + 1) % layout.coarseCount
    else ring.stop
  ({ ring with stop, coarse := accepted.foldl (file layout) ring.coarse }, accepted.length)

def count (bins : Array (Array Readout)) : Nat :=
  bins.foldl (fun sum bin => sum + bin.size) 0

/-- Empties the fine bins and says how many readouts they held. -/
def clearFine (ring : TimeRing) : TimeRing × Nat :=
  ({ ring with fine := Array.replicate ring.fine.size #[] }, count ring.fine)

/-- Empties the coarse bins, in place, and says how many readouts they held. -/
def clearCoarse (ring : TimeRing) : TimeRing × Nat :=
  ({ ring with coarse := Array.replicate ring.coarse.size #[] }, count ring.coarse)

/-- The readouts of the base bin. -/
def baseBin (ring : TimeRing) : Array Readout :=
  ring.coarse[ring.first]?.getD #[]

/-- Lets the base bin go and moves the base one bin on. Says how many readouts
went with it. An empty ring stays as it is. -/
def advance (ring : TimeRing) : TimeRing × Nat :=
  if ring.isEmpty then
    (ring, 0)
  else
    let dropped := ring.baseBin.size
    ({ ring with
        first := (ring.first + 1) % ring.layout.coarseCount
        base := ring.base + ring.layout.coarseWidth
        coarse := ring.coarse.modify ring.first fun _ => #[] },
      dropped)

/-- Lets at most `steps` bins go, until the base is in the slot `target`. -/
def advanceTo (target : Nat) (steps : Nat) (ring : TimeRing) : TimeRing × Nat :=
  match steps with
  | 0 => (ring, 0)
  | steps + 1 =>
    if ring.isEmpty || ring.first == target then
      (ring, 0)
    else
      let (ring, dropped) := ring.advance
      let (ring, more) := ring.advanceTo target steps
      (ring, dropped + more)

/-- Drops everything and puts the base at the bin of an instant. -/
def anchor (ring : TimeRing) (time : Nat) : TimeRing × Nat :=
  let (ring, _) := ring.clearFine
  let (ring, dropped) := ring.clearCoarse
  let slot := ring.layout.coarseIndex time
  ({ ring with base := ring.layout.coarseFloor time, first := slot, stop := slot }, dropped)

/-- Moves the base to the bin of an instant and says how many readouts were
dropped. -/
def reset (ring : TimeRing) (time : Nat) : TimeRing × Nat :=
  if ring.isEmpty || !ring.accepts time then
    ring.anchor time
  else
    let target := ring.layout.coarseIndex time
    let cleared := if ring.first == target then ring else ring.clearFine.1
    let (moved, dropped) := cleared.advanceTo target cleared.occupied
    if moved.first == target then
      (moved, dropped)
    else
      let (anchored, more) := moved.anchor time
      (anchored, dropped + more)

/-- Adds a readout to the fine bin of its time. -/
def fileFine (layout : Layout) (bins : Array (Array Readout)) (readout : Readout) :
    Array (Array Readout) :=
  bins.modify (layout.fineIndex readout.time.toNat) (·.push readout)

/-- Copies the base bin into the fine bins and says how many readouts it
holds. The base bin stays as it is. -/
def spread (ring : TimeRing) : TimeRing × Nat :=
  if ring.isEmpty then
    (ring, 0)
  else
    let bin := ring.baseBin
    ({ ring with fine := bin.foldl (fileFine ring.layout) ring.fine }, bin.size)

/-- The readouts of each fine bin, in the order of time. -/
def fineBins (ring : TimeRing) : List (List Readout) :=
  ring.fine.toList.map Array.toList

/-- Lets at most `steps` bins go while the base is before `limit`, and gives
their readouts and how many there were. -/
def takeUntil (limit : Nat) (steps : Nat) (ring : TimeRing) : TimeRing × List Readout × Nat :=
  match steps with
  | 0 => (ring, [], 0)
  | steps + 1 =>
    if ring.isEmpty || limit ≤ ring.base then
      (ring, [], 0)
    else
      let bin := ring.baseBin
      let (ring, rest, more) := ring.advance.1.takeUntil limit steps
      (ring, bin.toList ++ rest, bin.size + more)

/-- Lets whole bins go while the base is less than `window` after where it was,
and gives their readouts and how many there were. -/
def takeWindow (ring : TimeRing) (window : Nat) : TimeRing × List Readout × Nat :=
  ring.takeUntil (saturate (ring.base + window)) ring.occupied

end TimeRing

end EventFormation
