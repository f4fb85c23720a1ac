import EventFormation.Pool
import EventFormation.Product
import EventFormation.Settings.Basic

/-!
# Clustering on lanes

The fine bins of a coarse bin are shared out to lanes, each with a cluster
pool and an output buffer of its own. A lane after the first one begins by
replaying the last two fine bins of its neighbour, so a cluster that crosses
the border is rebuilt whole; the lane that owns the start of a cluster reports
it and the other one discards it. What is still open at the end of the last
lane is carried into the first lane for the next call.

Lanes do not touch each other's state, so the order in which they run does not
matter.
-/

namespace EventFormation

/-- Number of fine bins that a lane replays from its neighbour. -/
def lookback : Nat := 2

/-- Start of the fine bin of a number, if the first one starts at `base`. -/
def fineStart (base width number : Nat) : Nat :=
  base + width * number

/-- Start of the fine bin of a number as 64 bits tell it: past the end of the
clock the sum wraps around. -/
def wrappedStart (base width number : Nat) : Nat :=
  fineStart base width number % UInt64.size

/-- A cluster pool with an output buffer. -/
structure Lane where
  pool : Pool
  /-- What the lane has produced and not yet handed on. -/
  buffer : Array Product := #[]
  deriving Inhabited

namespace Lane

/-- Takes the neutrons of replayed bins in. -/
def replay (lane : Lane) (bins : List (List Readout)) : Lane :=
  { lane with pool := (bins.flatten.filter Readout.isNeutron).foldl Pool.insert lane.pool }

/-- Takes one readout of a bin of its own in: neutrons go to the pool, all
others straight to the buffer. -/
def take (lane : Lane) (readout : Readout) : Lane :=
  if readout.isNeutron then
    { lane with pool := lane.pool.insert readout }
  else
    { lane with buffer := lane.buffer.push (.passed readout) }

/-- Puts the closed clusters of the pool into the buffer. Also gives their
number. -/
def flush (lane : Lane) : Lane × Nat :=
  let (pool, closed) := lane.pool.flush
  ({ pool, buffer := lane.buffer ++ closed.map Product.formed }, closed.length)

/-- Works one fine bin off. Clusters that started in the bin before can no
longer grow and are reported; those that started earlier still belong to
another lane and are discarded. -/
def work (lane : Lane) (width binStart : Nat) (bin : List Readout) : Lane × Nat :=
  let taken := bin.foldl take lane
  let passed := (bin.filter fun readout => !readout.isNeutron).length
  let (flushed, formed) :=
    { taken with pool := (taken.pool.close (binStart - width) binStart).1 : Lane }.flush
  (flushed, passed + formed)

/-- Works consecutive fine bins off, the first of which has the given number;
`start` says when the bin of a number starts. -/
def workAll (start : Nat → Nat) (width : Nat) (number : Nat) (bins : List (List Readout))
    (lane : Lane) : Lane × Nat :=
  match bins with
  | [] => lane.flush
  | bin :: rest =>
    let (worked, emitted) := lane.work width (start number) bin
    let (finished, more) := worked.workAll start width (number + 1) rest
    (finished, emitted + more)

/-- Runs a lane on its share of the fine bins, from number `first` up to but
not including `stop`. Gives the number of products. -/
def run (start : Nat → Nat) (width : Nat) (bins : List (List Readout)) (first stop : Nat)
    (replays : Bool) (lane : Lane) : Lane × Nat :=
  if stop ≤ first then
    (lane, 0)
  else
    let earlier := first - lookback
    let prepared :=
      if replays then lane.replay ((bins.drop earlier).take (first - earlier)) else lane
    prepared.workAll start width first ((bins.drop first).take (stop - first))

def clear (lane : Lane) : Lane :=
  { pool := lane.pool.clearActive.1.clearClosed.1, buffer := #[] }

end Lane

/-- Clustering on lanes. -/
structure Lanes where
  /-- The lanes, in the order of their shares. -/
  list : List Lane
  deriving Inhabited

namespace Lanes

/-- That many lanes with pools of the given size. -/
def ofCount (count : Nat) (limits : Limits) (slots : Nat) : Lanes :=
  { list := List.replicate count { pool := .ofSize limits slots } }

/-- Lanes, if there is to be at least one. -/
def create (count : Nat) (limits : Limits) (slots : Nat) : Except Settings.Fault Lanes :=
  if count = 0 then .error .laneless else .ok (ofCount count limits slots)

def count (lanes : Lanes) : Nat :=
  lanes.list.length

/-- Number of lanes that get a share of so many bins. -/
def used (lanes bins : Nat) : Nat :=
  max 1 (min lanes bins)

/-- The share of a lane: the number of its first bin and the number after its
last one. The last lane in use takes what does not divide evenly, and lanes
that are not in use get nothing. -/
def share (lanes bins lane : Nat) : Nat × Nat :=
  let used := used lanes bins
  let each := bins / used
  if used ≤ lane then (bins, bins)
  else if lane + 1 = used then (lane * each, bins)
  else (lane * each, (lane + 1) * each)

def runAll (start : Nat → Nat) (width : Nat) (bins : List (List Readout)) (lanes : List Lane) :
    List (Lane × Nat) :=
  lanes.mapIdx fun index lane =>
    let (first, stop) := share lanes.length bins.length index
    lane.run start width bins first stop (0 < index)

/-- Hands the open clusters of the last lane in use over to the first lane. The
lanes before it have nothing open that is not open there too. -/
def handOver (used : Nat) (lanes : List Lane) : List Lane :=
  if used ≤ 1 then
    lanes
  else
    let cleared := lanes.mapIdx fun index lane =>
      if index + 1 < used then { lane with pool := lane.pool.clearActive.1 } else lane
    match cleared, cleared[used - 1]? with
    | head :: rest, some last =>
      let (receiver, giver, _) := head.pool.moveActive last.pool
      ({ head with pool := receiver } :: rest).set (used - 1) { last with pool := giver }
    | _, _ => cleared

/-- Clusters the fine bins of one coarse bin, which are `width` long; `start`
says when the bin of a number starts. Appends what the lanes produce to `out`,
lane by lane, and gives the number of products. -/
def processAt (lanes : Lanes) (start : Nat → Nat) (width : Nat) (bins : List (List Readout))
    (out : List Product) : Lanes × List Product × Nat :=
  let sharing := used lanes.count bins.length
  let ran := runAll start width bins lanes.list
  let produced := ran.flatMap fun (lane, _) => lane.buffer.toList
  let emitted := (ran.map (·.2)).foldr (· + ·) 0
  let emptied := ran.map fun (lane, _) => { lane with buffer := #[] }
  ({ list := handOver sharing emptied }, out ++ produced, emitted)

/-- Clusters the fine bins of one coarse bin, the first of which starts at
`base`. -/
def process (lanes : Lanes) (base width : Nat) (bins : List (List Readout))
    (out : List Product) : Lanes × List Product × Nat :=
  lanes.processAt (fineStart base width) width bins out

/-- Drops every cluster and every product not handed on. -/
def clear (lanes : Lanes) : Lanes :=
  { list := lanes.list.map Lane.clear }

def activeCount (lanes : Lanes) : Nat :=
  (lanes.list.map fun lane => lane.pool.active.length).foldr (· + ·) 0

def tally (lanes : Lanes) : Tally :=
  .total (lanes.list.map fun lane => lane.pool.tally)

end Lanes

end EventFormation
