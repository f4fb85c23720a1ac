import EventFormation.Lanes
import EventFormation.Router
import EventFormation.TimeRing
import EventFormation.Wire.Summary

/-!
# The engine

The engine forms events from decoded readouts. Batches are filed in time bins;
what lies far enough behind the newest readout is released as a block,
clustered or passed through, and routed to a sink. When the input is idle for
long enough the bins are released without waiting for newer readouts.

A batch that starts outside the window of the bins is a jump in time: the bins
are re-anchored, and open clusters and queued frames are forgotten.
-/

namespace EventFormation

/-- Milliseconds that are waited for input before a tick counts as idle. -/
def pollMillis : Nat := 10

/-- Counts of the engine itself. -/
structure EngineCounts where
  packets : Nat := 0
  bytes : Nat := 0
  /-- Buffers lost because the input queue was full. -/
  overflows : Nat := 0
  /-- Bytes that could not be decoded. -/
  lostBytes : Nat := 0
  gaps : Nat := 0
  refused : Nat := 0
  /-- Readouts dropped for lying outside the window. -/
  dropped : Nat := 0
  resets : Nat := 0
  deriving DecidableEq, Inhabited

/-- All counts of the processing at one moment. -/
structure Counters where
  engine : EngineCounts
  routing : RouteCounts
  /-- Tallies of the lanes, summed. -/
  clustering : Tally
  deriving DecidableEq, Inhabited

/-- Time bins, lanes and router, with what governs the release of blocks. -/
structure Engine where
  ring : TimeRing
  lanes : Option Lanes
  router : Router
  /-- How far behind the newest readout blocks are released, in nanoseconds. -/
  lag : Nat
  /-- Time released at once when the input is idle, in nanoseconds. -/
  idleSpan : Nat
  /-- Number of idle ticks after which the input counts as idle. -/
  idleTicks : Nat
  /-- Idle ticks that are left. -/
  countdown : Nat
  counts : EngineCounts := {}
  deriving Inhabited

namespace Engine

/-- An engine that has seen nothing, without a look at the rules. -/
def ofSettings (settings : Settings) : Engine :=
  let ticks := max 1 (settings.detector.idleMillis / pollMillis)
  let clustering := settings.clustering
  { ring := .empty settings.layout
    lanes :=
      if clustering.enabled then
        some (.ofCount clustering.lanes clustering.limits clustering.slots)
      else none
    router := .create settings.detector settings.layout.fineWidth
    lag := settings.detector.eventLag
    idleSpan := settings.detector.idleSpan
    idleTicks := ticks
    countdown := ticks }

/-- An engine that has seen nothing, if the settings break no rule. -/
def create (settings : Settings) : Except Settings.Fault Engine :=
  match settings.fault? with
  | some fault => .error fault
  | none => .ok (ofSettings settings)

/-- The same engine with another number of idle ticks, at least one. -/
def withIdleTicks (engine : Engine) (ticks : Nat) : Engine :=
  { engine with idleTicks := max 1 ticks, countdown := max 1 ticks }

def recordPacket (engine : Engine) (bytes : Nat) : Engine :=
  { engine with
    counts.packets := engine.counts.packets + 1
    counts.bytes := engine.counts.bytes + bytes }

/-- Counts what could not be decoded. -/
def recordLosses (engine : Engine) (summary : Summary) : Engine :=
  { engine with
    counts.lostBytes := engine.counts.lostBytes + summary.lostBytes
    counts.gaps := engine.counts.gaps + summary.gaps }

/-- Counts a buffer that was refused as a whole. -/
def recordRefusal (engine : Engine) : Engine :=
  { engine with counts.refused := engine.counts.refused + 1 }

/-- Takes over the number of buffers lost at the input queue. -/
def recordOverflows (engine : Engine) (total : Nat) : Engine :=
  { engine with counts.overflows := total }

def counters (engine : Engine) : Counters where
  engine := engine.counts
  routing := engine.router.counts
  clustering := (engine.lanes.map Lanes.tally).getD {}

/-- Whether a batch that starts at that time is a jump. -/
def jumps (engine : Engine) (earliest : Nat) : Bool :=
  !engine.ring.accepts (engine.ring.layout.coarseFloor earliest)

/-- Re-anchors the bins for a batch that starts at that time, and forgets open
clusters and queued frames. -/
def jump (engine : Engine) (earliest : Nat) : Engine :=
  let (ring, dropped) := engine.ring.reset (engine.ring.layout.coarseFloor earliest)
  { engine with
    ring
    lanes := engine.lanes.map Lanes.clear
    router := engine.router.resetFrames
    counts.dropped := engine.counts.dropped + dropped
    counts.resets := engine.counts.resets + 1 }

/-- Files readouts in the bins and counts those outside the window. -/
def fileReadouts (engine : Engine) (readouts : List Readout) : Engine :=
  let (ring, accepted) := engine.ring.insert readouts
  { engine with
    ring
    counts.dropped := engine.counts.dropped + (readouts.length - accepted) }

/-- Takes in a batch that starts at the time `earliest`. -/
def ingest (engine : Engine) (readouts : List Readout) (earliest : Nat) : Engine :=
  if readouts.isEmpty then
    engine
  else
    let awake := { engine with countdown := engine.idleTicks }
    let anchored := if awake.jumps earliest then awake.jump earliest else awake
    anchored.fileReadouts readouts

def idle (engine : Engine) : Engine :=
  { engine with countdown := engine.countdown - 1 }

/-- How much time may be released now: what is older than the lag, or the idle
span once the input has been idle for long enough. -/
def blockSpan (engine : Engine) : Nat :=
  let span := engine.ring.span
  if engine.lag + engine.ring.layout.coarseWidth < span then span - engine.lag
  else if !engine.ring.isEmpty && engine.countdown == 0 then engine.idleSpan
  else 0

/-- Clusters the base bin, lets it go, and goes on for at most `bins` bins.
Gives what the lanes produce. -/
def clusterBins (bins : Nat) (ring : TimeRing) (lanes : Lanes) :
    TimeRing × Lanes × List Product :=
  match bins with
  | 0 => (ring, lanes, [])
  | bins + 1 =>
    if ring.isEmpty then
      (ring, lanes, [])
    else
      let (ring, _) := ring.spread
      let (lanes, products, _) :=
        lanes.process ring.base ring.layout.fineWidth ring.fineBins []
      let (ring, _) := ring.clearFine
      let (ring, _) := ring.advance
      let (ring, lanes, rest) := clusterBins bins ring lanes
      (ring, lanes, products ++ rest)

/-- Releases at most `bins` coarse bins through the lanes, or `span` of time
straight from the bins if readouts are not clustered. -/
def release (engine : Engine) (bins span : Nat) : Engine × List Product :=
  match engine.lanes with
  | some lanes =>
    let (ring, lanes, products) :=
      clusterBins (min bins engine.ring.occupied) engine.ring lanes
    ({ engine with ring, lanes := some lanes }, products)
  | none =>
    let (ring, readouts, _) := engine.ring.takeWindow span
    ({ engine with ring }, readouts.map .passed)

/-- Closes the clusters that are still open, against empty fine bins. -/
def closeOpen (engine : Engine) : Engine × List Product :=
  match engine.lanes with
  | none => (engine, [])
  | some lanes =>
    let (ring, _) := engine.ring.clearFine
    let (lanes, products, _) := lanes.process ring.base ring.layout.fineWidth ring.fineBins []
    ({ engine with ring, lanes := some lanes.clear }, products)

/-- Routes products that were released from `base` on. -/
def tell (engine : Engine) (base : Nat) (products : List Product) : Plan Engine :=
  (engine.router.route base (Product.readouts products)).map fun router => { engine with router }

def flush (engine : Engine) : Plan Engine :=
  engine.router.flush.map fun router => { engine with router }

end Engine

/-- What is released at once: what processing made of it, and what is told to
the sink. -/
structure Block where
  products : List Product
  /-- The calls to the sink, and what becomes of the engine. -/
  plan : Plan Engine

def Block.readouts (block : Block) : List Readout :=
  Product.readouts block.products

namespace Engine

/-- Releases what may be released now. -/
def process (engine : Engine) : Block :=
  let span := engine.blockSpan
  if span = 0 then
    { products := [], plan := .done engine }
  else
    let base := engine.ring.base
    let (released, products) := engine.release (span / engine.ring.layout.coarseWidth) span
    { products, plan := released.tell base products }

/-- Releases every bin and every open cluster, and has the sink publish
everything. -/
def drain (engine : Engine) : Block :=
  let base := engine.ring.base
  let layout := engine.ring.layout
  let (released, products) := engine.release layout.coarseCount layout.window
  let (closed, carried) := released.closeOpen
  { products := products ++ carried
    plan := (closed.tell base (products ++ carried)).andThen flush }

end Engine

end EventFormation
