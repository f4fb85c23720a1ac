import EventFormation.Proximity
import EventFormation.Tally

/-!
# Cluster pools

A pool holds a fixed number of cluster slots. Each slot number is in exactly
one of three lists: free slots, active clusters that may still grow, and
closed clusters that wait to be reported. Slots never come into being or
vanish; what has no slot is dropped and counted.

A readout joins the first active cluster that admits it. If several admit it,
the others are merged into the first one before the readout is taken in.
-/

namespace EventFormation

/-- Clusters in a fixed number of slots. -/
structure Pool where
  limits : Limits
  slots : Array Cluster
  /-- Slots that hold no cluster, the next to be used first. -/
  free : List Nat
  /-- Slots of the clusters that may still grow. -/
  active : List Nat := []
  /-- Slots of the clusters that wait to be reported. -/
  closed : List Nat := []
  tally : Tally := {}
  /-- The last readout that needed a slot found none. -/
  exhausted : Bool := false
  /-- How often the pool has run out of slots. -/
  shortages : Nat := 0
  deriving Inhabited

namespace Pool

/-- A pool of that many slots, all free; low numbers are used first. -/
def ofSize (limits : Limits) (size : Nat) : Pool :=
  { limits, slots := Array.replicate size {}, free := List.range size }

def size (pool : Pool) : Nat :=
  pool.slots.size

def cluster (pool : Pool) (slot : Nat) : Cluster :=
  pool.slots[slot]?.getD {}

def activeClusters (pool : Pool) : List Cluster :=
  pool.active.map pool.cluster

def closedClusters (pool : Pool) : List Cluster :=
  pool.closed.map pool.cluster

/-- Removes the entry at a position; the last entry takes its place. -/
def swapRemove {α : Type} (entries : List α) (position : Nat) : List α :=
  match entries.getLast? with
  | none => []
  | some last => (entries.set position last).dropLast

/-- The positions in the active list whose clusters admit the readout. -/
def admitting (pool : Pool) (readout : Readout) : List Nat :=
  (pool.active.zipIdx.filter fun (slot, _) =>
    decide (pool.limits.Admits (pool.cluster slot) readout)).map (·.2)

/-- Starts a cluster with the readout, or drops it if no slot is free. -/
def startCluster (pool : Pool) (readout : Readout) : Pool :=
  match pool.free with
  | slot :: free =>
    { pool with
      slots := pool.slots.setIfInBounds slot (.single readout)
      free
      active := pool.active ++ [slot]
      tally.created := pool.tally.created + 1
      tally.added := pool.tally.added + 1
      exhausted := false }
  | [] =>
    { pool with
      tally.dropped := pool.tally.dropped + 1
      exhausted := true
      shortages := if pool.exhausted then pool.shortages else pool.shortages + 1 }

/-- Merges the active cluster at a position into the one in the slot `target`
and frees its slot. -/
def mergeInto (target : Nat) (position : Nat) (pool : Pool) : Pool :=
  match pool.active[position]? with
  | none => pool
  | some slot =>
    let source := pool.cluster slot
    { pool with
      slots := (pool.slots.modify target (·.absorb source)).modify slot Cluster.clear
      free := slot :: pool.free
      active := swapRemove pool.active position
      tally.merged := pool.tally.merged + 1 }

/-- Takes a readout into the active clusters. Positions are merged from the
highest down, so no merge moves a cluster that is still to be merged. -/
def insert (pool : Pool) (readout : Readout) : Pool :=
  match pool.admitting readout with
  | [] => pool.startCluster readout
  | first :: others =>
    let target := pool.active.getD first 0
    let merged := others.foldr (mergeInto target) pool
    { merged with
      slots := merged.slots.modify target (·.insert readout)
      tally.added := merged.tally.added + 1 }

/-- Closes active clusters by their start. Those that start before `start` are
discarded, those that start before `stop` wait to be reported, and the others
stay active. Says how many were discarded. -/
def close (pool : Pool) (start stop : Nat) : Pool × Nat :=
  let starts := fun slot => (pool.cluster slot).start
  let discarded := pool.active.filter fun slot => starts slot < start
  let kept := pool.active.filter fun slot => !decide (starts slot < start)
  let closing := kept.filter fun slot => starts slot < stop
  let growing := kept.filter fun slot => !decide (starts slot < stop)
  ({ pool with
      free := discarded.reverse ++ pool.free
      active := growing
      closed := pool.closed ++ closing
      tally.discarded := pool.tally.discarded + discarded.length },
    discarded.length)

/-- Frees the slots of the active clusters without reporting them and says how
many there were. -/
def clearActive (pool : Pool) : Pool × Nat :=
  ({ pool with free := pool.active.reverse ++ pool.free, active := [] }, pool.active.length)

/-- Frees the slots of the closed clusters without reporting them and says how
many there were. -/
def clearClosed (pool : Pool) : Pool × Nat :=
  ({ pool with free := pool.closed.reverse ++ pool.free, closed := [] }, pool.closed.length)

/-- Hands the closed clusters out and frees their slots. -/
def flush (pool : Pool) : Pool × List Cluster :=
  ({ pool with
      free := pool.closed.reverse ++ pool.free
      closed := []
      tally.emitted := pool.tally.emitted + pool.closed.length },
    pool.closedClusters)

/-- Takes one cluster of another pool in, or drops its hits if no slot is free. -/
def receive (pool : Pool) (cluster : Cluster) : Pool :=
  match pool.free with
  | slot :: free =>
    { pool with
      slots := pool.slots.setIfInBounds slot cluster
      free
      active := pool.active ++ [slot]
      tally.transferred := pool.tally.transferred + 1 }
  | [] => { pool with tally.dropped := pool.tally.dropped + cluster.size }

/-- Moves the active clusters of `giver` to `receiver`. Gives the receiver, the
giver and the number of clusters that found a slot. -/
def moveActive (receiver giver : Pool) : Pool × Pool × Nat :=
  let received := giver.activeClusters.foldl receive receiver
  (received, giver.clearActive.1, received.tally.transferred - receiver.tally.transferred)

end Pool

end EventFormation
