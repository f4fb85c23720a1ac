import EventFormation.Extent
import EventFormation.Limits
import EventFormation.Moments

/-!
# Clusters

A cluster gathers the readouts believed to come from one neutron capture. It
remembers its hits in the order in which they came, and keeps their extents
and moments up to date as they come. Whatever the order of operations, a
cluster with hits is the one that takes the same hits one by one from empty.

A cluster is reported as one readout: the time of its earliest hit, the
centroid of the charge, and the whole charge.
-/

namespace EventFormation

/-- Readouts believed to come from one neutron capture. -/
structure Cluster where
  /-- The hits, first come first. -/
  hits : List Readout := []
  time : Extent UInt64 := { lo := 0, hi := 0 }
  x : Extent UInt16 := { lo := 0, hi := 0 }
  y : Extent UInt16 := { lo := 0, hi := 0 }
  /-- Moments weighted by charge. -/
  moments : Moments := {}
  /-- Moments weighted by the square of the charge. -/
  squared : Moments := {}
  deriving Inhabited

namespace Cluster

/-- The moments of one readout, weighted by its charge. -/
def chargeMoments (readout : Readout) : Moments :=
  .point readout.weight.toFloat readout.x.toFloat readout.y.toFloat

/-- The moments of one readout, weighted by the square of its charge. -/
def squareMoments (readout : Readout) : Moments :=
  .point (readout.weight.toFloat * readout.weight.toFloat) readout.x.toFloat readout.y.toFloat

/-- The cluster of one readout. -/
def single (readout : Readout) : Cluster where
  hits := [readout]
  time := .point readout.time
  x := .point readout.x
  y := .point readout.y
  moments := chargeMoments readout
  squared := squareMoments readout

/-- Takes a readout in. The first hit replaces whatever the extents held. -/
def insert (cluster : Cluster) (readout : Readout) : Cluster :=
  if cluster.hits.isEmpty then
    single readout
  else
    { hits := cluster.hits ++ [readout]
      time := cluster.time.insert readout.time
      x := cluster.x.insert readout.x
      y := cluster.y.insert readout.y
      moments := cluster.moments.union (chargeMoments readout)
      squared := cluster.squared.union (squareMoments readout) }

/-- Takes every hit of another cluster in, in order. -/
def absorb (cluster other : Cluster) : Cluster :=
  other.hits.foldl insert cluster

/-- Forgets the hits and the moments. The extents stay until the next hit. -/
def clear (cluster : Cluster) : Cluster :=
  { cluster with hits := [], moments := {}, squared := {} }

/-- The cluster that takes the given hits one by one from empty. -/
def ofHits (hits : List Readout) : Cluster :=
  hits.foldl insert {}

def size (cluster : Cluster) : Nat :=
  cluster.hits.length

def isEmpty (cluster : Cluster) : Bool :=
  cluster.hits.isEmpty

def start (cluster : Cluster) : Nat :=
  cluster.time.lo.toNat

/-- Rounds a coordinate or a charge, halves away from zero, and cuts it to
what a word holds. -/
def toWord (value : Float) : UInt16 :=
  value.round.toUInt16

/-- The one readout that stands for the cluster. Kind, source and payload are
those of the first hit; without charge the centroid is the low corner. -/
def reduce (cluster : Cluster) : Readout :=
  match cluster.hits with
  | [] => {}
  | first :: _ =>
    let total := cluster.moments.w
    if 0 < total then
      { first with
        time := cluster.time.lo
        x := toWord (cluster.moments.wx / total)
        y := toWord (cluster.moments.wy / total)
        weight := toWord total }
    else
      { first with
        time := cluster.time.lo
        x := cluster.x.lo
        y := cluster.y.lo
        weight := toWord total }

@[simp]
theorem hits_single (readout : Readout) : (single readout).hits = [readout] := rfl

@[simp]
theorem hits_insert (cluster : Cluster) (readout : Readout) :
    (cluster.insert readout).hits = cluster.hits ++ [readout] := by
  unfold insert
  split
  · rename_i empty
    simp [List.isEmpty_iff.mp empty]
  · rfl

@[simp]
theorem hits_absorb (cluster other : Cluster) :
    (cluster.absorb other).hits = cluster.hits ++ other.hits := by
  unfold absorb
  generalize other.hits = hits
  induction hits generalizing cluster with
  | nil => simp
  | cons hit rest ih => simp [ih]

end Cluster

end EventFormation
