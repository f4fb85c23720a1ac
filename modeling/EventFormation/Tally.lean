/-!
# Clustering tallies

What a cluster pool has done since it was made. Summed over lanes, the tally
includes the readouts that each lane replays from its neighbour: a cluster
rebuilt there counts as created in both lanes and is discarded by the lane
that does not own it.
-/

namespace EventFormation

/-- Running counts of a cluster pool. -/
structure Tally where
  /-- Readouts taken into a cluster. -/
  added : Nat := 0
  /-- Readouts lost because no slot was free. -/
  dropped : Nat := 0
  created : Nat := 0
  /-- Clusters absorbed into another one. -/
  merged : Nat := 0
  /-- Clusters that started before the window being closed. -/
  discarded : Nat := 0
  /-- Clusters reduced and reported. -/
  emitted : Nat := 0
  transferred : Nat := 0
  deriving DecidableEq, Inhabited

namespace Tally

/-- Counts added one by one. -/
def sum (first second : Tally) : Tally where
  added := first.added + second.added
  dropped := first.dropped + second.dropped
  created := first.created + second.created
  merged := first.merged + second.merged
  discarded := first.discarded + second.discarded
  emitted := first.emitted + second.emitted
  transferred := first.transferred + second.transferred

instance : Add Tally := ⟨sum⟩

def total (tallies : List Tally) : Tally :=
  tallies.foldl (· + ·) {}

end Tally

end EventFormation
