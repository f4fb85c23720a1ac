import EventFormation.Cluster

/-!
# Products

What processing makes of readouts: clusters, and the readouts that are not
clustered. Either stands for one readout in what follows.
-/

namespace EventFormation

/-- A readout that was passed on, or a cluster that was formed. -/
inductive Product where
  /-- A readout, as it came. -/
  | passed (readout : Readout)
  /-- A cluster that no longer grows. -/
  | formed (cluster : Cluster)

namespace Product

def readout : Product → Readout
  | passed readout => readout
  | formed cluster => cluster.reduce

def readouts (products : List Product) : List Readout :=
  products.map readout

/-- The cluster of a product, if it is one. -/
def cluster? : Product → Option Cluster
  | passed _ => none
  | formed cluster => some cluster

def clusters (products : List Product) : List Cluster :=
  products.filterMap cluster?

@[simp]
theorem readouts_append (first second : List Product) :
    readouts (first ++ second) = readouts first ++ readouts second :=
  List.map_append

theorem readouts_map_passed (taken : List Readout) : readouts (taken.map passed) = taken := by
  rw [readouts, List.map_map]
  exact List.map_id taken

theorem readouts_map_formed (clusters : List Cluster) :
    readouts (clusters.map formed) = clusters.map Cluster.reduce := by
  rw [readouts, List.map_map]
  rfl

@[simp]
theorem clusters_append (first second : List Product) :
    clusters (first ++ second) = clusters first ++ clusters second :=
  List.filterMap_append

end Product

end EventFormation
