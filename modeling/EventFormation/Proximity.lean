import EventFormation.Cluster

/-!
# Which cluster a readout joins

A cluster admits a readout that is close to one of its hits and not later than
its span after its earliest hit. The extents of the cluster give a cheap test
that comes before the walk over the hits.
-/

namespace EventFormation

namespace Limits

/-- The readout is not out of reach of the extents of the cluster, and not
later than the span after its start. -/
def InReach (limits : Limits) (cluster : Cluster) (readout : Readout) : Prop :=
  cluster.time.lo.toNat ≤ readout.time.toNat + limits.gap ∧
    readout.time.toNat ≤ cluster.time.hi.toNat + limits.gap ∧
    readout.time.toNat ≤ cluster.time.lo.toNat + limits.span ∧
    cluster.x.lo.toNat ≤ readout.x.toNat + limits.dx.toNat ∧
    readout.x.toNat ≤ cluster.x.hi.toNat + limits.dx.toNat ∧
    cluster.y.lo.toNat ≤ readout.y.toNat + limits.dy.toNat ∧
    readout.y.toNat ≤ cluster.y.hi.toNat + limits.dy.toNat

instance (limits : Limits) (cluster : Cluster) (readout : Readout) :
    Decidable (limits.InReach cluster readout) :=
  inferInstanceAs (Decidable (_ ∧ _))

/-- The cluster takes the readout in. -/
def Admits (limits : Limits) (cluster : Cluster) (readout : Readout) : Prop :=
  limits.InReach cluster readout ∧ ∃ hit ∈ cluster.hits, limits.Close hit readout

instance (limits : Limits) (cluster : Cluster) (readout : Readout) :
    Decidable (limits.Admits cluster readout) :=
  inferInstanceAs (Decidable (_ ∧ _))

end Limits

end EventFormation
