import EventFormation.Proofs.ExtentSpans
import EventFormation.Proofs.Grouping

/-!
# Clusters and their hits

A settled cluster has hits and is the one that took them one by one from
empty.  Its extents are then the least and the greatest values over the hits,
so which readouts it admits, and when it starts, depends on the hits alone and
not on their order.
-/

namespace EventFormation

private theorem map_insert_time (extent : Extent UInt64) (value : UInt64) :
    (extent.insert value).map UInt64.toNat = (extent.map UInt64.toNat).insert value.toNat := by
  have least : (min extent.lo value).toNat = min extent.lo.toNat value.toNat := by
    change (if extent.lo ≤ value then extent.lo else value).toNat = _
    simp only [apply_ite UInt64.toNat, UInt64.le_iff_toNat_le, Nat.min_def]
  have greatest : (max extent.hi value).toNat = max extent.hi.toNat value.toNat := by
    change (if extent.hi ≤ value then value else extent.hi).toNat = _
    simp only [apply_ite UInt64.toNat, UInt64.le_iff_toNat_le, Nat.max_def]
  simp only [Extent.insert, Extent.map, least, greatest]

private theorem map_insert_place (extent : Extent UInt16) (value : UInt16) :
    (extent.insert value).map UInt16.toNat = (extent.map UInt16.toNat).insert value.toNat := by
  have least : (min extent.lo value).toNat = min extent.lo.toNat value.toNat := by
    change (if extent.lo ≤ value then extent.lo else value).toNat = _
    simp only [apply_ite UInt16.toNat, UInt16.le_iff_toNat_le, Nat.min_def]
  have greatest : (max extent.hi value).toNat = max extent.hi.toNat value.toNat := by
    change (if extent.hi ≤ value then value else extent.hi).toNat = _
    simp only [apply_ite UInt16.toNat, UInt16.le_iff_toNat_le, Nat.max_def]
  simp only [Extent.insert, Extent.map, least, greatest]

namespace Cluster

/-- The hits of a cluster, in no order. -/
def group (cluster : Cluster) : Hits :=
  (cluster.hits : Multiset Readout)

/-- The cluster has hits and is the one that took them one by one. -/
structure Settled (cluster : Cluster) : Prop where
  occupied : cluster.hits ≠ []
  rebuilt : cluster = ofHits cluster.hits

theorem ofHits_append (earlier later : List Readout) :
    ofHits (earlier ++ later) = later.foldl insert (ofHits earlier) :=
  List.foldl_append

theorem hits_foldl_insert (cluster : Cluster) (hits : List Readout) :
    (hits.foldl insert cluster).hits = cluster.hits ++ hits := by
  induction hits generalizing cluster with
  | nil => simp
  | cons hit hits induction => simp [induction]

theorem hits_ofHits (hits : List Readout) : (ofHits hits).hits = hits := by
  rw [ofHits, hits_foldl_insert]
  rfl

theorem settled_ofHits {hits : List Readout} (occupied : hits ≠ []) :
    (ofHits hits).Settled := by
  constructor
  · rwa [hits_ofHits]
  · rw [hits_ofHits]

theorem settled_single (readout : Readout) : (single readout).Settled :=
  settled_ofHits (List.cons_ne_nil readout [])

variable {cluster other : Cluster}

theorem Settled.insert (settled : cluster.Settled) (readout : Readout) :
    (cluster.insert readout).Settled := by
  constructor
  · simp
  · conv_lhs => rw [settled.rebuilt]
    rw [hits_insert, ofHits_append]
    rfl

theorem Settled.absorb (settled : cluster.Settled) (other : Cluster) :
    (cluster.absorb other).Settled := by
  constructor
  · simp [settled.occupied]
  · conv_lhs => rw [settled.rebuilt]
    rw [hits_absorb, ofHits_append]
    rfl

theorem Settled.size_pos (settled : cluster.Settled) : 0 < cluster.size :=
  List.length_pos_iff.mpr settled.occupied

/-- The extents are those of the hits. -/
structure Bounded (cluster : Cluster) : Prop where
  time : (cluster.time.map UInt64.toNat).Spans (cluster.hits.map fun hit => hit.time.toNat)
  x : (cluster.x.map UInt16.toNat).Spans (cluster.hits.map fun hit => hit.x.toNat)
  y : (cluster.y.map UInt16.toNat).Spans (cluster.hits.map fun hit => hit.y.toNat)

theorem bounded_single (readout : Readout) : (single readout).Bounded :=
  { time := Extent.spans_point _
    x := Extent.spans_point _
    y := Extent.spans_point _ }

theorem Bounded.insert (bounded : cluster.Bounded) (readout : Readout) :
    (cluster.insert readout).Bounded := by
  by_cases empty : cluster.hits.isEmpty = true
  · rw [Cluster.insert, if_pos empty]
    exact bounded_single readout
  · rw [Cluster.insert, if_neg empty]
    constructor
    · simpa [map_insert_time] using bounded.time.insert readout.time.toNat
    · simpa [map_insert_place] using bounded.x.insert readout.x.toNat
    · simpa [map_insert_place] using bounded.y.insert readout.y.toNat

private theorem bounded_foldl_insert (bounded : cluster.Bounded) (hits : List Readout) :
    (hits.foldl Cluster.insert cluster).Bounded := by
  induction hits generalizing cluster with
  | nil => exact bounded
  | cons hit hits induction => exact induction (bounded.insert hit)

theorem Settled.bounded (settled : cluster.Settled) : cluster.Bounded := by
  cases hitsEq : cluster.hits with
  | nil => exact (settled.occupied hitsEq).elim
  | cons first rest =>
      rw [settled.rebuilt, hitsEq]
      exact bounded_foldl_insert (bounded_single first) rest

theorem Settled.start_lt_iff (settled : cluster.Settled) (time : Nat) :
    cluster.start < time ↔ cluster.group.StartBefore time := by
  have least := settled.bounded.time.le_lo_iff time
  simp only [Extent.map, List.mem_map, forall_exists_index, and_imp,
    forall_apply_eq_imp_iff₂] at least
  unfold start group Hits.StartBefore
  rw [← Nat.not_le, least]
  simp

theorem isNeutron_reduce {cluster : Cluster} (occupied : cluster.hits ≠ [])
    (neutral : ∀ hit ∈ cluster.hits, hit.isNeutron = true) : cluster.reduce.isNeutron = true := by
  cases hits : cluster.hits with
  | nil => exact (occupied hits).elim
  | cons first rest =>
      have kind : cluster.reduce.kind = first.kind := by
        simp only [Cluster.reduce, hits]
        split <;> rfl
      have neutron := neutral first (by simp [hits])
      unfold Readout.isNeutron at neutron ⊢
      rwa [kind]

theorem time_reduce {cluster : Cluster} (occupied : cluster.hits ≠ []) :
    cluster.reduce.time.toNat = cluster.start := by
  cases hits : cluster.hits with
  | nil => exact absurd hits occupied
  | cons first rest =>
      simp only [Cluster.reduce, hits]
      split <;> rfl

end Cluster

theorem Limits.admits_iff_joins (limits : Limits) {cluster : Cluster}
    (settled : cluster.Settled) (readout : Readout) :
    limits.Admits cluster readout ↔ limits.Joins cluster.group readout := by
  have bounded := settled.bounded
  have timeLo := bounded.time.lo_le_iff (readout.time.toNat + limits.gap)
  have timeHi := bounded.time.le_hi_iff (readout.time.toNat - limits.gap)
  have span := bounded.time.le_lo_iff (readout.time.toNat - limits.span)
  have xLo := bounded.x.lo_le_iff (readout.x.toNat + limits.dx.toNat)
  have xHi := bounded.x.le_hi_iff (readout.x.toNat - limits.dx.toNat)
  have yLo := bounded.y.lo_le_iff (readout.y.toNat + limits.dy.toNat)
  have yHi := bounded.y.le_hi_iff (readout.y.toNat - limits.dy.toNat)
  simp only [Extent.map, List.mem_map, exists_exists_and_eq_and, forall_exists_index, and_imp,
    forall_apply_eq_imp_iff₂, Nat.sub_le_iff_le_add] at timeLo timeHi span xLo xHi yLo yHi
  unfold Limits.Admits Limits.InReach Limits.Joins Cluster.group
  simp only [Multiset.mem_coe, timeLo, timeHi, span, xLo, xHi, yLo, yHi, and_assoc]

end EventFormation
