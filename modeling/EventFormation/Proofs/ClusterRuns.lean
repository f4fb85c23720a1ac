import EventFormation.Proofs.ClusterHits

/-!
# Clusters in use

Any number of clusters are seeded, take readouts in, absorb one another and are
cleared, in any order.  Nothing but its hits, in their order, decides what a
cluster with hits is: it is the one that takes them one by one from an empty
cluster, also if the empty one has kept the extents of hits that it has
forgotten.  So it does not matter in which order clusters absorb one another as
long as the hits come in the same order.
-/

namespace EventFormation

/-- What can be asked of clusters, which are told by numbers. -/
inductive ClusterStep where
  /-- The cluster forgets its hits and begins anew with a readout. -/
  | seed (number : Nat) (readout : Readout)
  | insert (number : Nat) (readout : Readout)
  /-- The first cluster takes the hits of the second one in. -/
  | absorb (number other : Nat)
  | clear (number : Nat)
  deriving DecidableEq

namespace Cluster

/-- If the cluster has hits, it is the one that took them one by one. -/
def Sound (cluster : Cluster) : Prop :=
  cluster.hits ≠ [] → cluster.Settled

variable {cluster other : Cluster}

theorem sound_of_empty (empty : cluster.hits = []) : cluster.Sound :=
  fun occupied => absurd empty occupied

/-- What an empty cluster has kept makes no difference to the first hit. -/
theorem insert_of_empty (empty : cluster.hits = []) (readout : Readout) :
    cluster.insert readout = single readout := by
  rw [Cluster.insert, if_pos (List.isEmpty_iff.mpr empty)]

theorem foldl_insert_of_empty (empty : cluster.hits = []) {hits : List Readout}
    (occupied : hits ≠ []) : hits.foldl insert cluster = ofHits hits := by
  cases hits with
  | nil => contradiction
  | cons first rest =>
      have fresh : ({} : Cluster).hits = [] := rfl
      rw [ofHits, List.foldl_cons, List.foldl_cons, insert_of_empty empty, insert_of_empty fresh]

theorem Sound.insert (sound : cluster.Sound) (readout : Readout) :
    (cluster.insert readout).Sound := by
  intro _
  by_cases empty : cluster.hits = []
  · rw [insert_of_empty empty]
    exact settled_single readout
  · exact (sound empty).insert readout

theorem Sound.absorb (sound : cluster.Sound) (other : Cluster) :
    (cluster.absorb other).Sound := by
  unfold Cluster.absorb
  generalize other.hits = hits
  induction hits generalizing cluster with
  | nil => exact sound
  | cons hit hits induction => exact induction (sound.insert hit)

/-- Absorbing reads the hits of the other cluster only, so it is associative in
all that a cluster is. -/
theorem absorb_absorb (cluster other third : Cluster) :
    (cluster.absorb other).absorb third = cluster.absorb (other.absorb third) := by
  have joined : (other.absorb third).hits = other.hits ++ third.hits := hits_absorb other third
  calc (cluster.absorb other).absorb third
      = third.hits.foldl insert (other.hits.foldl insert cluster) := rfl
    _ = (other.hits ++ third.hits).foldl insert cluster := List.foldl_append.symm
    _ = cluster.absorb (other.absorb third) := by rw [← joined]; rfl

end Cluster

namespace ClusterStep

def perform (clusters : Nat → Cluster) : ClusterStep → Nat → Cluster
  | .seed number readout => Function.update clusters number (.single readout)
  | .insert number readout => Function.update clusters number ((clusters number).insert readout)
  | .absorb number other =>
    Function.update clusters number ((clusters number).absorb (clusters other))
  | .clear number => Function.update clusters number (clusters number).clear

/-- Performs steps one after the other on clusters that are empty at first. -/
def run (steps : List ClusterStep) : Nat → Cluster :=
  steps.foldl perform fun _ => {}

theorem perform_cases (clusters : Nat → Cluster) (step : ClusterStep) :
    ∃ number after, perform clusters step = Function.update clusters number after ∧
      ((∃ readout, after = .single readout) ∨
        (∃ readout, after = (clusters number).insert readout) ∨
        (∃ other, after = (clusters number).absorb (clusters other)) ∨
        after.hits = []) := by
  cases step with
  | seed number readout => exact ⟨number, _, rfl, .inl ⟨readout, rfl⟩⟩
  | insert number readout => exact ⟨number, _, rfl, .inr (.inl ⟨readout, rfl⟩)⟩
  | absorb number other => exact ⟨number, _, rfl, .inr (.inr (.inl ⟨other, rfl⟩))⟩
  | clear number => exact ⟨number, _, rfl, .inr (.inr (.inr rfl))⟩

theorem sound_perform {clusters : Nat → Cluster} (sound : ∀ number, (clusters number).Sound)
    (step : ClusterStep) (number : Nat) : (perform clusters step number).Sound := by
  obtain ⟨changed, after, performed, cases⟩ := perform_cases clusters step
  have soundAfter : after.Sound := by
    rcases cases with ⟨readout, rfl⟩ | ⟨readout, rfl⟩ | ⟨other, rfl⟩ | empty
    · exact fun _ => Cluster.settled_single readout
    · exact (sound changed).insert readout
    · exact (sound changed).absorb _
    · exact Cluster.sound_of_empty empty
  rw [performed]
  by_cases same : number = changed
  · rw [same, Function.update_self]
    exact soundAfter
  · rw [Function.update_of_ne same]
    exact sound number

theorem sound_run (steps : List ClusterStep) (number : Nat) : (run steps number).Sound := by
  have general : ∀ clusters : Nat → Cluster, (∀ number, (clusters number).Sound) →
      ∀ number, (steps.foldl perform clusters number).Sound := by
    induction steps with
    | nil => exact fun _ sound => sound
    | cons step steps induction =>
        exact fun clusters sound => induction (perform clusters step) (sound_perform sound step)
  exact general _ (fun _ => Cluster.sound_of_empty rfl) number

/-- Whatever is asked of clusters, one that has hits is in all its fields the one
that takes these hits in order from an empty cluster, whatever extents that one
has kept, and its extents are the least and the greatest values of its hits.
Clusters may be absorbed one into the other in either grouping. -/
theorem run_determined_by_hits (steps : List ClusterStep) :
    (∀ number, (run steps number).hits ≠ [] →
      (∀ empty : Cluster, empty.hits = [] →
        run steps number = (run steps number).hits.foldl Cluster.insert empty) ∧
      (run steps number).Bounded) ∧
    ∀ cluster other third : Cluster,
      (cluster.absorb other).absorb third = cluster.absorb (other.absorb third) := by
  refine ⟨?_, Cluster.absorb_absorb⟩
  intro number occupied
  have settled : (run steps number).Settled := sound_run steps number occupied
  refine ⟨?_, settled.bounded⟩
  intro empty none
  rw [Cluster.foldl_insert_of_empty none occupied]
  exact settled.rebuilt

/-- A cluster that has been cleared keeps its old extents until it takes a readout in,
and then absorbs another one. -/
theorem cleared_cluster_determined_by_hits :
    let steps : List ClusterStep :=
      [.seed 0 (.neutron 900 40 40 3), .clear 0, .seed 1 (.neutron 30 6 7 2),
        .insert 1 (.neutron 20 9 7 4), .insert 0 (.neutron 25 5 8 1), .absorb 0 1]
    let stale : Cluster := { time := { lo := 900, hi := 900 } }
    (run steps 0).hits = [.neutron 25 5 8 1, .neutron 30 6 7 2, .neutron 20 9 7 4] ∧
      (run steps 0).time = { lo := 20, hi := 30 } ∧
      run steps 0 = (run steps 0).hits.foldl Cluster.insert stale ∧
      (run steps 0).Bounded := by
  intro steps stale
  have hits : (run steps 0).hits =
      [.neutron 25 5 8 1, .neutron 30 6 7 2, .neutron 20 9 7 4] := by rfl
  have occupied : (run steps 0).hits ≠ [] := by
    rw [hits]
    exact List.cons_ne_nil _ _
  obtain ⟨rebuilt, bounded⟩ := (run_determined_by_hits steps).1 0 occupied
  exact ⟨hits, by decide +kernel, rebuilt stale rfl, bounded⟩

end ClusterStep

end EventFormation
