import EventFormation.Proofs.Components
import EventFormation.Proofs.PoolRuns

/-!
# Orders of arrival

A pool may take hits in before those that link them have come, and hold parts of
a component in several slots until a readout bridges them.  While no component is
longer than the span, nothing of this shows in the end: whatever the order, the
active clusters are the connected components.
-/

namespace EventFormation

namespace Pool

variable {pool : Pool}

/-- A pool that starts idle and drops nothing ends with the connected components. -/
theorem groups_insertAll_of_idle (wellFormed : pool.WellFormed) (idle : pool.active = [])
    (wide : 0 < pool.limits.dx.toNat) (high : 0 < pool.limits.dy.toNat) {readouts : List Readout}
    (compact : pool.limits.Compact (readouts : Hits))
    (kept : (pool.insertAll readouts).tally.dropped = pool.tally.dropped) :
    (pool.insertAll readouts).groups = pool.limits.components (readouts : Hits) := by
  have gathered := gathered_insertAll wellFormed readouts
  calc (pool.insertAll readouts).groups
      = pool.limits.gatherAll pool.groups readouts := gathered.groups kept
    _ = pool.limits.gatherAll 0 readouts := by rw [groups_of_idle idle]
    _ = pool.limits.components (readouts : Hits) :=
        Limits.gatherAll_components wide high readouts compact

end Pool

namespace PoolStep

/-- In whatever order a pool without active clusters takes readouts in, its active
clusters are then the connected components, one cluster for each, if no component
is longer than the span and no readout was dropped.  Two orders give the same
clusters, and clusters that wait to be reported are not touched. -/
theorem any_order_gives_components (steps : List PoolStep) {pool : Pool}
    (reached : pool ∈ run steps) (idle : pool.active = []) (wide : 0 < pool.limits.dx.toNat)
    (high : 0 < pool.limits.dy.toNat) {readouts : List Readout}
    (compact : pool.limits.Compact (readouts : Hits)) :
    (∀ order : List Readout, order.Perm readouts →
      (pool.insertAll order).tally.dropped = pool.tally.dropped →
        Cluster.groups (pool.insertAll order).activeClusters =
            pool.limits.components (readouts : Hits) ∧
          (pool.insertAll order).closedClusters = pool.closedClusters) ∧
      (pool.limits.components (readouts : Hits)).Nodup ∧
      ∀ first second : List Readout, first.Perm readouts → second.Perm readouts →
        (pool.insertAll first).tally.dropped = pool.tally.dropped →
        (pool.insertAll second).tally.dropped = pool.tally.dropped →
          Cluster.groups (pool.insertAll first).activeClusters =
            Cluster.groups (pool.insertAll second).activeClusters := by
  have wellFormed := (wellFormed_run steps).2 pool reached
  have ends : ∀ order : List Readout, order.Perm readouts →
      (pool.insertAll order).tally.dropped = pool.tally.dropped →
        (pool.insertAll order).groups = pool.limits.components (readouts : Hits) := by
    intro order permutation kept
    have same : (order : Hits) = (readouts : Hits) := Multiset.coe_eq_coe.mpr permutation
    rw [← same] at compact ⊢
    exact Pool.groups_insertAll_of_idle wellFormed idle wide high compact kept
  refine ⟨?_, Limits.nodup_components, ?_⟩
  · intro order permutation kept
    exact ⟨ends order permutation kept,
      (Pool.gathered_insertAll wellFormed order).closedClusters⟩
  · intro first second firstPermutation secondPermutation firstKept secondKept
    exact (ends first firstPermutation firstKept).trans
      (ends second secondPermutation secondKept).symm

/-- A streak of four hits comes in two halves that the last hit bridges, or in the
order of time, in slots that hold what is left of another cluster. -/
theorem bridged_order_gives_components :
    let limits : Limits := { span := 30, gap := 10 }
    let steps : List PoolStep :=
      [.create limits 4, .apply 0 (.insert (.neutron 7 90 90 1)),
        .apply 0 (.insert (.neutron 12 90 91 1)), .apply 0 .clearActive]
    let pool := (run steps).getD 0 default
    let inTime : List Readout :=
      [.neutron 10 5 5 1, .neutron 20 5 5 1, .neutron 30 6 5 1, .neutron 40 6 5 1,
        .neutron 40 60 5 1]
    let bridged : List Readout :=
      [.neutron 40 6 5 1, .neutron 10 5 5 1, .neutron 40 60 5 1, .neutron 20 5 5 1,
        .neutron 30 6 5 1]
    pool ∈ run steps ∧ pool.active = [] ∧ pool.limits.Compact (inTime : Hits) ∧
      (pool.insertAll bridged).tally.merged = 1 ∧
      Cluster.groups (pool.insertAll bridged).activeClusters =
        pool.limits.components (inTime : Hits) ∧
      Cluster.groups (pool.insertAll bridged).activeClusters =
        Cluster.groups (pool.insertAll inTime).activeClusters := by
  intro limits steps pool inTime bridged
  have reached : pool ∈ run steps := getD_mem_run (by decide +kernel)
  have idle : pool.active = [] := by decide +kernel
  have near : ∀ first ∈ inTime, ∀ second ∈ inTime,
      second.time.toNat ≤ first.time.toNat + pool.limits.span := by decide +kernel
  have compact : pool.limits.Compact (inTime : Hits) := by
    intro first firstMember second secondMember _
    exact near first firstMember second secondMember
  have permutation : bridged.Perm inTime := by decide
  have kept : (pool.insertAll bridged).tally.dropped = pool.tally.dropped := by decide +kernel
  have keptInTime : (pool.insertAll inTime).tally.dropped = pool.tally.dropped := by
    decide +kernel
  obtain ⟨components, -, alike⟩ := any_order_gives_components steps reached idle
    (by decide +kernel) (by decide +kernel) compact
  exact ⟨reached, idle, compact, by decide +kernel, (components bridged permutation kept).1,
    alike bridged inTime permutation (List.Perm.refl _) kept keptInTime⟩

end PoolStep

end EventFormation
