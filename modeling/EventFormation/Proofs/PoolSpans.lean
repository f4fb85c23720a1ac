import EventFormation.Proofs.PoolLedger

/-!
# How long clusters get

A cluster admits what comes no later than its span after its start.  The start
moves back when a hit comes out of order, and a readout that bridges clusters
makes one that reaches from the first start to the last end.  Still, a readout
that is admitted is at most the span after every hit of what it joins, and if it
comes late by no more than some time, no hit is later than it by more than that.
So clusters never get longer than the span and this time together.
-/

namespace EventFormation

/-- No hit of the group is later than another one by more than that. -/
def Hits.Lasts (length : Nat) (group : Hits) : Prop :=
  ∀ first ∈ group, ∀ second ∈ group, second.time.toNat ≤ first.time.toNat + length

theorem Limits.lasts_gather {limits : Limits} {grouping : Grouping} {readout : Readout}
    {disorder : Nat} (short : ∀ group ∈ grouping, group.Lasts (limits.span + disorder))
    (upTo : ∀ group ∈ grouping, ∀ hit ∈ group,
      hit.time.toNat ≤ readout.time.toNat + disorder) :
    ∀ group ∈ limits.gather grouping readout, group.Lasts (limits.span + disorder) := by
  intro group member
  rcases Multiset.mem_cons.mp member with rfl | untouched
  · -- Every hit of the new group is as far from the readout as the readout may be from it.
    have around : ∀ hit ∈ readout ::ₘ (grouping.filter fun group => limits.Joins group readout).sum,
        hit.time.toNat ≤ readout.time.toNat + disorder ∧
          readout.time.toNat ≤ hit.time.toNat + limits.span := by
      intro hit hitMember
      rcases Multiset.mem_cons.mp hitMember with rfl | inherited
      · omega
      · obtain ⟨source, sourceMember, inSource⟩ := Multiset.mem_join.mp inherited
        obtain ⟨old, -, -, within, -⟩ := Multiset.mem_filter.mp sourceMember
        exact ⟨upTo source old hit inSource, within hit inSource⟩
    intro first firstMember second secondMember
    have start := (around first firstMember).2
    have finish := (around second secondMember).1
    omega
  · exact short group (Multiset.mem_of_mem_filter untouched)

theorem Limits.mem_of_mem_gather {limits : Limits} {grouping : Grouping} {readout hit : Readout}
    {group : Hits} (member : group ∈ limits.gather grouping readout) (inGroup : hit ∈ group) :
    hit = readout ∨ ∃ source ∈ grouping, hit ∈ source := by
  rcases Multiset.mem_cons.mp member with rfl | untouched
  · rcases Multiset.mem_cons.mp inGroup with new | inherited
    · exact .inl new
    · obtain ⟨source, sourceMember, inSource⟩ := Multiset.mem_join.mp inherited
      exact .inr ⟨source, Multiset.mem_of_mem_filter sourceMember, inSource⟩
  · exact .inr ⟨group, Multiset.mem_of_mem_filter untouched, inGroup⟩

namespace Cluster

/-- The cluster ends no later than that after its start. -/
def Lasts (length : Nat) (cluster : Cluster) : Prop :=
  cluster.time.lo ≤ cluster.time.hi ∧ cluster.time.hi.toNat - cluster.time.lo.toNat ≤ length

theorem Settled.lasts {cluster : Cluster} (settled : cluster.Settled) {length : Nat}
    (short : cluster.group.Lasts length) : cluster.Lasts length := by
  have times := settled.bounded.time
  obtain ⟨first, firstMember, start⟩ := List.mem_map.mp times.lo_mem
  obtain ⟨last, lastMember, finish⟩ := List.mem_map.mp times.hi_mem
  have apart : last.time.toNat ≤ first.time.toNat + length :=
    short first (Multiset.mem_coe.mpr firstMember) last (Multiset.mem_coe.mpr lastMember)
  have ordered := times.lo_le _ times.hi_mem
  simp only [Extent.map] at start finish ordered
  exact ⟨UInt64.le_iff_toNat_le.mpr ordered, by omega⟩

end Cluster

namespace Pool

variable {pool : Pool}

def changeAll (pool : Pool) (changes : List PoolChange) : Pool :=
  changes.foldl change pool

/-- The readouts that are added by changes.  One that finds no slot is not. -/
def addedBy (pool : Pool) : List PoolChange → List Readout
  | [] => []
  | change :: changes => (pool.entry change).taken ++ (pool.change change).addedBy changes

/-- Clusters that were waiting already are the first ones that wait, or are gone;
all others that are there are short, and their active ones have been filled with
the readouts that were added. -/
structure Short (length : Nat) (waiting : List Cluster) (added : List Readout)
    (pool : Pool) : Prop where
  wellFormed : pool.WellFormed
  from_added : ∀ group ∈ pool.groups, ∀ hit ∈ group, hit ∈ added
  active : ∀ group ∈ pool.groups, group.Lasts length
  closed : ∃ left made, pool.closedClusters = left ++ made ∧ left <+: waiting ∧
    ∀ cluster ∈ made, cluster.Settled ∧ cluster.group.Lasts length

theorem short_of_idle (wellFormed : pool.WellFormed) (idle : pool.active = []) (length : Nat) :
    pool.Short length pool.closedClusters [] := by
  have none := groups_of_idle idle
  constructor
  · exact wellFormed
  · simp [none]
  · simp [none]
  · exact ⟨pool.closedClusters, [], (List.append_nil _).symm, List.prefix_rfl, by simp⟩

section

variable {length : Nat} {waiting : List Cluster} {added : List Readout}
  (short : pool.Short length waiting added)
include short

/-- A pool whose active clusters are among those of a short one. -/
theorem Short.fewer {after : Pool} (wellFormed : after.WellFormed)
    (fewer : ∀ group ∈ after.groups, group ∈ pool.groups)
    (closed : ∃ left made, after.closedClusters = left ++ made ∧ left <+: waiting ∧
      ∀ cluster ∈ made, cluster.Settled ∧ cluster.group.Lasts length) :
    after.Short length waiting added where
  wellFormed := wellFormed
  from_added := fun group member => short.from_added group (fewer group member)
  active := fun group member => short.active group (fewer group member)
  closed := closed

theorem Short.close (start stop : Nat) :
    (pool.close start stop).1.Short length waiting added := by
  refine short.fewer (short.wellFormed.close start stop) ?_ ?_
  · intro group member
    rw [groups_close short.wellFormed] at member
    exact Multiset.mem_of_mem_filter member
  · obtain ⟨left, made, split, old, shortMade⟩ := short.closed
    let later := pool.activeClusters.filter fun cluster => !decide (cluster.start < start)
    let closing := later.filter fun cluster => decide (cluster.start < stop)
    refine ⟨left, made ++ closing, ?_, old, ?_⟩
    · rw [closedClusters_close_eq_append, split, List.append_assoc]
    · intro cluster member
      rcases List.mem_append.mp member with before | now
      · exact shortMade cluster before
      · have growing : cluster ∈ pool.activeClusters :=
          List.mem_of_mem_filter (List.mem_of_mem_filter now)
        exact ⟨activeClusters_settled short.wellFormed cluster growing,
          short.active _ (mem_groups growing)⟩

theorem Short.emptied {after : Pool} (wellFormed : after.WellFormed)
    (active : after.groups = pool.groups) (closed : after.closedClusters = []) :
    after.Short length waiting added := by
  refine short.fewer wellFormed (fun group member => active ▸ member) ?_
  exact ⟨[], [], closed, List.nil_prefix, by simp⟩

end

theorem Short.insert {disorder : Nat} {waiting : List Cluster} {added : List Readout}
    (short : pool.Short (pool.limits.span + disorder) waiting added) {readout : Readout}
    (arrivals : (added ++ (pool.entry (.insert readout)).taken).Pairwise
      fun earlier later => earlier.time.toNat ≤ later.time.toNat + disorder) :
    (pool.insert readout).Short (pool.limits.span + disorder) waiting
      (added ++ (pool.entry (.insert readout)).taken) := by
  have closed := short.closed
  rw [← closedClusters_insert short.wellFormed readout] at closed
  by_cases full : pool.admitting readout = [] ∧ pool.free = []
  · have groups : (pool.insert readout).groups = pool.groups := by
      simp only [Pool.insert, full.1, startCluster, full.2]
      rfl
    rw [Pool.entry, if_pos full, List.append_nil]
    exact short.fewer (short.wellFormed.insert readout) (fun group member => groups ▸ member)
      closed
  · have groups : (pool.insert readout).groups = pool.limits.gather pool.groups readout :=
      groups_insert short.wellFormed readout (tally_insert_room short.wellFormed full).2
    rw [Pool.entry, if_neg full] at arrivals ⊢
    have late : ∀ hit ∈ added, hit.time.toNat ≤ readout.time.toNat + disorder :=
      fun hit member => (List.pairwise_append.mp arrivals).2.2 hit member readout
        (List.mem_singleton_self readout)
    constructor
    · exact short.wellFormed.insert readout
    · intro group member hit inGroup
      rw [groups] at member
      rcases Limits.mem_of_mem_gather member inGroup with rfl | ⟨source, sourceMember, inSource⟩
      · exact List.mem_append_right _ (List.mem_singleton_self _)
      · exact List.mem_append_left _ (short.from_added source sourceMember hit inSource)
    · rw [groups]
      exact Limits.lasts_gather short.active
        (fun source member hit inSource => late hit (short.from_added source member hit inSource))
    · exact closed

theorem limits_change (wellFormed : pool.WellFormed) {change : PoolChange}
    (steady : ∀ limits, change ≠ .setLimits limits) :
    (pool.change change).limits = pool.limits := by
  cases change with
  | setLimits limits => exact absurd rfl (steady limits)
  | insert readout => exact limits_insert wellFormed readout
  | close start stop => rfl
  | clearActive => rfl
  | clearClosed => rfl
  | flush => rfl

theorem Short.change {disorder : Nat} {waiting : List Cluster} {added : List Readout}
    (short : pool.Short (pool.limits.span + disorder) waiting added) {change : PoolChange}
    (steady : ∀ limits, change ≠ .setLimits limits)
    (arrivals : (added ++ (pool.entry change).taken).Pairwise
      fun earlier later => earlier.time.toNat ≤ later.time.toNat + disorder) :
    (pool.change change).Short (pool.limits.span + disorder) waiting
      (added ++ (pool.entry change).taken) := by
  cases change with
  | setLimits limits => exact absurd rfl (steady limits)
  | insert readout => exact short.insert arrivals
  | close start stop =>
      rw [Pool.entry, List.append_nil]
      exact short.close start stop
  | clearActive =>
      rw [Pool.entry, List.append_nil]
      exact short.fewer short.wellFormed.clearActive
        (fun group member => absurd member (Multiset.notMem_zero group)) short.closed
  | clearClosed =>
      rw [Pool.entry, List.append_nil]
      exact short.emptied short.wellFormed.clearClosed rfl rfl
  | flush =>
      rw [Pool.entry, List.append_nil]
      exact short.emptied short.wellFormed.flush rfl rfl

theorem Short.changeAll {disorder : Nat} {waiting : List Cluster} {added : List Readout}
    {changes : List PoolChange} (short : pool.Short (pool.limits.span + disorder) waiting added)
    (steady : ∀ limits, .setLimits limits ∉ changes)
    (arrivals : (added ++ pool.addedBy changes).Pairwise
      fun earlier later => earlier.time.toNat ≤ later.time.toNat + disorder) :
    (pool.changeAll changes).Short (pool.limits.span + disorder) waiting
      (added ++ pool.addedBy changes) := by
  induction changes generalizing pool added with
  | nil =>
      rw [addedBy, List.append_nil]
      exact short
  | cons change changes induction =>
      have steadyHere : ∀ limits, change ≠ .setLimits limits := by
        rintro limits rfl
        exact steady limits List.mem_cons_self
      have limits := limits_change short.wellFormed steadyHere
      rw [addedBy, ← List.append_assoc] at arrivals ⊢
      have first := short.change steadyHere (List.pairwise_append.mp arrivals).1
      rw [← limits] at first ⊢
      exact induction first
        (fun limits member => steady limits (List.mem_cons_of_mem _ member)) arrivals

end Pool

namespace PoolStep

/-- A pool that starts without active clusters and keeps its limits makes no cluster
that is longer than the span by more than the time by which the readouts it adds are
out of order.  This holds after any changes, of the active clusters and of those that
wait to be reported; ones that were waiting before all changes are the first to
wait, or are gone. -/
theorem changes_make_short_clusters (steps : List PoolStep) {pool : Pool}
    (reached : pool ∈ run steps) (idle : pool.active = []) {changes : List PoolChange}
    (steady : ∀ limits, .setLimits limits ∉ changes) {disorder : Nat}
    (arrivals : (pool.addedBy changes).Pairwise
      fun earlier later => earlier.time.toNat ≤ later.time.toNat + disorder) :
    let after := pool.changeAll changes
    (∀ cluster ∈ after.activeClusters, cluster.Lasts (pool.limits.span + disorder)) ∧
      ∃ left made, after.closedClusters = left ++ made ∧ left <+: pool.closedClusters ∧
        ∀ cluster ∈ made, cluster.Lasts (pool.limits.span + disorder) := by
  intro after
  have wellFormed := (wellFormed_run steps).2 pool reached
  have start := Pool.short_of_idle wellFormed idle (pool.limits.span + disorder)
  have short := start.changeAll steady arrivals
  obtain ⟨left, made, split, old, shortMade⟩ := short.closed
  refine ⟨?_, left, made, split, old, ?_⟩
  · intro cluster member
    have settled := Pool.activeClusters_settled short.wellFormed cluster member
    exact settled.lasts (short.active _ (Pool.mem_groups member))
  · intro cluster member
    obtain ⟨settled, lasts⟩ := shortMade cluster member
    exact settled.lasts lasts

/-- A readout that comes 20 too late makes a cluster longer than the span.  A far one
finds no slot, and a cluster that is longer still waits from before. -/
theorem late_readout_makes_short_cluster :
    let limits : Limits := { span := 16, gap := 16 }
    let steps : List PoolStep :=
      [.create limits 2, .apply 0 (.insert (.neutron 100 5 5 1)),
        .apply 0 (.insert (.neutron 86 5 5 1)), .apply 0 (.insert (.neutron 72 5 5 1)),
        .apply 0 (.insert (.neutron 58 5 5 1)), .apply 0 (.close 0 100)]
    let pool := (run steps).getD 0 default
    let changes : List PoolChange :=
      [.insert (.neutron 1000 5 5 1), .insert (.neutron 1016 5 5 1),
        .insert (.neutron 996 5 5 1), .insert (.neutron 5000 90 90 1),
        .insert (.neutron 1004 5 5 1), .close 900 1000]
    let after := pool.changeAll changes
    pool ∈ run steps ∧ pool.active = [] ∧
      pool.addedBy changes = [.neutron 1000 5 5 1, .neutron 1016 5 5 1, .neutron 996 5 5 1,
        .neutron 1004 5 5 1] ∧
      after.closedClusters.map Cluster.time = [{ lo := 58, hi := 100 }, { lo := 996, hi := 1016 }] ∧
      ∃ left made, after.closedClusters = left ++ made ∧ left <+: pool.closedClusters ∧
        ∀ cluster ∈ made, cluster.Lasts (16 + 20) := by
  intro limits steps pool changes after
  have reached : pool ∈ run steps := getD_mem_run (by decide +kernel)
  have idle : pool.active = [] := by decide +kernel
  have added : pool.addedBy changes = [.neutron 1000 5 5 1, .neutron 1016 5 5 1,
      .neutron 996 5 5 1, .neutron 1004 5 5 1] := by decide +kernel
  have steady : ∀ limits, .setLimits limits ∉ changes := by simp [changes]
  have arrivals : (pool.addedBy changes).Pairwise
      fun earlier later => earlier.time.toNat ≤ later.time.toNat + 20 := by
    rw [added]
    decide
  have span : pool.limits.span = 16 := by decide +kernel
  have times : after.closedClusters.map Cluster.time =
      [{ lo := 58, hi := 100 }, { lo := 996, hi := 1016 }] := by decide +kernel
  obtain ⟨-, made⟩ := changes_make_short_clusters steps reached idle steady arrivals
  rw [span] at made
  exact ⟨reached, idle, added, times, made⟩

/-- A long cluster that was closed before goes on waiting, while the one readout that is
added since comes in order. -/
theorem waiting_cluster_stays_long :
    let limits : Limits := { span := 16, gap := 16 }
    let steps : List PoolStep :=
      [.create limits 2, .apply 0 (.insert (.neutron 100 5 5 1)),
        .apply 0 (.insert (.neutron 86 5 5 1)), .apply 0 (.insert (.neutron 72 5 5 1)),
        .apply 0 (.insert (.neutron 58 5 5 1)), .apply 0 (.close 0 100)]
    let pool := (run steps).getD 0 default
    let changes : List PoolChange := [.insert (.neutron 1000 5 5 1)]
    let after := pool.changeAll changes
    pool ∈ run steps ∧ pool.limits = limits ∧ pool.active = [] ∧
      (∀ limits, .setLimits limits ∉ changes) ∧
      pool.addedBy changes = [.neutron 1000 5 5 1] ∧
      ∃ cluster ∈ after.closedClusters,
        cluster.time = { lo := 58, hi := 100 } ∧ ¬cluster.Lasts limits.span := by
  intro limits steps pool changes after
  have times : after.closedClusters.map Cluster.time = [{ lo := 58, hi := 100 }] := by
    decide +kernel
  have waits : { lo := 58, hi := 100 } ∈ after.closedClusters.map Cluster.time := by
    rw [times]
    exact List.mem_singleton_self _
  obtain ⟨cluster, member, time⟩ := List.mem_map.mp waits
  have long : ¬cluster.Lasts limits.span := by
    rintro ⟨-, short⟩
    rw [time] at short
    exact absurd short (by decide)
  exact ⟨getD_mem_run (by decide +kernel), by decide +kernel, by decide +kernel,
    by simp [changes], by decide +kernel, cluster, member, time, long⟩

end PoolStep

end EventFormation
