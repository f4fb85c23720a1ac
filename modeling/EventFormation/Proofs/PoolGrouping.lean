import EventFormation.Proofs.PoolOperations

/-!
# The groups of a pool

Seen through the groups of hits of its active clusters, a pool that does not
run out of slots takes readouts in as `Limits.gatherAll` does.  Closing splits
the groups by their start, and moving clusters to another pool adds the groups
of both.  Slots and the order of the lists have no influence.
-/

namespace EventFormation

def Cluster.groups (clusters : List Cluster) : Grouping :=
  (clusters.map Cluster.group : Multiset Hits)

@[simp] theorem Cluster.groups_nil : Cluster.groups [] = 0 := rfl

theorem Cluster.groups_append (first second : List Cluster) :
    Cluster.groups (first ++ second) = Cluster.groups first + Cluster.groups second := by
  simp [Cluster.groups]

/-- Neutrons among readouts, in their order. -/
def neutrons (readouts : List Readout) : List Readout :=
  readouts.filter Readout.isNeutron

@[simp] theorem neutrons_append (first second : List Readout) :
    neutrons (first ++ second) = neutrons first ++ neutrons second :=
  List.filter_append _ _

namespace Pool

/-- The groups of hits of the clusters that may still grow. -/
def groups (pool : Pool) : Grouping :=
  Cluster.groups pool.activeClusters

def insertAll (pool : Pool) (readouts : List Readout) : Pool :=
  readouts.foldl insert pool

variable {pool : Pool}

theorem groups_eq (pool : Pool) :
    pool.groups = (pool.active : Multiset Nat).map fun slot => (pool.cluster slot).group := by
  simp [groups, Cluster.groups, activeClusters, Function.comp_def]

theorem groups_of_idle (idle : pool.active = []) : pool.groups = 0 := by
  rw [groups, activeClusters, idle]
  rfl

theorem mem_groups {cluster : Cluster} (member : cluster ∈ pool.activeClusters) :
    cluster.group ∈ pool.groups :=
  Multiset.mem_coe.mpr (List.mem_map_of_mem member)

theorem activeClusters_settled (wellFormed : pool.WellFormed) :
    ∀ cluster ∈ pool.activeClusters, cluster.Settled := by
  intro cluster member
  obtain ⟨slot, slotMember, rfl⟩ := List.mem_map.mp member
  exact wellFormed.settled_active slotMember

/-- The active slots whose clusters do not admit a readout, in their order. -/
def refusingSlots (pool : Pool) (readout : Readout) : List Nat :=
  pool.active.filter fun slot => !decide (pool.limits.Admits (pool.cluster slot) readout)

theorem admitting_append_refusing (pool : Pool) (readout : Readout) :
    (pool.admittingSlots readout ++ pool.refusingSlots readout).Perm pool.active :=
  List.filter_append_perm _ _

theorem not_mem_admitting_of_mem_refusing {readout : Readout} {slot : Nat}
    (member : slot ∈ pool.refusingSlots readout) : slot ∉ pool.admittingSlots readout := by
  intro admitted
  have refuses := List.of_mem_filter member
  rw [List.of_mem_filter admitted] at refuses
  contradiction

section Occupied

variable {slot : Nat} {cluster : Cluster} {after : Pool}
  (occupied : Occupied cluster slot pool after) (wellFormed : pool.WellFormed)
include occupied wellFormed

theorem Occupied.groups : after.groups = cluster.group ::ₘ pool.groups := by
  have active : (after.active : Multiset Nat) = slot ::ₘ (pool.active : Multiset Nat) := by
    rw [occupied.active]
    exact Multiset.coe_eq_coe.mpr (List.perm_append_singleton _ _)
  have untouched : ∀ other ∈ (pool.active : Multiset Nat),
      (after.cluster other).group = (pool.cluster other).group := by
    intro other member
    rw [occupied.cluster_inUse wellFormed (List.mem_append_left _ member)]
  rw [groups_eq, active, Multiset.map_cons, Multiset.map_congr rfl untouched,
    occupied.cluster_self wellFormed, ← groups_eq]

theorem Occupied.closedClusters : after.closedClusters = pool.closedClusters := by
  unfold Pool.closedClusters
  rw [occupied.closed]
  refine List.map_congr_left ?_
  intro other member
  exact occupied.cluster_inUse wellFormed (List.mem_append_right _ member)

end Occupied

section Insert

variable (wellFormed : pool.WellFormed) (readout : Readout)
include wellFormed

theorem filter_joins_groups :
    (pool.groups.filter fun group => pool.limits.Joins group readout) =
      (pool.admittingSlots readout : Multiset Nat).map fun slot => (pool.cluster slot).group := by
  rw [groups_eq, Multiset.filter_map]
  congr 1
  rw [Multiset.filter_coe, admittingSlots]
  congr 1
  refine List.filter_congr ?_
  intro slot member
  exact decide_eq_decide.mpr
    (pool.limits.admits_iff_joins (wellFormed.settled_active member) readout).symm

theorem filter_not_joins_groups :
    (pool.groups.filter fun group => ¬pool.limits.Joins group readout) =
      (pool.refusingSlots readout : Multiset Nat).map fun slot => (pool.cluster slot).group := by
  rw [groups_eq, Multiset.filter_map]
  congr 1
  rw [Multiset.filter_coe, refusingSlots]
  congr 1
  refine List.filter_congr ?_
  intro slot member
  rw [← decide_not]
  exact decide_eq_decide.mpr
    (not_congr (pool.limits.admits_iff_joins (wellFormed.settled_active member) readout)).symm

theorem groups_joined {target : Nat} {others : List Nat} {after : Pool}
    (joined : Joined readout target others pool after) :
    after.groups = pool.limits.gather pool.groups readout := by
  have active : after.active.Perm (target :: pool.refusingSlots readout) := by
    have split := (pool.admitting_append_refusing readout).symm
    rw [joined.admitting, List.cons_append] at split
    exact (List.perm_append_left_iff others).mp
      (joined.active_perm.trans (split.trans List.perm_middle.symm))
  have fused : (after.cluster target).group =
      readout ::ₘ ((target :: others).map fun slot => (pool.cluster slot).group).sum := by
    have reversed : ((others.reverse.flatMap fun slot => (pool.cluster slot).hits :
        List Readout) : Hits) = (others.map fun slot => (pool.cluster slot).group).sum := by
      rw [← Multiset.coe_bind, Multiset.coe_reverse, Multiset.bind, Multiset.join,
        Multiset.map_coe, Multiset.sum_coe]
      rfl
    unfold Cluster.group at reversed ⊢
    rw [joined.hits, ← Multiset.coe_add, ← Multiset.coe_add, reversed, List.map_cons,
      List.sum_cons, Multiset.coe_singleton, add_comm, Multiset.singleton_add]
  have untouched : ∀ slot ∈ (pool.refusingSlots readout : Multiset Nat),
      (after.cluster slot).group = (pool.cluster slot).group := by
    intro slot member
    rw [joined.other slot]
    rw [← joined.admitting]
    exact not_mem_admitting_of_mem_refusing member
  rw [groups_eq, Multiset.coe_eq_coe.mpr active, ← Multiset.cons_coe, Multiset.map_cons,
    Multiset.map_congr rfl untouched, fused, Limits.gather, filter_joins_groups wellFormed,
    filter_not_joins_groups wellFormed, joined.admitting]
  simp only [Multiset.map_coe, Multiset.sum_coe]

theorem groups_startCluster (refused : pool.admittingSlots readout = [])
    (kept : (pool.startCluster readout).tally.dropped = pool.tally.dropped) :
    (pool.startCluster readout).groups = pool.limits.gather pool.groups readout := by
  cases found : pool.free with
  | nil => simp [startCluster, found] at kept
  | cons slot free =>
      have none : (pool.groups.filter fun group => pool.limits.Joins group readout) = 0 := by
        rw [filter_joins_groups wellFormed, refused]
        rfl
      have all : (pool.groups.filter fun group => ¬pool.limits.Joins group readout) =
          pool.groups :=
        Multiset.filter_eq_self.mpr (Multiset.filter_eq_nil.mp none)
      rw [(occupied_startCluster readout found).groups wellFormed, Limits.gather, none, all,
        Multiset.sum_zero]
      rfl

theorem groups_insert
    (kept : (pool.insert readout).tally.dropped = pool.tally.dropped) :
    (pool.insert readout).groups = pool.limits.gather pool.groups readout := by
  rcases wellFormed.insert_cases readout with ⟨refused, started⟩ | ⟨target, others, joined⟩
  · rw [started] at kept ⊢
    exact groups_startCluster wellFormed readout refused kept
  · exact groups_joined wellFormed readout joined

theorem closedClusters_insert :
    (pool.insert readout).closedClusters = pool.closedClusters := by
  rcases wellFormed.insert_cases readout with ⟨-, started⟩ | ⟨target, others, joined⟩
  · rw [started]
    cases found : pool.free with
    | nil => simp only [startCluster, found, closedClusters]; rfl
    | cons slot free =>
        exact (occupied_startCluster readout found).closedClusters wellFormed
  · unfold closedClusters
    rw [joined.closed]
    refine List.map_congr_left ?_
    intro slot member
    refine joined.other slot ?_
    intro active
    rw [← joined.admitting] at active
    exact wellFormed.disjoint_active_closed (List.mem_of_mem_filter active) member

theorem dropped_le_insert : pool.tally.dropped ≤ (pool.insert readout).tally.dropped := by
  rcases wellFormed.insert_cases readout with ⟨-, started⟩ | ⟨target, others, joined⟩
  · rw [started]
    cases found : pool.free <;> simp [startCluster, found]
  · rw [joined.tally]

theorem discarded_insert :
    (pool.insert readout).tally.discarded = pool.tally.discarded := by
  rcases wellFormed.insert_cases readout with ⟨-, started⟩ | ⟨target, others, joined⟩
  · rw [started]
    cases found : pool.free <;> simp [startCluster, found]
  · rw [joined.tally]

theorem limits_insert : (pool.insert readout).limits = pool.limits := by
  rcases wellFormed.insert_cases readout with ⟨-, started⟩ | ⟨target, others, joined⟩
  · rw [started]
    cases found : pool.free <;> simp [startCluster, found]
  · rw [joined.limits]

end Insert

/-- What it means that a pool has taken readouts in: it has gathered them if it
dropped none, and nothing else has happened. -/
structure Gathered (readouts : List Readout) (pool after : Pool) : Prop where
  wellFormed : after.WellFormed
  groups : after.tally.dropped = pool.tally.dropped →
    after.groups = pool.limits.gatherAll pool.groups readouts
  closedClusters : after.closedClusters = pool.closedClusters
  dropped_le : pool.tally.dropped ≤ after.tally.dropped
  discarded : after.tally.discarded = pool.tally.discarded
  limits : after.limits = pool.limits

theorem gathered_insertAll (wellFormed : pool.WellFormed) (readouts : List Readout) :
    Gathered readouts pool (pool.insertAll readouts) := by
  induction readouts generalizing pool with
  | nil => exact ⟨wellFormed, fun _ => rfl, rfl, Nat.le_refl _, rfl, rfl⟩
  | cons readout readouts induction =>
      have rest := induction (wellFormed.insert readout)
      have first := dropped_le_insert wellFormed readout
      constructor
      · exact rest.wellFormed
      · intro kept
        have keptFirst : (pool.insert readout).tally.dropped = pool.tally.dropped := by
          refine Nat.le_antisymm ?_ first
          rw [← kept]
          exact rest.dropped_le
        rw [Limits.gatherAll_cons, ← groups_insert wellFormed readout keptFirst,
          ← limits_insert wellFormed readout]
        exact rest.groups (kept.trans keptFirst.symm)
      · exact rest.closedClusters.trans (closedClusters_insert wellFormed readout)
      · exact Nat.le_trans first rest.dropped_le
      · exact rest.discarded.trans (discarded_insert wellFormed readout)
      · exact rest.limits.trans (limits_insert wellFormed readout)

theorem closedClusters_eq_nil_iff : pool.closedClusters = [] ↔ pool.closed = [] :=
  List.map_eq_nil_iff

theorem Gathered.closed {readouts : List Readout} {after : Pool}
    (gathered : Gathered readouts pool after) (closed : pool.closed = []) : after.closed = [] :=
  closedClusters_eq_nil_iff.mp
    (gathered.closedClusters.trans (closedClusters_eq_nil_iff.mpr closed))

theorem length_free_le_insert (wellFormed : pool.WellFormed) (readout : Readout) :
    pool.free.length ≤ (pool.insert readout).free.length + 1 := by
  rcases wellFormed.insert_cases readout with ⟨-, started⟩ | ⟨target, others, joined⟩
  · rw [started]
    cases found : pool.free <;> simp [startCluster, found]
  · rw [joined.free, List.length_append]
    omega

theorem dropped_insert_of_free (wellFormed : pool.WellFormed) (readout : Readout)
    (roomy : 0 < pool.free.length) :
    (pool.insert readout).tally.dropped = pool.tally.dropped := by
  rcases wellFormed.insert_cases readout with ⟨-, started⟩ | ⟨target, others, joined⟩
  · rw [started]
    cases found : pool.free with
    | nil => simp [found] at roomy
    | cons slot free => simp [startCluster, found]
  · rw [joined.tally]

theorem dropped_insertAll (wellFormed : pool.WellFormed) {readouts : List Readout}
    (roomy : readouts.length ≤ pool.free.length) :
    (pool.insertAll readouts).tally.dropped = pool.tally.dropped := by
  induction readouts generalizing pool with
  | nil => rfl
  | cons readout readouts induction =>
      have left := length_free_le_insert wellFormed readout
      rw [List.length_cons] at roomy
      have rest := induction (wellFormed.insert readout) (by omega)
      exact rest.trans (dropped_insert_of_free wellFormed readout (by omega))

private theorem filter_groups (property : Hits → Prop) [DecidablePred property]
    (decided : Nat → Bool)
    (agrees : ∀ slot ∈ pool.active,
      decided slot = true ↔ property (pool.cluster slot).group) :
    pool.groups.filter property =
      ((pool.active.filter decided : List Nat) : Multiset Nat).map
        fun slot => (pool.cluster slot).group := by
  rw [groups_eq, Multiset.filter_map, Multiset.filter_coe]
  congr 2
  refine List.filter_congr ?_
  intro slot member
  rw [Bool.eq_iff_iff, decide_eq_true_eq, agrees slot member]
  rfl

theorem activeClusters_close (pool : Pool) (start stop : Nat) :
    (pool.close start stop).1.activeClusters =
      (pool.activeClusters.filter fun cluster => !decide (cluster.start < start)).filter
        fun cluster => !decide (cluster.start < stop) := by
  simp only [activeClusters, close, List.filter_map]
  rfl

theorem closedClusters_close_eq_append (pool : Pool) (start stop : Nat) :
    (pool.close start stop).1.closedClusters = pool.closedClusters ++
      (pool.activeClusters.filter fun cluster => !decide (cluster.start < start)).filter
        fun cluster => decide (cluster.start < stop) := by
  simp only [activeClusters, closedClusters, close, List.filter_map, List.map_append]
  rfl

theorem mem_closedClusters_close {start stop : Nat} {cluster : Cluster}
    (member : cluster ∈ (pool.close start stop).1.closedClusters) :
    cluster ∈ pool.closedClusters ∨ start ≤ cluster.start ∧ cluster.start < stop := by
  obtain ⟨slot, slotMember, rfl⟩ := List.mem_map.mp member
  rcases List.mem_append.mp slotMember with before | closing
  · exact .inl (List.mem_map_of_mem before)
  · obtain ⟨kept, early⟩ := List.mem_filter.mp closing
    obtain ⟨-, late⟩ := List.mem_filter.mp kept
    simp only [Bool.not_eq_true', decide_eq_false_iff_not, Nat.not_lt] at late
    exact .inr ⟨late, of_decide_eq_true early⟩

section Close

variable (wellFormed : pool.WellFormed) (start stop : Nat)
include wellFormed

theorem groups_close :
    (pool.close start stop).1.groups =
      pool.groups.filter fun group => ¬group.StartBefore start ∧ ¬group.StartBefore stop := by
  rw [filter_groups _ fun slot =>
    !decide ((pool.cluster slot).start < stop) && !decide ((pool.cluster slot).start < start)]
  · rw [groups_eq]
    simp only [close, List.filter_filter]
    rfl
  · intro slot member
    have settled := wellFormed.settled_active member
    rw [← settled.start_lt_iff, ← settled.start_lt_iff]
    simp [and_comm]

theorem closedClusters_close :
    Cluster.groups (pool.close start stop).1.closedClusters =
      Cluster.groups pool.closedClusters +
        pool.groups.filter fun group => ¬group.StartBefore start ∧ group.StartBefore stop := by
  rw [filter_groups _ fun slot =>
    decide ((pool.cluster slot).start < stop) && !decide ((pool.cluster slot).start < start)]
  · simp only [closedClusters, close, List.map_append, Cluster.groups_append,
      List.filter_filter]
    congr 1
    simp [Cluster.groups, Function.comp_def]
    rfl
  · intro slot member
    have settled := wellFormed.settled_active member
    rw [← settled.start_lt_iff, ← settled.start_lt_iff]
    simp [and_comm]

theorem discarded_close :
    (pool.close start stop).1.tally.discarded =
      pool.tally.discarded + (pool.groups.filter (Hits.StartBefore start)).card := by
  rw [filter_groups _ fun slot => decide ((pool.cluster slot).start < start)]
  · simp [close]
  · intro slot member
    rw [← (wellFormed.settled_active member).start_lt_iff, decide_eq_true_eq]

end Close

theorem dropped_le_receive (cluster : Cluster) :
    pool.tally.dropped ≤ (pool.receive cluster).tally.dropped := by
  cases found : pool.free <;> simp [receive, found]

theorem groups_receive (wellFormed : pool.WellFormed) {cluster : Cluster}
    (settled : cluster.Settled)
    (kept : (pool.receive cluster).tally.dropped = pool.tally.dropped) :
    (pool.receive cluster).groups = cluster.group ::ₘ pool.groups := by
  cases found : pool.free with
  | nil =>
      have positive := settled.size_pos
      simp only [receive, found] at kept
      omega
  | cons slot free =>
      exact (occupied_receive cluster found).groups wellFormed

/-- What it means that a pool has received clusters: it has their groups if it
dropped none, and nothing else has happened. -/
structure Received (clusters : List Cluster) (pool after : Pool) : Prop where
  wellFormed : after.WellFormed
  groups : after.tally.dropped = pool.tally.dropped →
    after.groups = Cluster.groups clusters + pool.groups
  closed : after.closed = pool.closed
  dropped_le : pool.tally.dropped ≤ after.tally.dropped
  limits : after.limits = pool.limits

theorem received_foldl (wellFormed : pool.WellFormed) {clusters : List Cluster}
    (settled : ∀ cluster ∈ clusters, cluster.Settled) :
    Received clusters pool (clusters.foldl receive pool) := by
  induction clusters generalizing pool with
  | nil => exact ⟨wellFormed, fun _ => (zero_add _).symm, rfl, Nat.le_refl _, rfl⟩
  | cons cluster clusters induction =>
      have settledFirst := settled cluster List.mem_cons_self
      have rest := induction (wellFormed.receive settledFirst)
        (fun other member => settled other (List.mem_cons_of_mem _ member))
      have first : pool.tally.dropped ≤ (pool.receive cluster).tally.dropped :=
        dropped_le_receive cluster
      have unchanged : (pool.receive cluster).closed = pool.closed ∧
          (pool.receive cluster).limits = pool.limits := by
        cases found : pool.free <;> simp [receive, found]
      constructor
      · exact rest.wellFormed
      · intro kept
        have keptFirst : (pool.receive cluster).tally.dropped = pool.tally.dropped := by
          refine Nat.le_antisymm ?_ first
          rw [← kept]
          exact rest.dropped_le
        rw [List.foldl_cons, rest.groups (kept.trans keptFirst.symm),
          groups_receive wellFormed settledFirst keptFirst, Multiset.add_cons]
        exact (Multiset.cons_add _ _ _).symm
      · exact rest.closed.trans unchanged.1
      · exact Nat.le_trans first rest.dropped_le
      · exact rest.limits.trans unchanged.2

end Pool

end EventFormation
