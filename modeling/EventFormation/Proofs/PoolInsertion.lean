import EventFormation.Proofs.PoolLookups

/-!
# What a readout does to a pool

The positions at which clusters admit a readout are found once, before anything
is merged.  Nevertheless exactly the clusters at these positions become one, with
their hits in a known order, and exactly the slots of all but the first of them
are freed.  Without such a position the readout gets a slot of its own, in which
nothing remains of what the slot has held, or it is only counted.
-/

namespace EventFormation

namespace Pool

variable {pool : Pool}

theorem mem_admitting_iff (pool : Pool) (readout : Readout) (position : Nat) :
    position ∈ pool.admitting readout ↔
      ∃ slot, pool.active[position]? = some slot ∧
        pool.limits.Admits (pool.cluster slot) readout := by
  unfold admitting
  constructor
  · intro member
    obtain ⟨⟨slot, index⟩, entryMember, rfl⟩ := List.mem_map.mp member
    obtain ⟨listed, admits⟩ := List.mem_filter.mp entryMember
    exact ⟨slot, List.mem_zipIdx_iff_getElem?.mp listed, of_decide_eq_true admits⟩
  · rintro ⟨slot, found, admits⟩
    apply List.mem_map.mpr
    refine ⟨(slot, position), ?_, rfl⟩
    apply List.mem_filter.mpr
    exact ⟨List.mem_zipIdx_iff_getElem?.mpr found, decide_eq_true admits⟩

theorem insert_of_alone {readout : Readout} (alone : pool.admitting readout = []) :
    pool.insert readout = pool.startCluster readout := by
  simp only [Pool.insert, alone]

section

variable (wellFormed : pool.WellFormed) {readout : Readout}
include wellFormed

/-- A readout joins the first cluster that admits it, at whatever position. -/
theorem WellFormed.joined_insert {first : Nat} {rest : List Nat}
    (positions : pool.admitting readout = first :: rest) :
    Joined readout (pool.active.getD first 0) (pool.slotsAt rest) pool (pool.insert readout) := by
  have slots := pool.slotsAt_admitting readout
  rw [positions] at slots
  rcases wellFormed.insert_cases readout with ⟨alone, -⟩ | ⟨target, others, joined⟩
  · rw [alone] at slots
    exact absurd slots (List.cons_ne_nil _ _)
  · rw [joined.admitting] at slots
    obtain ⟨rfl, rfl⟩ := List.cons.inj slots
    exact joined

theorem Joined.target_mem {target : Nat} {others : List Nat} {after : Pool}
    (joined : Joined readout target others pool after) : target ∈ after.active := by
  have admitted : (target :: others).Nodup := by
    rw [← joined.admitting]
    exact wellFormed.nodup_active.filter _
  have listed : target ∈ pool.active := by
    apply List.mem_of_mem_filter
    rw [← admittingSlots, joined.admitting]
    exact List.mem_cons_self
  rcases List.mem_append.mp (joined.active_perm.mem_iff.mpr listed) with other | active
  · exact absurd other (List.nodup_cons.mp admitted).1
  · exact active

end

end Pool

namespace PoolStep

/-- A readout that some clusters admit joins the first of them.  The others give
it their hits, the last one first, and their slots become free; whatever else is
active or closed stays.  A readout that none admits starts a cluster in a free
slot, or, if there is none, is counted as dropped and changes nothing else.  No
number that is looked up on the way is out of range. -/
theorem insert_changes_exactly (steps : List PoolStep) {pool : Pool} (reached : pool ∈ run steps)
    (readout : Readout) :
    let after := pool.insert readout
    ((pool.admitting readout).Pairwise (· < ·) ∧
      ∀ position, position ∈ pool.admitting readout ↔
        ∃ slot, pool.active[position]? = some slot ∧
          pool.limits.Admits (pool.cluster slot) readout) ∧
    pool.insert? readout = some after ∧
    match pool.admitting readout, pool.free with
    | first :: rest, _ =>
      let target := pool.active.getD first 0
      let others := rest.map fun position => pool.active.getD position 0
      (after.cluster target).hits = (pool.cluster target).hits ++
          (others.reverse.flatMap fun slot => (pool.cluster slot).hits) ++ [readout] ∧
        target ∈ after.active ∧
        (others ++ after.active).Perm pool.active ∧
        after.free = others ++ pool.free ∧
        after.closed = pool.closed ∧
        (∀ slot ∈ after.active ++ after.closed, slot ≠ target →
          after.cluster slot = pool.cluster slot) ∧
        after.tally = { pool.tally with
          added := pool.tally.added + 1
          merged := pool.tally.merged + others.length }
    | [], slot :: free =>
      after.active = pool.active ++ [slot] ∧
        after.cluster slot = .single readout ∧
        (after.cluster slot).hits = [readout] ∧
        after.free = free ∧
        after.closed = pool.closed ∧
        (∀ other ∈ pool.active ++ pool.closed, after.cluster other = pool.cluster other) ∧
        after.tally = { pool.tally with
          added := pool.tally.added + 1
          created := pool.tally.created + 1 }
    | [], [] =>
      after.slots = pool.slots ∧ after.free = pool.free ∧ after.active = pool.active ∧
        after.closed = pool.closed ∧
        after.tally = { pool.tally with dropped := pool.tally.dropped + 1 } := by
  intro after
  have wellFormed := (wellFormed_run steps).2 pool reached
  refine ⟨⟨pool.pairwise_admitting readout, pool.mem_admitting_iff readout⟩,
    Pool.insert?_eq wellFormed readout, ?_⟩
  cases positions : pool.admitting readout with
  | cons first rest =>
      have joined := wellFormed.joined_insert positions
      have untouched : ∀ slot ∈ after.active ++ after.closed, slot ≠ pool.active.getD first 0 →
          after.cluster slot = pool.cluster slot :=
        fun slot member different => (joined.untouched wellFormed member different).2
      exact ⟨joined.hits, joined.target_mem wellFormed, joined.active_perm, joined.free,
        joined.closed, untouched, joined.tally⟩
  | nil =>
      have started : after = pool.startCluster readout := Pool.insert_of_alone positions
      cases found : pool.free with
      | cons slot free =>
          have occupied := Pool.occupied_startCluster readout found
          rw [← started] at occupied
          have own := occupied.cluster_self wellFormed
          have hits : (after.cluster slot).hits = [readout] := by
            rw [own, Cluster.hits_single]
          have left : after.free = free := by
            have lists := occupied.free
            rw [found] at lists
            exact (List.cons.inj lists).2.symm
          have tally : after.tally = { pool.tally with
              added := pool.tally.added + 1
              created := pool.tally.created + 1 } := by
            simp only [started, Pool.startCluster, found]
          exact ⟨occupied.active, own, hits, left, occupied.closed,
            fun other member => occupied.cluster_inUse wellFormed member, tally⟩
      | nil =>
          simp only [started, Pool.startCluster, found, and_self]

/-- A readout bridges the first, the second and the fourth of four clusters, the
first of them in a slot that has held another one before. -/
theorem bridging_insert_changes_exactly :
    let limits : Limits := { span := 100, gap := 10, dx := 4, dy := 4 }
    let steps : List PoolStep :=
      [.create limits 6, .apply 0 (.insert (.neutron 7 90 90 1)), .apply 0 .clearActive,
        .apply 0 (.insert (.neutron 10 1 5 1)), .apply 0 (.insert (.neutron 20 9 5 1)),
        .apply 0 (.insert (.neutron 20 50 50 1)), .apply 0 (.insert (.neutron 15 5 1 1))]
    let pool := (run steps).getD 0 default
    let bridge := Readout.neutron 20 5 5 1
    let after := pool.insert bridge
    pool ∈ run steps ∧ pool.admitting bridge = [0, 1, 3] ∧ pool.active = [0, 1, 2, 3] ∧
      (after.cluster 0).hits = [.neutron 10 1 5 1, .neutron 15 5 1 1, .neutron 20 9 5 1, bridge] ∧
      ([1, 3] ++ after.active).Perm pool.active ∧
      after.free = [1, 3, 4, 5] ∧
      after.cluster 2 = pool.cluster 2 ∧ after.tally.merged = 2 := by
  intro limits steps pool bridge after
  have reached : pool ∈ run steps := getD_mem_run (by decide +kernel)
  have positions : pool.admitting bridge = [0, 1, 3] := by decide +kernel
  have active : pool.active = [0, 1, 2, 3] := by decide +kernel
  have free : pool.free = [4, 5] := by decide +kernel
  have kept : 2 ∈ after.active ++ after.closed := by decide +kernel
  have before : (pool.cluster 0).hits = [.neutron 10 1 5 1] ∧
      (pool.cluster 1).hits = [.neutron 20 9 5 1] ∧
      (pool.cluster 3).hits = [.neutron 15 5 1 1] ∧ pool.tally.merged = 0 := by decide +kernel
  obtain ⟨first, second, fourth, unmerged⟩ := before
  have changed := insert_changes_exactly steps reached bridge
  simp only [positions, active, free] at changed
  obtain ⟨-, -, hits, -, lists, freed, -, untouched, tally⟩ := changed
  refine ⟨reached, positions, active, ?_, ?_, freed, untouched 2 kept (by decide), ?_⟩
  · rw [show (0 : Nat) = [0, 1, 2, 3].getD 0 0 from rfl, hits]
    simp [first, second, fourth]
  · rw [active]
    exact lists
  · rw [tally]
    simp [unmerged]

end PoolStep

end EventFormation
