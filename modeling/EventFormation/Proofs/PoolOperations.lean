import EventFormation.Proofs.PoolSlots

/-!
# What a pool does with its clusters

Every operation of a pool keeps it well formed.  For a readout that is taken
in, `Joined` says all that can happen when some cluster admits it, and
`insert_cases` that nothing else happens.  Readouts that were dropped are
never forgotten: the count only grows.
-/

namespace EventFormation

namespace Pool

/-- The active slots whose clusters admit a readout, in their order. -/
def admittingSlots (pool : Pool) (readout : Readout) : List Nat :=
  pool.active.filter fun slot => decide (pool.limits.Admits (pool.cluster slot) readout)

/-- What it means that a readout has joined the active cluster in the slot
`target`, with which those in the slots `others` have been merged. -/
structure Joined (readout : Readout) (target : Nat) (others : List Nat)
    (pool after : Pool) : Prop where
  admitting : pool.admittingSlots readout = target :: others
  active_perm : (others ++ after.active).Perm pool.active
  free : after.free = others ++ pool.free
  hits : (after.cluster target).hits = (pool.cluster target).hits ++
    (others.reverse.flatMap fun slot => (pool.cluster slot).hits) ++ [readout]
  settled : (after.cluster target).Settled
  other : ∀ slot, slot ∉ target :: others → after.cluster slot = pool.cluster slot
  limits : after.limits = pool.limits
  closed : after.closed = pool.closed
  size : after.size = pool.size
  tally : after.tally =
    { pool.tally with
      added := pool.tally.added + 1
      merged := pool.tally.merged + others.length }

section Admitting

variable (pool : Pool) (readout : Readout)

theorem slotsAt_admitting :
    pool.slotsAt (pool.admitting readout) = pool.admittingSlots readout := by
  unfold slotsAt admitting admittingSlots
  have found : ∀ entry ∈ pool.active.zipIdx.filter fun entry =>
      decide (pool.limits.Admits (pool.cluster entry.1) readout),
      pool.active.getD entry.2 0 = entry.1 := by
    intro entry member
    have atPosition := List.mem_zipIdx_iff_getElem?.mp (List.mem_of_mem_filter member)
    rw [List.getD_eq_getElem?_getD, atPosition, Option.getD_some]
  rw [List.map_map]
  conv_rhs => rw [← List.zipIdx_map_fst 0 pool.active, List.filter_map]
  exact List.map_congr_left found

theorem pairwise_admitting : (pool.admitting readout).Pairwise (· < ·) := by
  have all : (pool.active.zipIdx.map (·.2)).Pairwise (· < ·) := by
    rw [List.zipIdx_map_snd]
    exact List.pairwise_lt_range'
  exact all.sublist (List.filter_sublist.map _)

theorem lt_of_mem_admitting {position : Nat} (member : position ∈ pool.admitting readout) :
    position < pool.active.length := by
  obtain ⟨entry, entryMember, rfl⟩ := List.mem_map.mp member
  exact List.snd_lt_of_mem_zipIdx (List.mem_of_mem_filter entryMember)

end Admitting

section

variable {pool : Pool} (wellFormed : pool.WellFormed) (readout : Readout)
include wellFormed

omit readout in
/-- The clusters that are merged into the first one that admits a readout. -/
theorem WellFormed.admitting_cons {readout : Readout} {first : Nat} {rest : List Nat}
    (positions : pool.admitting readout = first :: rest) :
    rest.Pairwise (· < ·) ∧ (∀ position ∈ first :: rest, position < pool.active.length) ∧
      pool.active.getD first 0 ∈ pool.active ∧
      pool.active.getD first 0 ∉ pool.slotsAt rest := by
  have ascending := pool.pairwise_admitting readout
  have slots := pool.slotsAt_admitting readout
  rw [positions] at ascending slots
  have inside : ∀ position ∈ first :: rest, position < pool.active.length := by
    intro position member
    rw [← positions] at member
    exact pool.lt_of_mem_admitting readout member
  have firstInside := inside first List.mem_cons_self
  have nodup : (pool.active.getD first 0 :: pool.slotsAt rest).Nodup := by
    have all : (pool.admittingSlots readout).Nodup := wellFormed.nodup_active.filter _
    rwa [← slots] at all
  refine ⟨(List.pairwise_cons.mp ascending).2, inside, ?_, (List.nodup_cons.mp nodup).1⟩
  rw [List.getD_eq_getElem _ _ firstInside]
  exact List.getElem_mem firstInside

/-- A readout starts a cluster if none admits it, and joins the first one that
does otherwise. -/
theorem WellFormed.insert_cases :
    (pool.admittingSlots readout = [] ∧ pool.insert readout = pool.startCluster readout) ∨
      ∃ target others, Joined readout target others pool (pool.insert readout) := by
  have slots := pool.slotsAt_admitting readout
  cases positions : pool.admitting readout with
  | nil =>
      rw [positions] at slots
      refine .inl ⟨slots.symm, ?_⟩
      simp only [Pool.insert, positions]
  | cons first rest =>
      refine .inr ⟨pool.active.getD first 0, pool.slotsAt rest, ?_⟩
      rw [positions] at slots
      obtain ⟨ascending, inside, targetMember, fresh⟩ := wellFormed.admitting_cons positions
      have merged := merged_foldr ascending (fun position member =>
          inside position (List.mem_cons_of_mem _ member))
        wellFormed.nodup_active (wellFormed.active_lt targetMember) fresh
      let target := pool.active.getD first 0
      let mid := rest.foldr (mergeInto target) pool
      have result : pool.insert readout =
          { mid with
            slots := mid.slots.modify target (·.insert readout)
            tally.added := mid.tally.added + 1 } := by
        simp only [Pool.insert, positions, mid, target]
      have stored : target < mid.slots.size :=
        Nat.lt_of_lt_of_eq (wellFormed.active_lt targetMember) merged.size.symm
      have targetCluster :
          (pool.insert readout).cluster target = (mid.cluster target).insert readout := by
        rw [result]
        exact getD_modify_self stored _
      exact
        { admitting := slots.symm
          active_perm := by
            rw [result]
            exact merged.active_perm
          free := by
            rw [result]
            exact merged.free
          hits := by
            rw [targetCluster, Cluster.hits_insert, merged.hits]
          settled := by
            rw [targetCluster]
            exact (merged.settled (wellFormed.settled_active targetMember)).insert readout
          other := by
            intro slot outside
            rw [← merged.other slot outside, result]
            exact getD_modify_of_ne (Ne.symm (List.ne_of_not_mem_cons outside)) _
          limits := by
            rw [result]
            exact merged.limits
          closed := by
            rw [result]
            exact merged.closed
          size := by
            rw [result]
            exact Array.size_modify.trans merged.size
          tally := by
            rw [result]
            simp only [mid, target, merged.tally, slotsAt, List.length_map] }

end

variable {pool : Pool}

/-- A slot in use other than the target was in use before, for the same
cluster. -/
theorem Joined.untouched {readout : Readout} {target : Nat} {others : List Nat} {after : Pool}
    (joined : Joined readout target others pool after) (wellFormed : pool.WellFormed)
    {slot : Nat} (member : slot ∈ after.active ++ after.closed) (different : slot ≠ target) :
    slot ∈ pool.active ++ pool.closed ∧ after.cluster slot = pool.cluster slot := by
  rw [joined.closed] at member
  have nodup : (others ++ after.active).Nodup :=
    joined.active_perm.nodup_iff.mpr wellFormed.nodup_active
  have inUse : slot ∈ pool.active ++ pool.closed := by
    rcases List.mem_append.mp member with active | closed
    · exact List.mem_append_left _
        (joined.active_perm.mem_iff.mp (List.mem_append_right _ active))
    · exact List.mem_append_right _ closed
  have notOther : slot ∉ others := by
    intro other
    rcases List.mem_append.mp member with active | closed
    · exact (List.nodup_append'.mp nodup).2.2 other active
    · exact wellFormed.disjoint_active_closed
        (joined.active_perm.mem_iff.mp (List.mem_append_left _ other)) closed
  exact ⟨inUse, joined.other slot (by simp [different, notOther])⟩

theorem WellFormed.joined {readout : Readout} {target : Nat} {others : List Nat}
    {after : Pool} (wellFormed : pool.WellFormed)
    (joined : Joined readout target others pool after) : after.WellFormed := by
  constructor
  · rw [joined.free, joined.closed, joined.size]
    refine List.Perm.trans ?_ wellFormed.partition
    refine List.Perm.append_right _ ?_
    refine (List.Perm.append_right _ List.perm_append_comm).trans ?_
    rw [List.append_assoc]
    exact List.Perm.append_left _ joined.active_perm
  · intro slot member
    by_cases atTarget : slot = target
    · rw [atTarget]
      exact joined.settled
    · obtain ⟨inUse, same⟩ := joined.untouched wellFormed member atTarget
      rw [same]
      exact wellFormed.settled slot inUse

/-- What it means that a cluster has been put into the first free slot. -/
structure Occupied (cluster : Cluster) (slot : Nat) (pool after : Pool) : Prop where
  free : pool.free = slot :: after.free
  slots : after.slots = pool.slots.setIfInBounds slot cluster
  active : after.active = pool.active ++ [slot]
  closed : after.closed = pool.closed

theorem occupied_startCluster (readout : Readout) {slot : Nat} {free : List Nat}
    (found : pool.free = slot :: free) :
    Occupied (.single readout) slot pool (pool.startCluster readout) := by
  constructor <;> simp [Pool.startCluster, found]

theorem occupied_receive (cluster : Cluster) {slot : Nat} {free : List Nat}
    (found : pool.free = slot :: free) :
    Occupied cluster slot pool (pool.receive cluster) := by
  constructor <;> simp [Pool.receive, found]

section Occupied

variable {slot : Nat} {cluster : Cluster} {after : Pool}
  (occupied : Occupied cluster slot pool after) (wellFormed : pool.WellFormed)
include occupied wellFormed

theorem Occupied.cluster_self : after.cluster slot = cluster := by
  have inside : slot < pool.slots.size := wellFormed.lt_size (by simp [occupied.free])
  unfold Pool.cluster
  rw [occupied.slots]
  exact getD_set_self inside cluster

theorem Occupied.cluster_inUse {other : Nat} (inUse : other ∈ pool.active ++ pool.closed) :
    after.cluster other = pool.cluster other := by
  have different : slot ≠ other := by
    rintro rfl
    exact wellFormed.disjoint_free (by simp [occupied.free]) inUse
  unfold Pool.cluster
  rw [occupied.slots]
  exact getD_set_of_ne different cluster

theorem Occupied.wellFormed_after (settled : cluster.Settled) : after.WellFormed := by
  constructor
  · have partition := wellFormed.partition
    have sizes : after.size = pool.size := by simp [Pool.size, occupied.slots]
    rw [occupied.free] at partition
    rw [occupied.active, occupied.closed, sizes]
    refine List.Perm.trans ?_ partition
    refine List.Perm.append_right _ ?_
    rw [← List.append_assoc]
    exact List.perm_append_singleton _ _
  · intro other member
    rw [occupied.active, occupied.closed, List.append_assoc, List.mem_append] at member
    by_cases same : other = slot
    · rw [same, occupied.cluster_self wellFormed]
      exact settled
    · have inUse : other ∈ pool.active ++ pool.closed := by
        simpa [same] using member
      rw [occupied.cluster_inUse wellFormed inUse]
      exact wellFormed.settled other inUse

end Occupied

theorem WellFormed.regroup (wellFormed : pool.WellFormed) {after : Pool}
    (slots : after.slots = pool.slots)
    (lists : (after.free ++ after.active ++ after.closed).Perm
      (pool.free ++ pool.active ++ pool.closed))
    (inUse : ∀ slot ∈ after.active ++ after.closed, slot ∈ pool.active ++ pool.closed) :
    after.WellFormed := by
  constructor
  · have sizes : after.size = pool.size := by simp [Pool.size, slots]
    rw [sizes]
    exact lists.trans wellFormed.partition
  · intro slot member
    unfold Pool.cluster
    rw [slots]
    exact wellFormed.settled slot (inUse slot member)

theorem WellFormed.startCluster (wellFormed : pool.WellFormed) (readout : Readout) :
    (pool.startCluster readout).WellFormed := by
  cases found : pool.free with
  | nil =>
      simp only [Pool.startCluster, found]
      exact wellFormed.regroup rfl (by simp [found]) (fun _ member => member)
  | cons slot free =>
      exact (occupied_startCluster readout found).wellFormed_after wellFormed
        (Cluster.settled_single readout)

theorem WellFormed.insert (wellFormed : pool.WellFormed) (readout : Readout) :
    (pool.insert readout).WellFormed := by
  rcases wellFormed.insert_cases readout with ⟨-, started⟩ | ⟨target, others, joined⟩
  · rw [started]
    exact wellFormed.startCluster readout
  · exact wellFormed.joined joined

theorem WellFormed.receive (wellFormed : pool.WellFormed) {cluster : Cluster}
    (settled : cluster.Settled) : (pool.receive cluster).WellFormed := by
  cases found : pool.free with
  | nil =>
      simp only [Pool.receive, found]
      exact wellFormed.regroup rfl (by simp [found]) (fun _ member => member)
  | cons slot free =>
      exact (occupied_receive cluster found).wellFormed_after wellFormed settled

theorem WellFormed.close (wellFormed : pool.WellFormed) (start stop : Nat) :
    (pool.close start stop).1.WellFormed := by
  refine wellFormed.regroup rfl ?_ ?_
  · let early := fun slot => decide ((pool.cluster slot).start < start)
    let closing := fun slot => decide ((pool.cluster slot).start < stop)
    let kept := pool.active.filter fun slot => !early slot
    have first : (pool.active.filter early ++ kept).Perm pool.active :=
      List.filter_append_perm _ _
    have second : (kept.filter closing ++ kept.filter fun slot => !closing slot).Perm kept :=
      List.filter_append_perm _ _
    have goal : (((pool.active.filter early).reverse ++ pool.free ++
        kept.filter fun slot => !closing slot) ++ (pool.closed ++ kept.filter closing)).Perm
        (pool.free ++ pool.active ++ pool.closed) := by
      rw [← Multiset.coe_eq_coe] at first second ⊢
      simp only [← Multiset.coe_add, Multiset.coe_reverse] at first second ⊢
      rw [← first, ← second]
      abel
    exact goal
  · intro slot member
    have cases : slot ∈ pool.active ∨ slot ∈ pool.closed := by
      simp only [Pool.close, List.mem_append, List.mem_filter] at member
      tauto
    exact List.mem_append.mpr cases

theorem WellFormed.clearActive (wellFormed : pool.WellFormed) :
    pool.clearActive.1.WellFormed := by
  refine wellFormed.regroup rfl ?_ ?_
  · change ((pool.active.reverse ++ pool.free) ++ [] ++ pool.closed).Perm _
    rw [List.append_nil]
    refine List.Perm.append_right _ ?_
    exact List.perm_append_comm.trans
      (List.Perm.append_left _ (List.reverse_perm _))
  · intro slot member
    exact List.mem_append_right _ (by simpa [Pool.clearActive] using member)

theorem WellFormed.clearClosed (wellFormed : pool.WellFormed) :
    pool.clearClosed.1.WellFormed := by
  refine wellFormed.regroup rfl ?_ ?_
  · change ((pool.closed.reverse ++ pool.free) ++ pool.active ++ []).Perm _
    rw [List.append_nil, List.append_assoc]
    exact List.perm_append_comm.trans
      (List.Perm.append_left _ (List.reverse_perm _))
  · intro slot member
    exact List.mem_append_left _ (by simpa [Pool.clearClosed] using member)

theorem WellFormed.flush (wellFormed : pool.WellFormed) : pool.flush.1.WellFormed :=
  let cleared := wellFormed.clearClosed
  ⟨cleared.partition, cleared.settled⟩

end Pool

end EventFormation
