import EventFormation.Pool
import EventFormation.Proofs.ClusterHits

/-!
# Slots of a cluster pool

The free, active and closed slots of a pool are all of its slots, each once,
and every active or closed slot holds a settled cluster.  This is kept by
every operation.

Taking a readout in is described exactly.  Either it starts a cluster in a
free slot, or it is dropped, or the clusters that admit it become one: the
first of them keeps its slot, and the slots of the others become free.
-/

namespace EventFormation

namespace Pool

/-- The three lists share out the slots, and the slots in use hold settled
clusters. -/
structure WellFormed (pool : Pool) : Prop where
  partition : (pool.free ++ pool.active ++ pool.closed).Perm (List.range pool.size)
  settled : ∀ slot ∈ pool.active ++ pool.closed, (pool.cluster slot).Settled

theorem wellFormed_ofSize (limits : Limits) (size : Nat) :
    (ofSize limits size).WellFormed := by
  constructor
  · simp [ofSize, Pool.size]
  · simp [ofSize]

section

variable {pool : Pool} (wellFormed : pool.WellFormed)
include wellFormed

theorem WellFormed.nodup : (pool.free ++ pool.active ++ pool.closed).Nodup :=
  wellFormed.partition.nodup_iff.mpr List.nodup_range

theorem WellFormed.nodup_active : pool.active.Nodup := by
  have all := wellFormed.nodup
  rw [List.nodup_append', List.nodup_append'] at all
  exact all.1.2.1

theorem WellFormed.disjoint_active_closed : pool.active.Disjoint pool.closed := by
  have all := wellFormed.nodup
  rw [List.append_assoc, List.nodup_append', List.nodup_append'] at all
  exact all.2.1.2.2

theorem WellFormed.disjoint_free : pool.free.Disjoint (pool.active ++ pool.closed) := by
  have all := wellFormed.nodup
  rw [List.append_assoc, List.nodup_append'] at all
  exact all.2.2

theorem WellFormed.lt_size {slot : Nat}
    (member : slot ∈ pool.free ++ pool.active ++ pool.closed) : slot < pool.size :=
  List.mem_range.mp (wellFormed.partition.mem_iff.mp member)

theorem WellFormed.active_lt {slot : Nat} (member : slot ∈ pool.active) :
    slot < pool.size :=
  wellFormed.lt_size (by simp [member])

theorem WellFormed.settled_active {slot : Nat} (member : slot ∈ pool.active) :
    (pool.cluster slot).Settled :=
  wellFormed.settled slot (List.mem_append_left _ member)

theorem WellFormed.settled_closed {cluster : Cluster}
    (member : cluster ∈ pool.closedClusters) : cluster.Settled := by
  obtain ⟨slot, slotMember, rfl⟩ := List.mem_map.mp member
  exact wellFormed.settled slot (List.mem_append_right _ slotMember)

end

theorem getD_modify_self {slots : Array Cluster} {slot : Nat} (inside : slot < slots.size)
    (change : Cluster → Cluster) :
    (slots.modify slot change)[slot]?.getD {} = change (slots[slot]?.getD {}) := by
  rw [Array.getElem?_modify]
  simp [inside]

theorem getD_modify_of_ne {slots : Array Cluster} {slot other : Nat} (different : slot ≠ other)
    (change : Cluster → Cluster) :
    (slots.modify slot change)[other]?.getD {} = slots[other]?.getD {} := by
  simp [Array.getElem?_modify, different]

theorem getD_set_self {slots : Array Cluster} {slot : Nat} (inside : slot < slots.size)
    (cluster : Cluster) :
    (slots.setIfInBounds slot cluster)[slot]?.getD {} = cluster := by
  simp [inside]

theorem getD_set_of_ne {slots : Array Cluster} {slot other : Nat} (different : slot ≠ other)
    (cluster : Cluster) :
    (slots.setIfInBounds slot cluster)[other]?.getD {} = slots[other]?.getD {} := by
  simp [different]

theorem swapRemove_append_singleton {α : Type} (entries : List α) (last : α) (position : Nat) :
    swapRemove (entries ++ [last]) position = entries.set position last := by
  unfold swapRemove
  rw [List.getLast?_concat]
  by_cases inside : position < entries.length
  · simp [inside]
  · have outside : entries.length ≤ position := Nat.le_of_not_lt inside
    cases gap : position - entries.length with
    | zero => simp [List.set_append, inside, gap, List.set_eq_of_length_le outside]
    | succ rest => simp [List.set_append, inside, gap, List.set_eq_of_length_le outside]

theorem swapRemove_perm {α : Type} {entries : List α} {position : Nat} {entry : α}
    (found : entries[position]? = some entry) :
    (entry :: swapRemove entries position).Perm entries := by
  rcases List.eq_nil_or_concat entries with rfl | ⟨front, last, rfl⟩
  · simp at found
  · rw [List.concat_eq_append] at found ⊢
    rw [swapRemove_append_singleton]
    by_cases inside : position < front.length
    · rw [List.getElem?_append_left inside, List.getElem?_eq_getElem inside,
        Option.some.injEq] at found
      subst entry
      have around : front =
          front.take position ++ front[position] :: front.drop (position + 1) := by
        rw [List.getElem_cons_drop, List.take_append_drop]
      rw [List.set_eq_take_append_cons_drop, if_pos inside]
      conv_rhs => rw [around]
      rw [List.append_assoc, List.cons_append, List.perm_comm]
      refine List.perm_middle.trans (List.Perm.cons _ ?_)
      exact (List.Perm.append_left _ (List.perm_append_singleton _ _))
    · have outside : front.length ≤ position := Nat.le_of_not_lt inside
      rw [List.getElem?_append_right outside] at found
      have only : position - front.length = 0 := by
        by_contra positive
        rw [List.getElem?_eq_none (by simp; omega)] at found
        simp at found
      rw [only] at found
      simp only [List.length_cons, List.length_nil, Nat.zero_add, Nat.lt_add_one,
        List.getElem?_eq_getElem, List.getElem_cons_zero, Option.some.injEq] at found
      subst entry
      rw [List.set_eq_of_length_le outside]
      exact (List.perm_append_singleton _ _).symm

theorem getElem?_swapRemove_of_lt {α : Type} {entries : List α} {position index : Nat}
    (before : index < position) (inside : position < entries.length) :
    (swapRemove entries position)[index]? = entries[index]? := by
  rcases List.eq_nil_or_concat entries with rfl | ⟨front, last, rfl⟩
  · simp at inside
  · rw [List.concat_eq_append] at inside ⊢
    have inFront : index < front.length := by
      simp at inside
      omega
    rw [swapRemove_append_singleton, List.getElem?_set_ne (by omega),
      List.getElem?_append_left inFront]

def slotsAt (pool : Pool) (positions : List Nat) : List Nat :=
  positions.map fun position => pool.active.getD position 0

/-- What it means that clusters at positions have been merged into the one in
the slot `target`, from the highest position down. -/
structure Merged (target : Nat) (positions : List Nat) (pool after : Pool) : Prop where
  active_perm : (pool.slotsAt positions ++ after.active).Perm pool.active
  active_below : ∀ index, (∀ position ∈ positions, index < position) →
    after.active[index]? = pool.active[index]?
  free : after.free = pool.slotsAt positions ++ pool.free
  hits : (after.cluster target).hits = (pool.cluster target).hits ++
    (pool.slotsAt positions).reverse.flatMap fun slot => (pool.cluster slot).hits
  settled : (pool.cluster target).Settled → (after.cluster target).Settled
  other : ∀ slot, slot ∉ target :: pool.slotsAt positions →
    after.cluster slot = pool.cluster slot
  limits : after.limits = pool.limits
  closed : after.closed = pool.closed
  size : after.size = pool.size
  tally : after.tally =
    { pool.tally with merged := pool.tally.merged + positions.length }

theorem merged_nil (target : Nat) (pool : Pool) : Merged target [] pool pool :=
  { active_perm := List.Perm.refl _
    active_below := fun _ _ => rfl
    free := rfl
    hits := by simp [slotsAt]
    settled := fun settled => settled
    other := fun _ _ => rfl
    limits := rfl
    closed := rfl
    size := rfl
    tally := rfl }

/-- Merging one more cluster, at a position below those merged so far. -/
theorem Merged.cons {target position slot : Nat} {positions : List Nat} {pool after : Pool}
    (merged : Merged target positions pool after)
    (below : ∀ other ∈ positions, position < other)
    (found : pool.active[position]? = some slot)
    (targetInside : target < pool.size) (fresh : slot ∉ target :: pool.slotsAt positions) :
    Merged target (position :: positions) pool (mergeInto target position after) := by
  have foundAfter : after.active[position]? = some slot := by
    rw [merged.active_below position below, found]
  have atPosition : pool.slotsAt (position :: positions) = slot :: pool.slotsAt positions := by
    simp [slotsAt, List.getD_eq_getElem?_getD, found]
  have different : slot ≠ target := List.ne_of_not_mem_cons fresh
  have source : after.cluster slot = pool.cluster slot := merged.other slot fresh
  have targetStored : target < after.slots.size :=
    Nat.lt_of_lt_of_eq targetInside merged.size.symm
  have result : mergeInto target position after =
      { after with
        slots := (after.slots.modify target (·.absorb (pool.cluster slot))).modify slot
          Cluster.clear
        free := slot :: after.free
        active := swapRemove after.active position
        tally.merged := after.tally.merged + 1 } := by
    simp only [mergeInto, foundAfter, source]
  have targetCluster : (mergeInto target position after).cluster target =
      (after.cluster target).absorb (pool.cluster slot) := by
    rw [result]
    exact (getD_modify_of_ne different _).trans (getD_modify_self targetStored _)
  constructor
  · rw [atPosition, result, List.cons_append]
    exact List.perm_middle.symm.trans
      ((List.Perm.append_left _ (swapRemove_perm foundAfter)).trans merged.active_perm)
  · intro index before
    have first : index < position := before position List.mem_cons_self
    obtain ⟨inside, -⟩ := List.getElem?_eq_some_iff.mp foundAfter
    rw [result, getElem?_swapRemove_of_lt first inside]
    exact merged.active_below index
      (fun other member => before other (List.mem_cons_of_mem _ member))
  · rw [atPosition, result, merged.free, List.cons_append]
  · rw [targetCluster, Cluster.hits_absorb, merged.hits, atPosition, List.reverse_cons,
      List.flatMap_append, List.append_assoc]
    simp
  · intro settled
    rw [targetCluster]
    exact (merged.settled settled).absorb _
  · intro other outside
    rw [atPosition] at outside
    simp only [List.mem_cons, not_or] at outside
    obtain ⟨notTarget, notSlot, notLater⟩ := outside
    have unchanged : (mergeInto target position after).cluster other = after.cluster other := by
      rw [result]
      exact (getD_modify_of_ne (Ne.symm notSlot) _).trans
        (getD_modify_of_ne (Ne.symm notTarget) _)
    rw [unchanged]
    exact merged.other other (by simp [notTarget, notLater])
  · rw [result]
    exact merged.limits
  · rw [result]
    exact merged.closed
  · rw [result]
    simpa [Pool.size] using merged.size
  · rw [result, merged.tally]
    simp [Nat.add_assoc]

/-- Merging at ascending positions. -/
theorem merged_foldr {target : Nat} {pool : Pool} {positions : List Nat}
    (ascending : positions.Pairwise (· < ·))
    (inside : ∀ position ∈ positions, position < pool.active.length)
    (nodup : pool.active.Nodup) (targetInside : target < pool.size)
    (fresh : target ∉ pool.slotsAt positions) :
    Merged target positions pool (positions.foldr (mergeInto target) pool) := by
  induction positions with
  | nil => exact merged_nil target pool
  | cons position positions induction =>
      obtain ⟨below, ascendingRest⟩ := List.pairwise_cons.mp ascending
      have positionInside := inside position List.mem_cons_self
      have restInside : ∀ other ∈ positions, other < pool.active.length :=
        fun other member => inside other (List.mem_cons_of_mem _ member)
      simp only [slotsAt, List.map_cons, List.mem_cons, not_or] at fresh
      have found : pool.active[position]? = some (pool.active.getD position 0) := by
        simp [List.getD_eq_getElem?_getD, positionInside]
      refine (induction ascendingRest restInside fresh.2).cons below found targetInside ?_
      simp only [List.mem_cons, slotsAt, List.mem_map, not_or, not_exists, not_and]
      refine ⟨Ne.symm fresh.1, ?_⟩
      intro other member same
      have otherInside := restInside other member
      rw [List.getD_eq_getElem _ _ otherInside, List.getD_eq_getElem _ _ positionInside,
        nodup.getElem_inj_iff] at same
      exact Nat.ne_of_gt (below other member) same

end Pool

end EventFormation
