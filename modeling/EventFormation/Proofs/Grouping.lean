import EventFormation.Proximity
import Mathlib

/-!
# Groupings of hits

What is in a cluster pool can be told without slots and without order, as a
multiset of groups of hits.  Taking a readout in fuses all groups that admit
it, so the order in which a pool keeps its clusters never shows in the groups.

Groups that start too early for all further readouts are out of play.  They
may be set aside at any moment, and the others evolve as if nothing had been
set aside.
-/

namespace EventFormation

/-- Hits that belong together, in no order. -/
abbrev Hits := Multiset Readout

/-- Groups of hits, in no order. -/
abbrev Grouping := Multiset Hits

instance (hits : Hits) (property : Readout → Prop) [DecidablePred property] :
    Decidable (∃ hit ∈ hits, property hit) :=
  Multiset.decidableExistsMultiset

/-- Some hit of the group is earlier than an instant. -/
def Hits.StartBefore (time : Nat) (group : Hits) : Prop :=
  ∃ hit ∈ group, hit.time.toNat < time

instance (time : Nat) : DecidablePred (Hits.StartBefore time) :=
  fun group => inferInstanceAs (Decidable (∃ hit ∈ group, _))

theorem Hits.StartBefore.mono {earlier later : Nat} {group : Hits}
    (start : group.StartBefore earlier) (ordered : earlier ≤ later) :
    group.StartBefore later := by
  obtain ⟨hit, member, before⟩ := start
  exact ⟨hit, member, Nat.lt_of_lt_of_le before ordered⟩

theorem Grouping.filter_window_add {grouping : Grouping} {first between last : Nat}
    (firstLe : first ≤ between) (betweenLe : between ≤ last) :
    (grouping.filter fun group => ¬group.StartBefore first ∧ group.StartBefore between) +
        (grouping.filter fun group => ¬group.StartBefore between ∧ group.StartBefore last) =
      grouping.filter fun group => ¬group.StartBefore first ∧ group.StartBefore last := by
  rw [← Multiset.filter_add_not (Hits.StartBefore between)
    (grouping.filter fun group => ¬group.StartBefore first ∧ group.StartBefore last),
    Multiset.filter_filter, Multiset.filter_filter]
  congr 1
  · refine Multiset.filter_congr ?_
    intro group _
    have next := fun start : group.StartBefore between => start.mono betweenLe
    tauto
  · refine Multiset.filter_congr ?_
    intro group _
    have previous := fun start : group.StartBefore first => start.mono firstLe
    tauto

/-- Groups that start before the end of a window start before it or in it. -/
theorem Grouping.filter_before_add {grouping : Grouping} {between last : Nat}
    (betweenLe : between ≤ last) :
    grouping.filter (Hits.StartBefore between) +
        (grouping.filter fun group => ¬group.StartBefore between ∧ group.StartBefore last) =
      grouping.filter (Hits.StartBefore last) := by
  rw [← Multiset.filter_add_not (Hits.StartBefore between)
    (grouping.filter (Hits.StartBefore last)), Multiset.filter_filter, Multiset.filter_filter]
  congr 1
  refine Multiset.filter_congr ?_
  intro group _
  exact ⟨fun start => ⟨start, start.mono betweenLe⟩, And.left⟩

namespace Limits

/-- The group admits the readout: it is not out of reach of the hits, not later
than the span after any of them, and close to one of them. -/
def Joins (limits : Limits) (group : Hits) (readout : Readout) : Prop :=
  (∃ hit ∈ group, hit.time.toNat ≤ readout.time.toNat + limits.gap) ∧
    (∃ hit ∈ group, readout.time.toNat ≤ hit.time.toNat + limits.gap) ∧
    (∀ hit ∈ group, readout.time.toNat ≤ hit.time.toNat + limits.span) ∧
    (∃ hit ∈ group, hit.x.toNat ≤ readout.x.toNat + limits.dx.toNat) ∧
    (∃ hit ∈ group, readout.x.toNat ≤ hit.x.toNat + limits.dx.toNat) ∧
    (∃ hit ∈ group, hit.y.toNat ≤ readout.y.toNat + limits.dy.toNat) ∧
    (∃ hit ∈ group, readout.y.toNat ≤ hit.y.toNat + limits.dy.toNat) ∧
    ∃ hit ∈ group, limits.Close hit readout

instance (limits : Limits) (group : Hits) (readout : Readout) :
    Decidable (limits.Joins group readout) :=
  inferInstanceAs (Decidable (_ ∧ _))

/-- Takes a readout in: the groups that admit it become one with it. -/
def gather (limits : Limits) (grouping : Grouping) (readout : Readout) : Grouping :=
  (readout ::ₘ (grouping.filter fun group => limits.Joins group readout).sum) ::ₘ
    grouping.filter fun group => ¬limits.Joins group readout

def gatherAll (limits : Limits) (grouping : Grouping) (readouts : List Readout) : Grouping :=
  readouts.foldl limits.gather grouping

variable {limits : Limits} {grouping : Grouping} {group : Hits}

@[simp] theorem gatherAll_nil : limits.gatherAll grouping [] = grouping := rfl

@[simp] theorem gatherAll_cons (readout : Readout) (readouts : List Readout) :
    limits.gatherAll grouping (readout :: readouts) =
      limits.gatherAll (limits.gather grouping readout) readouts := rfl

theorem gatherAll_append (earlier later : List Readout) :
    limits.gatherAll grouping (earlier ++ later) =
      limits.gatherAll (limits.gatherAll grouping earlier) later :=
  List.foldl_append

/-- No hit is lost and none comes twice. -/
theorem sum_gather (readout : Readout) :
    (limits.gather grouping readout).sum = readout ::ₘ grouping.sum := by
  unfold gather
  rw [Multiset.sum_cons, Multiset.cons_add, ← Multiset.sum_add,
    Multiset.filter_add_not]

theorem sum_gatherAll (readouts : List Readout) :
    (limits.gatherAll grouping readouts).sum = grouping.sum + (readouts : Hits) := by
  induction readouts generalizing grouping with
  | nil => simp
  | cons readout readouts induction =>
      rw [gatherAll_cons, induction, sum_gather, Multiset.cons_add,
        ← Multiset.add_cons, Multiset.cons_coe]

theorem not_startBefore_gather {edge : Nat} {readout : Readout}
    (late : edge ≤ readout.time.toNat)
    (allLate : ∀ group ∈ grouping, ¬group.StartBefore edge) :
    ∀ group ∈ limits.gather grouping readout, ¬group.StartBefore edge := by
  intro group member
  rcases Multiset.mem_cons.mp member with rfl | old
  · rintro ⟨hit, hitMember, early⟩
    rcases Multiset.mem_cons.mp hitMember with rfl | inherited
    · omega
    · obtain ⟨source, sourceMember, inSource⟩ := Multiset.mem_join.mp inherited
      exact allLate source (Multiset.mem_of_mem_filter sourceMember)
        ⟨hit, inSource, early⟩
  · exact allLate group (Multiset.mem_of_mem_filter old)

theorem not_startBefore_gatherAll {edge : Nat} {readouts : List Readout}
    (late : ∀ readout ∈ readouts, edge ≤ readout.time.toNat)
    (allLate : ∀ group ∈ grouping, ¬group.StartBefore edge) :
    ∀ group ∈ limits.gatherAll grouping readouts, ¬group.StartBefore edge := by
  induction readouts generalizing grouping with
  | nil => exact allLate
  | cons readout readouts induction =>
      exact induction (fun other member => late other (List.mem_cons_of_mem _ member))
        (not_startBefore_gather (late readout List.mem_cons_self) allLate)

theorem not_joins_of_startBefore {edge : Nat} {readout : Readout}
    (early : group.StartBefore edge) (late : edge + limits.span ≤ readout.time.toNat) :
    ¬limits.Joins group readout := by
  rintro ⟨_, _, within, _⟩
  obtain ⟨hit, member, before⟩ := early
  have reached := within hit member
  omega

/-- Groups that do not admit a readout are not touched by it. -/
theorem gather_add {still : Grouping} {readout : Readout}
    (aside : ∀ group ∈ still, ¬limits.Joins group readout) :
    limits.gather (grouping + still) readout = limits.gather grouping readout + still := by
  unfold gather
  have none : (still.filter fun group => limits.Joins group readout) = 0 :=
    Multiset.filter_eq_nil.mpr aside
  have all : (still.filter fun group => ¬limits.Joins group readout) = still :=
    Multiset.filter_eq_self.mpr aside
  rw [Multiset.filter_add, Multiset.filter_add, none, all, add_zero, Multiset.cons_add]

theorem gatherAll_add {still : Grouping} {readouts : List Readout}
    (aside : ∀ readout ∈ readouts, ∀ group ∈ still, ¬limits.Joins group readout) :
    limits.gatherAll (grouping + still) readouts =
      limits.gatherAll grouping readouts + still := by
  induction readouts generalizing grouping with
  | nil => rfl
  | cons readout readouts induction =>
      rw [gatherAll_cons, gather_add (aside readout List.mem_cons_self), gatherAll_cons,
        induction (fun other member => aside other (List.mem_cons_of_mem _ member))]

variable {edge : Nat} {readouts : List Readout}

/-- Groups that start before an edge are out of play for readouts that come at
least the span after it. -/
theorem gatherAll_setAside
    (late : ∀ readout ∈ readouts, edge + limits.span ≤ readout.time.toNat) :
    limits.gatherAll grouping readouts =
      limits.gatherAll (grouping.filter fun group => ¬group.StartBefore edge) readouts +
        grouping.filter (Hits.StartBefore edge) := by
  rw [← gatherAll_add, add_comm, Multiset.filter_add_not]
  intro readout readoutMember group member
  exact not_joins_of_startBefore (Multiset.of_mem_filter member) (late readout readoutMember)

private theorem filter_startBefore_gatherAll_late
    (late : ∀ readout ∈ readouts, edge + limits.span ≤ readout.time.toNat) :
    ∀ group ∈ limits.gatherAll (grouping.filter fun group => ¬group.StartBefore edge) readouts,
      ¬group.StartBefore edge :=
  not_startBefore_gatherAll
    (fun readout member => Nat.le_trans (Nat.le_add_right _ _) (late readout member))
    (fun _ member => (Multiset.mem_filter.mp member).2)

theorem filter_startBefore_gatherAll
    (late : ∀ readout ∈ readouts, edge + limits.span ≤ readout.time.toNat) :
    (limits.gatherAll grouping readouts).filter (Hits.StartBefore edge) =
      grouping.filter (Hits.StartBefore edge) := by
  rw [gatherAll_setAside late, Multiset.filter_add, Multiset.filter_filter,
    Multiset.filter_eq_nil.mpr (filter_startBefore_gatherAll_late late), zero_add]
  simp only [and_self]

/-- The other groups evolve as if the early ones had been set aside. -/
theorem filter_not_startBefore_gatherAll
    (late : ∀ readout ∈ readouts, edge + limits.span ≤ readout.time.toNat) :
    ((limits.gatherAll grouping readouts).filter fun group => ¬group.StartBefore edge) =
      limits.gatherAll (grouping.filter fun group => ¬group.StartBefore edge) readouts := by
  have none : ((grouping.filter (Hits.StartBefore edge)).filter
      fun group => ¬group.StartBefore edge) = 0 := by
    refine Multiset.filter_eq_nil.mpr ?_
    intro group member later
    exact later (Multiset.of_mem_filter member)
  rw [gatherAll_setAside late, Multiset.filter_add, none, add_zero]
  exact Multiset.filter_eq_self.mpr (filter_startBefore_gatherAll_late late)

end Limits

end EventFormation
