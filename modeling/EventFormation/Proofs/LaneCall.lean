import EventFormation.Proofs.LaneShares

/-!
# One call, told by groups

Between calls lanes are at rest: nothing waits to be reported, and only the
first lane has open clusters.  A call in which no lane drops anything reports
of each lane the groups that start in the window of its share, and carries the
groups that the last lane leaves open.
-/

namespace EventFormation

namespace Lanes

/-- What is true of lanes between calls. -/
structure Resting (limits : Limits) (lanes : Lanes) : Prop where
  inhabited : 0 < lanes.count
  wellFormed : ∀ number < lanes.count, (lanes.lane number).pool.WellFormed
  closed : ∀ number < lanes.count, (lanes.lane number).pool.closed = []
  buffer : ∀ number < lanes.count, (lanes.lane number).buffer = #[]
  limits : ∀ number < lanes.count, (lanes.lane number).pool.limits = limits
  idle : ∀ number < lanes.count, 0 < number → (lanes.lane number).pool.active = []

theorem lane_ofCount {count number : Nat} (inside : number < count) (limits : Limits)
    (slots : Nat) :
    (ofCount count limits slots).lane number = { pool := .ofSize limits slots } := by
  simp [lane, ofCount, inside]

theorem resting_ofCount {count : Nat} (inhabited : 0 < count) (limits : Limits) (slots : Nat) :
    Resting limits (ofCount count limits slots) := by
  have all : (ofCount count limits slots).count = count := List.length_replicate
  constructor
  · rwa [all]
  · intro number inside
    rw [lane_ofCount (all ▸ inside)]
    exact Pool.wellFormed_ofSize limits slots
  · intro number inside
    rw [lane_ofCount (all ▸ inside)]
    rfl
  · intro number inside
    rw [lane_ofCount (all ▸ inside)]
  · intro number inside
    rw [lane_ofCount (all ▸ inside)]
    rfl
  · intro number inside _
    rw [lane_ofCount (all ▸ inside)]
    rfl

theorem openClusters_ofCount (count : Nat) (limits : Limits) (slots : Nat) :
    (ofCount count limits slots).openClusters = [] := by
  simp [openClusters, ofCount, Pool.activeClusters, Pool.ofSize]

theorem groups_ofCount (count : Nat) (limits : Limits) (slots : Nat) :
    (ofCount count limits slots).groups = 0 := by
  rw [groups, openClusters_ofCount, Cluster.groups_nil]

theorem count_clear (lanes : Lanes) : lanes.clear.count = lanes.count :=
  List.length_map _

theorem lane_clear (lanes : Lanes) {number : Nat} (inside : number < lanes.count) :
    lanes.clear.lane number = (lanes.lane number).clear := by
  have stored : number < lanes.list.length := inside
  simp [Lanes.lane, Lanes.clear, stored]

theorem resting_clear {limits : Limits} {lanes : Lanes} (resting : Resting limits lanes) :
    Resting limits lanes.clear := by
  constructor
  · rw [count_clear]
    exact resting.inhabited
  · intro number inside
    rw [count_clear] at inside
    rw [lane_clear lanes inside]
    exact (resting.wellFormed number inside).clearActive.clearClosed
  · intro number inside
    rw [count_clear] at inside
    rw [lane_clear lanes inside]
    rfl
  · intro number inside
    rw [count_clear] at inside
    rw [lane_clear lanes inside]
    rfl
  · intro number inside
    rw [count_clear] at inside
    rw [lane_clear lanes inside]
    exact resting.limits number inside
  · intro number inside _
    rw [count_clear] at inside
    rw [lane_clear lanes inside]
    rfl

theorem openClusters_clear (lanes : Lanes) : lanes.clear.openClusters = [] := by
  simp [openClusters, Lanes.clear, Lane.clear, Pool.activeClusters, Pool.clearActive,
    Pool.clearClosed]

section

variable {count : Nat} {lane : Nat → Lane} (inhabited : 0 < count)
  (wellFormed : ∀ number < count, (lane number).pool.WellFormed)
include inhabited wellFormed

theorem received_handed (several : ¬count ≤ 1) :
    Pool.Received (lane (count - 1)).pool.activeClusters (lane 0).pool.clearActive.1
      (handed count lane 0).pool := by
  have received := Pool.received_foldl (wellFormed 0 inhabited).clearActive
    (Pool.activeClusters_settled (wellFormed (count - 1) (by omega)))
  rw [handed, if_neg several, if_pos rfl]
  exact received

/-- A lane keeps its pool, or receives, or gives up its open clusters. -/
theorem pool_handed_cases (number : Nat) :
    (handed count lane number).pool = (lane number).pool ∨
      (number = 0 ∧ Pool.Received (lane (count - 1)).pool.activeClusters
        (lane 0).pool.clearActive.1 (handed count lane 0).pool) ∨
      (handed count lane number).pool = (lane number).pool.clearActive.1 := by
  by_cases several : count ≤ 1
  · rw [handed, if_pos several]
    exact .inl rfl
  · by_cases first : number = 0
    · exact .inr (.inl ⟨first, received_handed inhabited wellFormed several⟩)
    · rw [handed, if_neg several, if_neg first]
      exact .inr (.inr rfl)

theorem wellFormed_handed {number : Nat} (inside : number < count) :
    (handed count lane number).pool.WellFormed := by
  rcases pool_handed_cases inhabited wellFormed number with same | ⟨rfl, received⟩ | cleared
  · rw [same]
    exact wellFormed number inside
  · exact received.wellFormed
  · rw [cleared]
    exact (wellFormed number inside).clearActive

theorem closed_handed (number : Nat) :
    (handed count lane number).pool.closed = (lane number).pool.closed := by
  rcases pool_handed_cases inhabited wellFormed number with same | ⟨rfl, received⟩ | cleared
  · rw [same]
  · exact received.closed
  · rw [cleared]
    rfl

theorem limits_handed (number : Nat) :
    (handed count lane number).pool.limits = (lane number).pool.limits := by
  rcases pool_handed_cases inhabited wellFormed number with same | ⟨rfl, received⟩ | cleared
  · rw [same]
  · exact received.limits
  · rw [cleared]
    rfl

theorem dropped_le_handed (number : Nat) :
    (lane number).pool.tally.dropped ≤ (handed count lane number).pool.tally.dropped := by
  rcases pool_handed_cases inhabited wellFormed number with same | ⟨rfl, received⟩ | cleared
  · rw [same]
  · exact received.dropped_le
  · rw [cleared]
    exact Nat.le_refl _

/-- The first lane gets the open groups of the last one, if it has room. -/
theorem groups_handed
    (kept : (handed count lane 0).pool.tally.dropped = (lane 0).pool.tally.dropped) :
    (handed count lane 0).pool.groups = (lane (count - 1)).pool.groups := by
  by_cases several : count ≤ 1
  · have only : count - 1 = 0 := by omega
    rw [handed, if_pos several, only]
  · have received := received_handed inhabited wellFormed several
    rw [received.groups kept]
    exact add_zero _

end

theorem buffer_handed (count : Nat) (lane : Nat → Lane) (number : Nat) :
    (handed count lane number).buffer = (lane number).buffer := by
  unfold handed
  split
  · rfl
  · split
    · rename_i first
      rw [first]
    · rfl

theorem idle_handed {count number : Nat} (lane : Nat → Lane) (inside : number < count)
    (later : 0 < number) : (handed count lane number).pool.active = [] := by
  rw [handed, if_neg (by omega), if_neg (Nat.ne_of_gt later)]
  rfl

/-- The neutrons that a lane takes in during a call, replayed ones first. -/
def heard (count : Nat) (bins : List (List Readout)) (number : Nat) : List Readout :=
  let first := border count bins.length number
  neutrons (binsBetween (if 0 < number then first - lookback else first)
    (border count bins.length (number + 1)) bins).flatten

/-- The groups that come of all that a lane takes in during a call. -/
def gathered (limits : Limits) (lanes : Lanes) (bins : List (List Readout)) (number : Nat) :
    Grouping :=
  limits.gatherAll (lanes.lane number).pool.groups (heard lanes.count bins number)

section

variable {limits : Limits} {lanes : Lanes} {width base : Nat} {bins : List (List Readout)}
  (resting : Resting limits lanes) (enough : 2 * lanes.count ≤ bins.length)
include resting enough

theorem count_process (out : List Product) :
    (lanes.process base width bins out).1.count = lanes.count := by
  rw [count, list_process resting.inhabited enough, List.length_map, List.length_range]

theorem lane_process (out : List Product) {number : Nat} (inside : number < lanes.count) :
    (lanes.process base width bins out).1.lane number =
      handed lanes.count (lanes.emptied base width bins) number :=
  lane_eq (list_process resting.inhabited enough base width out) inside

variable (spanLe : limits.span ≤ width) (placed : Placed width base bins)
include spanLe placed

theorem swept_ran {number : Nat} (inside : number < lanes.count) :
    Lane.Swept (heard lanes.count bins number)
      (horizon base width (border lanes.count bins.length number))
      (horizon base width (border lanes.count bins.length (number + 1)))
      (lanes.lane number) (lanes.ran base width bins number) := by
  have share := border_add_two_le enough inside
  have stop : border lanes.count bins.length (number + 1) ≤ bins.length :=
    border_le (Nat.succ_le_of_lt inside)
  have spanLane : (lanes.lane number).pool.limits.span ≤ width := by
    rwa [resting.limits number inside]
  have occupied : border lanes.count bins.length number <
      border lanes.count bins.length (number + 1) := by omega
  have swept := Lane.swept_run (resting.wellFormed number inside) (resting.closed number inside)
    spanLane placed occupied stop (0 < number)
  simp only [decide_eq_true_eq] at swept
  exact swept

theorem wellFormed_emptied :
    ∀ number < lanes.count, (lanes.emptied base width bins number).pool.WellFormed :=
  fun _ inside => (swept_ran resting enough spanLe placed inside).wellFormed

/-- Lanes are at rest again after a call. -/
theorem resting_process (out : List Product) :
    Resting limits (lanes.process base width bins out).1 := by
  have swept := fun (number : Nat) (inside : number < lanes.count) =>
    swept_ran resting enough spanLe placed inside
  have wellFormed := wellFormed_emptied resting enough spanLe placed
  have count : (lanes.process base width bins out).1.count = lanes.count :=
    count_process resting enough out
  have lane : ∀ {number : Nat}, number < lanes.count →
      (lanes.process base width bins out).1.lane number =
        handed lanes.count (lanes.emptied base width bins) number :=
    lane_process resting enough out
  constructor
  · rw [count]
    exact resting.inhabited
  · intro number inside
    rw [count] at inside
    rw [lane inside]
    exact wellFormed_handed resting.inhabited wellFormed inside
  · intro number inside
    rw [count] at inside
    rw [lane inside]
    exact (closed_handed resting.inhabited wellFormed number).trans (swept number inside).closed
  · intro number inside
    rw [count] at inside
    rw [lane inside, buffer_handed]
    rfl
  · intro number inside
    rw [count] at inside
    rw [lane inside]
    have same := (limits_handed resting.inhabited wellFormed number).trans
      (swept number inside).limits
    exact same.trans (resting.limits number inside)
  · intro number inside later
    rw [count] at inside
    rw [lane inside]
    exact idle_handed _ inside later

theorem dropped_le_ran {number : Nat} (inside : number < lanes.count) :
    (lanes.lane number).pool.tally.dropped ≤
      (lanes.ran base width bins number).pool.tally.dropped :=
  (swept_ran resting enough spanLe placed inside).dropped_le

theorem dropped_le_lane (out : List Product) {number : Nat} (inside : number < lanes.count) :
    (lanes.ran base width bins number).pool.tally.dropped ≤
      ((lanes.process base width bins out).1.lane number).pool.tally.dropped := by
  rw [lane_process resting enough out inside]
  exact dropped_le_handed resting.inhabited
    (wellFormed_emptied resting enough spanLe placed) number

theorem dropped_le_process (out : List Product) :
    lanes.tally.dropped ≤ (lanes.process base width bins out).1.tally.dropped := by
  rw [dropped_eq_sum, dropped_eq_sum, count_process resting enough out]
  refine Finset.sum_le_sum ?_
  intro number member
  have inside := Finset.mem_range.mp member
  exact Nat.le_trans (dropped_le_ran resting enough spanLe placed inside)
    (dropped_le_lane resting enough spanLe placed out inside)

theorem kept_of_process {out : List Product}
    (kept : (lanes.process base width bins out).1.tally.dropped = lanes.tally.dropped)
    {number : Nat} (inside : number < lanes.count) :
    (lanes.ran base width bins number).pool.tally.dropped =
        (lanes.lane number).pool.tally.dropped ∧
      ((lanes.process base width bins out).1.lane number).pool.tally.dropped =
        (lanes.ran base width bins number).pool.tally.dropped := by
  have whole : ∀ other ∈ Finset.range lanes.count,
      (lanes.lane other).pool.tally.dropped ≤
        ((lanes.process base width bins out).1.lane other).pool.tally.dropped := by
    intro other member
    have used := Finset.mem_range.mp member
    exact Nat.le_trans (dropped_le_ran resting enough spanLe placed used)
      (dropped_le_lane resting enough spanLe placed out used)
  rw [dropped_eq_sum, dropped_eq_sum, count_process resting enough out, eq_comm,
    Finset.sum_eq_sum_iff_of_le whole] at kept
  have same := kept number (Finset.mem_range.mpr inside)
  have one := dropped_le_ran resting enough spanLe placed inside
  have two := dropped_le_lane resting enough spanLe placed out inside
  omega

theorem groups_ran {number : Nat} (inside : number < lanes.count)
    (kept : (lanes.ran base width bins number).pool.tally.dropped =
      (lanes.lane number).pool.tally.dropped) :
    (lanes.ran base width bins number).pool.groups =
      (gathered limits lanes bins number).filter fun group =>
        ¬group.StartBefore (horizon base width (border lanes.count bins.length (number + 1))) := by
  have groups := (swept_ran resting enough spanLe placed inside).groups kept
  rwa [resting.limits number inside] at groups

section

variable {out : List Product}
  (kept : (lanes.process base width bins out).1.tally.dropped = lanes.tally.dropped)
include kept

theorem groups_process :
    (lanes.process base width bins out).1.groups =
      (gathered limits lanes bins (lanes.count - 1)).filter fun group =>
        ¬group.StartBefore (horizon base width bins.length) := by
  have first := resting.inhabited
  have last : lanes.count - 1 < lanes.count := by omega
  have lastGroups := groups_ran resting enough spanLe placed last
    (kept_of_process resting enough spanLe placed kept last).1
  have next : lanes.count - 1 + 1 = lanes.count := by omega
  rw [next, border_last] at lastGroups
  have others : ∀ number ∈ Finset.range lanes.count, number ≠ 0 →
      ((lanes.process base width bins out).1.lane number).pool.groups = 0 := by
    intro number member later
    have inside := Finset.mem_range.mp member
    have idle := (resting_process resting enough spanLe placed out).idle number
      (by rwa [count_process resting enough out]) (Nat.pos_of_ne_zero later)
    exact Pool.groups_of_idle idle
  rw [groups_eq_sum, count_process resting enough out,
    Finset.sum_eq_single_of_mem 0 (Finset.mem_range.mpr first) others, ← lastGroups]
  have keptFirst := (kept_of_process resting enough spanLe placed kept first).2
  rw [lane_process resting enough out first] at keptFirst ⊢
  exact groups_handed resting.inhabited
    (wellFormed_emptied resting enough spanLe placed) keptFirst

/-- What a call reports, lane by lane. -/
theorem formed_process :
    Cluster.groups (Product.clusters (lanes.process base width bins out).2.1) =
      Cluster.groups (Product.clusters out) + ∑ number ∈ Finset.range lanes.count,
        (gathered limits lanes bins number).filter fun group =>
          ¬group.StartBefore (horizon base width (border lanes.count bins.length number)) ∧
            group.StartBefore
              (horizon base width (border lanes.count bins.length (number + 1))) := by
  have formed : ∀ number ∈ Finset.range lanes.count,
      (lanes.ran base width bins number).formed =
        (gathered limits lanes bins number).filter fun group =>
          ¬group.StartBefore (horizon base width (border lanes.count bins.length number)) ∧
            group.StartBefore
              (horizon base width (border lanes.count bins.length (number + 1))) := by
    intro number member
    have inside := Finset.mem_range.mp member
    have keptRan := (kept_of_process resting enough spanLe placed kept inside).1
    have reported := (swept_ran resting enough spanLe placed inside).formed keptRan
    have nothing : (lanes.lane number).formed = 0 := by
      rw [Lane.formed, resting.buffer number inside]
      rfl
    rwa [nothing, zero_add, resting.limits number inside] at reported
  have produced : Product.clusters ((List.range lanes.count).flatMap fun number =>
      (lanes.ran base width bins number).buffer.toList) =
        (List.range lanes.count).flatMap fun number =>
          Product.clusters (lanes.ran base width bins number).buffer.toList :=
    List.filterMap_flatMap
  rw [products_process enough, Product.clusters_append, Cluster.groups_append, produced,
    groups_flatMap, ← Finset.sum_congr rfl formed]
  rfl

end

theorem proper_process {out : List Product} (proper : ∀ product ∈ out, product.Proper) :
    ∀ product ∈ (lanes.process base width bins out).2.1, product.Proper := by
  intro product member
  rw [products_process enough] at member
  rcases List.mem_append.mp member with old | fresh
  · exact proper product old
  · obtain ⟨number, numberMember, produced⟩ := List.mem_flatMap.mp fresh
    have inside := List.mem_range.mp numberMember
    refine (swept_ran resting enough spanLe placed inside).proper ?_ product produced
    rw [resting.buffer number inside]
    simp

end

end Lanes

end EventFormation
