import EventFormation.Proofs.LaneComponents

/-!
# What gets lost at the borders of lanes

The lane before a border leaves clusters open when it is through, and the lane
after it has rebuilt clusters from the bins that it has replayed.  Where these
two do not have the same hits, because a streak longer than the span was cut
at different places, hits are lost or come twice.  This is the only way in
which that happens: hits are kept over a stream exactly if the lanes agree at
every border of every call.
-/

namespace EventFormation

/-- Sums of hits from ranges that do not overlap are equal only part by part. -/
theorem sum_eq_sum_iff_of_ranges {count : Nat} {first second : Nat → Hits}
    {range : Nat → Readout → Prop}
    (inFirst : ∀ number < count, ∀ hit ∈ first number, range number hit)
    (inSecond : ∀ number < count, ∀ hit ∈ second number, range number hit)
    (apart : ∀ number < count, ∀ other < count, ∀ hit, range number hit → range other hit →
      number = other) :
    ∑ number ∈ Finset.range count, first number = ∑ number ∈ Finset.range count, second number ↔
      ∀ number < count, first number = second number := by
  have alone : ∀ parts : Nat → Hits, (∀ number < count, ∀ hit ∈ parts number, range number hit) →
      ∀ number < count, ∀ hit, range number hit →
        (∑ other ∈ Finset.range count, parts other).count hit = (parts number).count hit := by
    intro parts inside number used hit inRange
    rw [Multiset.count_sum', Finset.sum_eq_single_of_mem number (Finset.mem_range.mpr used)]
    intro other otherMember different
    refine Multiset.count_eq_zero.mpr ?_
    intro member
    have otherUsed := Finset.mem_range.mp otherMember
    exact different (apart other otherUsed number used hit
      (inside other otherUsed hit member) inRange)
  constructor
  · intro same number used
    refine Multiset.ext.mpr ?_
    intro hit
    by_cases inRange : hit ∈ first number ∨ hit ∈ second number
    · have inRange : range number hit :=
        inRange.elim (inFirst number used hit) (inSecond number used hit)
      rw [← alone first inFirst number used hit inRange, same,
        alone second inSecond number used hit inRange]
    · obtain ⟨notFirst, notSecond⟩ := not_or.mp inRange
      rw [Multiset.count_eq_zero.mpr notFirst, Multiset.count_eq_zero.mpr notSecond]
  · intro same
    exact Finset.sum_congr rfl fun number member => same number (Finset.mem_range.mp member)

namespace Lanes

/-- The hits in clusters that a lane leaves open when it is through. -/
def abandoned (lanes : Lanes) (base width : Nat) (bins : List (List Readout)) (number : Nat) :
    Hits :=
  (lanes.ran base width bins number).pool.groups.sum

/-- The hits in clusters that a lane has after its replay and that start in the
last bin of it. -/
def rebuilt (lanes : Lanes) (base width : Nat) (bins : List (List Readout)) (number : Nat) :
    Hits :=
  let first := border lanes.count bins.length number
  (((lanes.lane number).replay (binsBetween (first - lookback) first bins)).pool.groups.filter
    fun group => ¬group.StartBefore (horizon base width first)).sum

/-- At every border of a call, the lane before it and the lane after it agree. -/
def Agree (lanes : Lanes) (base width : Nat) (bins : List (List Readout)) : Prop :=
  ∀ number < lanes.count - 1,
    lanes.abandoned base width bins number = lanes.rebuilt base width bins (number + 1)

/-- The hits of all clusters, those that have been reported and those that are
open. -/
def total (lanes : Lanes) (out : List Product) : Hits :=
  (Cluster.groups (Product.clusters out ++ lanes.openClusters)).sum

theorem total_eq (lanes : Lanes) (out : List Product) :
    lanes.total out = (Cluster.groups (Product.clusters out)).sum + lanes.groups.sum := by
  rw [total, Cluster.groups_append, Multiset.sum_add]
  rfl

section

variable {limits : Limits} {lanes : Lanes} {width base : Nat} {bins : List (List Readout)}
  {out : List Product} (resting : Resting limits lanes)
  (enough : 2 * lanes.count ≤ bins.length) (spanLe : limits.span ≤ width)
  (placed : Placed width base bins)
  (kept : (lanes.process base width bins out).1.tally.dropped = lanes.tally.dropped)
  (ahead : ∀ group ∈ lanes.groups, ¬group.StartBefore (horizon base width 0))

/-- The neutrons of the share of a lane. -/
def own (count : Nat) (bins : List (List Readout)) (number : Nat) : List Readout :=
  neutrons (binsBetween (border count bins.length number)
    (border count bins.length (number + 1)) bins).flatten

omit enough in
include resting in
theorem sum_own :
    ∑ number ∈ Finset.range lanes.count, (own lanes.count bins number : Hits) =
      (neutrons bins.flatten : Hits) := by
  have upTo : ∀ count ≤ lanes.count,
      ∑ number ∈ Finset.range count, (own lanes.count bins number : Hits) =
        (neutrons (binsBetween 0 (border lanes.count bins.length count) bins).flatten : Hits) := by
    intro count inside
    induction count with
    | zero =>
        rw [Finset.sum_range_zero, border_zero resting.inhabited]
        rfl
    | succ count induction =>
        have ordered : border lanes.count bins.length count ≤
            border lanes.count bins.length (count + 1) :=
          border_mono (Nat.le_succ count) inside
        rw [Finset.sum_range_succ, induction (Nat.le_of_succ_le inside),
          ← binsBetween_append bins (Nat.zero_le _) ordered, List.flatten_append, neutrons_append,
          ← Multiset.coe_add]
        rfl
  have all : binsBetween 0 bins.length bins = bins := by simp [binsBetween]
  rw [upTo lanes.count (Nat.le_refl _), border_last, all]

theorem sum_windows (grouping : Grouping) {first last : Nat} (ordered : first ≤ last) :
    grouping.sum = (grouping.filter (Hits.StartBefore first)).sum +
      ((grouping.filter fun group =>
        ¬group.StartBefore first ∧ group.StartBefore last).sum +
          (grouping.filter fun group => ¬group.StartBefore last).sum) := by
  rw [← add_assoc, ← Multiset.sum_add, ← Multiset.sum_add, Grouping.filter_before_add ordered,
    Multiset.filter_add_not]

/-- What a lane reports in a call in which nothing is dropped. -/
def reported (limits : Limits) (lanes : Lanes) (base width : Nat) (bins : List (List Readout))
    (number : Nat) : Grouping :=
  (gathered limits lanes bins number).filter fun group =>
    ¬group.StartBefore (horizon base width (border lanes.count bins.length number)) ∧
      group.StartBefore (horizon base width (border lanes.count bins.length (number + 1)))

include resting enough spanLe placed kept in
theorem abandoned_eq {number : Nat} (inside : number < lanes.count) :
    lanes.abandoned base width bins number =
      ((gathered limits lanes bins number).filter fun group => ¬group.StartBefore
        (horizon base width (border lanes.count bins.length (number + 1)))).sum := by
  rw [abandoned, groups_ran resting enough spanLe placed inside
    (kept_of_process resting enough spanLe placed kept inside).1]

include resting enough spanLe placed kept in
theorem rebuilt_eq {number : Nat} (inside : number < lanes.count) (later : 0 < number) :
    lanes.rebuilt base width bins number =
      ((limits.gatherAll 0 (neutrons (binsBetween
        (border lanes.count bins.length number - lookback)
        (border lanes.count bins.length number) bins).flatten)).filter fun group =>
          ¬group.StartBefore
            (horizon base width (border lanes.count bins.length number))).sum := by
  have wellFormed := resting.wellFormed number inside
  have closed := resting.closed number inside
  have share := border_add_two_le enough inside
  have spanLane : (lanes.lane number).pool.limits.span ≤ width := by
    rwa [resting.limits number inside]
  obtain ⟨replayed, -⟩ := Lane.gathered_replay wellFormed closed
    (binsBetween (border lanes.count bins.length number - lookback)
      (border lanes.count bins.length number) bins)
  have ran := Lane.swept_run_replayed wellFormed closed spanLane placed
    (show border lanes.count bins.length number < border lanes.count bins.length (number + 1) by
      omega) (border_le inside)
  have keptRan := (kept_of_process resting enough spanLe placed kept inside).1
  unfold Lanes.ran at keptRan
  simp only [later, decide_true] at keptRan
  have groups := replayed.groups
    (Nat.le_antisymm (Nat.le_trans ran.dropped_le (Nat.le_of_eq keptRan)) replayed.dropped_le)
  rw [rebuilt, groups, resting.limits number inside, groups_later resting inside later]

include resting enough spanLe placed kept ahead in
/-- The first lane keeps what was carried over and the neutrons of its share. -/
theorem kept_first :
    (reported limits lanes base width bins 0).sum + lanes.abandoned base width bins 0 =
      lanes.groups.sum + (own lanes.count bins 0 : Hits) := by
  have ordered : horizon base width (border lanes.count bins.length 0) ≤
      horizon base width (border lanes.count bins.length (0 + 1)) :=
    horizon_mono base width (border_mono (Nat.le_succ 0) resting.inhabited)
  have heardOwn : heard lanes.count bins 0 = own lanes.count bins 0 := by
    rw [heard, if_neg (Nat.lt_irrefl 0)]
    rfl
  have early : (gathered limits lanes bins 0).filter (Hits.StartBefore
      (horizon base width (border lanes.count bins.length 0))) = 0 := by
    refine Multiset.filter_eq_nil.mpr ?_
    rw [border_zero resting.inhabited, gathered, groups_first resting, heardOwn]
    refine Limits.not_startBefore_gatherAll ?_ ahead
    intro readout member
    have bounds := (placed.binsBetween _ _).bounds member
    unfold horizon
    omega
  have windows := sum_windows (gathered limits lanes bins 0) ordered
  rw [early, Multiset.sum_zero, zero_add] at windows
  rw [abandoned_eq resting enough spanLe placed kept resting.inhabited, reported, ← windows,
    gathered, Limits.sum_gatherAll, groups_first resting, heardOwn]

include resting enough spanLe placed kept in
/-- A later lane keeps what it has rebuilt and the neutrons of its share. -/
theorem kept_later {number : Nat} (inside : number < lanes.count) (later : 0 < number) :
    (reported limits lanes base width bins number).sum + lanes.abandoned base width bins number =
      lanes.rebuilt base width bins number + (own lanes.count bins number : Hits) := by
  have ordered : horizon base width (border lanes.count bins.length number) ≤
      horizon base width (border lanes.count bins.length (number + 1)) :=
    horizon_mono base width (border_mono (Nat.le_succ number) inside)
  have share := border_add_two_le enough inside
  let replayed := neutrons (binsBetween (border lanes.count bins.length number - lookback)
    (border lanes.count bins.length number) bins).flatten
  have heardBoth : heard lanes.count bins number = replayed ++ own lanes.count bins number := by
    rw [heard, if_pos later, ← binsBetween_append bins (Nat.sub_le _ lookback)
      (show border lanes.count bins.length number ≤
        border lanes.count bins.length (number + 1) by omega), List.flatten_append,
      neutrons_append]
    rfl
  have whole : gathered limits lanes bins number =
      limits.gatherAll (limits.gatherAll 0 replayed) (own lanes.count bins number) := by
    rw [gathered, groups_later resting inside later, heardBoth, Limits.gatherAll_append]
  have atLeast := two_le_border enough later (Nat.le_of_lt inside)
  have late : ∀ readout ∈ own lanes.count bins number,
      horizon base width (border lanes.count bins.length number) + limits.span ≤
        readout.time.toNat := by
    intro readout member
    have bounds := (placed.binsBetween _ _).bounds member
    obtain ⟨rest, start⟩ : ∃ rest, border lanes.count bins.length number = rest + 1 :=
      ⟨_, (Nat.sub_add_cancel (by omega)).symm⟩
    rw [start, Nat.add_mul, Nat.one_mul] at bounds
    rw [start, horizon_succ, Nat.mul_comm]
    omega
  have windows := sum_windows (gathered limits lanes bins number) ordered
  have split := congrArg Multiset.sum (Multiset.filter_add_not (Hits.StartBefore
    (horizon base width (border lanes.count bins.length number))) (limits.gatherAll 0 replayed))
  rw [Multiset.sum_add] at split
  have early : (gathered limits lanes bins number).filter (Hits.StartBefore
      (horizon base width (border lanes.count bins.length number))) =
        (limits.gatherAll 0 replayed).filter (Hits.StartBefore
          (horizon base width (border lanes.count bins.length number))) := by
    rw [whole]
    exact Limits.filter_startBefore_gatherAll late
  have sum : (gathered limits lanes bins number).sum =
      (limits.gatherAll 0 replayed).sum + (own lanes.count bins number : Hits) := by
    rw [whole, Limits.sum_gatherAll]
  rw [sum, ← split, early, add_assoc] at windows
  rw [abandoned_eq resting enough spanLe placed kept inside,
    rebuilt_eq resting enough spanLe placed kept inside later, reported]
  exact (add_left_cancel windows).symm

include resting enough spanLe placed kept ahead in
/-- What a call makes of the hits: those of the clusters that are left open at
borders are lost, and those that are rebuilt there come in their place. -/
theorem total_process :
    (lanes.process base width bins out).1.total (lanes.process base width bins out).2.1 +
        ∑ number ∈ Finset.range (lanes.count - 1), lanes.abandoned base width bins number =
      lanes.total out + (neutrons bins.flatten : Hits) +
        ∑ number ∈ Finset.range (lanes.count - 1), lanes.rebuilt base width bins (number + 1) := by
  obtain ⟨rest, count⟩ : ∃ rest, lanes.count = rest + 1 :=
    ⟨_, (Nat.sub_add_cancel resting.inhabited).symm⟩
  have lanesKept : ∑ number ∈ Finset.range lanes.count,
      ((reported limits lanes base width bins number).sum +
        lanes.abandoned base width bins number) =
      lanes.groups.sum + (neutrons bins.flatten : Hits) +
        ∑ number ∈ Finset.range rest, lanes.rebuilt base width bins (number + 1) := by
    have later : ∀ number ∈ Finset.range rest,
        (reported limits lanes base width bins (number + 1)).sum +
          lanes.abandoned base width bins (number + 1) =
        lanes.rebuilt base width bins (number + 1) +
          (own lanes.count bins (number + 1) : Hits) := by
      intro number member
      have used := Finset.mem_range.mp member
      exact kept_later resting enough spanLe placed kept (by omega) (Nat.succ_pos number)
    rw [← sum_own resting, count, Finset.sum_range_succ', Finset.sum_congr rfl later,
      kept_first resting enough spanLe placed kept ahead, Finset.sum_add_distrib,
      Finset.sum_range_succ', count]
    abel
  have reportedAll := congrArg Multiset.sum
    (formed_process resting enough spanLe placed kept)
  have reportedSum : (∑ number ∈ Finset.range lanes.count,
      reported limits lanes base width bins number).sum =
        ∑ number ∈ Finset.range lanes.count, (reported limits lanes base width bins number).sum :=
    map_sum Multiset.sumAddMonoidHom _ _
  have last : lanes.count - 1 < lanes.count := by omega
  have openLast := abandoned_eq resting enough spanLe placed kept last
  have next : lanes.count - 1 + 1 = lanes.count := by omega
  rw [next, border_last, ← groups_process resting enough spanLe placed kept] at openLast
  rw [Multiset.sum_add] at reportedAll
  change _ = _ + (∑ number ∈ Finset.range lanes.count,
    reported limits lanes base width bins number).sum at reportedAll
  have lessOne : lanes.count - 1 = rest := by omega
  have openAll : ∑ number ∈ Finset.range lanes.count, lanes.abandoned base width bins number =
      ∑ number ∈ Finset.range rest, lanes.abandoned base width bins number +
        lanes.abandoned base width bins rest := by
    rw [count, Finset.sum_range_succ]
  rw [Finset.sum_add_distrib, ← reportedSum, openAll] at lanesKept
  rw [total_eq, total_eq, reportedAll, ← openLast, lessOne]
  calc
    _ = (Cluster.groups (Product.clusters out)).sum +
        ((∑ number ∈ Finset.range lanes.count, reported limits lanes base width bins number).sum +
          (∑ number ∈ Finset.range rest, lanes.abandoned base width bins number +
            lanes.abandoned base width bins rest)) := by abel
    _ = _ := by
      rw [lanesKept]
      abel

/-- The hit lies in the last bin before the one of a number. -/
def InBinBefore (base width number : Nat) (hit : Readout) : Prop :=
  horizon base width number ≤ hit.time.toNat ∧ hit.time.toNat < base + number * width

theorem InBinBefore.le {base width first second : Nat} {hit : Readout}
    (inFirst : InBinBefore base width first hit) (inSecond : InBinBefore base width second hit) :
    second ≤ first := by
  by_contra later
  obtain ⟨rest, rfl⟩ : ∃ rest, second = rest + 1 :=
    ⟨_, (Nat.sub_add_cancel (by omega)).symm⟩
  have grown : first * width ≤ rest * width := Nat.mul_le_mul_right width (by omega)
  have start := inSecond.1
  rw [horizon_succ, Nat.mul_comm] at start
  have stop := inFirst.2
  omega

theorem InBinBefore.base_le {base width number : Nat} {hit : Readout} (later : 0 < number)
    (inside : InBinBefore base width number hit) : base ≤ hit.time.toNat := by
  obtain ⟨rest, rfl⟩ : ∃ rest, number = rest + 1 := ⟨_, (Nat.sub_add_cancel later).symm⟩
  have start := inside.1
  rw [horizon_succ] at start
  omega

theorem le_of_mem_sum {grouping : Grouping} {edge : Nat} {hit : Readout}
    (member : hit ∈ (grouping.filter fun group => ¬group.StartBefore edge).sum) :
    edge ≤ hit.time.toNat := by
  obtain ⟨group, groupMember, inside⟩ := Multiset.mem_join.mp member
  by_contra before
  exact (Multiset.mem_filter.mp groupMember).2 ⟨hit, inside, Nat.lt_of_not_le before⟩

theorem mem_sum_of_mem_filter {grouping : Grouping} {property : Hits → Prop}
    [DecidablePred property] {hit : Readout}
    (member : hit ∈ (grouping.filter property).sum) : hit ∈ grouping.sum := by
  obtain ⟨group, groupMember, inside⟩ := Multiset.mem_join.mp member
  exact Multiset.mem_join.mpr ⟨group, Multiset.mem_of_mem_filter groupMember, inside⟩

section

variable (behind : ∀ hit ∈ lanes.groups.sum, hit.time.toNat < base)

include resting enough spanLe placed kept behind in
theorem abandoned_inBinBefore {number : Nat} (inside : number < lanes.count) {hit : Readout}
    (member : hit ∈ lanes.abandoned base width bins number) :
    InBinBefore base width (border lanes.count bins.length (number + 1)) hit := by
  rw [abandoned_eq resting enough spanLe placed kept inside] at member
  refine ⟨le_of_mem_sum member, ?_⟩
  have all := mem_sum_of_mem_filter member
  rw [gathered, Limits.sum_gatherAll] at all
  rcases Multiset.mem_add.mp all with carried | heardHere
  · have first : number = 0 := by
      by_contra later
      rw [groups_later resting inside (Nat.pos_of_ne_zero later)] at carried
      exact Multiset.notMem_zero hit carried
    rw [first, groups_first resting] at carried
    have before := behind hit carried
    omega
  · have share := border_add_two_le enough inside
    refine (placed.bounds_binsBetween ?_ (Multiset.mem_coe.mp heardHere)).2
    split <;> omega

include resting enough spanLe placed kept in
theorem rebuilt_inBinBefore {number : Nat} (inside : number < lanes.count) (later : 0 < number)
    {hit : Readout} (member : hit ∈ lanes.rebuilt base width bins number) :
    InBinBefore base width (border lanes.count bins.length number) hit := by
  rw [rebuilt_eq resting enough spanLe placed kept inside later] at member
  refine ⟨le_of_mem_sum member, ?_⟩
  have all := mem_sum_of_mem_filter member
  rw [Limits.sum_gatherAll, Multiset.sum_zero, zero_add, Multiset.mem_coe] at all
  exact (placed.bounds_binsBetween (Nat.sub_le _ _) all).2

end

section

variable (behind : ∀ hit ∈ lanes.total out, hit.time.toNat < base)

include behind in
theorem behind_groups : ∀ hit ∈ lanes.groups.sum, hit.time.toNat < base := by
  intro hit member
  refine behind hit ?_
  rw [total_eq]
  exact Multiset.mem_add.mpr (.inr member)

include resting enough spanLe placed kept behind in
theorem agree_iff :
    lanes.Agree base width bins ↔
      ∑ number ∈ Finset.range (lanes.count - 1), lanes.abandoned base width bins number =
        ∑ number ∈ Finset.range (lanes.count - 1),
          lanes.rebuilt base width bins (number + 1) := by
  let range : Nat → Readout → Prop := fun number =>
    InBinBefore base width (border lanes.count bins.length (number + 1))
  have inFirst : ∀ number < lanes.count - 1, ∀ hit ∈ lanes.abandoned base width bins number,
      range number hit := by
    intro number used hit member
    exact abandoned_inBinBefore resting enough spanLe placed kept (behind_groups behind)
      (by omega) member
  have inSecond : ∀ number < lanes.count - 1,
      ∀ hit ∈ lanes.rebuilt base width bins (number + 1), range number hit := by
    intro number used hit member
    exact rebuilt_inBinBefore resting enough spanLe placed kept (by omega)
      (Nat.succ_pos number) member
  refine (sum_eq_sum_iff_of_ranges inFirst inSecond ?_).symm
  intro number used other otherUsed hit inRange inOther
  have same := border_injective enough (by omega) (by omega)
    (Nat.le_antisymm (inOther.le inRange) (inRange.le inOther))
  omega

include resting enough spanLe placed kept ahead behind in
theorem behind_process :
    ∀ hit ∈ (lanes.process base width bins out).1.total (lanes.process base width bins out).2.1,
      hit.time.toNat < base + bins.length * width := by
  intro hit member
  have all : hit ∈ lanes.total out + (neutrons bins.flatten : Hits) +
      ∑ number ∈ Finset.range (lanes.count - 1),
        lanes.rebuilt base width bins (number + 1) := by
    rw [← total_process resting enough spanLe placed kept ahead]
    exact Multiset.mem_add.mpr (.inl member)
  rcases Multiset.mem_add.mp all with counted | built
  · rcases Multiset.mem_add.mp counted with old | fresh
    · have before := behind hit old
      omega
    · exact (placed.bounds (Multiset.mem_coe.mp fresh)).2
  · obtain ⟨number, numberMember, inside⟩ := Multiset.mem_sum.mp built
    have used := Finset.mem_range.mp numberMember
    have bound : hit.time.toNat < base + border lanes.count bins.length (number + 1) * width :=
      (rebuilt_inBinBefore resting enough spanLe placed kept (by omega)
        (Nat.succ_pos number) inside).2
    have last : border lanes.count bins.length (number + 1) ≤ bins.length :=
      border_le (by omega)
    have grown := Nat.mul_le_mul_right width last
    omega

include resting enough spanLe placed kept ahead behind in
/-- A call keeps the hits if they were kept before and the lanes agree. -/
theorem total_process_iff {supplied : Hits}
    (earlier : ∀ hit ∈ supplied, hit.time.toNat < base) :
    (lanes.process base width bins out).1.total (lanes.process base width bins out).2.1 =
        supplied + (neutrons bins.flatten : Hits) ↔
      lanes.total out = supplied ∧ lanes.Agree base width bins := by
  have balance := total_process resting enough spanLe placed kept ahead
  rw [agree_iff resting enough spanLe placed kept behind]
  constructor
  · intro same
    have before : lanes.total out = supplied := by
      have lateAbandoned : ∀ hit ∈ ∑ number ∈ Finset.range (lanes.count - 1),
          lanes.abandoned base width bins number, ¬hit.time.toNat < base := by
        intro hit member
        obtain ⟨number, numberMember, inside⟩ := Multiset.mem_sum.mp member
        have used := Finset.mem_range.mp numberMember
        have bin := abandoned_inBinBefore resting enough spanLe placed kept
          (behind_groups behind) (by omega) inside
        have positive : 2 ≤ border lanes.count bins.length (number + 1) :=
          two_le_border enough (Nat.succ_pos number) (by omega)
        exact Nat.not_lt.mpr (bin.base_le (by omega))
      have lateRebuilt : ∀ hit ∈ ∑ number ∈ Finset.range (lanes.count - 1),
          lanes.rebuilt base width bins (number + 1), ¬hit.time.toNat < base := by
        intro hit member
        obtain ⟨number, numberMember, inside⟩ := Multiset.mem_sum.mp member
        have used := Finset.mem_range.mp numberMember
        have bin : InBinBefore base width (border lanes.count bins.length (number + 1)) hit :=
          rebuilt_inBinBefore resting enough spanLe placed kept (by omega)
            (Nat.succ_pos number) inside
        have positive : 2 ≤ border lanes.count bins.length (number + 1) :=
          two_le_border enough (Nat.succ_pos number) (by omega)
        exact Nat.not_lt.mpr (bin.base_le (by omega))
      have lateNeutrons : ∀ hit ∈ (neutrons bins.flatten : Hits), ¬hit.time.toNat < base :=
        fun hit member => Nat.not_lt.mpr (placed.bounds (Multiset.mem_coe.mp member)).1
      have past := congrArg (Multiset.filter fun hit : Readout => hit.time.toNat < base) balance
      rw [same] at past
      simp only [Multiset.filter_add] at past
      rw [Multiset.filter_eq_self.mpr earlier, Multiset.filter_eq_self.mpr behind,
        Multiset.filter_eq_nil.mpr lateNeutrons, Multiset.filter_eq_nil.mpr lateAbandoned,
        Multiset.filter_eq_nil.mpr lateRebuilt, add_zero, add_zero, add_zero, add_zero] at past
      exact past.symm
    refine ⟨before, ?_⟩
    rw [same, before] at balance
    exact add_left_cancel balance
  · rintro ⟨before, agree⟩
    rw [before, agree] at balance
    exact add_right_cancel balance

end

end

/-- In every call of a stream the lanes agree at all borders. -/
def AgreeAlong (width base : Nat) (blocks : List (List (List Readout))) (lanes : Lanes) : Prop :=
  ∀ earlier bins later, blocks = earlier ++ bins :: later →
    (stream width base earlier lanes []).1.Agree (base + earlier.flatten.length * width) width bins

theorem agreeAlong_concat {width base : Nat} {blocks : List (List (List Readout))}
    {bins : List (List Readout)} {lanes : Lanes} :
    AgreeAlong width base (blocks ++ [bins]) lanes ↔
      AgreeAlong width base blocks lanes ∧ (stream width base blocks lanes []).1.Agree
        (base + blocks.flatten.length * width) width bins := by
  constructor
  · intro agree
    constructor
    · intro earlier middle later split
      exact agree earlier middle (later ++ [bins]) (by rw [split]; simp)
    · exact agree blocks bins [] rfl
  · rintro ⟨agree, last⟩ earlier middle later split
    rcases List.eq_nil_or_concat later with rfl | ⟨front, final, rfl⟩
    · obtain ⟨rfl, same⟩ := List.append_inj' split rfl
      obtain rfl : bins = middle := List.singleton_inj.mp same
      exact last
    · rw [List.concat_eq_append, ← List.cons_append, ← List.append_assoc] at split
      obtain ⟨same, -⟩ := List.append_inj' split rfl
      exact agree earlier middle front same

theorem sum_groups (clusters : List Cluster) :
    (Cluster.groups clusters).sum = (clusters.flatMap Cluster.hits : Hits) := by
  induction clusters with
  | nil => rfl
  | cons cluster clusters induction =>
      have first : Cluster.groups (cluster :: clusters) =
          cluster.group ::ₘ Cluster.groups clusters := rfl
      rw [first, Multiset.sum_cons, induction, List.flatMap_cons, ← Multiset.coe_add]
      rfl

section

variable {limits : Limits} {count slots width base : Nat} {blocks : List (List (List Readout))}
  (inhabited : 0 < count) (spanLe : limits.span ≤ width)
  (enough : ∀ bins ∈ blocks, 2 * count ≤ bins.length)
  (placed : Placed width base blocks.flatten)
  (kept : (stream width base blocks (ofCount count limits slots) []).1.tally.dropped = 0)
include inhabited spanLe enough placed kept

/-- After a stream the hits are those that were supplied if lanes have agreed at
all borders, and only then. -/
theorem total_stream_iff :
    (stream width base blocks (ofCount count limits slots) []).1.total
        (stream width base blocks (ofCount count limits slots) []).2 =
      (neutrons blocks.flatten.flatten : Hits) ↔
        AgreeAlong width base blocks (ofCount count limits slots) := by
  have all : (ofCount count limits slots).count = count := List.length_replicate
  let motive : List (List (List Readout)) → Lanes → List Product → Prop :=
    fun earlier lanes out => Placed width base earlier.flatten → lanes.tally.dropped = 0 →
      (∀ group ∈ lanes.groups,
        ¬group.StartBefore (horizon base width earlier.flatten.length)) ∧
      (∀ hit ∈ lanes.total out, hit.time.toNat < base + earlier.flatten.length * width) ∧
      (lanes.total out = (neutrons earlier.flatten.flatten : Hits) ↔
        AgreeAlong width base earlier (ofCount count limits slots))
  suffices invariant : motive blocks (stream width base blocks (ofCount count limits slots) []).1
      (stream width base blocks (ofCount count limits slots) []).2 from
    (invariant placed kept).2.2
  refine stream_induction (motive := motive) (resting_ofCount inhabited limits slots)
    (by rwa [all]) spanLe placed ?_ ?_
  · intro _ _
    have nothing : (ofCount count limits slots).total [] = 0 := by
      rw [total_eq, groups_ofCount]
      rfl
    refine ⟨?_, ?_, ?_⟩
    · simp [groups_ofCount]
    · simp [nothing]
    · rw [nothing]
      refine iff_of_true rfl ?_
      intro earlier bins later split
      simp at split
  · intro earlier bins ready induction placedHere keptHere
    rw [List.flatten_append, List.flatten_singleton] at placedHere ⊢
    rw [stream_concat] at keptHere ⊢
    simp only at keptHere ⊢
    have grown := dropped_le_process ready.resting ready.enough spanLe ready.placed
      (stream width base earlier (ofCount count limits slots) []).2
    have keptBefore : (stream width base earlier
        (ofCount count limits slots) []).1.tally.dropped = 0 := by omega
    obtain ⟨ahead, behind, same⟩ := induction placedHere.append_left keptBefore
    have keptCall := keptHere.trans keptBefore.symm
    have aheadCall : ∀ group ∈ (stream width base earlier (ofCount count limits slots) []).1.groups,
        ¬group.StartBefore (horizon (base + earlier.flatten.length * width) width 0) := by
      rwa [horizon_add, Nat.add_zero]
    have supplied : (neutrons (earlier.flatten ++ bins).flatten : Hits) =
        (neutrons earlier.flatten.flatten : Hits) + (neutrons bins.flatten : Hits) := by
      rw [List.flatten_append, neutrons_append, Multiset.coe_add]
    refine ⟨?_, ?_, ?_⟩
    · rw [groups_process ready.resting ready.enough spanLe ready.placed keptCall, horizon_add,
        ← List.length_append]
      exact fun group member => (Multiset.mem_filter.mp member).2
    · have later := behind_process ready.resting ready.enough spanLe ready.placed keptCall
        aheadCall behind
      rwa [List.length_append, Nat.add_mul, ← Nat.add_assoc]
    · rw [supplied, agreeAlong_concat, ← same]
      exact total_process_iff ready.resting ready.enough spanLe ready.placed keptCall aheadCall
        behind fun hit member => (placedHere.append_left.bounds (Multiset.mem_coe.mp member)).2

/-- No hit is lost and none comes twice, after any of the calls of a stream, if
lanes agree at all borders of all calls, and only then.  As long as bins start
on the clock, it makes no difference that starts are told in 64 bits. -/
theorem stream_keeps_hits_iff :
    ((∀ earlier later, blocks = earlier ++ later →
      let (lanes, out) := stream width base earlier (ofCount count limits slots) []
      ((Product.clusters out ++ lanes.openClusters).flatMap Cluster.hits).Perm
        (neutrons earlier.flatten.flatten)) ↔
      AgreeAlong width base blocks (ofCount count limits slots)) ∧
    ∀ earlier later, blocks = earlier ++ later →
      (∀ number < earlier.flatten.length, fineStart base width number ≤ clockEnd) →
        wrappedStream width base earlier (ofCount count limits slots) [] =
          stream width base earlier (ofCount count limits slots) [] := by
  have all : (ofCount count limits slots).count = count := List.length_replicate
  have each : ∀ earlier later, blocks = earlier ++ later →
      (((Product.clusters (stream width base earlier (ofCount count limits slots) []).2 ++
        (stream width base earlier (ofCount count limits slots) []).1.openClusters).flatMap
          Cluster.hits).Perm (neutrons earlier.flatten.flatten) ↔
        AgreeAlong width base earlier (ofCount count limits slots)) := by
    intro earlier later split
    have enoughEarlier : ∀ bins ∈ earlier, 2 * count ≤ bins.length :=
      fun bins member => enough bins (split ▸ List.mem_append_left later member)
    have enoughLater : ∀ bins ∈ later, 2 * count ≤ bins.length :=
      fun bins member => enough bins (split ▸ List.mem_append_right earlier member)
    rw [split, List.flatten_append] at placed
    obtain ⟨resting, lanes⟩ :
        Resting limits (stream width base earlier (ofCount count limits slots) []).1 ∧
          (stream width base earlier (ofCount count limits slots) []).1.count =
            (ofCount count limits slots).count :=
      resting_stream (resting_ofCount inhabited limits slots) (by rwa [all]) spanLe
        placed.append_left
    have keptEarlier : (stream width base earlier
        (ofCount count limits slots) []).1.tally.dropped = 0 := by
      rw [split, stream_append] at kept
      refine Nat.eq_zero_of_le_zero (Nat.le_trans ?_ (Nat.le_of_eq kept))
      exact dropped_le_stream resting (by rwa [lanes, all]) spanLe placed.append_right
    rw [← Multiset.coe_eq_coe, ← sum_groups]
    exact total_stream_iff inhabited spanLe enoughEarlier placed.append_left keptEarlier
  refine ⟨⟨?_, ?_⟩, fun _ _ _ => wrappedStream_eq_stream⟩
  · intro keeps
    have whole := (List.append_nil blocks).symm
    exact (each blocks [] whole).mp (keeps blocks [] whole)
  · intro agree earlier later split
    refine (each earlier later split).mpr ?_
    intro first bins rest within
    exact agree first bins (rest ++ later) (by rw [split, within]; simp)

end

/-- A streak across the border of two lanes that is longer than the span.  The
lanes cut it at different places, so they do not agree. -/
theorem streak_disagrees :
    let limits : Limits := { span := 16, gap := 16 }
    let bins : List (List Readout) :=
      [[], [.neutron 24 5 5 1], [.neutron 36 5 5 1], [.neutron 52 5 5 1], [], [], [], []]
    (stream 16 0 [bins] (ofCount 2 limits 16) []).1.tally.dropped = 0 ∧
      ¬AgreeAlong 16 0 [bins] (ofCount 2 limits 16) := by
  intro limits bins
  have kept : (stream 16 0 [bins] (ofCount 2 limits 16) []).1.tally.dropped = 0 := by
    decide +kernel
  refine ⟨kept, ?_⟩
  intro agree
  obtain ⟨keeps_iff, -⟩ :=
    stream_keeps_hits_iff (by decide) (by decide) (by decide) (by decide) kept
  have keeps := keeps_iff.mpr agree [bins] [] rfl
  exact absurd keeps (by decide +kernel)

/-- The last hit of the streak is in no cluster, neither reported nor open. -/
theorem streak_loses_hit :
    let limits : Limits := { span := 16, gap := 16 }
    let bins : List (List Readout) :=
      [[], [.neutron 24 5 5 1], [.neutron 36 5 5 1], [.neutron 52 5 5 1], [], [], [], []]
    let (lanes, out) := stream 16 0 [bins] (ofCount 2 limits 16) []
    let hits := (Product.clusters out ++ lanes.openClusters).flatMap Cluster.hits
    limits.span ≤ 16 ∧ 2 * 2 ≤ bins.length ∧ Placed 16 0 bins ∧ lanes.tally.dropped = 0 ∧
      .neutron 52 5 5 1 ∈ neutrons bins.flatten ∧ .neutron 52 5 5 1 ∉ hits ∧
      ¬hits.Perm (neutrons bins.flatten) := by
  decide +kernel

end Lanes

end EventFormation
