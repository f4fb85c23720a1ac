import EventFormation.Proofs.LaneSweep

/-!
# What lanes do in one call

The shares of the lanes in use adjoin each other at borders, and the other lanes
get nothing.  With at least two bins for each lane, all lanes are in use.  The
lanes are told here by their numbers, so that sums over lanes can be taken.
-/

namespace EventFormation

namespace Lanes

/-- The number of the first bin of a lane.  What would be the first bin of the
lane after the last one is the number of bins. -/
def border (lanes bins lane : Nat) : Nat :=
  if lane = lanes then bins else lane * (bins / lanes)

section

variable {lanes bins lane : Nat}

@[simp] theorem border_last : border lanes bins lanes = bins :=
  if_pos rfl

theorem border_zero (inhabited : 0 < lanes) : border lanes bins 0 = 0 := by
  unfold border
  rw [if_neg (Nat.ne_of_lt inhabited), Nat.zero_mul]

/-- Every lane gets two bins at least. -/
theorem border_add_two_le (enough : 2 * lanes ≤ bins) (inside : lane < lanes) :
    border lanes bins lane + 2 ≤ border lanes bins (lane + 1) := by
  have each : 2 ≤ bins / lanes :=
    (Nat.le_div_iff_mul_le (Nat.lt_of_le_of_lt (Nat.zero_le lane) inside)).mpr enough
  have all : lanes * (bins / lanes) ≤ bins := Nat.mul_div_le bins lanes
  have next : (lane + 1) * (bins / lanes) = lane * (bins / lanes) + bins / lanes :=
    Nat.succ_mul lane _
  unfold border
  rw [if_neg (Nat.ne_of_lt inside)]
  split
  · rename_i last
    rw [last] at next
    omega
  · omega

theorem border_le_succ (inside : lane < lanes) :
    border lanes bins lane ≤ border lanes bins (lane + 1) := by
  have all : lanes * (bins / lanes) ≤ bins := Nat.mul_div_le bins lanes
  have next : lane * (bins / lanes) ≤ (lane + 1) * (bins / lanes) :=
    Nat.mul_le_mul_right _ (Nat.le_succ lane)
  unfold border
  rw [if_neg (Nat.ne_of_lt inside)]
  split
  · rename_i last
    rw [last] at next
    omega
  · exact next

theorem border_mono {first second : Nat} (ordered : first ≤ second) (inside : second ≤ lanes) :
    border lanes bins first ≤ border lanes bins second := by
  induction second, ordered using Nat.le_induction with
  | base => exact Nat.le_refl _
  | succ second _ induction =>
      exact Nat.le_trans (induction (Nat.le_of_succ_le inside))
        (border_le_succ (Nat.lt_of_succ_le inside))

theorem border_le (inside : lane ≤ lanes) : border lanes bins lane ≤ bins := by
  have ordered : border lanes bins lane ≤ border lanes bins lanes :=
    border_mono inside (Nat.le_refl lanes)
  rwa [border_last] at ordered

theorem border_injective (enough : 2 * lanes ≤ bins) {first second : Nat}
    (firstInside : first ≤ lanes) (secondInside : second ≤ lanes)
    (same : border lanes bins first = border lanes bins second) : first = second := by
  rcases Nat.lt_trichotomy first second with before | equal | after
  · have step := border_add_two_le enough (Nat.lt_of_lt_of_le before secondInside)
    have rest : border lanes bins (first + 1) ≤ border lanes bins second :=
      border_mono before secondInside
    omega
  · exact equal
  · have step := border_add_two_le enough (Nat.lt_of_lt_of_le after firstInside)
    have rest : border lanes bins (second + 1) ≤ border lanes bins first :=
      border_mono after firstInside
    omega

theorem used_pos : 0 < used lanes bins :=
  Nat.le_max_left _ _

theorem used_le (inhabited : 0 < lanes) : used lanes bins ≤ lanes := by
  unfold used
  omega

theorem used_eq (inhabited : 0 < lanes) (enough : 2 * lanes ≤ bins) :
    used lanes bins = lanes := by
  unfold used
  omega

theorem share_of_used (inUse : lane < used lanes bins) :
    share lanes bins lane =
      (border (used lanes bins) bins lane, border (used lanes bins) bins (lane + 1)) := by
  unfold share border
  simp only [if_neg (Nat.not_le.mpr inUse), if_neg (Nat.ne_of_lt inUse)]
  split <;> rfl

theorem share_of_unused (unused : used lanes bins ≤ lane) :
    share lanes bins lane = (bins, bins) := by
  unfold share
  rw [if_pos unused]

/-- Shares adjoin each other, those of lanes that are not in use included. -/
theorem share_eq_border (lanes bins lane : Nat) :
    share lanes bins lane =
      (border (used lanes bins) bins (min lane (used lanes bins)),
        border (used lanes bins) bins (min (lane + 1) (used lanes bins))) := by
  by_cases inUse : lane < used lanes bins
  · rw [share_of_used inUse, Nat.min_eq_left (Nat.le_of_lt inUse), Nat.min_eq_left inUse]
  · have unused : used lanes bins ≤ lane := Nat.le_of_not_lt inUse
    rw [share_of_unused unused, Nat.min_eq_right unused,
      Nat.min_eq_right (Nat.le_succ_of_le unused), border_last]

theorem share_eq (enough : 2 * lanes ≤ bins) (inside : lane < lanes) :
    share lanes bins lane = (border lanes bins lane, border lanes bins (lane + 1)) := by
  have all := used_eq (Nat.lt_of_le_of_lt (Nat.zero_le lane) inside) enough
  have share := share_of_used (all ▸ inside)
  rwa [all] at share

end

def lane (lanes : Lanes) (number : Nat) : Lane :=
  lanes.list.getD number default

theorem list_eq (lanes : Lanes) :
    lanes.list = (List.range lanes.count).map lanes.lane := by
  refine List.ext_getElem (by simp [count]) ?_
  intro number inside _
  simp [lane, inside]

theorem lane_eq {lanes : Lanes} {lane : Nat → Lane} {count number : Nat}
    (list : lanes.list = (List.range count).map lane) (inside : number < count) :
    lanes.lane number = lane number := by
  simp [Lanes.lane, list, inside]

theorem sum_map_list {α : Type} [AddCommMonoid α] (lanes : Lanes) (value : Lane → α) :
    (lanes.list.map value).sum =
      ∑ number ∈ Finset.range lanes.count, value (lanes.lane number) := by
  rw [list_eq, List.map_map]
  rfl

/-- The clusters that may still grow, on all lanes. -/
def openClusters (lanes : Lanes) : List Cluster :=
  lanes.list.flatMap fun lane => lane.pool.activeClusters

/-- The groups of the clusters that may still grow, on all lanes. -/
def groups (lanes : Lanes) : Grouping :=
  Cluster.groups lanes.openClusters

theorem groups_flatMap {α : Type} (entries : List α) (clusters : α → List Cluster) :
    Cluster.groups (entries.flatMap clusters) =
      (entries.map fun entry => Cluster.groups (clusters entry)).sum := by
  induction entries with
  | nil => rfl
  | cons entry entries induction =>
      rw [List.flatMap_cons, Cluster.groups_append, induction, List.map_cons, List.sum_cons]

theorem groups_eq_sum (lanes : Lanes) :
    lanes.groups = ∑ number ∈ Finset.range lanes.count, (lanes.lane number).pool.groups := by
  rw [groups, openClusters, groups_flatMap, sum_map_list]
  rfl

theorem dropped_total (tallies : List Tally) :
    (Tally.total tallies).dropped = (tallies.map Tally.dropped).sum := by
  have general : ∀ start : Tally, (tallies.foldl (· + ·) start).dropped =
      start.dropped + (tallies.map Tally.dropped).sum := by
    induction tallies with
    | nil => exact fun _ => rfl
    | cons tally tallies induction =>
        intro start
        rw [List.foldl_cons, induction, List.map_cons, List.sum_cons, ← Nat.add_assoc]
        rfl
  rw [Tally.total, general]
  exact Nat.zero_add _

theorem dropped_eq_sum (lanes : Lanes) :
    lanes.tally.dropped =
      ∑ number ∈ Finset.range lanes.count, (lanes.lane number).pool.tally.dropped := by
  rw [tally, dropped_total, List.map_map]
  exact sum_map_list lanes fun lane => lane.pool.tally.dropped

/-- What running on its share makes of a lane. -/
def worked (lanes : Lanes) (start : Nat → Nat) (width : Nat) (bins : List (List Readout))
    (number : Nat) : Lane × Nat :=
  let (first, stop) := share lanes.count bins.length number
  (lanes.lane number).run start width bins first stop (0 < number)

/-- What is left of it when the products have been handed on. -/
def spent (lanes : Lanes) (start : Nat → Nat) (width : Nat) (bins : List (List Readout))
    (number : Nat) : Lane :=
  { (lanes.worked start width bins number).1 with buffer := #[] }

/-- What running makes of a lane if all lanes are in use. -/
def ran (lanes : Lanes) (base width : Nat) (bins : List (List Readout)) (number : Nat) : Lane :=
  ((lanes.lane number).run (fineStart base width) width bins
    (border lanes.count bins.length number) (border lanes.count bins.length (number + 1))
    (0 < number)).1

/-- What is left of it when the products have been handed on. -/
def emptied (lanes : Lanes) (base width : Nat) (bins : List (List Readout)) (number : Nat) :
    Lane :=
  { lanes.ran base width bins number with buffer := #[] }

/-- What a lane is after the open clusters have been handed over, if all lanes
are in use. -/
def handed (count : Nat) (lane : Nat → Lane) (number : Nat) : Lane :=
  if count ≤ 1 then
    lane number
  else if number = 0 then
    { lane 0 with
      pool := (lane (count - 1)).pool.activeClusters.foldl Pool.receive (lane 0).pool.clearActive.1 }
  else
    { lane number with pool := (lane number).pool.clearActive.1 }

/-- What a lane is after the open clusters have been handed over. -/
def handedAmong (used : Nat) (lane : Nat → Lane) (number : Nat) : Lane :=
  if number < used then handed used lane number else lane number

theorem handed_congr {count number : Nat} {lane other : Nat → Lane}
    (same : ∀ number < count, lane number = other number) (inside : number < count) :
    handed count lane number = handed count other number := by
  have first := same 0 (by omega)
  have last := same (count - 1) (by omega)
  rw [handed, handed, same number inside, first, last]

theorem handOver_eq {used count : Nat} (inside : used ≤ count) (lane : Nat → Lane) :
    handOver used ((List.range count).map lane) =
      (List.range count).map (handedAmong used lane) := by
  unfold handOver
  by_cases single : used ≤ 1
  · rw [if_pos single]
    refine List.map_congr_left ?_
    intro number _
    rw [handedAmong, handed, if_pos single, ite_self]
  · rw [if_neg single]
    obtain ⟨more, rfl⟩ : ∃ more, used = more + 2 := ⟨used - 2, by omega⟩
    obtain ⟨rest, rfl⟩ : ∃ rest, count = rest + 1 := ⟨count - 1, by omega⟩
    let cleared : Nat → Lane := fun number =>
      if number + 1 < more + 2 then
        { lane number with pool := (lane number).pool.clearActive.1 }
      else
        lane number
    have all : (((List.range (rest + 1)).map lane).mapIdx fun index entry =>
        if index + 1 < more + 2 then { entry with pool := entry.pool.clearActive.1 } else entry) =
          (List.range (rest + 1)).map cleared := by
      refine List.ext_getElem (by simp) ?_
      intro number _ _
      simp [cleared]
    have lastInside : more + 1 < rest + 1 := by omega
    have last : ((List.range (rest + 1)).map cleared)[more + 2 - 1]? = some (lane (more + 1)) := by
      simp [cleared, lastInside]
    have split : (List.range (rest + 1)).map cleared =
        { lane 0 with pool := (lane 0).pool.clearActive.1 } ::
          (List.range rest).map fun number => cleared (number + 1) := by
      rw [List.range_succ_eq_map, List.map_cons, List.map_map]
      simp [cleared, Function.comp_def]
    simp only [all, last]
    rw [split]
    refine List.ext_getElem (by simp) ?_
    intro number inside _
    cases number with
    | zero => simp [handedAmong, handed, Pool.moveActive]
    | succ number =>
        rcases Nat.lt_trichotomy number more with before | same | after
        · have notLast : more ≠ number := by omega
          simp [handedAmong, handed, cleared, notLast, before, Nat.lt_succ_of_lt before]
        · subst number
          simp [handedAmong, handed, Pool.moveActive]
        · have notLast : more ≠ number := by omega
          have unused : ¬number < more + 1 := by omega
          have notBefore : ¬number < more := by omega
          simp [handedAmong, cleared, notLast, unused, notBefore]

section Starts

variable {start other : Nat → Nat} {width : Nat} {bins : List (List Readout)}

/-- Of the starts of bins only those of the bins that there are matter. -/
theorem workAll_congr {number : Nat} (lane : Lane)
    (same : ∀ index < bins.length, start (number + index) = other (number + index)) :
    lane.workAll start width number bins = lane.workAll other width number bins := by
  induction bins generalizing lane number with
  | nil => rfl
  | cons bin rest induction =>
      have first : start number = other number := same 0 (Nat.zero_lt_succ _)
      have later : ∀ index < rest.length,
          start (number + 1 + index) = other (number + 1 + index) := by
        intro index inside
        rw [Nat.add_assoc, Nat.add_comm 1]
        exact same (index + 1) (Nat.succ_lt_succ inside)
      simp only [Lane.workAll, first, induction _ later]

variable (same : ∀ number < bins.length, start number = other number)
include same

theorem run_congr (lane : Lane) (first stop : Nat) (replays : Bool) :
    lane.run start width bins first stop replays =
      lane.run other width bins first stop replays := by
  unfold Lane.run
  split
  · rfl
  · refine workAll_congr _ ?_
    intro index inside
    rw [List.length_take, List.length_drop] at inside
    exact same (first + index) (by omega)

theorem processAt_congr (lanes : Lanes) (out : List Product) :
    lanes.processAt start width bins out = lanes.processAt other width bins out := by
  have ran : runAll start width bins lanes.list = runAll other width bins lanes.list := by
    simp only [runAll, run_congr same]
  rw [processAt, processAt, ran]

end Starts

section

variable (lanes : Lanes) (start : Nat → Nat) (base width : Nat) (bins : List (List Readout))
  (out : List Product)

theorem runAll_eq :
    runAll start width bins lanes.list =
      (List.range lanes.count).map (lanes.worked start width bins) := by
  refine List.ext_getElem (by simp [runAll, count]) ?_
  intro number inside _
  have stored : number < lanes.list.length := by simpa [runAll] using inside
  have found : lanes.list[number] = lanes.lane number := by simp [lane, stored]
  simp only [runAll, List.getElem_map, List.getElem_mapIdx, List.getElem_range, found, worked]
  rfl

theorem outcome_process :
    (lanes.process base width bins out).2 =
      (out ++ (List.range lanes.count).flatMap fun number =>
          (lanes.worked (fineStart base width) width bins number).1.buffer.toList,
        ((List.range lanes.count).map fun number =>
          (lanes.worked (fineStart base width) width bins number).2).sum) := by
  have ran := lanes.runAll_eq (fineStart base width) width bins
  unfold process processAt
  dsimp only
  rw [ran, List.flatMap_map, List.map_map]
  rfl

variable {lanes}

theorem lanes_processAt (inhabited : 0 < lanes.count) :
    (lanes.processAt start width bins out).1.list =
      (List.range lanes.count).map
        (handedAmong (used lanes.count bins.length) (lanes.spent start width bins)) := by
  have ran := lanes.runAll_eq start width bins
  rw [← handOver_eq (used_le inhabited)]
  unfold processAt
  dsimp only
  rw [ran, List.map_map]
  rfl

end

section

variable {lanes : Lanes} {bins : List (List Readout)} (inhabited : 0 < lanes.count)
  (enough : 2 * lanes.count ≤ bins.length) (base width : Nat) (out : List Product)
include enough

theorem worked_eq_ran {number : Nat} (inside : number < lanes.count) :
    (lanes.worked (fineStart base width) width bins number).1 =
      lanes.ran base width bins number := by
  unfold worked
  rw [share_eq enough inside]
  rfl

include inhabited

theorem list_process :
    (lanes.process base width bins out).1.list =
      (List.range lanes.count).map (handed lanes.count (lanes.emptied base width bins)) := by
  have same : ∀ number < lanes.count,
      lanes.spent (fineStart base width) width bins number =
        lanes.emptied base width bins number := by
    intro number inside
    rw [spent, emptied, worked_eq_ran enough base width inside]
  rw [process, lanes_processAt (fineStart base width) width bins out inhabited,
    used_eq inhabited enough]
  refine List.map_congr_left ?_
  intro number member
  have inside := List.mem_range.mp member
  rw [handedAmong, if_pos inside, handed_congr same inside]

omit inhabited in
theorem products_process :
    (lanes.process base width bins out).2.1 = out ++ (List.range lanes.count).flatMap fun number =>
      (lanes.ran base width bins number).buffer.toList := by
  have outcome := congrArg Prod.fst (outcome_process lanes base width bins out)
  refine outcome.trans (congrArg (out ++ ·) (List.flatMap_congr ?_))
  intro number member
  rw [worked_eq_ran enough base width (List.mem_range.mp member)]

end

end Lanes

end EventFormation
