import EventFormation.Proofs.LaneHits
import EventFormation.Proofs.PoolRuns

/-!
# Lanes between calls

Calls may have any number of bins, so which lanes are in use differs from call
to call, and bins may start at any time and hold anything.  Between calls nothing waits in any lane,
and only the first lane has open clusters.  Handing over loses none of them, as
the pool that receives them has been emptied and all pools have as many slots.
-/

namespace EventFormation

/-- What can be asked of lanes. -/
inductive LaneStep where
  /-- Bins are clustered; `start` says when the bin of a number starts. -/
  | process (start : Nat → Nat) (width : Nat) (bins : List (List Readout))
  | clear

namespace LaneStep

def perform (lanes : Lanes) : LaneStep → Lanes
  | .process start width bins => (lanes.processAt start width bins []).1
  | .clear => lanes.clear

def run (lanes : Lanes) (steps : List LaneStep) : Lanes :=
  steps.foldl perform lanes

end LaneStep

namespace Pool

variable {pool : Pool}

theorem size_insertAll (wellFormed : pool.WellFormed) (readouts : List Readout) :
    (pool.insertAll readouts).size = pool.size := by
  induction readouts generalizing pool with
  | nil => rfl
  | cons readout readouts induction =>
      exact (induction (wellFormed.insert readout)).trans
        (size_change wellFormed (.insert readout))

theorem Occupied.activeClusters {slot : Nat} {cluster : Cluster} {after : Pool}
    (occupied : Occupied cluster slot pool after) (wellFormed : pool.WellFormed) :
    after.activeClusters = pool.activeClusters ++ [cluster] := by
  have untouched : pool.active.map after.cluster = pool.active.map pool.cluster := by
    refine List.map_congr_left ?_
    intro other member
    exact occupied.cluster_inUse wellFormed (List.mem_append_left _ member)
  rw [Pool.activeClusters, occupied.active, List.map_append, untouched, List.map_singleton,
    occupied.cluster_self wellFormed]
  rfl

/-- Clusters that all find a slot are received as they are, in their order. -/
theorem receive_roomy (wellFormed : pool.WellFormed) {clusters : List Cluster}
    (settled : ∀ cluster ∈ clusters, cluster.Settled)
    (roomy : clusters.length ≤ pool.free.length) :
    (clusters.foldl receive pool).activeClusters = pool.activeClusters ++ clusters ∧
      (clusters.foldl receive pool).tally =
        { pool.tally with transferred := pool.tally.transferred + clusters.length } := by
  induction clusters generalizing pool with
  | nil => exact ⟨(List.append_nil _).symm, rfl⟩
  | cons cluster clusters induction =>
      cases found : pool.free with
      | nil => simp [found] at roomy
      | cons slot free =>
          have occupied := occupied_receive cluster found
          have left : (pool.receive cluster).free = free := by simp [receive, found]
          have tally : (pool.receive cluster).tally =
              { pool.tally with transferred := pool.tally.transferred + 1 } := by
            simp [receive, found]
          rw [found, List.length_cons, List.length_cons] at roomy
          obtain ⟨active, counted⟩ := induction
            (wellFormed.receive (settled cluster List.mem_cons_self))
            (fun other member => settled other (List.mem_cons_of_mem _ member))
            (by rw [left]; omega)
          rw [List.foldl_cons]
          constructor
          · rw [active, occupied.activeClusters wellFormed, List.append_assoc,
              List.singleton_append]
          · rw [counted, tally, List.length_cons, Nat.add_assoc, Nat.add_comm 1]

theorem WellFormed.free_perm (wellFormed : pool.WellFormed) (active : pool.active = [])
    (closed : pool.closed = []) : pool.free.Perm (List.range pool.size) := by
  have partition := wellFormed.partition
  rwa [active, closed, List.append_nil, List.append_nil] at partition

end Pool

namespace Lane

/-- The pool of a lane is in order, nothing waits in it, and the hits of its
clusters are neutrons. -/
structure Orderly (limits : Limits) (slots : Nat) (lane : Lane) : Prop where
  wellFormed : lane.pool.WellFormed
  closed : lane.pool.closed = []
  limits : lane.pool.limits = limits
  size : lane.pool.size = slots
  neutral : lane.pool.Holds fun hit => hit.isNeutron = true

variable {limits : Limits} {slots : Nat} {lane : Lane}

theorem Orderly.congr (orderly : lane.Orderly limits slots) {after : Lane}
    (pool : after.pool = lane.pool) : after.Orderly limits slots := by
  obtain ⟨wellFormed, closed, limits, size, neutral⟩ := orderly
  rw [← pool] at wellFormed closed limits size neutral
  exact ⟨wellFormed, closed, limits, size, neutral⟩

theorem mem_neutrons_isNeutron {readouts : List Readout} :
    ∀ readout ∈ neutrons readouts, readout.isNeutron = true :=
  fun _ member => (List.mem_filter.mp member).2

theorem Orderly.hear (orderly : lane.Orderly limits slots) {after : Lane}
    {readouts : List Readout} (pool : after.pool = lane.pool.insertAll (neutrons readouts)) :
    after.Orderly limits slots := by
  have gathered := Pool.gathered_insertAll orderly.wellFormed (neutrons readouts)
  constructor
  · rw [pool]
    exact gathered.wellFormed
  · rw [pool]
    exact gathered.closed orderly.closed
  · rw [pool]
    exact gathered.limits.trans orderly.limits
  · rw [pool, Pool.size_insertAll orderly.wellFormed]
    exact orderly.size
  · rw [pool]
    exact orderly.neutral.insertAll orderly.wellFormed mem_neutrons_isNeutron

theorem Orderly.work (orderly : lane.Orderly limits slots) (width binStart : Nat)
    (bin : List Readout) : (lane.work width binStart bin).1.Orderly limits slots := by
  have taken : (bin.foldl take lane).Orderly limits slots := orderly.hear (pool_foldl_take lane bin)
  constructor
  · exact (taken.wellFormed.close _ _).flush
  · rfl
  · exact taken.limits
  · exact taken.size
  · exact (taken.neutral.close _ _).flush

theorem Orderly.workAll (orderly : lane.Orderly limits slots) (start : Nat → Nat)
    (width number : Nat) (bins : List (List Readout)) :
    (lane.workAll start width number bins).1.Orderly limits slots := by
  induction bins generalizing lane number with
  | nil =>
      rw [Lane.workAll, flush_of_closed orderly.closed]
      exact orderly
  | cons bin rest induction =>
      exact induction (orderly.work width (start number) bin) (number + 1)

theorem Orderly.replay (orderly : lane.Orderly limits slots) (bins : List (List Readout)) :
    (lane.replay bins).Orderly limits slots := by
  have pool : (lane.replay bins).pool = lane.pool.insertAll (neutrons bins.flatten) := rfl
  exact orderly.hear pool

theorem Orderly.run (orderly : lane.Orderly limits slots) (start : Nat → Nat)
    (width first stop : Nat) (replays : Bool) (bins : List (List Readout)) :
    (lane.run start width bins first stop replays).1.Orderly limits slots := by
  unfold Lane.run
  split
  · exact orderly
  · cases replays with
    | false => exact orderly.workAll start width first (binsBetween first stop bins)
    | true =>
        have replayed := orderly.replay (binsBetween (first - lookback) first bins)
        exact replayed.workAll start width first (binsBetween first stop bins)

theorem run_of_empty (lane : Lane) (start : Nat → Nat) (width bound : Nat)
    (bins : List (List Readout)) (replays : Bool) :
    lane.run start width bins bound bound replays = (lane, 0) := by
  rw [Lane.run, if_pos (Nat.le_refl bound)]

end Lane

namespace Lanes

/-- Lanes at rest whose pools all have so many slots, and neutrons for hits. -/
structure Orderly (limits : Limits) (slots : Nat) (lanes : Lanes) : Prop
    extends Resting limits lanes where
  size : ∀ number < lanes.count, (lanes.lane number).pool.size = slots
  neutral : ∀ number < lanes.count,
    (lanes.lane number).pool.Holds fun hit => hit.isNeutron = true

variable {limits : Limits} {slots : Nat} {lanes : Lanes}

theorem Orderly.lane (orderly : lanes.Orderly limits slots) {number : Nat}
    (inside : number < lanes.count) : (lanes.lane number).Orderly limits slots :=
  ⟨orderly.wellFormed number inside, orderly.closed number inside, orderly.limits number inside,
    orderly.size number inside, orderly.neutral number inside⟩

theorem lane_of_getElem? {number : Nat} {lane : Lane} (found : lanes.list[number]? = some lane) :
    number < lanes.count ∧ lane = lanes.lane number := by
  obtain ⟨inside, _⟩ := List.getElem?_eq_some_iff.mp found
  refine ⟨inside, ?_⟩
  rw [Lanes.lane, List.getD_eq_getElem?_getD, found, Option.getD_some]

theorem orderly_ofCount {count : Nat} (inhabited : 0 < count) (limits : Limits) (slots : Nat) :
    (ofCount count limits slots).Orderly limits slots := by
  have all : (ofCount count limits slots).count = count := List.length_replicate
  refine { resting_ofCount inhabited limits slots with size := ?_, neutral := ?_ }
  · intro number inside
    rw [lane_ofCount (all ▸ inside)]
    exact Array.size_replicate
  · intro number inside slot member
    rw [lane_ofCount (all ▸ inside)] at member
    contradiction

theorem orderly_clear (orderly : lanes.Orderly limits slots) :
    lanes.clear.Orderly limits slots := by
  refine { resting_clear orderly.toResting with size := ?_, neutral := ?_ }
  · intro number inside
    rw [count_clear] at inside
    rw [lane_clear lanes inside]
    exact orderly.size number inside
  · intro number inside slot member
    rw [count_clear] at inside
    rw [lane_clear lanes inside] at member
    contradiction

section

variable {used : Nat} {lane : Nat → Lane}

/-- What is handed over finds room, and nothing else changes hands. -/
theorem handedAmong_first (inhabited : 0 < used)
    (orderly : ∀ number < used, (lane number).Orderly limits slots) :
    (handedAmong used lane 0).pool.activeClusters = (lane (used - 1)).pool.activeClusters ∧
      (handedAmong used lane 0).pool.tally =
        { (lane 0).pool.tally with
          transferred := (lane 0).pool.tally.transferred +
            if 1 < used then (lane (used - 1)).pool.activeClusters.length else 0 } := by
  rw [handedAmong, if_pos inhabited]
  by_cases single : used ≤ 1
  · obtain rfl : used = 1 := by omega
    exact ⟨rfl, rfl⟩
  · have first := orderly 0 inhabited
    have last := orderly (used - 1) (by omega)
    have emptied := first.wellFormed.clearActive
    have free : (lane 0).pool.clearActive.1.free.length = slots := by
      rw [(emptied.free_perm rfl first.closed).length_eq, List.length_range]
      exact first.size
    have atMost : (lane (used - 1)).pool.activeClusters.length ≤ slots := by
      have shared := last.wellFormed.partition.length_eq
      rw [List.length_append, List.length_append, List.length_range, last.size] at shared
      rw [Pool.activeClusters, List.length_map]
      omega
    obtain ⟨active, tally⟩ := Pool.receive_roomy emptied
      (Pool.activeClusters_settled last.wellFormed) (by rwa [free])
    rw [handed, if_neg single, if_pos rfl, if_pos (Nat.lt_of_not_le single)]
    exact ⟨active, tally⟩

theorem tally_handedAmong {number : Nat} (later : 0 < number) :
    (handedAmong used lane number).pool.tally = (lane number).pool.tally := by
  unfold handedAmong handed
  split
  · split
    · rfl
    · rw [if_neg (Nat.ne_of_gt later)]
      rfl
  · rfl

theorem orderly_handedAmong (inhabited : 0 < used)
    (orderly : ∀ number < used, (lane number).Orderly limits slots) {number : Nat}
    (own : (lane number).Orderly limits slots) :
    (handedAmong used lane number).Orderly limits slots := by
  have wellFormed := fun (other : Nat) (inside : other < used) => (orderly other inside).wellFormed
  have neutral := fun (other : Nat) (inside : other < used) => (orderly other inside).neutral
  by_cases inside : number < used
  · rw [handedAmong, if_pos inside]
    constructor
    · exact wellFormed_handed inhabited wellFormed inside
    · exact (closed_handed inhabited wellFormed number).trans own.closed
    · exact (limits_handed inhabited wellFormed number).trans own.limits
    · unfold handed
      split
      · exact own.size
      · split
        · exact (Pool.size_foldl_receive _ _).trans (orderly 0 inhabited).size
        · exact own.size
    · exact holds_handed inhabited wellFormed neutral inside
  · rwa [handedAmong, if_neg inside]

theorem buffer_handedAmong (number : Nat) :
    (handedAmong used lane number).buffer = (lane number).buffer := by
  unfold handedAmong
  split
  · exact buffer_handed used lane number
  · rfl

end

section

variable (orderly : lanes.Orderly limits slots) (start : Nat → Nat) (width : Nat)
  (bins : List (List Readout))
include orderly

theorem orderly_worked {number : Nat} (inside : number < lanes.count) :
    (lanes.worked start width bins number).1.Orderly limits slots :=
  (orderly.lane inside).run start width _ _ _ bins

theorem orderly_spent {number : Nat} (inside : number < lanes.count) :
    (lanes.spent start width bins number).Orderly limits slots :=
  (orderly_worked orderly start width bins inside).congr rfl

omit orderly in
theorem worked_of_unused {number : Nat} (unused : used lanes.count bins.length ≤ number) :
    lanes.worked start width bins number = (lanes.lane number, 0) := by
  unfold worked
  rw [share_of_unused unused]
  exact Lane.run_of_empty _ start width bins.length bins _

theorem orderly_spent_used : ∀ number < used lanes.count bins.length,
    (lanes.spent start width bins number).Orderly limits slots :=
  fun _ inUse => orderly_spent orderly start width bins
    (Nat.lt_of_lt_of_le inUse (used_le orderly.inhabited))

theorem count_after (out : List Product) :
    (lanes.processAt start width bins out).1.count = lanes.count := by
  rw [count, lanes_processAt start width bins out orderly.inhabited, List.length_map,
    List.length_range]

theorem lane_after (out : List Product) {number : Nat} (inside : number < lanes.count) :
    (lanes.processAt start width bins out).1.lane number =
      handedAmong (used lanes.count bins.length) (lanes.spent start width bins) number :=
  lane_eq (lanes_processAt start width bins out orderly.inhabited) inside

/-- Whatever the bins of a call hold, lanes are in order again after it. -/
theorem orderly_processAt (out : List Product) :
    (lanes.processAt start width bins out).1.Orderly limits slots := by
  have count : (lanes.processAt start width bins out).1.count = lanes.count :=
    count_after orderly start width bins out
  have handed : ∀ number < lanes.count,
      ((lanes.processAt start width bins out).1.lane number).Orderly limits slots := by
    intro number inside
    rw [lane_after orderly start width bins out inside]
    exact orderly_handedAmong used_pos (orderly_spent_used orderly start width bins)
      (orderly_spent orderly start width bins inside)
  constructor
  · constructor
    · rw [count]
      exact orderly.inhabited
    · exact fun number inside => (handed number (count ▸ inside)).wellFormed
    · exact fun number inside => (handed number (count ▸ inside)).closed
    · intro number inside
      rw [lane_after orderly start width bins out (count ▸ inside), buffer_handedAmong]
      rfl
    · exact fun number inside => (handed number (count ▸ inside)).limits
    · intro number inside later
      rw [lane_after orderly start width bins out (count ▸ inside), handedAmong]
      split
      · exact idle_handed _ ‹_› later
      · rename_i unused
        rw [spent, worked_of_unused start width bins (Nat.le_of_not_lt unused)]
        exact orderly.idle number (count ▸ inside) later
  · exact fun number inside => (handed number (count ▸ inside)).size
  · exact fun number inside => (handed number (count ▸ inside)).neutral

/-- In a call the first lane takes over what the last lane in use has left open,
and nothing is lost. -/
theorem handOver_processAt (out : List Product) :
    let ran := (runAll start width bins lanes.list).map (·.1)
    let after := (lanes.processAt start width bins out).1.list
    let used := used lanes.count bins.length
    ∃ first last receiver : Lane,
      ran[0]? = some first ∧ ran[used - 1]? = some last ∧ after[0]? = some receiver ∧
        receiver.pool.activeClusters = last.pool.activeClusters ∧
        receiver.pool.tally =
          { first.pool.tally with
            transferred := first.pool.tally.transferred +
              if 1 < used then last.pool.activeClusters.length else 0 } ∧
        ∀ number, 0 < number →
          after[number]?.map (·.pool.tally) = ran[number]?.map (·.pool.tally) := by
  intro ran after used
  have ranEq : ran = (List.range lanes.count).map fun number =>
      (lanes.worked start width bins number).1 := by
    simp only [ran, lanes.runAll_eq start width bins, List.map_map]
    rfl
  have afterEq : after = (List.range lanes.count).map
      (handedAmong used (lanes.spent start width bins)) :=
    lanes_processAt start width bins out orderly.inhabited
  have usedPos : 0 < used := used_pos
  have lastInside : used - 1 < lanes.count :=
    Nat.lt_of_lt_of_le (Nat.sub_lt usedPos Nat.one_pos) (used_le orderly.inhabited)
  obtain ⟨active, tally⟩ :=
    handedAmong_first usedPos (orderly_spent_used orderly start width bins)
  refine ⟨(lanes.worked start width bins 0).1, (lanes.worked start width bins (used - 1)).1,
    handedAmong used (lanes.spent start width bins) 0, ?_, ?_, ?_, active, tally, ?_⟩
  · simp [ranEq, orderly.inhabited]
  · simp [ranEq, lastInside]
  · simp [afterEq, orderly.inhabited]
  · intro number later
    rw [afterEq, ranEq]
    by_cases inside : number < lanes.count
    · simp only [List.getElem?_map, List.getElem?_range inside, Option.map_some,
        tally_handedAmong later]
      rfl
    · have outside : (List.range lanes.count)[number]? = none :=
        List.getElem?_eq_none (by simpa using Nat.le_of_not_lt inside)
      simp only [List.getElem?_map, outside, Option.map_none]

end

end Lanes

namespace LaneStep

variable {limits : Limits} {slots : Nat} {lanes : Lanes}

theorem orderly_perform (orderly : lanes.Orderly limits slots) (step : LaneStep) :
    (perform lanes step).Orderly limits slots ∧ (perform lanes step).count = lanes.count := by
  cases step with
  | process start width bins =>
      exact ⟨Lanes.orderly_processAt orderly start width bins [],
        Lanes.count_after orderly start width bins []⟩
  | clear => exact ⟨Lanes.orderly_clear orderly, Lanes.count_clear lanes⟩

theorem orderly_run (orderly : lanes.Orderly limits slots) (steps : List LaneStep) :
    (run lanes steps).Orderly limits slots ∧ (run lanes steps).count = lanes.count := by
  induction steps generalizing lanes with
  | nil => exact ⟨orderly, rfl⟩
  | cons step steps induction =>
      obtain ⟨performed, count⟩ := orderly_perform orderly step
      obtain ⟨after, all⟩ := induction performed
      exact ⟨after, all.trans count⟩

theorem orderly_run_ofCount {count : Nat} (inhabited : 0 < count) (limits : Limits) (slots : Nat)
    (steps : List LaneStep) :
    (run (.ofCount count limits slots) steps).Orderly limits slots ∧
      (run (.ofCount count limits slots) steps).count = count := by
  obtain ⟨orderly, same⟩ := orderly_run (Lanes.orderly_ofCount inhabited limits slots) steps
  exact ⟨orderly, same.trans List.length_replicate⟩

/-- Between calls nothing waits in any lane, and every lane but the first has all
its slots free.  In every call the first lane ends with the clusters that the last
lane in use has left open, in their order.  If more than one lane is in use it
counts them as transferred.  No lane counts anything else when clusters are
handed over, so nothing is dropped then.  When the bins of a call start is left
open, so starts that have wrapped around are among them. -/
theorem run_rests {count : Nat} (inhabited : 0 < count) (limits : Limits) (slots : Nat)
    (steps : List LaneStep) :
    let lanes := run (.ofCount count limits slots) steps
    lanes.list.length = count ∧
    (∀ lane ∈ lanes.list, lane.pool.closed = [] ∧ lane.buffer = #[]) ∧
    (∀ number lane, 0 < number → lanes.list[number]? = some lane →
      lane.pool.active = [] ∧ lane.pool.free.Perm (List.range slots)) ∧
    ∀ start width bins out,
      let ran := (Lanes.runAll start width bins lanes.list).map (·.1)
      let after := (lanes.processAt start width bins out).1.list
      let used := Lanes.used count bins.length
      ∃ first last receiver : Lane,
        ran[0]? = some first ∧ ran[used - 1]? = some last ∧ after[0]? = some receiver ∧
          receiver.pool.activeClusters = last.pool.activeClusters ∧
          receiver.pool.tally =
            { first.pool.tally with
              transferred := first.pool.tally.transferred +
                if 1 < used then last.pool.activeClusters.length else 0 } ∧
          ∀ number, 0 < number →
            after[number]?.map (·.pool.tally) = ran[number]?.map (·.pool.tally) := by
  intro lanes
  obtain ⟨orderly, all⟩ := orderly_run_ofCount inhabited limits slots steps
  refine ⟨all, ?_, ?_, ?_⟩
  · intro lane member
    obtain ⟨number, found⟩ := List.mem_iff_getElem?.mp member
    obtain ⟨inside, rfl⟩ := Lanes.lane_of_getElem? found
    exact ⟨orderly.closed number inside, orderly.buffer number inside⟩
  · intro number lane later found
    obtain ⟨inside, rfl⟩ := Lanes.lane_of_getElem? found
    have idle := orderly.idle number inside later
    have free := (orderly.wellFormed number inside).free_perm idle (orderly.closed number inside)
    rw [orderly.size number inside] at free
    exact ⟨idle, free⟩
  · intro start width bins out
    have handed := Lanes.handOver_processAt orderly start width bins out
    rwa [all] at handed

/-- Three lanes are called with six bins, cleared, and called with two bins between which
the clock ends, and then with three: what the last lane leaves open is handed over. -/
theorem run_of_uneven_calls_rests :
    let limits : Limits := { span := 16, gap := 16 }
    let steps : List LaneStep :=
      [.process (fineStart 0 16) 16
          [[.neutron 4 5 5 1], [], [.neutron 40 5 5 1], [], [], [.neutron 90 5 5 1]],
        .clear,
        .process (wrappedStart (clockEnd - 7) 16) 16
          [[.neutron 18446744073709551612 5 5 1], [.neutron 12 5 5 1, .neutron 14 9 9 1]]]
    let bins : List (List Readout) :=
      [[], [.neutron 150 5 5 1], [.neutron 162 5 5 1, .neutron 164 9 9 1]]
    let lanes := run (.ofCount 3 limits 4) steps
    let ran := (Lanes.runAll (fineStart 128 16) 16 bins lanes.list).map (·.1)
    let after := (lanes.processAt (fineStart 128 16) 16 bins []).1.list
    let hits := fun lane : Lane => lane.pool.activeClusters.map Cluster.hits
    lanes.list.map hits = [[[.neutron 18446744073709551612 5 5 1], [.neutron 12 5 5 1],
        [.neutron 14 9 9 1]], [], []] ∧
      after.map hits = [[[.neutron 164 9 9 1]], [], []] ∧
      (∀ lane ∈ lanes.list, lane.pool.closed = [] ∧ lane.buffer = #[]) ∧
      (∃ lane, lanes.list[1]? = some lane ∧ lane.pool.free.Perm (List.range 4)) ∧
      ∃ first last receiver : Lane,
        ran[0]? = some first ∧ ran[2]? = some last ∧ after[0]? = some receiver ∧
          receiver.pool.activeClusters = last.pool.activeClusters ∧
          receiver.pool.tally.transferred = first.pool.tally.transferred + 1 ∧
          receiver.pool.tally.dropped = first.pool.tally.dropped := by
  intro limits steps bins lanes ran after hits
  have inhabited : 0 < 3 := by decide
  obtain ⟨all, waiting, idle, handed⟩ := run_rests inhabited limits 4 steps
  obtain ⟨first, last, receiver, firstFound, lastFound, found, same, tally, -⟩ :=
    handed (fineStart 128 16) 16 bins []
  have inside : 1 < lanes.list.length := by
    rw [all]
    decide
  have second : lanes.list[1]? = some lanes.list[1] := List.getElem?_eq_getElem inside
  have before : lanes.list.map hits = [[[.neutron 18446744073709551612 5 5 1],
      [.neutron 12 5 5 1], [.neutron 14 9 9 1]], [], []] := by
    decide +kernel
  have taken : after.map hits = [[[.neutron 164 9 9 1]], [], []] := by decide +kernel
  have received : hits receiver = [[.neutron 164 9 9 1]] := by
    have mapped : (after.map hits)[0]? = some (hits receiver) := by
      rw [List.getElem?_map, found, Option.map_some]
    rw [taken] at mapped
    exact (Option.some.inj mapped).symm
  have one : last.pool.activeClusters.length = 1 := by
    have lengths := congrArg List.length received
    rwa [List.length_map, same] at lengths
  rw [one] at tally
  have transferred : receiver.pool.tally.transferred = first.pool.tally.transferred + 1 :=
    congrArg Tally.transferred tally
  have dropped : receiver.pool.tally.dropped = first.pool.tally.dropped := by rw [tally]
  exact ⟨before, taken, waiting, ⟨_, second, (idle 1 _ Nat.one_pos second).2⟩, first, last,
    receiver, firstFound, lastFound, found, same, transferred, dropped⟩

end LaneStep

end EventFormation
