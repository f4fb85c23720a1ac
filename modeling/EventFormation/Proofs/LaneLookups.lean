import EventFormation.Proofs.LaneRest
import EventFormation.Proofs.PoolLookups

/-!
# Look-ups of lanes

Lanes and bins are looked up by number too.  A checked call is made of checked
operations of pools and gives nothing if at any moment the number of a lane or of
a bin is out of range.  Lanes that are in order never meet such a number, and so a
checked call gives what a call gives.
-/

namespace EventFormation

/-- The bins from number `first` up to but not including `stop`, which have to be there. -/
def binsBetween? (first stop : Nat) (bins : List (List Readout)) :
    Option (List (List Readout)) := do
  guard (first ≤ stop ∧ stop ≤ bins.length)
  return binsBetween first stop bins

namespace Lane

def replay? (lane : Lane) (bins : List (List Readout)) : Option Lane := do
  let pool ← (neutrons bins.flatten).foldlM Pool.insert? lane.pool
  return { lane with pool }

def take? (lane : Lane) (readout : Readout) : Option Lane :=
  if readout.isNeutron then do
    let pool ← lane.pool.insert? readout
    return { lane with pool }
  else
    some { lane with buffer := lane.buffer.push (.passed readout) }

def flush? (lane : Lane) : Option (Lane × Nat) := do
  let (pool, closed) ← lane.pool.flush?
  return ({ pool, buffer := lane.buffer ++ closed.map Product.formed }, closed.length)

def work? (lane : Lane) (width binStart : Nat) (bin : List Readout) : Option (Lane × Nat) := do
  let taken ← bin.foldlM take? lane
  let passed := (bin.filter fun readout => !readout.isNeutron).length
  let (pool, _) ← taken.pool.close? (binStart - width) binStart
  let (flushed, formed) ← { taken with pool : Lane }.flush?
  return (flushed, passed + formed)

def workAll? (start : Nat → Nat) (width number : Nat) (bins : List (List Readout)) (lane : Lane) :
    Option (Lane × Nat) :=
  match bins with
  | [] => lane.flush?
  | bin :: rest => do
    let (worked, emitted) ← lane.work? width (start number) bin
    let (finished, more) ← worked.workAll? start width (number + 1) rest
    return (finished, emitted + more)

def run? (start : Nat → Nat) (width : Nat) (bins : List (List Readout)) (first stop : Nat)
    (replays : Bool) (lane : Lane) : Option (Lane × Nat) :=
  if stop ≤ first then
    some (lane, 0)
  else do
    let prepared ← if replays then do
        lane.replay? (← binsBetween? (first - lookback) first bins)
      else
        some lane
    prepared.workAll? start width first (← binsBetween? first stop bins)

section

variable {lane : Lane}

theorem flush?_eq (wellFormed : lane.pool.WellFormed) : lane.flush? = some lane.flush := by
  rw [flush?, Pool.flush?_eq wellFormed]
  rfl

theorem replay?_eq (wellFormed : lane.pool.WellFormed) (bins : List (List Readout)) :
    lane.replay? bins = some (lane.replay bins) := by
  rw [replay?, Pool.foldlM_insert?_eq wellFormed]
  rfl

theorem foldlM_take?_eq (wellFormed : lane.pool.WellFormed) (bin : List Readout) :
    bin.foldlM take? lane = some (bin.foldl take lane) := by
  induction bin generalizing lane with
  | nil => rfl
  | cons readout bin induction =>
      rw [List.foldlM_cons, List.foldl_cons]
      by_cases neutron : readout.isNeutron = true
      · rw [take?, if_pos neutron, Pool.insert?_eq wellFormed, take, if_pos neutron]
        exact @induction { lane with pool := lane.pool.insert readout } (wellFormed.insert readout)
      · rw [take?, if_neg neutron, take, if_neg neutron]
        exact @induction { lane with buffer := lane.buffer.push (.passed readout) } wellFormed

theorem work?_eq (wellFormed : lane.pool.WellFormed) (width binStart : Nat) (bin : List Readout) :
    lane.work? width binStart bin = some (lane.work width binStart bin) := by
  have taken : (bin.foldl take lane).pool.WellFormed := by
    rw [pool_foldl_take]
    exact (Pool.gathered_insertAll wellFormed (neutrons bin)).wellFormed
  rw [work?, foldlM_take?_eq wellFormed]
  simp only [Option.bind_eq_bind, Option.bind_some, Pool.close?_eq taken]
  rw [flush?_eq (taken.close _ _)]
  rfl

variable {limits : Limits} {slots : Nat} (orderly : lane.Orderly limits slots)
include orderly

theorem workAll?_eq (start : Nat → Nat) (width number : Nat) (bins : List (List Readout)) :
    lane.workAll? start width number bins = some (lane.workAll start width number bins) := by
  induction bins generalizing lane number with
  | nil => exact flush?_eq orderly.wellFormed
  | cons bin rest induction =>
      have worked := orderly.work width (start number) bin
      rw [workAll?, work?_eq orderly.wellFormed]
      simp only [Option.bind_eq_bind, Option.bind_some, induction worked (number + 1)]
      rfl

theorem run?_eq (start : Nat → Nat) (width : Nat) {first stop : Nat}
    {bins : List (List Readout)} (ordered : first ≤ stop) (inside : stop ≤ bins.length)
    (replays : Bool) :
    lane.run? start width bins first stop replays =
      some (lane.run start width bins first stop replays) := by
  have own : binsBetween? first stop bins = some (binsBetween first stop bins) := by
    rw [binsBetween?, guard, if_pos ⟨ordered, inside⟩]
    rfl
  have earlier : binsBetween? (first - lookback) first bins =
      some (binsBetween (first - lookback) first bins) := by
    rw [binsBetween?, guard, if_pos ⟨Nat.sub_le _ _, Nat.le_trans ordered inside⟩]
    rfl
  unfold run? run
  split
  · rfl
  · cases replays with
    | false =>
        simp only [own, Option.bind_eq_bind, Option.bind_some]
        exact workAll?_eq orderly start width first _
    | true =>
        simp only [own, earlier, if_true, Option.bind_eq_bind, Option.bind_some,
          replay?_eq orderly.wellFormed]
        exact workAll?_eq (orderly.replay _) start width first _

end

end Lane

namespace Lanes

def runAll? (start : Nat → Nat) (width : Nat) (bins : List (List Readout)) (lanes : List Lane) :
    Option (List (Lane × Nat)) :=
  lanes.zipIdx.mapM fun (lane, index) =>
    let (first, stop) := share lanes.length bins.length index
    lane.run? start width bins first stop (0 < index)

/-- The lanes before the last one in use have nothing open any more. -/
def cleared (used : Nat) (lanes : List Lane) : List Lane :=
  lanes.mapIdx fun index lane =>
    if index + 1 < used then { lane with pool := lane.pool.clearActive.1 } else lane

def handOver? (used : Nat) (lanes : List Lane) : Option (List Lane) :=
  if used ≤ 1 then
    some lanes
  else do
    guard (used - 1 ≤ lanes.length)
    let head ← (cleared used lanes)[0]?
    let last ← (cleared used lanes)[used - 1]?
    let (receiver, giver, _) ← head.pool.moveActive? last.pool
    return ((cleared used lanes).set 0 { head with pool := receiver }).set (used - 1)
      { last with pool := giver }

/-- A call in which every look-up is checked. -/
def process? (lanes : Lanes) (base width : Nat) (bins : List (List Readout))
    (out : List Product) : Option (Lanes × List Product × Nat) := do
  let sharing := used lanes.count bins.length
  let ran ← runAll? (fineStart base width) width bins lanes.list
  let produced := ran.flatMap fun (lane, _) => lane.buffer.toList
  let emitted := (ran.map (·.2)).foldr (· + ·) 0
  let list ← handOver? sharing (ran.map fun (lane, _) => { lane with buffer := #[] })
  return ({ list }, out ++ produced, emitted)

theorem mapM_eq_some_map {α β : Type} {entries : List α} {function : α → Option β} {value : α → β}
    (given : ∀ entry ∈ entries, function entry = some (value entry)) :
    entries.mapM function = some (entries.map value) := by
  induction entries with
  | nil => rfl
  | cons entry entries induction =>
      rw [List.mapM_cons, given entry List.mem_cons_self,
        induction (fun other member => given other (List.mem_cons_of_mem _ member))]
      rfl

theorem wellFormed_cleared {used : Nat} {list : List Lane}
    (wellFormed : ∀ lane ∈ list, lane.pool.WellFormed) :
    ∀ lane ∈ cleared used list, lane.pool.WellFormed := by
  intro lane member
  obtain ⟨index, inside, rfl⟩ := List.mem_mapIdx.mp member
  have before := wellFormed _ (List.getElem_mem inside)
  split
  · exact before.clearActive
  · exact before

theorem handOver?_eq {used : Nat} {list : List Lane} (inside : used ≤ list.length)
    (wellFormed : ∀ lane ∈ list, lane.pool.WellFormed) :
    handOver? used list = some (handOver used list) := by
  unfold handOver? handOver
  split
  · rfl
  · have clearedWellFormed : ∀ lane ∈ cleared used list, lane.pool.WellFormed :=
      wellFormed_cleared wellFormed
    have length : (cleared used list).length = list.length := List.length_mapIdx
    have enough : used - 1 ≤ list.length := by omega
    cases split : cleared used list with
    | nil =>
        rw [split, List.length_nil] at length
        omega
    | cons head rest =>
        rw [split] at clearedWellFormed length
        have lastInside : used - 1 < (head :: rest).length := by omega
        have found : (head :: rest)[used - 1]? = some (head :: rest)[used - 1] :=
          List.getElem?_eq_getElem lastInside
        have moved := Pool.moveActive?_eq (clearedWellFormed head List.mem_cons_self)
          (clearedWellFormed _ (List.getElem_mem lastInside))
        rw [cleared] at split
        simp only [guard, enough, if_true, split, found, List.getElem?_cons_zero]
        simp only [Option.bind_eq_bind, Option.bind_some, moved]
        rfl

section

variable {limits : Limits} {slots : Nat} {lanes : Lanes} (orderly : lanes.Orderly limits slots)
  (bins : List (List Readout))
include orderly

theorem runAll?_eq (start : Nat → Nat) (width : Nat) :
    runAll? start width bins lanes.list = some (runAll start width bins lanes.list) := by
  unfold runAll? runAll
  rw [List.mapIdx_eq_zipIdx_map]
  refine mapM_eq_some_map ?_
  rintro ⟨lane, index⟩ member
  obtain ⟨inside, same⟩ := lane_of_getElem? (List.mem_zipIdx_iff_getElem?.mp member)
  have ordered : border (used lanes.list.length bins.length) bins.length
      (min index (used lanes.list.length bins.length)) ≤
        border (used lanes.list.length bins.length) bins.length
          (min (index + 1) (used lanes.list.length bins.length)) :=
    border_mono (by omega) (Nat.min_le_right _ _)
  have own : lane.Orderly limits slots := by
    rw [show lane = lanes.lane index from same]
    exact orderly.lane inside
  simp only [share_eq_border lanes.list.length bins.length index]
  exact Lane.run?_eq own start width ordered (border_le (Nat.min_le_right _ _)) _

/-- In lanes that are in order no look-up of a call fails. -/
theorem process?_eq (base width : Nat) (out : List Product) :
    lanes.process? base width bins out = some (lanes.process base width bins out) := by
  have list : ((runAll (fineStart base width) width bins lanes.list).map fun (lane, _) =>
      { lane with buffer := #[] : Lane }) =
        (List.range lanes.count).map (lanes.spent (fineStart base width) width bins) := by
    rw [lanes.runAll_eq (fineStart base width) width bins, List.map_map]
    rfl
  have wellFormed :
      ∀ lane ∈ (List.range lanes.count).map (lanes.spent (fineStart base width) width bins),
        lane.pool.WellFormed := by
    intro lane member
    obtain ⟨number, inside, rfl⟩ := List.mem_map.mp member
    have spent := orderly_spent orderly (fineStart base width) width bins (List.mem_range.mp inside)
    exact spent.wellFormed
  have inside : used lanes.count bins.length ≤
      ((List.range lanes.count).map (lanes.spent (fineStart base width) width bins)).length := by
    rw [List.length_map, List.length_range]
    exact used_le orderly.inhabited
  have handed := handOver?_eq inside wellFormed
  rw [← list] at handed
  rw [process?, runAll?_eq orderly bins]
  simp only [Option.bind_eq_bind, Option.bind_some, handed]
  rfl

end

end Lanes

end EventFormation
