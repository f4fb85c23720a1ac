import EventFormation.Clock
import EventFormation.Proofs.Components
import EventFormation.Proofs.PoolRuns

/-!
# The words of the proximity test

Whether a cluster takes a readout in is decided with saturating sums of 64-bit
times, 32-bit sums of coordinates, and squares and products of 128 bits.  Here
the test is told again on these words, such that it gives nothing if a number
does not fit its word.  That never happens, and the verdict is the one that the
hits give over unbounded integers: the extents spare a walk over the hits, but
never change what it would find.
-/

namespace EventFormation

/-- A number in a word of so many bits, and nothing if it does not fit. -/
def word? (bits value : Nat) : Option Nat :=
  if value < 2 ^ bits then some value else none

theorem word?_bind {α : Type} {bits narrow value : Nat} (small : value < 2 ^ narrow)
    (within : narrow ≤ bits) (rest : Nat → Option α) :
    (word? bits value >>= rest) = rest value := by
  have fits : value < 2 ^ bits := Nat.lt_of_lt_of_le small (Nat.pow_le_pow_right (by decide) within)
  rw [word?, if_pos fits]
  rfl

theorem mul_lt_word {bits more value factor : Nat} (fits : value < 2 ^ bits)
    (factorFits : factor < 2 ^ more) : value * factor < 2 ^ (bits + more) := by
  rw [Nat.pow_add]
  exact Nat.mul_lt_mul'' fits factorFits

/-- A saturated sum is as good as the sum against a time that fits the clock. -/
theorem saturate_lt_iff {value time : Nat} (fits : time ≤ clockEnd) :
    saturate value < time ↔ value < time := by
  unfold saturate
  omega

theorem apart_lt {bits first second : Nat} (fits : first < 2 ^ bits)
    (secondFits : second < 2 ^ bits) : apart first second < 2 ^ bits := by
  unfold apart
  omega

theorem cast_apart (first second : Nat) :
    (apart first second : Int) = |(second : Int) - first| := by
  unfold apart
  rcases Nat.le_total first second with before | after
  · rw [abs_of_nonneg (by omega)]
    omega
  · rw [abs_of_nonpos (by omega)]
    omega

theorem anyM_decide (property : Readout → Prop) [DecidablePred property] (hits : List Readout) :
    hits.anyM (fun hit => some (decide (property hit))) =
      some (decide (∃ hit ∈ hits, property hit)) := by
  induction hits with
  | nil => simp
  | cons hit hits induction =>
      rw [List.anyM_cons, induction]
      by_cases holds : property hit
      · simp [holds]
      · simp [holds]

namespace Limits

/-- The squares of the half axes and their product, which all the hits share. -/
structure Squares where
  dx : Nat
  dy : Nat
  both : Nat

def squares (limits : Limits) : Squares where
  dx := limits.dx.toNat * limits.dx.toNat
  dy := limits.dy.toNat * limits.dy.toNat
  both := limits.dx.toNat * limits.dx.toNat * (limits.dy.toNat * limits.dy.toNat)

def squares? (limits : Limits) : Option Squares := do
  let dx ← word? 128 (limits.dx.toNat * limits.dx.toNat)
  let dy ← word? 128 (limits.dy.toNat * limits.dy.toNat)
  let both ← word? 128 (dx * dy)
  return { dx, dy, both }

/-- `InEllipse`, told by the squares of the half axes. -/
def Squares.encloses? (squares : Squares) (x y : Nat) : Option Bool := do
  let x2 ← word? 128 (x * x)
  let y2 ← word? 128 (y * y)
  let across ← word? 128 (x2 * squares.dy)
  let along ← word? 128 (y2 * squares.dx)
  let sum ← word? 128 (across + along)
  return decide (sum ≤ squares.both)

/-- `Close`. The place is not looked at if the time tells. -/
def close? (limits : Limits) (squares : Squares) (hit readout : Readout) : Option Bool :=
  if limits.gap < apart hit.time.toNat readout.time.toNat then
    some false
  else
    squares.encloses? (apart hit.x.toNat readout.x.toNat) (apart hit.y.toNat readout.y.toNat)

/-- A place is in an extent that is widened by a half axis. -/
def borders? (extent : Extent UInt16) (axis place : UInt16) : Option Bool := do
  let beyond ← word? 32 (place.toNat + axis.toNat)
  let border ← word? 32 (extent.hi.toNat + axis.toNat)
  return decide (extent.lo.toNat ≤ beyond ∧ place.toNat ≤ border)

/-- `InReach`. The place is not looked at if the time tells. -/
def inReach? (limits : Limits) (cluster : Cluster) (readout : Readout) : Option Bool :=
  if saturate (readout.time.toNat + limits.gap) < cluster.time.lo.toNat ∨
      saturate (cluster.time.hi.toNat + limits.gap) < readout.time.toNat ∨
      saturate (cluster.time.lo.toNat + limits.span) < readout.time.toNat then
    some false
  else do
    let column ← borders? cluster.x limits.dx readout.x
    let row ← borders? cluster.y limits.dy readout.y
    return column && row

/-- `Admits`. The hits are not looked at if the extents tell. -/
def admits? (limits : Limits) (cluster : Cluster) (readout : Readout) : Option Bool := do
  let squares ← limits.squares?
  if ← limits.inReach? cluster readout then
    cluster.hits.anyM fun hit => limits.close? squares hit readout
  else
    return false

theorem squares?_eq (limits : Limits) : limits.squares? = some limits.squares := by
  have dx := mul_lt_word limits.dx.toNat_lt limits.dx.toNat_lt
  have dy := mul_lt_word limits.dy.toNat_lt limits.dy.toNat_lt
  rw [squares?, word?_bind dx (by decide), word?_bind dy (by decide),
    word?_bind (mul_lt_word dx dy) (by decide)]
  rfl

theorem encloses?_eq (limits : Limits) {x y : Nat} (xFits : x < 2 ^ 16) (yFits : y < 2 ^ 16) :
    limits.squares.encloses? x y = some (decide (limits.InEllipse x y)) := by
  have x2 := mul_lt_word xFits xFits
  have y2 := mul_lt_word yFits yFits
  have across : x * x * limits.squares.dy < 2 ^ 64 :=
    mul_lt_word x2 (mul_lt_word limits.dy.toNat_lt limits.dy.toNat_lt)
  have along : y * y * limits.squares.dx < 2 ^ 64 :=
    mul_lt_word y2 (mul_lt_word limits.dx.toNat_lt limits.dx.toNat_lt)
  have sum : x * x * limits.squares.dy + y * y * limits.squares.dx < 2 ^ 65 :=
    Nat.add_lt_add across along
  rw [Squares.encloses?, word?_bind x2 (by decide), word?_bind y2 (by decide),
    word?_bind across (by decide), word?_bind along (by decide), word?_bind sum (by decide)]
  rfl

theorem close?_eq (limits : Limits) (hit readout : Readout) :
    limits.close? limits.squares hit readout = some (decide (limits.Close hit readout)) := by
  have column := apart_lt hit.x.toNat_lt readout.x.toNat_lt
  have row := apart_lt hit.y.toNat_lt readout.y.toNat_lt
  unfold close?
  split
  · rename_i late
    have refused : ¬limits.Close hit readout := fun close => Nat.not_le_of_gt late close.1
    rw [decide_eq_false refused]
  · rename_i soon
    have same : limits.Close hit readout ↔ limits.InEllipse (apart hit.x.toNat readout.x.toNat)
        (apart hit.y.toNat readout.y.toNat) := and_iff_right (Nat.le_of_not_gt soon)
    rw [limits.encloses?_eq column row]
    simp only [same]

theorem borders?_eq (extent : Extent UInt16) (axis place : UInt16) :
    borders? extent axis place = some (decide (extent.lo.toNat ≤ place.toNat + axis.toNat ∧
      place.toNat ≤ extent.hi.toNat + axis.toNat)) := by
  have beyond : place.toNat + axis.toNat < 2 ^ 17 := Nat.add_lt_add place.toNat_lt axis.toNat_lt
  have border : extent.hi.toNat + axis.toNat < 2 ^ 17 :=
    Nat.add_lt_add extent.hi.toNat_lt axis.toNat_lt
  rw [borders?, word?_bind beyond (by decide), word?_bind border (by decide)]
  rfl

theorem inReach?_eq (limits : Limits) (cluster : Cluster) (readout : Readout) :
    limits.inReach? cluster readout = some (decide (limits.InReach cluster readout)) := by
  have onClock : ∀ time : UInt64, time.toNat ≤ clockEnd :=
    fun time => Nat.le_pred_of_lt time.toNat_lt
  unfold inReach?
  simp only [saturate_lt_iff (onClock _)]
  split
  · rename_i outside
    have refused : ¬limits.InReach cluster readout := by
      unfold InReach
      omega
    rw [decide_eq_false refused]
  · rename_i inside
    have same : limits.InReach cluster readout ↔
        (cluster.x.lo.toNat ≤ readout.x.toNat + limits.dx.toNat ∧
          readout.x.toNat ≤ cluster.x.hi.toNat + limits.dx.toNat) ∧
        cluster.y.lo.toNat ≤ readout.y.toNat + limits.dy.toNat ∧
          readout.y.toNat ≤ cluster.y.hi.toNat + limits.dy.toNat := by
      unfold InReach
      omega
    rw [borders?_eq, borders?_eq]
    simp [same]

/-- The test on words never fails and tells what the test on numbers tells. -/
theorem admits?_eq (limits : Limits) (cluster : Cluster) (readout : Readout) :
    limits.admits? cluster readout = some (decide (limits.Admits cluster readout)) := by
  have same : limits.Admits cluster readout ↔
      limits.InReach cluster readout ∧ ∃ hit ∈ cluster.hits, limits.Close hit readout := Iff.rfl
  simp only [admits?, squares?_eq, inReach?_eq, close?_eq, anyM_decide, Option.bind_eq_bind,
    Option.bind_some, decide_eq_true_eq, same]
  by_cases inReach : limits.InReach cluster readout
  · simp [inReach]
  · simp [inReach]

/-- `Close`, with signed differences over the integers. -/
def Near (limits : Limits) (hit readout : Readout) : Prop :=
  |(readout.time.toNat : Int) - hit.time.toNat| ≤ limits.gap ∧
    ((readout.x.toNat : Int) - hit.x.toNat) ^ 2 * limits.dy.toNat ^ 2 +
        ((readout.y.toNat : Int) - hit.y.toNat) ^ 2 * limits.dx.toNat ^ 2 ≤
      (limits.dx.toNat : Int) ^ 2 * limits.dy.toNat ^ 2

instance (limits : Limits) (hit readout : Readout) : Decidable (limits.Near hit readout) :=
  inferInstanceAs (Decidable (_ ∧ _))

theorem near_iff_close (limits : Limits) (hit readout : Readout) :
    limits.Near hit readout ↔ limits.Close hit readout := by
  unfold Near Close InEllipse
  refine and_congr ?_ ?_
  · rw [← cast_apart]
    exact Int.ofNat_le
  · rw [← sq_abs ((readout.x.toNat : Int) - hit.x.toNat),
      ← sq_abs ((readout.y.toNat : Int) - hit.y.toNat), ← cast_apart, ← cast_apart]
    simp only [← Nat.pow_two]
    norm_cast

theorem admits_iff_close {limits : Limits} (wide : 0 < limits.dx.toNat)
    (high : 0 < limits.dy.toNat) {cluster : Cluster} (settled : cluster.Settled)
    (readout : Readout) :
    limits.Admits cluster readout ↔
      (∀ hit ∈ cluster.hits, readout.time.toNat ≤ hit.time.toNat + limits.span) ∧
        ∃ hit ∈ cluster.hits, limits.Close hit readout := by
  rw [limits.admits_iff_joins settled]
  constructor
  · intro joins
    have within := joins.2.2.1
    exact ⟨within, (joins_iff_close wide high within).mp joins⟩
  · rintro ⟨within, close⟩
    exact (joins_iff_close wide high within).mpr close

end Limits

theorem Cluster.Settled.exists_earliest {cluster : Cluster} (settled : cluster.Settled) :
    ∃ first ∈ cluster.hits, ∀ hit ∈ cluster.hits, first.time ≤ hit.time := by
  obtain ⟨first, member, start⟩ := List.mem_map.mp settled.bounded.time.lo_mem
  refine ⟨first, member, ?_⟩
  intro hit hitMember
  have after := settled.bounded.time.lo_le _ (List.mem_map_of_mem hitMember)
  rw [← start] at after
  exact UInt64.le_iff_toNat_le.mpr after

namespace PoolStep

/-- Whatever has been asked of pools, no number of the proximity test passes its
word, and a readout is admitted to an active cluster if and only if it comes not
later than the span after the earliest hit and is near one of the hits. -/
theorem admitted_iff_near_some_hit (steps : List PoolStep) {pool : Pool}
    (reached : pool ∈ run steps) {cluster : Cluster} (active : cluster ∈ pool.activeClusters)
    (limits : Limits) (wide : 0 < limits.dx.toNat) (high : 0 < limits.dy.toNat)
    (readout : Readout) :
    limits.admits? cluster readout = some (decide (limits.Admits cluster readout)) ∧
      (limits.Admits cluster readout ↔
        (∃ first ∈ cluster.hits, (∀ hit ∈ cluster.hits, first.time ≤ hit.time) ∧
          (readout.time.toNat : Int) ≤ first.time.toNat + limits.span) ∧
        ∃ hit ∈ cluster.hits, limits.Near hit readout) := by
  have wellFormed := (wellFormed_run steps).2 pool reached
  have settled := Pool.activeClusters_settled wellFormed cluster active
  refine ⟨limits.admits?_eq cluster readout, ?_⟩
  simp only [Limits.near_iff_close, Limits.admits_iff_close wide high settled]
  refine and_congr_left fun _ => ?_
  constructor
  · intro within
    obtain ⟨first, member, earliest⟩ := settled.exists_earliest
    have inSpan := within first member
    exact ⟨first, member, earliest, by omega⟩
  · rintro ⟨first, -, earliest, inSpan⟩ hit member
    have before := UInt64.le_iff_toNat_le.mp (earliest hit member)
    omega

/-- At the ends of the clock and of the coordinates a readout on the rim of the
widest ellipse is admitted, and one next to it, within the extents, is not. -/
theorem admitted_on_widest_rim :
    let limits : Limits := { dx := 65535, dy := 65535 }
    let first := Readout.neutron 18446744073709551566 0 0 1
    let second := Readout.neutron 18446744073709551615 65535 0 1
    let steps : List PoolStep :=
      [.create limits 2, .apply 0 (.insert first), .apply 0 (.insert second)]
    let pool := (run steps).getD 0 default
    let cluster := pool.cluster 0
    let rim := Readout.neutron 18446744073709551615 65535 65535 1
    let beside := Readout.neutron 18446744073709551615 1 65535 1
    pool ∈ run steps ∧ cluster ∈ pool.activeClusters ∧ cluster.hits = [first, second] ∧
      limits.admits? cluster rim = some true ∧
      limits.InReach cluster beside ∧ limits.admits? cluster beside = some false := by
  intro limits first second steps pool cluster rim beside
  have reached : pool ∈ run steps := getD_mem_run (by decide +kernel)
  have slot : 0 ∈ pool.active := by decide +kernel
  have active : cluster ∈ pool.activeClusters := List.mem_map_of_mem slot
  have hits : cluster.hits = [first, second] := by decide +kernel
  have told := admitted_iff_near_some_hit steps reached active limits (by decide) (by decide)
  simp only [hits] at told
  have admitted : limits.Admits cluster rim := by
    refine (told rim).2.mpr ⟨⟨first, ?_⟩, second, ?_⟩
    · decide +kernel
    · decide +kernel
  have refused : ¬limits.Admits cluster beside := by
    intro admitted
    obtain ⟨-, hit, member, near⟩ := (told beside).2.mp admitted
    revert hit
    decide +kernel
  refine ⟨reached, active, hits, ?_, by decide +kernel, ?_⟩
  · rw [(told rim).1, decide_eq_true admitted]
  · rw [(told beside).1, decide_eq_false refused]

end PoolStep

end EventFormation
