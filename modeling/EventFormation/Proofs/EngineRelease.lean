import EventFormation.Engine
import EventFormation.Proofs.LaneStream
import EventFormation.Proofs.RingRelease

/-!
# What a release makes of the bins

Whether readouts are clustered or passed on, a release of coarse bins is a
function of what the bins hold: nothing else of the ring or of the engine shows
in the products.  Forming the products of consecutive bins can be done in any
number of releases.
-/

namespace EventFormation

namespace Engine

/-- The products of consecutive coarse bins, the first of which has the given
number, and the lanes that are left behind. -/
def form (layout : Layout) (first : Nat) (bins : List (List Readout)) :
    Option Lanes → Option Lanes × List Product
  | none => (none, bins.flatten.map .passed)
  | some lanes =>
    let (after, products) := Lanes.stream layout.fineWidth (first * layout.coarseWidth)
      (bins.map layout.fineBlock) lanes []
    (some after, products)

section

variable (layout : Layout) (first : Nat)

@[simp] theorem form_nil (lanes : Option Lanes) : form layout first [] lanes = (lanes, []) := by
  cases lanes with
  | none => rfl
  | some lanes => rfl

theorem form_singleton (bin : List Readout) (lanes : Lanes) :
    form layout first [bin] (some lanes) =
      (some (lanes.process (first * layout.coarseWidth) layout.fineWidth
          (layout.fineBlock bin) []).1,
        (lanes.process (first * layout.coarseWidth) layout.fineWidth
          (layout.fineBlock bin) []).2.1) := rfl

theorem length_fineBlocks (bins : List (List Readout)) :
    (bins.map layout.fineBlock).flatten.length = bins.length * layout.fineCount := by
  induction bins with
  | nil => simp
  | cons bin rest induction =>
      rw [List.map_cons, List.flatten_cons, List.length_append, layout.length_fineBlock,
        induction, List.length_cons, Nat.succ_mul, Nat.add_comm]

theorem length_flatten_fineBlocks (bins : List (List Readout)) :
    (bins.map layout.fineBlock).flatten.length * layout.fineWidth =
      bins.length * layout.coarseWidth := by
  rw [length_fineBlocks, layout.coarseWidth_eq, Nat.mul_assoc]

theorem form_append (earlier later : List (List Readout)) (lanes : Option Lanes) :
    form layout first (earlier ++ later) lanes =
      ((form layout (first + earlier.length) later (form layout first earlier lanes).1).1,
        (form layout first earlier lanes).2 ++
          (form layout (first + earlier.length) later (form layout first earlier lanes).1).2) := by
  cases lanes with
  | none => simp [form]
  | some lanes =>
      simp only [form]
      rw [List.map_append, Lanes.stream_append, length_flatten_fineBlocks, ← Nat.add_mul,
        Lanes.stream_out]

end

/-- The products are those of so many bins from the base on, and nothing but
the bins and the lanes has changed. -/
structure Released (engine later : Engine) (products : List Product) (bins : Nat) : Prop where
  moved : TimeRing.Moved engine.ring later.ring bins
  formed : (later.lanes, products) =
    form engine.ring.layout engine.ring.start (engine.ring.block bins) engine.lanes
  rest : later = { engine with ring := later.ring, lanes := later.lanes }

section

variable {ring : TimeRing} (sound : ring.Sound) (cleared : ring.Cleared)
include sound cleared

/-- One bin is clustered and let go before the next ones are. -/
theorem clusterBins_succ (occupied : 0 < ring.occupied) (bins : Nat) (lanes : Lanes) :
    clusterBins (bins + 1) ring lanes =
      let (after, products, _) := lanes.process ring.base ring.layout.fineWidth
        (ring.layout.fineBlock (ring.held ring.start)) []
      let (later, last, more) := clusterBins bins ring.advance.1 after
      (later, last, products ++ more) := by
  have busy : ¬ring.isEmpty = true := by
    rw [sound.isEmpty_iff]
    omega
  have base : ring.spread.1.base = ring.base := by rw [TimeRing.rest_spread]
  have layout : ring.spread.1.layout = ring.layout := by rw [TimeRing.rest_spread]
  rw [clusterBins, if_neg busy]
  simp only [TimeRing.clearFine_spread sound occupied cleared,
    TimeRing.fineBins_spread sound occupied cleared, base, layout]

/-- Clustering bins one after the other forms the products of all of them. -/
theorem clusterBins_spec (bins : Nat) (lanes : Lanes) :
    TimeRing.Moved ring (clusterBins bins ring lanes).1 (min bins ring.occupied) ∧
      (some (clusterBins bins ring lanes).2.1, (clusterBins bins ring lanes).2.2) =
        form ring.layout ring.start (ring.block (min bins ring.occupied)) (some lanes) := by
  induction bins generalizing ring lanes with
  | zero =>
      rw [Nat.zero_min]
      exact ⟨TimeRing.Moved.refl sound, rfl⟩
  | succ bins induction =>
      by_cases nothing : ring.occupied = 0
      · rw [clusterBins, if_pos (sound.isEmpty_iff.mpr nothing), nothing, Nat.min_zero]
        exact ⟨TimeRing.Moved.refl sound, rfl⟩
      · have occupied : 0 < ring.occupied := Nat.pos_of_ne_zero nothing
        have step := TimeRing.moved_advance sound occupied
        obtain ⟨moved, formed⟩ := induction step.sound (step.cleared cleared)
          (lanes.process ring.base ring.layout.fineWidth
            (ring.layout.fineBlock (ring.held ring.start)) []).1
        have count : min (bins + 1) ring.occupied = 1 + min bins ring.advance.1.occupied := by
          rw [step.occupied]
          omega
        have single : ring.block 1 = [ring.held ring.start] := rfl
        rw [clusterBins_succ sound cleared occupied, count]
        refine ⟨step.trans moved, ?_⟩
        rw [step.start, step.layout] at formed
        rw [step.block_add (step.trans moved).bins_le, single, form_append, form_singleton,
          ← sound.base, List.length_singleton, ← formed]

end

variable {engine : Engine}

theorem release_of_some {lanes : Lanes} (clustered : engine.lanes = some lanes) (bins span : Nat) :
    engine.release bins span =
      let (ring, lanes, products) :=
        clusterBins (min bins engine.ring.occupied) engine.ring lanes
      ({ engine with ring, lanes := some lanes }, products) := by
  unfold release
  split
  · rename_i found same
    rw [clustered] at same
    cases same
    rfl
  · rename_i passing
    rw [clustered] at passing
    cases passing

theorem release_of_none (passing : engine.lanes = none) (bins span : Nat) :
    engine.release bins span =
      let (ring, readouts, _) := engine.ring.takeWindow span
      ({ engine with ring }, readouts.map .passed) := by
  unfold release
  split
  · rename_i lanes clustered
    rw [passing] at clustered
    cases clustered
  · rfl

section

variable (sound : engine.ring.Sound) (cleared : engine.ring.Cleared)
include sound cleared

theorem exists_released (bins span : Nat) : ∃ count,
    Released engine (engine.release bins span).1 (engine.release bins span).2 count := by
  cases clustering : engine.lanes with
  | some lanes =>
      obtain ⟨moved, formed⟩ :=
        clusterBins_spec sound cleared (min bins engine.ring.occupied) lanes
      rw [release_of_some clustering]
      exact ⟨_, moved, by rw [clustering, formed], rfl⟩
  | none =>
      obtain ⟨count, moved, taken, _⟩ := TimeRing.moved_takeWindow sound span
      rw [release_of_none clustering]
      exact ⟨count, moved, by rw [clustering, form, ← taken], rfl⟩

theorem released_all_of_some {lanes : Lanes} (clustered : engine.lanes = some lanes) (span : Nat) :
    Released engine (engine.release engine.ring.layout.coarseCount span).1
      (engine.release engine.ring.layout.coarseCount span).2 engine.ring.occupied := by
  have turn : engine.ring.occupied < engine.ring.layout.coarseCount := TimeRing.occupied_lt
  obtain ⟨moved, formed⟩ := clusterBins_spec sound cleared
    (min engine.ring.layout.coarseCount engine.ring.occupied) lanes
  have count : min (min engine.ring.layout.coarseCount engine.ring.occupied)
      engine.ring.occupied = engine.ring.occupied := by
    omega
  rw [count] at moved formed
  rw [release_of_some clustered]
  exact ⟨moved, by rw [clustered, formed], rfl⟩

/-- The largest release lets every bin go, if the last one ends within the
clock. -/
theorem released_all
    (fits : engine.ring.finish * engine.ring.layout.coarseWidth ≤ clockEnd) :
    Released engine (engine.release engine.ring.layout.coarseCount engine.ring.layout.window).1
      (engine.release engine.ring.layout.coarseCount engine.ring.layout.window).2
      engine.ring.occupied := by
  have turn : engine.ring.occupied < engine.ring.layout.coarseCount := TimeRing.occupied_lt
  cases clustering : engine.lanes with
  | some lanes => exact released_all_of_some sound cleared clustering _
  | none =>
      obtain ⟨count, moved, taken, reason⟩ :=
        TimeRing.moved_takeWindow sound engine.ring.layout.window
      have all : count = engine.ring.occupied := by
        by_contra rest
        have within := moved.bins_le
        have ends : engine.ring.base + (count + 1) * engine.ring.layout.coarseWidth ≤ clockEnd := by
          refine Nat.le_trans ?_ fits
          rw [sound.base, ← Nat.add_mul, TimeRing.finish]
          exact Nat.mul_le_mul_right _ (by omega)
        have inWindow : (count + 1) * engine.ring.layout.coarseWidth ≤
            engine.ring.layout.window := by
          rw [Layout.window, Nat.mul_comm]
          exact Nat.mul_le_mul_left _ (by omega)
        have positive := engine.ring.layout.coarseWidth_pos
        rw [Nat.succ_mul] at ends inWindow
        unfold saturate at reason
        omega
      rw [all] at moved taken
      rw [release_of_none clustering]
      exact ⟨moved, by rw [clustering, form, ← taken], rfl⟩

end

theorem closeOpen_eq (sound : engine.ring.Sound) (cleared : engine.ring.Cleared) :
    engine.closeOpen =
      ({ engine with
          lanes := (form engine.ring.layout engine.ring.start [[]] engine.lanes).1.map Lanes.clear },
        (form engine.ring.layout engine.ring.start [[]] engine.lanes).2) := by
  have fine : engine.ring.clearFine = (engine.ring, TimeRing.count engine.ring.fine) := by
    rw [TimeRing.clearFine, sound.fine, ← cleared]
  obtain ⟨ring, lanes, router, lag, idleSpan, idleTicks, countdown, counts⟩ := engine
  cases lanes with
  | none => rfl
  | some lanes =>
      simp only [closeOpen, fine, form_singleton, ← TimeRing.fineBins_of_cleared cleared,
        ← sound.base, Option.map_some]

theorem products_closeOpen (sound : engine.ring.Sound) (cleared : engine.ring.Cleared) :
    engine.closeOpen.2 = (form engine.ring.layout engine.ring.start [[]] engine.lanes).2 := by
  rw [closeOpen_eq sound cleared]

/-- What is released now, with its products. -/
def releaseDue (engine : Engine) : Engine × List Product :=
  if engine.blockSpan = 0 then (engine, [])
  else engine.release (engine.blockSpan / engine.ring.layout.coarseWidth) engine.blockSpan

theorem process_eq (engine : Engine) :
    engine.process =
      { products := engine.releaseDue.2
        plan := engine.releaseDue.1.tell engine.ring.base engine.releaseDue.2 } := by
  unfold process releaseDue
  dsimp only
  split
  · rfl
  · rfl

theorem router_closeOpen (engine : Engine) : engine.closeOpen.1.router = engine.router := by
  unfold closeOpen
  split
  · rfl
  · rfl

theorem ring_jump {earliest : Nat}
    (moves : (engine.ring.isEmpty || engine.jumps earliest) = true) :
    (engine.jump earliest).ring =
      (engine.ring.anchor (engine.ring.layout.coarseFloor earliest)).1 := by
  unfold jumps at moves
  unfold jump TimeRing.reset
  rw [if_pos moves]

theorem jumps_iff_not_accepts (sound : engine.ring.Sound) (earliest : Nat) :
    engine.jumps earliest ↔ ¬engine.ring.accepts earliest := by
  have window := sound.inWindow_iff (engine.ring.layout.coarseFloor earliest)
  rw [Layout.coarseFloor_eq, Layout.coarseNumber_mul, ← Layout.coarseFloor_eq,
    ← sound.inWindow_iff] at window
  rw [jumps, TimeRing.accepts, TimeRing.accepts, Bool.not_eq_true', ← Bool.not_eq_true, window]

theorem base_jump {earliest : Nat} (jumps : engine.jumps earliest) :
    (engine.jump earliest).ring.base = engine.ring.layout.coarseFloor earliest := by
  have base : (engine.jump earliest).ring.base =
      engine.ring.layout.coarseFloor (engine.ring.layout.coarseFloor earliest) := by
    rw [ring_jump (by rw [jumps, Bool.or_true])]
    rfl
  rw [base, Layout.coarseFloor_eq, Layout.coarseFloor_eq, Layout.coarseNumber_mul]

section

variable (sound : engine.ring.Sound) (cleared : engine.ring.Cleared)
include sound cleared

theorem exists_process : ∃ later products bins, Released engine later products bins ∧
    engine.process = { products, plan := later.tell engine.ring.base products } := by
  by_cases idle : engine.blockSpan = 0
  · refine ⟨engine, [], 0, ⟨TimeRing.Moved.refl sound, (form_nil _ _ _).symm, rfl⟩, ?_⟩
    simp only [process, if_pos idle]
    rfl
  · obtain ⟨bins, released⟩ := exists_released sound cleared
      (engine.blockSpan / engine.ring.layout.coarseWidth) engine.blockSpan
    refine ⟨_, _, bins, released, ?_⟩
    simp only [process, if_neg idle]

theorem exists_drain : ∃ later products bins, Released engine later products bins ∧
    engine.drain =
      { products := products ++ later.closeOpen.2
        plan := (later.closeOpen.1.tell engine.ring.base
          (products ++ later.closeOpen.2)).andThen flush } := by
  obtain ⟨bins, released⟩ := exists_released sound cleared
    engine.ring.layout.coarseCount engine.ring.layout.window
  exact ⟨_, _, bins, released, rfl⟩

end

end Engine

end EventFormation
