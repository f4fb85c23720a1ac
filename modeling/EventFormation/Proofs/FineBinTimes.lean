import EventFormation.Proofs.EngineService
import EventFormation.Proofs.RingHistory

/-!
# The times of the fine bins

Slots of fine bins are counted from time zero on, and those of the base bin are looked
at from the base on.  As the base is at the start of a bin, and its slot holds the
readouts of that bin alone, every fine bin is for the time that its place says.
-/

namespace EventFormation

namespace Layout

variable {layout : Layout}

theorem fine_bounds_iff {number index time : Nat} (inside : index < layout.fineCount) :
    (number * layout.coarseWidth + index * layout.fineWidth ≤ time ∧
        time < number * layout.coarseWidth + (index + 1) * layout.fineWidth) ↔
      layout.coarseNumber time = number ∧ layout.fineIndex time = index := by
  rw [← fineNumber_eq_iff inside, layout.coarseWidth_eq, ← Nat.mul_assoc, ← Nat.add_mul,
    ← Nat.add_mul, ← Nat.le_div_iff_mul_le layout.fineWidth_pos,
    ← Nat.div_lt_iff_lt_mul layout.fineWidth_pos]
  omega

end Layout

namespace TimeRing

variable {ring : TimeRing}

/-- The base bin of a ring whose history is known has been spread over its fine bins. -/
structure SpreadInTime (ring : TimeRing) (readouts : List Readout) (later : TimeRing)
    (count : Nat) : Prop where
  /-- Every fine bin holds what is of its time, in the order of insertion. -/
  fine : later.fineBins = (List.range ring.layout.fineCount).map fun index =>
    readouts.filter fun readout =>
      ring.base + index * ring.layout.fineWidth ≤ readout.time.toNat ∧
        readout.time.toNat < ring.base + (index + 1) * ring.layout.fineWidth
  total : count = (later.fineBins.map List.length).sum
  stored : count = ring.stored.countP fun readout =>
    readout.time.toNat < ring.base + ring.layout.coarseWidth
  rest : later = { ring with fine := later.fine }

section

variable (sound : ring.Sound)
include sound

theorem cleared_of_fineBins (empty : ∀ bin ∈ ring.fineBins, bin = []) : ring.Cleared := by
  refine Array.eq_replicate_iff.mpr ⟨sound.fine, ?_⟩
  intro bin member
  have none := empty bin.toList (List.mem_map_of_mem (Array.mem_toList_iff.mpr member))
  exact Array.toList_eq_nil_iff.mp none

/-- Spreading takes the base bin into the fine bins, if there is one or not. -/
theorem spread_of_cleared (cleared : ring.Cleared) :
    ring.spread.1.fineBins = ring.layout.fineBlock (ring.held ring.start) ∧
      ring.spread.2 = (ring.held ring.start).length := by
  cases empty : ring.isEmpty with
  | true =>
      have nothing : ring.held ring.start = [] := by
        refine sound.held_eq_nil ?_ (Nat.lt_add_of_pos_right ring.layout.coarseCount_pos)
        rw [finish, sound.isEmpty_iff.mp empty]
        exact Nat.le_refl _
      rw [nothing, spread, if_pos empty]
      exact ⟨fineBins_of_cleared cleared, rfl⟩
  | false =>
      have occupied := sound.isEmpty_eq_false_iff.mp empty
      refine ⟨fineBins_spread sound occupied cleared, ?_⟩
      rw [spread, if_neg (by simp [empty]), ← sound.baseBin_eq, Array.length_toList]

theorem spreadInTime (cleared : ring.Cleared) {readouts : List Readout}
    (inOrder : ring.InOrder readouts) :
    SpreadInTime ring readouts ring.spread.1 ring.spread.2 := by
  obtain ⟨fine, count⟩ := spread_of_cleared sound cleared
  have held := inOrder.held sound (Nat.le_refl _)
    (Nat.lt_add_of_pos_right ring.layout.coarseCount_pos)
  constructor
  · rw [fine, Layout.fineBlock]
    refine List.map_congr_left ?_
    intro index member
    rw [held, List.filter_filter]
    refine List.filter_congr ?_
    intro readout _
    rw [sound.base, ← Bool.decide_and, decide_eq_decide,
      Layout.fine_bounds_iff (List.mem_range.mp member), and_comm]
    rfl
  · rw [count, fine, ← List.length_flatten]
    exact (ring.layout.flatten_fineBlock_perm _).length_eq.symm
  · rw [count, held, ← List.countP_eq_length_filter, (inOrder.perm sound).countP_eq]
    refine List.countP_congr ?_
    intro readout member
    have bounds := inOrder.bounds sound member
    have stop : ring.base + ring.layout.coarseWidth =
        (ring.start + 1) * ring.layout.coarseWidth := by
      rw [Nat.succ_mul, ← sound.base]
    rw [decide_eq_true_iff, decide_eq_true_iff, stop, ← Layout.coarseNumber_lt_iff]
    exact ⟨fun here => Nat.lt_succ_of_le (Nat.le_of_eq here),
      fun early => Nat.le_antisymm (Nat.le_of_lt_succ early) bounds.1⟩
  · exact rest_spread ring

end

end TimeRing

/-- A call of lanes: fine bins, how wide they are and where the first one starts. -/
structure Lanes.Call where
  start : Nat
  width : Nat
  bins : List (List Readout)

namespace Lanes

/-- Every readout of a call, neutron or not, is of the time of its fine bin. -/
def Call.InTime (call : Call) : Prop :=
  ∀ index bin, call.bins[index]? = some bin → ∀ readout ∈ bin,
    call.start + index * call.width ≤ readout.time.toNat ∧
      readout.time.toNat < call.start + (index + 1) * call.width

/-- What lanes make of calls, one after the other. -/
def answer (lanes : Lanes) : List Call → Lanes × List Product
  | [] => (lanes, [])
  | call :: rest =>
    let (after, products, _) := lanes.process call.start call.width call.bins []
    let (last, more) := after.answer rest
    (last, products ++ more)

end Lanes

/-- The calls that are made when at most so many bins are clustered and let go. -/
def TimeRing.calls (bins : Nat) (ring : TimeRing) : List Lanes.Call :=
  match bins with
  | 0 => []
  | bins + 1 =>
    if ring.isEmpty then []
    else
      let (ring, _) := ring.spread
      let call : Lanes.Call :=
        { start := ring.base, width := ring.layout.fineWidth, bins := ring.fineBins }
      let (ring, _) := ring.clearFine
      let (ring, _) := ring.advance
      call :: ring.calls bins

namespace TimeRing

variable {ring : TimeRing}

section

variable (sound : ring.Sound) (cleared : ring.Cleared)
include sound cleared

theorem calls_succ (occupied : 0 < ring.occupied) (bins : Nat) :
    ring.calls (bins + 1) =
      { start := ring.base
        width := ring.layout.fineWidth
        bins := ring.layout.fineBlock (ring.held ring.start) } :: ring.advance.1.calls bins := by
  have busy : ¬ring.isEmpty = true := by
    rw [sound.isEmpty_iff]
    omega
  have base : ring.spread.1.base = ring.base := by rw [rest_spread]
  have layout : ring.spread.1.layout = ring.layout := by rw [rest_spread]
  rw [calls, if_neg busy]
  simp only [clearFine_spread sound occupied cleared, fineBins_spread sound occupied cleared,
    base, layout]

theorem calls_inTime (bins : Nat) : ∀ call ∈ ring.calls bins, call.InTime := by
  induction bins generalizing ring with
  | zero => exact fun call member => absurd member List.not_mem_nil
  | succ bins induction =>
      by_cases nothing : ring.occupied = 0
      · rw [calls, if_pos (sound.isEmpty_iff.mpr nothing)]
        exact fun call member => absurd member List.not_mem_nil
      · have occupied : 0 < ring.occupied := Nat.pos_of_ne_zero nothing
        have step := moved_advance sound occupied
        rw [calls_succ sound cleared occupied, List.forall_mem_cons]
        refine ⟨?_, induction step.sound (step.cleared cleared)⟩
        intro index bin found readout member
        have numbered : ∀ readout ∈ ring.held ring.start,
            readout.coarseNumber ring.layout = ring.start := fun readout held =>
          (sound.placed ring.start (Nat.le_refl _)
            (Nat.lt_add_of_pos_right ring.layout.coarseCount_pos) readout held).1
        have base : ring.base = ring.start * ring.layout.fineCount * ring.layout.fineWidth := by
          rw [Nat.mul_assoc, ← Layout.coarseWidth_eq, ← sound.base]
        rw [base]
        exact (Layout.dated_fineBlock numbered).bounds ring.layout.fineWidth_pos found member

end

end TimeRing

namespace Engine

theorem clusterBins_eq_answer (bins : Nat) (ring : TimeRing) (lanes : Lanes) :
    (clusterBins bins ring lanes).2 = lanes.answer (ring.calls bins) := by
  induction bins generalizing ring lanes with
  | zero => rfl
  | succ bins induction =>
      rw [clusterBins, TimeRing.calls]
      split
      · rfl
      · simp only [Lanes.answer, ← induction]

/-- Whatever was asked of bins before, if the fine bins are empty then each takes in what
is of its time, in the order of insertion, when the base bin is spread.  So whatever was
asked of an engine in service, and whatever a sink refused, the lanes are only called
with fine bins whose readouts are of their time. -/
theorem fine_bins_in_time {σ ε : Type} :
    (∀ layout fresh, TimeRing.create layout = .ok fresh → ∀ steps,
      let ring := fresh.run steps
      (∀ bin ∈ ring.fineBins, bin = []) →
        ∃ readouts, TimeRing.History fresh steps readouts ∧
          TimeRing.SpreadInTime ring readouts ring.spread.1 ring.spread.2) ∧
      ∀ settings : Settings, settings.Valid → ∀ (sink : Sink σ ε) (state : σ) requests,
        let engine := ((ofSettings settings).serve sink state requests).1
        ∀ lanes, engine.lanes = some lanes → ∀ bins span,
          let calls := engine.ring.calls (min bins engine.ring.occupied)
          (engine.release bins span).1.lanes = some (lanes.answer calls).1 ∧
            (engine.release bins span).2 = (lanes.answer calls).2 ∧
            ∀ call ∈ calls, call.InTime := by
  constructor
  · intro layout fresh created steps ring empty
    obtain ⟨sound, -⟩ := TimeRing.sound_run_of_create created steps
    obtain ⟨readouts, history⟩ := TimeRing.exists_history created steps
    have cleared := TimeRing.cleared_of_fineBins sound empty
    exact ⟨readouts, history, TimeRing.spreadInTime sound cleared history.inOrder⟩
  · intro settings valid sink state requests engine lanes clustered bins span calls
    have standing : Standing settings engine := standing_serve valid sink state requests
    have answered := clusterBins_eq_answer (min bins engine.ring.occupied) engine.ring lanes
    rw [release_of_some clustered]
    refine ⟨?_, ?_, TimeRing.calls_inTime standing.sound standing.cleared _⟩
    · exact congrArg (fun answer => some answer.1) answered
    · exact congrArg Prod.snd answered

/-- A ring that wraps around, with a readout of the next bin, and an engine that lets two
bins go of which the second has a readout on the border of its fine bins. -/
theorem wrapped_fine_bins_in_time :
    let layout : Layout := { coarseBits := 2, fineWidthBits := 1, fineBits := 1 }
    let fresh := TimeRing.empty layout
    let steps : List RingStep := [.reset 30,
      .insert [.neutron 33 1 1 1, .neutron 29 2 2 1, .neutron 31 3 3 1, .neutron 28 4 4 1]]
    let ring := fresh.run steps
    let settings : Settings :=
      { clustering := { lanes := 2, limits := { span := 16 } }
        layout := { coarseBits := 2, fineWidthBits := 4, fineBits := 2 } }
    let requests : List Request :=
      [.perform (.ingest [.neutron 280 1 1 1, .neutron 272 2 2 1, .neutron 206 3 3 1] 206)]
    let sink := Recording.sink fun _ => false
    let engine := ((ofSettings settings).serve sink {} requests).1
    let calls := engine.ring.calls (min 9 engine.ring.occupied)
    ring.spread.1.fineBins =
        [[.neutron 29 2 2 1, .neutron 28 4 4 1], [.neutron 31 3 3 1]] ∧ ring.spread.2 = 3 ∧
      (∃ readouts, TimeRing.History fresh steps readouts ∧
        TimeRing.SpreadInTime ring readouts ring.spread.1 ring.spread.2) ∧
      calls.map Lanes.Call.start = [192, 256] ∧
      (calls.map fun call => call.bins.map List.length) = [[1, 0, 0, 0], [0, 2, 0, 0]] ∧
      (∃ lanes, engine.lanes = some lanes ∧
        (engine.release 9 0).2 = (lanes.answer calls).2) ∧
      ∀ call ∈ calls, call.InTime := by
  intro layout fresh steps ring settings requests sink engine calls
  obtain ⟨spreads, releases⟩ := fine_bins_in_time (σ := Recording) (ε := Nat)
  have created : TimeRing.create layout = .ok fresh := rfl
  have quiet : ∀ bin ∈ ring.fineBins, bin = [] := by decide +kernel
  have valid : settings.Valid := by decide
  have clustered : engine.lanes.isSome := by decide +kernel
  obtain ⟨lanes, some⟩ := Option.isSome_iff_exists.mp clustered
  obtain ⟨-, produced, inTime⟩ := releases settings valid sink {} requests lanes some 9 0
  refine ⟨?_, ?_, spreads layout fresh created steps quiet, ?_, ?_, ⟨lanes, some, produced⟩, inTime⟩
  · decide +kernel
  · decide +kernel
  · decide +kernel
  · decide +kernel

end Engine

end EventFormation
