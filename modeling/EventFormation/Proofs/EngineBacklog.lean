import EventFormation.Proofs.EngineService

/-!
# The backlog of an engine in service

Processing is to let go what is older than the lag, and to keep what is not.  What
it lets go are whole bins, so how far into the lag it goes and how much it leaves
behind both come down to the number of bins that are due.
-/

namespace EventFormation

theorem Layout.Valid.coarseWidth_dvd {layout : Layout} (valid : layout.Valid) :
    layout.coarseWidth ∣ UInt64.size := by
  have bits : layout.coarseWidthBits ≤ 64 := by
    have window := valid.2
    unfold windowBits at window
    unfold coarseWidthBits
    omega
  rw [coarseWidth, Nat.one_shiftLeft]
  exact Nat.pow_dvd_pow 2 bits

theorem Readout.coarseNumber_lt {layout : Layout} (valid : layout.Valid) (readout : Readout) :
    readout.coarseNumber layout < UInt64.size / layout.coarseWidth :=
  Nat.div_lt_div_of_lt_of_dvd valid.coarseWidth_dvd readout.time.toNat_lt

namespace TimeRing

variable {ring later : TimeRing}

/-- What is occupied ends within the clock. -/
def OnClock (ring : TimeRing) : Prop :=
  0 < ring.occupied → ring.finish * ring.layout.coarseWidth ≤ UInt64.size

theorem OnClock.moved {bins : Nat} (onClock : ring.OnClock) (moved : Moved ring later bins) :
    later.OnClock := by
  intro occupied
  rw [moved.finish, moved.layout]
  rw [moved.occupied] at occupied
  exact onClock (by omega)

theorem onClock_anchor (ring : TimeRing) (time : Nat) : (ring.anchor time).1.OnClock := by
  intro occupied
  rw [occupied_anchor] at occupied
  exact absurd occupied (Nat.lt_irrefl 0)

theorem OnClock.insert (onClock : ring.OnClock) (sound : ring.Sound) (readouts : List Readout) :
    (ring.insert readouts).1.OnClock := by
  intro occupied
  have layout : (ring.insert readouts).1.layout = ring.layout := rfl
  rw [layout, ← Nat.le_div_iff_mul_le ring.layout.coarseWidth_pos, finish_insert sound readouts]
  refine finishAfter_le_iff.mpr ⟨?_, fun readout _ => readout.coarseNumber_lt sound.valid⟩
  by_cases before : 0 < ring.occupied
  · rw [Nat.le_div_iff_mul_le ring.layout.coarseWidth_pos]
    exact onClock before
  · -- An empty ring ends where its first readout is filed, or before.
    cases taken : ring.accepted readouts with
    | nil =>
        rw [occupied_insert sound, taken] at occupied
        have same : finishAfter ring.layout ring.finish [] = ring.finish := rfl
        rw [same, finish] at occupied
        omega
    | cons readout rest =>
        have member : readout ∈ ring.accepted readouts := by
          rw [taken]
          exact List.mem_cons_self
        have after := ((mem_accepted_iff sound readouts).mp member).2.1
        have number := readout.coarseNumber_lt sound.valid
        rw [finish]
        omega

end TimeRing

namespace Engine

variable {settings : Settings} {engine left : Engine}

/-- What is true of an engine whatever has been asked of it. -/
structure Serving (settings : Settings) (engine : Engine) : Prop where
  standing : Standing settings engine
  lag : engine.lag = settings.detector.eventLag
  idleSpan : engine.idleSpan = settings.detector.idleSpan
  onClock : engine.ring.OnClock

theorem Serving.start (valid : settings.Valid) : Serving settings (ofSettings settings) := by
  constructor
  · exact Standing.start valid
  · rfl
  · rfl
  · intro occupied
    have none : (ofSettings settings).ring.occupied = 0 :=
      TimeRing.occupied_empty settings.layout
    omega

namespace Serving

variable (serving : Serving settings engine)
include serving

theorem onward (onward : engine.Onward left) :
    left.lag = engine.lag ∧ left.idleSpan = engine.idleSpan ∧ left.ring.OnClock := by
  obtain ⟨bins, moved⟩ := onward.moved
  refine ⟨?_, ?_, serving.onClock.moved moved⟩
  · rw [onward.rest]
  · rw [onward.rest]

theorem ingest (readouts : List Readout) (earliest : Nat) :
    (engine.ingest readouts earliest).lag = engine.lag ∧
      (engine.ingest readouts earliest).idleSpan = engine.idleSpan ∧
      (engine.ingest readouts earliest).ring.OnClock := by
  by_cases some : readouts = []
  · rw [Engine.ingest, if_pos (by simpa using some)]
    exact ⟨rfl, rfl, serving.onClock⟩
  · rw [ingest_eq engine some]
    have sound := (serving.standing.awaited earliest).sound
    by_cases jumps : engine.jumps earliest
    · rw [awaited_of_jumps engine jumps] at sound ⊢
      let awake : Engine := { engine with countdown := engine.idleTicks }
      have moves : (awake.ring.isEmpty || awake.jumps earliest) = true :=
        (Bool.or_eq_true _ _).mpr (Or.inr jumps)
      refine ⟨rfl, rfl, TimeRing.OnClock.insert ?_ sound readouts⟩
      rw [ring_jump moves]
      exact TimeRing.onClock_anchor _ _
    · rw [awaited_of_not_jumps engine jumps] at sound ⊢
      exact ⟨rfl, rfl, serving.onClock.insert sound readouts⟩

theorem leaves (valid : settings.Valid) (request : Request) :
    (engine.plan request).Leaves (Serving settings) := by
  have sound := serving.standing.sound
  have cleared := serving.standing.cleared
  have kept : (engine.plan request).Leaves fun left =>
      left.lag = engine.lag ∧ left.idleSpan = engine.idleSpan ∧ left.ring.OnClock := by
    cases request with
    | perform step =>
        cases step with
        | ingest readouts earliest => exact serving.ingest readouts earliest
        | idle => exact ⟨rfl, rfl, serving.onClock⟩
        | process => exact (onward_process sound cleared).mono fun _ => serving.onward
        | flush => exact (onward_flush sound).mono fun _ => serving.onward
        | drain => exact (onward_drain sound cleared).mono fun _ => serving.onward
    | setIdleTicks ticks => exact ⟨rfl, rfl, serving.onClock⟩
    | count counts => exact ⟨rfl, rfl, serving.onClock⟩
  refine ((leaves_standing valid serving.standing request).and kept).mono ?_
  rintro left ⟨standing, lag, idleSpan, onClock⟩
  exact ⟨standing, lag.trans serving.lag, idleSpan.trans serving.idleSpan, onClock⟩

end Serving

theorem serving_serve {σ ε : Type} (valid : settings.Valid) (sink : Sink σ ε) (state : σ)
    (requests : List Request) :
    Serving settings ((ofSettings settings).serve sink state requests).1 :=
  serve_induction (fun _ serving request _ => serving.leaves valid request)
    (Serving.start valid) sink state

theorem blockSpan_of_lag
    (lagging : engine.lag + engine.ring.layout.coarseWidth < engine.ring.span) :
    engine.blockSpan = engine.ring.span - engine.lag :=
  if_pos lagging

theorem blockSpan_of_expired
    (near : ¬engine.lag + engine.ring.layout.coarseWidth < engine.ring.span)
    (busy : engine.ring.isEmpty = false) (expired : engine.countdown = 0) :
    engine.blockSpan = engine.idleSpan := by
  rw [blockSpan, if_neg near, busy, expired]
  rfl

theorem blockSpan_of_awake
    (near : ¬engine.lag + engine.ring.layout.coarseWidth < engine.ring.span)
    (awake : engine.countdown ≠ 0) : engine.blockSpan = 0 := by
  rw [blockSpan, if_neg near, if_neg]
  simp [awake]

theorem process_of_blockSpan_eq_zero (nothing : engine.blockSpan = 0) :
    engine.process = { products := [], plan := .done engine } :=
  if_pos nothing

theorem Onward.countdown (onward : engine.Onward left) :
    left.countdown = engine.countdown ∧ left.idleTicks = engine.idleTicks := by
  rw [onward.rest]
  exact ⟨rfl, rfl⟩

namespace Serving

variable (serving : Serving settings engine)
include serving

theorem stop_le (occupied : 0 < engine.ring.occupied) :
    engine.ring.base + engine.ring.span ≤ UInt64.size := by
  rw [TimeRing.base_add_span serving.standing.sound]
  exact serving.onClock occupied

theorem process {σ ε : Type} (consumer : Sink σ ε) (answers : σ) :
    let left := (engine.process.plan.run consumer answers).1
    TimeRing.Moved engine.ring left.ring engine.dueBins ∧ engine.Onward left := by
  have sound := serving.standing.sound
  have cleared := serving.standing.cleared
  have onward := (onward_process sound cleared).run consumer answers
  have same := engine.leaves_process.run consumer answers
  refine ⟨?_, onward⟩
  rw [same.ring]
  exact (released_due sound cleared).moved

end Serving

section

variable (lagging : engine.lag + engine.ring.layout.coarseWidth < engine.ring.span)
include lagging

/-- Less than one bin of the lag is let go. -/
theorem due_lt : engine.ring.layout.coarseWidth * engine.dueBins + engine.lag <
    engine.ring.span + engine.ring.layout.coarseWidth := by
  by_contra most
  have positive := engine.ring.layout.coarseWidth_pos
  have fewer : engine.dueBins ≤ engine.dueBins - 1 := by
    refine dueBins_le ?_
    rw [blockSpan_of_lag lagging, Nat.mul_sub_one]
    omega
  have none : engine.dueBins = 0 := by omega
  rw [none] at most
  omega

/-- Nothing of the lag is let go if bins are clustered, or if the lag is whole
bins. -/
theorem due_le_iff (fits : engine.ring.base + engine.ring.span ≤ UInt64.size) :
    engine.ring.layout.coarseWidth * engine.dueBins + engine.lag ≤ engine.ring.span ↔
      engine.lanes.isSome ∨ engine.ring.layout.coarseWidth ∣ engine.lag := by
  have due := blockSpan_of_lag lagging
  have span : engine.ring.span = engine.ring.layout.coarseWidth * engine.ring.occupied := rfl
  have most : UInt64.size = clockEnd + 1 := rfl
  cases clustering : engine.lanes with
  | some lanes =>
      have counted : engine.ring.layout.coarseWidth * engine.dueBins ≤ engine.blockSpan := by
        rw [dueBins_of_some clustering]
        refine Nat.le_trans (Nat.mul_le_mul_left _ (Nat.min_le_left _ _)) ?_
        exact Nat.mul_div_le _ _
      simp only [Option.isSome_some, true_or, iff_true]
      omega
  | none =>
      simp only [Option.isSome_none, Bool.false_eq_true, false_or]
      constructor
      · intro within
        by_cases nothing : engine.lag = 0
        · rw [nothing]
          exact Nat.dvd_zero _
        · by_cases all : engine.dueBins = engine.ring.occupied
          · rw [all, ← span] at within
            omega
          · -- What is let go comes to the time that may be released, exactly.
            have rounded := le_dueBins_of_none clustering (by omega) all
            have exact : engine.lag =
                engine.ring.layout.coarseWidth * (engine.ring.occupied - engine.dueBins) := by
              rw [Nat.mul_sub, ← span]
              omega
            rw [exact]
            exact Nat.dvd_mul_right _ _
      · rintro ⟨bins, whole⟩
        have within : engine.dueBins ≤ engine.ring.occupied - bins := by
          refine dueBins_le ?_
          rw [due, whole, span, ← Nat.mul_sub]
        have scaled := Nat.mul_le_mul_left engine.ring.layout.coarseWidth within
        rw [Nat.mul_sub, ← span, ← whole] at scaled
        omega

theorem due_pos (fits : engine.ring.base + engine.ring.span ≤ UInt64.size) :
    0 < engine.dueBins := by
  have positive := engine.ring.layout.coarseWidth_pos
  have due := blockSpan_of_lag lagging
  have most : UInt64.size = clockEnd + 1 := rfl
  have occupied : 0 < engine.ring.occupied := by
    by_contra none
    rw [TimeRing.span, Nat.eq_zero_of_not_pos none] at lagging
    omega
  rw [dueBins_pos_iff occupied (by omega)]
  split
  · omega
  · omega

end

theorem span_after_due {bins : TimeRing} (serving : Serving settings engine)
    (moved : TimeRing.Moved engine.ring bins engine.dueBins) :
    bins.span ≤ engine.lag + engine.ring.layout.coarseWidth := by
  have span : engine.ring.span = engine.ring.layout.coarseWidth * engine.ring.occupied := rfl
  rw [TimeRing.span, moved.layout, moved.occupied, Nat.mul_sub, ← span]
  by_cases lagging : engine.lag + engine.ring.layout.coarseWidth < engine.ring.span
  · by_cases all : engine.dueBins = engine.ring.occupied
    · rw [all, ← span]
      omega
    · have occupied : 0 < engine.ring.occupied :=
        Nat.lt_of_le_of_lt (Nat.zero_le _) (Nat.lt_of_le_of_ne moved.bins_le all)
      have fits := serving.stop_le occupied
      have due := blockSpan_of_lag lagging
      have rounded := le_dueBins_succ (by omega) all
      rw [Nat.mul_succ] at rounded
      omega
  · omega

variable {σ ε τ δ : Type}

/-- If more than the lag and a bin is occupied, processing keeps the base out of the
lag exactly if bins are clustered, or if the lag is whole bins, and then whatever is
no older than the lag is taken in afterwards.  In any case the base is less than a bin
into the lag. -/
theorem lag_kept_iff (valid : settings.Valid) (sink : Sink σ ε) (state : σ)
    (requests : List Request) (consumer : Sink τ δ) (answers : τ) :
    let engine := ((ofSettings settings).serve sink state requests).1
    let left := (engine.process.plan.run consumer answers).1
    let lag := settings.detector.eventLag
    let width := settings.layout.coarseWidth
    let stop := engine.ring.base + engine.ring.span
    lag + width < engine.ring.span →
      (left.ring.base ≤ stop - lag ↔ settings.clustering.enabled ∨ width ∣ lag) ∧
      (settings.clustering.enabled ∨ width ∣ lag →
        ∀ time, stop - lag ≤ time → time ≤ stop → left.ring.accepts time) ∧
      left.ring.base < stop - lag + width := by
  intro engine left lag width stop lagging
  have serving : Serving settings engine := serving_serve valid sink state requests
  have sound := serving.standing.sound
  obtain ⟨moved, -⟩ := serving.process consumer answers
  have base : left.ring.base = engine.ring.base + width * engine.dueBins := by
    rw [moved.base_eq sound, serving.standing.laidOut]
  have laidOut : engine.ring.layout.coarseWidth = width := serving.standing.coarseWidth
  have occupied : 0 < engine.ring.occupied := by
    by_contra none
    rw [TimeRing.span, Nat.eq_zero_of_not_pos none, Nat.mul_zero] at lagging
    exact Nat.not_lt_zero _ lagging
  have fits := serving.stop_le occupied
  have inside : engine.lag + engine.ring.layout.coarseWidth < engine.ring.span := by
    rw [serving.lag, laidOut]
    exact lagging
  have kept := due_le_iff inside fits
  have close := due_lt inside
  have some := due_pos inside fits
  rw [serving.lag, laidOut] at kept close
  rw [serving.standing.clustered] at kept
  have kept_iff : left.ring.base ≤ stop - lag ↔ settings.clustering.enabled ∨ width ∣ lag := by
    rw [← kept, base]
    omega
  refine ⟨kept_iff, ?_, by omega⟩
  intro keeps time recent early
  refine (moved.sound.inWindow_iff time).mpr ⟨?_, ?_⟩
  · rw [Layout.le_coarseNumber_iff, ← moved.sound.base]
    exact Nat.le_trans (kept_iff.mpr keeps) recent
  · -- The bin after the newest one is in the window, as at least one bin has gone.
    have number : left.ring.layout.coarseNumber time ≤ engine.ring.finish := by
      have atMost := left.ring.layout.coarseNumber_mono early
      have last : stop = engine.ring.finish * engine.ring.layout.coarseWidth :=
        TimeRing.base_add_span sound
      rw [last, ← moved.layout, Layout.coarseNumber_mul] at atMost
      exact atMost
    have turn : engine.ring.occupied < engine.ring.layout.coarseCount := TimeRing.occupied_lt
    rw [moved.start, moved.layout]
    rw [TimeRing.finish, moved.layout] at number
    omega

/-- Clustered bins stay out of a lag that ends within a bin, though the sink refuses
the first call. -/
theorem clustered_bins_keep_lag :
    let settings : Settings :=
      { detector := { eventLag := 1000000 }
        clustering := { lanes := 2 }
        layout := { coarseBits := 3, fineWidthBits := 10, fineBits := 8 } }
    let requests : List Request :=
      [.perform (.ingest [.neutron 100 5 5 1, .neutron 1000000 6 6 1, .neutron 1800000 7 7 1] 100),
        .perform .idle]
    let engine := ((ofSettings settings).serve (Recording.sink fun _ => false) {} requests).1
    let left := (engine.process.plan.run (Recording.sink fun call => call = 0) {}).1
    settings.Valid ∧
      settings.detector.eventLag + settings.layout.coarseWidth < engine.ring.span ∧
      engine.ring.base + engine.ring.span = 1835008 ∧ left.ring.base = 786432 ∧
      left.ring.base ≤ 1835008 - 1000000 ∧ left.ring.accepts 900000 := by
  intro settings requests engine left
  have valid : settings.Valid := by decide
  have lagging : settings.detector.eventLag + settings.layout.coarseWidth < engine.ring.span := by
    decide +kernel
  have stop : engine.ring.base + engine.ring.span = 1835008 := by decide +kernel
  have base : left.ring.base = 786432 := by decide +kernel
  obtain ⟨kept, accepted, -⟩ := lag_kept_iff valid (Recording.sink fun _ => false) {} requests
    (Recording.sink fun call => call = 0) {} lagging
  have clustered : settings.clustering.enabled ∨
      settings.layout.coarseWidth ∣ settings.detector.eventLag := Or.inl rfl
  have inTime := kept.mpr clustered
  have recent := accepted clustered 900000
  rw [stop] at inTime recent
  refine ⟨valid, lagging, stop, base, ?_⟩
  unfold left engine
  exact ⟨inTime, recent (by decide) (by decide)⟩

/-- Readouts that are passed on go with the whole bin in which the lag begins: one of
them is no older than the lag, and what comes for its bin is a jump in time. -/
theorem passing_takes_from_lag :
    let settings : Settings :=
      { detector := { eventLag := 1000000 }
        clustering := { enabled := false }
        layout := { coarseBits := 3, fineWidthBits := 10, fineBits := 8 } }
    let requests : List Request :=
      [.perform (.ingest [.neutron 100 5 5 1, .neutron 1000000 6 6 1, .neutron 1800000 7 7 1] 100)]
    let sink := Recording.sink fun _ => false
    let engine := ((ofSettings settings).serve sink {} requests).1
    let left := (engine.process.plan.run sink {}).1
    settings.Valid ∧
      settings.detector.eventLag + settings.layout.coarseWidth < engine.ring.span ∧
      engine.process.readouts = [.neutron 100 5 5 1, .neutron 1000000 6 6 1] ∧
      left.jumps 900000 ∧
      ¬left.ring.base ≤ engine.ring.base + engine.ring.span - settings.detector.eventLag := by
  intro settings requests sink engine left
  have lagging : settings.detector.eventLag + settings.layout.coarseWidth < engine.ring.span := by
    decide +kernel
  have taken : engine.process.readouts = [.neutron 100 5 5 1, .neutron 1000000 6 6 1] := by
    decide +kernel
  have base : left.ring.base = 1048576 := by decide +kernel
  have stop : engine.ring.base + engine.ring.span = 1835008 := by decide +kernel
  refine ⟨by decide, lagging, taken, by decide +kernel, ?_⟩
  rw [base, stop]
  decide

/-- After one call to process the lag and one bin are occupied at most, whatever the
sink answers, and unless the wait for input is over another call does nothing at
all. -/
theorem process_catches_up (valid : settings.Valid) (sink : Sink σ ε) (state : σ)
    (requests : List Request) (consumer : Sink τ δ) (answers : τ) :
    let engine := ((ofSettings settings).serve sink state requests).1
    let left := (engine.process.plan.run consumer answers).1
    left.ring.span ≤ settings.detector.eventLag + settings.layout.coarseWidth ∧
      (engine.countdown ≠ 0 → left.process = { products := [], plan := .done left }) := by
  intro engine left
  have serving : Serving settings engine := serving_serve valid sink state requests
  have after : Serving settings left :=
    (serving.leaves valid (.perform .process)).run consumer answers
  obtain ⟨moved, onward⟩ := serving.process consumer answers
  have caught := span_after_due serving moved
  have layout : engine.ring.layout = settings.layout := serving.standing.laidOut
  refine ⟨?_, ?_⟩
  · rw [← serving.lag, ← layout]
    exact caught
  · intro awake
    refine process_of_blockSpan_eq_zero (blockSpan_of_awake ?_ ?_)
    · rw [after.lag, ← serving.lag, moved.layout]
      exact Nat.not_lt.mpr caught
    · rw [onward.countdown.1]
      exact awake

/-- A call that releases half of what is there and whose block is refused, and a
further one that finds nothing to do. -/
theorem refused_process_catches_up :
    let settings : Settings :=
      { detector := { eventLag := 1000000, idleMillis := 20 }
        clustering := { lanes := 2 }
        layout := { coarseBits := 3, fineWidthBits := 10, fineBits := 8 } }
    let requests : List Request :=
      [.perform (.ingest [.neutron 100 5 5 1, .neutron 1000000 6 6 1, .neutron 1800000 7 7 1] 100),
        .perform .idle]
    let engine := ((ofSettings settings).serve (Recording.sink fun _ => false) {} requests).1
    let left := (engine.process.plan.run (Recording.sink fun call => call = 0) {}).1
    settings.Valid ∧ engine.countdown ≠ 0 ∧ engine.ring.span = 1835008 ∧
      left.ring.span = 1048576 ∧ left.ring.span ≤ 1000000 + 262144 ∧
      left.process = { products := [], plan := .done left } := by
  intro settings requests engine left
  have valid : settings.Valid := by decide
  have awake : engine.countdown ≠ 0 := by decide +kernel
  have before : engine.ring.span = 1835008 := by decide +kernel
  have after : left.ring.span = 1048576 := by decide +kernel
  obtain ⟨caught, rests⟩ := process_catches_up valid (Recording.sink fun _ => false) {} requests
    (Recording.sink fun call => call = 0) {}
  refine ⟨valid, awake, before, after, ?_⟩
  unfold left engine
  exact ⟨caught, rests awake⟩

end Engine

end EventFormation
