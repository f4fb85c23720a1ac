import EventFormation.Proofs.EngineBacklog

/-!
# Engines without input

Once the input has been idle for long enough, an engine is to let go what its lag
would keep, so that nothing waits for readouts that do not come.  Whether it gets on
depends on the settings: the idle span has to come to a whole bin if bins are
clustered.
-/

namespace EventFormation

namespace Request

/-- Whether the request starts the wait for idle ticks anew. -/
def rouses : Request → Bool
  | .perform (.ingest readouts _) => !readouts.isEmpty
  | .setIdleTicks _ => true
  | _ => false

/-- The idle ticks since the last request that rouses, one request later. -/
def tick (ticks : Nat) (request : Request) : Nat :=
  if request.rouses then 0
  else if request = .perform .idle then ticks + 1
  else ticks

/-- The idle ticks after the last of the requests that rouses. -/
def idleFor (requests : List Request) : Nat :=
  requests.foldl tick 0

end Request

/-- Whether an idle engine lets anything go: the idle span comes to a bin if bins are
clustered, and to any time at all if readouts are passed on. -/
def Settings.ReleasesIdle (settings : Settings) : Prop :=
  if settings.clustering.enabled then settings.layout.coarseWidth ≤ settings.detector.idleSpan
  else 0 < settings.detector.idleSpan

instance (settings : Settings) : Decidable settings.ReleasesIdle :=
  inferInstanceAs (Decidable (if settings.clustering.enabled
    then settings.layout.coarseWidth ≤ settings.detector.idleSpan
    else 0 < settings.detector.idleSpan))

namespace Engine

variable {settings : Settings} {engine left : Engine}

theorem countdown_ingest (engine : Engine) {readouts : List Readout} (some : readouts ≠ [])
    (earliest : Nat) :
    (engine.ingest readouts earliest).countdown = engine.idleTicks ∧
      (engine.ingest readouts earliest).idleTicks = engine.idleTicks := by
  rw [ingest_eq engine some]
  by_cases jumps : engine.jumps earliest
  · rw [awaited_of_jumps engine jumps]
    exact ⟨rfl, rfl⟩
  · rw [awaited_of_not_jumps engine jumps]
    exact ⟨rfl, rfl⟩

/-- The countdown tells how many idle ticks are still to come. -/
theorem leaves_countdown (serving : Serving settings engine) {ticks : Nat}
    (counted : engine.countdown = engine.idleTicks - ticks) (request : Request) :
    (engine.plan request).Leaves fun left =>
      left.countdown = left.idleTicks - request.tick ticks := by
  have sound := serving.standing.sound
  have cleared := serving.standing.cleared
  have kept : ∀ left, engine.Onward left → left.countdown = left.idleTicks - ticks := by
    intro left onward
    rw [onward.countdown.1, onward.countdown.2]
    exact counted
  cases request with
  | perform step =>
      cases step with
      | ingest readouts earliest =>
          by_cases some : readouts = []
          · subst some
            exact counted
          · have rouses : (Request.perform (.ingest readouts earliest)).rouses = true := by
              simpa [Request.rouses] using some
            rw [Request.tick, if_pos rouses]
            change (engine.ingest readouts earliest).countdown =
              (engine.ingest readouts earliest).idleTicks - 0
            obtain ⟨countdown, idleTicks⟩ := engine.countdown_ingest some earliest
            rw [countdown, idleTicks, Nat.sub_zero]
      | idle =>
          change engine.countdown - 1 = engine.idleTicks - (ticks + 1)
          omega
      | process => exact (onward_process sound cleared).mono kept
      | flush => exact (onward_flush sound).mono kept
      | drain => exact (onward_drain sound cleared).mono kept
  | setIdleTicks ticks => exact rfl
  | count counts => exact counted

section

variable {σ ε : Type} (valid : settings.Valid) (sink : Sink σ ε) (state : σ)
  (requests : List Request)
include valid

theorem countdown_serve (serving : Serving settings engine) {ticks : Nat}
    (counted : engine.countdown = engine.idleTicks - ticks) :
    (engine.serve sink state requests).1.countdown =
      (engine.serve sink state requests).1.idleTicks - requests.foldl Request.tick ticks := by
  induction requests generalizing engine state ticks with
  | nil => exact counted
  | cons request rest induction =>
      have after := (serving.leaves valid request).run sink state
      have ticked := (leaves_countdown serving counted request).run sink state
      exact induction _ after ticked

theorem countdown_served :
    let engine := ((ofSettings settings).serve sink state requests).1
    engine.countdown = engine.idleTicks - Request.idleFor requests :=
  countdown_serve valid sink state requests (Serving.start valid) rfl

end

section

variable (serving : Serving settings engine) (busy : 0 < engine.ring.occupied)
  (expired : engine.countdown = 0)
include serving busy expired

/-- Once the wait is over something goes if there is more than the lag and a bin, or
if the settings let an idle engine release anything. -/
theorem due_pos_iff (before : engine.ring.base < clockEnd) :
    0 < engine.dueBins ↔
      settings.detector.eventLag + settings.layout.coarseWidth < engine.ring.span ∨
        settings.ReleasesIdle := by
  have positive := settings.layout.coarseWidth_pos
  have laidOut := serving.standing.coarseWidth
  have occupied := serving.standing.sound.isEmpty_eq_false_iff.mpr busy
  by_cases lagging : engine.lag + engine.ring.layout.coarseWidth < engine.ring.span
  · have some := due_pos lagging (serving.stop_le busy)
    rw [serving.lag, laidOut] at lagging
    exact iff_of_true some (Or.inl lagging)
  · have due := blockSpan_of_expired lagging occupied expired
    rw [serving.lag, laidOut] at lagging
    rw [dueBins_pos_iff busy before, serving.standing.clustered, due, serving.idleSpan, laidOut]
    exact ⟨Or.inr, fun some => some.resolve_left lagging⟩

theorem due_pos_of_releasesIdle (moves : settings.ReleasesIdle)
    (fits : engine.ring.finish * settings.layout.coarseWidth ≤ clockEnd) :
    0 < engine.dueBins := by
  have positive := settings.layout.coarseWidth_pos
  have ends := TimeRing.base_add_span serving.standing.sound
  have one : engine.ring.layout.coarseWidth * 1 ≤ engine.ring.span :=
    Nat.mul_le_mul_left _ busy
  rw [serving.standing.coarseWidth] at ends one
  exact (due_pos_iff serving busy expired (by omega)).mpr (Or.inr moves)

/-- An engine that can release nothing stays as it is. -/
theorem process_of_stuck
    (near : ¬settings.detector.eventLag + settings.layout.coarseWidth < engine.ring.span)
    (stuck : ¬settings.ReleasesIdle) :
    engine.process = { products := [], plan := .done engine } := by
  have laidOut := serving.standing.coarseWidth
  rw [← serving.lag, ← laidOut] at near
  have occupied := serving.standing.sound.isEmpty_eq_false_iff.mpr busy
  have due := blockSpan_of_expired near occupied expired
  have clustered := serving.standing.clustered
  unfold Settings.ReleasesIdle at stuck
  rw [← clustered, ← laidOut, ← serving.idleSpan, ← due] at stuck
  have released : engine.releaseDue = (engine, []) := by
    unfold releaseDue
    split
    · rfl
    · rename_i anything
      cases clustering : engine.lanes with
      | none =>
          rw [clustering] at stuck
          exact absurd (Nat.pos_of_ne_zero anything) stuck
      | some lanes =>
          rw [clustering] at stuck
          have short : engine.blockSpan / engine.ring.layout.coarseWidth = 0 :=
            Nat.div_eq_of_lt (Nat.lt_of_not_le stuck)
          rw [short, release_of_some clustering, Nat.zero_min]
          change ({ engine with lanes := some lanes }, []) = (engine, [])
          rw [← clustering]
  rw [process_eq, released]
  rfl

end

/-- A request that does not rouse an engine lets bins go at most, and a call to
process lets at least one go if the settings let it. -/
theorem leaves_waning (moves : settings.ReleasesIdle) (serving : Serving settings engine)
    (expired : engine.countdown = 0)
    (fits : engine.ring.finish * settings.layout.coarseWidth ≤ clockEnd)
    {request : Request} (quiet : request.rouses = false) :
    (engine.plan request).Leaves fun left =>
      left.countdown = 0 ∧ left.ring.finish = engine.ring.finish ∧
        left.ring.occupied ≤ engine.ring.occupied - [request].count (.perform .process) := by
  have sound := serving.standing.sound
  have cleared := serving.standing.cleared
  have kept : ∀ left, engine.Onward left → left.countdown = 0 ∧
      left.ring.finish = engine.ring.finish ∧ left.ring.occupied ≤ engine.ring.occupied := by
    intro left onward
    obtain ⟨bins, moved⟩ := onward.moved
    refine ⟨onward.countdown.1.trans expired, moved.finish, ?_⟩
    rw [moved.occupied]
    exact Nat.sub_le _ _
  cases request with
  | perform step =>
      cases step with
      | ingest readouts earliest =>
          have none : readouts = [] := by simpa [Request.rouses] using quiet
          subst none
          exact ⟨expired, rfl, Nat.le_refl _⟩
      | idle =>
          refine ⟨?_, rfl, Nat.le_refl _⟩
          change engine.countdown - 1 = 0
          rw [expired]
      | process =>
          have released := released_due sound cleared
          refine engine.leaves_process.mono ?_
          intro left same
          obtain ⟨countdown, finish, -⟩ := kept left (released.onward.leftBy same)
          refine ⟨countdown, finish, ?_⟩
          have one : [Request.perform .process].count (.perform .process) = 1 := rfl
          rw [same.ring, released.moved.occupied, one]
          by_cases busy : 0 < engine.ring.occupied
          · have some := due_pos_of_releasesIdle serving busy expired moves fits
            omega
          · omega
      | flush => exact (onward_flush sound).mono kept
      | drain => exact (onward_drain sound cleared).mono kept
  | setIdleTicks ticks => contradiction
  | count counts => exact ⟨expired, rfl, Nat.le_refl _⟩

/-- Each call to process takes one bin at least from an engine that is not roused. -/
theorem occupied_wanes {σ ε : Type} (valid : settings.Valid) (moves : settings.ReleasesIdle)
    (serving : Serving settings engine) (expired : engine.countdown = 0)
    (fits : engine.ring.finish * settings.layout.coarseWidth ≤ clockEnd) (sink : Sink σ ε)
    (state : σ) {requests : List Request} (quiet : ∀ request ∈ requests, request.rouses = false) :
    let left := (engine.serve sink state requests).1
    left.ring.Sound ∧
      left.ring.occupied ≤ engine.ring.occupied - requests.count (.perform .process) := by
  induction requests generalizing engine state with
  | nil => exact ⟨serving.standing.sound, Nat.le_refl _⟩
  | cons request rest induction =>
      have after := (serving.leaves valid request).run sink state
      obtain ⟨stillExpired, finish, fewer⟩ := (leaves_waning moves serving expired fits
        (quiet request List.mem_cons_self)).run sink state
      rw [← finish] at fits
      obtain ⟨sound, last⟩ := induction after stillExpired fits
        ((engine.plan request).run sink state).2.1
        fun other member => quiet other (List.mem_cons_of_mem request member)
      refine ⟨sound, Nat.le_trans last ?_⟩
      have counted : (request :: rest).count (Request.perform .process) =
          [request].count (.perform .process) + rest.count (.perform .process) := by
        rw [← List.count_append, List.singleton_append]
      rw [counted]
      omega

variable {σ ε τ δ : Type}

/-- Once the wait for input is over, processing moves the base on by a bin exactly if
there is more than the lag and a bin, or if the settings let an idle engine release
anything.  If they do, calls to process empty the bins while no input arrives; if
neither holds, a call does nothing at all. -/
theorem idle_progress_iff (valid : settings.Valid) (sink : Sink σ ε) (state : σ)
    (requests : List Request) (consumer : Sink τ δ) (answers : τ) :
    let engine := ((ofSettings settings).serve sink state requests).1
    let left := (engine.process.plan.run consumer answers).1
    let width := settings.layout.coarseWidth
    let lagging := settings.detector.eventLag + width < engine.ring.span
    engine.ring.isEmpty = false → engine.idleTicks ≤ Request.idleFor requests →
    engine.ring.base + width ≤ clockEnd →
      (engine.ring.base + width ≤ left.ring.base ↔ lagging ∨ settings.ReleasesIdle) ∧
      (settings.ReleasesIdle → engine.ring.base + engine.ring.span ≤ clockEnd →
        ∀ later : List Request, (∀ request ∈ later, request.rouses = false) →
          engine.ring.occupied ≤ later.count (.perform .process) →
          (engine.serve consumer answers later).1.ring.isEmpty) ∧
      (¬(lagging ∨ settings.ReleasesIdle) →
        engine.process = { products := [], plan := .done engine }) := by
  intro engine left width lagging some waited fits
  have serving : Serving settings engine := serving_serve valid sink state requests
  have sound := serving.standing.sound
  have busy := sound.isEmpty_eq_false_iff.mp some
  have expired : engine.countdown = 0 := by
    have counted : engine.countdown = engine.idleTicks - Request.idleFor requests :=
      countdown_served valid sink state requests
    omega
  refine ⟨?_, ?_, ?_⟩
  · obtain ⟨moved, -⟩ := serving.process consumer answers
    have positive : 0 < width := settings.layout.coarseWidth_pos
    have base : left.ring.base = engine.ring.base + width * engine.dueBins := by
      rw [moved.base_eq sound, serving.standing.laidOut]
    rw [← due_pos_iff serving busy expired (by omega), base, Nat.add_le_add_iff_left]
    exact le_mul_iff_one_le_right positive
  · intro moves ends later quiet enough
    obtain ⟨stillSound, fewer⟩ := occupied_wanes valid moves serving expired
      (serving.standing.finish_le ends) consumer answers quiet
    rw [stillSound.isEmpty_iff]
    omega
  · intro stuck
    obtain ⟨near, never⟩ := not_or.mp stuck
    exact process_of_stuck serving busy expired near never

/-- Clusters of bins that are no longer than the idle span get on, and two calls empty
two bins. -/
theorem idle_bins_released :
    let settings : Settings :=
      { detector := { idleMillis := 17 }
        clustering := { lanes := 2 }
        layout := { coarseBits := 4, fineWidthBits := 20, fineBits := 4 } }
    let requests : List Request :=
      [.perform (.ingest [.neutron 100 5 5 1, .neutron 20000000 6 6 1] 100), .perform .idle]
    let sink := Recording.sink fun _ => false
    let engine := ((ofSettings settings).serve sink {} requests).1
    let left := (engine.process.plan.run sink {}).1
    settings.Valid ∧ settings.ReleasesIdle ∧ engine.ring.isEmpty = false ∧
      engine.idleTicks ≤ Request.idleFor requests ∧
      engine.ring.base + settings.layout.coarseWidth ≤ clockEnd ∧
      engine.ring.base + settings.layout.coarseWidth ≤ left.ring.base ∧
      (engine.serve sink {}
        [.perform .process, .perform .idle, .perform .process]).1.ring.isEmpty := by
  intro settings requests sink engine left
  have valid : settings.Valid := by decide
  have moves : settings.ReleasesIdle := by decide
  have busy : engine.ring.isEmpty = false := by decide +kernel
  have waited : engine.idleTicks ≤ Request.idleFor requests := by decide +kernel
  have fits : engine.ring.base + settings.layout.coarseWidth ≤ clockEnd := by decide +kernel
  have stop : engine.ring.base + engine.ring.span ≤ clockEnd := by decide +kernel
  have quiet : ∀ request ∈ [Request.perform .process, .perform .idle, .perform .process],
      request.rouses = false := by decide
  have enough : engine.ring.occupied ≤
      [Request.perform .process, .perform .idle, .perform .process].count (.perform .process) := by
    decide +kernel
  refine ⟨valid, moves, busy, waited, fits, ?_⟩
  unfold left
  unfold engine at busy waited fits stop enough ⊢
  obtain ⟨moved, emptied, -⟩ :=
    idle_progress_iff valid sink {} requests sink {} busy waited fits
  exact ⟨moved.mpr (Or.inr moves), emptied moves stop _ quiet enough⟩

/-- A neutron that waits in a bin longer than the idle span is not released, though the
wait for input is over and time may be released. -/
theorem short_idle_span_stalls :
    let settings : Settings :=
      { detector := { idleMillis := 10 }
        clustering := { lanes := 1 }
        layout := { coarseBits := 4, fineWidthBits := 20, fineBits := 4 } }
    let requests : List Request :=
      [.perform (.ingest [.neutron 100 5 5 1] 100), .perform .idle]
    let sink := Recording.sink fun _ => false
    let engine := ((ofSettings settings).serve sink {} requests).1
    let left := (engine.process.plan.run sink {}).1
    settings.Valid ∧ engine.ring.isEmpty = false ∧
      engine.idleTicks ≤ Request.idleFor requests ∧
      engine.ring.base + settings.layout.coarseWidth ≤ clockEnd ∧
      engine.blockSpan = 10000000 ∧
      ¬engine.ring.base + settings.layout.coarseWidth ≤ left.ring.base := by
  intro settings requests sink engine left
  have busy : engine.ring.isEmpty = false := by decide +kernel
  have waited : engine.idleTicks ≤ Request.idleFor requests := by decide +kernel
  have due : engine.blockSpan = 10000000 := by decide +kernel
  have base : engine.ring.base = 0 ∧ left.ring.base = 0 := by decide +kernel
  refine ⟨by decide, busy, waited, ?_, due, ?_⟩
  · rw [base.1]
    decide
  · rw [base.1, base.2]
    decide

end Engine

end EventFormation
