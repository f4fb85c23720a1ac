import EventFormation.Proofs.FrameQueue
import EventFormation.Proofs.RouterCounts

/-!
# Frames in a stream of blocks

Against frames it does not matter to a router how a stream of readouts is cut into
blocks, nor when the sink is flushed.  If the frames of the stream come in the order
of time and its neutrons in that of fine bins, and no frame comes after a neutron
that it lies far enough before, every neutron is measured against the latest such
frame that has been seen or, if there is none, against the first frame that has been.
-/

namespace EventFormation

/-- Frames come in the order of time and neutrons in that of fine bins, and no frame
comes after a neutron that it lies far enough before. -/
structure Readout.Timely (width delay : Nat) (readouts : List Readout) : Prop where
  frames : (Readout.frames readouts).Pairwise (· ≤ ·)
  neutrons : (readouts.filter Readout.isNeutron).Pairwise fun earlier later =>
    earlier.time.toNat / width * width ≤ later.time.toNat / width * width
  prompt : readouts.Pairwise fun earlier later => earlier.isNeutron = true →
    later.isFrame = true → earlier.time.toNat / width * width < later.time.toNat + delay

namespace Readout

variable {width delay : Nat} {readouts : List Readout}

instance : Decidable (Timely width delay readouts) :=
  decidable_of_iff
    ((frames readouts).Pairwise (· ≤ ·) ∧
      ((readouts.filter isNeutron).Pairwise fun earlier later =>
        earlier.time.toNat / width * width ≤ later.time.toNat / width * width) ∧
      readouts.Pairwise fun earlier later => earlier.isNeutron = true →
        later.isFrame = true → earlier.time.toNat / width * width < later.time.toNat + delay)
    ⟨fun ⟨frames, neutrons, prompt⟩ => ⟨frames, neutrons, prompt⟩,
      fun ⟨frames, neutrons, prompt⟩ => ⟨frames, neutrons, prompt⟩⟩

theorem Timely.ordered (timely : Timely width delay readouts) :
    readouts.Pairwise fun earlier later => earlier.isNeutron = true →
      later.InTime width delay (earlier.time.toNat / width * width) := by
  have neutrons := List.pairwise_filter.mp timely.neutrons
  apply (neutrons.and timely.prompt).imp
  rintro earlier later ⟨notBefore, prompt⟩ neutron
  exact ⟨notBefore neutron, prompt neutron⟩

theorem inTime_zero (some : 0 < delay) (readout : Readout) : readout.InTime width delay 0 := by
  constructor
  · intro _
    exact Nat.zero_le _
  · intro _
    exact Nat.add_pos_right _ some

end Readout

namespace Detector

theorem fails_iff {detector : Detector} {readout : Readout} (neutron : readout.isNeutron = true)
    (frame : Option Nat) : detector.fails frame readout = true ↔
      frame = none ∨ (∃ start ∈ frame, readout.time.toNat < start) ∨
        detector.pixel? readout.x readout.y = none := by
  have kind : readout.kind = .neutron := by simpa [Readout.isNeutron] using neutron
  simp only [fails, kind, Option.isNone_iff_eq_none, flight?, neutron, true_and]
  cases frame with
  | none => simp
  | some start =>
      cases detector.pixel? readout.x readout.y with
      | none => simp
      | some pixel => simp

end Detector

namespace Router

variable {router : Router}

theorem detector_route (router : Router) (base : Nat) (readouts : List Readout) :
    (router.route base readouts).result.detector = router.detector := by
  unfold route
  split
  · rfl
  · rw [Plan.result_andThen, (routing_routeAll _ readouts).detector]
    exact (faithful_openBlock router base readouts).result.1

/-- Whatever has been asked of a router, the pulse in use is the latest one that the sink
has been told of. -/
theorem keeps_planAll (router : Router) (steps : List RouterStep) :
    let plan := router.planAll steps
    plan.result.detector = router.detector ∧ plan.result.fineWidth = router.fineWidth ∧
      plan.result.pulse = SinkCall.lastPulse router.pulse plan.calls := by
  induction steps generalizing router with
  | nil => exact ⟨rfl, rfl, rfl⟩
  | cons step rest induction =>
      obtain ⟨detector, fineWidth, pulse⟩ := induction (router.plan step).result
      have first : (router.plan step).result.detector = router.detector ∧
          (router.plan step).result.fineWidth = router.fineWidth ∧
          (router.plan step).result.pulse =
            SinkCall.lastPulse router.pulse (router.plan step).calls := by
        cases step with
        | route base readouts =>
            exact ⟨detector_route router base readouts, fineWidth_route router base readouts,
              pulse_route router base readouts⟩
        | flush => exact ⟨rfl, rfl, rfl⟩
        | resetFrames => exact ⟨rfl, rfl, rfl⟩
      rw [planAll]
      refine ⟨?_, ?_, ?_⟩
      · rw [Plan.result_andThen, detector, first.1]
      · rw [Plan.result_andThen, fineWidth, first.2.1]
      · rw [Plan.result_andThen, Plan.calls_andThen, SinkCall.lastPulse_append, pulse, first.2.2]

/-- Against frames a stream of blocks is routed readout by readout, flushes aside. -/
theorem planAll_of_frameMode {steps : List RouterStep}
    (frameMode : router.detector.frameMode = true) (stays : .resetFrames ∉ steps) :
    (router.planAll steps).calls.filter (· ≠ .flush) =
        (router.routeAll (steps.flatMap RouterStep.handed)).calls ∧
      (router.planAll steps).result.settle =
        (router.routeAll (steps.flatMap RouterStep.handed)).result.settle := by
  induction steps generalizing router with
  | nil => exact ⟨rfl, rfl⟩
  | cons step rest induction =>
      rw [List.mem_cons, not_or] at stays
      obtain ⟨other, staysRest⟩ := stays
      rw [List.flatMap_cons, planAll, Plan.calls_andThen, Plan.result_andThen, List.filter_append]
      cases step with
      | route base readouts =>
          have block : router.plan (.route base readouts) = router.routeAll readouts :=
            route_of_frameMode frameMode base readouts
          have routing := routing_routeAll router readouts
          have quiet : (router.routeAll readouts).calls.filter (· ≠ .flush) =
              (router.routeAll readouts).calls := by
            apply List.filter_eq_self.mpr
            intro call member
            have noFlush : call ≠ .flush := fun same => routing.quiet (same ▸ member)
            simpa using noFlush
          obtain ⟨calls, settled⟩ := induction (by rwa [routing.detector]) staysRest
          rw [block, quiet, calls, settled, RouterStep.handed, calls_routeAll_append,
            result_routeAll_append]
          exact ⟨rfl, rfl⟩
      | flush =>
          have flushed : router.flush.result.settle = router.settle := rfl
          have alike := alike_routeAll flushed (rest.flatMap RouterStep.handed)
          have sameMode : router.flush.result.detector.frameMode = true := frameMode
          obtain ⟨calls, settled⟩ := induction sameMode staysRest
          exact ⟨calls.trans alike.calls, settled.trans alike.settle⟩
      | resetFrames => exact absurd rfl other

/-- Nothing has been asked of a router, or its frames were forgotten last. -/
def Forgetful (steps : List RouterStep) : Prop :=
  steps = [] ∨ steps.getLast? = some .resetFrames

instance (steps : List RouterStep) : Decidable (Forgetful steps) :=
  inferInstanceAs (Decidable (_ ∨ _))

theorem forgotten_planAll (detector : Detector) (fineWidth : Nat) {steps : List RouterStep}
    (forgetful : Forgetful steps) :
    let router := ((create detector fineWidth).planAll steps).result
    router.frame = none ∧ router.queue = [] ∧ router.horizon = 0 := by
  rcases forgetful with rfl | last
  · exact ⟨rfl, rfl, rfl⟩
  · obtain ⟨earlier, rfl⟩ := List.getLast?_eq_some_iff.mp last
    rw [planAll_append, Plan.result_andThen]
    exact ⟨rfl, rfl, rfl⟩

theorem follows_of_forgotten (frameMode : router.detector.frameMode = true)
    (wide : 0 < router.fineWidth) (unused : router.frame = none) (empty : router.queue = [])
    (unlooked : router.horizon = 0) {readouts : List Readout}
    (timely : Readout.Timely router.fineWidth router.delay readouts) :
    FollowsAll [] readouts router (router.routeAll readouts) := by
  have aligned : router.Aligned := by
    intro _ start used
    rw [unused] at used
    contradiction
  have inUse : router.InUse (Readout.frames []) := ⟨unused, empty⟩
  apply follows_routeAll frameMode aligned inUse timely.frames
  · exact timely.ordered
  · intro readout _
    rw [unlooked]
    exact readout.inTime_zero (Nat.add_pos_right _ wide)

/-- What has been seen of a timely stream is in order, so the latest frame in use is the
greatest one. -/
theorem latest_eq_of_timely {width delay : Nat} {readouts : List Readout}
    (timely : Readout.Timely width delay readouts) {entry : List Readout × Readout}
    (member : entry ∈ withPast [] readouts) (floor : Nat) :
    latest delay floor (Readout.frames entry.1) =
      frameFor delay floor (Readout.frames entry.1) (Readout.frames entry.1).head? := by
  obtain ⟨past, later, split, first⟩ := mem_withPast member
  rw [List.nil_append] at first
  have sorted := timely.frames
  rw [split, Readout.frames_append, ← first] at sorted
  exact latest_eq_frameFor (List.pairwise_append.mp sorted).1 fun _ _ => Iff.rfl

theorem frameFor_head?_eq_none_iff {delay floor : Nat} {frames : List Nat} :
    frameFor delay floor frames frames.head? = none ↔ frames = [] := by
  rw [frameFor, Option.or_eq_none_iff, List.head?_eq_none_iff]
  constructor
  · exact And.right
  · rintro rfl
    exact ⟨rfl, rfl⟩

/-- Since its frames were last forgotten, a router has measured every neutron of a
timely stream against the latest frame seen that lies far enough before its fine bin or,
if there is none, against the first frame seen.  That frame is the latest pulse that the
sink has been told of.  A neutron is an error only if no frame has been seen, if it comes
before its frame, or if it has no pixel.  The frames after the first one that do not lie
far enough before the latest fine bin of a neutron are waiting. -/
theorem stream_measured {detector : Detector} (frameMode : detector.frameMode = true)
    (fineWidthBits : Nat) {earlier steps : List RouterStep} (forgetful : Forgetful earlier)
    (stays : .resetFrames ∉ steps)
    (timely : Readout.Timely (2 ^ fineWidthBits) (detector.minFlight + 2 ^ fineWidthBits)
      (steps.flatMap RouterStep.handed)) :
    let width := 2 ^ fineWidthBits
    let delay := detector.minFlight + width
    let floor := fun readout : Readout => readout.time.toNat / width * width
    let before := (create detector width).planAll earlier
    let during := before.result.planAll steps
    let readouts := steps.flatMap RouterStep.handed
    let frame := fun entry : List Readout × Readout =>
      frameFor delay (floor entry.2) (Readout.frames entry.1) (Readout.frames entry.1).head?
    SinkCall.flights (SinkCall.lastPulse none before.calls) during.calls =
        (withPast [] readouts).filterMap (fun entry => detector.flight? (frame entry) entry.2) ∧
      during.result.counts.errors = before.result.counts.errors +
        (withPast [] readouts).countP (fun entry => detector.fails (frame entry) entry.2) ∧
      (∀ entry : List Readout × Readout, entry.2.isNeutron = true →
        (detector.fails (frame entry) entry.2 = true ↔ Readout.frames entry.1 = [] ∨
          (∃ start ∈ frame entry, entry.2.time.toNat < start) ∨
          detector.pixel? entry.2.x entry.2.y = none)) ∧
      during.result.queue.length = (Readout.frames readouts).tail.countP fun start =>
        ((readouts.filter Readout.isNeutron).map floor).foldl max 0 < start + delay := by
  intro width delay floor before during readouts frame
  obtain ⟨sameDetector, fineWidth, pulse⟩ := keeps_planAll (create detector width) earlier
  obtain ⟨unused, empty, unlooked⟩ := forgotten_planAll detector width forgetful
  change before.result.detector = detector at sameDetector
  change before.result.fineWidth = width at fineWidth
  change before.result.pulse = SinkCall.lastPulse none before.calls at pulse
  change before.result.frame = none at unused
  change before.result.queue = [] at empty
  change before.result.horizon = 0 at unlooked
  have sameDelay : before.result.delay = delay := by rw [Router.delay, sameDetector, fineWidth]
  have sameFloor (time : Nat) : before.result.floor time = time / width * width := by
    rw [Router.floor, fineWidth]
  have framesUsed : before.result.detector.frameMode = true := by rwa [sameDetector]
  have wide : 0 < before.result.fineWidth := by
    rw [fineWidth]
    exact Nat.two_pow_pos fineWidthBits
  obtain ⟨horizon, inUse, told, errors⟩ : FollowsAll [] readouts before.result
      (before.result.routeAll readouts) := by
    apply follows_of_forgotten framesUsed wide unused empty unlooked
    rwa [fineWidth, sameDelay]
  simp only [sameDetector, sameDelay, sameFloor] at horizon told errors
  obtain ⟨calls, settled⟩ := planAll_of_frameMode framesUsed stays
  refine ⟨?_, ?_, ?_, ?_⟩
  · rw [← pulse, ← SinkCall.flights_filter]
    refine (congrArg _ calls).trans (told.trans (List.filterMap_congr ?_))
    intro entry member
    rw [latest_eq_of_timely timely member]
  · have counted : during.result.counts.errors =
        (before.result.routeAll readouts).result.counts.errors :=
      congrArg (fun router => router.counts.errors) settled
    refine counted.trans (errors.trans (congrArg (_ + ·) (List.countP_congr ?_)))
    intro entry member
    rw [latest_eq_of_timely timely member]
  · intro entry neutron
    have unseen : frame entry = none ↔ Readout.frames entry.1 = [] := frameFor_head?_eq_none_iff
    rw [Detector.fails_iff neutron, unseen]
  · have waits : during.result.queue = (before.result.routeAll readouts).result.queue :=
      congrArg (fun router => router.queue) settled
    have lasting : (before.result.routeAll readouts).result.delay = delay := by
      rw [Router.delay, (routing_routeAll _ _).detector, fineWidth_routeAll, sameDetector, fineWidth]
    rw [waits, inUse.queue, waiting, lasting, horizon, unlooked, List.countP_eq_length_filter]
    rfl

/-- The first frame since frames were forgotten is the pulse that the sink still knows, one
frame is skipped, and one still waits at the end.  A neutron without a frame, one before
its frame and one without a pixel are not told. -/
theorem skipped_frame_measured :
    let detector : Detector := { frameMode := true, minFlight := 10 }
    let earlier : List RouterStep :=
      [.route 0 [.marker .frameStart 100 0, .neutron 140 5 5 0], .flush, .resetFrames]
    let steps : List RouterStep :=
      [.route 0 [.neutron 40 5 5 0, .marker .frameStart 100 0, .neutron 90 5 5 0,
          .marker .frameStart 130 0, .marker .frameStart 160 0, .neutron 150 5 5 0],
        .flush,
        .route 0 [.neutron 200 7 7 0, .marker .frameStart 180 0, .marker .frameStart 300 0,
          .neutron 207 2000 5 0, .neutron 223 5 5 0]]
    let readouts := steps.flatMap RouterStep.handed
    let before := (create detector 16).planAll earlier
    let during := before.result.planAll steps
    detector.frameMode = true ∧ Forgetful earlier ∧ .resetFrames ∉ steps ∧
      Readout.Timely 16 26 readouts ∧
      during.calls.filter (fun call => call matches .pulse _) = [.pulse 160, .pulse 180] ∧
      SinkCall.flights (SinkCall.lastPulse none before.calls) during.calls =
        [(some 100, 50, 5125), (some 160, 40, 7175), (some 180, 43, 5125)] ∧
      (withPast [] readouts).filterMap (fun entry =>
          detector.flight? (frameFor 26 (entry.2.time.toNat / 16 * 16) (Readout.frames entry.1)
            (Readout.frames entry.1).head?) entry.2) =
        [(some 100, 50, 5125), (some 160, 40, 7175), (some 180, 43, 5125)] ∧
      during.result.counts.errors = before.result.counts.errors + 3 ∧
      during.result.queue.length = 1 := by
  intro detector earlier steps readouts before during
  have forgetful : Forgetful earlier := by decide
  have stays : .resetFrames ∉ steps := by decide
  have timely : Readout.Timely 16 26 readouts := by decide +kernel
  have pulses : during.calls.filter (fun call => call matches .pulse _) =
      [.pulse 160, .pulse 180] := by
    decide +kernel
  have told : SinkCall.flights (SinkCall.lastPulse none before.calls) during.calls =
      [(some 100, 50, 5125), (some 160, 40, 7175), (some 180, 43, 5125)] := by
    decide +kernel
  have errors : during.result.counts.errors = before.result.counts.errors + 3 := by
    decide +kernel
  have late : ((Readout.frames readouts).tail.countP fun start =>
      ((readouts.filter Readout.isNeutron).map fun readout =>
        readout.time.toNat / 16 * 16).foldl max 0 < start + 26) = 1 := by
    decide +kernel
  have framesUsed : detector.frameMode = true := rfl
  obtain ⟨flights, -, -, waits⟩ := stream_measured framesUsed 4 forgetful stays timely
  exact ⟨framesUsed, forgetful, stays, timely, pulses, told, flights.symm.trans told, errors,
    waits.trans late⟩

end Router

end EventFormation
