import EventFormation.Proofs.RouterRefusals

/-!
# The queue of frames

Against frames the router looks at its queue when a neutron lies in a later fine
bin than those before it, and puts the last of the frames that lie far enough
before that bin into use.  Suppose that the readouts come in the order in which
fine bins are worked off, and frames in the order of time.  Then every neutron is
measured against the latest such frame of all that have been routed, or, if there
is none, against the first frame that has been.
-/

namespace EventFormation

namespace SinkCall

/-- What is told of neutrons, each with the latest pulse before it. -/
def flights (pulse : Option Nat) : List SinkCall → List (Option Nat × Nat × UInt32)
  | [] => []
  | .pulse time :: rest => flights (some time) rest
  | .neutron flight pixel :: rest => (pulse, flight, pixel) :: flights pulse rest
  | _ :: rest => flights pulse rest

theorem lastPulse_cons (pulse : Option Nat) (call : SinkCall) (rest : List SinkCall) :
    lastPulse pulse (call :: rest) = lastPulse (call.pulseAfter pulse) rest := by
  cases call <;> rfl

theorem flights_append (pulse : Option Nat) (earlier later : List SinkCall) :
    flights pulse (earlier ++ later) =
      flights pulse earlier ++ flights (lastPulse pulse earlier) later := by
  induction earlier generalizing pulse with
  | nil => rfl
  | cons call rest induction =>
      cases call with
      | neutron flight pixel => exact congrArg (_ :: ·) (induction _)
      | _ => exact induction _

theorem flights_filter (pulse : Option Nat) (calls : List SinkCall) :
    flights pulse (calls.filter (· ≠ .flush)) = flights pulse calls := by
  induction calls generalizing pulse with
  | nil => rfl
  | cons call rest induction =>
      cases call with
      | neutron flight pixel => exact congrArg (_ :: ·) (induction _)
      | _ => exact induction _

end SinkCall

namespace Plan

variable {plan : Plan Router} {detector : Detector} {readout : Option Readout}
  {pulse : Option Nat}

theorem Faithful.result (faithful : plan.Faithful detector readout pulse) :
    plan.result.detector = detector ∧
      plan.result.pulse = SinkCall.lastPulse pulse plan.calls := by
  induction plan generalizing pulse with
  | done after => exact faithful
  | tell call left rest induction =>
      rw [calls, SinkCall.lastPulse_cons]
      exact induction faithful.2

theorem Aligned.result (aligned : plan.Aligned) : plan.result.Aligned := by
  induction plan with
  | done after => exact aligned
  | tell call left rest induction => exact induction aligned.2

end Plan

namespace Readout

/-- Whether the readout is a primary frame start. -/
def isFrame (readout : Readout) : Bool :=
  readout.kind == .frameStart

/-- The times of the frame starts among readouts. -/
def frames (readouts : List Readout) : List Nat :=
  (readouts.filter isFrame).map fun readout => readout.time.toNat

/-- The number of the fine bin with which a readout is put out.  A neutron stands
for a cluster, which is closed with the bin after the one that it starts in. -/
def due (width : Nat) (readout : Readout) : Nat :=
  if readout.isNeutron then readout.time.toNat / width + 1 else readout.time.toNat / width

/-- The frames of each fine bin come in the order of time. -/
def FramesInOrder (width : Nat) (readouts : List Readout) : Prop :=
  (readouts.filter isFrame).Pairwise fun first second =>
    first.time.toNat / width = second.time.toNat / width → first.time.toNat ≤ second.time.toNat

instance (width : Nat) (readouts : List Readout) : Decidable (FramesInOrder width readouts) :=
  inferInstanceAs (Decidable (List.Pairwise _ _))

/-- The readout comes in time for a router that has looked at its queue up to a fine
bin: as a neutron it does not lie in an earlier one, and as a frame it does not lie far
enough before that one. -/
structure InTime (width delay horizon : Nat) (readout : Readout) : Prop where
  neutron : readout.isNeutron = true → horizon ≤ readout.time.toNat / width * width
  frame : readout.isFrame = true → horizon < readout.time.toNat + delay

/-- What is put out with a later fine bin comes in time. -/
theorem inTime_of_ahead {width delay horizon : Nat} {readout : Readout} (wide : 0 < width)
    (least : width ≤ delay) (ahead : horizon ≤ (readout.due width - 1) * width) :
    readout.InTime width delay horizon := by
  constructor
  · intro neutron
    simpa [due, neutron] using ahead
  · intro frame
    have other : readout.isNeutron = false := by
      have kind : readout.kind = .frameStart := by simpa [isFrame] using frame
      simp [isNeutron, kind]
    have due : readout.due width = readout.time.toNat / width := by simp [due, other]
    rw [due] at ahead
    -- The horizon is at most one bin ahead of the frame, which is less than the delay.
    have before : (readout.time.toNat / width - 1) * width ≤ readout.time.toNat :=
      Nat.le_trans (Nat.mul_le_mul_right _ (Nat.sub_le _ _)) (Nat.div_mul_le_self _ _)
    omega

theorem frames_append (earlier later : List Readout) :
    frames (earlier ++ later) = frames earlier ++ frames later := by
  rw [frames, List.filter_append, List.map_append]
  rfl

theorem mem_frames {time : Nat} {readouts : List Readout} :
    time ∈ frames readouts ↔
      ∃ readout ∈ readouts, readout.isFrame = true ∧ readout.time.toNat = time := by
  simp [frames, and_assoc]

end Readout

/-- Elements, each with those that come before it. -/
def withPast {α : Type} (past : List α) : List α → List (List α × α)
  | [] => []
  | first :: rest => (past, first) :: withPast (past ++ [first]) rest

theorem mem_withPast {α : Type} {past list : List α} {entry : List α × α}
    (member : entry ∈ withPast past list) :
    ∃ before later, list = before ++ entry.2 :: later ∧ entry.1 = past ++ before := by
  induction list generalizing past with
  | nil => exact absurd member List.not_mem_nil
  | cons first rest induction =>
      rcases List.mem_cons.mp member with rfl | memberRest
      · exact ⟨[], rest, rfl, (List.append_nil past).symm⟩
      · obtain ⟨before, later, split, same⟩ := induction memberRest
        refine ⟨first :: before, later, ?_, ?_⟩
        · rw [split, List.cons_append]
        · rw [same, List.append_assoc, List.singleton_append]

/-- The latest of some frames that lies far enough before a fine bin or, if none
does, the one that has come first. -/
def frameFor (delay floor : Nat) (frames : List Nat) (first : Option Nat) : Option Nat :=
  (frames.filter fun frame => frame + delay ≤ floor).max?.or first

namespace Detector

variable (detector : Detector)

/-- What is told of a neutron that is measured against a frame: the frame, the time
after it and the pixel.  A neutron without one of these is not told. -/
def flight? (frame : Option Nat) (readout : Readout) : Option (Option Nat × Nat × UInt32) :=
  match frame, detector.pixel? readout.x readout.y with
  | some start, some pixel =>
    if readout.isNeutron ∧ start ≤ readout.time.toNat then
      some (some start, readout.time.toNat - start, pixel)
    else none
  | _, _ => none

/-- The readout is a neutron that is not told, or of a kind that has no route. -/
def fails (frame : Option Nat) (readout : Readout) : Bool :=
  match readout.kind with
  | .neutron => (detector.flight? frame readout).isNone
  | .frameDeassert | .veto | .invalid => true
  | _ => false

theorem flight?_of_not_isNeutron {readout : Readout} (other : readout.isNeutron = false)
    (frame : Option Nat) : detector.flight? frame readout = none := by
  unfold flight?
  split
  · rw [if_neg (by simp [other])]
  · rfl

theorem fails_of_not_isNeutron {readout : Readout} (other : readout.isNeutron = false)
    (frame : Option Nat) : detector.fails frame readout = detector.fails none readout := by
  cases kind : readout.kind with
  | neutron => simp [Readout.isNeutron, kind] at other
  | _ => simp only [fails, kind]

end Detector

namespace Router

/-- The frame that is in use for a fine bin when frames in the order of time have
been routed. -/
def latest (delay floor : Nat) (frames : List Nat) : Option Nat :=
  (frames.tail.filter fun frame => frame + delay ≤ floor).getLast?.or frames.head?

/-- The frames that are not in use yet. -/
def waiting (delay floor : Nat) (frames : List Nat) : List Nat :=
  frames.tail.filter fun frame => floor < frame + delay

theorem filter_late_of_first {delay floor front : Nat} {rest : List Nat}
    (late : floor < front + delay) (after : ∀ frame ∈ rest, front ≤ frame) :
    (rest.filter fun frame => frame + delay ≤ floor) = [] ∧
      (rest.filter fun frame => floor < frame + delay) = rest := by
  rw [List.filter_eq_nil_iff, List.filter_eq_self]
  constructor
  · intro frame member
    have ordered := after frame member
    simp only [decide_eq_true_eq]
    omega
  · intro frame member
    have ordered := after frame member
    simp only [decide_eq_true_eq]
    omega

/-- Frames in order are taken out of the queue up to the first one that is late. -/
theorem shiftQueue_of_sorted {queue : List Nat} (sorted : queue.Pairwise (· ≤ ·))
    (delay floor : Nat) (frame : Option Nat) :
    shiftQueue delay floor frame queue =
      ((queue.filter fun frame => frame + delay ≤ floor).getLast?.or frame,
        queue.filter fun frame => floor < frame + delay) := by
  induction queue generalizing frame with
  | nil => rfl
  | cons front rest induction =>
      obtain ⟨after, sortedRest⟩ := List.pairwise_cons.mp sorted
      by_cases early : front + delay ≤ floor
      · have taken : ¬floor < front + delay := Nat.not_lt.mpr early
        rw [shiftQueue, if_pos early, induction sortedRest, List.filter_cons_of_pos (by simpa),
          List.filter_cons_of_neg (by simpa), List.getLast?_cons, Option.some_or]
        generalize (rest.filter fun frame => frame + delay ≤ floor).getLast? = last
        cases last <;> rfl
      · have late : floor < front + delay := Nat.lt_of_not_le early
        obtain ⟨none, all⟩ := filter_late_of_first late after
        rw [shiftQueue, if_neg early, List.filter_cons_of_neg (by simpa), none,
          List.filter_cons_of_pos (by simpa), all]
        rfl

/-- Frames that are far enough before a bin are so before every later one. -/
theorem filter_early_append {frames : List Nat} (sorted : frames.Pairwise (· ≤ ·)) (delay : Nat)
    {floor later : Nat} (ordered : floor ≤ later) :
    (frames.filter fun frame => frame + delay ≤ later) =
      (frames.filter fun frame => frame + delay ≤ floor) ++
        (frames.filter fun frame => floor < frame + delay).filter
          fun frame => frame + delay ≤ later := by
  induction frames with
  | nil => rfl
  | cons front rest induction =>
      obtain ⟨after, sortedRest⟩ := List.pairwise_cons.mp sorted
      by_cases early : front + delay ≤ floor
      · have stillEarly : front + delay ≤ later := Nat.le_trans early ordered
        have taken : ¬floor < front + delay := Nat.not_lt.mpr early
        rw [List.filter_cons_of_pos (by simpa), List.filter_cons_of_pos (by simpa),
          List.filter_cons_of_neg (by simpa), List.cons_append, induction sortedRest]
      · have late : floor < front + delay := Nat.lt_of_not_le early
        obtain ⟨none, all⟩ := filter_late_of_first late after
        rw [List.filter_cons_of_neg (p := fun frame => decide (frame + delay ≤ floor)) (by simpa),
          List.filter_cons_of_pos (p := fun frame => decide (floor < frame + delay)) (by simpa),
          none, all]
        rfl

/-- What has been routed tells the frame in use from the queue. -/
structure InUse (frames : List Nat) (router : Router) : Prop where
  frame : router.frame = latest router.delay router.horizon frames
  queue : router.queue = waiting router.delay router.horizon frames

theorem InUse.shiftQueue {frames : List Nat} {router : Router} (inUse : router.InUse frames)
    (sorted : frames.Pairwise (· ≤ ·)) {floor : Nat} (ordered : router.horizon ≤ floor) :
    shiftQueue router.delay floor router.frame router.queue =
      (latest router.delay floor frames, waiting router.delay floor frames) := by
  have sortedTail : frames.tail.Pairwise (· ≤ ·) := sorted.sublist (List.tail_sublist frames)
  have sortedQueue : router.queue.Pairwise (· ≤ ·) := by
    rw [inUse.queue]
    exact sortedTail.filter _
  have stillWaiting : (router.queue.filter fun frame => floor < frame + router.delay) =
      waiting router.delay floor frames := by
    rw [inUse.queue, waiting, List.filter_filter]
    apply List.filter_congr
    intro frame _
    rw [← Bool.decide_and]
    exact decide_eq_decide.mpr (by omega)
  rw [shiftQueue_of_sorted sortedQueue, stillWaiting, inUse.frame, inUse.queue, latest,
    ← Option.or_assoc, waiting, ← List.getLast?_append, ← filter_early_append sortedTail _ ordered]
  rfl

theorem startPulse_cases (router : Router) (time : Nat) :
    (∃ pending, (router.startPulse time).result =
        { router with pulse := some time, pending }) ∧
      ∀ pulse, SinkCall.flights pulse (router.startPulse time).calls = [] := by
  unfold startPulse
  split
  · rename_i current
    refine ⟨⟨router.pending, ?_⟩, fun _ => rfl⟩
    rw [← current]
    rfl
  · exact ⟨⟨0, rfl⟩, fun _ => rfl⟩

theorem fineWidth_startPulse (router : Router) (time : Nat) :
    (router.startPulse time).result.fineWidth = router.fineWidth := by
  obtain ⟨⟨pending, result⟩, -⟩ := startPulse_cases router time
  rw [result]

theorem fineWidth_checkQueue (router : Router) (time : Nat) :
    (router.checkQueue time).result.fineWidth = router.fineWidth := by
  unfold checkQueue
  simp only
  split
  · split
    · split
      · exact fineWidth_startPulse _ _
      · rfl
    · rfl
  · rfl

theorem fineWidth_tellNeutron (router : Router) (readout : Readout) :
    (router.tellNeutron readout).result.fineWidth = router.fineWidth := by
  unfold tellNeutron
  split
  · rfl
  · rfl

theorem fineWidth_queueFrame (router : Router) (time : Nat) :
    (router.queueFrame time).result.fineWidth = router.fineWidth := by
  unfold queueFrame
  simp only
  split
  · split
    · exact fineWidth_startPulse _ _
    · rfl
  · rfl

theorem fineWidth_routeOne (router : Router) (readout : Readout) :
    (router.routeOne readout).result.fineWidth = router.fineWidth := by
  unfold routeOne
  cases readout.kind with
  | neutron =>
      simp only [routeNeutron]
      split
      · rw [Plan.result_andThen, fineWidth_tellNeutron, fineWidth_checkQueue]
      · exact fineWidth_tellNeutron router readout
  | frameStart =>
      simp only [routeFrame, Plan.result, Plan.result_andThen]
      exact fineWidth_queueFrame router _
  | _ => rfl

theorem fineWidth_routeAll (router : Router) (readouts : List Readout) :
    (router.routeAll readouts).result.fineWidth = router.fineWidth := by
  induction readouts generalizing router with
  | nil => rfl
  | cons readout rest induction =>
      rw [routeAll, Plan.result_andThen, induction, fineWidth_routeOne]

theorem fineWidth_route (router : Router) (base : Nat) (readouts : List Readout) :
    (router.route base readouts).result.fineWidth = router.fineWidth := by
  unfold route openBlock
  split
  · rfl
  · rw [Plan.result_andThen, fineWidth_routeAll]
    split
    · exact fineWidth_startPulse router _
    · rfl

theorem pulse_routeAll (router : Router) (readouts : List Readout) :
    (router.routeAll readouts).result.pulse =
      SinkCall.lastPulse router.pulse (router.routeAll readouts).calls := by
  induction readouts generalizing router with
  | nil => rfl
  | cons readout rest induction =>
      rw [routeAll, Plan.result_andThen, Plan.calls_andThen, SinkCall.lastPulse_append, induction,
        (faithful_routeOne router readout).result.2]

theorem pulse_route (router : Router) (base : Nat) (readouts : List Readout) :
    (router.route base readouts).result.pulse =
      SinkCall.lastPulse router.pulse (router.route base readouts).calls := by
  unfold route
  split
  · rfl
  · rw [Plan.result_andThen, Plan.calls_andThen, SinkCall.lastPulse_append, pulse_routeAll,
      (faithful_openBlock router base readouts).result.2]

variable {router : Router}

/-- What a look at the queue for a neutron leaves behind. -/
structure Looked (frames : List Nat) (floor : Nat) (router : Router) (plan : Plan Router) :
    Prop where
  delay : plan.result.delay = router.delay
  horizon : plan.result.horizon = floor
  counts : plan.result.counts = router.counts
  frame : plan.result.frame = latest router.delay floor frames
  queue : plan.result.queue = waiting router.delay floor frames
  silent : ∀ pulse, SinkCall.flights pulse plan.calls = []

theorem looked_checkQueue {frames : List Nat} (inUse : router.InUse frames)
    (sorted : frames.Pairwise (· ≤ ·)) {time : Nat} (ordered : router.horizon ≤ router.floor time) :
    Looked frames (router.floor time) router (router.checkQueue time) := by
  have shifted := inUse.shiftQueue sorted ordered
  unfold checkQueue
  simp only
  split
  · rw [shifted]
    simp only
    split
    · rename_i pulse same
      split
      · obtain ⟨⟨pending, result⟩, silent⟩ := startPulse_cases { router with
          horizon := router.floor time
          frame := latest router.delay (router.floor time) frames
          queue := waiting router.delay (router.floor time) frames } pulse
        refine ⟨?_, ?_, ?_, ?_, ?_, silent⟩
        · rw [result]
          rfl
        · rw [result]
        · rw [result]
        · rw [result, ← same]
        · rw [result]
      · exact ⟨rfl, rfl, rfl, rfl, rfl, fun _ => rfl⟩
    · exact ⟨rfl, rfl, rfl, rfl, rfl, fun _ => rfl⟩
  · rename_i same
    have horizon : router.horizon = router.floor time := by omega
    have frame := inUse.frame
    have queue := inUse.queue
    rw [horizon] at frame queue
    exact ⟨rfl, horizon, rfl, frame, queue, fun _ => rfl⟩

theorem told_tellNeutron (frameMode : router.detector.frameMode = true) (aligned : router.Aligned)
    {readout : Readout} (neutron : readout.isNeutron = true) :
    (∃ pending counts, (router.tellNeutron readout).result = { router with pending, counts } ∧
        counts.errors = router.counts.errors +
          if (router.detector.flight? router.frame readout).isNone then 1 else 0) ∧
      SinkCall.flights router.pulse (router.tellNeutron readout).calls =
        (router.detector.flight? router.frame readout).toList := by
  have reference : router.reference = router.frame := if_pos frameMode
  unfold tellNeutron event? Detector.flight?
  rw [reference]
  cases inUse : router.frame with
  | none => exact ⟨⟨_, _, rfl, rfl⟩, rfl⟩
  | some start =>
      have pulse : router.pulse = some start := aligned frameMode start inUse
      cases router.detector.pixel? readout.x readout.y with
      | none => exact ⟨⟨_, _, rfl, rfl⟩, rfl⟩
      | some pixel =>
          by_cases before : start ≤ readout.time.toNat
          · simp only [before, neutron, and_self, if_true]
            refine ⟨⟨_, _, rfl, rfl⟩, ?_⟩
            rw [pulse]
            rfl
          · simp only [before, and_false, if_false]
            exact ⟨⟨_, _, rfl, rfl⟩, rfl⟩

/-- What routing a readout does when others have been routed before it. -/
structure Follows (past : List Readout) (readout : Readout) (router : Router)
    (plan : Plan Router) : Prop where
  horizon : plan.result.horizon =
    if readout.isNeutron then router.floor readout.time.toNat else router.horizon
  inUse : plan.result.InUse (Readout.frames (past ++ [readout]))
  told : SinkCall.flights router.pulse plan.calls = (router.detector.flight?
    (latest router.delay (router.floor readout.time.toNat) (Readout.frames past)) readout).toList
  errors : plan.result.counts.errors = router.counts.errors + if router.detector.fails
    (latest router.delay (router.floor readout.time.toNat) (Readout.frames past)) readout
      then 1 else 0

variable {past : List Readout} {readout : Readout}

theorem frames_concat_of_not_isFrame (other : readout.isFrame = false) :
    Readout.frames (past ++ [readout]) = Readout.frames past := by
  simp [Readout.frames, other]

theorem follows_routeNeutron (frameMode : router.detector.frameMode = true)
    (aligned : router.Aligned) (inUse : router.InUse (Readout.frames past))
    (sorted : (Readout.frames past).Pairwise (· ≤ ·))
    (ordered : router.horizon ≤ router.floor readout.time.toNat)
    (kind : readout.kind = .neutron) :
    Follows past readout router (router.routeNeutron readout) := by
  have neutron : readout.isNeutron = true := by simp [Readout.isNeutron, kind]
  have noFrame : readout.isFrame = false := by simp [Readout.isFrame, kind]
  have looked := looked_checkQueue inUse sorted ordered
  obtain ⟨detector, pulse⟩ :=
    (faithful_checkQueue router (some readout) readout.time.toNat).result
  have alignedAfter := (aligned_checkQueue aligned readout.time.toNat).result
  have frameModeAfter :
      (router.checkQueue readout.time.toNat).result.detector.frameMode = true := by
    rwa [detector]
  obtain ⟨⟨pending, counts, result, errors⟩, told⟩ :=
    told_tellNeutron frameModeAfter alignedAfter neutron
  rw [detector, looked.frame] at errors told
  rw [looked.counts] at errors
  have routed : router.routeNeutron readout =
      (router.checkQueue readout.time.toNat).andThen (·.tellNeutron readout) := if_pos frameMode
  rw [routed]
  constructor
  · rw [Plan.result_andThen, result, if_pos neutron]
    exact looked.horizon
  · rw [Plan.result_andThen, result, frames_concat_of_not_isFrame noFrame]
    constructor
    · change (router.checkQueue _).result.frame = latest (router.checkQueue _).result.delay
        (router.checkQueue _).result.horizon _
      rw [looked.delay, looked.horizon, looked.frame]
    · change (router.checkQueue _).result.queue = waiting (router.checkQueue _).result.delay
        (router.checkQueue _).result.horizon _
      rw [looked.delay, looked.horizon, looked.queue]
  · rw [Plan.calls_andThen, SinkCall.flights_append, looked.silent, ← pulse, List.nil_append]
    exact told
  · rw [Plan.result_andThen, result]
    simpa only [Detector.fails, kind] using errors

theorem InUse.append {frames : List Nat} (inUse : router.InUse frames) {time : Nat}
    (late : router.horizon < time + router.delay) (some : frames ≠ []) :
    InUse (frames ++ [time]) { router with queue := router.queue ++ [time] } := by
  have waits : ¬time + router.delay ≤ router.horizon := Nat.not_le.mpr late
  constructor
  · change router.frame = latest router.delay router.horizon _
    rw [inUse.frame, latest, latest, List.tail_append_of_ne_nil some, List.filter_append,
      List.filter_cons_of_neg (by simpa), List.filter_nil, List.append_nil,
      List.head?_append_of_ne_nil _ some]
  · change router.queue ++ [time] = waiting router.delay router.horizon _
    rw [inUse.queue, waiting, waiting, List.tail_append_of_ne_nil some, List.filter_append,
      List.filter_cons_of_pos (by simpa), List.filter_nil]

theorem Follows.other {plan : Plan Router} (other : readout.isNeutron = false)
    (horizon : plan.result.horizon = router.horizon)
    (inUse : plan.result.InUse (Readout.frames (past ++ [readout])))
    (silent : SinkCall.flights router.pulse plan.calls = [])
    (errors : plan.result.counts.errors =
      router.counts.errors + if router.detector.fails none readout then 1 else 0) :
    Follows past readout router plan := by
  constructor
  · rw [horizon, if_neg (by simp [other])]
  · exact inUse
  · rw [silent, Detector.flight?_of_not_isNeutron _ other]
    rfl
  · rw [errors, Detector.fails_of_not_isNeutron _ other (latest _ _ _)]

theorem follows_routeFrame (frameMode : router.detector.frameMode = true)
    (inUse : router.InUse (Readout.frames past))
    (late : router.horizon < readout.time.toNat + router.delay)
    (kind : readout.kind = .frameStart) :
    Follows past readout router (router.routeFrame readout.time.toNat) := by
  have other : readout.isNeutron = false := by simp [Readout.isNeutron, kind]
  have frames : Readout.frames (past ++ [readout]) =
      Readout.frames past ++ [readout.time.toNat] := by
    simp [Readout.frames, Readout.isFrame, kind]
  have routes : router.detector.fails none readout = false := by simp [Detector.fails, kind]
  have frame := inUse.frame
  have queue := inUse.queue
  unfold routeFrame queueFrame
  rw [if_pos frameMode]
  by_cases first : Readout.frames past = []
  · -- The first frame is put into use at once.
    rw [first] at frame queue
    have unused : router.frame = none := frame
    have empty : router.queue = [] := queue
    obtain ⟨⟨pending, result⟩, silent⟩ := startPulse_cases
      { router with frame := some readout.time.toNat, queue := [] } readout.time.toNat
    simp only [unused, empty, List.nil_append]
    refine Follows.other other ?_ ?_ ?_ ?_
    · rw [Plan.result, Plan.result_andThen, result]
      rfl
    · rw [Plan.result, Plan.result_andThen, result, frames, first]
      exact ⟨rfl, rfl⟩
    · rw [Plan.calls, Plan.calls_andThen]
      simp [SinkCall.flights, silent, Plan.calls]
    · rw [Plan.result, Plan.result_andThen, result, routes]
      rfl
  · obtain ⟨front, rest, split⟩ := List.exists_cons_of_ne_nil first
    obtain ⟨start, used⟩ : ∃ start, router.frame = some start := by
      rw [frame, split, latest, List.head?_cons]
      generalize (List.filter _ _).getLast? = last
      cases last with
      | none => exact ⟨front, rfl⟩
      | some start => exact ⟨start, rfl⟩
    simp only [used]
    refine Follows.other other rfl ?_ rfl ?_
    · rw [frames]
      have waits := inUse.append late first
      exact ⟨used.symm.trans waits.frame, waits.queue⟩
    · rw [routes]
      rfl

theorem follows_routeOne (frameMode : router.detector.frameMode = true)
    (aligned : router.Aligned) (inUse : router.InUse (Readout.frames past))
    (sorted : (Readout.frames past).Pairwise (· ≤ ·))
    (inTime : readout.InTime router.fineWidth router.delay router.horizon) :
    Follows past readout router (router.routeOne readout) := by
  have same (noFrame : readout.isFrame = false) {counts : RouteCounts} :
      InUse (Readout.frames (past ++ [readout])) { router with counts } := by
    rw [frames_concat_of_not_isFrame noFrame]
    exact ⟨inUse.frame, inUse.queue⟩
  unfold routeOne
  cases kind : readout.kind with
  | neutron =>
      have ordered : router.horizon ≤ router.floor readout.time.toNat :=
        inTime.neutron (by simp [Readout.isNeutron, kind])
      exact follows_routeNeutron frameMode aligned inUse sorted ordered kind
  | frameStart =>
      have late : router.horizon < readout.time.toNat + router.delay :=
        inTime.frame (by simp [Readout.isFrame, kind])
      exact follows_routeFrame frameMode inUse late kind
  | auxFrameStart | beamMonitor | other | blank | frameDeassert | veto | invalid =>
      refine Follows.other (by simp [Readout.isNeutron, kind]) rfl
        (same (by simp [Readout.isFrame, kind])) rfl ?_
      simp [Plan.result, Detector.fails, kind]

/-- What routing readouts does when others have been routed before them. -/
structure FollowsAll (past rest : List Readout) (router : Router) (plan : Plan Router) :
    Prop where
  horizon : plan.result.horizon = ((rest.filter Readout.isNeutron).map fun readout =>
    router.floor readout.time.toNat).foldl max router.horizon
  inUse : plan.result.InUse (Readout.frames (past ++ rest))
  told : SinkCall.flights router.pulse plan.calls = (withPast past rest).filterMap fun entry =>
    router.detector.flight? (latest router.delay (router.floor entry.2.time.toNat)
      (Readout.frames entry.1)) entry.2
  errors : plan.result.counts.errors = router.counts.errors +
    (withPast past rest).countP fun entry =>
      router.detector.fails (latest router.delay (router.floor entry.2.time.toNat)
        (Readout.frames entry.1)) entry.2

/-- Readouts that come in time for each other, with frames in the order of time, are
measured against the latest frames. -/
theorem follows_routeAll {rest : List Readout} (frameMode : router.detector.frameMode = true)
    (aligned : router.Aligned) (inUse : router.InUse (Readout.frames past))
    (sorted : (Readout.frames (past ++ rest)).Pairwise (· ≤ ·))
    (ordered : rest.Pairwise fun earlier later => earlier.isNeutron = true →
      later.InTime router.fineWidth router.delay (router.floor earlier.time.toNat))
    (inTime : ∀ readout ∈ rest, readout.InTime router.fineWidth router.delay router.horizon) :
    FollowsAll past rest router (router.routeAll rest) := by
  induction rest generalizing router past with
  | nil =>
      rw [← List.append_nil past] at inUse
      exact ⟨rfl, inUse, rfl, rfl⟩
  | cons readout rest induction =>
      obtain ⟨orderedFirst, orderedRest⟩ := List.pairwise_cons.mp ordered
      obtain ⟨inTimeFirst, inTimeRest⟩ := List.forall_mem_cons.mp inTime
      have sortedPast : (Readout.frames past).Pairwise (· ≤ ·) := by
        rw [Readout.frames_append] at sorted
        exact (List.pairwise_append.mp sorted).1
      have follows := follows_routeOne frameMode aligned inUse sortedPast inTimeFirst
      obtain ⟨detector, pulse⟩ := (faithful_routeOne router readout).result
      have fineWidth := fineWidth_routeOne router readout
      have delay : (router.routeOne readout).result.delay = router.delay := by
        rw [Router.delay, Router.delay, detector, fineWidth]
      have floor (time : Nat) :
          (router.routeOne readout).result.floor time = router.floor time := by
        rw [Router.floor, Router.floor, fineWidth]
      have inTimeAfter : ∀ later ∈ rest,
          later.InTime router.fineWidth router.delay (router.routeOne readout).result.horizon := by
        intro later member
        rw [follows.horizon]
        split
        · exact orderedFirst later member ‹_›
        · exact inTimeRest later member
      have onward := induction (by rwa [detector]) (aligned_routeOne aligned readout).result
        follows.inUse (by rwa [List.append_assoc, List.singleton_append])
        (by simpa only [fineWidth, delay, floor] using orderedRest)
        (by simpa only [fineWidth, delay] using inTimeAfter)
      obtain ⟨horizonRest, inUseRest, toldRest, errorsRest⟩ := onward
      simp only [detector, pulse, delay, floor, follows.errors] at horizonRest toldRest errorsRest
      rw [routeAll]
      constructor
      · -- A neutron moves the horizon to its fine bin, which is no earlier one.
        rw [Plan.result_andThen, horizonRest, follows.horizon]
        by_cases neutron : readout.isNeutron = true
        · have onwards : router.horizon ≤ router.floor readout.time.toNat :=
            inTimeFirst.neutron neutron
          rw [if_pos neutron, List.filter_cons_of_pos neutron, List.map_cons, List.foldl_cons,
            Nat.max_eq_right onwards]
        · rw [if_neg neutron, List.filter_cons_of_neg neutron]
      · rw [Plan.result_andThen]
        rwa [List.append_assoc, List.singleton_append] at inUseRest
      · rw [Plan.calls_andThen, SinkCall.flights_append, toldRest, follows.told, withPast,
          List.filterMap_cons]
        simp only
        split
        · rename_i none
          rw [none]
          rfl
        · rename_i flight same
          rw [same]
          rfl
      · rw [Plan.result_andThen, errorsRest, withPast, List.countP_cons]
        exact (Nat.add_right_comm _ _ _).trans (Nat.add_assoc _ _ _)

/-- Readouts in the order of fine bins, with frames in the order of time, are
measured against the latest frames. -/
theorem flights_routeAll {rest : List Readout} (frameMode : router.detector.frameMode = true)
    (aligned : router.Aligned) (inUse : router.InUse (Readout.frames past))
    (sorted : (Readout.frames (past ++ rest)).Pairwise (· ≤ ·)) (wide : 0 < router.fineWidth)
    (ordered : rest.Pairwise fun first second =>
      first.due router.fineWidth ≤ second.due router.fineWidth)
    (ahead : ∀ readout ∈ rest,
      router.horizon ≤ (readout.due router.fineWidth - 1) * router.fineWidth) :
    let frame := fun entry : List Readout × Readout =>
      latest router.delay (router.floor entry.2.time.toNat) (Readout.frames entry.1)
    SinkCall.flights router.pulse (router.routeAll rest).calls =
        (withPast past rest).filterMap (fun entry =>
          router.detector.flight? (frame entry) entry.2) ∧
      (router.routeAll rest).result.counts.errors = router.counts.errors +
        (withPast past rest).countP fun entry => router.detector.fails (frame entry) entry.2 := by
  have least : router.fineWidth ≤ router.delay := Nat.le_add_left _ _
  have follows := follows_routeAll frameMode aligned inUse sorted
    (ordered.imp fun {earlier later} notLater neutron => by
      have due : earlier.due router.fineWidth = earlier.time.toNat / router.fineWidth + 1 :=
        if_pos neutron
      rw [due] at notLater
      apply Readout.inTime_of_ahead wide least
      exact Nat.mul_le_mul_right _ (Nat.le_sub_of_add_le notLater))
    (fun readout member => Readout.inTime_of_ahead wide least (ahead readout member))
  exact ⟨follows.told, follows.errors⟩

theorem getLast?_of_sorted {numbers : List Nat} (sorted : numbers.Pairwise (· ≤ ·)) :
    numbers.getLast? = numbers.max? := by
  cases last : numbers.getLast? with
  | none => rw [List.getLast?_eq_none_iff.mp last, List.max?_nil]
  | some greatest =>
      obtain ⟨earlier, rfl⟩ := List.getLast?_eq_some_iff.mp last
      refine (List.max?_eq_some_iff.mpr ⟨by simp, ?_⟩).symm
      intro number member
      rcases List.mem_append.mp member with before | same
      · exact (List.pairwise_append.mp sorted).2.2 number before greatest
          (List.mem_singleton_self greatest)
      · exact Nat.le_of_eq (List.mem_singleton.mp same)

theorem max?_congr {one other : List Nat} (same : ∀ number, number ∈ one ↔ number ∈ other) :
    one.max? = other.max? := by
  cases greatest : other.max? with
  | none =>
      rw [List.max?_eq_none_iff] at greatest ⊢
      subst greatest
      exact List.eq_nil_iff_forall_not_mem.mpr fun number member =>
        absurd ((same number).mp member) List.not_mem_nil
  | some number =>
      rw [List.max?_eq_some_iff] at greatest ⊢
      exact ⟨(same number).mpr greatest.1,
        fun lower member => greatest.2 lower ((same lower).mp member)⟩

theorem latest_eq (delay floor : Nat) (frames : List Nat) :
    latest delay floor frames =
      (frames.filter fun frame => frame + delay ≤ floor).getLast?.or frames.head? := by
  cases frames with
  | nil => rfl
  | cons front rest =>
      rw [latest, List.tail_cons, List.head?_cons]
      by_cases early : front + delay ≤ floor
      · rw [List.filter_cons_of_pos (by simpa), List.getLast?_cons]
        generalize (rest.filter fun frame => frame + delay ≤ floor).getLast? = last
        cases last <;> rfl
      · rw [List.filter_cons_of_neg (by simpa using early)]

/-- Of the frames far enough before a bin it does not matter whether others have
been routed. -/
theorem latest_eq_frameFor {delay floor : Nat} {past all : List Nat}
    (sorted : past.Pairwise (· ≤ ·))
    (same : ∀ frame, frame + delay ≤ floor → (frame ∈ past ↔ frame ∈ all)) :
    latest delay floor past = frameFor delay floor all past.head? := by
  rw [latest_eq, frameFor, getLast?_of_sorted (sorted.filter _)]
  refine congrArg (Option.or · past.head?) (max?_congr ?_)
  intro frame
  rw [List.mem_filter, List.mem_filter, decide_eq_true_eq]
  exact and_congr_left (same frame)

theorem latest_eq_none_iff {delay floor : Nat} {frames : List Nat} :
    latest delay floor frames = none ↔ frames = [] := by
  cases frames with
  | nil => simp [latest]
  | cons front rest => simp [latest]

end Router

end EventFormation
