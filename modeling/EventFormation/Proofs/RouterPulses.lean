import EventFormation.Proofs.RouterFrames

/-!
# Routing against pulses

Without frames a neutron is measured against the pulse that its block has
started or kept.  A pulse that the block has started is not after any of its
neutrons.  If the block has kept one, a neutron before it is not told, and
counts as an error like one without a pixel.
-/

namespace EventFormation

namespace SinkCall

def lastPulse (pulse : Option Nat) : List SinkCall → Option Nat
  | [] => pulse
  | .pulse time :: rest => lastPulse (some time) rest
  | _ :: rest => lastPulse pulse rest

/-- When and where neutrons were, as told by the calls: so long after the latest
pulse, if there is one. -/
def measured (pulse : Option Nat) : List SinkCall → List (Option Nat × UInt32)
  | [] => []
  | .pulse time :: rest => measured (some time) rest
  | .neutron flight pixel :: rest =>
    (pulse.map fun start => start + flight, pixel) :: measured pulse rest
  | _ :: rest => measured pulse rest

theorem lastPulse_append (pulse : Option Nat) (earlier later : List SinkCall) :
    lastPulse pulse (earlier ++ later) = lastPulse (lastPulse pulse earlier) later := by
  induction earlier generalizing pulse with
  | nil => rfl
  | cons call rest induction =>
      cases call with
      | pulse time => exact induction _
      | neutron flight pixel => exact induction _
      | frame time auxiliary => exact induction _
      | monitor time count => exact induction _
      | custom time data => exact induction _
      | flush => exact induction _

theorem measured_append (pulse : Option Nat) (earlier later : List SinkCall) :
    measured pulse (earlier ++ later) =
      measured pulse earlier ++ measured (lastPulse pulse earlier) later := by
  induction earlier generalizing pulse with
  | nil => rfl
  | cons call rest induction =>
      cases call with
      | pulse time => exact induction _
      | neutron flight pixel => exact congrArg (_ :: ·) (induction _)
      | frame time auxiliary => exact induction _
      | monitor time count => exact induction _
      | custom time data => exact induction _
      | flush => exact induction _

end SinkCall

namespace Detector

variable (detector : Detector)

/-- When and where a neutron was, if it has a pixel. -/
def sighting? (readout : Readout) : Option (Option Nat × UInt32) :=
  if readout.isNeutron then
    (detector.pixel? readout.x readout.y).map fun pixel => (some readout.time.toNat, pixel)
  else
    none

/-- The readout is a neutron without a pixel, or of a kind that has no route. -/
def strays (readout : Readout) : Bool :=
  match readout.kind with
  | .neutron => (detector.pixel? readout.x readout.y).isNone
  | .frameDeassert | .veto | .invalid => true
  | _ => false

/-- The readout is a neutron with a pixel, but no pulse before it is in use. -/
def misses (pulse : Option Nat) (readout : Readout) : Bool :=
  (detector.sighting? readout).isSome && !pulse.any fun start => start ≤ readout.time.toNat

end Detector

namespace Router

/-- Readouts are routed against the pulse in use, which stays the same. -/
structure Against (router : Router) (readouts : List Readout) (plan : Plan Router) : Prop where
  detector : plan.result.detector = router.detector
  pulse : plan.result.pulse = router.pulse
  lastPulse : SinkCall.lastPulse router.pulse plan.calls = router.pulse
  told : SinkCall.measured router.pulse plan.calls =
    (readouts.filter fun readout => !router.detector.misses router.pulse readout).filterMap
      router.detector.sighting?
  errors : plan.result.counts.errors = router.counts.errors +
    readouts.countP router.detector.strays +
    readouts.countP (router.detector.misses router.pulse)

theorem met_iff {detector : Detector} {pulse : Option Nat} {readout : Readout}
    (sighted : (detector.sighting? readout).isSome) :
    detector.misses pulse readout = false ↔
      ∃ start, pulse = some start ∧ start ≤ readout.time.toNat := by
  unfold Detector.misses
  rw [sighted, Bool.true_and, Bool.not_eq_false', Option.any_eq_true]
  simp

section

variable {router : Router}

theorem Against.other {readout : Readout} {plan : Plan Router}
    (sighted : router.detector.sighting? readout = none)
    (detector : plan.result.detector = router.detector)
    (pulse : plan.result.pulse = router.pulse)
    (lastPulse : SinkCall.lastPulse router.pulse plan.calls = router.pulse)
    (told : SinkCall.measured router.pulse plan.calls = [])
    (errors : plan.result.counts.errors =
      router.counts.errors + [readout].countP router.detector.strays) :
    Against router [readout] plan := by
  have met : router.detector.misses router.pulse readout = false := by
    rw [Detector.misses, sighted]
    rfl
  constructor
  · exact detector
  · exact pulse
  · exact lastPulse
  · simp [told, met, sighted]
  · simp [errors, met]

variable (passing : router.detector.frameMode = false)
include passing

theorem reference_of_passing : router.reference = router.pulse := by
  simp [Router.reference, passing]

theorem event?_of_misses {readout : Readout}
    (missed : router.detector.misses router.pulse readout = true) :
    router.event? readout = none := by
  have reference := reference_of_passing passing
  have sighted : (router.detector.sighting? readout).isSome = true :=
    (Bool.and_eq_true_iff.mp missed).1
  cases inUse : router.pulse with
  | none => simp [event?, reference, inUse]
  | some start =>
      have after : ¬start ≤ readout.time.toNat := by
        intro before
        rw [(met_iff sighted).mpr ⟨start, inUse, before⟩] at missed
        contradiction
      cases place : router.detector.pixel? readout.x readout.y with
      | none => simp [event?, reference, inUse, place]
      | some pixel => simp [event?, reference, inUse, place, after]

theorem event?_of_met {readout : Readout} {pixel : UInt32}
    (sighted : router.detector.sighting? readout = some (some readout.time.toNat, pixel))
    (place : router.detector.pixel? readout.x readout.y = some pixel)
    (met : router.detector.misses router.pulse readout = false) :
    ∃ start, router.pulse = some start ∧ start ≤ readout.time.toNat ∧
      router.event? readout = some (readout.time.toNat - start, pixel) := by
  obtain ⟨start, inUse, before⟩ := (met_iff (Option.isSome_of_eq_some sighted)).mp met
  have reference := reference_of_passing passing
  exact ⟨start, inUse, before, by simp [event?, reference, inUse, place, before]⟩

theorem against_tellNeutron {readout : Readout} (kind : readout.kind = .neutron) :
    Against router [readout] (router.tellNeutron readout) := by
  have neutron : readout.isNeutron = true := by simp [Readout.isNeutron, kind]
  have refused (silent : router.event? readout = none) : router.tellNeutron readout =
      .done { router with counts.errors := router.counts.errors + 1 } := by
    rw [tellNeutron, silent]
  cases place : router.detector.pixel? readout.x readout.y with
  | none =>
      have silent : router.event? readout = none := by simp [event?, place]
      have sighted : router.detector.sighting? readout = none := by
        simp [Detector.sighting?, place]
      rw [refused silent]
      refine Against.other sighted rfl rfl rfl rfl ?_
      simp [Plan.result, Detector.strays, kind, place]
  | some pixel =>
      have sighted : router.detector.sighting? readout =
          some (some readout.time.toNat, pixel) := by
        simp [Detector.sighting?, neutron, place]
      have routed : router.detector.strays readout = false := by
        simp [Detector.strays, kind, place]
      cases missed : router.detector.misses router.pulse readout with
      | true =>
          rw [refused (event?_of_misses passing missed)]
          constructor
          · rfl
          · rfl
          · rfl
          · simp [Plan.calls, SinkCall.measured, missed]
          · simp [Plan.result, routed, missed]
      | false =>
          obtain ⟨start, inUse, before, event⟩ := event?_of_met passing sighted place missed
          have measured : SinkCall.measured router.pulse
              [.neutron (readout.time.toNat - start) pixel] =
                [(some readout.time.toNat, pixel)] := by
            simp [SinkCall.measured, inUse, before]
          rw [tellNeutron, event]
          constructor
          · rfl
          · rfl
          · rfl
          · exact measured.trans (by simp [missed, sighted])
          · simp [Plan.result, routed, missed]

theorem against_routeOne (readout : Readout) :
    Against router [readout] (router.routeOne readout) := by
  have sighted (other : readout.kind ≠ .neutron) :
      router.detector.sighting? readout = none := by
    simp [Detector.sighting?, Readout.isNeutron, other]
  unfold routeOne
  cases kind : readout.kind with
  | neutron =>
      simp only [routeNeutron, passing]
      exact against_tellNeutron passing kind
  | frameStart =>
      have queued : router.queueFrame readout.time.toNat = .done router := by
        rw [queueFrame, if_neg (by simp [passing])]
      simp only [routeFrame, queued]
      refine Against.other (sighted (by simp [kind])) rfl rfl rfl rfl ?_
      simp [Plan.andThen, Plan.result, Detector.strays, kind]
  | auxFrameStart =>
      refine Against.other (sighted (by simp [kind])) rfl rfl rfl rfl ?_
      simp [Plan.result, Detector.strays, kind]
  | beamMonitor =>
      refine Against.other (sighted (by simp [kind])) rfl rfl rfl rfl ?_
      simp [Plan.result, Detector.strays, kind]
  | other =>
      refine Against.other (sighted (by simp [kind])) rfl rfl rfl rfl ?_
      simp [Plan.result, Detector.strays, kind]
  | blank =>
      refine Against.other (sighted (by simp [kind])) rfl rfl rfl rfl ?_
      simp [Plan.result, Detector.strays, kind]
  | frameDeassert =>
      refine Against.other (sighted (by simp [kind])) rfl rfl rfl rfl ?_
      simp [Plan.result, Detector.strays, kind]
  | veto =>
      refine Against.other (sighted (by simp [kind])) rfl rfl rfl rfl ?_
      simp [Plan.result, Detector.strays, kind]
  | invalid =>
      refine Against.other (sighted (by simp [kind])) rfl rfl rfl rfl ?_
      simp [Plan.result, Detector.strays, kind]

theorem against_routeAll (readouts : List Readout) :
    Against router readouts (router.routeAll readouts) := by
  induction readouts generalizing router with
  | nil => exact ⟨rfl, rfl, rfl, rfl, rfl⟩
  | cons readout rest induction =>
      have first := against_routeOne passing readout
      have stillPassing : (router.routeOne readout).result.detector.frameMode = false := by
        rwa [first.detector]
      have later := induction stillPassing
      rw [routeAll, ← List.singleton_append]
      constructor
      · rw [Plan.result_andThen, later.detector, first.detector]
      · rw [Plan.result_andThen, later.pulse, first.pulse]
      · have lastPulse := later.lastPulse
        rw [first.pulse] at lastPulse
        rw [Plan.calls_andThen, SinkCall.lastPulse_append, first.lastPulse, lastPulse]
      · have told := later.told
        rw [first.pulse, first.detector] at told
        rw [Plan.calls_andThen, SinkCall.measured_append, first.lastPulse, first.told, told,
          List.filter_append, List.filterMap_append]
      · have errors := later.errors
        rw [first.pulse, first.detector, first.errors] at errors
        rw [Plan.result_andThen, errors, List.countP_append, List.countP_append]
        omega

end

/-- How many neutrons with a pixel come before the pulse that their block has
kept. -/
def missed (router : Router) (base : Nat) (readouts : List Readout) : Nat :=
  if router.needsPulse base then 0
  else readouts.countP (router.detector.misses router.pulse)

theorem misses_eq_false {detector : Detector} {start : Nat} {readout : Readout}
    (before : readout.isNeutron = true → start ≤ readout.time.toNat) :
    detector.misses (some start) readout = false := by
  cases neutron : readout.isNeutron with
  | false => simp [Detector.misses, Detector.sighting?, neutron]
  | true => simp [Detector.misses, before neutron]

/-- A block that keeps its pulse misses nothing if its neutrons are not before
the pulse. -/
theorem missed_eq_zero {router : Router} {base : Nat} {readouts : List Readout}
    (after : ∀ start, router.pulse = some start → 0 < router.pending → start ≤ base →
      ∀ readout ∈ readouts, readout.isNeutron = true → start ≤ readout.time.toNat) :
    router.missed base readouts = 0 := by
  unfold missed
  split
  · rfl
  · rename_i keeps
    cases inUse : router.pulse with
    | none => simp [needsPulse, inUse] at keeps
    | some start =>
        simp only [needsPulse, inUse, Bool.or_eq_true, beq_iff_eq, decide_eq_true_eq,
          not_or, Nat.not_lt] at keeps
        obtain ⟨⟨pending, started⟩, _⟩ := keeps
        apply List.countP_eq_zero.mpr
        intro readout member
        have kept := after start inUse (Nat.pos_of_ne_zero pending) started readout member
        simp [misses_eq_false kept]

theorem foldl_min_le (start : Nat) (readouts : List Readout) :
    readouts.foldl (fun start readout => min start readout.time.toNat) start ≤ start ∧
      ∀ readout ∈ readouts, readouts.foldl (fun start readout => min start readout.time.toNat)
        start ≤ readout.time.toNat := by
  induction readouts generalizing start with
  | nil => exact ⟨Nat.le_refl _, fun _ member => absurd member List.not_mem_nil⟩
  | cons readout rest induction =>
      obtain ⟨below, belowRest⟩ := induction (min start readout.time.toNat)
      rw [List.foldl_cons]
      constructor
      · exact Nat.le_trans below (Nat.min_le_left _ _)
      · intro other member
        rcases List.mem_cons.mp member with rfl | later
        · exact Nat.le_trans below (Nat.min_le_right _ _)
        · exact belowRest other later

theorem blockStart_le (base : Nat) (readouts : List Readout) :
    blockStart base readouts ≤ base ∧
      ∀ readout ∈ readouts, readout.isNeutron = true →
        blockStart base readouts ≤ readout.time.toNat := by
  obtain ⟨below, belowAll⟩ := foldl_min_le base (readouts.filter Readout.isNeutron)
  exact ⟨below, fun readout member neutron =>
    belowAll readout (List.mem_filter.mpr ⟨member, neutron⟩)⟩

/-- The pulse that a block is routed against is in use and the sink knows it. -/
structure Opened (router : Router) (inUse : Option Nat) (plan : Plan Router) : Prop where
  detector : plan.result.detector = router.detector
  pulse : plan.result.pulse = inUse
  errors : plan.result.counts.errors = router.counts.errors
  lastPulse : SinkCall.lastPulse router.pulse plan.calls = inUse
  told : SinkCall.measured router.pulse plan.calls = []

theorem opened_startPulse (router : Router) (start : Nat) :
    Opened router (some start) (router.startPulse start) := by
  unfold startPulse
  split
  · rename_i current
    exact ⟨rfl, current, rfl, current, rfl⟩
  · exact ⟨rfl, rfl, rfl, rfl, rfl⟩

theorem opened_keep (router : Router) : Opened router router.pulse (.done router) :=
  ⟨rfl, rfl, rfl, rfl, rfl⟩

/-- What it means that a block has been routed: every neutron with a pixel has
been told, those that were missed aside. -/
structure Routed (router : Router) (base : Nat) (readouts : List Readout) (plan : Plan Router) :
    Prop where
  detector : plan.result.detector = router.detector
  pulse : plan.result.pulse = SinkCall.lastPulse router.pulse plan.calls
  pulse_le : readouts ≠ [] → ∀ start, plan.result.pulse = some start → start ≤ base
  errors : plan.result.counts.errors = router.counts.errors +
    readouts.countP router.detector.strays + router.missed base readouts
  told : router.missed base readouts = 0 →
    SinkCall.measured router.pulse plan.calls = readouts.filterMap router.detector.sighting?

/-- Routing readouts one after the other when a block has been opened. -/
theorem Opened.routed {router : Router} {base : Nat} {readouts : List Readout}
    {inUse : Option Nat} {plan : Plan Router} (opened : Opened router inUse plan)
    (passing : router.detector.frameMode = false)
    (pulse_le : ∀ start, inUse = some start → start ≤ base)
    (missed : readouts.countP (router.detector.misses inUse) = router.missed base readouts) :
    Routed router base readouts (plan.andThen (·.routeAll readouts)) := by
  have stillPassing : plan.result.detector.frameMode = false := by rwa [opened.detector]
  have routed := against_routeAll stillPassing readouts
  constructor
  · rw [Plan.result_andThen, routed.detector, opened.detector]
  · rw [Plan.result_andThen, Plan.calls_andThen, SinkCall.lastPulse_append, routed.pulse,
      opened.lastPulse, ← opened.pulse, routed.lastPulse]
  · intro _ start same
    rw [Plan.result_andThen, routed.pulse, opened.pulse] at same
    exact pulse_le start same
  · rw [Plan.result_andThen, routed.errors, opened.errors, opened.detector, opened.pulse, missed]
  · intro none
    have told := routed.told
    rw [opened.detector, opened.pulse] at told
    have met : (readouts.filter fun readout => !router.detector.misses inUse readout) =
        readouts := by
      apply List.filter_eq_self.mpr
      intro readout member
      have met := List.countP_eq_zero.mp (missed.trans none) readout member
      simpa using met
    rw [Plan.calls_andThen, SinkCall.measured_append, opened.told, opened.lastPulse,
      List.nil_append, told, met]

theorem routed_route {router : Router} (passing : router.detector.frameMode = false) (base : Nat)
    (readouts : List Readout) : Routed router base readouts (router.route base readouts) := by
  by_cases empty : readouts = []
  · rw [empty]
    constructor
    · rfl
    · rfl
    · exact fun some => absurd rfl some
    · simp [route, Plan.result, missed]
    · exact fun _ => rfl
  · rw [route, if_neg (by simpa using empty)]
    by_cases needs : router.needsPulse base
    · obtain ⟨startLe, startLeAll⟩ := blockStart_le base readouts
      have opens : router.openBlock base readouts =
          router.startPulse (blockStart base readouts) := by
        rw [openBlock, if_pos (by simp [passing, needs])]
      rw [opens]
      apply (opened_startPulse router _).routed passing
      · intro start same
        rwa [← Option.some.inj same]
      · rw [missed, if_pos needs, List.countP_eq_zero]
        intro readout member
        simp [misses_eq_false (startLeAll readout member)]
    · have keeps : router.openBlock base readouts = .done router := by
        rw [openBlock, if_neg (by simp [needs])]
      rw [keeps]
      apply (opened_keep router).routed passing
      · intro start inUse
        simp only [needsPulse, inUse, Bool.or_eq_true, decide_eq_true_eq, not_or,
          Nat.not_lt] at needs
        exact needs.1.2
      · rw [missed, if_neg needs]

end Router

end EventFormation
