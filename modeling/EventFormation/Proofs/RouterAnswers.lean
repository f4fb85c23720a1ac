import EventFormation.Proofs.FrameQueue
import EventFormation.Proofs.RouterCounts
import EventFormation.Proofs.Schedule

/-!
# Answers of a router

Besides the pulses that it starts, a router answers every readout with the one call
that stands for it, or with none: a blank readout has no answer, and neither has a
neutron or a readout of another kind that is counted as an error.  Answers are given in
the order of the readouts, and each is counted under its kind.

A sink that refuses one call of a block has taken the calls before it, and they are
those that a sink without refusals would have taken first.
-/

namespace EventFormation

/-- A sink that does as another one does, but refuses the call of that number, counted
from zero. -/
def Sink.failingAt {σ ε : Type} (sink : Sink σ ε) (number : Nat) (reason : ε) :
    Sink (σ × Nat) ε where
  offer state call :=
    if state.2 = number then
      ((state.1, state.2 + 1), some reason)
    else
      let (after, refusal) := sink.offer state.1 call
      ((after, state.2 + 1), refusal)

namespace Plan

variable {ρ σ ε : Type}

/-- The calls that a sink takes when a plan is told to it. -/
def accepted (sink : Sink σ ε) (state : σ) : Plan ρ → List SinkCall
  | done _ => []
  | tell call _ rest =>
    match sink.offer state call with
    | (_, some _) => []
    | (after, none) => call :: rest.accepted sink after

section

variable {sink : Sink σ ε} (takes : ∀ state call, (sink.offer state call).2 = none)
include takes

theorem accepted_of_takes (plan : Plan ρ) (state : σ) :
    plan.accepted sink state = plan.calls := by
  induction plan generalizing state with
  | done result => rfl
  | tell call left rest induction =>
      have taken : sink.offer state call = ((sink.offer state call).1, none) := by
        rw [← takes state call]
      rw [accepted, taken]
      exact congrArg (call :: ·) (induction _)

/-- A sink that refuses one call has taken those before it.  If there are no more of
them, it makes no difference. -/
theorem run_failingAt (plan : Plan ρ) (state : σ) (count number : Nat) (reason : ε) :
    let failing := sink.failingAt (count + number) reason
    (number < plan.calls.length →
      (plan.run failing (state, count)).2.2 = some reason ∧
        plan.accepted failing (state, count) = plan.calls.take number) ∧
      (plan.calls.length ≤ number →
        plan.run failing (state, count) =
            (plan.result, ((plan.run sink state).2.1, count + plan.calls.length), none) ∧
          plan.accepted failing (state, count) = plan.calls) := by
  induction plan generalizing state count number with
  | done result =>
      constructor
      · intro before
        exact absurd before (Nat.not_lt_zero number)
      · intro _
        exact ⟨rfl, rfl⟩
  | tell call left rest induction =>
      cases number with
      | zero =>
          have refused : (sink.failingAt (count + 0) reason).offer (state, count) call =
              ((state, count + 1), some reason) := if_pos rfl
          constructor
          · intro _
            rw [run, accepted, refused]
            exact ⟨rfl, rfl⟩
          · intro none
            exact absurd none (Nat.not_succ_le_zero _)
      | succ number =>
          obtain ⟨after, taken⟩ : ∃ after, sink.offer state call = (after, none) :=
            ⟨(sink.offer state call).1, Prod.ext rfl (takes state call)⟩
          have offered : (sink.failingAt (count + (number + 1)) reason).offer (state, count) call =
              ((after, count + 1), none) := by
            simp [Sink.failingAt, taken]
          obtain ⟨before, later⟩ := induction after (count + 1) number
          have shifted : count + 1 + number = count + (number + 1) := by omega
          rw [shifted] at before later
          simp only [run, accepted, offered, taken, calls, result, List.length_cons,
            List.take_succ_cons, Nat.succ_lt_succ_iff, Nat.succ_le_succ_iff]
          constructor
          · intro early
            obtain ⟨refusal, accepted⟩ := before early
            exact ⟨refusal, congrArg (call :: ·) accepted⟩
          · intro late
            obtain ⟨ran, accepted⟩ := later late
            refine ⟨ran.trans ?_, congrArg (call :: ·) accepted⟩
            rw [Nat.add_assoc, Nat.add_comm 1]

end

end Plan

namespace RouteCounts

/-- Counts added one by one. -/
def sum (first second : RouteCounts) : RouteCounts where
  events := first.events + second.events
  errors := first.errors + second.errors
  frames := first.frames + second.frames
  auxFrames := first.auxFrames + second.auxFrames
  monitors := first.monitors + second.monitors
  customs := first.customs + second.customs

/-- What calls and errors are counted as. -/
def ofCalls (calls : List SinkCall) (errors : Nat) : RouteCounts where
  events := calls.countP (· matches .neutron _ _)
  errors
  frames := calls.countP (· matches .frame _ false)
  auxFrames := calls.countP (· matches .frame _ true)
  monitors := calls.countP (· matches .monitor _ _)
  customs := calls.countP (· matches .custom _ _)

theorem sum_assoc (first second third : RouteCounts) :
    (first.sum second).sum third = first.sum (second.sum third) := by
  simp only [sum, Nat.add_assoc]

theorem ofCalls_append (earlier later : List SinkCall) (errors more : Nat) :
    ofCalls (earlier ++ later) (errors + more) =
      (ofCalls earlier errors).sum (ofCalls later more) := by
  simp only [sum, ofCalls, List.countP_append]

end RouteCounts

def SinkCall.isPulse : SinkCall → Bool
  | .pulse _ => true
  | _ => false

/-- The call that stands for a readout, if it is measured against that pulse. -/
def Detector.answer? (detector : Detector) (pulse : Option Nat) (readout : Readout) :
    Option SinkCall :=
  let time := readout.time.toNat
  match readout.kind with
  | .neutron => (detector.flight? pulse readout).map fun flight => .neutron flight.2.1 flight.2.2
  | .frameStart => some (.frame time false)
  | .auxFrameStart => some (.frame time true)
  | .beamMonitor => some (.monitor time readout.data)
  | .other => some (.custom time readout.data)
  | .blank | .frameDeassert | .veto | .invalid => none

theorem Detector.answer?_eq_none_iff {detector : Detector} {readout : Readout}
    (neutron : readout.isNeutron = true) (pulse : Option Nat) :
    detector.answer? pulse readout = none ↔ detector.fails pulse readout = true := by
  have kind : readout.kind = .neutron := by simpa [Readout.isNeutron] using neutron
  simp [answer?, fails, kind]

namespace Router

/-- A plan that tells of pulses at most, and counts nothing. -/
structure OnlyPulses (router : Router) (plan : Plan Router) : Prop where
  detector : plan.result.detector = router.detector
  counts : plan.result.counts = router.counts
  calls : ∀ call ∈ plan.calls, call.isPulse = true

/-- A plan that answers a readout and counts the answer. -/
structure Answers (router : Router) (readout : Readout) (plan : Plan Router) : Prop where
  detector : plan.result.detector = router.detector
  calls : plan.calls.filter (fun call => !call.isPulse) =
    (router.detector.answer? plan.result.reference readout).toList
  counts : plan.result.counts = router.counts.sum (.ofCalls plan.calls
    (if router.detector.fails plan.result.reference readout then 1 else 0))

section

variable {router other : Router} {plan : Plan Router}

theorem OnlyPulses.done {after : Router} (detector : after.detector = router.detector)
    (counts : after.counts = router.counts) : OnlyPulses router (.done after) :=
  ⟨detector, counts, fun _ member => absurd member List.not_mem_nil⟩

theorem OnlyPulses.congr (only : OnlyPulses other plan)
    (detector : other.detector = router.detector) (counts : other.counts = router.counts) :
    OnlyPulses router plan :=
  ⟨only.detector.trans detector, only.counts.trans counts, only.calls⟩

theorem OnlyPulses.filter_eq_nil (only : OnlyPulses router plan) :
    plan.calls.filter (fun call => !call.isPulse) = [] := by
  apply List.filter_eq_nil_iff.mpr
  intro call member
  simp [only.calls call member]

theorem OnlyPulses.ofCalls_append (only : OnlyPulses router plan) (later : List SinkCall)
    (errors : Nat) :
    RouteCounts.ofCalls (plan.calls ++ later) errors = .ofCalls later errors := by
  have none (kind : SinkCall → Bool) (others : ∀ time, kind (.pulse time) = false) :
      plan.calls.countP kind = 0 := by
    apply List.countP_eq_zero.mpr
    intro call member
    have pulse := only.calls call member
    cases call with
    | pulse time => simp [others time]
    | _ => exact absurd pulse Bool.false_ne_true
  simp [RouteCounts.ofCalls, none]

theorem OnlyPulses.andThen {readout : Readout} (only : OnlyPulses router plan)
    {next : Router → Plan Router} (answers : Answers plan.result readout (next plan.result)) :
    Answers router readout (plan.andThen next) := by
  have detector := answers.detector
  have calls := answers.calls
  have counts := answers.counts
  rw [only.detector] at detector calls counts
  constructor
  · rwa [Plan.result_andThen]
  · rwa [Plan.calls_andThen, Plan.result_andThen, List.filter_append, only.filter_eq_nil]
  · rwa [Plan.calls_andThen, Plan.result_andThen, only.ofCalls_append, ← only.counts]

theorem onlyPulses_startPulse (router : Router) (time : Nat) :
    OnlyPulses router (router.startPulse time) := by
  unfold startPulse
  split
  · exact .done rfl rfl
  · exact ⟨rfl, rfl, List.forall_mem_singleton.mpr rfl⟩

theorem onlyPulses_checkQueue (router : Router) (time : Nat) :
    OnlyPulses router (router.checkQueue time) := by
  unfold checkQueue
  simp only
  split
  · split
    · split
      · exact (onlyPulses_startPulse _ _).congr rfl rfl
      · exact .done rfl rfl
    · exact .done rfl rfl
  · exact .done rfl rfl

theorem onlyPulses_queueFrame (router : Router) (time : Nat) :
    OnlyPulses router (router.queueFrame time) := by
  unfold queueFrame
  simp only
  split
  · split
    · exact (onlyPulses_startPulse _ _).congr rfl rfl
    · exact .done rfl rfl
  · exact .done rfl rfl

theorem onlyPulses_openBlock (router : Router) (base : Nat) (readouts : List Readout) :
    OnlyPulses router (router.openBlock base readouts) := by
  unfold openBlock
  split
  · exact onlyPulses_startPulse router _
  · exact .done rfl rfl

theorem event?_eq {readout : Readout} (neutron : readout.isNeutron = true) :
    router.event? readout =
      (router.detector.flight? router.reference readout).map Prod.snd := by
  unfold event? Detector.flight?
  cases router.reference with
  | none => rfl
  | some start =>
      cases router.detector.pixel? readout.x readout.y with
      | none => rfl
      | some pixel =>
          by_cases before : start ≤ readout.time.toNat
          · simp [neutron, before]
          · simp [before]

theorem answers_tellNeutron {readout : Readout} (kind : readout.kind = .neutron) :
    Answers router readout (router.tellNeutron readout) := by
  have neutron : readout.isNeutron = true := by simp [Readout.isNeutron, kind]
  unfold tellNeutron
  rw [event?_eq neutron]
  cases told : router.detector.flight? router.reference readout with
  | none =>
      have same : ({ router with counts.errors := router.counts.errors + 1 } : Router).reference =
          router.reference := rfl
      constructor
      · rfl
      · simp [Plan.result, Plan.calls, same, Detector.answer?, kind, told]
      · simp [Plan.result, Plan.calls, same, Detector.fails, kind, told, RouteCounts.sum,
          RouteCounts.ofCalls]
  | some flight =>
      have same : ({ router with
          pending := router.pending + 1
          counts.events := router.counts.events + 1 } : Router).reference =
          router.reference := rfl
      constructor
      · rfl
      · simp [Plan.result, Plan.calls, same, Detector.answer?, kind, told, SinkCall.isPulse]
      · simp [Plan.result, Plan.calls, same, Detector.fails, kind, told, RouteCounts.sum,
          RouteCounts.ofCalls]

theorem answers_routeFrame {readout : Readout} (kind : readout.kind = .frameStart) :
    Answers router readout (router.routeFrame readout.time.toNat) := by
  have only := onlyPulses_queueFrame router readout.time.toNat
  have none := only.filter_eq_nil
  have counted := only.ofCalls_append [] 0
  rw [List.append_nil] at counted
  unfold routeFrame
  constructor
  · rw [Plan.result, Plan.result_andThen]
    exact only.detector
  · rw [Plan.calls, Plan.calls_andThen, Plan.calls, List.append_nil,
      List.filter_cons_of_pos rfl, none, Detector.answer?, kind]
    rfl
  · have answered : RouteCounts.ofCalls (.frame readout.time.toNat false ::
        (router.queueFrame readout.time.toNat).calls) 0 =
          .ofCalls [.frame readout.time.toNat false] 0 :=
      (RouteCounts.ofCalls_append [_] _ 0 0).trans (congrArg _ counted)
    rw [Plan.result, Plan.result_andThen, Plan.calls, Plan.calls_andThen, Plan.calls,
      List.append_nil, Detector.fails, kind, if_neg Bool.false_ne_true, answered]
    simp only [Plan.result, only.counts]
    rfl

theorem answers_routeOne (router : Router) (readout : Readout) :
    Answers router readout (router.routeOne readout) := by
  unfold routeOne
  cases kind : readout.kind with
  | neutron =>
      simp only [routeNeutron]
      split
      · exact (onlyPulses_checkQueue router _).andThen (answers_tellNeutron kind)
      · exact answers_tellNeutron kind
  | frameStart => exact answers_routeFrame kind
  | auxFrameStart | beamMonitor | other | blank | frameDeassert | veto | invalid =>
      constructor
      · rfl
      · simp [Plan.calls, Detector.answer?, kind, SinkCall.isPulse]
      · simp [Plan.result, Plan.calls, Detector.fails, kind, RouteCounts.sum, RouteCounts.ofCalls]

end

/-- Readouts, each with the pulse that is in use when it has been routed. -/
def withReference (router : Router) : List Readout → List (Option Nat × Readout)
  | [] => []
  | readout :: rest =>
    let after := (router.routeOne readout).result
    (after.reference, readout) :: after.withReference rest

theorem map_snd_withReference (router : Router) (readouts : List Readout) :
    (router.withReference readouts).map Prod.snd = readouts := by
  induction readouts generalizing router with
  | nil => rfl
  | cons readout rest induction => exact congrArg (readout :: ·) (induction _)

/-- A plan that answers readouts one after the other and counts the answers. -/
structure AnswersAll (router : Router) (entries : List (Option Nat × Readout))
    (plan : Plan Router) : Prop where
  calls : plan.calls.filter (fun call => !call.isPulse) =
    entries.filterMap fun entry => router.detector.answer? entry.1 entry.2
  counts : plan.result.counts = router.counts.sum (.ofCalls plan.calls
    (entries.countP fun entry => router.detector.fails entry.1 entry.2))

theorem answersAll_routeAll (router : Router) (readouts : List Readout) :
    AnswersAll router (router.withReference readouts) (router.routeAll readouts) := by
  induction readouts generalizing router with
  | nil => exact ⟨rfl, rfl⟩
  | cons readout rest induction =>
      have first := answers_routeOne router readout
      have others := induction (router.routeOne readout).result
      have calls := others.calls
      have counts := others.counts
      rw [first.detector] at calls counts
      constructor
      · rw [routeAll, Plan.calls_andThen, List.filter_append, first.calls, calls, withReference,
          List.filterMap_cons]
        cases router.detector.answer? (router.routeOne readout).result.reference readout with
        | none => rfl
        | some call => rfl
      · rw [routeAll, Plan.result_andThen, Plan.calls_andThen, counts, first.counts,
          RouteCounts.sum_assoc, ← RouteCounts.ofCalls_append, withReference, List.countP_cons,
          Nat.add_comm]

theorem answersAll_route (router : Router) (base : Nat) (readouts : List Readout) :
    AnswersAll router ((router.openBlock base readouts).result.withReference readouts)
      (router.route base readouts) := by
  cases readouts with
  | nil => exact ⟨rfl, rfl⟩
  | cons readout rest =>
      have opened := onlyPulses_openBlock router base (readout :: rest)
      have routed := answersAll_routeAll (router.openBlock base (readout :: rest)).result
        (readout :: rest)
      have calls := routed.calls
      have counts := routed.counts
      rw [opened.detector] at calls counts
      rw [opened.counts] at counts
      have block : router.route base (readout :: rest) =
          (router.openBlock base (readout :: rest)).andThen (·.routeAll (readout :: rest)) := rfl
      rw [block]
      constructor
      · rw [Plan.calls_andThen, List.filter_append, opened.filter_eq_nil, calls]
        rfl
      · rw [Plan.result_andThen, Plan.calls_andThen, opened.ofCalls_append, counts]

/-- A sink without refusals is given the answers to a block in the order of its readouts,
besides pulses, and each is counted under its kind.  Neutrons without an answer are
errors.  If one of those calls is refused, that is the end of the block, and the sink has
taken the calls before it. -/
theorem answered_in_order {σ ε : Type} {sink : Sink σ ε}
    (takes : ∀ state call, (sink.offer state call).2 = none) (router : Router) (base : Nat)
    (readouts : List Readout) (state : σ) :
    let plan := router.route base readouts
    let whole := plan.run sink state
    let told := plan.accepted sink state
    let entries := (router.openBlock base readouts).result.withReference readouts
    entries.map Prod.snd = readouts ∧
      told.filter (fun call => !call.isPulse) =
        entries.filterMap (fun entry => router.detector.answer? entry.1 entry.2) ∧
      (∀ entry ∈ entries, entry.2.isNeutron = true →
        (router.detector.answer? entry.1 entry.2 = none ↔
          router.detector.fails entry.1 entry.2 = true)) ∧
      whole.2.2 = none ∧
      whole.1.counts = router.counts.sum (.ofCalls told
        (entries.countP fun entry => router.detector.fails entry.1 entry.2)) ∧
      whole.1.counts.total =
        router.counts.total + readouts.countP (fun readout => !readout.isBlank) ∧
      ∀ number reason,
        let failing := plan.run (sink.failingAt number reason) (state, 0)
        let taken := plan.accepted (sink.failingAt number reason) (state, 0)
        (number < told.length → failing.2.2 = some reason ∧ taken = told.take number) ∧
          (told.length ≤ number → failing.1 = whole.1 ∧ failing.2.1.1 = whole.2.1 ∧
            failing.2.2 = none ∧ taken = told) := by
  intro plan whole told entries
  have every : told = plan.calls := plan.accepted_of_takes takes state
  have reached : whole = (plan.result, whole.2.1, none) := by
    simp only [whole, plan.run_of_takes takes state]
  have answers : AnswersAll router entries plan := answersAll_route router base readouts
  have done : whole.1 = plan.result := congrArg Prod.fst reached
  rw [every, done]
  refine ⟨map_snd_withReference _ _, answers.calls, ?_, ?_, answers.counts,
    (counts_route router base readouts).total, ?_⟩
  · intro entry _ neutron
    exact Detector.answer?_eq_none_iff neutron entry.1
  · exact congrArg (·.2.2) reached
  · intro number reason failing taken
    have failed := plan.run_failingAt takes state 0 number reason
    rw [Nat.zero_add] at failed
    obtain ⟨before, after⟩ := failed
    refine ⟨before, ?_⟩
    intro late
    obtain ⟨ran, accepted⟩ := after late
    change failing = _ at ran
    rw [ran]
    exact ⟨rfl, rfl, rfl, accepted⟩

/-- A block with a readout of almost every kind, of which two neutrons have no answer, and the
third call is refused. -/
theorem mixed_block_answered :
    let detector : Detector := { frameMode := true, minFlight := 10 }
    let router := create detector 16
    let readouts : List Readout :=
      [.neutron 90 5 5 0, .marker .frameStart 100 0, .marker .blank 101 0, .neutron 120 5 5 0,
        .marker .beamMonitor 130 9, .neutron 140 2000 5 0, .marker .veto 141 0,
        .marker .auxFrameStart 150 0, .marker .other 160 7]
    let plan := router.route 0 readouts
    let sink := Recording.sink fun _ => false
    let failing := plan.run (sink.failingAt 3 70) ({}, 0)
    let told : List SinkCall :=
      [.frame 100 false, .pulse 100, .neutron 20 5125, .monitor 130 9, .frame 150 true,
        .custom 160 7]
    (∀ state call, (sink.offer state call).2 = none) ∧
      plan.accepted sink {} = told ∧
      (plan.run sink {}).1.counts =
        { events := 1, errors := 3, frames := 1, auxFrames := 1, monitors := 1, customs := 1 } ∧
      failing.2.2 = some 70 ∧
      plan.accepted (sink.failingAt 3 70) ({}, 0) = told.take 3 := by
  intro detector router readouts plan sink failing told
  have takes : ∀ state call, (sink.offer state call).2 = none := fun _ _ => rfl
  obtain ⟨-, -, -, -, counts, -, refused⟩ := answered_in_order takes router 0 readouts {}
  have every : plan.accepted sink {} = told := by decide +kernel
  obtain ⟨refusal, taken⟩ := (refused 3 70).1 (by rw [every]; decide)
  refine ⟨takes, every, ?_, refusal, ?_⟩
  · rw [counts]
    decide +kernel
  · rw [taken, every]

end Router

end EventFormation
