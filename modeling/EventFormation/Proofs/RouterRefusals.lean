import EventFormation.Proofs.RouterPulses

/-!
# Routing to a sink that refuses calls

A sink may refuse any call, and the next block is routed all the same.  The
router never takes a pulse for known that the sink has refused.  Without frames
a neutron is measured against that pulse, so what the sink is told of it is
right whatever has been refused before.

Against frames a neutron is measured against the frame in use.  A frame is put
into use before the sink is told of it, and stays in use if the sink refuses the
pulse.  So what the sink is told is right exactly as long as the frame in use is
the pulse that it knows, which is always the case if no pulse has been refused.
-/

namespace EventFormation

/-- A call that has been offered to a sink. -/
structure Offer (ρ : Type) where
  call : SinkCall
  /-- The teller as it is left behind if the call is refused. -/
  left : ρ
  taken : Bool

namespace SinkCall

def pulseAfter (pulse : Option Nat) : SinkCall → Option Nat
  | .pulse time => some time
  | _ => pulse

/-- What is told of a neutron is its time after a pulse, which it is not before. -/
def MeasuredFrom (readout : Option Readout) (pulse : Option Nat) : SinkCall → Prop
  | .neutron flight _ => ∃ start ∈ pulse, ∃ routed ∈ readout,
      start ≤ routed.time.toNat ∧ flight = routed.time.toNat - start
  | _ => True

instance (readout : Option Readout) (pulse : Option Nat) (call : SinkCall) :
    Decidable (call.MeasuredFrom readout pulse) :=
  match call, readout, pulse with
  | .neutron flight _, some routed, some start =>
    decidable_of_iff
      (start ≤ routed.time.toNat ∧ flight = routed.time.toNat - start) (by simp [MeasuredFrom])
  | .neutron _ _, none, _ => .isFalse (by simp [MeasuredFrom])
  | .neutron _ _, _, none => .isFalse (by simp [MeasuredFrom])
  | .pulse _, _, _ | .frame _ _, _, _ | .monitor _ _, _, _ | .custom _ _, _, _ | .flush, _, _ =>
    .isTrue trivial

end SinkCall

namespace Plan

variable {ρ σ ε : Type}

/-- What is offered to a sink when a plan is told to it. -/
def offers (sink : Sink σ ε) (state : σ) : Plan ρ → List (Offer ρ)
  | done _ => []
  | tell call left rest =>
    match sink.offer state call with
    | (_, some _) => [{ call, left, taken := false }]
    | (state, none) => { call, left, taken := true } :: rest.offers sink state

theorem run_andThen (sink : Sink σ ε) (state : σ) (plan : Plan ρ) (next : ρ → Plan ρ) :
    (plan.andThen next).run sink state =
        (match plan.run sink state with
        | (result, after, none) => (next result).run sink after
        | (left, after, some reason) => (left, after, some reason)) ∧
      (plan.andThen next).offers sink state = plan.offers sink state ++
        match plan.run sink state with
        | (result, after, none) => (next result).offers sink after
        | (_, _, some _) => [] := by
  induction plan generalizing state with
  | done result => exact ⟨rfl, rfl⟩
  | tell call left rest induction =>
      rw [andThen, run, offers, run, offers]
      rcases told : sink.offer state call with ⟨after, refusal⟩
      cases refusal with
      | none =>
          obtain ⟨ran, offered⟩ := induction after
          exact ⟨ran, congrArg (_ :: ·) offered⟩
      | some reason => exact ⟨rfl, rfl⟩

end Plan

/-- A call that has been offered, and the readout that was being routed. -/
structure Entry extends Offer Router where
  readout : Option Readout

/-- A router, the state of its sink, and all that the sink has been offered. -/
structure Exchange (σ : Type) where
  router : Router
  state : σ
  log : List Entry := []

/-- What can be asked of a router. -/
inductive RouterStep where
  | route (base : Nat) (readouts : List Readout)
  | flush
  | resetFrames
  deriving DecidableEq

namespace Exchange

variable {σ ε : Type} (sink : Sink σ ε)

/-- Tells a plan to the sink, and says whether it got to its end. -/
def tell (exchange : Exchange σ) (readout : Option Readout) (plan : Plan Router) :
    Exchange σ × Option ε :=
  let (router, state, refusal) := plan.run sink exchange.state
  let log := exchange.log ++
    (plan.offers sink exchange.state).map fun offer => { offer with readout }
  ({ router, state, log }, refusal)

/-- Goes on after something has been told, unless it was refused. -/
def resume (result : Exchange σ × Option ε) (rest : Exchange σ → Exchange σ × Option ε) :
    Exchange σ × Option ε :=
  match result.2 with
  | none => rest result.1
  | some _ => result

/-- Routes readouts one after the other, up to the first refusal. -/
def routeAll (exchange : Exchange σ) : List Readout → Exchange σ × Option ε
  | [] => (exchange, none)
  | readout :: rest =>
    resume (exchange.tell sink (some readout) (exchange.router.routeOne readout)) fun after =>
      after.routeAll rest

/-- Routes a block, up to the first refusal. -/
def route (exchange : Exchange σ) (base : Nat) (readouts : List Readout) :
    Exchange σ × Option ε :=
  if readouts.isEmpty then
    (exchange, none)
  else
    resume (exchange.tell sink none (exchange.router.openBlock base readouts)) fun after =>
      after.routeAll sink readouts

/-- Performs a step.  After a refusal the next step is performed all the same. -/
def perform (exchange : Exchange σ) : RouterStep → Exchange σ
  | .route base readouts => (exchange.route sink base readouts).1
  | .flush => (exchange.tell sink none exchange.router.flush).1
  | .resetFrames => { exchange with router := exchange.router.resetFrames }

def follow (exchange : Exchange σ) (steps : List RouterStep) : Exchange σ :=
  steps.foldl (perform sink) exchange

theorem follow_concat (exchange : Exchange σ) (steps : List RouterStep) (step : RouterStep) :
    exchange.follow sink (steps ++ [step]) = (exchange.follow sink steps).perform sink step :=
  List.foldl_concat ..

/-- What it means that a plan has been told: the router, the sink and the offers
are those of the plan. -/
structure Ran (exchange : Exchange σ) (plan : Plan Router) (result : Exchange σ × Option ε) :
    Prop where
  run : (result.1.router, result.1.state, result.2) = plan.run sink exchange.state
  offers : result.1.log.map Entry.toOffer =
    exchange.log.map Entry.toOffer ++ plan.offers sink exchange.state

variable {sink}

theorem ran_tell (exchange : Exchange σ) (readout : Option Readout) (plan : Plan Router) :
    Ran sink exchange plan (exchange.tell sink readout plan) := by
  refine ⟨rfl, ?_⟩
  rw [tell, List.map_append, List.map_map]
  exact congrArg (_ ++ ·) (List.map_id _)

theorem Ran.andThen {exchange : Exchange σ} {plan : Plan Router} {result : Exchange σ × Option ε}
    (ran : Ran sink exchange plan result) (next : Router → Plan Router)
    (rest : Exchange σ → Exchange σ × Option ε)
    (goesOn : ∀ after, Ran sink after (next after.router) (rest after)) :
    Ran sink exchange (plan.andThen next) (resume result rest) := by
  obtain ⟨ranAll, offeredAll⟩ := plan.run_andThen sink exchange.state next
  obtain ⟨after, refusal⟩ := result
  have first := ran.run
  have offered := ran.offers
  cases refusal with
  | none =>
      have later := goesOn after
      constructor
      · rw [ranAll, ← first]
        exact later.run
      · rw [offeredAll, ← first, ← List.append_assoc, ← offered]
        exact later.offers
  | some reason =>
      constructor
      · rw [ranAll, ← first]
        rfl
      · rw [offeredAll, ← first, ← List.append_assoc, ← offered, List.append_nil]
        rfl

theorem ran_routeAll (exchange : Exchange σ) (readouts : List Readout) :
    Ran sink exchange (exchange.router.routeAll readouts) (exchange.routeAll sink readouts) := by
  induction readouts generalizing exchange with
  | nil => exact ⟨rfl, (List.append_nil _).symm⟩
  | cons readout rest induction =>
      exact (ran_tell exchange (some readout) _).andThen (·.routeAll rest) _ induction

/-- A block is routed as the router routes it. -/
theorem ran_route (exchange : Exchange σ) (base : Nat) (readouts : List Readout) :
    Ran sink exchange (exchange.router.route base readouts)
      (exchange.route sink base readouts) := by
  unfold route Router.route
  split
  · exact ⟨rfl, (List.append_nil _).symm⟩
  · exact (ran_tell exchange none _).andThen (·.routeAll readouts) _ (ran_routeAll · readouts)

end Exchange

namespace Entry

/-- The latest pulse that has been taken, after an entry. -/
def pulseAfter (pulse : Option Nat) (entry : Entry) : Option Nat :=
  if entry.taken then entry.call.pulseAfter pulse else pulse

/-- The latest pulse that has been taken, after entries. -/
def lastTaken (pulse : Option Nat) (entries : List Entry) : Option Nat :=
  entries.foldl pulseAfter pulse

/-- All that is told of neutrons is their time after the latest pulse that has
been taken. -/
def AllRight (pulse : Option Nat) : List Entry → Prop
  | [] => True
  | entry :: rest =>
    entry.call.MeasuredFrom entry.readout pulse ∧ AllRight (entry.pulseAfter pulse) rest

instance decidableAllRight (pulse : Option Nat) :
    (entries : List Entry) → Decidable (AllRight pulse entries)
  | [] => .isTrue trivial
  | entry :: rest =>
    have := decidableAllRight (entry.pulseAfter pulse) rest
    inferInstanceAs (Decidable (_ ∧ _))

/-- The router takes the latest pulse that has been taken for known, and measures
neutrons against its reference. -/
def Kept (pulse : Option Nat) : List Entry → Prop
  | [] => True
  | entry :: rest =>
    entry.left.pulse = pulse ∧ entry.call.MeasuredFrom entry.readout entry.left.reference ∧
      Kept (entry.pulseAfter pulse) rest

def Tells (entry : Entry) : Prop :=
  ∃ flight pixel, entry.call = .neutron flight pixel

/-- The entry is a pulse that has been refused. -/
def RefusesPulse (entry : Entry) : Prop :=
  entry.taken = false ∧ ∃ time, entry.call = .pulse time

theorem kept_append {pulse : Option Nat} {earlier later : List Entry} :
    Kept pulse (earlier ++ later) ↔
      Kept pulse earlier ∧ Kept (lastTaken pulse earlier) later := by
  induction earlier generalizing pulse with
  | nil => exact (true_and _).symm.to_iff
  | cons entry rest induction =>
      simp only [List.cons_append, Kept, induction, and_assoc]
      rfl

theorem eq_of_measuredFrom {entry : Entry} {one other : Option Nat} (tells : entry.Tells)
    (first : entry.call.MeasuredFrom entry.readout one)
    (second : entry.call.MeasuredFrom entry.readout other) : one = other := by
  obtain ⟨flight, pixel, call⟩ := tells
  rw [call] at first second
  obtain ⟨start, rfl, neutron, routed, before, flown⟩ := first
  obtain ⟨otherStart, rfl, same, routedSame, otherBefore, otherFlown⟩ := second
  obtain rfl : neutron = same := Option.some.inj (routed.symm.trans routedSame)
  have equal : start = otherStart := by omega
  rw [equal]

theorem measuredFrom_of_not_tells {entry : Entry} (other : ¬entry.Tells) (pulse : Option Nat) :
    entry.call.MeasuredFrom entry.readout pulse := by
  cases call : entry.call with
  | neutron flight pixel => exact absurd ⟨flight, pixel, call⟩ other
  | _ => trivial

theorem Kept.measured {pulse : Option Nat} {entries : List Entry} (kept : Kept pulse entries) :
    ∀ entry ∈ entries, entry.call.MeasuredFrom entry.readout entry.left.reference := by
  induction entries generalizing pulse with
  | nil => exact fun _ member => absurd member List.not_mem_nil
  | cons entry rest induction =>
      obtain ⟨-, measured, keptRest⟩ := kept
      exact List.forall_mem_cons.mpr ⟨measured, induction keptRest⟩

theorem reference_ne_none {entry : Entry} (tells : entry.Tells)
    (measured : entry.call.MeasuredFrom entry.readout entry.left.reference) :
    entry.left.reference ≠ none := by
  obtain ⟨flight, pixel, call⟩ := tells
  rw [call] at measured
  obtain ⟨start, inUse, -⟩ := measured
  exact Option.ne_none_iff_exists'.mpr ⟨start, inUse⟩

/-- What is told is right exactly if at every neutron the reference of the router
is the pulse that it takes for known. -/
theorem Kept.allRight_iff {pulse : Option Nat} {entries : List Entry}
    (kept : Kept pulse entries) : AllRight pulse entries ↔
      ∀ entry ∈ entries, entry.Tells → entry.left.reference = entry.left.pulse := by
  induction entries generalizing pulse with
  | nil => exact ⟨fun _ _ member => absurd member List.not_mem_nil, fun _ => trivial⟩
  | cons entry rest induction =>
      obtain ⟨known, measured, keptRest⟩ := kept
      rw [AllRight, induction keptRest, List.forall_mem_cons]
      refine and_congr_left' ⟨?_, ?_⟩
      · intro right tells
        rw [known]
        exact eq_of_measuredFrom tells measured right
      · intro same
        by_cases tells : entry.Tells
        · rw [← known, ← same tells]
          exact measured
        · exact measuredFrom_of_not_tells tells pulse

end Entry

namespace Plan

/-- Whatever is left behind at a call or reached at the end has the detector and
takes the latest pulse for known, and neutrons are measured against its
reference. -/
def Faithful (detector : Detector) (readout : Option Readout) (pulse : Option Nat) :
    Plan Router → Prop
  | done after => after.detector = detector ∧ after.pulse = pulse
  | tell call left rest =>
    (left.detector = detector ∧ left.pulse = pulse ∧ call.MeasuredFrom readout left.reference) ∧
      rest.Faithful detector readout (call.pulseAfter pulse)

theorem Faithful.andThen {detector : Detector} {readout : Option Readout} {pulse : Option Nat}
    {plan : Plan Router} (faithful : plan.Faithful detector readout pulse)
    {next : Router → Plan Router}
    (goesOn : ∀ after : Router, after.detector = detector →
      (next after).Faithful detector readout after.pulse) :
    (plan.andThen next).Faithful detector readout pulse := by
  induction plan generalizing pulse with
  | done after =>
      obtain ⟨same, rfl⟩ := faithful
      exact goesOn after same
  | tell call left rest induction => exact ⟨faithful.1, induction faithful.2⟩

/-- What a faithful plan makes of a router, and what it offers on the way. -/
theorem Faithful.kept {σ ε : Type} {detector : Detector} {readout : Option Readout}
    {pulse : Option Nat} {plan : Plan Router} (faithful : plan.Faithful detector readout pulse)
    (sink : Sink σ ε) (state : σ) :
    let entries := (plan.offers sink state).map fun offer => { offer with readout : Entry }
    let after := (plan.run sink state).1
    after.detector = detector ∧ after.pulse = Entry.lastTaken pulse entries ∧
      Entry.Kept pulse entries ∧ ∀ entry ∈ entries, entry.left.detector = detector := by
  induction plan generalizing pulse state with
  | done after =>
      exact ⟨faithful.1, faithful.2, trivial, fun _ member => absurd member List.not_mem_nil⟩
  | tell call left rest induction =>
      -- What is left behind at a refusal has to be faithful too, as the run goes on from there.
      obtain ⟨⟨same, known, measured⟩, faithfulRest⟩ := faithful
      rw [run, offers]
      rcases sink.offer state call with ⟨after, refusal⟩
      cases refusal with
      | none =>
          obtain ⟨sameAfter, knownAfter, kept, sameRest⟩ := induction faithfulRest after
          exact ⟨sameAfter, knownAfter, ⟨known, measured, kept⟩,
            List.forall_mem_cons.mpr ⟨same, sameRest⟩⟩
      | some reason =>
          exact ⟨same, known, ⟨known, measured, trivial⟩, List.forall_mem_singleton.mpr same⟩

end Plan

namespace Router

/-- Against frames, the frame in use is the pulse that the sink has been told of. -/
def Aligned (router : Router) : Prop :=
  router.detector.frameMode = true → ∀ start, router.frame = some start →
    router.pulse = some start

theorem Aligned.reference_eq {router : Router} (aligned : router.Aligned)
    (inUse : router.reference ≠ none) : router.reference = router.pulse := by
  cases mode : router.detector.frameMode with
  | false => exact reference_of_passing mode
  | true =>
      have frame : router.reference = router.frame := if_pos mode
      rw [frame] at inUse ⊢
      obtain ⟨start, same⟩ := Option.ne_none_iff_exists'.mp inUse
      rw [same, aligned mode start same]

end Router

namespace Plan

/-- What is left behind at a call or reached at the end is aligned.  Only if a
pulse is refused may it not be. -/
def Aligned : Plan Router → Prop
  | done after => after.Aligned
  | tell call left rest => (left.Aligned ∨ ∃ time, call = .pulse time) ∧ rest.Aligned

theorem Aligned.andThen {plan : Plan Router} (aligned : plan.Aligned)
    {next : Router → Plan Router}
    (goesOn : ∀ after : Router, after.Aligned → (next after).Aligned) :
    (plan.andThen next).Aligned := by
  induction plan with
  | done after => exact goesOn after aligned
  | tell call left rest induction => exact ⟨aligned.1, induction aligned.2⟩

theorem Aligned.of_no_refusal {σ ε : Type} {plan : Plan Router} (aligned : plan.Aligned)
    (sink : Sink σ ε) (state : σ)
    (accepted : ∀ offer ∈ plan.offers sink state,
      ¬(offer.taken = false ∧ ∃ time, offer.call = .pulse time)) :
    (plan.run sink state).1.Aligned ∧
      ∀ offer ∈ plan.offers sink state, offer.left.Aligned ∨ ∃ time, offer.call = .pulse time := by
  induction plan generalizing state with
  | done after => exact ⟨aligned, fun _ member => absurd member List.not_mem_nil⟩
  | tell call left rest induction =>
      obtain ⟨here, alignedRest⟩ := aligned
      rw [run]
      rw [offers] at accepted ⊢
      generalize sink.offer state call = told at accepted ⊢
      obtain ⟨after, refusal⟩ := told
      cases refusal with
      | none =>
          obtain ⟨ran, others⟩ := induction alignedRest after
            (fun offer member => accepted offer (List.mem_cons_of_mem _ member))
          exact ⟨ran, List.forall_mem_cons.mpr ⟨here, others⟩⟩
      | some reason =>
          have noPulse := accepted _ (List.mem_singleton_self _)
          have kept : left.Aligned := by
            rcases here with kept | pulse
            · exact kept
            · exact absurd ⟨rfl, pulse⟩ noPulse
          exact ⟨kept, List.forall_mem_singleton.mpr here⟩

end Plan

namespace Router

theorem faithful_startPulse {router : Router} {detector : Detector} {pulse : Option Nat}
    (same : router.detector = detector) (known : router.pulse = pulse)
    (readout : Option Readout) (time : Nat) :
    (router.startPulse time).Faithful detector readout pulse := by
  unfold startPulse
  split
  · exact ⟨same, known⟩
  · exact ⟨⟨same, known, trivial⟩, same, rfl⟩

theorem aligned_startPulse (router : Router) (time : Nat)
    (inUse : router.detector.frameMode = true → router.frame = some time) :
    (router.startPulse time).Aligned := by
  have started (pulse : Option Nat) (pending : Nat) (same : pulse = some time) :
      ({ router with pulse, pending } : Router).Aligned := by
    intro mode start frame
    exact same.trans ((inUse mode).symm.trans frame)
  unfold startPulse
  split
  · rename_i current
    exact started router.pulse router.pending current
  · exact ⟨.inr ⟨time, rfl⟩, started (some time) 0 rfl⟩

theorem shiftQueue_cases (delay floor : Nat) (frame : Option Nat) (queue : List Nat) :
    shiftQueue delay floor frame queue = (frame, queue) ∨
      (∃ start, (shiftQueue delay floor frame queue).1 = some start) ∧
        (shiftQueue delay floor frame queue).2.length < queue.length := by
  induction queue generalizing frame with
  | nil => exact .inl rfl
  | cons front rest induction =>
      by_cases early : front + delay ≤ floor
      · rw [shiftQueue, if_pos early]
        refine .inr ?_
        rcases induction (some front) with same | ⟨some, shorter⟩
        · rw [same]
          exact ⟨⟨front, rfl⟩, Nat.lt_succ_self _⟩
        · exact ⟨some, Nat.lt_succ_of_lt shorter⟩
      · rw [shiftQueue, if_neg early]
        exact .inl rfl

theorem faithful_checkQueue (router : Router) (readout : Option Readout) (time : Nat) :
    (router.checkQueue time).Faithful router.detector readout router.pulse := by
  unfold checkQueue
  simp only
  split
  · split
    · split
      · refine faithful_startPulse ?_ ?_ readout _
        · rfl
        · rfl
      · exact ⟨rfl, rfl⟩
    · exact ⟨rfl, rfl⟩
  · exact ⟨rfl, rfl⟩

theorem aligned_checkQueue {router : Router} (aligned : router.Aligned) (time : Nat) :
    (router.checkQueue time).Aligned := by
  unfold checkQueue
  simp only
  split
  · have shifted := shiftQueue_cases router.delay (router.floor time) router.frame router.queue
    generalize shiftQueue router.delay (router.floor time) router.frame router.queue = result
      at shifted ⊢
    rcases shifted with rfl | ⟨⟨start, same⟩, shorter⟩
    · simp only [Nat.lt_irrefl, if_false]
      split
      · exact aligned
      · exact aligned
    · rw [same]
      simp only [shorter, if_true]
      exact aligned_startPulse _ start fun _ => rfl
  · exact aligned

theorem faithful_tellNeutron (router : Router) (readout : Readout) :
    (router.tellNeutron readout).Faithful router.detector (some readout) router.pulse := by
  unfold tellNeutron
  split
  · rename_i flight pixel event
    unfold event? at event
    split at event
    · rename_i start place reference _
      split at event
      · rename_i before
        obtain ⟨rfl, rfl⟩ := Prod.mk.inj (Option.some.inj event)
        exact ⟨⟨rfl, rfl, start, reference, readout, rfl, before, rfl⟩, rfl, rfl⟩
      · contradiction
    · contradiction
  · exact ⟨rfl, rfl⟩

theorem aligned_tellNeutron {router : Router} (aligned : router.Aligned) (readout : Readout) :
    (router.tellNeutron readout).Aligned := by
  unfold tellNeutron
  split
  · exact ⟨.inl aligned, aligned⟩
  · exact aligned

theorem faithful_queueFrame (router : Router) (readout : Option Readout) (time : Nat) :
    (router.queueFrame time).Faithful router.detector readout router.pulse := by
  unfold queueFrame
  simp only
  split
  · split
    · refine faithful_startPulse ?_ ?_ readout _
      · rfl
      · rfl
    · exact ⟨rfl, rfl⟩
  · exact ⟨rfl, rfl⟩

theorem aligned_queueFrame {router : Router} (aligned : router.Aligned) (time : Nat) :
    (router.queueFrame time).Aligned := by
  unfold queueFrame
  simp only
  split
  · split
    · exact aligned_startPulse _ _ fun _ => rfl
    · exact aligned
  · exact aligned

theorem faithful_routeOne (router : Router) (readout : Readout) :
    (router.routeOne readout).Faithful router.detector (some readout) router.pulse := by
  unfold routeOne
  cases readout.kind with
  | neutron =>
      simp only [routeNeutron]
      split
      · refine (faithful_checkQueue router (some readout) _).andThen ?_
        intro after same
        rw [← same]
        exact faithful_tellNeutron after readout
      · exact faithful_tellNeutron router readout
  | frameStart =>
      have queued := faithful_queueFrame router (some readout) readout.time.toNat
      exact ⟨⟨rfl, rfl, trivial⟩, queued.andThen fun after same => ⟨same, rfl⟩⟩
  | auxFrameStart | beamMonitor | other => exact ⟨⟨rfl, rfl, trivial⟩, rfl, rfl⟩
  | blank | frameDeassert | veto | invalid => exact ⟨rfl, rfl⟩

theorem aligned_routeOne {router : Router} (aligned : router.Aligned) (readout : Readout) :
    (router.routeOne readout).Aligned := by
  unfold routeOne
  cases readout.kind with
  | neutron =>
      simp only [routeNeutron]
      split
      · exact (aligned_checkQueue aligned _).andThen fun _ next => aligned_tellNeutron next readout
      · exact aligned_tellNeutron aligned readout
  | frameStart =>
      exact ⟨.inl aligned, (aligned_queueFrame aligned _).andThen fun _ next => next⟩
  | auxFrameStart | beamMonitor | other => exact ⟨.inl aligned, aligned⟩
  | blank | frameDeassert | veto | invalid => exact aligned

theorem faithful_openBlock (router : Router) (base : Nat) (readouts : List Readout) :
    (router.openBlock base readouts).Faithful router.detector none router.pulse := by
  unfold openBlock
  split
  · exact faithful_startPulse rfl rfl none _
  · exact ⟨rfl, rfl⟩

theorem aligned_openBlock {router : Router} (aligned : router.Aligned) (base : Nat)
    (readouts : List Readout) : (router.openBlock base readouts).Aligned := by
  unfold openBlock
  split
  · rename_i passing
    refine aligned_startPulse router _ ?_
    intro mode
    simp [mode] at passing
  · exact aligned

end Router

namespace Exchange

variable {σ ε : Type} {sink : Sink σ ε} {detector : Detector}

/-- The router takes the latest pulse that the sink has taken for known, and has
always done so.  As long as no pulse is refused, it stays aligned. -/
structure Honest (detector : Detector) (exchange : Exchange σ) : Prop where
  same : exchange.router.detector = detector
  pulse : exchange.router.pulse = Entry.lastTaken none exchange.log
  kept : Entry.Kept none exchange.log
  detectors : ∀ entry ∈ exchange.log, entry.left.detector = detector
  aligned : (∀ entry ∈ exchange.log, ¬entry.RefusesPulse) →
    exchange.router.Aligned ∧ ∀ entry ∈ exchange.log, entry.Tells → entry.left.Aligned

theorem Honest.tell {exchange : Exchange σ} (honest : exchange.Honest detector)
    {readout : Option Readout} {plan : Plan Router}
    (faithful : plan.Faithful detector readout exchange.router.pulse)
    (aligned : exchange.router.Aligned → plan.Aligned) :
    (exchange.tell sink readout plan).1.Honest detector := by
  obtain ⟨same, known, kept, detectors⟩ := faithful.kept sink exchange.state
  have last : Entry.lastTaken none (exchange.tell sink readout plan).1.log =
      Entry.lastTaken exchange.router.pulse
        ((plan.offers sink exchange.state).map fun offer => { offer with readout : Entry }) := by
    rw [honest.pulse]
    exact List.foldl_append
  constructor
  · exact same
  · exact known.trans last.symm
  · refine Entry.kept_append.mpr ⟨honest.kept, ?_⟩
    rw [← honest.pulse]
    exact kept
  · exact List.forall_mem_append.mpr ⟨honest.detectors, detectors⟩
  · intro accepted
    obtain ⟨earlier, later⟩ := List.forall_mem_append.mp accepted
    obtain ⟨alignedBefore, tellsBefore⟩ := honest.aligned earlier
    obtain ⟨alignedAfter, offered⟩ := (aligned alignedBefore).of_no_refusal sink exchange.state
      (fun offer member => later _ (List.mem_map_of_mem member))
    refine ⟨alignedAfter, List.forall_mem_append.mpr ⟨tellsBefore, ?_⟩⟩
    rintro entry member ⟨flight, pixel, call⟩
    obtain ⟨offer, offerMember, rfl⟩ := List.mem_map.mp member
    rcases offered offer offerMember with here | ⟨time, pulse⟩
    · exact here
    · have both : SinkCall.neutron flight pixel = .pulse time := call.symm.trans pulse
      contradiction

theorem Honest.routeAll {exchange : Exchange σ} (honest : exchange.Honest detector)
    (readouts : List Readout) : (exchange.routeAll sink readouts).1.Honest detector := by
  induction readouts generalizing exchange with
  | nil => exact honest
  | cons readout rest induction =>
      have faithful := exchange.router.faithful_routeOne readout
      rw [honest.same] at faithful
      have first : (exchange.tell sink (some readout)
          (exchange.router.routeOne readout)).1.Honest detector :=
        honest.tell faithful fun aligned => Router.aligned_routeOne aligned readout
      rw [Exchange.routeAll, resume]
      split
      · exact induction first
      · exact first

theorem Honest.route {exchange : Exchange σ} (honest : exchange.Honest detector) (base : Nat)
    (readouts : List Readout) : (exchange.route sink base readouts).1.Honest detector := by
  have faithful := exchange.router.faithful_openBlock base readouts
  rw [honest.same] at faithful
  have opened : (exchange.tell sink none
      (exchange.router.openBlock base readouts)).1.Honest detector :=
    honest.tell faithful fun aligned => Router.aligned_openBlock aligned base readouts
  unfold Exchange.route
  split
  · exact honest
  · rw [resume]
    split
    · exact opened.routeAll readouts
    · exact opened

theorem Honest.perform {exchange : Exchange σ} (honest : exchange.Honest detector)
    (step : RouterStep) : (exchange.perform sink step).Honest detector := by
  cases step with
  | route base readouts => exact honest.route base readouts
  | flush =>
      refine honest.tell ⟨⟨honest.same, rfl, trivial⟩, honest.same, rfl⟩ ?_
      exact fun aligned => ⟨.inl aligned, aligned⟩
  | resetFrames =>
      have forgotten : exchange.router.resetFrames.Aligned := fun _ _ none => by contradiction
      exact { honest with
        aligned := fun accepted => ⟨forgotten, (honest.aligned accepted).2⟩ }

theorem honest_follow (sink : Sink σ ε) (state : σ) (detector : Detector) (fineWidth : Nat)
    (steps : List RouterStep) :
    (Exchange.follow sink { router := .create detector fineWidth, state } steps).Honest
      detector := by
  induction steps using List.reverseRecOn with
  | nil =>
      exact
        { same := rfl
          pulse := rfl
          kept := trivial
          detectors := fun _ member => absurd member List.not_mem_nil
          aligned := fun _ => ⟨fun _ _ none => by contradiction,
            fun _ member => absurd member List.not_mem_nil⟩ }
  | append_singleton steps step induction =>
      rw [follow_concat]
      exact induction.perform step

/-- What a sink is told of neutrons is their time after the latest pulse that it
has taken, exactly as long as the reference of the router is that pulse.  So it
is without frames, whatever is refused, and against frames if no pulse is. -/
theorem follow_allRight_iff (sink : Sink σ ε) (state : σ) (detector : Detector) (fineWidth : Nat)
    (steps : List RouterStep) :
    let log := (Exchange.follow sink { router := .create detector fineWidth, state } steps).log
    (Entry.AllRight none log ↔
        ∀ entry ∈ log, entry.Tells → entry.left.reference = entry.left.pulse) ∧
      (detector.frameMode = false ∨ (∀ entry ∈ log, ¬entry.RefusesPulse) →
        Entry.AllRight none log) := by
  intro log
  have honest := honest_follow sink state detector fineWidth steps
  have right := honest.kept.allRight_iff
  refine ⟨right, ?_⟩
  intro harmless
  refine right.mpr ?_
  intro entry member tells
  rcases harmless with passing | accepted
  · apply Router.reference_of_passing
    rw [honest.detectors entry member, passing]
  · have inUse := Entry.reference_ne_none tells (honest.kept.measured entry member)
    exact ((honest.aligned accepted).2 entry member tells).reference_eq inUse

/-- A frame whose pulse has been refused is in use for the neutron that follows,
of which the sink is told though it knows of no pulse. -/
theorem refused_pulse_misleads :
    let detector : Detector := { columns := 16, rows := 16, frameMode := true, minFlight := 0 }
    let sink := Recording.sink (· == 1)
    let steps : List RouterStep :=
      [.route 0 [.marker .frameStart 10 0], .route 0 [.neutron 100 5 5 1]]
    let final := Exchange.follow sink { router := .create detector 16, state := {} } steps
    final.state.calls = #[.frame 10 false, .neutron 90 85] ∧ ¬Entry.AllRight none final.log := by
  decide +kernel

end Exchange

end EventFormation
