import EventFormation.Proofs.RouterRefusals
import EventFormation.Report

/-!
# What the router counts

A readout is counted once when it is routed, as an event or as one of the other
kinds, unless it is blank.  The events are the neutrons that the sink is told of.
-/

namespace EventFormation

def RouteCounts.total (counts : RouteCounts) : Nat :=
  counts.events + counts.errors + counts.frames + counts.auxFrames + counts.monitors +
    counts.customs

/-- Whether a readout is of the kind that is not counted. -/
def Readout.isBlank (readout : Readout) : Bool :=
  readout.kind == .blank

namespace Plan

/-- A plan that counts so many readouts, and each neutron that it tells as an event. -/
structure Counts (router : Router) (plan : Plan Router) (counted : Nat) : Prop where
  total : plan.result.counts.total = router.counts.total + counted
  events : plan.result.counts.events = router.counts.events + plan.calls.countP Report.isNeutron

namespace Counts

variable {router : Router} {plan : Plan Router} {counted : Nat}

theorem done {after : Router} (total : after.counts.total = router.counts.total + counted)
    (events : after.counts.events = router.counts.events) :
    Counts router (.done after) counted :=
  ⟨total, events⟩

theorem idle {after : Router} (same : after.counts = router.counts) :
    Counts router (.done after) 0 :=
  ⟨congrArg RouteCounts.total same, congrArg RouteCounts.events same⟩

theorem tell {call : SinkCall} (other : Report.isNeutron call = false) (refused : Router)
    (counts : Counts router plan counted) : Counts router (.tell call refused plan) counted := by
  refine ⟨counts.total, ?_⟩
  rw [calls, List.countP_cons, other]
  exact counts.events

theorem andThen {more : Nat} {next : Router → Plan Router} (counts : Counts router plan counted)
    (later : ∀ after : Router, Counts after (next after) more) :
    Counts router (plan.andThen next) (counted + more) := by
  have rest := later plan.result
  constructor
  · rw [result_andThen, rest.total, counts.total, Nat.add_assoc]
  · rw [result_andThen, rest.events, counts.events, calls_andThen, List.countP_append,
      Nat.add_assoc]

theorem congr {other : Router} (counts : Counts other plan counted)
    (same : other.counts = router.counts) : Counts router plan counted :=
  ⟨same ▸ counts.total, same ▸ counts.events⟩

end Counts

end Plan

namespace Router

open Plan

theorem counts_startPulse (router : Router) (time : Nat) :
    Counts router (router.startPulse time) 0 := by
  unfold startPulse
  split
  · exact .idle rfl
  · exact .tell rfl _ (.idle rfl)

theorem counts_checkQueue (router : Router) (time : Nat) :
    Counts router (router.checkQueue time) 0 := by
  unfold checkQueue
  simp only
  split
  · split
    · split
      · exact (counts_startPulse _ _).congr rfl
      · exact .idle rfl
    · exact .idle rfl
  · exact .idle rfl

theorem counts_tellNeutron (router : Router) (readout : Readout) :
    Counts router (router.tellNeutron readout) 1 := by
  unfold tellNeutron
  split
  · refine ⟨?_, rfl⟩
    simp only [result, RouteCounts.total]
    omega
  · refine .done ?_ rfl
    simp only [RouteCounts.total]
    omega

theorem counts_routeNeutron (router : Router) (readout : Readout) :
    Counts router (router.routeNeutron readout) 1 := by
  unfold routeNeutron
  split
  · exact (counts_checkQueue router _).andThen (counts_tellNeutron · readout)
  · exact counts_tellNeutron router readout

theorem counts_queueFrame (router : Router) (time : Nat) :
    Counts router (router.queueFrame time) 0 := by
  unfold queueFrame
  simp only
  split
  · split
    · exact (counts_startPulse _ _).congr rfl
    · exact .idle rfl
  · exact .idle rfl

theorem counts_routeFrame (router : Router) (time : Nat) :
    Counts router (router.routeFrame time) 1 := by
  refine .tell rfl _ ?_
  have one (queued : Router) : Counts queued
      (.done { queued with counts.frames := queued.counts.frames + 1 }) 1 :=
    .done (by simp only [RouteCounts.total]; omega) rfl
  have queued := (counts_queueFrame router time).andThen one
  rwa [Nat.zero_add] at queued

theorem counts_routeOne (router : Router) (readout : Readout) :
    Counts router (router.routeOne readout) (if readout.isBlank then 0 else 1) := by
  unfold routeOne Readout.isBlank
  cases readout.kind with
  | neutron => exact counts_routeNeutron router readout
  | frameStart => exact counts_routeFrame router _
  | auxFrameStart =>
      change Counts router _ 1
      exact .tell rfl _ (.done (by simp only [RouteCounts.total]; omega) rfl)
  | beamMonitor =>
      change Counts router _ 1
      exact .tell rfl _ (.done (by simp only [RouteCounts.total]; omega) rfl)
  | other =>
      change Counts router _ 1
      exact .tell rfl _ (.done (by simp only [RouteCounts.total]; omega) rfl)
  | blank => exact .idle rfl
  | frameDeassert | veto | invalid =>
      change Counts router _ 1
      exact .done (by simp only [RouteCounts.total]; omega) rfl

theorem counts_routeAll (router : Router) (readouts : List Readout) :
    Counts router (router.routeAll readouts) (readouts.countP fun readout => !readout.isBlank) := by
  induction readouts generalizing router with
  | nil => exact .idle rfl
  | cons readout rest induction =>
      have both := (counts_routeOne router readout).andThen induction
      rw [List.countP_cons, Nat.add_comm]
      cases blank : readout.isBlank with
      | true => simpa [blank, routeAll] using both
      | false => simpa [blank, routeAll] using both

theorem counts_route (router : Router) (base : Nat) (readouts : List Readout) :
    Counts router (router.route base readouts)
      (readouts.countP fun readout => !readout.isBlank) := by
  unfold route
  cases readouts with
  | nil => exact .idle rfl
  | cons readout rest =>
      have opened : Counts router (router.openBlock base (readout :: rest)) 0 := by
        unfold openBlock
        split
        · exact counts_startPulse router _
        · exact .idle rfl
      have both := opened.andThen (counts_routeAll · (readout :: rest))
      rwa [Nat.zero_add] at both

theorem counts_flush (router : Router) : Counts router router.flush 0 :=
  .tell rfl _ (.idle rfl)

end Router

/-- The readouts that are handed to the router. -/
def RouterStep.handed : RouterStep → List Readout
  | .route _ readouts => readouts
  | .flush => []
  | .resetFrames => []

namespace Router

/-- What the router plans when it is asked for a step. -/
def plan (router : Router) : RouterStep → Plan Router
  | .route base readouts => router.route base readouts
  | .flush => router.flush
  | .resetFrames => .done router.resetFrames

/-- What the router plans when it is asked for steps, one after the other. -/
def planAll (router : Router) : List RouterStep → Plan Router
  | [] => .done router
  | step :: steps => (router.plan step).andThen (·.planAll steps)

theorem counts_plan (router : Router) (step : RouterStep) :
    Plan.Counts router (router.plan step) (step.handed.countP fun readout => !readout.isBlank) := by
  cases step with
  | route base readouts => exact counts_route router base readouts
  | flush => exact counts_flush router
  | resetFrames => exact .idle rfl

/-- All that is handed to the router is counted, unless it is blank. -/
theorem counts_planAll (router : Router) (steps : List RouterStep) :
    Plan.Counts router (router.planAll steps)
      ((steps.flatMap RouterStep.handed).countP fun readout => !readout.isBlank) := by
  induction steps generalizing router with
  | nil => exact .idle rfl
  | cons step steps induction =>
      rw [List.flatMap_cons, List.countP_append]
      exact (counts_plan router step).andThen induction

theorem planAll_append (router : Router) (first second : List RouterStep) :
    router.planAll (first ++ second) = (router.planAll first).andThen (·.planAll second) := by
  induction first generalizing router with
  | nil => rfl
  | cons step steps induction =>
      rw [List.cons_append, planAll, planAll, Plan.andThen_assoc]
      exact congrArg _ (funext induction)

end Router

end EventFormation
