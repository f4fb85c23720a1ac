import EventFormation.Router
import Mathlib

/-!
# Routing against frames

When times of flight are measured against frames, a block starts no pulse of
its own and the number of pending neutrons is only kept, not looked at.  What
the sink is told then depends on the readouts alone and not on how they are
cut into blocks, nor on when the sink is flushed.
-/

namespace EventFormation

namespace Router

/-- The router with no neutron pending. -/
def settle (router : Router) : Router :=
  { router with pending := 0 }

/-- Plans that make the same calls and end alike, pending neutrons aside. -/
structure Alike (one other : Plan Router) : Prop where
  calls : one.calls = other.calls
  settle : one.result.settle = other.result.settle

namespace Alike

variable {one other : Plan Router}

theorem done {first second : Router} (same : first.settle = second.settle) :
    Alike (.done first) (.done second) :=
  ⟨rfl, same⟩

theorem tell (call : SinkCall) (refused otherRefused : Router) (alike : Alike one other) :
    Alike (.tell call refused one) (.tell call otherRefused other) :=
  ⟨congrArg (call :: ·) alike.calls, alike.settle⟩

theorem andThen {next : Router → Plan Router} (alike : Alike one other)
    (nextAlike : ∀ first second : Router, first.settle = second.settle →
      Alike (next first) (next second)) :
    Alike (one.andThen next) (other.andThen next) := by
  have rest := nextAlike one.result other.result alike.settle
  constructor
  · rw [Plan.calls_andThen, Plan.calls_andThen, alike.calls, rest.calls]
  · rw [Plan.result_andThen, Plan.result_andThen, rest.settle]

theorem ite {condition : Prop} [Decidable condition] {oneElse otherElse : Plan Router}
    (yes : Alike one other) (no : Alike oneElse otherElse) :
    Alike (if condition then one else oneElse) (if condition then other else otherElse) := by
  by_cases holds : condition
  · rwa [if_pos holds, if_pos holds]
  · rwa [if_neg holds, if_neg holds]

end Alike

theorem exists_pending_eq {one other : Router} (same : one.settle = other.settle) :
    ∃ pending, other = { one with pending } := by
  refine ⟨other.pending, ?_⟩
  cases one
  cases other
  simp only [settle, mk.injEq] at same ⊢
  tauto

section

variable {one other : Router} (same : one.settle = other.settle)
include same

theorem alike_startPulse (time : Nat) : Alike (one.startPulse time) (other.startPulse time) := by
  obtain ⟨pending, rfl⟩ := exists_pending_eq same
  exact Alike.ite (Alike.done rfl) (Alike.tell _ _ _ (Alike.done rfl))

theorem alike_checkQueue (time : Nat) : Alike (one.checkQueue time) (other.checkQueue time) := by
  obtain ⟨pending, rfl⟩ := exists_pending_eq same
  refine Alike.ite ?_ (Alike.done rfl)
  simp only [floor, delay]
  cases (shiftQueue (one.detector.minFlight + one.fineWidth)
      (time / one.fineWidth * one.fineWidth) one.frame one.queue).1 with
  | none => exact Alike.done rfl
  | some pulse =>
      refine Alike.ite (alike_startPulse ?_ pulse) (Alike.done rfl)
      rfl

theorem alike_tellNeutron (readout : Readout) :
    Alike (one.tellNeutron readout) (other.tellNeutron readout) := by
  obtain ⟨pending, rfl⟩ := exists_pending_eq same
  have event : ({ one with pending } : Router).event? readout = one.event? readout := rfl
  unfold tellNeutron
  rw [event]
  split
  · exact Alike.tell _ _ _ (Alike.done rfl)
  · exact Alike.done rfl

theorem alike_routeNeutron (readout : Readout) :
    Alike (one.routeNeutron readout) (other.routeNeutron readout) := by
  have detector : one.detector = other.detector := by
    obtain ⟨pending, rfl⟩ := exists_pending_eq same
    rfl
  unfold routeNeutron
  rw [detector]
  split
  · exact (alike_checkQueue same _).andThen fun _ _ next => alike_tellNeutron next readout
  · exact alike_tellNeutron same readout

theorem alike_queueFrame (time : Nat) : Alike (one.queueFrame time) (other.queueFrame time) := by
  obtain ⟨pending, rfl⟩ := exists_pending_eq same
  refine Alike.ite ?_ (Alike.done rfl)
  cases one.frame with
  | some frame => exact Alike.done rfl
  | none =>
      cases one.queue ++ [time] with
      | nil => exact Alike.done rfl
      | cons front rest =>
          refine alike_startPulse ?_ front
          rfl

theorem alike_routeFrame (time : Nat) : Alike (one.routeFrame time) (other.routeFrame time) := by
  unfold routeFrame
  refine Alike.tell _ _ _ ((alike_queueFrame same time).andThen ?_)
  intro first second next
  obtain ⟨pending, rfl⟩ := exists_pending_eq next
  exact Alike.done rfl

theorem alike_routeOne (readout : Readout) :
    Alike (one.routeOne readout) (other.routeOne readout) := by
  have frame := alike_routeFrame same readout.time.toNat
  have neutron := alike_routeNeutron same readout
  obtain ⟨pending, rfl⟩ := exists_pending_eq same
  unfold routeOne
  cases readout.kind with
  | neutron => exact neutron
  | frameStart => exact frame
  | auxFrameStart => exact Alike.tell _ _ _ (Alike.done rfl)
  | beamMonitor => exact Alike.tell _ _ _ (Alike.done rfl)
  | other => exact Alike.tell _ _ _ (Alike.done rfl)
  | blank => exact Alike.done rfl
  | frameDeassert => exact Alike.done rfl
  | veto => exact Alike.done rfl
  | invalid => exact Alike.done rfl

theorem alike_routeAll (readouts : List Readout) :
    Alike (one.routeAll readouts) (other.routeAll readouts) := by
  induction readouts generalizing one other with
  | nil => exact Alike.done same
  | cons readout rest induction =>
      exact (alike_routeOne same readout).andThen fun _ _ next => induction next

end

theorem calls_routeAll_append (router : Router) (earlier later : List Readout) :
    (router.routeAll (earlier ++ later)).calls =
      (router.routeAll earlier).calls ++
        ((router.routeAll earlier).result.routeAll later).calls := by
  induction earlier generalizing router with
  | nil => rfl
  | cons readout rest induction =>
      rw [List.cons_append, routeAll, routeAll, Plan.calls_andThen, Plan.calls_andThen, induction,
        Plan.result_andThen, List.append_assoc]

theorem result_routeAll_append (router : Router) (earlier later : List Readout) :
    (router.routeAll (earlier ++ later)).result =
      ((router.routeAll earlier).result.routeAll later).result := by
  induction earlier generalizing router with
  | nil => rfl
  | cons readout rest induction =>
      rw [List.cons_append, routeAll, routeAll, Plan.result_andThen, induction,
        Plan.result_andThen]

/-- A plan that leaves the detector as it is, and flushing to the caller. -/
structure Routing (router : Router) (plan : Plan Router) : Prop where
  detector : plan.result.detector = router.detector
  quiet : SinkCall.flush ∉ plan.calls

namespace Routing

variable {router : Router} {plan : Plan Router}

theorem done {after : Router} (same : after.detector = router.detector) :
    Routing router (.done after) :=
  ⟨same, List.not_mem_nil⟩

theorem tell {call : SinkCall} (other : call ≠ .flush) (refused : Router)
    (routing : Routing router plan) : Routing router (.tell call refused plan) := by
  constructor
  · exact routing.detector
  · intro member
    rcases List.mem_cons.mp member with same | later
    · exact other same.symm
    · exact routing.quiet later

theorem andThen {next : Router → Plan Router} (routing : Routing router plan)
    (nextRouting : ∀ after : Router, Routing after (next after)) :
    Routing router (plan.andThen next) := by
  have rest := nextRouting plan.result
  constructor
  · rw [Plan.result_andThen, rest.detector, routing.detector]
  · rw [Plan.calls_andThen, List.mem_append]
    rintro (first | later)
    · exact routing.quiet first
    · exact rest.quiet later

theorem congr {other : Router} (routing : Routing other plan)
    (same : other.detector = router.detector) : Routing router plan :=
  ⟨routing.detector.trans same, routing.quiet⟩

end Routing

theorem routing_startPulse (router : Router) (time : Nat) :
    Routing router (router.startPulse time) := by
  unfold startPulse
  split
  · exact Routing.done rfl
  · exact Routing.tell (by simp) _ (Routing.done rfl)

theorem routing_checkQueue (router : Router) (time : Nat) :
    Routing router (router.checkQueue time) := by
  unfold checkQueue
  simp only
  split
  · split
    · split
      · exact (routing_startPulse _ _).congr rfl
      · exact Routing.done rfl
    · exact Routing.done rfl
  · exact Routing.done rfl

theorem routing_tellNeutron (router : Router) (readout : Readout) :
    Routing router (router.tellNeutron readout) := by
  unfold tellNeutron
  split
  · exact Routing.tell (by simp) _ (Routing.done rfl)
  · exact Routing.done rfl

theorem routing_queueFrame (router : Router) (time : Nat) :
    Routing router (router.queueFrame time) := by
  unfold queueFrame
  simp only
  split
  · split
    · exact (routing_startPulse _ _).congr rfl
    · exact Routing.done rfl
  · exact Routing.done rfl

theorem routing_routeOne (router : Router) (readout : Readout) :
    Routing router (router.routeOne readout) := by
  unfold routeOne
  cases readout.kind with
  | neutron =>
      simp only [routeNeutron]
      split
      · exact (routing_checkQueue router _).andThen fun after => routing_tellNeutron after readout
      · exact routing_tellNeutron router readout
  | frameStart =>
      simp only [routeFrame]
      exact Routing.tell (by simp) _
        ((routing_queueFrame router _).andThen fun _ => Routing.done rfl)
  | auxFrameStart => exact Routing.tell (by simp) _ (Routing.done rfl)
  | beamMonitor => exact Routing.tell (by simp) _ (Routing.done rfl)
  | other => exact Routing.tell (by simp) _ (Routing.done rfl)
  | blank => exact Routing.done rfl
  | frameDeassert => exact Routing.done rfl
  | veto => exact Routing.done rfl
  | invalid => exact Routing.done rfl

theorem routing_routeAll (router : Router) (readouts : List Readout) :
    Routing router (router.routeAll readouts) := by
  induction readouts generalizing router with
  | nil => exact Routing.done rfl
  | cons readout rest induction =>
      exact (routing_routeOne router readout).andThen fun after => induction after

/-- Against frames a block is routed readout by readout and its base does not
matter. -/
theorem route_of_frameMode {router : Router} (frameMode : router.detector.frameMode)
    (base : Nat) (readouts : List Readout) :
    router.route base readouts = router.routeAll readouts := by
  have opened : router.openBlock base readouts = .done router := by
    rw [openBlock, frameMode]
    rfl
  rw [route, opened]
  cases readouts with
  | nil => rfl
  | cons readout rest => rfl

end Router

end EventFormation
