import EventFormation.Proofs.EngineDue
import EventFormation.Proofs.EngineRuns
import EventFormation.Proofs.RouterRefusals

/-!
# Engines in service

The sink of an engine may refuse any call, and the engine is used further as it
was left behind.  A refusal shows in the router only, and it leaves the detector
alone, so bins and lanes of an engine are as they would be if every call had been
taken.
-/

namespace EventFormation

namespace Plan

variable {ρ τ σ ε : Type}

/-- What is left behind at a call, or reached at the end, has the property. -/
def Leaves (property : ρ → Prop) : Plan ρ → Prop
  | done result => property result
  | tell _ left rest => property left ∧ rest.Leaves property

theorem Leaves.run {property : ρ → Prop} {plan : Plan ρ} (leaves : plan.Leaves property)
    (sink : Sink σ ε) (state : σ) : property (plan.run sink state).1 := by
  induction plan generalizing state with
  | done result => exact leaves
  | tell call left rest induction =>
      rw [Plan.run]
      rcases sink.offer state call with ⟨after, refusal⟩
      cases refusal with
      | none => exact induction leaves.2 after
      | some reason => exact leaves.1

theorem Leaves.andThen {property : ρ → Prop} {plan : Plan ρ} (leaves : plan.Leaves property)
    {next : ρ → Plan ρ} (goesOn : ∀ result, property result → (next result).Leaves property) :
    (plan.andThen next).Leaves property := by
  induction plan with
  | done result => exact goesOn result leaves
  | tell call left rest induction => exact ⟨leaves.1, induction leaves.2⟩

theorem Leaves.mono {property other : ρ → Prop} {plan : Plan ρ} (leaves : plan.Leaves property)
    (implies : ∀ result, property result → other result) : plan.Leaves other := by
  induction plan with
  | done result => exact implies result leaves
  | tell call left rest induction => exact ⟨implies left leaves.1, induction leaves.2⟩

theorem leaves_map_iff {property : τ → Prop} {inside : ρ → τ} {plan : Plan ρ} :
    (plan.map inside).Leaves property ↔ plan.Leaves fun result => property (inside result) := by
  induction plan with
  | done result => rfl
  | tell call left rest induction => exact and_congr_right fun _ => induction

theorem Leaves.and {property other : ρ → Prop} {plan : Plan ρ} (first : plan.Leaves property)
    (second : plan.Leaves other) : plan.Leaves fun result => property result ∧ other result := by
  induction plan with
  | done result => exact ⟨first, second⟩
  | tell call left rest induction =>
      exact ⟨⟨first.1, second.1⟩, induction first.2 second.2⟩

theorem Faithful.leaves {detector : Detector} {readout : Option Readout} {pulse : Option Nat}
    {plan : Plan Router} (faithful : plan.Faithful detector readout pulse) :
    plan.Leaves fun router => router.detector = detector := by
  induction plan generalizing pulse with
  | done after => exact faithful.1
  | tell call left rest induction => exact ⟨faithful.1.1, induction faithful.2⟩

end Plan

namespace Router

theorem leaves_routeAll (router : Router) (readouts : List Readout) :
    (router.routeAll readouts).Leaves fun left => left.detector = router.detector := by
  induction readouts generalizing router with
  | nil => rfl
  | cons readout rest induction =>
      refine (router.faithful_routeOne readout).leaves.andThen ?_
      intro after same
      rw [← same]
      exact induction after

theorem leaves_route (router : Router) (base : Nat) (readouts : List Readout) :
    (router.route base readouts).Leaves fun left => left.detector = router.detector := by
  unfold route
  split
  · rfl
  · refine (router.faithful_openBlock base readouts).leaves.andThen ?_
    intro after same
    rw [← same]
    exact leaves_routeAll after readouts

end Router

/-- What is left of an engine is the engine, with another router at most, of the same
detector. -/
structure Engine.LeftBy (engine left : Engine) : Prop where
  rest : left = { engine with router := left.router }
  detector : left.router.detector = engine.router.detector

namespace Engine

variable {engine middle left : Engine}

theorem LeftBy.trans (first : engine.LeftBy middle) (second : middle.LeftBy left) :
    engine.LeftBy left := by
  refine ⟨?_, second.detector.trans first.detector⟩
  rw [second.rest, first.rest]

theorem leaves_tell (engine : Engine) (base : Nat) (products : List Product) :
    (engine.tell base products).Leaves engine.LeftBy := by
  rw [tell, Plan.leaves_map_iff]
  exact (engine.router.leaves_route base _).mono fun router same => ⟨rfl, same⟩

theorem leaves_flush (engine : Engine) : engine.flush.Leaves engine.LeftBy :=
  ⟨⟨rfl, rfl⟩, rfl, rfl⟩

theorem leaves_process (engine : Engine) :
    engine.process.plan.Leaves engine.releaseDue.1.LeftBy := by
  rw [process_eq]
  exact engine.releaseDue.1.leaves_tell engine.ring.base engine.releaseDue.2

/-- What a drain makes of an engine before it tells of it. -/
def drained (engine : Engine) : Engine :=
  (engine.release engine.ring.layout.coarseCount engine.ring.layout.window).1.closeOpen.1

theorem leaves_drain (engine : Engine) : engine.drain.plan.Leaves engine.drained.LeftBy :=
  (engine.drained.leaves_tell engine.ring.base _).andThen fun told same =>
    told.leaves_flush.mono fun _ flushed => same.trans flushed

end Engine

/-- What is left of an engine that has only let bins go. -/
structure Engine.Onward (engine left : Engine) : Prop where
  moved : ∃ bins, TimeRing.Moved engine.ring left.ring bins
  rest : left = { engine with ring := left.ring, lanes := left.lanes, router := left.router }

namespace Engine

variable {engine middle left : Engine}

theorem LeftBy.ring (same : engine.LeftBy left) : left.ring = engine.ring := by
  rw [same.rest]

theorem LeftBy.lanes (same : engine.LeftBy left) : left.lanes = engine.lanes := by
  rw [same.rest]

theorem Onward.leftBy (onward : engine.Onward middle) (same : middle.LeftBy left) :
    engine.Onward left := by
  constructor
  · rw [same.ring]
    exact onward.moved
  · rw [same.rest, onward.rest]

theorem Released.onward {products : List Product} {bins : Nat}
    (released : Released engine left products bins) : engine.Onward left :=
  ⟨⟨bins, released.moved⟩, by rw [released.rest]⟩

theorem onward_refl (sound : engine.ring.Sound) : engine.Onward engine :=
  ⟨⟨0, TimeRing.Moved.refl sound⟩, rfl⟩

section

variable (sound : engine.ring.Sound) (cleared : engine.ring.Cleared)
include sound cleared

theorem onward_process : engine.process.plan.Leaves engine.Onward := by
  have released := released_due sound cleared
  exact engine.leaves_process.mono fun _ same => released.onward.leftBy same

theorem onward_drained : engine.Onward engine.drained := by
  obtain ⟨bins, released⟩ := exists_released sound cleared
    engine.ring.layout.coarseCount engine.ring.layout.window
  rw [drained, closeOpen_eq released.moved.sound (released.moved.cleared cleared)]
  constructor
  · exact ⟨bins, released.moved⟩
  · rw [released.rest]

theorem onward_drain : engine.drain.plan.Leaves engine.Onward :=
  engine.leaves_drain.mono fun _ same => (onward_drained sound cleared).leftBy same

omit cleared in
theorem onward_flush : engine.flush.Leaves engine.Onward :=
  engine.leaves_flush.mono fun _ same => (onward_refl sound).leftBy same

end

end Engine

/-- What is asked of an engine in service: a step, another number of idle ticks, or to
bring counts of its owner up to date. -/
inductive Request where
  | perform (step : Step)
  | setIdleTicks (ticks : Nat)
  | count (counts : EngineCounts)
  deriving DecidableEq

namespace Engine

/-- What is told to the sink at a request. -/
def plan (engine : Engine) : Request → Plan Engine
  | .perform (.ingest readouts earliest) => .done (engine.ingest readouts earliest)
  | .perform .idle => .done engine.idle
  | .perform .process => engine.process.plan
  | .perform .flush => engine.flush
  | .perform .drain => engine.drain.plan
  | .setIdleTicks ticks => .done (engine.withIdleTicks ticks)
  | .count counts => .done { engine with counts }

variable {σ ε : Type}

/-- Meets requests one after the other, whatever the sink refuses. -/
def serve (sink : Sink σ ε) (engine : Engine) (state : σ) : List Request → Engine × σ
  | [] => (engine, state)
  | request :: rest =>
    let (left, after, _) := (engine.plan request).run sink state
    left.serve sink after rest

theorem serve_induction {property : Engine → Prop} {requests : List Request}
    (step : ∀ engine, property engine → ∀ request ∈ requests,
      (engine.plan request).Leaves property)
    {engine : Engine} (first : property engine) (sink : Sink σ ε) (state : σ) :
    property (engine.serve sink state requests).1 := by
  induction requests generalizing engine state with
  | nil => exact first
  | cons request rest induction =>
      have left := (step engine first request List.mem_cons_self).run sink state
      exact induction (fun engine holds other member =>
        step engine holds other (List.mem_cons_of_mem request member)) left _

variable {settings : Settings} {engine left : Engine}

theorem Standing.leftBy (standing : Standing settings engine) (same : engine.LeftBy left) :
    Standing settings left :=
  standing.congr same.ring same.lanes same.detector

theorem Standing.coarseWidth (standing : Standing settings engine) :
    engine.ring.layout.coarseWidth = settings.layout.coarseWidth := by
  rw [standing.laidOut]

theorem Standing.finish_le (standing : Standing settings engine)
    (ends : engine.ring.base + engine.ring.span ≤ clockEnd) :
    engine.ring.finish * settings.layout.coarseWidth ≤ clockEnd := by
  rw [← standing.coarseWidth, ← TimeRing.base_add_span standing.sound]
  exact ends

theorem Standing.drained (valid : settings.Valid) (standing : Standing settings engine) :
    Standing settings engine.drained := by
  obtain ⟨bins, released⟩ := exists_released standing.sound standing.cleared
    engine.ring.layout.coarseCount engine.ring.layout.window
  exact (standing.released valid released).closeOpen valid

theorem leaves_standing (valid : settings.Valid) (standing : Standing settings engine)
    (request : Request) : (engine.plan request).Leaves (Standing settings) := by
  cases request with
  | perform step =>
      cases step with
      | ingest readouts earliest => exact standing.ingest readouts earliest
      | idle => exact standing.congr rfl rfl rfl
      | process =>
          have released := released_due standing.sound standing.cleared
          exact engine.leaves_process.mono fun _ same =>
            (standing.released valid released).leftBy same
      | flush => exact engine.leaves_flush.mono fun _ same => standing.leftBy same
      | drain => exact engine.leaves_drain.mono fun _ same => (standing.drained valid).leftBy same
  | setIdleTicks ticks => exact standing.congr rfl rfl rfl
  | count counts => exact standing.congr rfl rfl rfl

theorem standing_serve (valid : settings.Valid) (sink : Sink σ ε) (state : σ)
    (requests : List Request) :
    Standing settings ((ofSettings settings).serve sink state requests).1 :=
  serve_induction (fun _ standing request _ => leaves_standing valid standing request)
    (Standing.start valid) sink state

end Engine

end EventFormation
