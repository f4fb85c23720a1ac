import EventFormation.Proofs.EngineRelease
import EventFormation.Proofs.RouterFrames

/-!
# Schedules

An engine is driven by steps: batches are taken in, time passes without input,
blocks are processed, the sink is flushed, and at the end everything is
drained.  A schedule is followed step by step, with a sink that takes every
call, and what is released and told on the way is kept.
-/

namespace EventFormation

namespace Plan

variable {ρ σ ε : Type}

/-- A sink that refuses nothing is told every call, and the teller reaches its
result. -/
theorem run_of_takes {sink : Sink σ ε} (takes : ∀ state call, (sink.offer state call).2 = none)
    (plan : Plan ρ) (state : σ) :
    plan.run sink state = (plan.result,
      plan.calls.foldl (fun state call => (sink.offer state call).1) state, none) := by
  induction plan generalizing state with
  | done result => rfl
  | tell call refused rest induction =>
      have taken : sink.offer state call = ((sink.offer state call).1, none) := by
        rw [← takes state call]
      rw [run, taken]
      exact induction _

end Plan

/-- What can be asked of an engine. -/
inductive Step where
  | ingest (readouts : List Readout) (earliest : Nat)
  | idle
  | process
  | flush
  | drain
  deriving DecidableEq

namespace Step

def readouts : Step → List Readout
  | .ingest readouts _ => readouts
  | _ => []

/-- A batch has readouts and its start is the time of the earliest of them. -/
def Timed : Step → Prop
  | .ingest readouts earliest =>
    (∃ readout ∈ readouts, readout.time.toNat = earliest) ∧
      ∀ readout ∈ readouts, earliest ≤ readout.time.toNat
  | _ => True

instance (step : Step) : Decidable step.Timed :=
  match step with
  | .ingest readouts earliest =>
    inferInstanceAs (Decidable ((∃ readout ∈ readouts, readout.time.toNat = earliest) ∧
      ∀ readout ∈ readouts, earliest ≤ readout.time.toNat))
  | .idle | .process | .flush | .drain => .isTrue trivial

end Step

/-- All readouts that a schedule brings, in order. -/
def ingested (steps : List Step) : List Readout :=
  steps.flatMap Step.readouts

theorem ingested_concat (steps : List Step) (step : Step) :
    ingested (steps ++ [step]) = ingested steps ++ step.readouts := by
  simp [ingested]

/-- An engine, with the products of all blocks and the calls that a sink has
taken on its way, in order. -/
structure Progress where
  engine : Engine
  products : List Product := []
  calls : List SinkCall := []

namespace Progress

def readouts (progress : Progress) : List Readout :=
  Product.readouts progress.products

/-- Releases a block and tells the sink of it. -/
def emit (progress : Progress) (block : Block) : Progress where
  engine := block.plan.result
  products := progress.products ++ block.products
  calls := progress.calls ++ block.plan.calls

/-- Performs a step. -/
def perform (progress : Progress) : Step → Progress
  | .ingest readouts earliest =>
    { progress with engine := progress.engine.ingest readouts earliest }
  | .idle => { progress with engine := progress.engine.idle }
  | .process => progress.emit progress.engine.process
  | .flush => progress.emit { products := [], plan := progress.engine.flush }
  | .drain => progress.emit progress.engine.drain

end Progress

namespace Engine

/-- Performs the steps of a schedule, one after the other. -/
def follow (engine : Engine) (steps : List Step) : Progress :=
  steps.foldl Progress.perform { engine }

theorem follow_concat (engine : Engine) (steps : List Step) (step : Step) :
    engine.follow (steps ++ [step]) = (engine.follow steps).perform step :=
  List.foldl_concat ..

variable (engine : Engine)

theorem counts_release (bins span : Nat) :
    (engine.release bins span).1.counts = engine.counts := by
  unfold release
  split
  · rfl
  · rfl

theorem result_tell (base : Nat) (products : List Product) :
    (engine.tell base products).result =
      { engine with router := (engine.router.route base (Product.readouts products)).result } :=
  Plan.result_map _ _

theorem result_flush :
    engine.flush.result = { engine with router := engine.router.flush.result } :=
  Plan.result_map _ _

theorem counts_tell (base : Nat) (products : List Product) :
    (engine.tell base products).result.counts = engine.counts := by
  rw [result_tell]

theorem counts_flush : engine.flush.result.counts = engine.counts := by
  rw [result_flush]

theorem counts_closeOpen : engine.closeOpen.1.counts = engine.counts := by
  unfold closeOpen
  split
  · rfl
  · rfl

theorem counts_process : engine.process.plan.result.counts = engine.counts := by
  unfold process
  simp only
  split
  · rfl
  · exact (counts_tell _ _ _).trans (counts_release engine _ _)

theorem counts_drain : engine.drain.plan.result.counts = engine.counts := by
  unfold drain
  simp only [Plan.result_andThen]
  rw [counts_flush, counts_tell, counts_closeOpen, counts_release]

/-- The engine that files the readouts of a batch: re-anchored if the batch is
a jump. -/
def awaited (earliest : Nat) : Engine :=
  let awake := { engine with countdown := engine.idleTicks }
  if awake.jumps earliest then awake.jump earliest else awake

theorem ingest_eq {readouts : List Readout} (some : readouts ≠ []) (earliest : Nat) :
    engine.ingest readouts earliest = (engine.awaited earliest).fileReadouts readouts := by
  rw [ingest, if_neg (by simpa using some)]
  rfl

theorem awaited_of_jumps {earliest : Nat} (jumps : engine.jumps earliest) :
    engine.awaited earliest = { engine with countdown := engine.idleTicks }.jump earliest :=
  if_pos jumps

theorem awaited_of_not_jumps {earliest : Nat} (stays : ¬engine.jumps earliest) :
    engine.awaited earliest = { engine with countdown := engine.idleTicks } :=
  if_neg stays

theorem dropped_le_awaited (earliest : Nat) :
    engine.counts.dropped ≤ (engine.awaited earliest).counts.dropped := by
  by_cases jumps : engine.jumps earliest
  · rw [awaited_of_jumps engine jumps]
    exact Nat.le_add_right _ _
  · rw [awaited_of_not_jumps engine jumps]

theorem resets_awaited (earliest : Nat) : (engine.awaited earliest).counts.resets =
    engine.counts.resets + if engine.jumps earliest then 1 else 0 := by
  by_cases jumps : engine.jumps earliest
  · rw [awaited_of_jumps engine jumps, if_pos jumps]
    rfl
  · rw [awaited_of_not_jumps engine jumps, if_neg jumps]
    rfl

theorem dropped_fileReadouts (readouts : List Readout) :
    (engine.fileReadouts readouts).counts.dropped = engine.counts.dropped +
      (readouts.length - (engine.ring.accepted readouts).length) := rfl

theorem dropped_le_ingest (readouts : List Readout) (earliest : Nat) :
    engine.counts.dropped ≤ (engine.ingest readouts earliest).counts.dropped := by
  by_cases some : readouts = []
  · rw [ingest, if_pos (by simpa using some)]
  · rw [ingest_eq engine some, dropped_fileReadouts]
    exact Nat.le_trans (dropped_le_awaited engine earliest) (Nat.le_add_right _ _)

/-- The readouts of a step that the bins take in. -/
def taken : Step → List Readout
  | .ingest readouts earliest => (engine.awaited earliest).ring.accepted readouts
  | _ => []

theorem taken_sublist (step : Step) : (engine.taken step).Sublist step.readouts := by
  cases step with
  | ingest readouts earliest => exact List.filter_sublist
  | idle => exact List.Sublist.refl _
  | process => exact List.Sublist.refl _
  | flush => exact List.Sublist.refl _
  | drain => exact List.Sublist.refl _

end Engine

/-- The readouts of further steps that the bins take in. -/
def Progress.accepted (progress : Progress) : List Step → List Readout
  | [] => []
  | step :: rest => progress.engine.taken step ++ (progress.perform step).accepted rest

theorem Progress.accepted_concat (progress : Progress) (steps : List Step) (step : Step) :
    progress.accepted (steps ++ [step]) =
      progress.accepted steps ++ (steps.foldl Progress.perform progress).engine.taken step := by
  induction steps generalizing progress with
  | nil => exact List.append_nil _
  | cons first rest induction =>
      rw [List.cons_append, accepted, accepted, List.append_assoc]
      exact congrArg (progress.engine.taken first ++ ·) (induction (progress.perform first))

theorem Progress.accepted_sublist (progress : Progress) (steps : List Step) :
    (progress.accepted steps).Sublist (ingested steps) := by
  induction steps generalizing progress with
  | nil => exact List.Sublist.refl _
  | cons step rest induction => exact (progress.engine.taken_sublist step).append (induction _)

/-- All readouts of a schedule that the bins take in, in order. -/
def Engine.accepted (engine : Engine) (steps : List Step) : List Readout :=
  Progress.accepted { engine } steps

theorem Engine.accepted_concat (engine : Engine) (steps : List Step) (step : Step) :
    engine.accepted (steps ++ [step]) =
      engine.accepted steps ++ (engine.follow steps).engine.taken step :=
  Progress.accepted_concat { engine } steps step

theorem Progress.perform_ingest (progress : Progress) {readouts : List Readout}
    (some : readouts ≠ []) (earliest : Nat) :
    progress.perform (.ingest readouts earliest) =
      { progress with engine := (progress.engine.awaited earliest).fileReadouts readouts } :=
  congrArg (fun engine => { progress with engine }) (Engine.ingest_eq _ some earliest)

theorem Progress.perform_drain (progress : Progress) {later : Engine} {products : List Product}
    (release : progress.engine.release progress.engine.ring.layout.coarseCount
      progress.engine.ring.layout.window = (later, products)) :
    let plan := later.router.route progress.engine.ring.base
      (Product.readouts (products ++ later.closeOpen.2))
    progress.perform .drain =
      { engine := { later.closeOpen.1 with router := plan.result.flush.result }
        products := progress.products ++ (products ++ later.closeOpen.2)
        calls := progress.calls ++ plan.calls ++ plan.result.flush.calls } := by
  simp [perform, emit, Engine.drain, release, Engine.tell, Engine.flush, Engine.router_closeOpen]

theorem Progress.perform_flush (progress : Progress) :
    progress.perform .flush =
      { engine := { progress.engine with router := progress.engine.router.flush.result }
        products := progress.products
        calls := progress.calls ++ progress.engine.router.flush.calls } := by
  simp [perform, emit, Engine.flush]

section

variable {progress : Progress} (sound : progress.engine.ring.Sound)
  (cleared : progress.engine.ring.Cleared)
include sound cleared

theorem Progress.exists_perform_process : ∃ later products bins,
    Engine.Released progress.engine later products bins ∧
      let plan := later.router.route progress.engine.ring.base (Product.readouts products)
      progress.perform .process =
        { engine := { later with router := plan.result }
          products := progress.products ++ products
          calls := progress.calls ++ plan.calls } := by
  obtain ⟨later, products, bins, released, processed⟩ := Engine.exists_process sound cleared
  refine ⟨later, products, bins, released, ?_⟩
  simp [perform, emit, processed, Engine.tell]

theorem Progress.exists_perform_drain : ∃ later products bins,
    Engine.Released progress.engine later products bins ∧
      let plan := later.router.route progress.engine.ring.base
        (Product.readouts (products ++ later.closeOpen.2))
      progress.perform .drain =
        { engine := { later.closeOpen.1 with router := plan.result.flush.result }
          products := progress.products ++ (products ++ later.closeOpen.2)
          calls := progress.calls ++ plan.calls ++ plan.result.flush.calls } := by
  obtain ⟨bins, released⟩ := Engine.exists_released sound cleared
    progress.engine.ring.layout.coarseCount progress.engine.ring.layout.window
  exact ⟨_, _, bins, released, progress.perform_drain rfl⟩

end

/-- What has been put out before does not matter to a step. -/
theorem Progress.perform_eq (progress : Progress) (step : Step) :
    let alone := Progress.perform { engine := progress.engine } step
    progress.perform step =
      { engine := alone.engine
        products := progress.products ++ alone.products
        calls := progress.calls ++ alone.calls } := by
  cases step <;> simp [perform, emit]

theorem Progress.foldl_perform (progress : Progress) (steps : List Step) :
    let alone := progress.engine.follow steps
    steps.foldl perform progress =
      { engine := alone.engine
        products := progress.products ++ alone.products
        calls := progress.calls ++ alone.calls } := by
  induction steps using List.reverseRecOn with
  | nil => simp [Engine.follow]
  | append_singleton steps step induction =>
      have alone := (progress.engine.follow steps).perform_eq step
      dsimp only at induction alone ⊢
      rw [List.foldl_concat, induction, perform_eq, Engine.follow_concat, alone]
      simp

theorem Engine.follow_append (engine : Engine) (earlier later : List Step) :
    let before := engine.follow earlier
    let during := before.engine.follow later
    engine.follow (earlier ++ later) =
      { engine := during.engine
        products := before.products ++ during.products
        calls := before.calls ++ during.calls } := by
  intro before during
  rw [follow, List.foldl_append]
  exact Progress.foldl_perform before later

theorem Progress.dropped_le_perform (progress : Progress) (step : Step) :
    progress.engine.counts.dropped ≤ (progress.perform step).engine.counts.dropped := by
  cases step with
  | ingest readouts earliest => exact progress.engine.dropped_le_ingest readouts earliest
  | idle => exact Nat.le_refl _
  | process => exact Nat.le_of_eq (congrArg _ progress.engine.counts_process.symm)
  | flush => exact Nat.le_of_eq (congrArg _ progress.engine.counts_flush.symm)
  | drain => exact Nat.le_of_eq (congrArg _ progress.engine.counts_drain.symm)

end EventFormation
