/-!
# Sinks and plans

A sink takes routed events one call at a time and may refuse any call. What a
stage of the processing wants to tell a sink is a plan: the calls in order,
each with the state that is left behind if the sink refuses it, and the state
reached when all calls have been taken. A plan does not depend on the sink, so
what is told up to the first refusal is always a part of the same plan from
its start.
-/

namespace EventFormation

/-- One event told to a sink. Times are nanoseconds. -/
inductive SinkCall where
  /-- A new pulse begins; pending neutrons belong to the one before. -/
  | pulse (time : Nat)
  /-- A neutron, so long after the pulse, in a pixel. -/
  | neutron (flight : Nat) (pixel : UInt32)
  | frame (time : Nat) (auxiliary : Bool)
  | monitor (time : Nat) (count : UInt32)
  | custom (time : Nat) (data : UInt32)
  /-- Everything pending is to be published. -/
  | flush
  deriving DecidableEq

/-- A consumer of events with states in `σ` that refuses with reasons in `ε`.
A refused call may still change the state. -/
structure Sink (σ ε : Type) where
  offer : σ → SinkCall → σ × Option ε

/-- Calls to be told to a sink, and what becomes of the teller. -/
inductive Plan (ρ : Type) where
  | done (result : ρ)
  /-- A call, what is left behind if it is refused, and how it goes on. -/
  | tell (call : SinkCall) (refused : ρ) (next : Plan ρ)

namespace Plan

variable {ρ τ σ ε : Type}

/-- Goes on with another plan after the last call. -/
def andThen (plan : Plan ρ) (next : ρ → Plan ρ) : Plan ρ :=
  match plan with
  | done result => next result
  | tell call refused rest => tell call refused (rest.andThen next)

/-- The same calls told by something that contains the teller. -/
def map (inside : ρ → τ) : Plan ρ → Plan τ
  | done result => done (inside result)
  | tell call refused rest => tell call (inside refused) (rest.map inside)

def calls : Plan ρ → List SinkCall
  | done _ => []
  | tell call _ rest => call :: rest.calls

/-- What is reached when every call is taken. -/
def result : Plan ρ → ρ
  | done result => result
  | tell _ _ rest => rest.result

/-- Tells a plan to a sink, up to the first refusal. -/
def run (sink : Sink σ ε) (state : σ) : Plan ρ → ρ × σ × Option ε
  | done result => (result, state, none)
  | tell call refused rest =>
    match sink.offer state call with
    | (state, some reason) => (refused, state, some reason)
    | (state, none) => rest.run sink state

@[simp]
theorem calls_andThen (plan : Plan ρ) (next : ρ → Plan ρ) :
    (plan.andThen next).calls = plan.calls ++ (next plan.result).calls := by
  induction plan with
  | done result => rfl
  | tell call refused rest ih => simp [andThen, calls, result, ih]

@[simp]
theorem result_andThen (plan : Plan ρ) (next : ρ → Plan ρ) :
    (plan.andThen next).result = (next plan.result).result := by
  induction plan with
  | done result => rfl
  | tell call refused rest ih => simp [andThen, result, ih]

@[simp]
theorem calls_map (inside : ρ → τ) (plan : Plan ρ) : (plan.map inside).calls = plan.calls := by
  induction plan with
  | done result => rfl
  | tell call refused rest ih => simp [map, calls, ih]

@[simp]
theorem result_map (inside : ρ → τ) (plan : Plan ρ) :
    (plan.map inside).result = inside plan.result := by
  induction plan with
  | done result => rfl
  | tell call refused rest ih => simp [map, result, ih]

theorem map_id (plan : Plan ρ) : plan.map (fun result => result) = plan := by
  induction plan with
  | done result => rfl
  | tell call refused rest ih => exact congrArg (tell call refused) ih

theorem map_map {υ : Type} (outside : τ → υ) (inside : ρ → τ) (plan : Plan ρ) :
    (plan.map inside).map outside = plan.map fun result => outside (inside result) := by
  induction plan with
  | done result => rfl
  | tell call refused rest ih => exact congrArg (tell call _) ih

theorem andThen_done (plan : Plan ρ) : plan.andThen done = plan := by
  induction plan with
  | done result => rfl
  | tell call refused rest ih => exact congrArg (tell call refused) ih

theorem andThen_assoc (plan : Plan ρ) (next last : ρ → Plan ρ) :
    (plan.andThen next).andThen last = plan.andThen fun result => (next result).andThen last := by
  induction plan with
  | done result => rfl
  | tell call refused rest ih => exact congrArg (tell call _) ih

theorem map_andThen {inside : ρ → τ} {next : ρ → Plan ρ} {nextOutside : τ → Plan τ}
    (same : ∀ result, (next result).map inside = nextOutside (inside result)) (plan : Plan ρ) :
    (plan.andThen next).map inside = (plan.map inside).andThen nextOutside := by
  induction plan with
  | done result => exact same result
  | tell call refused rest ih => exact congrArg (tell call (inside refused)) ih

theorem run_map (inside : ρ → τ) (sink : Sink σ ε) (state : σ) (plan : Plan ρ) :
    (plan.map inside).run sink state =
      (inside (plan.run sink state).1, (plan.run sink state).2) := by
  induction plan generalizing state with
  | done result => rfl
  | tell call refused rest ih =>
    rw [map, run, run]
    rcases sink.offer state call with ⟨after, refusal⟩
    cases refusal with
    | none => exact ih after
    | some reason => rfl

end Plan

/-- The calls that a sink has been offered. -/
structure Recording where
  count : Nat := 0
  calls : Array SinkCall := #[]
  deriving Inhabited

/-- A sink that keeps the calls it takes. It refuses calls by their number,
counted from zero, and gives that number as the reason. -/
def Recording.sink (refuses : Nat → Bool) : Sink Recording Nat where
  offer state call :=
    if refuses state.count then
      ({ state with count := state.count + 1 }, some state.count)
    else
      ({ count := state.count + 1, calls := state.calls.push call }, none)

end EventFormation
