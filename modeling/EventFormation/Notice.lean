import EventFormation.Engine

/-!
# Notices

Conditions that an operator is told of, though the processing goes on: a
cluster pool that has run out of slots, and a jump in time. They are read off
the state before and after a step.
-/

namespace EventFormation

/-- A condition that an operator is told of. -/
inductive Notice where
  /-- A cluster pool of that many slots has run out of them. -/
  | poolExhausted (slots : Nat)
  /-- The bins were re-anchored between these times, in milliseconds. -/
  | binsReset (before after : Nat)
  deriving DecidableEq

namespace Notice

def text : Notice → String
  | poolExhausted slots => s!"cluster pool of {slots} exhausted, dropping readouts"
  | binsReset before after => s!"reset event bins: {before} ms -> {after} ms"

end Notice

/-- The notices of a pool between two of its states. -/
def Pool.notices (before after : Pool) : List Notice :=
  List.replicate (after.shortages - before.shortages) (.poolExhausted after.size)

/-- The notices of lanes between two of their states. -/
def Lanes.notices (before after : Lanes) : List Notice :=
  (before.list.zip after.list).flatMap fun (before, after) =>
    before.pool.notices after.pool

namespace Engine

/-- The notice of a batch that starts at the time `earliest`. -/
def jumpNotice? (engine : Engine) (readouts : List Readout) (earliest : Nat) : Option Notice :=
  if readouts ≠ [] ∧ engine.jumps earliest then
    some (.binsReset (engine.ring.base / 1000000)
      (engine.ring.layout.coarseFloor earliest / 1000000))
  else
    none

/-- The notices of the lanes of an engine between two of its states. -/
def laneNotices (before after : Engine) : List Notice :=
  match before.lanes, after.lanes with
  | some before, some after => before.notices after
  | _, _ => []

end Engine

end EventFormation
