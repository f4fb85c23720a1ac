import EventFormation.Wire.Record

/-!
# Input queue

Received buffers wait in a queue of limited length. When the queue is full a
buffer is lost and counted; the receiver never waits for the consumer.
-/

namespace EventFormation

/-- A first-in first-out queue that loses what does not fit. -/
structure Intake where
  capacity : Nat
  /-- The waiting buffers, oldest first. -/
  waiting : List Bytes := []
  received : Nat := 0
  /-- Buffers lost because the queue was full. -/
  overflows : Nat := 0
  deriving DecidableEq, Inhabited

namespace Intake

/-- An empty queue. At least one buffer may wait. -/
def create (capacity : Nat) : Intake :=
  { capacity := max 1 capacity }

/-- A buffer arrives. -/
def arrive (intake : Intake) (buffer : Bytes) : Intake :=
  if intake.waiting.length < intake.capacity then
    { intake with
      received := intake.received + 1
      waiting := intake.waiting ++ [buffer] }
  else
    { intake with
      received := intake.received + 1
      overflows := intake.overflows + 1 }

/-- The consumer takes the oldest buffer, if one waits. -/
def take? (intake : Intake) : Option (Bytes × Intake) :=
  match intake.waiting with
  | [] => none
  | buffer :: rest => some (buffer, { intake with waiting := rest })

end Intake

end EventFormation
