import EventFormation.Readout

/-!
# Clustering limits

Two readouts are close if the time between them is within the gap and the
difference of their positions lies in an ellipse with the half axes `dx` and
`dy`. A cluster takes further readouts only within its span from its first
one. All comparisons are made over natural numbers, where nothing overflows.
-/

namespace EventFormation

/-- How far apart readouts of one cluster may lie. -/
structure Limits where
  /-- Longest time from the first readout of a cluster, in nanoseconds. -/
  span : Nat := 900
  /-- Longest time between neighbouring readouts, in nanoseconds. -/
  gap : Nat := 100
  /-- Half axis of the ellipse along the columns. -/
  dx : UInt16 := 2
  /-- Half axis of the ellipse along the rows. -/
  dy : UInt16 := 2
  deriving DecidableEq, Inhabited

/-- The difference of two numbers, whichever is larger. -/
def apart (first second : Nat) : Nat :=
  (first - second) + (second - first)

theorem apart_comm (first second : Nat) : apart first second = apart second first := by
  unfold apart
  omega

namespace Limits

/-- The offset `(x, y)` lies in the ellipse with the half axes `dx` and `dy`. -/
def InEllipse (limits : Limits) (x y : Nat) : Prop :=
  x * x * (limits.dy.toNat * limits.dy.toNat) + y * y * (limits.dx.toNat * limits.dx.toNat) ≤
    limits.dx.toNat * limits.dx.toNat * (limits.dy.toNat * limits.dy.toNat)

instance (limits : Limits) (x y : Nat) : Decidable (limits.InEllipse x y) :=
  inferInstanceAs (Decidable (_ ≤ _))

/-- Two readouts are near enough in time and place to belong together. -/
def Close (limits : Limits) (first second : Readout) : Prop :=
  apart first.time.toNat second.time.toNat ≤ limits.gap ∧
    limits.InEllipse (apart first.x.toNat second.x.toNat) (apart first.y.toNat second.y.toNat)

instance (limits : Limits) (first second : Readout) : Decidable (limits.Close first second) :=
  inferInstanceAs (Decidable (_ ∧ _))

theorem close_comm (limits : Limits) (first second : Readout) :
    limits.Close first second ↔ limits.Close second first := by
  simp only [Close, apart_comm first.time.toNat, apart_comm first.x.toNat,
    apart_comm first.y.toNat]

end Limits

end EventFormation
