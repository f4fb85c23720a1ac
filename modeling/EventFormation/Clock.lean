/-!
# The clock

Times are nanoseconds of a 64-bit clock. Sums that would pass its end are cut
to it, so a duration that is too long to be told means the longest one.
-/

namespace EventFormation

/-- The last instant of the clock, which is also the largest 64-bit word. -/
def clockEnd : Nat := UInt64.size - 1

/-- Cuts a number to what 64 bits hold. -/
def saturate (value : Nat) : Nat :=
  min value clockEnd

theorem saturate_eq_self {value : Nat} (fits : value ≤ clockEnd) : saturate value = value :=
  Nat.min_eq_left fits

end EventFormation
