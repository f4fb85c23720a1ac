import EventFormation.Extent

/-!
# The values that an extent spans

The extent of numbers has its ends among them and the others between its ends.
A bound on an end of the extent is one on some or on all of the numbers.
-/

namespace EventFormation

namespace Extent

def map {α β : Type} (value : α → β) (extent : Extent α) : Extent β :=
  { lo := value extent.lo, hi := value extent.hi }

/-- The extent is that of a list of numbers. -/
structure Spans (extent : Extent Nat) (values : List Nat) : Prop where
  lo_mem : extent.lo ∈ values
  hi_mem : extent.hi ∈ values
  lo_le : ∀ value ∈ values, extent.lo ≤ value
  le_hi : ∀ value ∈ values, value ≤ extent.hi

theorem spans_point (value : Nat) : (point value).Spans [value] := by
  constructor <;> simp [point]

theorem Spans.insert {extent : Extent Nat} {values : List Nat}
    (spans : extent.Spans values) (value : Nat) :
    (extent.insert value).Spans (values ++ [value]) := by
  constructor
  · rcases Nat.le_total extent.lo value with before | after
    · simpa [Extent.insert, Nat.min_eq_left before] using Or.inl spans.lo_mem
    · simp [Extent.insert, Nat.min_eq_right after]
  · rcases Nat.le_total extent.hi value with before | after
    · simp [Extent.insert, Nat.max_eq_right before]
    · simpa [Extent.insert, Nat.max_eq_left after] using Or.inl spans.hi_mem
  · intro other member
    rcases List.mem_append.mp member with old | fresh
    · exact Nat.le_trans (Nat.min_le_left _ _) (spans.lo_le other old)
    · rw [List.mem_singleton.mp fresh]
      exact Nat.min_le_right _ _
  · intro other member
    rcases List.mem_append.mp member with old | fresh
    · exact Nat.le_trans (spans.le_hi other old) (Nat.le_max_left _ _)
    · rw [List.mem_singleton.mp fresh]
      exact Nat.le_max_right _ _

variable {extent : Extent Nat} {values : List Nat} (spans : extent.Spans values)
include spans

theorem Spans.lo_le_iff (bound : Nat) :
    extent.lo ≤ bound ↔ ∃ value ∈ values, value ≤ bound := by
  constructor
  · intro below
    exact ⟨extent.lo, spans.lo_mem, below⟩
  · rintro ⟨value, member, below⟩
    exact Nat.le_trans (spans.lo_le value member) below

theorem Spans.le_lo_iff (bound : Nat) :
    bound ≤ extent.lo ↔ ∀ value ∈ values, bound ≤ value := by
  constructor
  · intro below value member
    exact Nat.le_trans below (spans.lo_le value member)
  · intro below
    exact below extent.lo spans.lo_mem

theorem Spans.le_hi_iff (bound : Nat) :
    bound ≤ extent.hi ↔ ∃ value ∈ values, bound ≤ value := by
  constructor
  · intro below
    exact ⟨extent.hi, spans.hi_mem, below⟩
  · rintro ⟨value, member, below⟩
    exact Nat.le_trans below (spans.le_hi value member)

end Extent

end EventFormation
