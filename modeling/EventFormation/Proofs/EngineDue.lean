import EventFormation.Proofs.EngineRelease
import EventFormation.Proofs.RingWindow

/-!
# How many bins are due

The time that may be released is turned into whole bins in two ways.  Clustering
counts bins, which rounds down; passing readouts on lets bins go while they start
before a limit, which rounds up.  Either way the number of bins is known before
the release, and all that a release makes of the bins follows from it.
-/

namespace EventFormation

namespace Engine

variable {engine : Engine}

/-- How many bins are let go when what is due is released. -/
def dueBins (engine : Engine) : Nat :=
  let width := engine.ring.layout.coarseWidth
  let wanted :=
    if engine.lanes.isSome then engine.blockSpan / width
    else (saturate (engine.ring.base + engine.blockSpan) - engine.ring.base) ⌈/⌉ width
  min wanted engine.ring.occupied

theorem dueBins_of_some {lanes : Lanes} (clustered : engine.lanes = some lanes) :
    engine.dueBins =
      min (engine.blockSpan / engine.ring.layout.coarseWidth) engine.ring.occupied := by
  rw [dueBins, clustered]
  rfl

theorem dueBins_of_none (passing : engine.lanes = none) :
    engine.dueBins =
      min ((saturate (engine.ring.base + engine.blockSpan) - engine.ring.base) ⌈/⌉
        engine.ring.layout.coarseWidth) engine.ring.occupied := by
  rw [dueBins, passing]
  rfl

/-- Bins that take up all the time that may be released are enough. -/
theorem dueBins_le {bins : Nat}
    (enough : engine.blockSpan ≤ engine.ring.layout.coarseWidth * bins) :
    engine.dueBins ≤ bins := by
  have positive := engine.ring.layout.coarseWidth_pos
  cases clustering : engine.lanes with
  | some lanes =>
      rw [dueBins_of_some clustering]
      refine Nat.le_trans (Nat.min_le_left _ _) ?_
      exact Nat.div_le_of_le_mul enough
  | none =>
      rw [dueBins_of_none clustering]
      refine Nat.le_trans (Nat.min_le_left _ _) ((ceilDiv_le_iff_le_mul positive).mpr ?_)
      have cut := Nat.min_le_left (engine.ring.base + engine.blockSpan) clockEnd
      unfold saturate
      omega

/-- If bins are left, less than one more bin could be let go. -/
theorem le_dueBins_succ (fits : engine.ring.base + engine.blockSpan ≤ UInt64.size)
    (left : engine.dueBins ≠ engine.ring.occupied) :
    engine.blockSpan ≤ engine.ring.layout.coarseWidth * (engine.dueBins + 1) := by
  have positive := engine.ring.layout.coarseWidth_pos
  cases clustering : engine.lanes with
  | some lanes =>
      rw [dueBins_of_some clustering] at left ⊢
      have count : min (engine.blockSpan / engine.ring.layout.coarseWidth) engine.ring.occupied =
          engine.blockSpan / engine.ring.layout.coarseWidth := by
        omega
      rw [count]
      exact Nat.le_of_lt (Nat.lt_mul_div_succ _ positive)
  | none =>
      have rounded : saturate (engine.ring.base + engine.blockSpan) - engine.ring.base ≤
          engine.ring.layout.coarseWidth * engine.dueBins := by
        rw [← ceilDiv_le_iff_le_mul positive]
        rw [dueBins_of_none clustering] at left ⊢
        omega
      have most : UInt64.size = clockEnd + 1 := rfl
      rw [Nat.mul_succ]
      unfold saturate at rounded
      omega

theorem le_dueBins_of_none (passing : engine.lanes = none)
    (fits : engine.ring.base + engine.blockSpan ≤ clockEnd)
    (left : engine.dueBins ≠ engine.ring.occupied) :
    engine.blockSpan ≤ engine.ring.layout.coarseWidth * engine.dueBins := by
  rw [← ceilDiv_le_iff_le_mul engine.ring.layout.coarseWidth_pos]
  rw [dueBins_of_none passing, saturate_eq_self fits, Nat.add_sub_cancel_left] at left ⊢
  omega

/-- At least one bin is let go of those there are, if the time that may be released is
a whole bin, or any time at all when readouts are passed on. -/
theorem dueBins_pos_iff (occupied : 0 < engine.ring.occupied)
    (before : engine.ring.base < clockEnd) :
    0 < engine.dueBins ↔
      if engine.lanes.isSome then engine.ring.layout.coarseWidth ≤ engine.blockSpan
      else 0 < engine.blockSpan := by
  have positive := engine.ring.layout.coarseWidth_pos
  cases clustering : engine.lanes with
  | some lanes =>
      rw [dueBins_of_some clustering, Nat.lt_min, Nat.div_pos_iff]
      simp [positive, occupied]
  | none =>
      have rounded : 0 < (saturate (engine.ring.base + engine.blockSpan) - engine.ring.base) ⌈/⌉
          engine.ring.layout.coarseWidth ↔
          0 < saturate (engine.ring.base + engine.blockSpan) - engine.ring.base := by
        have none := ceilDiv_le_iff_le_mul (c := 0) positive
          (b := saturate (engine.ring.base + engine.blockSpan) - engine.ring.base)
        omega
      rw [dueBins_of_none clustering, Nat.lt_min, rounded]
      simp only [Option.isSome_none, Bool.false_eq_true, if_false]
      unfold saturate
      omega

/-- What is due is a release of that many bins. -/
theorem released_due (sound : engine.ring.Sound) (cleared : engine.ring.Cleared) :
    Released engine engine.releaseDue.1 engine.releaseDue.2 engine.dueBins := by
  by_cases nothing : engine.blockSpan = 0
  · have none : engine.dueBins = 0 := by
      refine Nat.le_zero.mp (dueBins_le ?_)
      rw [nothing]
      exact Nat.zero_le _
    rw [releaseDue, if_pos nothing, none]
    exact ⟨TimeRing.Moved.refl sound, (form_nil _ _ _).symm, rfl⟩
  · rw [releaseDue, if_neg nothing]
    cases clustering : engine.lanes with
    | some lanes =>
        obtain ⟨moved, formed⟩ := clusterBins_spec sound cleared
          (min (engine.blockSpan / engine.ring.layout.coarseWidth) engine.ring.occupied) lanes
        rw [Nat.min_assoc, Nat.min_self] at moved formed
        rw [release_of_some clustering, dueBins_of_some clustering]
        exact ⟨moved, by rw [clustering, formed], rfl⟩
    | none =>
        obtain ⟨moved, taken⟩ := TimeRing.takeWindow_eq sound engine.blockSpan
        rw [release_of_none clustering, dueBins_of_none clustering]
        exact ⟨moved, by rw [clustering, form, ← taken], rfl⟩

end Engine

end EventFormation
