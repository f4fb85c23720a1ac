import EventFormation.Proofs.RingLedger

/-!
# Resetting the time bins

A reset walks on bin by bin, may run out of bins on the way, and may drop everything
at once.  It all comes to the same: the base is at the bin of the time, and of what
was stored that is kept which is not before it, or nothing at all if the time is
before the old base.
-/

namespace EventFormation

namespace TimeRing

variable {ring : TimeRing}

/-- Bins are let go one by one until none is left or the base is in a slot, however
many they are.  The readouts that go with them are counted. -/
inductive WalksTo (target : Nat) : TimeRing → TimeRing × Nat → Prop where
  | stay {ring : TimeRing} :
      ring.isEmpty || ring.first == target → WalksTo target ring (ring, 0)
  | step {ring later : TimeRing} {more : Nat} :
      ¬(ring.isEmpty || ring.first == target) →
      WalksTo target ring.advance.1 (later, more) →
      WalksTo target ring (later, ring.advance.2 + more)

/-- The walk ends by itself before all occupied bins have been let go. -/
theorem walksTo_advanceTo (sound : ring.Sound) (target : Nat) {steps : Nat}
    (enough : ring.occupied ≤ steps) : WalksTo target ring (ring.advanceTo target steps) := by
  induction steps generalizing ring with
  | zero =>
      refine .stay ?_
      rw [sound.isEmpty_iff.mpr (Nat.le_zero.mp enough), Bool.true_or]
  | succ steps induction =>
      by_cases stays : ring.isEmpty || ring.first == target
      · rw [advanceTo, if_pos stays]
        exact .stay stays
      · have moved := moved_advance sound (sound.occupied_pos_of_goes_on stays)
        rw [advanceTo, if_neg stays]
        refine .step stays (induction moved.sound ?_)
        rw [moved.occupied]
        omega

/-- Bins have been reset to a time, and so many readouts have been dropped. -/
structure ResetTo (ring : TimeRing) (time : Nat) (later : TimeRing) (dropped : Nat) : Prop where
  layout : later.layout = ring.layout
  base : later.base = ring.layout.coarseFloor time
  /-- Each slot keeps what is not before the new base, in its order. -/
  kept : ring.base ≤ time → ∀ slot, content later.coarse slot =
    (content ring.coarse slot).filter fun readout => later.base ≤ readout.time.toNat
  /-- Nothing is kept of what is after a jump back. -/
  emptied : time < ring.base → ∀ slot, content later.coarse slot = []
  dropped : dropped + later.stored.length = ring.stored.length
  span : later.span = if ring.base ≤ time then ring.base + ring.span - later.base else 0
  fine : later.fine =
    if ring.isEmpty = false ∧ later.base = ring.base then ring.fine
    else Array.replicate ring.layout.fineCount #[]

section

variable (sound : ring.Sound)
include sound

theorem dropped_reset (time : Nat) :
    (ring.reset time).2 + (ring.reset time).1.stored.length = ring.stored.length := by
  obtain ⟨lost, kept, count⟩ := exists_lost_reset sound time
  rw [kept.length_eq, List.length_append, count]

theorem base_eq_iff {later : TimeRing} {time : Nat}
    (base : later.base = ring.layout.coarseFloor time) :
    later.base = ring.base ↔ ring.layout.coarseNumber time = ring.start := by
  rw [base, Layout.coarseFloor_eq, sound.base]
  exact Nat.mul_left_inj ring.layout.coarseWidth_pos.ne'

/-- Bins that have been let go up to the bin of the time. -/
theorem resetTo_of_moved {later : TimeRing} {time dropped : Nat} (busy : ring.isEmpty = false)
    (above : ring.start ≤ ring.layout.coarseNumber time)
    (readying : ring.readied time =
      if ring.layout.coarseNumber time = ring.start then ring else ring.clearFine.1)
    (moved : Moved (ring.readied time) later (ring.layout.coarseNumber time - ring.start))
    (count : dropped + later.stored.length = ring.stored.length) :
    ResetTo ring time later dropped := by
  obtain ⟨readiedSound, layout, start, occupied⟩ := readied_spec sound time
  have coarse : (ring.readied time).coarse = ring.coarse := by
    rcases readied_cases time with same | same
    · rw [same]
    · rw [same]
      rfl
  have reached : later.start = ring.layout.coarseNumber time := by
    rw [moved.start, start]
    omega
  have laidOut : later.layout = ring.layout := moved.layout.trans layout
  have base : later.base = ring.layout.coarseFloor time := by
    rw [moved.sound.base, reached, laidOut]
    rfl
  have since : ring.base ≤ time := (sound.start_le_coarseNumber_iff time).mp above
  constructor
  · exact laidOut
  · exact base
  · intro _ slot
    rw [← coarse]
    exact moved.content_eq readiedSound slot
  · intro before
    exact absurd before (Nat.not_lt.mpr since)
  · exact count
  · have finish : later.finish = ring.finish := by
      rw [moved.finish, TimeRing.finish, start, occupied]
      rfl
    have same : later.base + later.span = ring.base + ring.span := by
      rw [base_add_span moved.sound, base_add_span sound, finish, laidOut]
    rw [if_pos since]
    omega
  · rw [moved.fine, readying]
    by_cases here : ring.layout.coarseNumber time = ring.start
    · rw [if_pos here, if_pos ⟨busy, (base_eq_iff sound base).mpr here⟩]
    · rw [if_neg here, if_neg fun same => here ((base_eq_iff sound base).mp same.2), ← sound.fine]
      rfl

/-- Bins that are anchored before their base or not before their end. -/
theorem resetTo_anchor {walked : TimeRing} {time dropped : Nat} (walkedSound : walked.Sound)
    (layout : walked.layout = ring.layout)
    (elsewhere : ring.isEmpty = false → ring.layout.coarseNumber time ≠ ring.start)
    (beyond : ring.start ≤ ring.layout.coarseNumber time →
      ring.finish ≤ ring.layout.coarseNumber time)
    (count : dropped + (walked.anchor time).1.stored.length = ring.stored.length) :
    ResetTo ring time (walked.anchor time).1 dropped := by
  have base : (walked.anchor time).1.base = ring.layout.coarseFloor time := by
    rw [← layout]
    rfl
  have content : ∀ slot, content (walked.anchor time).1.coarse slot = [] :=
    content_replicate _
  constructor
  · exact layout
  · exact base
  · intro since slot
    rw [content, eq_comm, List.filter_eq_nil_iff]
    intro readout member
    have inside := (sound.of_mem_content member).2.2
    have late := beyond ((sound.start_le_coarseNumber_iff time).mpr since)
    rw [decide_eq_true_iff, base, Layout.coarseFloor_eq, ← Layout.le_coarseNumber_iff]
    exact Nat.not_le.mpr (Nat.lt_of_lt_of_le inside late)
  · exact fun _ => content
  · exact count
  · have none : (walked.anchor time).1.span = 0 := by
      rw [TimeRing.span, occupied_anchor, Nat.mul_zero]
    rw [none]
    split
    · rename_i since
      have late := beyond ((sound.start_le_coarseNumber_iff time).mpr since)
      rw [base_add_span sound, base, Layout.coarseFloor_eq,
        Nat.sub_eq_zero_of_le (Nat.mul_le_mul_right _ late)]
    · rfl
  · have fine : (walked.anchor time).1.fine = Array.replicate walked.fine.size #[] := rfl
    rw [if_neg fun same => elsewhere same.1 ((base_eq_iff sound base).mp same.2), fine,
      walkedSound.fine, layout]

theorem resetTo_reset (time : Nat) :
    ResetTo ring time (ring.reset time).1 (ring.reset time).2 := by
  have count := dropped_reset sound time
  rcases reset_cases sound time with ⟨busy, above, -, readying, moved, -⟩ |
    ⟨elsewhere, beyond, steps, walked, dropped, walk, anchored⟩
  · exact resetTo_of_moved sound busy above readying moved count
  · obtain ⟨bins, moved⟩ := exists_moved_advanceTo (sound_clearFine sound)
      (ring.layout.coarseIndex time) steps
    rw [walk] at moved
    rw [anchored] at count ⊢
    exact resetTo_anchor sound moved.sound moved.layout elsewhere beyond count

end

/-- Whatever was asked of bins before, a reset to a time comes to an end and leaves the
base at the bin of the time.  Slot by slot it keeps what is not before the new base, or
nothing if the time is before the old one, and it counts what it drops. -/
theorem run_reset_keeps_from_base {layout : Layout} {fresh : TimeRing}
    (created : create layout = .ok fresh) (steps : List RingStep) (time : Nat) :
    let ring := fresh.run steps
    (∀ cleared, cleared = ring ∨ cleared = ring.clearFine.1 →
      WalksTo (layout.coarseIndex time) cleared
        (cleared.advanceTo (layout.coarseIndex time) cleared.occupied)) ∧
      ResetTo ring time (ring.reset time).1 (ring.reset time).2 := by
  intro ring
  obtain ⟨sound, -⟩ := sound_run_of_create created steps
  refine ⟨?_, resetTo_reset sound time⟩
  rintro cleared (rfl | rfl)
  · exact walksTo_advanceTo sound _ (Nat.le_refl _)
  · exact walksTo_advanceTo (sound_clearFine sound) _ (Nat.le_refl _)

/-- Bins that wrap around, and a reset that drops the first readout of a slot and keeps
those of a bin two further on. -/
theorem wrapped_run_reset_keeps_from_base :
    let layout : Layout := { coarseBits := 2, fineWidthBits := 1, fineBits := 1 }
    let late : List Readout := [.neutron 39 2 2 1, .neutron 37 3 3 1]
    let steps : List RingStep := [.reset 30, .insert (.neutron 29 1 1 1 :: late), .spread]
    let ring := (TimeRing.empty layout).run steps
    create layout = .ok (empty layout) ∧ ring.base = 28 ∧ content ring.coarse 1 = late ∧
      (ring.reset 33).2 = 1 ∧ content (ring.reset 33).1.coarse 1 = late ∧
      ResetTo ring 33 (ring.reset 33).1 (ring.reset 33).2 := by
  intro layout late steps ring
  have created : create layout = .ok (empty layout) := rfl
  have keeps := run_reset_keeps_from_base created steps 33
  refine ⟨created, ?_, ?_, ?_, ?_, keeps.2⟩
  · decide +kernel
  · decide +kernel
  · decide +kernel
  · decide +kernel

end TimeRing

end EventFormation
