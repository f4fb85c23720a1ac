import EventFormation.Proofs.RingBins

/-!
# Letting bins go

Releasing readouts moves the base of a ring on, bin by bin, and leaves the
finish and all later bins as they are.  A ring that has been moved on can be
moved on again, so a loop that lets bins go needs only its single step looked
at.  Anchoring is the other way to move the base: it drops everything.
-/

namespace EventFormation

namespace TimeRing

/-- What the bins from the base on hold, bin by bin. -/
def block (ring : TimeRing) (bins : Nat) : List (List Readout) :=
  (List.range' ring.start bins).map ring.held

/-- The base has moved so many bins on and the later bins are untouched. -/
structure Moved (ring later : TimeRing) (bins : Nat) : Prop where
  sound : later.Sound
  layout : later.layout = ring.layout
  start : later.start = ring.start + bins
  finish : later.finish = ring.finish
  fine : later.fine = ring.fine
  held : ∀ number, ring.start + bins ≤ number →
    number < ring.start + ring.layout.coarseCount → later.held number = ring.held number

namespace Moved

variable {ring middle later : TimeRing} {bins more : Nat}

theorem refl (sound : ring.Sound) : Moved ring ring 0 :=
  ⟨sound, rfl, rfl, rfl, rfl, fun _ _ _ => rfl⟩

theorem trans (first : Moved ring middle bins) (second : Moved middle later more) :
    Moved ring later (bins + more) := by
  constructor
  · exact second.sound
  · exact second.layout.trans first.layout
  · rw [second.start, first.start, Nat.add_assoc]
  · exact second.finish.trans first.finish
  · exact second.fine.trans first.fine
  · intro number above turn
    have secondHeld : later.held number = middle.held number := by
      refine second.held number ?_ ?_
      · rw [first.start]
        omega
      · rw [first.start, first.layout]
        omega
    rw [secondHeld, first.held number (by omega) turn]

theorem bins_le (moved : Moved ring later bins) : bins ≤ ring.occupied := by
  have ordered : later.start ≤ later.finish := start_le_finish
  rw [moved.finish, moved.start, TimeRing.finish] at ordered
  omega

theorem occupied (moved : Moved ring later bins) :
    later.occupied = ring.occupied - bins := by
  have same : later.start + later.occupied = ring.start + ring.occupied := moved.finish
  rw [moved.start] at same
  omega

theorem base_le (moved : Moved ring later bins) (sound : ring.Sound) : ring.base ≤ later.base := by
  rw [sound.base, moved.sound.base, moved.start, moved.layout]
  exact Nat.mul_le_mul_right _ (Nat.le_add_right _ _)

/-- The bins that are left are those behind the ones that were let go. -/
theorem block_add (moved : Moved ring later bins) (within : bins + more ≤ ring.occupied) :
    ring.block (bins + more) = ring.block bins ++ later.block more := by
  have turn : ring.occupied < ring.layout.coarseCount := occupied_lt
  have same : later.block more = (List.range' (ring.start + bins) more).map ring.held := by
    rw [block, moved.start]
    refine List.map_congr_left ?_
    intro number member
    have range := List.mem_range'_1.mp member
    exact moved.held number range.1 (by omega)
  rw [same, block, block, ← List.map_append, List.range'_append_1]

/-- Every slot keeps what is not before the new base. -/
theorem content_eq (moved : Moved ring later bins) (sound : ring.Sound) (slot : Nat) :
    content later.coarse slot =
      (content ring.coarse slot).filter fun readout => later.base ≤ readout.time.toNat := by
  have after_iff : ∀ readout : Readout,
      later.start ≤ readout.coarseNumber ring.layout ↔ later.base ≤ readout.time.toNat := by
    intro readout
    rw [← moved.sound.start_le_coarseNumber_iff, moved.layout]
    rfl
  by_cases inside : slot < ring.layout.coarseCount
  · obtain ⟨number, above, turn, rfl⟩ := exists_slot_eq inside
    have placed := sound.placed number above turn
    have held : ring.held number = content ring.coarse (number % ring.layout.coarseCount) := rfl
    rw [← held]
    by_cases gone : number < later.start
    · -- The bin of this slot has gone, and no later one of the turn has its slot.
      have nothing : content later.coarse (number % ring.layout.coarseCount) = [] := by
        refine List.eq_nil_iff_forall_not_mem.mpr ?_
        intro readout member
        obtain ⟨slot, after, before⟩ := moved.sound.of_mem_content member
        rw [moved.layout] at slot after before
        rw [moved.finish] at before
        have below : ring.finish < ring.start + ring.layout.coarseCount := finish_lt
        have first := moved.start
        have same := eq_of_slot_eq (by omega) (Nat.lt_trans before below) above turn slot
        omega
      rw [nothing, eq_comm, List.filter_eq_nil_iff]
      intro readout member kept
      rw [decide_eq_true_iff, ← after_iff, (placed readout member).1] at kept
      exact Nat.not_lt.mpr kept gone
    · have same : content later.coarse (number % ring.layout.coarseCount) = ring.held number := by
        rw [← moved.held number (by rw [← moved.start]; exact Nat.le_of_not_lt gone) turn,
          TimeRing.held, moved.layout]
      rw [same, eq_comm, List.filter_eq_self]
      intro readout member
      rw [decide_eq_true_iff, ← after_iff, (placed readout member).1]
      exact Nat.le_of_not_lt gone
  · have outside := Nat.le_of_not_lt inside
    rw [sound.content_of_count_le outside]
    rw [← moved.layout] at outside
    exact moved.sound.content_of_count_le outside

end Moved

variable {ring : TimeRing}

section

variable (sound : ring.Sound)
include sound

theorem base_add_span : ring.base + ring.span = ring.finish * ring.layout.coarseWidth := by
  rw [finish, Nat.add_mul, ← sound.base, span, Nat.mul_comm]

theorem Moved.base_eq {later : TimeRing} {bins : Nat} (moved : Moved ring later bins) :
    later.base = ring.base + ring.layout.coarseWidth * bins := by
  rw [moved.sound.base, moved.start, moved.layout, Nat.add_mul, ← sound.base, Nat.mul_comm bins]

theorem advance_eq (occupied : 0 < ring.occupied) :
    ring.advance = ({ ring with
      first := (ring.first + 1) % ring.layout.coarseCount
      base := ring.base + ring.layout.coarseWidth
      coarse := ring.coarse.modify ring.first fun _ => #[] }, ring.baseBin.size) := by
  rw [advance, if_neg (by simpa using sound.isEmpty_eq_false_iff.mpr occupied)]

theorem held_advance (occupied : 0 < ring.occupied) (number : Nat) :
    ring.advance.1.held number =
      if ring.start % ring.layout.coarseCount = number % ring.layout.coarseCount then []
      else ring.held number := by
  rw [advance_eq sound occupied, ← sound.first]
  exact content_modify_clear ring.coarse ring.first (number % ring.layout.coarseCount)

/-- A ring that is not empty is moved one bin on. -/
theorem moved_advance (occupied : 0 < ring.occupied) : Moved ring ring.advance.1 1 := by
  have held := held_advance sound occupied
  have step : ring.advance.1 = { ring with
      first := (ring.first + 1) % ring.layout.coarseCount
      base := ring.base + ring.layout.coarseWidth
      coarse := ring.coarse.modify ring.first fun _ => #[] } :=
    congrArg Prod.fst (advance_eq sound occupied)
  have layout : ring.advance.1.layout = ring.layout := by rw [step]
  have base : ring.advance.1.base = (ring.start + 1) * ring.layout.coarseWidth := by
    rw [step, Nat.succ_mul, ← sound.base]
  have start : ring.advance.1.start = ring.start + 1 := by
    rw [TimeRing.start, base, layout, Layout.coarseNumber_mul]
  have first : ring.advance.1.first = (ring.start + 1) % ring.layout.coarseCount := by
    have slot : ring.advance.1.first = (ring.first + 1) % ring.layout.coarseCount := by rw [step]
    rw [slot, sound.first, Nat.mod_add_mod]
  have stop : ring.advance.1.stop = ring.finish % ring.layout.coarseCount := by
    rw [step, ← sound.stop_eq]
  have below : ring.finish < ring.start + ring.layout.coarseCount := finish_lt
  have defined : ring.finish = ring.start + ring.occupied := rfl
  have left : ring.advance.1.occupied = ring.occupied - 1 := by
    refine occupied_of_slots ?_ ?_ ?_
    · rw [first, start, layout]
    · rw [stop, start, layout, defined]
      congr 1
      omega
    · rw [layout]
      omega
  have finish : ring.advance.1.finish = ring.finish := by
    rw [TimeRing.finish, left, start, defined]
    omega
  have later : ∀ number, ring.start + 1 ≤ number →
      number < ring.start + ring.layout.coarseCount →
      ring.advance.1.held number = ring.held number := by
    intro number above turn
    rw [held number, if_neg]
    intro slot
    have same := eq_of_slot_eq (Nat.le_refl _) (by omega) (by omega) turn slot
    omega
  refine ⟨?_, layout, start, finish, ?_, later⟩
  · constructor
    · rw [layout]
      exact sound.valid
    · rw [layout, step]
      exact Array.size_modify.trans sound.coarse
    · rw [layout, step]
      exact sound.fine
    · rw [start, layout, base]
    · rw [start, layout, first]
    · rw [stop, layout]
      exact Nat.mod_lt _ ring.layout.coarseCount_pos
    · intro number above turn readout member
      rw [start] at above
      rw [start, layout] at turn
      rw [finish, layout]
      by_cases last : number < ring.start + ring.layout.coarseCount
      · rw [later number above last] at member
        exact sound.placed number (by omega) last readout member
      · -- The slot of the old base bin is the last one of the new turn.
        have around : number = ring.start + ring.layout.coarseCount := by omega
        rw [held number, if_pos (by rw [around, Nat.add_mod_right])] at member
        exact absurd member List.not_mem_nil
  · rw [step]

omit sound in
/-- The number that is told is that of the readouts that are given. -/
theorem count_takeUntil (limit steps : Nat) :
    (ring.takeUntil limit steps).2.2 = (ring.takeUntil limit steps).2.1.length := by
  induction steps generalizing ring with
  | zero => rfl
  | succ steps induction =>
      by_cases stays : ring.isEmpty || limit ≤ ring.base
      · rw [takeUntil, if_pos stays]
        rfl
      · rw [takeUntil, if_neg stays]
        dsimp only
        rw [induction, List.length_append, Array.length_toList]

/-- What is let go is what the bins from the base on hold, and it stops only
after so many steps, at the limit, or when nothing is left. -/
theorem moved_takeUntil (limit steps : Nat) : ∃ bins,
    Moved ring (ring.takeUntil limit steps).1 bins ∧
      (ring.takeUntil limit steps).2.1 = (ring.block bins).flatten ∧ bins ≤ steps ∧
      (bins = steps ∨ bins = ring.occupied ∨
        limit ≤ ring.base + bins * ring.layout.coarseWidth) := by
  induction steps generalizing ring with
  | zero => exact ⟨0, Moved.refl sound, rfl, Nat.le_refl _, Or.inl rfl⟩
  | succ steps induction =>
      by_cases stays : ring.isEmpty || limit ≤ ring.base
      · rw [takeUntil, if_pos stays]
        refine ⟨0, Moved.refl sound, rfl, Nat.zero_le _, Or.inr ?_⟩
        rcases (Bool.or_eq_true _ _).mp stays with empty | reached
        · exact Or.inl (sound.isEmpty_iff.mp empty).symm
        · exact Or.inr (by simpa using reached)
      · have occupied := sound.occupied_pos_of_goes_on stays
        have step := moved_advance sound occupied
        obtain ⟨bins, moved, taken, fewer, reason⟩ := induction step.sound
        have whole := step.trans moved
        rw [takeUntil, if_neg stays]
        refine ⟨1 + bins, whole, ?_, by omega, ?_⟩
        · have single : ring.block 1 = [ring.held ring.start] := rfl
          rw [step.block_add whole.bins_le, single, List.singleton_append, List.flatten_cons,
            ← sound.baseBin_eq, ← taken]
        · have base : ring.advance.1.base = ring.base + ring.layout.coarseWidth := by
            rw [step.sound.base, step.start, step.layout, Nat.succ_mul, ← sound.base]
          rw [base, step.layout, step.occupied] at reason
          rcases reason with all | empty | reached
          · exact Or.inl (by omega)
          · exact Or.inr (Or.inl (by omega))
          · refine Or.inr (Or.inr ?_)
            rw [Nat.add_mul, Nat.one_mul]
            omega

/-- What is let go of a window is what the bins from the base on hold.  If bins
are left, the base is past the window, or at the end of the clock. -/
theorem moved_takeWindow (window : Nat) : ∃ bins,
    Moved ring (ring.takeWindow window).1 bins ∧
      (ring.takeWindow window).2.1 = (ring.block bins).flatten ∧
      (bins = ring.occupied ∨
        saturate (ring.base + window) ≤ ring.base + bins * ring.layout.coarseWidth) := by
  obtain ⟨bins, moved, taken, _, reason⟩ :=
    moved_takeUntil sound (saturate (ring.base + window)) ring.occupied
  refine ⟨bins, moved, taken, ?_⟩
  rcases reason with all | rest
  · exact Or.inl all
  · exact rest

end

section

variable (sound : ring.Sound) (time : Nat)

theorem start_anchor : (ring.anchor time).1.start = ring.layout.coarseNumber time :=
  ring.layout.coarseNumber_mul (ring.layout.coarseNumber time)

theorem occupied_anchor : (ring.anchor time).1.occupied = 0 := by
  refine occupied_of_slots ?_ ?_ ring.layout.coarseCount_pos
  · rw [start_anchor]
    rfl
  · rw [start_anchor]
    rfl

theorem held_anchor (number : Nat) : (ring.anchor time).1.held number = [] :=
  content_replicate _ _

include sound in
theorem sound_anchor : (ring.anchor time).1.Sound := by
  constructor
  · exact sound.valid
  · exact Array.size_replicate.trans sound.coarse
  · exact Array.size_replicate.trans sound.fine
  · rw [start_anchor]
    rfl
  · rw [start_anchor]
    rfl
  · exact Nat.mod_lt _ ring.layout.coarseCount_pos
  · intro number _ _ readout member
    rw [held_anchor] at member
    exact absurd member List.not_mem_nil

end

section

variable (sound : ring.Sound)
include sound

theorem sound_clearFine : ring.clearFine.1.Sound :=
  { valid := sound.valid
    coarse := sound.coarse
    fine := Array.size_replicate.trans sound.fine
    base := sound.base
    first := sound.first
    stop := sound.stop
    placed := sound.placed }

/-- The walk to the slot of a bin of the window lets the bins before it go, or all
of them. -/
theorem moved_advanceTo {number steps : Nat} (above : ring.start ≤ number)
    (turn : number < ring.start + ring.layout.coarseCount) (enough : ring.occupied ≤ steps) :
    Moved ring (ring.advanceTo (number % ring.layout.coarseCount) steps).1
      (min (number - ring.start) ring.occupied) := by
  induction steps generalizing ring with
  | zero =>
      rw [Nat.le_zero.mp enough, Nat.min_zero]
      exact Moved.refl sound
  | succ steps induction =>
      by_cases stays : ring.isEmpty || ring.first == number % ring.layout.coarseCount
      · have none : min (number - ring.start) ring.occupied = 0 := by
          rcases (Bool.or_eq_true _ _).mp stays with empty | there
          · rw [sound.isEmpty_iff.mp empty, Nat.min_zero]
          · have positive := ring.layout.coarseCount_pos
            have slot : ring.start % ring.layout.coarseCount =
                number % ring.layout.coarseCount := by
              rw [← sound.first]
              exact beq_iff_eq.mp there
            have here := eq_of_slot_eq (Nat.le_refl _) (by omega) above turn slot
            omega
        rw [advanceTo, if_pos stays, none]
        exact Moved.refl sound
      · have going : ring.isEmpty = false ∧ ring.first ≠ number % ring.layout.coarseCount := by
          simpa using stays
        have occupied := sound.isEmpty_eq_false_iff.mp going.1
        have step := moved_advance sound occupied
        have elsewhere : ring.start ≠ number := by
          intro here
          rw [← here, ← sound.first] at going
          exact going.2 rfl
        have rest := induction step.sound (by rw [step.start]; omega)
          (by rw [step.start, step.layout]; omega) (by rw [step.occupied]; omega)
        have bins : min (number - ring.start) ring.occupied =
            1 + min (number - ring.advance.1.start) ring.advance.1.occupied := by
          rw [step.start, step.occupied]
          omega
        rw [advanceTo, if_neg stays, bins]
        rw [step.layout] at rest
        exact step.trans rest

omit sound in
theorem anchor_clearFine (time : Nat) : ring.clearFine.1.anchor time = ring.anchor time := by
  simp [anchor, clearFine, clearCoarse]

omit sound in
/-- The ring that is walked to a time: its fine bins are emptied unless it is there. -/
def readied (ring : TimeRing) (time : Nat) : TimeRing :=
  if ring.first == ring.layout.coarseIndex time then ring else ring.clearFine.1

omit sound in
theorem readied_cases (time : Nat) :
    ring.readied time = ring ∨ ring.readied time = ring.clearFine.1 := by
  unfold readied
  split
  · exact Or.inl rfl
  · exact Or.inr rfl

theorem readied_spec (time : Nat) :
    (ring.readied time).Sound ∧ (ring.readied time).layout = ring.layout ∧
      (ring.readied time).start = ring.start ∧ (ring.readied time).occupied = ring.occupied := by
  rcases readied_cases time with same | same
  · rw [same]
    exact ⟨sound, rfl, rfl, rfl⟩
  · rw [same]
    exact ⟨sound_clearFine sound, rfl, rfl, rfl⟩

omit sound in
theorem reset_of_outside {time : Nat} (outside : ring.isEmpty || !ring.accepts time) :
    ring.reset time = ring.anchor time :=
  if_pos outside

theorem reset_of_inside {time : Nat} (inside : ¬(ring.isEmpty || !ring.accepts time))
    {walked : TimeRing × Nat}
    (walk : (ring.readied time).advanceTo (ring.layout.coarseIndex time) ring.occupied = walked) :
    ring.reset time =
      if walked.1.first == ring.layout.coarseIndex time then walked
      else ((walked.1.anchor time).1, walked.2 + (walked.1.anchor time).2) := by
  rw [← (readied_spec sound time).2.2.2] at walk
  rw [← walk]
  exact if_neg inside

/-- A reset moves the base on within what is occupied, or else it anchors the ring at
a time that is before its base or not before its end. -/
theorem reset_cases (time : Nat) :
    let number := ring.layout.coarseNumber time
    let target := ring.layout.coarseIndex time
    (ring.isEmpty = false ∧ ring.start ≤ number ∧ number ≤ ring.finish ∧
      (ring.readied time = if number = ring.start then ring else ring.clearFine.1) ∧
      Moved (ring.readied time) (ring.reset time).1 (number - ring.start) ∧
      ring.reset time = (ring.readied time).advanceTo target ring.occupied) ∨
    ((ring.isEmpty = false → number ≠ ring.start) ∧
      (ring.start ≤ number → ring.finish ≤ number) ∧
      ∃ steps, ∃ walked dropped, ring.clearFine.1.advanceTo target steps = (walked, dropped) ∧
        ring.reset time = ((walked.anchor time).1, dropped + (walked.anchor time).2)) := by
  intro number target
  have positive := sound.valid.two_le_coarseCount
  have below : ring.finish < ring.start + ring.layout.coarseCount := finish_lt
  have stop : ring.finish = ring.start + ring.occupied := rfl
  have window := sound.inWindow_iff time
  by_cases outside : ring.isEmpty || !ring.accepts time
  · right
    have late : ring.isEmpty = true ∨ ¬inWindow ring.layout ring.base time = true := by
      simpa [accepts] using outside
    rw [window, sound.isEmpty_iff] at late
    refine ⟨?_, ?_, 0, ring.clearFine.1, 0, rfl, ?_⟩
    · intro busy here
      rw [sound.isEmpty_eq_false_iff] at busy
      omega
    · omega
    · rw [reset_of_outside outside, anchor_clearFine, Nat.zero_add]
  · have inside : ring.isEmpty = false ∧ inWindow ring.layout ring.base time = true := by
      simpa [accepts] using outside
    rw [window] at inside
    obtain ⟨busy, above, turn⟩ : ring.isEmpty = false ∧ ring.start ≤ number ∧
        number < ring.start + (ring.layout.coarseCount - 1) := inside
    have slot_iff : ∀ bin, ring.start ≤ bin → bin ≤ ring.finish →
        ((bin % ring.layout.coarseCount == target) = true ↔ bin = number) := by
      intro bin aboveBin belowBin
      rw [beq_iff_eq]
      constructor
      · exact eq_of_slot_eq aboveBin (Nat.lt_of_le_of_lt belowBin below) above
          (Nat.lt_of_lt_of_le turn (by omega))
      · rintro rfl
        rfl
    have readying : ring.readied time = if number = ring.start then ring else ring.clearFine.1 := by
      have here_iff := slot_iff ring.start (Nat.le_refl _) start_le_finish
      rw [← sound.first, eq_comm (a := ring.start)] at here_iff
      exact if_congr here_iff rfl rfl
    obtain ⟨readiedSound, layout, start, occupied⟩ := readied_spec sound time
    have moved : Moved (ring.readied time)
        ((ring.readied time).advanceTo target ring.occupied).1
        (min (number - ring.start) ring.occupied) := by
      have aboveReadied : (ring.readied time).start ≤ number := by rwa [start]
      have enough : (ring.readied time).occupied ≤ ring.occupied := Nat.le_of_eq occupied
      have walked := moved_advanceTo readiedSound aboveReadied
        (by rw [start, layout]; omega) enough
      rwa [start, occupied, layout] at walked
    generalize walk : (ring.readied time).advanceTo target ring.occupied = result at moved
    have unfolded := reset_of_inside sound outside walk
    -- The walk ends in the slot of the time, unless nothing is left before it is there.
    have reached_iff : (result.1.first == target) = true ↔ number ≤ ring.finish := by
      rw [moved.sound.first, moved.start, start, moved.layout, layout,
        slot_iff _ (Nat.le_add_right _ _) (by omega)]
      omega
    by_cases reached : number ≤ ring.finish
    · left
      rw [if_pos (reached_iff.mpr reached)] at unfolded
      have bins : min (number - ring.start) ring.occupied = number - ring.start := by omega
      rw [bins] at moved
      rw [unfolded]
      exact ⟨busy, above, reached, readying, moved, rfl⟩
    · right
      rw [if_neg (fun slot => reached (reached_iff.mp slot))] at unfolded
      rw [readying, if_neg (by omega)] at walk
      refine ⟨?_, ?_, ring.occupied, result.1, result.2, walk, unfolded⟩
      · intro _
        omega
      · intro _
        omega

end

end TimeRing

/-- The fine bins that readouts are spread over. -/
def Layout.fineBlock (layout : Layout) (readouts : List Readout) : List (List Readout) :=
  (List.range layout.fineCount).map fun index =>
    readouts.filter fun readout => layout.fineIndex readout.time.toNat = index

theorem Layout.length_fineBlock (layout : Layout) (readouts : List Readout) :
    (layout.fineBlock readouts).length = layout.fineCount := by
  rw [fineBlock, List.length_map, List.length_range]

theorem Layout.fineBlock_nil (layout : Layout) : ∀ bin ∈ layout.fineBlock [], bin = [] := by
  intro bin member
  obtain ⟨index, -, same⟩ := List.mem_map.mp member
  exact same.symm

namespace TimeRing

/-- The fine bins are empty. -/
def Cleared (ring : TimeRing) : Prop :=
  ring.fine = Array.replicate ring.layout.fineCount #[]

theorem Moved.cleared {ring later : TimeRing} {bins : Nat} (moved : Moved ring later bins)
    (cleared : ring.Cleared) : later.Cleared := by
  rw [Cleared, moved.fine, moved.layout]
  exact cleared

theorem fineBins_eq (ring : TimeRing) :
    ring.fineBins = (List.range ring.fine.size).map (content ring.fine) :=
  map_toList_eq ring.fine

variable {ring : TimeRing}

theorem cleared_anchor (sound : ring.Sound) (time : Nat) : (ring.anchor time).1.Cleared := by
  have size : (ring.anchor time).1.fine = Array.replicate ring.fine.size #[] := rfl
  rw [Cleared, size, sound.fine]
  rfl

theorem fineBins_of_cleared (cleared : ring.Cleared) :
    ring.fineBins = ring.layout.fineBlock [] := by
  rw [fineBins_eq, cleared, Array.size_replicate, Layout.fineBlock]
  refine List.map_congr_left ?_
  intro index _
  exact content_replicate _ index

theorem rest_spread (ring : TimeRing) :
    ring.spread.1 = { ring with fine := ring.spread.1.fine } := by
  unfold spread
  split
  · rfl
  · rfl

section

variable (sound : ring.Sound) (occupied : 0 < ring.occupied)
include sound occupied

theorem spread_eq : ring.spread.1 =
    { ring with fine := (ring.held ring.start).foldl (fileFine ring.layout) ring.fine } := by
  rw [spread, if_neg (by simpa using sound.isEmpty_eq_false_iff.mpr occupied),
    ← sound.baseBin_eq, Array.foldl_toList]

theorem size_fine_spread : ring.spread.1.fine.size = ring.layout.fineCount := by
  rw [spread_eq sound occupied]
  exact (size_foldl_push _ _ _).trans sound.fine

variable (cleared : ring.Cleared)
include cleared

theorem fineBins_spread :
    ring.spread.1.fineBins = ring.layout.fineBlock (ring.held ring.start) := by
  rw [fineBins_eq, size_fine_spread sound occupied, Layout.fineBlock]
  refine List.map_congr_left ?_
  intro index member
  have inside : index < ring.fine.size := by
    rw [sound.fine]
    exact List.mem_range.mp member
  have filed : content ring.spread.1.fine index =
      content ring.fine index ++ (ring.held ring.start).filter fun readout =>
        ring.layout.fineIndex readout.time.toNat = index := by
    rw [spread_eq sound occupied]
    exact content_foldl_push (fun readout => ring.layout.fineIndex readout.time.toNat) inside
      (ring.held ring.start)
  rw [filed, cleared, content_replicate, List.nil_append]

theorem clearFine_spread : ring.spread.1.clearFine.1 = ring := by
  have emptied : ring.spread.1.clearFine.1 =
      { ring with fine := Array.replicate ring.layout.fineCount #[] } := by
    rw [clearFine, size_fine_spread sound occupied, spread_eq sound occupied]
  rw [emptied, ← cleared]

end

end TimeRing

end EventFormation
