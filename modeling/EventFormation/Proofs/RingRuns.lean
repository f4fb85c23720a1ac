import EventFormation.Proofs.RingRelease

/-!
# Time bins in use

Bins that are filled, spread, emptied, let go and re-anchored in any order stay
sound.  So the slots are always where the base is, one of them is free, and
every readout lies in the slot of its time and within the occupied time.
-/

namespace EventFormation

/-- What can be asked of time bins. -/
inductive RingStep where
  | insert (readouts : List Readout)
  | reset (time : Nat)
  | spread
  | clearFine
  | clearCoarse
  | advance
  | takeWindow (window : Nat)
  deriving DecidableEq

namespace TimeRing

def perform (ring : TimeRing) : RingStep → TimeRing
  | .insert readouts => (ring.insert readouts).1
  | .reset time => (ring.reset time).1
  | .spread => ring.spread.1
  | .clearFine => ring.clearFine.1
  | .clearCoarse => ring.clearCoarse.1
  | .advance => ring.advance.1
  | .takeWindow window => (ring.takeWindow window).1

def run (ring : TimeRing) (steps : List RingStep) : TimeRing :=
  steps.foldl perform ring

variable {ring : TimeRing}

theorem run_concat (steps : List RingStep) (step : RingStep) :
    ring.run (steps ++ [step]) = (ring.run steps).perform step :=
  List.foldl_concat ..

section

variable (sound : ring.Sound)
include sound

theorem sound_clearCoarse : ring.clearCoarse.1.Sound := by
  constructor
  · exact sound.valid
  · exact Array.size_replicate.trans sound.coarse
  · exact sound.fine
  · exact sound.base
  · exact sound.first
  · exact sound.stop
  · intro number _ _ readout member
    have nothing : ring.clearCoarse.1.held number = [] := content_replicate _ _
    rw [nothing] at member
    exact absurd member List.not_mem_nil

theorem sound_spread : ring.spread.1.Sound := by
  cases empty : ring.isEmpty with
  | true =>
      rw [spread, if_pos empty]
      exact sound
  | false =>
      have occupied := sound.isEmpty_eq_false_iff.mp empty
      rw [spread_eq sound occupied]
      exact
        { valid := sound.valid
          coarse := sound.coarse
          fine := (size_foldl_push _ _ _).trans sound.fine
          base := sound.base
          first := sound.first
          stop := sound.stop
          placed := sound.placed }

theorem exists_moved_advance : ∃ bins, Moved ring ring.advance.1 bins := by
  cases empty : ring.isEmpty with
  | true =>
      rw [advance, if_pos empty]
      exact ⟨0, Moved.refl sound⟩
  | false => exact ⟨1, moved_advance sound (sound.isEmpty_eq_false_iff.mp empty)⟩

theorem exists_moved_advanceTo (target steps : Nat) :
    ∃ bins, Moved ring (ring.advanceTo target steps).1 bins := by
  induction steps generalizing ring with
  | zero => exact ⟨0, Moved.refl sound⟩
  | succ steps induction =>
      by_cases stays : ring.isEmpty || ring.first == target
      · rw [advanceTo, if_pos stays]
        exact ⟨0, Moved.refl sound⟩
      · rw [advanceTo, if_neg stays]
        obtain ⟨bins, step⟩ := exists_moved_advance sound
        obtain ⟨more, rest⟩ := induction step.sound
        exact ⟨bins + more, step.trans rest⟩

theorem sound_reset (time : Nat) :
    (ring.reset time).1.Sound ∧ (ring.reset time).1.layout = ring.layout := by
  rcases reset_cases sound time with ⟨-, -, -, -, moved, -⟩ |
    ⟨-, -, steps, walked, dropped, walk, anchored⟩
  · exact ⟨moved.sound, moved.layout.trans (readied_spec sound time).2.1⟩
  · obtain ⟨bins, moved⟩ := exists_moved_advanceTo (sound_clearFine sound)
      (ring.layout.coarseIndex time) steps
    rw [walk] at moved
    rw [anchored]
    exact ⟨sound_anchor moved.sound time, moved.layout⟩

theorem sound_perform (step : RingStep) :
    (ring.perform step).Sound ∧ (ring.perform step).layout = ring.layout := by
  cases step with
  | insert readouts => exact ⟨sound_insert sound readouts, rfl⟩
  | reset time => exact sound_reset sound time
  | spread =>
      refine ⟨sound_spread sound, ?_⟩
      rw [perform, rest_spread]
  | clearFine => exact ⟨sound_clearFine sound, rfl⟩
  | clearCoarse => exact ⟨sound_clearCoarse sound, rfl⟩
  | advance =>
      obtain ⟨bins, moved⟩ := exists_moved_advance sound
      exact ⟨moved.sound, moved.layout⟩
  | takeWindow window =>
      obtain ⟨bins, moved, -⟩ := moved_takeWindow sound window
      exact ⟨moved.sound, moved.layout⟩

theorem sound_run (steps : List RingStep) :
    (ring.run steps).Sound ∧ (ring.run steps).layout = ring.layout := by
  induction steps using List.reverseRecOn with
  | nil => exact ⟨sound, rfl⟩
  | append_singleton steps step induction =>
      obtain ⟨before, layout⟩ := induction
      obtain ⟨after, same⟩ := sound_perform before step
      rw [run_concat]
      exact ⟨after, same.trans layout⟩

end

/-- The slots of a ring and the times of what they hold, without numbers of
bins. -/
structure InPlace (layout : Layout) (ring : TimeRing) : Prop where
  laidOut : ring.layout = layout
  slots : ring.coarse.size = layout.coarseCount
  base : layout.coarseWidth ∣ ring.base
  first : ring.first = ring.base / layout.coarseWidth % layout.coarseCount
  stop : ring.stop < layout.coarseCount
  /-- The newest occupied bin is the one before the slot `stop`, and one slot is free. -/
  occupied : ring.stop = (ring.first + ring.occupied) % layout.coarseCount ∧
    ring.occupied ≤ layout.coarseCount - 1
  span : ring.span = ring.occupied * layout.coarseWidth
  /-- What a slot holds is of its time, and of the occupied time. -/
  stored : ∀ slot bin, ring.coarse[slot]? = some bin → ∀ readout ∈ bin,
    layout.coarseIndex readout.time.toNat = slot ∧
      ring.base ≤ readout.time.toNat ∧
      readout.time.toNat < ring.base + ring.occupied * layout.coarseWidth
  /-- Slots at least as far behind the base as the occupied ones hold nothing. -/
  vacant : ∀ slot bin, ring.coarse[slot]? = some bin →
    ring.occupied ≤ (slot + layout.coarseCount - ring.first) % layout.coarseCount → bin = #[]
  /-- An empty ring holds nothing at all. -/
  empty : ring.isEmpty → ∀ bin ∈ ring.coarse, bin = #[]

section

variable (sound : ring.Sound)
include sound

theorem exists_number {slot : Nat} {bin : Array Readout} (found : ring.coarse[slot]? = some bin) :
    let number := ring.start + (slot + ring.layout.coarseCount - ring.first) %
      ring.layout.coarseCount
    number % ring.layout.coarseCount = slot ∧
      number < ring.start + ring.layout.coarseCount ∧ ring.held number = bin.toList := by
  intro number
  obtain ⟨inside, -⟩ := Array.getElem?_eq_some_iff.mp found
  rw [sound.coarse] at inside
  have slotOf : number % ring.layout.coarseCount = slot := by
    have around : (ring.start + (slot + ring.layout.coarseCount -
        ring.start % ring.layout.coarseCount) % ring.layout.coarseCount) %
          ring.layout.coarseCount = slot :=
      slot_add_between inside
    rwa [← sound.first] at around
  refine ⟨slotOf, Nat.add_lt_add_left (Nat.mod_lt _ ring.layout.coarseCount_pos) _, ?_⟩
  rw [held, content, slotOf, found, Option.getD_some]

theorem Sound.vacant {slot : Nat} {bin : Array Readout} (found : ring.coarse[slot]? = some bin)
    (behind : ring.occupied ≤
      (slot + ring.layout.coarseCount - ring.first) % ring.layout.coarseCount) : bin = #[] := by
  obtain ⟨-, turn, held⟩ := exists_number sound found
  have after : ring.finish ≤ ring.start +
      (slot + ring.layout.coarseCount - ring.first) % ring.layout.coarseCount :=
    Nat.add_le_add_left behind _
  rw [sound.held_eq_nil after turn] at held
  exact Array.toList_eq_nil_iff.mp held.symm

theorem Sound.stored {slot : Nat} {bin : Array Readout} (found : ring.coarse[slot]? = some bin)
    {readout : Readout} (member : readout ∈ bin) :
    ring.layout.coarseIndex readout.time.toNat = slot ∧
      ring.base ≤ readout.time.toNat ∧
      readout.time.toNat < ring.base + ring.occupied * ring.layout.coarseWidth := by
  have inSlot : readout ∈ content ring.coarse slot := by
    rwa [content, found, Option.getD_some, Array.mem_toList_iff]
  obtain ⟨index, above, within⟩ := sound.of_mem_content inSlot
  refine ⟨index, (sound.start_le_coarseNumber_iff readout.time.toNat).mp above, ?_⟩
  rw [sound.base, ← Nat.add_mul, ← Layout.coarseNumber_lt_iff]
  exact within

theorem Sound.inPlace : InPlace ring.layout ring := by
  constructor
  · rfl
  · exact sound.coarse
  · exact ⟨ring.start, by rw [Nat.mul_comm, ← sound.base]⟩
  · exact sound.first
  · exact sound.stop
  · have less : ring.occupied < ring.layout.coarseCount := occupied_lt
    refine ⟨?_, by omega⟩
    rw [sound.first, Nat.mod_add_mod]
    exact sound.stop_eq
  · exact Nat.mul_comm _ _
  · exact fun _ _ found _ => sound.stored found
  · exact fun _ _ found => sound.vacant found
  · intro empty bin member
    obtain ⟨slot, inside, found⟩ := Array.mem_iff_getElem.mp member
    have stored : ring.coarse[slot]? = some bin := by
      rw [Array.getElem?_eq_getElem inside, found]
    refine sound.vacant stored ?_
    rw [sound.isEmpty_iff.mp empty]
    exact Nat.zero_le _

end

theorem create_eq_ok_iff {layout : Layout} {fresh : TimeRing} :
    create layout = .ok fresh ↔ layout.Valid ∧ fresh = empty layout := by
  rw [← Settings.layoutFault?_eq_none_iff, create]
  cases fault : Settings.layoutFault? layout with
  | some fault => simp
  | none => simp [eq_comm]

theorem sound_run_of_create {layout : Layout} {fresh : TimeRing}
    (created : create layout = .ok fresh) (steps : List RingStep) :
    (fresh.run steps).Sound ∧ (fresh.run steps).layout = layout := by
  obtain ⟨valid, rfl⟩ := create_eq_ok_iff.mp created
  exact sound_run (sound_empty valid) steps

/-- Whatever is asked of bins that were created empty, the slots stay where the
base is and what they hold stays in place. -/
theorem run_inPlace {layout : Layout} {fresh : TimeRing} (created : create layout = .ok fresh)
    (steps : List RingStep) : InPlace layout (fresh.run steps) := by
  obtain ⟨sound, same⟩ := sound_run_of_create created steps
  have inPlace := sound.inPlace
  rwa [same] at inPlace

/-- A ring whose occupied bins wrap around and that is moved on within them. -/
theorem wrapped_run_inPlace :
    let layout : Layout := { coarseBits := 2, fineWidthBits := 1, fineBits := 1 }
    let steps : List RingStep :=
      [.reset 30, .insert [.neutron 29 1 1 1, .neutron 39 2 2 1], .spread, .reset 33, .clearFine,
        .insert [.neutron 41 3 3 1], .takeWindow 3]
    let ring := (TimeRing.empty layout).run steps
    create layout = .ok (empty layout) ∧ ring.first = 1 ∧ ring.stop = 3 ∧
      ring.InPlace layout := by
  intro layout steps ring
  have created : create layout = .ok (empty layout) := rfl
  exact ⟨created, by decide +kernel, by decide +kernel, run_inPlace created steps⟩

end TimeRing

end EventFormation
