import EventFormation.TimeRing
import Mathlib

/-!
# What the time bins hold

Coarse bins are numbered from time zero on, so the number of a bin says which
times it is for, whatever slot it has.  A ring stands for the bins from its
start up to its finish; a bin has the slot that its number leaves when it is
divided by the number of slots.  As less than one turn of the ring is looked
at, no two bins share a slot.

Each operation is described here by what it does to the start, the finish and
the contents of the numbered bins.
-/

namespace EventFormation

namespace Layout

variable (layout : Layout)

/-- The number of the coarse bin that an instant falls into. -/
def coarseNumber (time : Nat) : Nat :=
  time / layout.coarseWidth

theorem coarseIndex_eq (time : Nat) :
    layout.coarseIndex time = layout.coarseNumber time % layout.coarseCount := rfl

theorem coarseFloor_eq (time : Nat) :
    layout.coarseFloor time = layout.coarseNumber time * layout.coarseWidth := rfl

@[simp] theorem coarseNumber_mul (number : Nat) :
    layout.coarseNumber (number * layout.coarseWidth) = number :=
  Nat.mul_div_cancel number layout.coarseWidth_pos

theorem le_coarseNumber_iff {number time : Nat} :
    number ≤ layout.coarseNumber time ↔ number * layout.coarseWidth ≤ time :=
  Nat.le_div_iff_mul_le layout.coarseWidth_pos

theorem coarseNumber_lt_iff {number time : Nat} :
    layout.coarseNumber time < number ↔ time < number * layout.coarseWidth :=
  Nat.div_lt_iff_lt_mul layout.coarseWidth_pos

theorem coarseNumber_mono {earlier later : Nat} (ordered : earlier ≤ later) :
    layout.coarseNumber earlier ≤ layout.coarseNumber later :=
  Nat.div_le_div_right ordered

variable {layout}

theorem Valid.two_le_coarseCount (valid : layout.Valid) : 2 ≤ layout.coarseCount := by
  have grown : 2 ^ 1 ≤ 2 ^ layout.coarseBits := Nat.pow_le_pow_right (by decide) valid.1
  rwa [coarseCount, Nat.one_shiftLeft]

end Layout

namespace Readout

/-- The number of the coarse bin of a readout. -/
def coarseNumber (layout : Layout) (readout : Readout) : Nat :=
  layout.coarseNumber readout.time.toNat

end Readout

section

variable {count first number other : Nat}

/-- Bins of one turn of the ring do not share a slot. -/
theorem eq_of_slot_eq (above : first ≤ number) (below : number < first + count)
    (otherAbove : first ≤ other) (otherBelow : other < first + count)
    (slot : number % count = other % count) : number = other := by
  rcases Nat.le_total number other with ordered | ordered
  · have divides := (Nat.modEq_iff_dvd' ordered).mp slot
    have zero := Nat.eq_zero_of_dvd_of_lt divides (by omega)
    omega
  · have divides := (Nat.modEq_iff_dvd' ordered).mp slot.symm
    have zero := Nat.eq_zero_of_dvd_of_lt divides (by omega)
    omega

/-- How many slots lie between the slots of two bins of one turn. -/
theorem slots_between {bins : Nat} (fewer : bins < count) :
    ((first + bins) % count + count - first % count) % count = bins := by
  have positive : 0 < count := by omega
  have firstLt := Nat.mod_lt first positive
  rw [← Nat.mod_add_mod]
  by_cases wraps : first % count + bins < count
  · rw [Nat.mod_eq_of_lt wraps]
    have turn : first % count + bins + count - first % count = bins + count := by omega
    rw [turn, Nat.add_mod_right, Nat.mod_eq_of_lt fewer]
  · have wrapped : (first % count + bins) % count = first % count + bins - count := by
      rw [Nat.mod_eq_sub_mod (by omega), Nat.mod_eq_of_lt (by omega)]
    have turn : first % count + bins - count + count - first % count = bins := by omega
    rw [wrapped, turn, Nat.mod_eq_of_lt fewer]

theorem slot_add_between {stop : Nat} (inside : stop < count) :
    (first + (stop + count - first % count) % count) % count = stop := by
  have firstLt := Nat.mod_lt first (by omega : 0 < count)
  have turn : first % count + (stop + count - first % count) = stop + count := by omega
  rw [Nat.add_mod_mod, ← Nat.mod_add_mod, turn, Nat.add_mod_right, Nat.mod_eq_of_lt inside]

end

namespace TimeRing

def content (bins : Array (Array Readout)) (slot : Nat) : List Readout :=
  (bins[slot]?.getD #[]).toList

theorem map_toList_eq (bins : Array (Array Readout)) :
    bins.toList.map Array.toList = (List.range bins.size).map (content bins) := by
  refine List.ext_getElem ?_ ?_
  · simp
  · intro slot inside _
    have within : slot < bins.size := by simpa using inside
    simp [content, within]

theorem content_of_size_le {bins : Array (Array Readout)} {slot : Nat}
    (outside : bins.size ≤ slot) : content bins slot = [] := by
  rw [content, Array.getElem?_eq_none outside]
  rfl

theorem content_replicate (count slot : Nat) : content (Array.replicate count #[]) slot = [] := by
  unfold content
  rw [Array.getElem?_replicate]
  split
  · rfl
  · rfl

theorem content_modify_clear (bins : Array (Array Readout)) (cleared slot : Nat) :
    content (bins.modify cleared fun _ => #[]) slot =
      if cleared = slot then [] else content bins slot := by
  unfold content
  rw [Array.getElem?_modify]
  split
  · cases bins[slot]? with
    | none => rfl
    | some bin => rfl
  · rfl

theorem content_modify_push {bins : Array (Array Readout)} {slot : Nat} (inside : slot < bins.size)
    (pushed : Nat) (readout : Readout) :
    content (bins.modify pushed (·.push readout)) slot =
      if pushed = slot then content bins slot ++ [readout] else content bins slot := by
  unfold content
  rw [Array.getElem?_modify]
  split
  · rw [Array.getElem?_eq_getElem inside]
    simp
  · rfl

theorem content_foldl_push (index : Readout → Nat) {bins : Array (Array Readout)} {slot : Nat}
    (inside : slot < bins.size) (readouts : List Readout) :
    content (readouts.foldl
        (fun bins readout => bins.modify (index readout) (·.push readout)) bins) slot =
      content bins slot ++ readouts.filter fun readout => index readout = slot := by
  induction readouts generalizing bins with
  | nil => simp
  | cons readout readouts induction =>
      rw [List.foldl_cons, induction (by rwa [Array.size_modify]), content_modify_push inside,
        List.filter_cons]
      by_cases here : index readout = slot
      · simp [here]
      · simp [here]

theorem size_foldl_push (index : Readout → Nat) (bins : Array (Array Readout))
    (readouts : List Readout) :
    (readouts.foldl (fun bins readout => bins.modify (index readout) (·.push readout)) bins).size =
      bins.size := by
  induction readouts generalizing bins with
  | nil => rfl
  | cons readout readouts induction =>
      rw [List.foldl_cons, induction, Array.size_modify]

variable (ring : TimeRing)

def start : Nat :=
  ring.layout.coarseNumber ring.base

/-- The number after that of the newest occupied bin. -/
def finish : Nat :=
  ring.start + ring.occupied

/-- The readouts of the bin with a number. -/
def held (number : Nat) : List Readout :=
  content ring.coarse (number % ring.layout.coarseCount)

/-- The slots are where the base is, and every readout is in an occupied bin of
its time. -/
structure Sound : Prop where
  valid : ring.layout.Valid
  coarse : ring.coarse.size = ring.layout.coarseCount
  fine : ring.fine.size = ring.layout.fineCount
  base : ring.base = ring.start * ring.layout.coarseWidth
  first : ring.first = ring.start % ring.layout.coarseCount
  stop : ring.stop < ring.layout.coarseCount
  placed : ∀ number, ring.start ≤ number → number < ring.start + ring.layout.coarseCount →
    ∀ readout ∈ ring.held number,
      readout.coarseNumber ring.layout = number ∧ number < ring.finish

variable {ring}

theorem occupied_of_slots {bins : Nat} (first : ring.first = ring.start % ring.layout.coarseCount)
    (stop : ring.stop = (ring.start + bins) % ring.layout.coarseCount)
    (fewer : bins < ring.layout.coarseCount) : ring.occupied = bins := by
  rw [occupied, first, stop]
  exact slots_between fewer

theorem occupied_lt : ring.occupied < ring.layout.coarseCount :=
  Nat.mod_lt _ ring.layout.coarseCount_pos

theorem start_le_finish : ring.start ≤ ring.finish :=
  Nat.le_add_right _ _

theorem finish_lt : ring.finish < ring.start + ring.layout.coarseCount :=
  Nat.add_lt_add_left occupied_lt _

theorem exists_slot_eq {slot : Nat} (inside : slot < ring.layout.coarseCount) : ∃ number,
    ring.start ≤ number ∧ number < ring.start + ring.layout.coarseCount ∧
      number % ring.layout.coarseCount = slot :=
  ⟨ring.start + (slot + ring.layout.coarseCount - ring.start % ring.layout.coarseCount) %
      ring.layout.coarseCount,
    Nat.le_add_right _ _,
    Nat.add_lt_add_left (Nat.mod_lt _ ring.layout.coarseCount_pos) _,
    slot_add_between inside⟩

namespace Sound

variable (sound : ring.Sound)
include sound

theorem stop_eq : ring.stop = ring.finish % ring.layout.coarseCount := by
  rw [finish, occupied, sound.first]
  exact (slot_add_between sound.stop).symm

theorem isEmpty_iff : ring.isEmpty ↔ ring.occupied = 0 := by
  have finish : ring.finish = ring.start + ring.occupied := rfl
  rw [isEmpty, beq_iff_eq, sound.first, sound.stop_eq]
  constructor
  · intro same
    have equal := eq_of_slot_eq (Nat.le_refl _)
      (Nat.lt_add_of_pos_right ring.layout.coarseCount_pos) start_le_finish finish_lt same
    omega
  · intro none
    rw [finish, none, Nat.add_zero]

theorem isEmpty_eq_false_iff : ring.isEmpty = false ↔ 0 < ring.occupied := by
  rw [← Bool.not_eq_true, sound.isEmpty_iff, Nat.pos_iff_ne_zero]

theorem occupied_pos_of_goes_on {reached : Bool} (goesOn : ¬(ring.isEmpty || reached) = true) :
    0 < ring.occupied := by
  rw [Bool.or_eq_true, not_or, Bool.not_eq_true] at goesOn
  exact sound.isEmpty_eq_false_iff.mp goesOn.1

theorem held_eq_nil {number : Nat} (after : ring.finish ≤ number)
    (turn : number < ring.start + ring.layout.coarseCount) : ring.held number = [] := by
  refine List.eq_nil_iff_forall_not_mem.mpr ?_
  intro readout member
  have inside := (sound.placed number (Nat.le_trans start_le_finish after) turn readout member).2
  omega

theorem baseBin_eq : ring.baseBin.toList = ring.held ring.start := by
  rw [baseBin, held, content, sound.first]

theorem content_of_count_le {slot : Nat} (outside : ring.layout.coarseCount ≤ slot) :
    content ring.coarse slot = [] := by
  rw [← sound.coarse] at outside
  exact content_of_size_le outside

theorem of_mem_content {slot : Nat} {readout : Readout}
    (member : readout ∈ content ring.coarse slot) :
    ring.layout.coarseIndex readout.time.toNat = slot ∧
      ring.start ≤ readout.coarseNumber ring.layout ∧
        readout.coarseNumber ring.layout < ring.finish := by
  by_cases inside : slot < ring.layout.coarseCount
  · obtain ⟨number, above, turn, slotOf⟩ := exists_slot_eq inside
    rw [← slotOf] at member
    obtain ⟨same, occupied⟩ := sound.placed number above turn readout member
    rw [same]
    refine ⟨?_, above, occupied⟩
    rw [← slotOf, ← same]
    rfl
  · rw [sound.content_of_count_le (Nat.le_of_not_lt inside)] at member
    exact absurd member List.not_mem_nil

theorem start_le_coarseNumber_iff (time : Nat) :
    ring.start ≤ ring.layout.coarseNumber time ↔ ring.base ≤ time := by
  rw [Layout.le_coarseNumber_iff, ← sound.base]

/-- The window is all but the last of the bins of a turn. -/
theorem inWindow_iff (time : Nat) :
    inWindow ring.layout ring.base time ↔
      ring.start ≤ ring.layout.coarseNumber time ∧
        ring.layout.coarseNumber time < ring.start + (ring.layout.coarseCount - 1) := by
  have positive := sound.valid.two_le_coarseCount
  rw [inWindow, Bool.and_eq_true, decide_eq_true_iff, decide_eq_true_iff,
    sound.start_le_coarseNumber_iff]
  refine and_congr_right ?_
  intro after
  have since : (time - ring.base) / ring.layout.coarseWidth =
      ring.layout.coarseNumber time - ring.start := by
    rw [sound.base, Nat.mul_comm, Nat.sub_mul_div, Layout.coarseNumber]
  have later : ring.start ≤ ring.layout.coarseNumber time :=
    ring.layout.coarseNumber_mono after
  rw [since]
  omega

end Sound

theorem sound_empty {layout : Layout} (valid : layout.Valid) : (empty layout).Sound := by
  have start : (empty layout).start = 0 := Nat.zero_div _
  constructor
  · exact valid
  · exact Array.size_replicate
  · exact Array.size_replicate
  · rw [start, Nat.zero_mul]
    rfl
  · rw [start, Nat.zero_mod]
    rfl
  · exact layout.coarseCount_pos
  · intro number _ _ readout member
    have nothing : (empty layout).held number = [] := content_replicate _ _
    rw [nothing] at member
    exact absurd member List.not_mem_nil

theorem start_empty (layout : Layout) : (empty layout).start = 0 :=
  Nat.zero_div _

theorem occupied_empty (layout : Layout) : (empty layout).occupied = 0 := by
  simp [occupied, empty]

theorem held_empty (layout : Layout) (number : Nat) : (empty layout).held number = [] :=
  content_replicate _ _

/-- The number after those of all bins up to `finish` and of all readouts. -/
def finishAfter (layout : Layout) (finish : Nat) (readouts : List Readout) : Nat :=
  readouts.foldl (fun finish readout => max finish (readout.coarseNumber layout + 1)) finish

theorem finishAfter_append (layout : Layout) (finish : Nat) (earlier later : List Readout) :
    finishAfter layout finish (earlier ++ later) =
      finishAfter layout (finishAfter layout finish earlier) later :=
  List.foldl_append

theorem finishAfter_le_iff {layout : Layout} {finish bound : Nat} {readouts : List Readout} :
    finishAfter layout finish readouts ≤ bound ↔
      finish ≤ bound ∧ ∀ readout ∈ readouts, readout.coarseNumber layout < bound := by
  induction readouts generalizing finish with
  | nil => simp [finishAfter]
  | cons readout readouts induction =>
      have next : finishAfter layout finish (readout :: readouts) =
          finishAfter layout (max finish (readout.coarseNumber layout + 1)) readouts := rfl
      rw [next, induction, List.forall_mem_cons, Nat.max_le, and_assoc, Nat.succ_le_iff]

theorem coarseNumber_newest_lt_iff {layout : Layout} {base bound : Nat}
    {readouts : List Readout} :
    layout.coarseNumber (newest base readouts) < bound ↔
      layout.coarseNumber base < bound ∧
        ∀ readout ∈ readouts, readout.coarseNumber layout < bound := by
  induction readouts generalizing base with
  | nil => simp [newest]
  | cons readout readouts induction =>
      have next : newest base (readout :: readouts) =
          newest (max base readout.time.toNat) readouts := rfl
      rw [next, induction, List.forall_mem_cons, ← and_assoc]
      refine and_congr_left' ?_
      rw [Layout.coarseNumber_lt_iff, Layout.coarseNumber_lt_iff, Readout.coarseNumber,
        Layout.coarseNumber_lt_iff, Nat.max_lt]

theorem base_le_newest (base : Nat) (readouts : List Readout) : base ≤ newest base readouts := by
  induction readouts generalizing base with
  | nil => exact Nat.le_refl _
  | cons readout readouts induction =>
      exact Nat.le_trans (Nat.le_max_left _ _) (induction (max base readout.time.toNat))

def accepted (ring : TimeRing) (readouts : List Readout) : List Readout :=
  readouts.filter fun readout => inWindow ring.layout ring.base readout.time.toNat

section

variable (sound : ring.Sound) (readouts : List Readout)
include sound

theorem mem_accepted_iff {readout : Readout} :
    readout ∈ ring.accepted readouts ↔ readout ∈ readouts ∧
      ring.start ≤ readout.coarseNumber ring.layout ∧
        readout.coarseNumber ring.layout < ring.start + (ring.layout.coarseCount - 1) := by
  rw [accepted, List.mem_filter, sound.inWindow_iff]
  exact Iff.rfl

theorem finishAfter_accepted_lt :
    finishAfter ring.layout ring.finish (ring.accepted readouts) <
      ring.start + ring.layout.coarseCount := by
  have positive := sound.valid.two_le_coarseCount
  have finish : ring.finish < ring.start + ring.layout.coarseCount := finish_lt
  have most : finishAfter ring.layout ring.finish (ring.accepted readouts) ≤
      ring.start + (ring.layout.coarseCount - 1) := by
    refine finishAfter_le_iff.mpr ⟨by omega, ?_⟩
    intro readout member
    exact ((mem_accepted_iff sound readouts).mp member).2.2
  omega

theorem span_le_iff {time : Nat} (after : ring.base ≤ time) :
    ring.span ≤ time - ring.base ↔ ring.finish ≤ ring.layout.coarseNumber time := by
  rw [Layout.le_coarseNumber_iff, finish, Nat.add_mul, ← sound.base, span, Nat.mul_comm]
  omega

theorem finishAfter_accepted_eq :
    finishAfter ring.layout ring.finish (ring.accepted readouts) =
      if ring.accepted readouts ≠ [] ∧
          ring.span ≤ newest ring.base (ring.accepted readouts) - ring.base then
        ring.layout.coarseNumber (newest ring.base (ring.accepted readouts)) + 1
      else ring.finish := by
  have window : ∀ readout ∈ ring.accepted readouts, readout ∈ readouts ∧
      ring.start ≤ readout.coarseNumber ring.layout ∧
        readout.coarseNumber ring.layout < ring.start + (ring.layout.coarseCount - 1) :=
    fun _ => (mem_accepted_iff sound readouts).mp
  generalize ring.accepted readouts = taken at window ⊢
  have extends_iff := span_le_iff sound (base_le_newest ring.base taken)
  split
  · rename_i grows
    obtain ⟨some, spanLe⟩ := grows
    have beyond := extends_iff.mp spanLe
    obtain ⟨readout, member⟩ := List.exists_mem_of_ne_nil taken some
    have after : ring.start ≤ readout.coarseNumber ring.layout := (window readout member).2.1
    refine eq_of_forall_ge_iff ?_
    intro bound
    rw [finishAfter_le_iff, Nat.succ_le_iff, coarseNumber_newest_lt_iff]
    constructor
    · rintro ⟨_, allBelow⟩
      exact ⟨Nat.lt_of_le_of_lt after (allBelow readout member), allBelow⟩
    · intro below
      have newestBelow := coarseNumber_newest_lt_iff.mpr below
      exact ⟨by omega, below.2⟩
  · rename_i keeps
    refine Nat.le_antisymm (finishAfter_le_iff.mpr ⟨Nat.le_refl _, ?_⟩)
      (finishAfter_le_iff.mp (Nat.le_refl _)).1
    intro readout member
    have some : taken ≠ [] := List.ne_nil_of_mem member
    have within : ring.layout.coarseNumber (newest ring.base taken) < ring.finish := by
      by_contra beyond
      exact keeps ⟨some, extends_iff.mpr (Nat.le_of_not_lt beyond)⟩
    exact (coarseNumber_newest_lt_iff.mp within).2 readout member

theorem stop_insert : (ring.insert readouts).1.stop =
    finishAfter ring.layout ring.finish (ring.accepted readouts) % ring.layout.coarseCount := by
  have unfolded : (ring.insert readouts).1.stop =
      if ring.accepted readouts ≠ [] ∧
          ring.span ≤ newest ring.base (ring.accepted readouts) - ring.base then
        (ring.layout.coarseIndex (newest ring.base (ring.accepted readouts)) + 1) %
          ring.layout.coarseCount
      else ring.stop := rfl
  rw [unfolded, finishAfter_accepted_eq sound]
  split
  · rw [Layout.coarseIndex_eq, Nat.mod_add_mod]
  · exact sound.stop_eq

theorem occupied_insert : (ring.insert readouts).1.occupied =
    finishAfter ring.layout ring.finish (ring.accepted readouts) - ring.start := by
  have below := finishAfter_accepted_lt sound readouts
  have above : ring.start ≤ finishAfter ring.layout ring.finish (ring.accepted readouts) :=
    Nat.le_trans start_le_finish (finishAfter_le_iff.mp (Nat.le_refl _)).1
  refine occupied_of_slots sound.first ?_ ?_
  · rw [stop_insert sound readouts]
    have same : (ring.insert readouts).1.start = ring.start := rfl
    rw [same, Nat.add_sub_cancel' above]
    rfl
  · have same : (ring.insert readouts).1.layout = ring.layout := rfl
    rw [same]
    omega

theorem finish_insert : (ring.insert readouts).1.finish =
    finishAfter ring.layout ring.finish (ring.accepted readouts) := by
  have above : ring.start ≤ finishAfter ring.layout ring.finish (ring.accepted readouts) :=
    Nat.le_trans start_le_finish (finishAfter_le_iff.mp (Nat.le_refl _)).1
  rw [finish, occupied_insert sound]
  exact Nat.add_sub_cancel' above

theorem content_insert (slot : Nat) :
    content (ring.insert readouts).1.coarse slot = content ring.coarse slot ++
      (ring.accepted readouts).filter fun readout =>
        ring.layout.coarseIndex readout.time.toNat = slot := by
  by_cases inside : slot < ring.layout.coarseCount
  · rw [← sound.coarse] at inside
    exact content_foldl_push (fun readout => ring.layout.coarseIndex readout.time.toNat) inside
      (ring.accepted readouts)
  · have none : (ring.accepted readouts).filter (fun readout =>
        ring.layout.coarseIndex readout.time.toNat = slot) = [] := by
      refine List.filter_eq_nil_iff.mpr ?_
      intro readout _ same
      have index : ring.layout.coarseIndex readout.time.toNat < ring.layout.coarseCount :=
        Nat.mod_lt _ ring.layout.coarseCount_pos
      rw [of_decide_eq_true same] at index
      exact inside index
    have outside : ring.coarse.size ≤ slot := by
      rw [sound.coarse]
      exact Nat.le_of_not_lt inside
    rw [none, List.append_nil, content_of_size_le outside]
    refine content_of_size_le ?_
    rwa [← size_foldl_push (fun readout => ring.layout.coarseIndex readout.time.toNat) ring.coarse
      (ring.accepted readouts)] at outside

theorem held_insert {number : Nat} (above : ring.start ≤ number)
    (turn : number < ring.start + ring.layout.coarseCount) :
    (ring.insert readouts).1.held number = ring.held number ++
      (ring.accepted readouts).filter fun readout =>
        readout.coarseNumber ring.layout = number := by
  have positive := ring.layout.coarseCount_pos
  have filed : (ring.insert readouts).1.held number = ring.held number ++
      (ring.accepted readouts).filter fun readout =>
        ring.layout.coarseIndex readout.time.toNat = number % ring.layout.coarseCount :=
    content_insert sound readouts (number % ring.layout.coarseCount)
  rw [filed]
  congr 1
  refine List.filter_congr ?_
  intro readout member
  have window := ((mem_accepted_iff sound readouts).mp member).2
  refine decide_eq_decide.mpr ⟨?_, ?_⟩
  · intro slot
    exact eq_of_slot_eq window.1 (by omega) above turn slot
  · intro same
    rw [Layout.coarseIndex_eq, ← same]
    rfl

theorem sound_insert : (ring.insert readouts).1.Sound := by
  constructor
  · exact sound.valid
  · exact (size_foldl_push _ _ _).trans sound.coarse
  · exact sound.fine
  · exact sound.base
  · exact sound.first
  · rw [stop_insert sound readouts]
    exact Nat.mod_lt _ ring.layout.coarseCount_pos
  · intro number above turn readout member
    rw [held_insert sound readouts above turn] at member
    rw [finish_insert sound readouts]
    have bounds := finishAfter_le_iff.mp
      (Nat.le_refl (finishAfter ring.layout ring.finish (ring.accepted readouts)))
    rcases List.mem_append.mp member with old | new
    · have placed := sound.placed number above turn readout old
      exact ⟨placed.1, Nat.lt_of_lt_of_le placed.2 bounds.1⟩
    · have same : readout.coarseNumber ring.layout = number :=
        of_decide_eq_true (List.mem_filter.mp new).2
      refine ⟨same, ?_⟩
      rw [← same]
      exact bounds.2 readout (List.mem_of_mem_filter new)

end

end TimeRing

end EventFormation
