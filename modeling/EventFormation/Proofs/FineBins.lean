import EventFormation.Proofs.LaneStream
import EventFormation.Proofs.RingRelease
import EventFormation.Proofs.SortedReadouts

/-!
# Coarse bins, seen through the fine ones

Readouts that are spread over bins are the same readouts in another order.
Coarse bins that hold the readouts of their time stay in place when they are
spread over fine bins, and lie there one behind the other.
-/

namespace EventFormation

/-- Sorting readouts by number does not disturb those of one number. -/
theorem filter_flatMap_filter {index : Readout → Nat} {keep : Readout → Bool} {slot : Nat}
    {readouts : List Readout}
    (only : ∀ readout ∈ readouts, keep readout = true → index readout = slot)
    {numbers : List Nat} (distinct : numbers.Nodup) (inside : slot ∈ numbers) :
    (numbers.flatMap fun number =>
        readouts.filter fun readout => index readout = number).filter keep =
      readouts.filter keep := by
  have none : ∀ others : List Nat, slot ∉ others → (others.flatMap fun number =>
      (readouts.filter fun readout => index readout = number).filter keep) = [] := by
    intro others outside
    refine List.flatMap_eq_nil_iff.mpr ?_
    intro number member
    refine List.filter_eq_nil_iff.mpr ?_
    intro readout found kept
    obtain ⟨old, here⟩ := List.mem_filter.mp found
    rw [of_decide_eq_true here |>.symm.trans (only readout old kept)] at member
    exact outside member
  have own : (readouts.filter fun readout => index readout = slot).filter keep =
      readouts.filter keep := by
    rw [List.filter_filter]
    refine List.filter_congr ?_
    intro readout member
    cases kept : keep readout with
    | false => rfl
    | true => simp [only readout member kept]
  obtain ⟨before, after, rfl⟩ := List.append_of_mem inside
  obtain ⟨-, distinctAfter, apart⟩ := List.nodup_append.mp distinct
  have outsideBefore : slot ∉ before := fun member =>
    apart slot member slot List.mem_cons_self rfl
  rw [List.filter_flatMap, List.flatMap_append, List.flatMap_cons, none before outsideBefore,
    none after (List.nodup_cons.mp distinctAfter).1, own, List.nil_append, List.append_nil]

/-- Every readout lies in its bin, where the fine bins of all times are numbered
and the first of these has the given number. -/
def Dated (width first : Nat) (bins : List (List Readout)) : Prop :=
  ∀ index bin, bins[index]? = some bin → ∀ readout ∈ bin,
    readout.time.toNat / width = first + index

section

variable {width first : Nat}

theorem Dated.append {earlier later : List (List Readout)} (dated : Dated width first earlier)
    (datedLater : Dated width (first + earlier.length) later) :
    Dated width first (earlier ++ later) := by
  intro index bin found readout member
  by_cases early : index < earlier.length
  · rw [List.getElem?_append_left early] at found
    exact dated index bin found readout member
  · have after : earlier.length ≤ index := Nat.le_of_not_lt early
    rw [List.getElem?_append_right after] at found
    have number := datedLater (index - earlier.length) bin found readout member
    omega

theorem Dated.bounds {bins : List (List Readout)} (dated : Dated width first bins)
    (wide : 0 < width) {index : Nat} {bin : List Readout} (found : bins[index]? = some bin)
    {readout : Readout} (member : readout ∈ bin) :
    first * width + index * width ≤ readout.time.toNat ∧
      readout.time.toNat < first * width + (index + 1) * width := by
  have number := dated index bin found readout member
  have start : first * width + index * width = (first + index) * width :=
    (Nat.add_mul _ _ _).symm
  have stop : first * width + (index + 1) * width = (first + index + 1) * width :=
    (Nat.add_mul _ _ _).symm
  rw [start, stop, ← Nat.le_div_iff_mul_le wide, ← Nat.div_lt_iff_lt_mul wide, number]
  exact ⟨Nat.le_refl _, Nat.lt_succ_self _⟩

theorem Dated.placed {bins : List (List Readout)} (dated : Dated width first bins)
    (wide : 0 < width) : Placed width (first * width) bins :=
  fun _ _ found _ member _ => dated.bounds wide found member

end

namespace Layout

variable {layout : Layout}

theorem flatten_fineBlock_perm (layout : Layout) (bin : List Readout) :
    (layout.fineBlock bin).flatten.Perm bin := by
  have inside : ∀ readout ∈ bin, 0 ≤ layout.fineIndex readout.time.toNat ∧
      layout.fineIndex readout.time.toNat < 0 + layout.fineCount := by
    intro readout _
    rw [Nat.zero_add]
    exact ⟨Nat.zero_le _, Nat.mod_lt _ layout.fineCount_pos⟩
  rw [fineBlock, List.range_eq_range', ← List.flatMap_def]
  exact flatMap_filter_perm (fun readout : Readout => layout.fineIndex readout.time.toNat) 0
    layout.fineCount inside

theorem filter_fineBlock {bin : List Readout} {keep : Readout → Bool} {number : Nat}
    (only : ∀ readout ∈ bin, keep readout = true →
      readout.time.toNat / layout.fineWidth = number) :
    (layout.fineBlock bin).flatten.filter keep = bin.filter keep := by
  have slot : ∀ readout ∈ bin, keep readout = true →
      layout.fineIndex readout.time.toNat = number % layout.fineCount := by
    intro readout member kept
    rw [← only readout member kept]
    rfl
  rw [fineBlock, ← List.flatMap_def]
  exact filter_flatMap_filter slot List.nodup_range
    (List.mem_range.mpr (Nat.mod_lt _ layout.fineCount_pos))

/-- A fine bin, counted through, is of one coarse bin and has one place in it. -/
theorem fineNumber_eq_iff {number index time : Nat} (inside : index < layout.fineCount) :
    time / layout.fineWidth = number * layout.fineCount + index ↔
      layout.coarseNumber time = number ∧ layout.fineIndex time = index := by
  have coarse : layout.coarseNumber time = time / layout.fineWidth / layout.fineCount := by
    rw [coarseNumber, coarseWidth_eq, Nat.mul_comm, ← Nat.div_div_eq_div_mul]
  rw [coarse, fineIndex]
  generalize time / layout.fineWidth = fine
  constructor
  · rintro rfl
    rw [Nat.add_comm, Nat.add_mul_div_right _ _ layout.fineCount_pos, Nat.add_mul_mod_self_right,
      Nat.div_eq_of_lt inside, Nat.mod_eq_of_lt inside, Nat.zero_add]
    exact ⟨rfl, rfl⟩
  · rintro ⟨rfl, rfl⟩
    exact (Nat.div_add_mod' _ _).symm

theorem dated_fineBlock {number : Nat} {bin : List Readout}
    (inBin : ∀ readout ∈ bin, readout.coarseNumber layout = number) :
    Dated layout.fineWidth (number * layout.fineCount) (layout.fineBlock bin) := by
  intro index fine found readout member
  rw [fineBlock, List.getElem?_map] at found
  obtain ⟨slot, stored, rfl⟩ := Option.map_eq_some_iff.mp found
  have inside : slot < layout.fineCount := List.mem_range.mp (List.mem_of_getElem? stored)
  obtain rfl : slot = index := by
    obtain ⟨_, same⟩ := List.getElem?_eq_some_iff.mp stored
    rw [← same, List.getElem_range]
  obtain ⟨old, here⟩ := List.mem_filter.mp member
  exact (fineNumber_eq_iff inside).mpr ⟨inBin readout old, of_decide_eq_true here⟩

theorem flatten_fineBlocks_perm (layout : Layout) (bins : List (List Readout)) :
    (bins.map layout.fineBlock).flatten.flatten.Perm bins.flatten := by
  induction bins with
  | nil => exact List.Perm.refl _
  | cons bin rest induction =>
      rw [List.map_cons, List.flatten_cons, List.flatten_append, List.flatten_cons]
      exact (layout.flatten_fineBlock_perm bin).append induction

/-- Every bin holds readouts of its own time only, where the bins are numbered
from `first` on. -/
def Numbered (layout : Layout) (first : Nat) (bins : List (List Readout)) : Prop :=
  ∀ index bin, bins[index]? = some bin →
    ∀ readout ∈ bin, readout.coarseNumber layout = first + index

theorem numbered_quiet (layout : Layout) (first : Nat) : layout.Numbered first [[]] := by
  intro index bin found readout member
  have none : bin = [] := List.mem_singleton.mp (List.mem_of_getElem? found)
  rw [none] at member
  contradiction

theorem Numbered.dated {first : Nat} {bins : List (List Readout)}
    (numbered : layout.Numbered first bins) :
    Dated layout.fineWidth (first * layout.fineCount) (bins.map layout.fineBlock).flatten := by
  induction bins generalizing first with
  | nil =>
      intro index bin found
      contradiction
  | cons bin rest induction =>
      have here : layout.Numbered (first + 1) rest := by
        intro index later found readout member
        have number := numbered (index + 1) later found readout member
        omega
      have datedRest := induction here
      rw [List.map_cons, List.flatten_cons]
      apply (dated_fineBlock (numbered 0 bin rfl)).append
      rwa [layout.length_fineBlock, Nat.add_zero, ← Nat.succ_mul]

theorem Numbered.placed {first : Nat} {bins : List (List Readout)}
    (numbered : layout.Numbered first bins) :
    Placed layout.fineWidth (first * layout.coarseWidth) (bins.map layout.fineBlock).flatten := by
  rw [layout.coarseWidth_eq, ← Nat.mul_assoc]
  exact numbered.dated.placed layout.fineWidth_pos

end Layout

theorem TimeRing.Sound.numbered {ring : TimeRing} (sound : ring.Sound) {bins : Nat}
    (within : bins ≤ ring.occupied) : ring.layout.Numbered ring.start (ring.block bins) := by
  have turn : ring.occupied < ring.layout.coarseCount := TimeRing.occupied_lt
  intro index bin found readout member
  rw [TimeRing.block, List.getElem?_map] at found
  obtain ⟨number, stored, rfl⟩ := Option.map_eq_some_iff.mp found
  obtain ⟨inside, same⟩ := List.getElem?_eq_some_iff.mp stored
  rw [List.length_range'] at inside
  obtain rfl : ring.start + index = number := by
    rw [← same, List.getElem_range', Nat.one_mul]
  exact (sound.placed _ (Nat.le_add_right _ _) (by omega) readout member).1

end EventFormation
