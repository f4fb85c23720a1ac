import EventFormation.Proofs.RingRuns

/-!
# What the time bins store and lose

All readouts of the coarse bins, in whichever slots they are, are what a ring
stores.  Readouts come to be stored when they are filed.  They leave when bins
are let go, and what is let go unread is counted.
-/

namespace EventFormation

namespace TimeRing

def pooled (bins : Array (Array Readout)) : List Readout :=
  (bins.toList.map Array.toList).flatten

def stored (ring : TimeRing) : List Readout :=
  pooled ring.coarse

theorem stored_eq_flatMap (ring : TimeRing) :
    ring.stored = (List.range ring.coarse.size).flatMap (content ring.coarse) := by
  rw [stored, pooled, map_toList_eq, List.flatMap_def]

theorem count_eq_length (bins : Array (Array Readout)) : count bins = (pooled bins).length := by
  rw [count, ← Array.foldl_toList, pooled, List.length_flatten, List.map_map]
  have sizes : List.length ∘ Array.toList = (Array.size : Array Readout → Nat) := by
    funext bin
    exact Array.length_toList
  rw [sizes, List.sum_eq_foldl, List.foldl_map]

theorem pooled_replicate (size : Nat) : pooled (Array.replicate size #[]) = [] := by
  simp [pooled]

theorem flatten_around_perm (before : List (Array Readout)) (bin : Array Readout)
    (behind : List (Array Readout)) :
    ((before ++ bin :: behind).map Array.toList).flatten.Perm
      (bin.toList ++ ((before ++ behind).map Array.toList).flatten) := by
  simp only [List.map_append, List.map_cons, List.flatten_append, List.flatten_cons]
  exact List.perm_append_comm_assoc _ _ _

theorem pooled_modify {bins : Array (Array Readout)} {slot : Nat} (inside : slot < bins.size)
    (change : Array Readout → Array Readout) :
    (content bins slot ++ pooled (bins.modify slot change)).Perm
      ((change (bins[slot]?.getD #[])).toList ++ pooled bins) := by
  have within : slot < bins.toList.length := by rwa [Array.length_toList]
  have bin : bins[slot]?.getD #[] = bins.toList[slot] := by
    rw [Array.getElem?_eq_getElem inside, Option.getD_some, Array.getElem_toList]
  have around : bins.toList =
      bins.toList.take slot ++ bins.toList[slot] :: bins.toList.drop (slot + 1) := by
    rw [List.getElem_cons_drop, List.take_append_drop]
  have changed : (bins.modify slot change).toList =
      bins.toList.take slot ++ change bins.toList[slot] :: bins.toList.drop (slot + 1) := by
    rw [Array.toList_modify, List.modify_eq_take_cons_drop within]
  rw [content, bin, pooled, pooled, changed]
  generalize bins.toList[slot] = here at around ⊢
  generalize bins.toList.take slot = before at around ⊢
  generalize bins.toList.drop (slot + 1) = behind at around ⊢
  rw [around]
  have given := flatten_around_perm before (change here) behind
  have was := flatten_around_perm before here behind
  have swapped := List.perm_append_comm_assoc here.toList (change here).toList
    ((before ++ behind).map Array.toList).flatten
  exact (given.append_left _).trans (swapped.trans (was.symm.append_left _))

theorem pooled_file {layout : Layout} {bins : Array (Array Readout)}
    (size : bins.size = layout.coarseCount) (readout : Readout) :
    (pooled (file layout bins readout)).Perm (readout :: pooled bins) := by
  have inside : layout.coarseIndex readout.time.toNat < bins.size := by
    rw [size]
    exact Nat.mod_lt _ layout.coarseCount_pos
  have filed := pooled_modify inside (·.push readout)
  rw [Array.toList_push, List.append_assoc] at filed
  exact (List.perm_append_left_iff _).mp filed

theorem pooled_foldl_file {layout : Layout} {bins : Array (Array Readout)}
    (size : bins.size = layout.coarseCount) (readouts : List Readout) :
    (pooled (readouts.foldl (file layout) bins)).Perm (readouts ++ pooled bins) := by
  induction readouts generalizing bins with
  | nil => exact List.Perm.refl _
  | cons readout readouts induction =>
      have filed : (file layout bins readout).size = layout.coarseCount :=
        Array.size_modify.trans size
      have first := (pooled_file size readout).append_left readouts
      exact (induction filed).trans (first.trans List.perm_middle)

variable {ring : TimeRing}

theorem stored_anchor (ring : TimeRing) (time : Nat) : (ring.anchor time).1.stored = [] :=
  pooled_replicate _

theorem dropped_anchor (ring : TimeRing) (time : Nat) :
    (ring.anchor time).2 = ring.stored.length :=
  count_eq_length ring.coarse

section

variable (sound : ring.Sound)
include sound

theorem stored_insert (readouts : List Readout) :
    (ring.insert readouts).1.stored.Perm (ring.accepted readouts ++ ring.stored) :=
  pooled_foldl_file sound.coarse (ring.accepted readouts)

theorem stored_advance (occupied : 0 < ring.occupied) :
    ring.stored.Perm (ring.baseBin.toList ++ ring.advance.1.stored) := by
  have inside : ring.first < ring.coarse.size := by
    rw [sound.first, sound.coarse]
    exact Nat.mod_lt _ ring.layout.coarseCount_pos
  have cleared : ring.advance.1.coarse = ring.coarse.modify ring.first fun _ => #[] := by
    rw [advance_eq sound occupied]
  have given := pooled_modify inside fun _ => #[]
  rw [List.nil_append] at given
  rw [stored, stored, cleared]
  exact given.symm

theorem mem_stored {readout : Readout} (member : readout ∈ ring.stored) :
    ring.start ≤ readout.coarseNumber ring.layout ∧
      readout.coarseNumber ring.layout < ring.finish := by
  rw [stored_eq_flatMap] at member
  obtain ⟨slot, -, inSlot⟩ := List.mem_flatMap.mp member
  exact (sound.of_mem_content inSlot).2

theorem exists_lost_advanceTo (target steps : Nat) : ∃ lost : List Readout,
    ring.stored.Perm (lost ++ (ring.advanceTo target steps).1.stored) ∧
      lost.length = (ring.advanceTo target steps).2 := by
  induction steps generalizing ring with
  | zero => exact ⟨[], List.Perm.refl _, rfl⟩
  | succ steps induction =>
      by_cases stays : ring.isEmpty || ring.first == target
      · rw [advanceTo, if_pos stays]
        exact ⟨[], List.Perm.refl _, rfl⟩
      · have occupied := sound.occupied_pos_of_goes_on stays
        obtain ⟨lost, rest, count⟩ := induction (moved_advance sound occupied).sound
        have dropped : ring.advance.2 = ring.baseBin.toList.length := by
          rw [advance_eq sound occupied, Array.length_toList]
        rw [advanceTo, if_neg stays]
        refine ⟨ring.baseBin.toList ++ lost, ?_, ?_⟩
        · rw [List.append_assoc]
          exact (stored_advance sound occupied).trans (rest.append_left _)
        · rw [List.length_append, count, ← dropped]

theorem exists_lost_reset (time : Nat) : ∃ lost : List Readout,
    ring.stored.Perm (lost ++ (ring.reset time).1.stored) ∧
      lost.length = (ring.reset time).2 := by
  rcases reset_cases sound time with ⟨-, -, -, -, -, walk⟩ |
    ⟨-, -, steps, walked, dropped, walk, anchored⟩
  · have readied : (ring.readied time).stored = ring.stored := by
      rcases readied_cases time with same | same
      · rw [same]
      · rw [same]
        rfl
    obtain ⟨lost, kept, count⟩ := exists_lost_advanceTo (readied_spec sound time).1
      (ring.layout.coarseIndex time) ring.occupied
    rw [readied] at kept
    rw [walk]
    exact ⟨lost, kept, count⟩
  · obtain ⟨lost, kept, count⟩ := exists_lost_advanceTo (sound_clearFine sound)
      (ring.layout.coarseIndex time) steps
    rw [walk] at kept count
    rw [anchored]
    refine ⟨lost ++ walked.stored, ?_, ?_⟩
    · rw [stored_anchor, List.append_nil]
      exact kept
    · rw [List.length_append, count, dropped_anchor]

end

end TimeRing

end EventFormation
