import EventFormation.Proofs.RingReset
import EventFormation.Proofs.SortedReadouts

/-!
# The order of insertion

The slots of a ring share one history: all that is stored stands in the order in
which it was inserted, and every slot holds its own part of it in that order.
Filing adds to the end of the history, and everything else that is done to the bins
only leaves readouts out of it.
-/

namespace EventFormation

namespace TimeRing

variable {ring later : TimeRing} {readouts : List Readout}

/-- Every slot holds the readouts of its index, in order. -/
def InOrder (ring : TimeRing) (readouts : List Readout) : Prop :=
  ∀ slot, content ring.coarse slot =
    readouts.filter fun readout => ring.layout.coarseIndex readout.time.toNat = slot

namespace InOrder

theorem empty (layout : Layout) : (TimeRing.empty layout).InOrder [] :=
  content_replicate layout.coarseCount

theorem filter (inOrder : ring.InOrder readouts) (layout : later.layout = ring.layout)
    {keep : Readout → Bool}
    (kept : ∀ slot, content later.coarse slot = (content ring.coarse slot).filter keep) :
    later.InOrder (readouts.filter keep) := by
  intro slot
  rw [kept, inOrder slot, layout, List.filter_filter, List.filter_filter]
  simp only [Bool.and_comm]

section

variable (sound : ring.Sound) (inOrder : ring.InOrder readouts)
include sound inOrder

theorem insert (more : List Readout) :
    (ring.insert more).1.InOrder (readouts ++ ring.accepted more) := by
  intro slot
  rw [content_insert sound, inOrder slot, List.filter_append]
  rfl

theorem moved {bins : Nat} (moved : Moved ring later bins) :
    later.InOrder (readouts.filter fun readout => later.base ≤ readout.time.toNat) :=
  inOrder.filter moved.layout (moved.content_eq sound)

theorem perm : ring.stored.Perm readouts := by
  have slots : content ring.coarse = fun slot =>
      readouts.filter fun readout => ring.layout.coarseIndex readout.time.toNat = slot :=
    funext inOrder
  rw [stored_eq_flatMap, sound.coarse, slots, List.range_eq_range']
  refine flatMap_filter_perm (fun readout : Readout =>
    ring.layout.coarseIndex readout.time.toNat) 0 ring.layout.coarseCount ?_
  intro readout _
  have index : ring.layout.coarseIndex readout.time.toNat < ring.layout.coarseCount :=
    Nat.mod_lt _ ring.layout.coarseCount_pos
  exact ⟨Nat.zero_le _, by omega⟩

theorem bounds {readout : Readout} (member : readout ∈ readouts) :
    ring.start ≤ readout.coarseNumber ring.layout ∧
      readout.coarseNumber ring.layout < ring.finish :=
  mem_stored sound ((inOrder.perm sound).mem_iff.mpr member)

theorem held {number : Nat} (above : ring.start ≤ number)
    (turn : number < ring.start + ring.layout.coarseCount) :
    ring.held number =
      readouts.filter fun readout => readout.coarseNumber ring.layout = number := by
  rw [TimeRing.held, inOrder]
  refine List.filter_congr ?_
  intro readout member
  have bounds := inOrder.bounds sound member
  have below : ring.finish < ring.start + ring.layout.coarseCount := finish_lt
  refine decide_eq_decide.mpr ⟨?_, ?_⟩
  · intro slot
    exact eq_of_slot_eq bounds.1 (Nat.lt_trans bounds.2 below) above turn slot
  · rintro rfl
    rfl

end

end InOrder

def filed (ring : TimeRing) : RingStep → List Readout
  | .insert readouts => ring.accepted readouts
  | _ => []

def inserted (ring : TimeRing) : List RingStep → List Readout
  | [] => []
  | step :: rest => ring.filed step ++ (ring.perform step).inserted rest

theorem inserted_concat (ring : TimeRing) (steps : List RingStep) (step : RingStep) :
    ring.inserted (steps ++ [step]) = ring.inserted steps ++ (ring.run steps).filed step := by
  induction steps generalizing ring with
  | nil => exact List.append_nil _
  | cons first rest induction =>
      rw [List.cons_append, inserted, inserted, List.append_assoc, induction]
      rfl

/-- A step leaves some of the history and adds to its end what it files. -/
theorem exists_inOrder_perform (sound : ring.Sound) (inOrder : ring.InOrder readouts)
    (step : RingStep) : ∃ kept, kept.Sublist readouts ∧
      (ring.perform step).InOrder (kept ++ ring.filed step) := by
  have leaving : ∀ {later : TimeRing} {kept : List Readout}, kept.Sublist readouts →
      later.InOrder kept → ∃ kept, kept.Sublist readouts ∧ later.InOrder (kept ++ []) := by
    intro later kept part after
    exact ⟨kept, part, (List.append_nil kept).symm ▸ after⟩
  cases step with
  | insert more => exact ⟨readouts, List.Sublist.refl _, inOrder.insert sound more⟩
  | reset time =>
      have reset := resetTo_reset sound time
      by_cases since : ring.base ≤ time
      · exact leaving List.filter_sublist (inOrder.filter reset.layout (reset.kept since))
      · exact leaving (List.nil_sublist _) (reset.emptied (Nat.lt_of_not_le since))
  | spread =>
      refine leaving (List.Sublist.refl _) ?_
      rw [perform, rest_spread]
      exact inOrder
  | clearFine => exact leaving (List.Sublist.refl _) inOrder
  | clearCoarse => exact leaving (List.nil_sublist _) (content_replicate _)
  | advance =>
      obtain ⟨bins, moved⟩ := exists_moved_advance sound
      exact leaving List.filter_sublist (inOrder.moved sound moved)
  | takeWindow window =>
      obtain ⟨bins, moved, -⟩ := moved_takeWindow sound window
      exact leaving List.filter_sublist (inOrder.moved sound moved)

/-- The readouts are those that are stored after steps, in the order of insertion. -/
structure History (fresh : TimeRing) (steps : List RingStep) (readouts : List Readout) :
    Prop where
  inserted : readouts.Sublist (fresh.inserted steps)
  stored : (fresh.run steps).stored.Perm readouts
  inOrder : (fresh.run steps).InOrder readouts

/-- There is a history whatever is asked of bins. -/
theorem exists_history {layout : Layout} {fresh : TimeRing}
    (created : create layout = .ok fresh) (steps : List RingStep) :
    ∃ readouts, History fresh steps readouts := by
  obtain ⟨valid, rfl⟩ := create_eq_ok_iff.mp created
  have ordered : ∃ readouts, readouts.Sublist ((TimeRing.empty layout).inserted steps) ∧
      ((TimeRing.empty layout).run steps).InOrder readouts := by
    induction steps using List.reverseRecOn with
    | nil => exact ⟨[], List.Sublist.refl _, InOrder.empty layout⟩
    | append_singleton steps step induction =>
        obtain ⟨readouts, inserted, inOrder⟩ := induction
        obtain ⟨sound, -⟩ := sound_run (sound_empty valid) steps
        obtain ⟨kept, part, after⟩ := exists_inOrder_perform sound inOrder step
        rw [inserted_concat, run_concat]
        exact ⟨_, (part.trans inserted).append (List.Sublist.refl _), after⟩
  obtain ⟨readouts, inserted, inOrder⟩ := ordered
  obtain ⟨sound, -⟩ := sound_run (sound_empty valid) steps
  exact ⟨readouts, inserted, inOrder.perm sound, inOrder⟩

end TimeRing

end EventFormation
