import EventFormation.Proofs.EngineRuns
import EventFormation.Proofs.LaneLedger
import EventFormation.Proofs.ScheduleOutcome

/-!
# What an engine takes in and puts out

An engine on one lane whose bins are not re-anchored after the first batch is
in step with the readouts that its bins have taken in, even if they have
dropped others.  When it is drained, and its pool has never run out of slots,
these readouts have all been reported: the neutrons as hits of clusters, the
others as they came.
-/

namespace EventFormation

namespace Layout

variable {layout : Layout} {first : Nat}

theorem numbered_sorted (readouts : List Readout) (bins : Nat) :
    layout.Numbered first (layout.sorted readouts first bins) := by
  intro index bin found readout member
  rw [sorted, List.getElem?_map] at found
  obtain ⟨number, stored, rfl⟩ := Option.map_eq_some_iff.mp found
  obtain ⟨_, same⟩ := List.getElem?_eq_some_iff.mp stored
  rw [List.getElem_range', Nat.one_mul] at same
  rw [same]
  exact of_decide_eq_true (List.mem_filter.mp member).2

theorem Numbered.append {earlier later : List (List Readout)}
    (numbered : layout.Numbered first earlier)
    (numberedLater : layout.Numbered (first + earlier.length) later) :
    layout.Numbered first (earlier ++ later) := by
  intro index bin found readout member
  by_cases early : index < earlier.length
  · rw [List.getElem?_append_left early] at found
    exact numbered index bin found readout member
  · rw [List.getElem?_append_right (Nat.le_of_not_lt early)] at found
    have number := numberedLater _ bin found readout member
    omega

theorem flatten_sorted_perm {readouts : List Readout} {bins : Nat}
    (inside : ∀ readout ∈ readouts, first ≤ readout.coarseNumber layout ∧
      readout.coarseNumber layout < first + bins) :
    (layout.sorted readouts first bins).flatten.Perm readouts := by
  rw [sorted, ← List.flatMap_def]
  exact flatMap_filter_perm (Readout.coarseNumber layout) first bins inside

end Layout

theorem Lanes.tally_clear (lanes : Lanes) : lanes.clear.tally = lanes.tally := by
  rw [tally, tally, clear, List.map_map]
  rfl

namespace TimeRing

theorem accepted_accepted (ring : TimeRing) (readouts : List Readout) :
    ring.accepted (ring.accepted readouts) = ring.accepted readouts := by
  rw [accepted, accepted, List.filter_filter]
  simp only [Bool.and_self]

theorem insert_accepted (ring : TimeRing) (readouts : List Readout) :
    (ring.insert (ring.accepted readouts)).1 = (ring.insert readouts).1 := by
  have same := ring.accepted_accepted readouts
  unfold accepted at same
  simp only [insert, accepted, same]

end TimeRing

namespace Along

variable {settings : Settings} {anchor : Nat} {readouts : List Readout} {progress : Progress}

theorem file_accepted (along : Along settings anchor readouts progress) (more : List Readout) :
    Along settings anchor (readouts ++ progress.engine.ring.accepted more)
      { progress with engine := progress.engine.fileReadouts more } := by
  have filed := along.file (progress.engine.ring.accepted_accepted more)
  exact filed.congr (progress.engine.ring.insert_accepted more).symm rfl rfl

theorem exists_awaited (along : Along settings anchor readouts progress) {earliest : Nat}
    (first : progress.engine.jumps earliest → readouts = []) :
    ∃ awaitedAt, (readouts ≠ [] → awaitedAt = anchor) ∧
      Along settings awaitedAt readouts
        { progress with engine := progress.engine.awaited earliest } := by
  have awake : Along settings anchor readouts { progress with
      engine := { progress.engine with countdown := progress.engine.idleTicks } } :=
    along.congr rfl rfl rfl
  by_cases jumps : progress.engine.jumps earliest
  · obtain rfl := first jumps
    rw [Engine.awaited_of_jumps _ jumps]
    exact ⟨_, fun some => absurd rfl some, awake.jump earliest⟩
  · rw [Engine.awaited_of_not_jumps _ jumps]
    exact ⟨anchor, fun _ => rfl, awake⟩

theorem exists_ingest (along : Along settings anchor readouts progress)
    (since : ∀ readout ∈ readouts, anchor ≤ readout.coarseNumber settings.layout)
    {more : List Readout} {earliest : Nat} (some : more ≠ [])
    (first : progress.engine.jumps earliest → readouts = []) :
    ∃ filedAt, Along settings filedAt (readouts ++ progress.engine.taken (.ingest more earliest))
        (progress.perform (.ingest more earliest)) ∧
      ∀ readout ∈ readouts ++ progress.engine.taken (.ingest more earliest),
        filedAt ≤ readout.coarseNumber settings.layout := by
  obtain ⟨awaitedAt, same, awaited⟩ := along.exists_awaited first
  rw [progress.perform_ingest some]
  refine ⟨awaitedAt, awaited.file_accepted more, ?_⟩
  intro readout member
  rcases List.mem_append.mp member with old | new
  · rw [same (List.ne_nil_of_mem old)]
    exact since readout old
  · have window := ((TimeRing.mem_accepted_iff awaited.filed.sound more).mp new).2.1
    rw [awaited.filed.laidOut] at window
    exact Nat.le_trans awaited.filed.anchor_le window

/-- Every step but a drain keeps an engine in step with what its bins take in, if
it does not re-anchor bins that have taken something in. -/
theorem exists_perform (along : Along settings anchor readouts progress)
    (since : ∀ readout ∈ readouts, anchor ≤ readout.coarseNumber settings.layout)
    {step : Step} (undrained : step ≠ .drain)
    (first : ∀ more earliest, step = .ingest more earliest → more ≠ [] →
      progress.engine.jumps earliest → readouts = []) :
    ∃ filedAt, Along settings filedAt (readouts ++ progress.engine.taken step)
        (progress.perform step) ∧
      ∀ readout ∈ readouts ++ progress.engine.taken step,
        filedAt ≤ readout.coarseNumber settings.layout := by
  have nothing : progress.engine.taken step = [] →
      readouts ++ progress.engine.taken step = readouts := by
    intro none
    rw [none, List.append_nil]
  cases step with
  | ingest more earliest =>
      by_cases some : more = []
      · subst some
        rw [nothing rfl]
        exact ⟨anchor, along, since⟩
      · exact along.exists_ingest since some (first more earliest rfl some)
  | idle =>
      rw [nothing rfl]
      exact ⟨anchor, along.congr rfl rfl rfl, since⟩
  | process =>
      rw [nothing rfl]
      exact ⟨anchor, along.process, since⟩
  | flush =>
      rw [nothing rfl]
      exact ⟨anchor, along.flush, since⟩
  | drain => contradiction

theorem drained_of_some (along : Along settings anchor readouts progress) {lanes : Lanes}
    (clustered : progress.engine.lanes = some lanes) :
    (progress.perform .drain).engine.lanes =
        (settings.formed anchor readouts).1.map Lanes.clear ∧
      (progress.perform .drain).products = (settings.formed anchor readouts).2 := by
  have released := Engine.released_all_of_some along.filed.sound along.filed.cleared clustered
    progress.engine.ring.layout.window
  generalize release : progress.engine.release progress.engine.ring.layout.coarseCount
    progress.engine.ring.layout.window = result at released
  obtain ⟨later, products⟩ := result
  rw [progress.perform_drain release]
  exact along.formed_drained released

end Along

namespace Engine

section

variable {settings : Settings} (valid : settings.Valid) {steps : List Step}
include valid

/-- An engine whose bins are not re-anchored is in step with the readouts that
they take in, all of which are from the anchor on. -/
theorem exists_along (undisturbed : (ofSettings settings).Undisturbed steps) :
    ∃ anchor, Along settings anchor ((ofSettings settings).accepted steps)
        ((ofSettings settings).follow steps) ∧
      ∀ readout ∈ (ofSettings settings).accepted steps,
        anchor ≤ readout.coarseNumber settings.layout := by
  induction steps using List.reverseRecOn with
  | nil =>
      refine ⟨0, Along.start valid, ?_⟩
      intro readout _
      exact Nat.zero_le _
  | append_singleton steps step induction =>
      obtain ⟨anchor, along, since⟩ := induction undisturbed.of_concat
      rw [follow_concat, accepted_concat]
      apply along.exists_perform since
      · rintro rfl
        exact undisturbed.undrained (List.mem_append_right _ (List.mem_singleton_self _))
      · rintro more earliest rfl some jumps
        -- Bins that have taken something in have been offered a batch before.
        by_contra before
        have ingestedBefore : ingested steps ≠ [] := by
          intro none
          have taken := Progress.accepted_sublist { engine := ofSettings settings } steps
          rw [none] at taken
          exact before (List.sublist_nil.mp taken)
        exact undisturbed.not_jumps some ingestedBefore jumps

end

section

variable {settings : Settings} (valid : settings.Valid)
  (enabled : settings.clustering.enabled = true) (single : settings.clustering.lanes = 1)
include enabled single

theorem formed_single (anchor : Nat) (readouts : List Readout) :
    let layout := settings.layout
    let clustering := settings.clustering
    let finish := TimeRing.finishAfter layout anchor readouts
    let blocks := (layout.sorted readouts anchor (finish - anchor)).map layout.fineBlock
    let after := Lanes.stream layout.fineWidth (anchor * layout.coarseWidth)
      (blocks ++ [layout.fineBlock []]) (.ofCount 1 clustering.limits clustering.slots) []
    settings.formed anchor readouts = (some after.1, after.2) := by
  have fresh : (ofSettings settings).lanes =
      some (.ofCount 1 settings.clustering.limits settings.clustering.slots) := by
    simp only [ofSettings, enabled, if_true, single]
  rw [Settings.formed, fresh, form, List.map_append]
  rfl

include valid

theorem conserved_formed {anchor : Nat} {readouts : List Readout}
    (since : ∀ readout ∈ readouts, anchor ≤ readout.coarseNumber settings.layout)
    {lanes : Lanes} (left : (settings.formed anchor readouts).1 = some lanes)
    (kept : lanes.tally.dropped = 0) :
    Conserved readouts lanes.tally (settings.formed anchor readouts).2 := by
  let layout := settings.layout
  let finish := TimeRing.finishAfter layout anchor readouts
  let bins := layout.sorted readouts anchor (finish - anchor)
  -- The open clusters are closed against one more bin, which has no readouts.
  have numbered : layout.Numbered anchor (bins ++ [[]]) :=
    (layout.numbered_sorted readouts (finish - anchor)).append (layout.numbered_quiet _)
  obtain ⟨enough, spanLe, placed⟩ := valid.ready enabled numbered
  rw [single] at enough
  rw [List.map_append] at enough placed
  have quiet := layout.fineBlock_nil
  rw [formed_single enabled single] at left ⊢
  obtain rfl := Option.some.inj left
  have inside : ∀ readout ∈ readouts, anchor ≤ readout.coarseNumber layout ∧
      readout.coarseNumber layout < anchor + (finish - anchor) := by
    intro readout member
    have bounds := TimeRing.finishAfter_le_iff.mp (Nat.le_refl finish)
    have before := bounds.2 readout member
    have after := since readout member
    exact ⟨after, by omega⟩
  have whole : (bins ++ [[]]).flatten = bins.flatten := by
    rw [List.flatten_concat, List.append_nil]
  have spread := layout.flatten_fineBlocks_perm (bins ++ [[]])
  rw [whole, List.map_append] at spread
  exact (Lanes.conserved_stream spanLe enough quiet placed kept).perm
    (spread.trans (Layout.flatten_sorted_perm inside))

/-- An engine on one lane whose bins are not re-anchored, and whose pool has never
run out of slots, has put out what its bins have taken in when it is drained. -/
theorem undisturbed_conserves {steps : List Step}
    (undisturbed : (ofSettings settings).Undisturbed steps)
    (kept : ((ofSettings settings).follow
      (steps ++ [.drain])).engine.counters.clustering.dropped = 0) :
    let final := (ofSettings settings).follow (steps ++ [.drain])
    Conserved ((ofSettings settings).accepted steps) final.engine.counters.clustering
      final.products := by
  intro final
  obtain ⟨anchor, along, since⟩ := exists_along valid undisturbed
  have some : ((ofSettings settings).follow steps).engine.lanes.isSome = true :=
    (standing_follow valid steps).clustered.trans enabled
  obtain ⟨lanes, clustered⟩ := Option.isSome_iff_exists.mp some
  obtain ⟨lanesAfter, products⟩ := along.drained_of_some clustered
  rw [← follow_concat] at lanesAfter products
  have standing := (standing_follow valid (steps ++ [.drain])).clustered
  rw [lanesAfter, Option.isSome_map, enabled] at standing
  obtain ⟨left, formed⟩ := Option.isSome_iff_exists.mp standing
  have tally : final.engine.counters.clustering = left.tally := by
    rw [counters, lanesAfter, formed]
    exact left.tally_clear
  rw [products, tally]
  rw [tally] at kept
  exact conserved_formed valid enabled single since formed kept

end

/-- Clusters that are carried from one coarse bin to the next, and a readout of a
later batch that is before the base and is dropped. -/
theorem straddling_batches_conserved :
    let settings : Settings :=
      { detector := { eventLag := 8, minFlight := 0 }
        clustering := { lanes := 1, limits := { span := 2, gap := 2 }, slots := 4 }
        layout := { coarseBits := 2, fineWidthBits := 1, fineBits := 2 } }
    let marker : Readout := .marker .frameStart 97 0
    let early : Readout := .neutron 103 5 5 0
    let carried : Readout := .neutron 104 6 5 0
    let middle : List Readout := [.neutron 119 5 5 0, .neutron 119 9 9 0]
    let stray : Readout := .neutron 90 5 5 0
    let last : Readout := .neutron 121 5 5 0
    let steps : List Step :=
      [.process, .ingest [marker, early] 97, .ingest (carried :: middle) 104, .process, .flush,
        .ingest [stray, last] 121, .idle, .process]
    let supplied := [marker, early, carried] ++ middle ++ [last]
    let final := (ofSettings settings).follow (steps ++ [.drain])
    settings.Valid ∧ (ofSettings settings).Undisturbed steps ∧
      final.engine.counters.clustering.dropped = 0 ∧
      (ofSettings settings).accepted steps = supplied ∧
      Conserved supplied final.engine.counters.clustering final.products := by
  intro settings marker early carried middle stray last steps supplied final
  have valid : settings.Valid := by decide
  have undisturbed : (ofSettings settings).Undisturbed steps := ⟨by decide, by decide +kernel⟩
  have kept : final.engine.counters.clustering.dropped = 0 := by decide +kernel
  have taken : (ofSettings settings).accepted steps = supplied := by decide +kernel
  have conserved := undisturbed_conserves valid rfl rfl undisturbed kept
  rw [taken] at conserved
  exact ⟨valid, undisturbed, kept, taken, conserved⟩

end Engine

end EventFormation
