import EventFormation.Proofs.EngineInStep

/-!
# The outcome of a schedule

An engine that drops nothing and re-anchors its bins for the first batch at
most forms its products bin by bin from all the readouts that it has taken in.
Neither the cut of the readouts into batches nor the moments at which blocks
are processed show in the outcome, and every bin from the anchor on is formed,
empty ones included.
-/

namespace EventFormation

/-- The products of readouts, bin by bin from their anchor on and with what is
open at the end. -/
def Settings.formation (settings : Settings) (readouts : List Readout) : List Product :=
  let anchor := settings.layout.anchor readouts
  let finish := TimeRing.finishAfter settings.layout anchor readouts
  (Engine.form settings.layout anchor
    (settings.layout.sorted readouts anchor (finish - anchor) ++ [[]])
    (Engine.ofSettings settings).lanes).2

/-- What is formed of readouts, bin by bin from an anchor on and with what is
open at the end, and the lanes that are left behind. -/
def Settings.formed (settings : Settings) (anchor : Nat) (readouts : List Readout) :
    Option Lanes × List Product :=
  Engine.form settings.layout anchor
    (settings.layout.sorted readouts anchor
      (TimeRing.finishAfter settings.layout anchor readouts - anchor) ++ [[]])
    (Engine.ofSettings settings).lanes

/-- Closing what is open completes the products of an engine that is in step and
has released every bin. -/
theorem Along.formed_drained {settings : Settings} {anchor : Nat} {readouts : List Readout}
    {progress : Progress} (along : Along settings anchor readouts progress) {later : Engine}
    {products : List Product}
    (released : Engine.Released progress.engine later products progress.engine.ring.occupied) :
    later.closeOpen.1.lanes = (settings.formed anchor readouts).1.map Lanes.clear ∧
      progress.products ++ (products ++ later.closeOpen.2) =
        (settings.formed anchor readouts).2 := by
  have filed := along.filed.moved released.moved
  have formed := along.formed_released released
  have start : later.ring.start = TimeRing.finishAfter settings.layout anchor readouts := by
    rw [released.moved.start, ← along.filed.finish]
    rfl
  have after : anchor + (later.ring.start - anchor) = later.ring.start :=
    Nat.add_sub_cancel' filed.anchor_le
  rw [Engine.closeOpen_eq filed.sound filed.cleared, filed.laidOut, Settings.formed, ← start,
    Engine.form_append, ← formed, Layout.length_sorted, after, List.append_assoc]
  exact ⟨rfl, rfl⟩

/-- The bins of the readouts end within the clock. -/
def FitsClock (layout : Layout) (readouts : List Readout) : Prop :=
  ∀ readout ∈ readouts,
    layout.coarseFloor readout.time.toNat + layout.coarseWidth ≤ clockEnd

instance (layout : Layout) (readouts : List Readout) : Decidable (FitsClock layout readouts) :=
  inferInstanceAs (Decidable (∀ readout ∈ readouts, _))

theorem finish_le_clockEnd {layout : Layout} {readouts : List Readout}
    (fits : FitsClock layout readouts) (valid : layout.Valid) :
    TimeRing.finishAfter layout (layout.anchor readouts) readouts * layout.coarseWidth ≤
      clockEnd := by
  have within : ∀ readout ∈ readouts,
      readout.coarseNumber layout < clockEnd / layout.coarseWidth := by
    intro readout member
    have ends := fits readout member
    rw [Layout.coarseFloor_eq, ← Nat.succ_mul] at ends
    exact (Nat.le_div_iff_mul_le layout.coarseWidth_pos).mpr ends
  rw [← Nat.le_div_iff_mul_le layout.coarseWidth_pos, TimeRing.finishAfter_le_iff]
  refine ⟨?_, within⟩
  by_cases none : readouts = []
  · rw [none, Layout.anchor_nil valid]
    exact Nat.zero_le _
  · obtain ⟨readout, member, earliest⟩ := Layout.exists_earliest layout none
    rw [Layout.anchor_eq member earliest]
    have inside := within readout member
    split
    · exact Nat.zero_le _
    · exact Nat.le_of_lt inside

section

variable {settings : Settings} {readouts : List Readout} {progress : Progress}
  (along : Along settings (settings.layout.anchor readouts) readouts progress)
  (fits : FitsClock settings.layout readouts) (valid : settings.layout.Valid)
include along fits valid

/-- Draining an engine that is in step completes the products, and tells them. -/
theorem Along.drain :
    (progress.perform .drain).products = settings.formation readouts ∧
      (settings.detector.frameMode →
        (progress.perform .drain).calls.filter (· ≠ .flush) =
          ((Engine.ofSettings settings).router.routeAll
            (Product.readouts (settings.formation readouts))).calls) := by
  have ends : progress.engine.ring.finish * progress.engine.ring.layout.coarseWidth ≤ clockEnd := by
    rw [along.filed.finish, along.filed.laidOut]
    exact finish_le_clockEnd fits valid
  have released := Engine.released_all along.filed.sound along.filed.cleared ends
  generalize release : progress.engine.release progress.engine.ring.layout.coarseCount
    progress.engine.ring.layout.window = result at released
  obtain ⟨later, products⟩ := result
  dsimp only at released
  have whole : progress.products ++ (products ++ later.closeOpen.2) =
      settings.formation readouts := (along.formed_drained released).2
  rw [progress.perform_drain release]
  refine ⟨whole, ?_⟩
  intro frameMode
  have router : later.router = progress.engine.router := by rw [released.rest]
  have told := along.told frameMode
  rw [← router] at told
  have drained := (told.route frameMode progress.engine.ring.base
    (products ++ later.closeOpen.2)).flush
  rw [drained.calls, whole]

end

namespace Engine

/-- The bins are not re-anchored after the first batch.  The drain is still to
come. -/
structure Undisturbed (engine : Engine) (steps : List Step) : Prop where
  undrained : Step.drain ∉ steps
  anchored : ∀ earlier ∈ steps.inits, ingested earlier ≠ [] →
    (engine.follow earlier).engine.counts.resets = (engine.follow steps).engine.counts.resets

namespace Undisturbed

variable {engine : Engine} {steps : List Step} {step : Step}

theorem of_concat (undisturbed : engine.Undisturbed (steps ++ [step])) :
    engine.Undisturbed steps := by
  constructor
  · exact fun member => undisturbed.undrained (List.mem_append_left _ member)
  · intro earlier member some
    have first : earlier <+: steps := (List.mem_inits _ _).mp member
    have whole : steps <+: steps ++ [step] := List.prefix_append _ _
    have someWhole : ingested steps ≠ [] := by
      obtain ⟨rest, rfl⟩ := first
      rw [ingested, List.flatMap_append]
      exact List.append_ne_nil_of_left_ne_nil some _
    rw [undisturbed.anchored earlier ((List.mem_inits _ _).mpr (first.trans whole)) some,
      undisturbed.anchored steps ((List.mem_inits _ _).mpr whole) someWhole]

theorem not_jumps {readouts : List Readout} {earliest : Nat}
    (undisturbed : engine.Undisturbed (steps ++ [.ingest readouts earliest]))
    (some : readouts ≠ []) (later : ingested steps ≠ []) :
    ¬(engine.follow steps).engine.jumps earliest := by
  have same := undisturbed.anchored steps
    ((List.mem_inits _ _).mpr (List.prefix_append _ _)) later
  have resets : ((engine.follow steps).perform (.ingest readouts earliest)).engine.counts.resets =
      ((engine.follow steps).engine.awaited earliest).counts.resets :=
    congrArg (fun engine => engine.counts.resets) (Engine.ingest_eq _ some earliest)
  rw [follow_concat, resets, resets_awaited] at same
  intro jumps
  rw [if_pos jumps] at same
  omega

end Undisturbed

/-- Batches start at their earliest readout, nothing is dropped, and the bins
are not re-anchored after the first batch.  The drain is still to come. -/
structure Steady (engine : Engine) (steps : List Step) : Prop where
  timed : ∀ step ∈ steps, step.Timed
  undrained : Step.drain ∉ steps
  kept : (engine.follow steps).engine.counts.dropped = 0
  anchored : ∀ earlier ∈ steps.inits, ingested earlier ≠ [] →
    (engine.follow earlier).engine.counts.resets = (engine.follow steps).engine.counts.resets

namespace Steady

variable {engine : Engine} {steps : List Step} {step : Step}

theorem undisturbed (steady : engine.Steady steps) : engine.Undisturbed steps :=
  ⟨steady.undrained, steady.anchored⟩

theorem of_concat (steady : engine.Steady (steps ++ [step])) : engine.Steady steps := by
  have grown := (engine.follow steps).dropped_le_perform step
  rw [← follow_concat, steady.kept] at grown
  have undisturbed := steady.undisturbed.of_concat
  constructor
  · exact fun other member => steady.timed other (List.mem_append_left _ member)
  · exact undisturbed.undrained
  · exact Nat.le_zero.mp grown
  · exact undisturbed.anchored

theorem not_jumps {readouts : List Readout} {earliest : Nat}
    (steady : engine.Steady (steps ++ [.ingest readouts earliest]))
    (later : ingested steps ≠ []) : ¬(engine.follow steps).engine.jumps earliest := by
  have timed := steady.timed _ (List.mem_append_right _ (List.mem_singleton_self _))
  obtain ⟨⟨readout, member, _⟩, _⟩ := timed
  exact steady.undisturbed.not_jumps (List.ne_nil_of_mem member) later

end Steady

section

variable {settings : Settings} (valid : settings.Valid) {steps : List Step}
include valid

/-- An engine that follows a steady schedule stays in step with its readouts. -/
theorem along_follow (steady : (ofSettings settings).Steady steps) :
    Along settings (settings.layout.anchor (ingested steps)) (ingested steps)
      ((ofSettings settings).follow steps) := by
  induction steps using List.reverseRecOn with
  | nil =>
      have none : settings.layout.anchor (ingested []) = 0 := Layout.anchor_nil valid.layout
      rw [none]
      exact Along.start valid
  | append_singleton steps step induction =>
      have along := induction steady.of_concat
      have kept := steady.kept
      rw [follow_concat] at kept
      rw [follow_concat, ingested_concat]
      cases step with
      | ingest more earliest =>
          refine along.ingest valid.layout ?_ steady.not_jumps kept
          exact steady.timed _ (List.mem_append_right _ (List.mem_singleton_self _))
      | idle =>
          simp only [Step.readouts, List.append_nil]
          exact along.congr rfl rfl rfl
      | process =>
          simp only [Step.readouts, List.append_nil]
          exact along.process
      | flush =>
          simp only [Step.readouts, List.append_nil]
          exact along.flush
      | drain =>
          exact absurd (List.mem_append_right _ (List.mem_singleton_self _)) steady.undrained

section

variable (steady : (ofSettings settings).Steady steps)
  (fits : FitsClock settings.layout (ingested steps))
include steady fits

theorem products_follow_drain :
    ((ofSettings settings).follow (steps ++ [.drain])).products =
      settings.formation (ingested steps) := by
  rw [follow_concat]
  exact ((along_follow valid steady).drain fits valid.layout).1

theorem calls_follow_drain (frameMode : settings.detector.frameMode) :
    ((ofSettings settings).follow (steps ++ [.drain])).calls.filter (· ≠ .flush) =
      ((ofSettings settings).router.routeAll
        (Product.readouts (settings.formation (ingested steps)))).calls := by
  rw [follow_concat]
  exact ((along_follow valid steady).drain fits valid.layout).2 frameMode

end

/-- Schedules that bring the same readouts have the same outcome, and against
frames they tell the sink the same, flushes aside.  The outcome is what the
readouts form bin by bin, and the sink is told of it readout by readout. -/
theorem steady_schedules_agree {other : List Step}
    (steady : (ofSettings settings).Steady steps)
    (otherSteady : (ofSettings settings).Steady other)
    (same : ingested steps = ingested other)
    (fits : FitsClock settings.layout (ingested steps)) :
    let first := (ofSettings settings).follow (steps ++ [.drain])
    let second := (ofSettings settings).follow (other ++ [.drain])
    first.readouts = second.readouts ∧
      first.readouts = Product.readouts (settings.formation (ingested steps)) ∧
      (settings.detector.frameMode →
        first.calls.filter (· ≠ .flush) = second.calls.filter (· ≠ .flush) ∧
          first.calls.filter (· ≠ .flush) =
            ((ofSettings settings).router.routeAll first.readouts).calls) := by
  intro first second
  have otherFits : FitsClock settings.layout (ingested other) := by rwa [← same]
  have products : first.products = settings.formation (ingested steps) :=
    products_follow_drain valid steady fits
  have otherProducts : second.products = settings.formation (ingested steps) := by
    rw [same]
    exact products_follow_drain valid otherSteady otherFits
  refine ⟨?_, congrArg Product.readouts products, ?_⟩
  · rw [Progress.readouts, Progress.readouts, products, otherProducts]
  · intro frameMode
    have calls := calls_follow_drain valid steady fits frameMode
    have otherCalls := calls_follow_drain valid otherSteady otherFits frameMode
    rw [← same] at otherCalls
    constructor
    · exact calls.trans otherCalls.symm
    · rw [Progress.readouts, products]
      exact calls

end

/-- A first batch that is a jump, and a last readout that comes only when the
first bins have been released. -/
theorem hurried_patient_agree :
    let settings : Settings :=
      { detector := { eventLag := 8, frameMode := true, minFlight := 0 }
        clustering := { lanes := 2, limits := { span := 2, gap := 2 }, slots := 4 }
        layout := { coarseBits := 2, fineWidthBits := 1, fineBits := 2 } }
    let frame : Readout := .marker .frameStart 97 0
    let early : Readout := .neutron 110 5 5 1
    let streak : Readout := .neutron 111 6 5 1
    let late : Readout := .neutron 119 5 5 1
    let last : Readout := .neutron 121 5 5 1
    let hurried : List Step :=
      [.ingest [frame, early, streak, late] 97, .process, .flush, .ingest [last] 121, .idle]
    let patient : List Step :=
      [.flush, .ingest [frame, early] 97, .idle, .ingest [streak, late] 111, .process,
        .ingest [last] 121]
    let first := (ofSettings settings).follow (hurried ++ [.drain])
    let second := (ofSettings settings).follow (patient ++ [.drain])
    settings.Valid ∧ (ofSettings settings).Steady hurried ∧ (ofSettings settings).Steady patient ∧
      ingested hurried = ingested patient ∧ FitsClock settings.layout (ingested hurried) ∧
      first.readouts = second.readouts ∧
      first.readouts = Product.readouts (settings.formation (ingested hurried)) ∧
      first.calls.filter (· ≠ .flush) = second.calls.filter (· ≠ .flush) ∧
      first.calls.filter (· ≠ .flush) =
        ((ofSettings settings).router.routeAll first.readouts).calls := by
  intro settings frame early streak late last hurried patient first second
  have valid : settings.Valid := by decide
  have hurriedSteady : (ofSettings settings).Steady hurried :=
    ⟨by decide, by decide, by decide +kernel, by decide +kernel⟩
  have patientSteady : (ofSettings settings).Steady patient :=
    ⟨by decide, by decide, by decide +kernel, by decide +kernel⟩
  have same : ingested hurried = ingested patient := by decide
  have fits : FitsClock settings.layout (ingested hurried) := by decide
  obtain ⟨readouts, formed, told⟩ :=
    steady_schedules_agree valid hurriedSteady patientSteady same fits
  exact ⟨valid, hurriedSteady, patientSteady, same, fits, readouts, formed, told rfl⟩

end Engine

end EventFormation
