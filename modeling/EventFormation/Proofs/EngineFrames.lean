import EventFormation.Proofs.EmittedProducts

/-!
# Times of flight against frames

Against frames every neutron should be measured against the latest frame that
lies far enough before its fine bin.  An engine measures so between two resets of
its bins if the frames of every fine bin come in the order of time, whatever steps
it performs and however many lanes it has.  Only before the first frame has been
routed, or before the first one in use, is a neutron not told.
-/

namespace EventFormation

namespace Engine

/-- The step is a jump in time, which resets the bins. -/
def Resets (engine : Engine) : Step → Prop
  | .ingest readouts earliest => readouts ≠ [] ∧ engine.jumps earliest
  | _ => False

instance (engine : Engine) (step : Step) : Decidable (engine.Resets step) :=
  match step with
  | .ingest readouts earliest => inferInstanceAs (Decidable (readouts ≠ [] ∧
      engine.jumps earliest))
  | .idle | .process | .flush | .drain => .isFalse id

end Engine

/-- No step of a schedule resets the bins. -/
def Progress.Unbroken (progress : Progress) : List Step → Prop
  | [] => True
  | step :: rest => ¬progress.engine.Resets step ∧ (progress.perform step).Unbroken rest

instance Progress.decidableUnbroken (progress : Progress) :
    (steps : List Step) → Decidable (progress.Unbroken steps)
  | [] => .isTrue trivial
  | step :: rest =>
    have := (progress.perform step).decidableUnbroken rest
    inferInstanceAs (Decidable (_ ∧ _))

/-- Only the first step of a schedule may reset the bins, and it does unless the
engine is new. -/
def Engine.Stretch (engine : Engine) (new : Prop) : List Step → Prop
  | [] => True
  | step :: rest => (new ∨ engine.Resets step) ∧
      (Progress.perform { engine } step).Unbroken rest

instance (engine : Engine) (new : Prop) [Decidable new] (steps : List Step) :
    Decidable (engine.Stretch new steps) :=
  match steps with
  | [] => .isTrue trivial
  | _ :: _ => inferInstanceAs (Decidable ((_ ∨ _) ∧ _))

namespace Engine

variable {settings : Settings} {engine : Engine}

/-- Open clusters have neutrons from before the base of the bins. -/
def Behind (engine : Engine) : Prop :=
  ∀ lanes, engine.lanes = some lanes →
    lanes.Holds fun hit => hit.isNeutron = true ∧ hit.time.toNat < engine.ring.base

theorem behind_of_cleared {lanes : Option Lanes} (cleared : engine.lanes = lanes.map Lanes.clear) :
    engine.Behind := by
  intro after found cluster member
  rw [cleared] at found
  obtain ⟨before, _, rfl⟩ := Option.map_eq_some_iff.mp found
  rw [Lanes.openClusters_clear] at member
  contradiction

theorem behind_start (settings : Settings) : (ofSettings settings).Behind := by
  have fresh : (ofSettings settings).lanes = (ofSettings settings).lanes.map Lanes.clear := by
    simp only [ofSettings]
    split
    · rw [Option.map_some, Lanes.clear_ofCount]
    · rfl
  exact behind_of_cleared fresh

section

variable (valid : settings.Valid) (enabled : settings.clustering.enabled = true)
  (standing : Standing settings engine)
include valid enabled standing

theorem inTurn_form {first : Nat} {bins : List (List Readout)}
    (numbered : settings.layout.Numbered first bins) :
    Product.InTurn settings.layout.fineWidth (first * settings.layout.fineCount)
        (bins.map settings.layout.fineBlock).flatten
        (form settings.layout first bins engine.lanes).2 ∧
      ∀ product ∈ (form settings.layout first bins engine.lanes).2, product.Proper := by
  obtain ⟨lanes, clustered⟩ :=
    Option.isSome_iff_exists.mp (standing.clustered.trans enabled)
  obtain ⟨resting, enough, spanLe, placed⟩ := standing.ready valid clustered numbered
  have inTurn := Lanes.inTurn_stream resting enough spanLe settings.layout.fineWidth_pos
    numbered.dated
  rw [Nat.mul_assoc, ← settings.layout.coarseWidth_eq] at inTurn
  rw [clustered]
  exact ⟨inTurn, Lanes.proper_stream resting enough spanLe placed (by simp)⟩

end

end Engine

/-- Since the bins were anchored, the engine has put out the products of the
readouts up to its base, and the sink has been told what the router tells of
them. -/
structure Course (settings : Settings) (opening : Router) (readouts : List Readout)
    (progress : Progress) : Prop where
  standing : Engine.Standing settings progress.engine
  filed : ∃ anchor, Filed settings.layout anchor readouts progress.engine.ring
  behind : progress.engine.Behind
  emitted : Emitted settings.layout.fineWidth
    (progress.engine.ring.start * settings.layout.fineCount) readouts progress.products
  relayed : Relayed opening progress.products progress.calls progress.engine.router

namespace Course

variable {settings : Settings} {opening : Router} {readouts : List Readout} {progress : Progress}

theorem start (valid : settings.Valid) :
    Course settings (Engine.ofSettings settings).router [] { engine := .ofSettings settings } where
  standing := Engine.Standing.start valid
  filed := ⟨0, Filed.empty valid.layout⟩
  behind := Engine.behind_start settings
  emitted := Emitted.start _ _
  relayed := Relayed.start _

theorem reset {engine : Engine} (standing : Engine.Standing settings engine) {earliest : Nat}
    (jumps : engine.jumps earliest) :
    Course settings engine.router.resetFrames [] { engine := engine.awaited earliest } := by
  have standingAfter := standing.awaited earliest
  rw [Engine.awaited_of_jumps engine jumps] at standingAfter ⊢
  let awake : Engine := { engine with countdown := engine.idleTicks }
  have awakeJumps : awake.jumps earliest := jumps
  have ring : (awake.jump earliest).ring =
      (awake.ring.anchor (awake.ring.layout.coarseFloor earliest)).1 :=
    Engine.ring_jump (by rw [awakeJumps, Bool.or_true])
  have filed : ∃ anchor, Filed settings.layout anchor [] (awake.jump earliest).ring := by
    rw [ring]
    exact ⟨_, Filed.anchored standing.sound standing.laidOut _⟩
  exact ⟨standingAfter, filed, Engine.behind_of_cleared rfl, Emitted.start _ _, Relayed.start _⟩

theorem congr (course : Course settings opening readouts progress) {engine : Engine}
    (ring : engine.ring = progress.engine.ring) (lanes : engine.lanes = progress.engine.lanes)
    (router : engine.router = progress.engine.router) :
    Course settings opening readouts { progress with engine } := by
  have standing := course.standing
  constructor
  · exact standing.congr ring lanes (congrArg Router.detector router)
  · rw [ring]
    exact course.filed
  · intro after found
    rw [ring]
    exact course.behind after (lanes ▸ found)
  · rw [ring]
    exact course.emitted
  · rw [router]
    exact course.relayed

theorem file (course : Course settings opening readouts progress) (more : List Readout) :
    Course settings opening (readouts ++ progress.engine.ring.accepted more)
      { progress with engine := progress.engine.fileReadouts more } := by
  obtain ⟨anchor, filed⟩ := course.filed
  refine ⟨course.standing.insert more, ⟨anchor, filed.insert more⟩, course.behind, ?_,
    course.relayed⟩
  refine course.emitted.accept ?_
  intro readout member
  rw [TimeRing.mem_accepted_iff filed.sound, filed.laidOut] at member
  have after : progress.engine.ring.start ≤
      readout.time.toNat / settings.layout.coarseWidth := member.2.1
  rwa [settings.layout.coarseWidth_eq, Nat.mul_comm, ← Nat.div_div_eq_div_mul,
    Nat.le_div_iff_mul_le settings.layout.fineCount_pos] at after

theorem ingest (course : Course settings opening readouts progress) {more : List Readout}
    {earliest : Nat} (stays : ¬progress.engine.Resets (.ingest more earliest)) :
    Course settings opening (readouts ++ progress.engine.taken (.ingest more earliest))
      (progress.perform (.ingest more earliest)) := by
  have awake : Course settings opening readouts { progress with
      engine := { progress.engine with countdown := progress.engine.idleTicks } } :=
    course.congr rfl rfl rfl
  by_cases some : more = []
  · subst some
    have nothing : readouts ++ progress.engine.taken (.ingest [] earliest) = readouts :=
      List.append_nil readouts
    rw [nothing]
    exact course
  · have inside : ¬progress.engine.jumps earliest := fun jumps => stays ⟨some, jumps⟩
    rw [progress.perform_ingest some, Engine.taken, Engine.awaited_of_not_jumps _ inside]
    exact awake.file more

theorem flush (course : Course settings opening readouts progress) :
    Course settings opening readouts (progress.perform .flush) := by
  rw [Progress.perform_flush]
  exact ⟨course.standing.congr rfl rfl rfl, course.filed, course.behind, course.emitted,
    course.relayed.flush⟩

section

variable (course : Course settings opening readouts progress) (valid : settings.Valid)
  (enabled : settings.clustering.enabled = true)
include course valid enabled

theorem released {later : Engine} {products : List Product} {bins : Nat}
    (released : Engine.Released progress.engine later products bins) :
    later.Behind ∧ Emitted settings.layout.fineWidth
      (later.ring.start * settings.layout.fineCount) readouts (progress.products ++ products) := by
  obtain ⟨anchor, filed⟩ := course.filed
  have standing := course.standing
  have numbered := standing.sound.numbered released.moved.bins_le
  have formed := released.formed
  rw [standing.laidOut] at numbered formed
  obtain ⟨inTurn, proper⟩ := Engine.inTurn_form valid enabled standing numbered
  have bound : (progress.engine.ring.start + bins) * settings.layout.coarseWidth =
      later.ring.base := by
    rw [released.moved.sound.base, released.moved.start, released.moved.layout, standing.laidOut]
  have length : (progress.engine.ring.block bins).length = bins := by
    rw [TimeRing.block, List.length_map, List.length_range']
  have holds : ∀ lanes, progress.engine.lanes = some lanes →
      lanes.Holds fun hit => hit.isNeutron = true ∧ hit.time.toNat < later.ring.base := by
    intro lanes found cluster member hit hitMember
    have behind := course.behind lanes found cluster member hit hitMember
    exact ⟨behind.1, Nat.lt_of_lt_of_le behind.2 (released.moved.base_le standing.sound)⟩
  have fresh : ∀ readout ∈ neutrons ((progress.engine.ring.block bins).map
      settings.layout.fineBlock).flatten.flatten,
        readout.isNeutron = true ∧ readout.time.toNat < later.ring.base := by
    intro readout member
    have bounds := numbered.placed.bounds member
    rw [Engine.length_flatten_fineBlocks, length, ← Nat.add_mul, bound] at bounds
    exact ⟨(List.mem_filter.mp member).2, bounds.2⟩
  obtain ⟨stillOpen, produced⟩ := standing.holds_form valid numbered holds fresh
  rw [← formed] at inTurn proper stillOpen produced
  refine ⟨stillOpen, ?_⟩
  have neutral : ∀ product ∈ products, product.Holds fun hit => hit.isNeutron = true := by
    intro product member
    cases product with
    | passed readout => trivial
    | formed cluster => exact fun hit hitMember => (produced _ member hit hitMember).1
  -- The block has all readouts of its fine bins, those of one bin in order.
  have same : ∀ number, progress.engine.ring.start * settings.layout.fineCount ≤ number →
      number < (progress.engine.ring.start + bins) * settings.layout.fineCount →
        ((progress.engine.ring.block bins).map settings.layout.fineBlock).flatten.flatten.filter
            (Readout.passesIn settings.layout.fineWidth number) =
          readouts.filter (Readout.passesIn settings.layout.fineWidth number) := by
    intro number above below
    rw [filed.block_eq released.moved.bins_le]
    refine Layout.filter_sorted ?_ above below
    intro readout _ passes
    exact of_decide_eq_true (Bool.and_eq_true_iff.mp passes).2
  have emitted := course.emitted.release inTurn proper neutral
    (by rwa [Engine.length_fineBlocks, length, ← Nat.add_mul])
  rwa [Engine.length_fineBlocks, length, ← Nat.add_mul, ← released.moved.start] at emitted

theorem process (frameMode : opening.detector.frameMode = true) :
    Course settings opening readouts (progress.perform .process) := by
  obtain ⟨anchor, filed⟩ := course.filed
  have standing := Engine.standing_perform valid course.standing .process
  obtain ⟨later, products, bins, released, performed⟩ :=
    Progress.exists_perform_process filed.sound filed.cleared
  obtain ⟨behind, emitted⟩ := course.released valid enabled released
  have router : later.router = progress.engine.router := by rw [released.rest]
  have relayed := course.relayed
  rw [← router] at relayed
  rw [performed] at standing ⊢
  exact ⟨standing, ⟨anchor, filed.moved released.moved⟩, behind, emitted,
    relayed.route frameMode _ products⟩

end

end Course

/-- Closing what is open puts clusters out with the bin that comes next. -/
theorem Engine.emitted_closeOpen {settings : Settings} {engine : Engine}
    {readouts : List Readout} {products : List Product} (valid : settings.Valid)
    (enabled : settings.clustering.enabled = true) (standing : Standing settings engine)
    (behind : engine.Behind)
    (emitted : Emitted settings.layout.fineWidth (engine.ring.start * settings.layout.fineCount)
      readouts products) :
    Emitted settings.layout.fineWidth (engine.ring.start * settings.layout.fineCount) readouts
      (products ++ engine.closeOpen.2) := by
  have numbered := settings.layout.numbered_quiet engine.ring.start
  obtain ⟨inTurn, proper⟩ := inTurn_form valid enabled standing numbered
  have quiet : ([[]].map settings.layout.fineBlock).flatten.flatten = [] := by
    simpa using settings.layout.flatten_fineBlocks_perm [[]]
  obtain ⟨-, produced⟩ := standing.holds_form valid numbered behind
    (by rw [quiet]; exact fun _ member => absurd member List.not_mem_nil)
  have carried := products_closeOpen standing.sound standing.cleared
  rw [standing.laidOut] at carried
  rw [← carried] at inTurn proper produced
  refine emitted.carry inTurn quiet proper ?_ ?_
  · intro product member
    cases product with
    | passed readout => trivial
    | formed cluster => exact fun hit hitMember => (produced _ member hit hitMember).1
  · intro product member
    cases product with
    | passed readout =>
        have passed := Product.mem_passings.mpr member
        rw [inTurn.passings, quiet] at passed
        contradiction
    | formed cluster =>
        -- The cluster has a neutron from before the base, so it starts before the base.
        have settled : cluster.Settled := proper _ member
        obtain ⟨hit, hitMember⟩ := List.exists_mem_of_ne_nil _ settled.occupied
        have early := (settled.start_lt_iff engine.ring.base).mpr
          ⟨hit, hitMember, (produced _ member hit hitMember).2⟩
        rw [standing.sound.base, standing.laidOut, settings.layout.coarseWidth_eq, ← Nat.mul_assoc,
          ← Nat.div_lt_iff_lt_mul settings.layout.fineWidth_pos] at early
        exact early

namespace Course

variable {settings : Settings} {opening : Router} {readouts : List Readout} {progress : Progress}
  (course : Course settings opening readouts progress) (valid : settings.Valid)
  (enabled : settings.clustering.enabled = true) (frameMode : opening.detector.frameMode = true)
include course valid enabled frameMode

theorem drain : Course settings opening readouts (progress.perform .drain) := by
  obtain ⟨anchor, filed⟩ := course.filed
  have standing := Engine.standing_perform valid course.standing .drain
  obtain ⟨later, products, bins, released, performed⟩ :=
    Progress.exists_perform_drain filed.sound filed.cleared
  obtain ⟨behind, emitted⟩ := course.released valid enabled released
  have standingLater := course.standing.released valid released
  have emittedAll := Engine.emitted_closeOpen valid enabled standingLater behind emitted
  have closed := Engine.closeOpen_eq standingLater.sound standingLater.cleared
  have router : later.router = progress.engine.router := by rw [released.rest]
  have relayed := course.relayed
  rw [← router] at relayed
  have ring : later.closeOpen.1.ring = later.ring := by rw [closed]
  have lanes : ∃ lanes : Option Lanes, later.closeOpen.1.lanes = lanes.map Lanes.clear := by
    rw [closed]
    exact ⟨_, rfl⟩
  obtain ⟨_, cleared⟩ := lanes
  rw [performed] at standing ⊢
  refine ⟨standing, ⟨anchor, ?_⟩, Engine.behind_of_cleared cleared, ?_,
    (relayed.route frameMode _ _).flush⟩
  · rw [ring]
    exact filed.moved released.moved
  · rw [ring, ← List.append_assoc]
    exact emittedAll

theorem perform {step : Step} (stays : ¬progress.engine.Resets step) :
    Course settings opening (readouts ++ progress.engine.taken step) (progress.perform step) := by
  have silent (none : progress.engine.taken step = []) :
      readouts ++ progress.engine.taken step = readouts := by
    rw [none, List.append_nil]
  cases step with
  | ingest more earliest => exact course.ingest stays
  | idle =>
      rw [silent rfl]
      exact course.congr rfl rfl rfl
  | process =>
      rw [silent rfl]
      exact course.process valid enabled frameMode
  | flush =>
      rw [silent rfl]
      exact course.flush
  | drain =>
      rw [silent rfl]
      exact course.drain valid enabled frameMode

theorem follow {steps : List Step} (unbroken : progress.Unbroken steps) :
    Course settings opening (readouts ++ progress.accepted steps)
      (steps.foldl Progress.perform progress) := by
  induction steps generalizing readouts progress with
  | nil =>
      rw [Progress.accepted, List.append_nil]
      exact course
  | cons step rest induction =>
      obtain ⟨stays, unbrokenRest⟩ := unbroken
      rw [Progress.accepted, ← List.append_assoc]
      exact induction (course.perform valid enabled frameMode stays) unbrokenRest

end Course

namespace Engine

variable {settings : Settings}

theorem course_stretch (valid : settings.Valid) (enabled : settings.clustering.enabled = true)
    (frameMode : settings.detector.frameMode = true) (earlier : List Step)
    {step : Step} {rest : List Step}
    (stretch : ((ofSettings settings).follow earlier).engine.Stretch (earlier = [])
      (step :: rest)) :
    let engine := ((ofSettings settings).follow earlier).engine
    Course settings engine.router.resetFrames (engine.accepted (step :: rest))
      (engine.follow (step :: rest)) := by
  intro engine
  obtain ⟨opens, unbroken⟩ := stretch
  have standing : Standing settings engine := standing_follow valid earlier
  have opening : engine.router.resetFrames.detector.frameMode = true := by
    change engine.router.detector.frameMode = true
    rwa [standing.detector]
  have first : Course settings engine.router.resetFrames ([] ++ engine.taken step)
      (Progress.perform { engine } step) := by
    by_cases resets : engine.Resets step
    · cases step with
      | ingest more earliest =>
          obtain ⟨some, jumps⟩ := resets
          rw [Progress.perform_ingest _ some]
          exact (Course.reset standing jumps).file more
      | _ => contradiction
    · have new : earlier = [] := opens.resolve_right resets
      subst new
      exact (Course.start valid).perform valid enabled opening resets
  exact first.follow valid enabled opening unbroken

end Engine

/-- The pulse in use is the latest one that the sink has been told of, and fine
bins are as wide as they were. -/
structure Router.Informed (width : Nat) (calls : List SinkCall) (router : Router) : Prop where
  pulse : router.pulse = SinkCall.lastPulse none calls
  fineWidth : router.fineWidth = width

namespace Router.Informed

variable {width : Nat} {calls : List SinkCall} {router : Router}

theorem route (informed : router.Informed width calls) (base : Nat) (readouts : List Readout) :
    let plan := router.route base readouts
    plan.result.Informed width (calls ++ plan.calls) := by
  constructor
  · rw [SinkCall.lastPulse_append, ← informed.pulse]
    exact pulse_route router base readouts
  · exact (fineWidth_route router base readouts).trans informed.fineWidth

theorem flush (informed : router.Informed width calls) :
    router.flush.result.Informed width (calls ++ router.flush.calls) := by
  constructor
  · rw [SinkCall.lastPulse_append, ← informed.pulse]
    rfl
  · exact informed.fineWidth

end Router.Informed

namespace Engine

variable {settings : Settings}

theorem informed_perform {progress : Progress} {width : Nat}
    (standing : Standing settings progress.engine)
    (informed : progress.engine.router.Informed width progress.calls) (step : Step) :
    (progress.perform step).engine.router.Informed width (progress.perform step).calls := by
  cases step with
  | ingest readouts earliest =>
      change (progress.engine.ingest readouts earliest).router.Informed width progress.calls
      rcases router_ingest progress.engine readouts earliest with same | reset
      · rw [same]
        exact informed
      · rw [reset]
        exact ⟨informed.pulse, informed.fineWidth⟩
  | idle => exact informed
  | process =>
      obtain ⟨later, products, bins, released, performed⟩ :=
        Progress.exists_perform_process standing.sound standing.cleared
      have router : later.router = progress.engine.router := by rw [released.rest]
      rw [performed, router]
      exact informed.route _ _
  | flush =>
      rw [Progress.perform_flush]
      exact informed.flush
  | drain =>
      obtain ⟨later, products, bins, released, performed⟩ :=
        Progress.exists_perform_drain standing.sound standing.cleared
      have router : later.router = progress.engine.router := by rw [released.rest]
      rw [performed, router]
      exact (informed.route _ _).flush

theorem informed_follow (valid : settings.Valid) (steps : List Step) :
    let progress := (ofSettings settings).follow steps
    progress.engine.router.Informed settings.layout.fineWidth progress.calls := by
  induction steps using List.reverseRecOn with
  | nil => exact ⟨rfl, rfl⟩
  | append_singleton steps step induction =>
      rw [follow_concat]
      exact informed_perform (standing_follow valid steps) induction step

/-- Against frames an engine measures every neutron that it puts out between two
resets, if the frames of each fine bin come in the order of time: against the
latest frame of all that are accepted between these resets and lie far enough
before its fine bin, or, if there is none, against the first frame that has been
routed.  The frame is the latest pulse that the sink has been told of.  A neutron
is not told only if no frame has been routed, if it comes before its frame, or if
it has no pixel. -/
theorem flights_of_stretch (valid : settings.Valid)
    (enabled : settings.clustering.enabled = true)
    (frameMode : settings.detector.frameMode = true) (earlier steps : List Step)
    (stretch : ((ofSettings settings).follow earlier).engine.Stretch (earlier = []) steps)
    (inOrder : Readout.FramesInOrder settings.layout.fineWidth
      (((ofSettings settings).follow earlier).engine.accepted steps)) :
    let before := (ofSettings settings).follow earlier
    let during := before.engine.follow steps
    let width := settings.layout.fineWidth
    let frames := Readout.frames (before.engine.accepted steps)
    let frame := fun entry : List Readout × Readout =>
      frameFor (settings.detector.minFlight + width) (entry.2.time.toNat / width * width) frames
        (Readout.frames entry.1).head?
    (ofSettings settings).follow (earlier ++ steps) =
        { engine := during.engine
          products := before.products ++ during.products
          calls := before.calls ++ during.calls } ∧
      SinkCall.flights (SinkCall.lastPulse none before.calls) during.calls =
        (withPast [] during.readouts).filterMap (fun entry =>
          settings.detector.flight? (frame entry) entry.2) ∧
      during.engine.router.counts.errors = before.engine.router.counts.errors +
        (withPast [] during.readouts).countP (fun entry =>
          settings.detector.fails (frame entry) entry.2) ∧
      ∀ entry ∈ withPast [] during.readouts, entry.2.isNeutron = true →
        (frame entry = none ↔ Readout.frames entry.1 = []) := by
  intro before during width frames frame
  refine ⟨follow_append _ earlier steps, ?_⟩
  cases steps with
  | nil => exact ⟨rfl, rfl, fun _ member => absurd member List.not_mem_nil⟩
  | cons step rest =>
      have course := course_stretch valid enabled frameMode earlier stretch
      have detector := (standing_follow valid earlier).detector
      have informed := informed_follow valid earlier
      have emitted := course.emitted
      rw [← informed.fineWidth] at emitted inOrder
      obtain ⟨flights, errors, unmeasured⟩ := emitted.flights_routeAll
        (by rw [informed.fineWidth]; exact settings.layout.fineWidth_pos)
        (by rwa [detector]) inOrder
      simp only [Router.delay, Router.floor, detector, informed.fineWidth]
        at flights errors unmeasured
      refine ⟨?_, ?_, unmeasured⟩
      · rw [← informed.pulse, ← SinkCall.flights_filter, course.relayed.calls]
        exact flights
      · have settled := congrArg (fun router => router.counts.errors) course.relayed.router
        exact settled.trans errors

/-- A stretch after a jump.  Its first neutron is put out before any frame, the
second one is measured against the first frame, and the others against frames of
which one has come after a later one. -/
theorem late_frames_measured :
    let settings : Settings :=
      { detector := { frameMode := true, minFlight := 10, eventLag := 0, idleMillis := 10 }
        clustering := { lanes := 2, limits := { span := 16, gap := 16 }, slots := 16 }
        layout := { coarseBits := 2, fineWidthBits := 4, fineBits := 2 } }
    let earlier : List Step :=
      [.ingest [.marker .frameStart 96 0, .neutron 140 5 5 0] 96, .process, .drain]
    let steps : List Step :=
      [.ingest [.neutron 1000 5 5 0, .neutron 1100 7 7 0] 1000,
        .ingest [.marker .frameStart 1024 0, .neutron 1048 5 5 0, .marker .frameStart 1074 0,
          .marker .frameStart 1060 0] 1024,
        .idle, .process, .ingest [.neutron 1160 5 5 0] 1160, .flush, .process, .drain]
    let before := (ofSettings settings).follow earlier
    let during := before.engine.follow steps
    let accepted := before.engine.accepted steps
    settings.Valid ∧ settings.clustering.enabled = true ∧ settings.detector.frameMode = true ∧
      before.engine.Stretch (earlier = []) steps ∧
      Readout.FramesInOrder settings.layout.fineWidth accepted ∧
      Readout.frames accepted = [1024, 1074, 1060] ∧
      during.readouts.map (fun readout => readout.time) =
        [1000, 1024, 1060, 1048, 1074, 1100, 1160] ∧
      SinkCall.flights (SinkCall.lastPulse none before.calls) during.calls =
        [(some 1024, 24, 5125), (some 1060, 40, 7175), (some 1074, 86, 5125)] ∧
      SinkCall.flights (SinkCall.lastPulse none before.calls) during.calls =
        (withPast [] during.readouts).filterMap (fun entry =>
          settings.detector.flight? (frameFor (settings.detector.minFlight +
            settings.layout.fineWidth) (entry.2.time.toNat / settings.layout.fineWidth *
              settings.layout.fineWidth) (Readout.frames accepted)
              (Readout.frames entry.1).head?) entry.2) ∧
      during.engine.router.counts.errors = before.engine.router.counts.errors + 1 := by
  intro settings earlier steps before during accepted
  have valid : settings.Valid := by decide
  have stretch : before.engine.Stretch (earlier = []) steps := by decide +kernel
  have inOrder : Readout.FramesInOrder settings.layout.fineWidth accepted := by decide +kernel
  have frames : Readout.frames accepted = [1024, 1074, 1060] := by decide +kernel
  have readouts : during.readouts.map (fun readout => readout.time) =
      [1000, 1024, 1060, 1048, 1074, 1100, 1160] := by decide +kernel
  have told : SinkCall.flights (SinkCall.lastPulse none before.calls) during.calls =
      [(some 1024, 24, 5125), (some 1060, 40, 7175), (some 1074, 86, 5125)] := by decide +kernel
  have errors : during.engine.router.counts.errors = before.engine.router.counts.errors + 1 := by
    decide +kernel
  obtain ⟨-, flights, -, -⟩ := flights_of_stretch valid rfl rfl earlier steps stretch inOrder
  exact ⟨valid, rfl, rfl, stretch, inOrder, frames, readouts, told, flights, errors⟩

end Engine

end EventFormation
