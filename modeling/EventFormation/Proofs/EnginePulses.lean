import EventFormation.Proofs.EngineRuns
import EventFormation.Proofs.LaneComponents
import EventFormation.Proofs.RouterPulses

/-!
# Times of flight along a schedule

Without frames every neutron with a pixel should be told with its time of
flight.  What stands in the way is a pulse that a block keeps although it is
after one of its neutrons.  Blocks in the order of time do not keep such a
pulse, as clusters that are carried over start after it.  It takes a batch that
moves the bins to before the pulse while neutrons are pending.
-/

namespace EventFormation

/-- The sink has been told of every neutron with a pixel, in order and with its
time, and only readouts that have no event are errors. -/
structure Progress.Measured (detector : Detector) (progress : Progress) : Prop where
  told : SinkCall.measured none progress.calls = progress.readouts.filterMap detector.sighting?
  errors : progress.engine.router.counts.errors = progress.readouts.countP detector.strays

namespace Engine

variable {settings : Settings} {engine : Engine}

/-- What telling a block makes of the router and of the calls, if some of its
neutrons were missed. -/
structure Tells (engine : Engine) (block : Block) (missed : Nat) : Prop where
  pulse : block.plan.result.router.pulse =
    SinkCall.lastPulse engine.router.pulse block.plan.calls
  errors : block.plan.result.router.counts.errors = engine.router.counts.errors +
    block.readouts.countP engine.router.detector.strays + missed
  told : missed = 0 → SinkCall.measured engine.router.pulse block.plan.calls =
    block.readouts.filterMap engine.router.detector.sighting?

theorem tells_flush (engine : Engine) : Tells engine { products := [], plan := engine.flush } 0 :=
  ⟨by simp [flush, Router.flush, Plan.result, Plan.calls, SinkCall.lastPulse],
    by simp [flush, Router.flush, Plan.result, Block.readouts, Product.readouts],
    fun _ => by simp [flush, Router.flush, Plan.calls, Block.readouts, Product.readouts,
      SinkCall.measured]⟩

theorem tells_products {later : Engine} (router : later.router = engine.router)
    (passing : engine.router.detector.frameMode = false) (base : Nat) (products : List Product) :
    Tells engine { products, plan := later.tell base products }
      (engine.router.missed base (Product.readouts products)) := by
  have routed := Router.routed_route passing base (Product.readouts products)
  have calls : (later.tell base products).calls =
      (engine.router.route base (Product.readouts products)).calls := by
    rw [tell, Plan.calls_map, router]
  have result : (later.tell base products).result.router =
      (engine.router.route base (Product.readouts products)).result := by
    rw [tell, Plan.result_map, router]
  constructor
  · rw [result, calls]
    exact routed.pulse
  · rw [result]
    exact routed.errors
  · rw [calls]
    exact routed.told

theorem Tells.andThen_flush {block : Block} {missed : Nat} (tells : Tells engine block missed) :
    Tells engine { block with plan := block.plan.andThen flush } missed := by
  have rest := tells_flush block.plan.result
  constructor
  · rw [Plan.result_andThen, Plan.calls_andThen, SinkCall.lastPulse_append, ← tells.pulse]
    exact rest.pulse
  · rw [Plan.result_andThen]
    exact rest.errors.trans tells.errors
  · intro none
    have silent : SinkCall.measured block.plan.result.router.pulse
        block.plan.result.flush.calls = [] := rest.told rfl
    rw [Plan.calls_andThen, SinkCall.measured_append, ← tells.pulse, silent, List.append_nil]
    exact tells.told none

/-- How many neutrons of the block that a step releases come before the pulse
that the block keeps. -/
def missed (engine : Engine) : Step → Nat
  | .process => engine.router.missed engine.ring.base engine.process.readouts
  | .drain => engine.router.missed engine.ring.base engine.drain.readouts
  | _ => 0

section

variable (standing : Standing settings engine) (passing : settings.detector.frameMode = false)
include standing passing

theorem tells_process : Tells engine engine.process (engine.missed .process) := by
  obtain ⟨later, products, bins, released, processed⟩ :=
    exists_process standing.sound standing.cleared
  have router : later.router = engine.router := by rw [released.rest]
  rw [missed, processed]
  exact tells_products router (by rwa [standing.detector]) _ products

theorem tells_drain : Tells engine engine.drain (engine.missed .drain) := by
  obtain ⟨later, products, bins, released, drained⟩ :=
    exists_drain standing.sound standing.cleared
  have router : later.closeOpen.1.router = engine.router := by
    rw [router_closeOpen, released.rest]
  rw [missed, drained]
  exact (tells_products router (by rwa [standing.detector]) _
    (products ++ later.closeOpen.2)).andThen_flush

end

theorem router_ingest (engine : Engine) (readouts : List Readout) (earliest : Nat) :
    (engine.ingest readouts earliest).router = engine.router ∨
      (engine.ingest readouts earliest).router = engine.router.resetFrames := by
  by_cases some : readouts = []
  · rw [ingest, if_pos (by simpa using some)]
    exact .inl rfl
  · rw [ingest_eq engine some]
    by_cases jumps : engine.jumps earliest
    · rw [awaited_of_jumps engine jumps]
      exact .inr rfl
    · rw [awaited_of_not_jumps engine jumps]
      exact .inl rfl

end Engine

/-- The pulse in use is the latest one that the sink knows, and no error has
been forgotten. -/
structure Progress.Tracked (detector : Detector) (progress : Progress) : Prop where
  pulse : progress.engine.router.pulse = SinkCall.lastPulse none progress.calls
  errors : progress.readouts.countP detector.strays ≤ progress.engine.router.counts.errors

section

variable {settings : Settings} {progress : Progress}

theorem Progress.measured_emit {block : Block} {missed : Nat}
    (tracked : progress.Tracked settings.detector)
    (detector : progress.engine.router.detector = settings.detector)
    (tells : Engine.Tells progress.engine block missed) :
    (progress.emit block).Tracked settings.detector ∧
      ((progress.emit block).Measured settings.detector ↔
        progress.Measured settings.detector ∧ missed = 0) := by
  have pulse := tells.pulse
  have errors := tells.errors
  have told := tells.told
  rw [tracked.pulse, ← SinkCall.lastPulse_append] at pulse
  rw [detector] at errors told
  rw [tracked.pulse] at told
  have readouts : (progress.emit block).readouts = progress.readouts ++ block.readouts :=
    Product.readouts_append _ _
  have known := tracked.errors
  constructor
  · refine ⟨pulse, ?_⟩
    rw [readouts, List.countP_append]
    change _ ≤ block.plan.result.router.counts.errors
    omega
  · constructor
    · intro measured
      -- What is missed is an error beyond those of the strays, and no error is forgotten.
      have all : block.plan.result.router.counts.errors = _ := measured.errors
      rw [readouts, List.countP_append] at all
      have none : missed = 0 := by omega
      have calls : SinkCall.measured _ (progress.calls ++ block.plan.calls) = _ := measured.told
      rw [readouts, List.filterMap_append, SinkCall.measured_append, told none] at calls
      exact ⟨⟨List.append_cancel_right calls, by omega⟩, none⟩
    · rintro ⟨measured, none⟩
      constructor
      · change SinkCall.measured _ (progress.calls ++ block.plan.calls) = _
        rw [readouts, List.filterMap_append, SinkCall.measured_append, measured.told, told none]
      · change block.plan.result.router.counts.errors = _
        rw [readouts, List.countP_append, errors, measured.errors, none, Nat.add_zero]

theorem Progress.measured_quiet {engine : Engine}
    (tracked : progress.Tracked settings.detector)
    (pulse : engine.router.pulse = progress.engine.router.pulse)
    (counts : engine.router.counts = progress.engine.router.counts) :
    Tracked settings.detector { progress with engine } ∧
      (Measured settings.detector { progress with engine } ↔
        progress.Measured settings.detector) := by
  constructor
  · exact ⟨pulse.trans tracked.pulse, by
      change _ ≤ engine.router.counts.errors
      rw [counts]
      exact tracked.errors⟩
  · constructor
    · intro measured
      have errors : engine.router.counts.errors = _ := measured.errors
      rw [counts] at errors
      exact ⟨measured.told, errors⟩
    · intro measured
      exact ⟨measured.told, (congrArg RouteCounts.errors counts).trans measured.errors⟩

theorem Progress.measured_perform (standing : Engine.Standing settings progress.engine)
    (passing : settings.detector.frameMode = false)
    (tracked : progress.Tracked settings.detector) (step : Step) :
    (progress.perform step).Tracked settings.detector ∧
      ((progress.perform step).Measured settings.detector ↔
        progress.Measured settings.detector ∧ progress.engine.missed step = 0) := by
  cases step with
  | ingest readouts earliest =>
      rw [show progress.engine.missed (.ingest readouts earliest) = 0 from rfl, eq_self, and_true]
      rcases progress.engine.router_ingest readouts earliest with same | reset
      · exact measured_quiet tracked (by rw [same]) (by rw [same])
      · exact measured_quiet tracked (by rw [reset]; rfl) (by rw [reset]; rfl)
  | idle =>
      rw [show progress.engine.missed .idle = 0 from rfl, eq_self, and_true]
      exact measured_quiet tracked rfl rfl
  | process =>
      exact measured_emit tracked standing.detector (Engine.tells_process standing passing)
  | flush => exact measured_emit tracked standing.detector (Engine.tells_flush progress.engine)
  | drain => exact measured_emit tracked standing.detector (Engine.tells_drain standing passing)

end

namespace Engine

variable {settings : Settings} {engine : Engine}

/-- No neutron of the block that a step releases is missed. -/
def Covers (engine : Engine) (step : Step) : Prop :=
  engine.missed step = 0

instance (engine : Engine) (step : Step) : Decidable (engine.Covers step) :=
  inferInstanceAs (Decidable (_ = _))

theorem measured_follow (valid : settings.Valid) (passing : settings.detector.frameMode = false)
    (steps : List Step) :
    ((ofSettings settings).follow steps).Tracked settings.detector ∧
      (((ofSettings settings).follow steps).Measured settings.detector ↔
        Throughout Covers (ofSettings settings) steps) := by
  induction steps using List.reverseRecOn with
  | nil =>
      refine ⟨⟨rfl, Nat.le_refl _⟩, fun _ => ?_, fun _ => ⟨rfl, rfl⟩⟩
      intro index inside
      exact absurd inside (Nat.not_lt_zero index)
  | append_singleton steps step induction =>
      obtain ⟨tracked, measured_iff⟩ := induction
      have standing := standing_follow valid steps
      rw [follow_concat, throughout_concat, ← measured_iff]
      exact Progress.measured_perform standing passing tracked step

/-- No open cluster starts before an instant. -/
def Since (engine : Engine) (time : Nat) : Prop :=
  ∀ lanes, engine.lanes = some lanes → lanes.Holds fun hit => time ≤ hit.time.toNat

theorem Since.mono {earlier later : Nat} (since : engine.Since later) (ordered : earlier ≤ later) :
    engine.Since earlier :=
  fun lanes found cluster member hit hitMember =>
    Nat.le_trans ordered (since lanes found cluster member hit hitMember)

theorem le_time_readout {product : Product} (proper : product.Proper) {time : Nat}
    (holds : product.Holds fun hit => time ≤ hit.time.toNat)
    (neutron : product.readout.isNeutron = true) : time ≤ product.readout.time.toNat := by
  cases product with
  | passed readout =>
      have other : readout.isNeutron = false := proper
      have same : readout.isNeutron = true := neutron
      rw [other] at same
      contradiction
  | formed cluster =>
      have settled : cluster.Settled := proper
      have start : (Product.formed cluster).readout.time.toNat = cluster.start :=
        Cluster.time_reduce settled.occupied
      rw [start]
      apply Nat.le_of_not_lt
      rw [settled.start_lt_iff]
      rintro ⟨hit, member, before⟩
      exact Nat.not_lt_of_le (holds hit member) before

section

variable (valid : settings.Valid) (standing : Standing settings engine)
include valid standing

/-- What is formed of bins starts where the open clusters do, at the earliest. -/
theorem since_form {first time : Nat} {bins : List (List Readout)}
    (numbered : settings.layout.Numbered first bins)
    (timeLe : time ≤ first * settings.layout.coarseWidth) (since : engine.Since time) :
    (∀ lanes, (form settings.layout first bins engine.lanes).1 = some lanes →
        lanes.Holds fun hit => time ≤ hit.time.toNat) ∧
      ∀ readout ∈ Product.readouts (form settings.layout first bins engine.lanes).2,
        readout.isNeutron = true → time ≤ readout.time.toNat := by
  cases clustered : engine.lanes with
  | none =>
      refine ⟨fun lanes same => by contradiction, ?_⟩
      intro readout member _
      simp only [form, Product.readouts, List.map_map] at member
      obtain ⟨origin, inBins, rfl⟩ := List.mem_map.mp member
      obtain ⟨bin, binMember, inBin⟩ := List.mem_flatten.mp inBins
      obtain ⟨index, inside, found⟩ := List.mem_iff_getElem.mp binMember
      have number := numbered index bin (by rw [List.getElem?_eq_getElem inside, found])
        origin inBin
      have after : first ≤ settings.layout.coarseNumber origin.time.toNat := by
        change first ≤ origin.coarseNumber settings.layout
        omega
      exact Nat.le_trans timeLe (settings.layout.le_coarseNumber_iff.mp after)
  | some lanes =>
      obtain ⟨resting, enough, spanLe, placed⟩ := standing.ready valid clustered numbered
      obtain ⟨stillOpen, produced⟩ := standing.holds_form valid numbered since
        fun readout member => Nat.le_trans timeLe (placed.bounds member).1
      rw [clustered] at stillOpen produced
      have proper : ∀ product ∈ (form settings.layout first bins (some lanes)).2, product.Proper :=
        Lanes.proper_stream resting enough spanLe placed (by simp)
      refine ⟨stillOpen, ?_⟩
      intro readout member neutron
      obtain ⟨product, productMember, rfl⟩ := List.mem_map.mp member
      exact le_time_readout (proper product productMember) (produced product productMember)
        neutron

section

variable {later : Engine} {products : List Product} {bins : Nat}
  (released : Released engine later products bins)
include released

theorem since_released {time : Nat} (timeLe : time ≤ engine.ring.base)
    (since : engine.Since time) :
    later.Since time ∧ ∀ readout ∈ Product.readouts products,
      readout.isNeutron = true → time ≤ readout.time.toNat := by
  have numbered := standing.sound.numbered released.moved.bins_le
  have formed := released.formed
  rw [standing.sound.base] at timeLe
  rw [standing.laidOut] at numbered formed timeLe
  obtain ⟨stillOpen, produced⟩ := since_form valid standing numbered timeLe since
  rw [← formed] at stillOpen produced
  exact ⟨stillOpen, produced⟩

/-- Unless nothing is released, what is open afterwards starts in or after the
first bin. -/
theorem late_released :
    (products = [] ∧ later.lanes = engine.lanes) ∨ later.Since engine.ring.base := by
  have numbered := standing.sound.numbered released.moved.bins_le
  have formed := released.formed
  rw [standing.laidOut] at numbered formed
  cases bins with
  | zero =>
      obtain ⟨lanes, none⟩ := Prod.mk.inj (formed.trans (form_nil _ _ _))
      exact .inl ⟨none, lanes⟩
  | succ bins =>
      right
      intro after found
      cases clustered : engine.lanes with
      | none =>
          rw [clustered] at formed
          obtain ⟨lanes, -⟩ := Prod.mk.inj formed
          rw [found] at lanes
          contradiction
      | some lanes =>
          obtain ⟨resting, enough, spanLe, placed⟩ := standing.ready valid clustered numbered
          rw [clustered] at formed
          obtain ⟨same, -⟩ := Prod.mk.inj formed
          rw [found] at same
          obtain rfl := Option.some.inj same
          rw [standing.sound.base, standing.laidOut]
          apply Lanes.late_stream resting enough spanLe placed
          simp [TimeRing.block, List.range'_succ]

end

/-- A block that keeps its pulse misses nothing if no open cluster starts
before the pulse. -/
theorem covers_of_since (since : ∀ start, engine.router.pulse = some start →
      0 < engine.router.pending → start ≤ engine.ring.base → engine.Since start) (step : Step) :
    engine.Covers step := by
  cases step with
  | ingest readouts earliest => rfl
  | idle => rfl
  | flush => rfl
  | process =>
      obtain ⟨later, products, bins, released, processed⟩ :=
        exists_process standing.sound standing.cleared
      rw [Covers, missed, processed]
      apply Router.missed_eq_zero
      intro start inUse pending startLe
      exact (since_released valid standing released startLe (since start inUse pending startLe)).2
  | drain =>
      obtain ⟨later, products, bins, released, drained⟩ :=
        exists_drain standing.sound standing.cleared
      rw [Covers, missed, drained]
      apply Router.missed_eq_zero
      intro start inUse pending startLe readout member neutron
      obtain ⟨stillOpen, produced⟩ :=
        since_released valid standing released startLe (since start inUse pending startLe)
      have standingLater := standing.released valid released
      have onward := released.moved.base_le standing.sound
      change readout ∈ Product.readouts (products ++ later.closeOpen.2) at member
      rw [Product.readouts_append] at member
      rcases List.mem_append.mp member with early | carried
      · exact produced readout early neutron
      · rw [products_closeOpen standingLater.sound standingLater.cleared,
          standingLater.laidOut] at carried
        have startLater : start ≤ later.ring.start * settings.layout.coarseWidth := by
          rw [← standingLater.laidOut, ← standingLater.sound.base]
          exact Nat.le_trans startLe onward
        exact (since_form valid standingLater (settings.layout.numbered_quiet _) startLater
          stillOpen).2 readout carried neutron

end

/-- While neutrons are pending, neither the bins nor the open clusters start
before the pulse. -/
def Leads (engine : Engine) : Prop :=
  0 < engine.router.pending → ∀ start, engine.router.pulse = some start →
    start ≤ engine.ring.base ∧ engine.Since start

/-- The step moves the bins to before the pulse while neutrons are pending. -/
def SetsBack (engine : Engine) : Step → Prop
  | .ingest readouts earliest =>
    readouts ≠ [] ∧ engine.jumps earliest ∧ 0 < engine.router.pending ∧
      engine.router.pulse.any fun start => engine.ring.layout.coarseFloor earliest < start
  | _ => False

instance (engine : Engine) (step : Step) : Decidable (engine.SetsBack step) :=
  match step with
  | .ingest readouts earliest => inferInstanceAs (Decidable (readouts ≠ [] ∧
      engine.jumps earliest ∧ 0 < engine.router.pending ∧
      engine.router.pulse.any fun start => engine.ring.layout.coarseFloor earliest < start))
  | .idle | .process | .flush | .drain => .isFalse id

theorem leads_ingest (leads : engine.Leads) {readouts : List Readout} {earliest : Nat}
    (onward : ¬engine.SetsBack (.ingest readouts earliest)) :
    (engine.ingest readouts earliest).Leads := by
  by_cases some : readouts = []
  · rw [ingest, if_pos (by simpa using some)]
    exact leads
  · rw [ingest_eq engine some]
    by_cases jumps : engine.jumps earliest
    · rw [awaited_of_jumps engine jumps]
      let awake : Engine := { engine with countdown := engine.idleTicks }
      have base : (awake.jump earliest).ring.base = engine.ring.layout.coarseFloor earliest :=
        base_jump (show awake.jumps earliest from jumps)
      intro pending start inUse
      -- The lanes are cleared, so only the new base could be before the pulse.
      constructor
      · change start ≤ (awake.jump earliest).ring.base
        rw [base]
        apply Nat.le_of_not_lt
        intro before
        have known : engine.router.pulse = Option.some start := inUse
        exact onward ⟨some, jumps, pending, by rw [known]; simpa using before⟩
      · intro lanes found cluster member
        obtain ⟨before, _, rfl⟩ := Option.map_eq_some_iff.mp found
        rw [Lanes.openClusters_clear] at member
        contradiction
    · rw [awaited_of_not_jumps engine jumps]
      exact leads

theorem leads_process (valid : settings.Valid) (standing : Standing settings engine)
    (passing : settings.detector.frameMode = false) (leads : engine.Leads) :
    engine.process.plan.result.Leads := by
  obtain ⟨later, products, bins, released, processed⟩ :=
    exists_process standing.sound standing.cleared
  have router : later.router = engine.router := by rw [released.rest]
  have onward := released.moved.base_le standing.sound
  have late := late_released valid standing released
  rw [processed, tell, Plan.result_map, router]
  intro pending start inUse
  -- Without products the pulse is as it was; otherwise it is not after the base of the block.
  by_cases none : products = []
  · have same : engine.router.route engine.ring.base (Product.readouts products) =
        .done engine.router := by
      rw [none]
      rfl
    rw [same] at pending inUse
    obtain ⟨startLe, since⟩ := leads pending start inUse
    refine ⟨Nat.le_trans startLe onward, ?_⟩
    rcases late with ⟨-, lanes⟩ | late
    · intro after found
      exact since after (lanes ▸ found)
    · exact late.mono startLe
  · have routed := Router.routed_route
      (show engine.router.detector.frameMode = false by rwa [standing.detector])
      engine.ring.base (Product.readouts products)
    have startLe : start ≤ engine.ring.base :=
      routed.pulse_le (by simpa [Product.readouts] using none) start inUse
    refine ⟨Nat.le_trans startLe onward, ?_⟩
    rcases late with ⟨nothing, -⟩ | late
    · exact absurd nothing none
    · exact late.mono startLe

theorem leads_flush (engine : Engine) : engine.flush.result.Leads := by
  intro pending
  rw [flush, Plan.result_map] at pending
  exact absurd pending (Nat.lt_irrefl 0)

/-- A step that does not set the bins back leaves the pulse in the lead. -/
theorem leads_perform (valid : settings.Valid) (passing : settings.detector.frameMode = false)
    {progress : Progress} (standing : Standing settings progress.engine)
    (leads : progress.engine.Leads) {step : Step} (onward : ¬progress.engine.SetsBack step) :
    (progress.perform step).engine.Leads := by
  cases step with
  | ingest readouts earliest => exact leads_ingest leads onward
  | idle => exact leads
  | process => exact leads_process valid standing passing leads
  | flush => exact leads_flush progress.engine
  | drain =>
      simp only [Progress.perform, Progress.emit, drain, Plan.result_andThen]
      exact leads_flush _

theorem leads_follow (valid : settings.Valid) (passing : settings.detector.frameMode = false)
    {steps : List Step}
    (onward : Throughout (fun engine step => ¬engine.SetsBack step) (ofSettings settings) steps) :
    ((ofSettings settings).follow steps).engine.Leads ∧
      Throughout Covers (ofSettings settings) steps := by
  induction steps using List.reverseRecOn with
  | nil =>
      refine ⟨fun pending => absurd pending (Nat.lt_irrefl 0), ?_⟩
      intro index inside
      exact absurd inside (Nat.not_lt_zero index)
  | append_singleton steps step induction =>
      obtain ⟨onwardBefore, onwardLast⟩ := throughout_concat.mp onward
      obtain ⟨leads, covers⟩ := induction onwardBefore
      have standing := standing_follow valid steps
      rw [follow_concat]
      constructor
      · exact leads_perform valid passing standing leads onwardLast
      · refine throughout_concat.mpr ⟨covers, ?_⟩
        exact covers_of_since valid standing
          (fun start inUse pending _ => (leads pending start inUse).2) step

theorem covers_passing (valid : settings.Valid) (disabled : settings.clustering.enabled = false)
    (steps : List Step) : Throughout Covers (ofSettings settings) steps := by
  intro index _
  have standing := standing_follow valid (steps.take index)
  apply covers_of_since valid standing
  intro start _ _ _ lanes found
  have clustered := standing.clustered
  rw [found, disabled] at clustered
  contradiction

/-- Whatever steps an engine performs, the sink is told of every neutron with a
pixel, in order and with its time, and only readouts that have no event are
errors, if and only if no block keeps a pulse that is after one of its neutrons.
This is so if readouts are not clustered, and if no batch sets the bins back to
before the pulse while neutrons are pending. -/
theorem measured_iff_covers (valid : settings.Valid)
    (passing : settings.detector.frameMode = false) (steps : List Step) :
    let final := (ofSettings settings).follow steps
    (final.Measured settings.detector ↔ Throughout Covers (ofSettings settings) steps) ∧
      (settings.clustering.enabled = false ∨
          Throughout (fun engine step => ¬engine.SetsBack step) (ofSettings settings) steps →
        final.Measured settings.detector) := by
  intro final
  obtain ⟨-, measured_iff⟩ := measured_follow valid passing steps
  refine ⟨measured_iff, ?_⟩
  rintro (disabled | onward)
  · exact measured_iff.mpr (covers_passing valid disabled steps)
  · exact measured_iff.mpr (leads_follow valid passing onward).2

/-- A cluster that is carried over, and a batch that sets the bins back when no
neutron is pending any more. -/
theorem carried_cluster_measured :
    let settings : Settings :=
      { detector := { eventLag := 0, idleMillis := 10 }
        clustering := { lanes := 1, limits := { span := 16, gap := 16 }, slots := 16 }
        layout := { coarseBits := 2, fineWidthBits := 4, fineBits := 1 } }
    let steps : List Step :=
      [.ingest [.neutron 1000 5 5 0, .neutron 1020 7 7 0] 1000, .idle, .process,
        .ingest [.neutron 1030 5 5 0] 1030, .idle, .process, .flush,
        .ingest [.neutron 990 7 7 0, .marker .veto 991 0] 990, .idle, .process, .drain]
    let final := (ofSettings settings).follow steps
    settings.Valid ∧ settings.detector.frameMode = false ∧
      Throughout (fun engine step => ¬engine.SetsBack step) (ofSettings settings) steps ∧
      final.readouts.map (fun readout => readout.time) = [1000, 1020, 1030, 991, 990] ∧
      final.Measured settings.detector := by
  intro settings steps final
  have valid : settings.Valid := by decide
  have onward : Throughout (fun engine step => ¬engine.SetsBack step) (ofSettings settings)
      steps := by decide +kernel
  have released : final.readouts.map (fun readout => readout.time) =
      [1000, 1020, 1030, 991, 990] := by decide +kernel
  have measured := (measured_iff_covers valid rfl steps).2 (Or.inr onward)
  exact ⟨valid, rfl, onward, released, measured⟩

/-- A batch that sets the bins back while a neutron is pending, and a cluster
that is carried over a bin without output.  The bins have reached the old pulse
again when the cluster is released, so the pulse is kept although it is after
the neutron. -/
theorem set_back_misses_neutron :
    let settings : Settings :=
      { detector := { eventLag := 0, idleMillis := 10 }
        clustering := { lanes := 1, limits := { span := 16, gap := 16 }, slots := 16 }
        layout := { coarseBits := 2, fineWidthBits := 4, fineBits := 1 } }
    let steps : List Step :=
      [.ingest [.neutron 1000 5 5 0] 1000, .idle, .process,
        .ingest [.neutron 990 7 7 0] 990, .idle, .process, .drain]
    let final := (ofSettings settings).follow steps
    settings.Valid ∧ settings.detector.frameMode = false ∧
      final.calls = [.pulse 992, .neutron 8 5125, .flush] ∧
      final.readouts.map (fun readout => readout.time) = [1000, 990] ∧
      ¬final.Measured settings.detector := by
  intro settings steps final
  have calls : final.calls = [.pulse 992, .neutron 8 5125, .flush] := by decide +kernel
  refine ⟨by decide, rfl, calls, by decide +kernel, ?_⟩
  intro measured
  have errors := measured.errors
  revert errors
  decide +kernel

end Engine

end EventFormation
