import EventFormation.Proofs.FineBins
import EventFormation.Proofs.LaneHits
import EventFormation.Proofs.Schedule

/-!
# Engines in use

Whatever steps an engine performs, resets of its bins and drains included, the
bins stay sound and the lanes are at rest between the steps.
-/

namespace EventFormation

theorem Layout.Valid.fineCount_lt {layout : Layout} (valid : layout.Valid) :
    layout.fineCount < clockEnd := by
  have bits : layout.fineBits ≤ 62 := by
    have window := valid.2
    unfold windowBits at window
    omega
  have most : 2 ^ layout.fineBits ≤ 2 ^ 62 := Nat.pow_le_pow_right (by decide) bits
  rw [fineCount, Nat.one_shiftLeft]
  exact Nat.lt_of_le_of_lt most (by decide)

theorem Settings.Valid.clustering {settings : Settings} (valid : settings.Valid)
    (enabled : settings.clustering.enabled = true) :
    0 < settings.clustering.lanes ∧
      settings.clustering.limits.span ≤ settings.layout.fineWidth ∧
      2 * settings.clustering.lanes ≤ settings.layout.fineCount := by
  have fits := valid.layout.fineCount_lt
  have unbroken : clusteringFault? settings.clustering settings.layout = none := by
    have layout := (layoutFault?_eq_none_iff settings.layout).mpr valid.layout
    unfold Settings.Valid fault? at valid
    rw [layout] at valid
    dsimp only at valid
    split at valid
    · contradiction
    · exact valid
  unfold clusteringFault? at unbroken
  split_ifs at unbroken with laneless slotless flat long few
  have needed := Nat.le_of_not_lt few
  unfold fineBinsFor saturate at needed
  exact ⟨Nat.pos_of_ne_zero laneless, Nat.le_of_not_lt long, by omega⟩

theorem Settings.Valid.ready {settings : Settings} (valid : settings.Valid)
    (enabled : settings.clustering.enabled = true) {first : Nat} {bins : List (List Readout)}
    (numbered : settings.layout.Numbered first bins) :
    (∀ block ∈ bins.map settings.layout.fineBlock,
        2 * settings.clustering.lanes ≤ block.length) ∧
      settings.clustering.limits.span ≤ settings.layout.fineWidth ∧
      Placed settings.layout.fineWidth (first * settings.layout.coarseWidth)
        (bins.map settings.layout.fineBlock).flatten := by
  obtain ⟨-, spanLe, enough⟩ := valid.clustering enabled
  refine ⟨?_, spanLe, numbered.placed⟩
  intro block member
  obtain ⟨bin, -, rfl⟩ := List.mem_map.mp member
  rwa [Layout.length_fineBlock]

theorem Router.routing_route (router : Router) (base : Nat) (readouts : List Readout) :
    Routing router (router.route base readouts) := by
  unfold route openBlock
  split
  · exact Routing.done rfl
  · split
    · exact (routing_startPulse router _).andThen fun after => routing_routeAll after readouts
    · exact routing_routeAll router readouts

namespace Engine

variable {engine : Engine}

/-- What is true of an engine between steps. -/
structure Standing (settings : Settings) (engine : Engine) : Prop where
  sound : engine.ring.Sound
  cleared : engine.ring.Cleared
  laidOut : engine.ring.layout = settings.layout
  detector : engine.router.detector = settings.detector
  clustered : engine.lanes.isSome = settings.clustering.enabled
  resting : ∀ lanes, engine.lanes = some lanes →
    lanes.Resting settings.clustering.limits ∧ lanes.count = settings.clustering.lanes

namespace Standing

variable {settings : Settings} (valid : settings.Valid)

include valid in
theorem start : Standing settings (ofSettings settings) := by
  constructor
  · exact TimeRing.sound_empty valid.layout
  · rfl
  · rfl
  · rfl
  · simp only [ofSettings]
    split
    · rename_i enabled
      exact enabled.symm
    · rename_i disabled
      simpa using disabled
  · intro lanes same
    simp only [ofSettings] at same
    split at same
    · rename_i enabled
      obtain rfl := Option.some.inj same
      obtain ⟨inhabited, -, -⟩ := valid.clustering enabled
      exact ⟨Lanes.resting_ofCount inhabited _ _, List.length_replicate⟩
    · contradiction

variable (standing : Standing settings engine)
include standing

theorem congr {other : Engine} (ring : other.ring = engine.ring)
    (lanes : other.lanes = engine.lanes)
    (detector : other.router.detector = engine.router.detector) : Standing settings other := by
  constructor
  · rw [ring]
    exact standing.sound
  · rw [ring]
    exact standing.cleared
  · rw [ring]
    exact standing.laidOut
  · rw [detector]
    exact standing.detector
  · rw [lanes]
    exact standing.clustered
  · rw [lanes]
    exact standing.resting

theorem insert (readouts : List Readout) : Standing settings (engine.fileReadouts readouts) :=
  { standing with sound := TimeRing.sound_insert standing.sound readouts }

theorem jump {earliest : Nat} (jumps : engine.jumps earliest) :
    Standing settings (engine.jump earliest) := by
  have ring := ring_jump (by rw [jumps, Bool.or_true])
  constructor
  · rw [ring]
    exact TimeRing.sound_anchor standing.sound _
  · rw [ring]
    exact TimeRing.cleared_anchor standing.sound _
  · rw [ring]
    exact standing.laidOut
  · exact standing.detector
  · exact Option.isSome_map.trans standing.clustered
  · intro lanes same
    obtain ⟨before, found, rfl⟩ := Option.map_eq_some_iff.mp same
    obtain ⟨resting, count⟩ := standing.resting before found
    exact ⟨Lanes.resting_clear resting, (Lanes.count_clear before).trans count⟩

theorem awaited (earliest : Nat) : Standing settings (engine.awaited earliest) := by
  by_cases jumps : engine.jumps earliest
  · rw [awaited_of_jumps engine jumps]
    have awake : Standing settings { engine with countdown := engine.idleTicks } :=
      standing.congr rfl rfl rfl
    exact awake.jump jumps
  · rw [awaited_of_not_jumps engine jumps]
    exact standing.congr rfl rfl rfl

theorem ingest (readouts : List Readout) (earliest : Nat) :
    Standing settings (engine.ingest readouts earliest) := by
  by_cases some : readouts = []
  · rw [Engine.ingest, if_pos (by simpa using some)]
    exact standing
  · rw [ingest_eq engine some]
    exact (standing.awaited earliest).insert readouts

theorem tell (base : Nat) (products : List Product) :
    Standing settings (engine.tell base products).result := by
  rw [result_tell]
  exact standing.congr rfl rfl (Router.routing_route _ _ _).detector

theorem flush : Standing settings engine.flush.result := by
  rw [result_flush]
  exact standing.congr rfl rfl rfl

include valid

theorem ready {lanes : Lanes} (clustered : engine.lanes = some lanes) {first : Nat}
    {bins : List (List Readout)} (numbered : settings.layout.Numbered first bins) :
    lanes.Resting settings.clustering.limits ∧
      (∀ block ∈ bins.map settings.layout.fineBlock, 2 * lanes.count ≤ block.length) ∧
      settings.clustering.limits.span ≤ settings.layout.fineWidth ∧
      Placed settings.layout.fineWidth (first * settings.layout.coarseWidth)
        (bins.map settings.layout.fineBlock).flatten := by
  obtain ⟨resting, count⟩ := standing.resting lanes clustered
  have enabled : settings.clustering.enabled = true := by
    rw [← standing.clustered, clustered]
    rfl
  rw [count]
  exact ⟨resting, valid.ready enabled numbered⟩

theorem form {first : Nat} {bins : List (List Readout)}
    (numbered : settings.layout.Numbered first bins) {after : Option Lanes}
    (formed : after = (Engine.form settings.layout first bins engine.lanes).1) :
    after.isSome = settings.clustering.enabled ∧ ∀ lanes, after = some lanes →
      lanes.Resting settings.clustering.limits ∧ lanes.count = settings.clustering.lanes := by
  have clustered := standing.clustered
  cases found : engine.lanes with
  | none =>
      rw [found] at formed clustered
      rw [formed]
      exact ⟨clustered, fun lanes same => by contradiction⟩
  | some lanes =>
      rw [found] at formed clustered
      obtain ⟨resting, enough, spanLe, placed⟩ := standing.ready valid found numbered
      obtain ⟨-, count⟩ := standing.resting lanes found
      rw [formed]
      refine ⟨clustered, ?_⟩
      intro later same
      obtain rfl := Option.some.inj same
      obtain ⟨restingAfter, countAfter⟩ := Lanes.resting_stream resting enough spanLe placed
      exact ⟨restingAfter, countAfter.trans count⟩

/-- A property of the hits that are open and of all neutrons of the bins is one of
the hits that are put out and left open. -/
theorem holds_form {first : Nat} {bins : List (List Readout)}
    (numbered : settings.layout.Numbered first bins) {property : Readout → Prop}
    (holds : ∀ lanes, engine.lanes = some lanes → lanes.Holds property)
    (fresh : ∀ readout ∈ neutrons (bins.map settings.layout.fineBlock).flatten.flatten,
      property readout) :
    (∀ lanes, (Engine.form settings.layout first bins engine.lanes).1 = some lanes →
        lanes.Holds property) ∧
      ∀ product ∈ (Engine.form settings.layout first bins engine.lanes).2,
        product.Holds property := by
  cases clustered : engine.lanes with
  | none =>
      refine ⟨fun lanes same => by contradiction, ?_⟩
      intro product member
      obtain ⟨readout, _, rfl⟩ := List.mem_map.mp member
      trivial
  | some lanes =>
      obtain ⟨resting, enough, spanLe, placed⟩ := standing.ready valid clustered numbered
      obtain ⟨stillOpen, produced⟩ :=
        Lanes.holds_stream resting enough spanLe placed (holds lanes clustered) fresh
      refine ⟨?_, produced⟩
      intro later same
      obtain rfl := Option.some.inj same
      exact stillOpen

theorem released {later : Engine} {products : List Product} {bins : Nat}
    (released : Released engine later products bins) : Standing settings later := by
  have numbered := standing.sound.numbered released.moved.bins_le
  have formed := congrArg Prod.fst released.formed
  have router : later.router = engine.router := by rw [released.rest]
  rw [standing.laidOut] at numbered formed
  obtain ⟨clustered, resting⟩ := standing.form valid numbered formed
  constructor
  · exact released.moved.sound
  · exact released.moved.cleared standing.cleared
  · exact released.moved.layout.trans standing.laidOut
  · rw [router]
    exact standing.detector
  · exact clustered
  · exact resting

theorem closeOpen : Standing settings engine.closeOpen.1 := by
  have formed := standing.form valid (settings.layout.numbered_quiet engine.ring.start) rfl
  rw [closeOpen_eq standing.sound standing.cleared]
  constructor
  · exact standing.sound
  · exact standing.cleared
  · exact standing.laidOut
  · exact standing.detector
  · rw [standing.laidOut]
    exact Option.isSome_map.trans formed.1
  · intro lanes same
    rw [standing.laidOut] at same
    obtain ⟨before, found, rfl⟩ := Option.map_eq_some_iff.mp same
    obtain ⟨resting, count⟩ := formed.2 before found
    exact ⟨Lanes.resting_clear resting, (Lanes.count_clear before).trans count⟩

end Standing

theorem standing_perform {settings : Settings} (valid : settings.Valid) {progress : Progress}
    (standing : Standing settings progress.engine) (step : Step) :
    Standing settings (progress.perform step).engine := by
  cases step with
  | ingest readouts earliest => exact standing.ingest readouts earliest
  | idle => exact standing.congr rfl rfl rfl
  | process =>
      obtain ⟨later, products, bins, released, processed⟩ :=
        exists_process standing.sound standing.cleared
      have told := (standing.released valid released).tell progress.engine.ring.base products
      simp only [Progress.perform, Progress.emit, processed]
      exact told
  | flush => exact standing.flush
  | drain =>
      obtain ⟨later, products, bins, released, drained⟩ :=
        exists_drain standing.sound standing.cleared
      have closed := (standing.released valid released).closeOpen valid
      have told := (closed.tell progress.engine.ring.base (products ++ later.closeOpen.2)).flush
      simp only [Progress.perform, Progress.emit, drained, Plan.result_andThen]
      exact told

theorem standing_follow {settings : Settings} (valid : settings.Valid) (steps : List Step) :
    Standing settings ((ofSettings settings).follow steps).engine := by
  induction steps using List.reverseRecOn with
  | nil => exact Standing.start valid
  | append_singleton steps step induction =>
      rw [follow_concat]
      exact standing_perform valid induction step

/-- The condition holds at every step of a schedule, of the engine that is about
to perform the step. -/
def Throughout (condition : Engine → Step → Prop) (engine : Engine) (steps : List Step) : Prop :=
  ∀ index, (inside : index < steps.length) →
    condition (engine.follow (steps.take index)).engine steps[index]

instance (condition : Engine → Step → Prop) [∀ engine step, Decidable (condition engine step)]
    (engine : Engine) (steps : List Step) : Decidable (Throughout condition engine steps) :=
  inferInstanceAs (Decidable (∀ index, (inside : index < steps.length) →
    condition (engine.follow (steps.take index)).engine steps[index]))

theorem throughout_concat {condition : Engine → Step → Prop} {engine : Engine}
    {steps : List Step} {step : Step} : Throughout condition engine (steps ++ [step]) ↔
      Throughout condition engine steps ∧ condition (engine.follow steps).engine step := by
  constructor
  · intro holds
    constructor
    · intro index inside
      have early := holds index (by simp; omega)
      rwa [List.take_append_of_le_length (Nat.le_of_lt inside),
        List.getElem_append_left inside] at early
    · have last := holds steps.length (by simp)
      rwa [List.take_left, List.getElem_concat_length rfl] at last
  · rintro ⟨holds, last⟩ index inside
    by_cases early : index < steps.length
    · rw [List.take_append_of_le_length (Nat.le_of_lt early), List.getElem_append_left early]
      exact holds index early
    · obtain rfl : index = steps.length := by
        simp only [List.length_append, List.length_singleton] at inside
        omega
      rwa [List.take_left, List.getElem_concat_length rfl]

end Engine

end EventFormation
