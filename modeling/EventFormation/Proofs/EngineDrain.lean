import EventFormation.Proofs.EngineService
import EventFormation.Proofs.LaneClosing
import EventFormation.Proofs.RingLedger

/-!
# Draining an engine in service

Whatever has been asked of an engine, and whatever its sink refused, the clusters it
has open start in the last fine bin before the base.  So a drain, which releases every
bin and then closes what is open against one more bin without readouts, puts out every
cluster and leaves nothing behind.
-/

namespace EventFormation

namespace Engine

variable {settings : Settings} {engine left : Engine}

def openClusters (engine : Engine) : List Cluster :=
  (engine.lanes.map Lanes.openClusters).getD []

/-- Whatever is open starts in the last fine bin before the base. -/
def Trails (engine : Engine) : Prop :=
  ∀ lanes, engine.lanes = some lanes → lanes.Holds fun hit =>
    hit.time.toNat < engine.ring.base ∧
      engine.ring.base ≤ hit.time.toNat + engine.ring.layout.fineWidth

theorem trails_of_shut (shut : engine.openClusters = []) : engine.Trails := by
  intro lanes found cluster member
  rw [openClusters, found, Option.map_some, Option.getD_some] at shut
  rw [shut] at member
  contradiction

theorem openClusters_of_cleared {lanes : Option Lanes}
    (cleared : engine.lanes = lanes.map Lanes.clear) : engine.openClusters = [] := by
  rw [openClusters, cleared]
  cases lanes with
  | none => rfl
  | some lanes => exact lanes.openClusters_clear

theorem Trails.leftBy (trails : engine.Trails) (same : engine.LeftBy left) : left.Trails := by
  unfold Trails
  rw [same.ring, same.lanes]
  exact trails

section

variable (valid : settings.Valid) (standing : Standing settings engine) (trails : engine.Trails)
include valid standing trails

/-- What is open after a release starts in the last fine bin that went. -/
theorem Trails.released {products : List Product} {bins : Nat}
    (released : Released engine left products bins) : left.Trails := by
  have numbered := standing.sound.numbered released.moved.bins_le
  have formed := released.formed
  have base := released.moved.base_eq standing.sound
  rw [standing.laidOut] at numbered formed base
  intro after found
  cases bins with
  | zero =>
      obtain ⟨lanes, -⟩ := Prod.mk.inj (formed.trans (form_nil _ _ _))
      rw [base, Nat.mul_zero, Nat.add_zero, released.moved.layout]
      exact trails after (lanes ▸ found)
  | succ bins =>
      cases clustered : engine.lanes with
      | none =>
          rw [clustered] at formed
          obtain ⟨lanes, -⟩ := Prod.mk.inj formed
          rw [found] at lanes
          contradiction
      | some lanes =>
          obtain ⟨resting, enough, spanLe, placed⟩ := standing.ready valid clustered numbered
          have length : (engine.ring.block (bins + 1)).length = bins + 1 := by
            rw [TimeRing.block, List.length_map, List.length_range']
          have stop : engine.ring.start * settings.layout.coarseWidth +
              ((engine.ring.block (bins + 1)).map settings.layout.fineBlock).flatten.length *
                settings.layout.fineWidth = left.ring.base := by
            rw [length_flatten_fineBlocks, length, base, standing.sound.base, standing.laidOut,
              Nat.mul_comm (bins + 1)]
          rw [clustered] at formed
          obtain ⟨same, -⟩ := Prod.mk.inj formed
          rw [found] at same
          obtain rfl := Option.some.inj same
          have last := Lanes.last_stream resting enough spanLe placed
            (by simp [TimeRing.block, List.range'_succ])
          have before : lanes.Holds fun hit => hit.time.toNat < left.ring.base :=
            fun cluster member hit hitMember => Nat.lt_of_lt_of_le
              (trails lanes clustered cluster member hit hitMember).1
              (released.moved.base_le standing.sound)
          obtain ⟨past, -⟩ := Lanes.holds_stream resting enough spanLe placed before
            fun readout member => stop ▸ (placed.bounds member).2
          rw [stop] at last
          rw [released.moved.layout, standing.laidOut]
          intro cluster member hit hitMember
          exact ⟨past cluster member hit hitMember, last cluster member hit hitMember⟩

end

theorem trails_ingest (trails : engine.Trails) (readouts : List Readout) (earliest : Nat) :
    (engine.ingest readouts earliest).Trails := by
  by_cases some : readouts = []
  · rw [Engine.ingest, if_pos (by simpa using some)]
    exact trails
  · rw [ingest_eq engine some]
    by_cases jumps : engine.jumps earliest
    · rw [awaited_of_jumps engine jumps]
      exact trails_of_shut (openClusters_of_cleared rfl)
    · rw [awaited_of_not_jumps engine jumps]
      exact trails

theorem openClusters_drained (valid : settings.Valid) (standing : Standing settings engine) :
    engine.drained.openClusters = [] := by
  obtain ⟨bins, released⟩ := exists_released standing.sound standing.cleared
    engine.ring.layout.coarseCount engine.ring.layout.window
  have later := standing.released valid released
  apply openClusters_of_cleared
  rw [drained, closeOpen_eq later.sound later.cleared]

/-- What is true of an engine whatever has been asked of it, so that a drain leaves
nothing. -/
structure Drainable (settings : Settings) (engine : Engine) : Prop where
  standing : Standing settings engine
  trails : engine.Trails

theorem Drainable.leaves (valid : settings.Valid) (drainable : Drainable settings engine)
    (request : Request) : (engine.plan request).Leaves (Drainable settings) := by
  obtain ⟨standing, trails⟩ := drainable
  have kept : (engine.plan request).Leaves Trails := by
    cases request with
    | perform step =>
        cases step with
        | ingest readouts earliest => exact trails_ingest trails readouts earliest
        | idle => exact trails
        | process =>
            have released := released_due standing.sound standing.cleared
            exact engine.leaves_process.mono fun _ same =>
              (trails.released valid standing released).leftBy same
        | flush => exact engine.leaves_flush.mono fun _ same => trails.leftBy same
        | drain =>
            have shut := trails_of_shut (openClusters_drained valid standing)
            exact engine.leaves_drain.mono fun _ same => shut.leftBy same
    | setIdleTicks ticks => exact trails
    | count counts => exact trails
  refine ((leaves_standing valid standing request).and kept).mono ?_
  rintro left ⟨stillStanding, stillTrails⟩
  exact ⟨stillStanding, stillTrails⟩

variable {σ ε τ δ : Type}

end Engine

end EventFormation
