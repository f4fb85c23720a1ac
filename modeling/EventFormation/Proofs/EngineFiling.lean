import EventFormation.Proofs.EngineService

/-!
# Batches that are filed

The window is moved before a batch is filed, if it has to be.  So it always takes the
start of the batch in and nothing of the batch is before it.  What is after it is dropped
and counted, together with all that had to make way.
-/

namespace EventFormation

namespace TimeRing

variable {ring : TimeRing}

/-- Where the window ends: where the last bin of the ring starts. -/
def windowStop (ring : TimeRing) : Nat :=
  ring.base + (ring.layout.coarseCount - 1) * ring.layout.coarseWidth

section

variable (sound : ring.Sound)
include sound

theorem accepts_iff (time : Nat) :
    ring.accepts time ↔ ring.base ≤ time ∧ time < ring.windowStop := by
  have stop : ring.windowStop =
      (ring.start + (ring.layout.coarseCount - 1)) * ring.layout.coarseWidth := by
    rw [windowStop, Nat.add_mul, ← sound.base]
  rw [accepts, sound.inWindow_iff, sound.start_le_coarseNumber_iff, stop,
    Layout.coarseNumber_lt_iff]

/-- If nothing comes before the base, what is refused is what comes after the window. -/
theorem accepted_of_base_le {readouts : List Readout}
    (since : ∀ readout ∈ readouts, ring.base ≤ readout.time.toNat) :
    ring.accepted readouts =
      readouts.filter fun readout => readout.time.toNat < ring.windowStop := by
  refine List.filter_congr ?_
  intro readout member
  have window : inWindow ring.layout ring.base readout.time.toNat ↔
      ring.base ≤ readout.time.toNat ∧ readout.time.toNat < ring.windowStop :=
    accepts_iff sound readout.time.toNat
  rw [Bool.eq_iff_iff, window, decide_eq_true_iff]
  exact and_iff_right (since readout member)

theorem refused_of_base_le {readouts : List Readout}
    (since : ∀ readout ∈ readouts, ring.base ≤ readout.time.toNat) :
    readouts.length - (ring.accepted readouts).length =
      readouts.countP fun readout => ring.windowStop ≤ readout.time.toNat := by
  have parted := List.length_eq_countP_add_countP (l := readouts)
    fun readout => decide (readout.time.toNat < ring.windowStop)
  simp only [decide_eq_true_eq, Nat.not_lt] at parted
  rw [accepted_of_base_le sound since, ← List.countP_eq_length_filter]
  omega

theorem accepts_anchor (time : Nat) :
    (ring.anchor (ring.layout.coarseFloor time)).1.accepts time := by
  have two := sound.valid.two_le_coarseCount
  have start : (ring.anchor (ring.layout.coarseFloor time)).1.start =
      ring.layout.coarseNumber time := by
    rw [start_anchor, Layout.coarseFloor_eq, Layout.coarseNumber_mul]
  have layout : (ring.anchor (ring.layout.coarseFloor time)).1.layout = ring.layout := rfl
  rw [accepts, (sound_anchor sound _).inWindow_iff, start, layout]
  omega

end

end TimeRing

namespace Engine

variable {engine : Engine}

section

variable (sound : engine.ring.Sound) {earliest : Nat}
include sound

theorem awaited_of_accepts (inside : engine.ring.accepts earliest) :
    engine.awaited earliest = { engine with countdown := engine.idleTicks } := by
  refine awaited_of_not_jumps engine ?_
  rw [jumps_iff_not_accepts sound, not_not]
  exact inside

/-- All that is stored makes way for a batch that starts out of the window. -/
theorem awaited_of_not_accepts (outside : ¬engine.ring.accepts earliest) :
    let floor := engine.ring.layout.coarseFloor earliest
    (engine.awaited earliest).ring = (engine.ring.anchor floor).1 ∧
      (engine.awaited earliest).counts = { engine.counts with
        dropped := engine.counts.dropped + engine.ring.stored.length
        resets := engine.counts.resets + 1 } := by
  intro floor
  have jumps := (jumps_iff_not_accepts sound earliest).mpr outside
  have reset : engine.ring.reset floor = engine.ring.anchor floor := by
    refine TimeRing.reset_of_outside ?_
    rw [Bool.or_eq_true]
    exact Or.inr jumps
  rw [awaited_of_jumps engine jumps, jump]
  dsimp only
  rw [reset, TimeRing.dropped_anchor]
  exact ⟨rfl, rfl⟩

/-- What is kept when the window is moved for a batch, if it has to be. -/
structure Awaited (engine : Engine) (earliest : Nat) (left : Engine) : Prop where
  accepts : left.ring.accepts earliest
  slots : ∀ slot, TimeRing.content left.ring.coarse slot =
    if engine.ring.accepts earliest then TimeRing.content engine.ring.coarse slot else []
  stored : left.ring.stored = if engine.ring.accepts earliest then engine.ring.stored else []
  dropped : left.counts.dropped = engine.counts.dropped +
    if engine.ring.accepts earliest then 0 else engine.ring.stored.length
  resets : left.counts.resets =
    engine.counts.resets + if engine.ring.accepts earliest then 0 else 1
  kept : engine.ring.accepts earliest → left.lanes = engine.lanes ∧ left.router = engine.router

theorem awaits (earliest : Nat) : Awaited engine earliest (engine.awaited earliest) := by
  by_cases inside : engine.ring.accepts earliest
  · rw [awaited_of_accepts sound inside]
    constructor
    · exact inside
    · exact fun slot => (if_pos inside).symm
    · exact (if_pos inside).symm
    · rw [if_pos inside]
      rfl
    · rw [if_pos inside]
      rfl
    · exact fun _ => ⟨rfl, rfl⟩
  · obtain ⟨ring, counts⟩ := awaited_of_not_accepts sound inside
    constructor
    · rw [ring]
      exact TimeRing.accepts_anchor sound earliest
    · intro slot
      rw [ring, if_neg inside]
      exact TimeRing.content_replicate _ slot
    · rw [ring, if_neg inside, TimeRing.stored_anchor]
    · rw [counts, if_neg inside]
    · rw [counts, if_neg inside]
    · exact fun accepted => absurd accepted inside

end

/-- A batch that starts at a time has been filed. -/
structure Filed (engine : Engine) (readouts : List Readout) (earliest : Nat) (left : Engine) :
    Prop where
  accepts : left.ring.accepts earliest
  /-- What comes before the window ends is filed in its slot, in order, behind what was
  there if that is kept. -/
  slots : ∀ slot, TimeRing.content left.ring.coarse slot =
    (if engine.ring.accepts earliest then TimeRing.content engine.ring.coarse slot else []) ++
      (readouts.filter fun readout => readout.time.toNat < left.ring.windowStop).filter
        fun readout => left.ring.layout.coarseIndex readout.time.toNat = slot
  /-- What was there is kept as it is, or nothing of it is. -/
  stored : left.ring.stored.Perm
    ((if engine.ring.accepts earliest then engine.ring.stored else []) ++
      readouts.filter fun readout => readout.time.toNat < left.ring.windowStop)
  some : ∃ readout ∈ readouts, readout.time.toNat < left.ring.windowStop
  /-- What is dropped are the others, and all that was stored if the window is moved. -/
  dropped : left.counts.dropped = engine.counts.dropped +
    (readouts.countP fun readout => left.ring.windowStop ≤ readout.time.toNat) +
      if engine.ring.accepts earliest then 0 else engine.ring.stored.length
  resets : left.counts.resets =
    engine.counts.resets + if engine.ring.accepts earliest then 0 else 1
  kept : engine.ring.accepts earliest → left.lanes = engine.lanes ∧ left.router = engine.router

/-- Whatever was asked of an engine in service, and whatever a sink refused, a batch is
filed in a window that takes its earliest time in.  So only what is after the window is
dropped, and the count tells how much that is, with all that was stored if the window had
to be moved. -/
theorem ingest_files_batch {σ ε : Type} {settings : Settings} (valid : settings.Valid)
    (sink : Sink σ ε) (state : σ) (requests : List Request) {readouts : List Readout}
    {earliest : Nat} (timed : (Step.ingest readouts earliest).Timed) :
    let engine := ((ofSettings settings).serve sink state requests).1
    Filed engine readouts earliest (engine.ingest readouts earliest) := by
  intro engine
  have standing : Standing settings engine := standing_serve valid sink state requests
  clear_value engine
  obtain ⟨⟨first, member, start⟩, least⟩ := timed
  have sound := (standing.awaited earliest).sound
  have awaited := awaits standing.sound earliest
  rw [ingest_eq engine (List.ne_nil_of_mem member)]
  generalize engine.awaited earliest = middle at sound awaited
  have bounds := (TimeRing.accepts_iff sound earliest).mp awaited.accepts
  have since : ∀ readout ∈ readouts, middle.ring.base ≤ readout.time.toNat :=
    fun readout member => Nat.le_trans bounds.1 (least readout member)
  -- The window is that of the bins before the batch.
  have stop : (middle.fileReadouts readouts).ring.windowStop = middle.ring.windowStop := rfl
  constructor
  · exact awaited.accepts
  · intro slot
    rw [stop, ← awaited.slots slot, ← TimeRing.accepted_of_base_le sound since]
    exact TimeRing.content_insert sound readouts slot
  · rw [stop, ← awaited.stored, ← TimeRing.accepted_of_base_le sound since]
    exact (TimeRing.stored_insert sound readouts).trans List.perm_append_comm
  · exact ⟨first, member, start.symm ▸ bounds.2⟩
  · rw [dropped_fileReadouts, awaited.dropped, TimeRing.refused_of_base_le sound since, stop]
    omega
  · exact awaited.resets
  · exact awaited.kept

/-- A batch after the window of what is stored, with two readouts after its own. -/
theorem late_ingest_files_batch :
    let settings : Settings :=
      { clustering := { lanes := 2, limits := { span := 16 } }
        layout := { coarseBits := 2, fineWidthBits := 4, fineBits := 2 } }
    let requests : List Request := [.perform (.ingest [.neutron 70 1 1 1] 70)]
    let taken : List Readout := [.neutron 500 2 2 1, .neutron 450 3 3 1]
    let readouts := .neutron 700 4 4 1 :: taken ++ [.neutron 640 5 5 1]
    let sink := Recording.sink fun _ => false
    let engine := ((ofSettings settings).serve sink {} requests).1
    let left := engine.ingest readouts 450
    settings.Valid ∧ (Step.ingest readouts 450).Timed ∧ ¬engine.ring.accepts 450 ∧
      left.ring.windowStop = 640 ∧ TimeRing.content left.ring.coarse 3 = taken ∧
      engine.counts.dropped = 0 ∧ left.counts.dropped = 3 ∧ Filed engine readouts 450 left := by
  intro settings requests taken readouts sink engine left
  have valid : settings.Valid := by decide
  have timed : (Step.ingest readouts 450).Timed := by decide
  have filed := ingest_files_batch valid sink {} requests timed
  refine ⟨valid, timed, ?_, ?_, ?_, ?_, ?_, filed⟩
  · decide +kernel
  · decide +kernel
  · decide +kernel
  · decide +kernel
  · decide +kernel

end Engine

end EventFormation
