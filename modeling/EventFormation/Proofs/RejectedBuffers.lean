import EventFormation.Proofs.EngineBacklog
import EventFormation.Proofs.PacketSequence
import EventFormation.Proofs.SessionDump

/-!
# Rejected buffers

A session that has processed a block has nothing left to release before more readouts
come or the wait for them is over.  A buffer that the reader rejects brings no readouts
and does not wake the engine.  So the block after it is empty, and nothing is left of it
but that it has been counted.
-/

namespace EventFormation

theorem PacketReader.read_congr {reader other : PacketReader}
    (expected : other.expected = reader.expected) (buffer : Bytes) :
    other.read buffer = reader.read buffer := by
  have same (readouts : List Readout) :
      ({ reader with readouts } : PacketReader).read buffer = reader.read buffer := rfl
  rw [← same other.readouts, ← expected]

/-- A dump without a split interval never moves on by itself. -/
theorem DumpSeries.checkRotate_of_unsplit (creates : String → Bool) {series : DumpSeries}
    (unsplit : series.split = none) :
    (archive creates).checkRotate series = (series, none) := by
  have never : series.checkRotate creates = (series, .ok false) := by
    simp [checkRotate, due, unsplit]
  simp only [archive, never]

namespace Engine

variable {settings : Settings} {engine : Engine}

/-- An engine in service whose occupied bins are the lag and one bin at most. -/
structure CaughtUp (settings : Settings) (engine : Engine) : Prop where
  serving : Serving settings engine
  near : engine.ring.span ≤ engine.lag + engine.ring.layout.coarseWidth

theorem CaughtUp.process_eq (caughtUp : CaughtUp settings engine) (awake : engine.countdown ≠ 0) :
    engine.process = { products := [], plan := .done engine } :=
  process_of_blockSpan_eq_zero (blockSpan_of_awake (Nat.not_lt.mpr caughtUp.near) awake)

theorem CaughtUp.surplus (valid : settings.Valid) (caughtUp : CaughtUp settings engine)
    (extra : EngineCounts) : CaughtUp settings (engine.surplus extra) :=
  ⟨caughtUp.serving.leaves valid (.count _), caughtUp.near⟩

theorem Serving.caughtUp {σ ε : Type} (valid : settings.Valid) (serving : Serving settings engine)
    (consumer : Sink σ ε) (answers : σ) :
    CaughtUp settings (engine.process.plan.run consumer answers).1 := by
  have after := (serving.leaves valid (.perform .process)).run consumer answers
  obtain ⟨moved, -⟩ := serving.process consumer answers
  have caught := span_after_due serving moved
  constructor
  · exact after
  · have lag : (engine.process.plan.run consumer answers).1.lag = engine.lag :=
      after.lag.trans serving.lag.symm
    rw [lag, moved.layout]
    exact caught

end Engine

namespace Session

variable {σ δ ε φ : Type} {settings : Settings}

theorem serving_takeBuffer (valid : settings.Valid) {session : Session σ δ}
    (serving : Engine.Serving settings session.engine) (buffer : Bytes) :
    Engine.Serving settings (session.takeBuffer buffer).engine := by
  unfold takeBuffer
  rcases session.reader.read buffer with ⟨reader, report⟩
  cases report with
  | error fault => exact serving.leaves valid (.count _)
  | ok summary =>
      let recorded := (session.engine.recordPacket buffer.length).recordLosses summary
      have counted : Engine.Serving settings recorded :=
        serving.leaves valid (.count recorded.counts)
      dsimp only
      split
      · exact counted.leaves valid (.perform (.ingest reader.readouts summary.earliest))
      · exact counted

theorem serving_takeArrival (valid : settings.Valid) {session : Session σ δ}
    (serving : Engine.Serving settings session.engine) (arrival : Arrival) :
    Engine.Serving settings (session.takeArrival arrival).engine := by
  cases arrival with
  | buffer bytes => exact serving_takeBuffer valid serving bytes
  | quiet => exact serving.leaves valid (.perform .idle)

section

variable {consumer : Sink σ ε} {archive : Archive δ φ} {overflows : Nat}

theorem engine_of_processBlock {session last : Session σ δ}
    (done : session.processBlock consumer archive = (last, none)) :
    last.engine = (session.engine.process.plan.run consumer session.sink).1 := by
  obtain ⟨kept, block, checked⟩ := Outcome.andThen_eq_none done
  obtain ⟨told, performed, keeping⟩ := Outcome.andThen_eq_none block
  obtain ⟨ran, -⟩ := perform_done performed
  have engine : kept.engine = told.engine := by
    rw [← engine_keep archive told session.engine.process.readouts, keeping]
  rw [(withDump_done checked).1, engine, ran]

/-- A session that has been fed anything has caught up. -/
theorem caughtUp_feedArrivals (valid : settings.Valid) {session last : Session σ δ}
    (serving : Engine.Serving settings session.engine) {arrivals : List Arrival}
    (used : arrivals ≠ [])
    (fed : session.feedArrivals consumer archive false overflows arrivals = (last, none)) :
    Engine.CaughtUp settings last.engine := by
  induction arrivals generalizing session with
  | nil => exact absurd rfl used
  | cons arrival rest induction =>
      obtain ⟨next, done, later⟩ := Outcome.andThen_eq_none fed
      rw [feedArrival_eq] at done
      have caughtUp : Engine.CaughtUp settings next.engine := by
        rw [engine_of_processBlock done]
        exact (serving_takeArrival valid serving arrival).caughtUp valid consumer _
      cases rest with
      | nil =>
          obtain rfl : next = last := congrArg Prod.fst later
          exact caughtUp
      | cons second others =>
          exact induction caughtUp.serving (List.cons_ne_nil second others) later

/-- If nothing can be released, and the dump has no reason to move on, processing a block
changes nothing. -/
theorem processBlock_of_idle {session : Session σ δ}
    (idle : session.engine.process = { products := [], plan := .done session.engine })
    (still : ∀ dump, session.dump = some dump → archive.checkRotate dump = (dump, none)) :
    session.processBlock consumer archive = (session, none) := by
  have unchanged : (session.withDump archive.checkRotate : Outcome σ δ ε φ) = (session, none) := by
    unfold withDump
    cases dumped : session.dump with
    | none => rfl
    | some dump =>
        simp only [still dump dumped, ← dumped]
        rfl
  unfold processBlock
  rw [idle]
  exact unchanged

end

section

variable (session : Session σ δ) (readouts : List Readout) (extra : EngineCounts)

theorem takeBuffer_surplus (buffer : Bytes) :
    (session.surplus { session.reader with readouts } extra).takeBuffer buffer =
      (session.takeBuffer buffer).surplus (session.takeBuffer buffer).reader extra := by
  have read : PacketReader.read { session.reader with readouts } buffer =
      session.reader.read buffer := PacketReader.read_congr rfl buffer
  unfold takeBuffer
  dsimp only [surplus]
  rw [read]
  rcases session.reader.read buffer with ⟨reader, report⟩
  cases report with
  | error fault =>
      dsimp only
      rw [Engine.recordPacket_surplus, Engine.recordRefusal_surplus]
  | ok summary =>
      dsimp only
      rw [Engine.recordPacket_surplus, Engine.recordLosses_surplus]
      split
      · rw [Engine.ingest_surplus]
      · rfl

/-- What a reader holds in place of other readouts: what it has held before, if it has read
nothing since, or the same as the other one. -/
def Held (session last : Session σ δ) (readouts held : List Readout) : Prop :=
  held = readouts ∧ last.reader.readouts = session.reader.readouts ∨ held = last.reader.readouts

variable {session readouts} in
theorem Held.trans {middle last : Session σ δ} {between held : List Readout}
    (first : Held session middle readouts between) (later : Held middle last between held) :
    Held session last readouts held := by
  rcases later with ⟨kept, unread⟩ | read
  · rcases first with ⟨keptBefore, unreadBefore⟩ | readBefore
    · exact .inl ⟨kept.trans keptBefore, unread.trans unreadBefore⟩
    · exact .inr (kept.trans (readBefore.trans unread.symm))
  · exact .inr read

theorem takeArrival_surplus (arrival : Arrival) :
    let taken := session.takeArrival arrival
    ∃ held, Held session taken readouts held ∧
      (session.surplus { session.reader with readouts } extra).takeArrival arrival =
        taken.surplus { taken.reader with readouts := held } extra := by
  cases arrival with
  | buffer bytes => exact ⟨_, .inr rfl, session.takeBuffer_surplus readouts extra bytes⟩
  | quiet => exact ⟨readouts, .inl ⟨rfl, rfl⟩, rfl⟩

variable (consumer : Sink σ ε) (archive : Archive δ φ) (overflows : Nat)

theorem feedArrivals_surplus (arrivals : List Arrival) :
    let fed := session.feedArrivals consumer archive false overflows arrivals
    ∃ held, Held session fed.1 readouts held ∧
      (session.surplus { session.reader with readouts } extra).feedArrivals consumer archive false
          overflows arrivals =
        fed.surplus { fed.1.reader with readouts := held } extra := by
  induction arrivals generalizing session readouts with
  | nil => exact ⟨readouts, .inl ⟨rfl, rfl⟩, rfl⟩
  | cons arrival rest induction =>
      obtain ⟨held, first, taken⟩ := session.takeArrival_surplus readouts extra arrival
      simp only [feedArrivals, feedArrival_eq, taken, processBlock_surplus]
      have reader := reader_processBlock consumer archive (session.takeArrival arrival)
      rcases outcome : (session.takeArrival arrival).processBlock consumer archive with
        ⟨fed, refusal⟩
      rw [outcome] at reader
      change fed.reader = _ at reader
      have step : Held session fed readouts held := by
        rw [Held, reader]
        exact first
      rw [← reader]
      cases refusal with
      | some reason => exact ⟨held, step, rfl⟩
      | none =>
          obtain ⟨last, later, agree⟩ := induction fed held
          exact ⟨last, step.trans later, agree⟩

end

/-- What a rejected buffer is counted as. -/
def rejection (buffer : Bytes) : EngineCounts :=
  { packets := 1, bytes := buffer.length, refused := 1 }

theorem takeBuffer_of_rejected {session : Session σ δ} {buffer : Bytes} {fault : Packet.Fault}
    (rejected : (session.reader.read buffer).2 = .error fault) :
    session.takeBuffer buffer =
      session.surplus { session.reader with readouts := [] } (rejection buffer) := by
  have other : ¬Packet.Framed buffer := by
    intro framed
    obtain ⟨summary, taken, -⟩ := session.reader.read_of_framed framed
    rw [taken] at rejected
    contradiction
  obtain ⟨reason, read⟩ := session.reader.read_of_not_framed other
  unfold takeBuffer
  rw [read]
  rfl

/-- After a block that has been processed without a refusal, and as long as the wait for input
is not over, a buffer that the reader rejects is counted, and the reader holds no readouts
after it.  The sink is told nothing, the dump keeps nothing, and whatever arrives next is
dealt with as if the buffer had not come. -/
theorem rejected_buffer_inert {τ υ : Type} (valid : settings.Valid) (sink : Sink τ υ) (state : τ)
    (requests : List Request) (consumer : Sink σ ε) (archive : Archive δ φ) (overflows : Nat)
    {session reached : Session σ δ}
    (served : session.engine = ((Engine.ofSettings settings).serve sink state requests).1)
    {arrivals : List Arrival} (used : arrivals ≠ [])
    (fed : session.feedArrivals consumer archive false overflows arrivals = (reached, none))
    (awake : reached.engine.countdown ≠ 0)
    (still : ∀ dump, reached.dump = some dump → archive.checkRotate dump = (dump, none))
    {buffer : Bytes} {fault : Packet.Fault}
    (rejected : (reached.reader.read buffer).2 = .error fault) :
    let block := (reached.takeArrival (.buffer buffer)).engine.process
    let counts := reached.engine.counts
    block.plan.calls = [] ∧ block.readouts = [] ∧
      reached.feedArrival consumer archive false overflows (.buffer buffer) =
        ({ reached with
            reader.readouts := []
            engine.counts := { counts with
              packets := counts.packets + 1
              bytes := counts.bytes + buffer.length
              refused := counts.refused + 1 } }, none) ∧
      ∀ later,
        let without := reached.feedArrivals consumer archive false overflows later
        ∃ held,
          (held = [] ∧ without.1.reader.readouts = reached.reader.readouts ∨
            held = without.1.reader.readouts) ∧
          reached.feedArrivals consumer archive false overflows (.buffer buffer :: later) =
            without.surplus { without.1.reader with readouts := held } (rejection buffer) := by
  intro block counts
  have serving : Engine.Serving settings session.engine := by
    rw [served]
    exact Engine.serving_serve valid sink state requests
  have caughtUp : Engine.CaughtUp settings reached.engine :=
    caughtUp_feedArrivals valid serving used fed
  let counted := reached.surplus { reached.reader with readouts := [] } (rejection buffer)
  have taken : reached.takeArrival (.buffer buffer) = counted := takeBuffer_of_rejected rejected
  have idle : counted.engine.process = { products := [], plan := .done counted.engine } :=
    (caughtUp.surplus valid (rejection buffer)).process_eq awake
  have nothing : block = { products := [], plan := .done counted.engine } :=
    (congrArg (·.engine.process) taken).trans idle
  have step : reached.feedArrival consumer archive false overflows (.buffer buffer) =
      (counted, none) := by
    rw [feedArrival_eq, taken]
    exact processBlock_of_idle idle still
  refine ⟨?_, ?_, step, ?_⟩
  · rw [nothing]
    rfl
  · rw [nothing]
    rfl
  · intro later without
    obtain ⟨held, holds, agree⟩ := reached.feedArrivals_surplus [] (rejection buffer) consumer
      archive overflows later
    refine ⟨held, holds, ?_⟩
    rw [feedArrivals, step]
    exact agree

/-- Between two packets, of which the first one is followed by an idle tick, comes a buffer that
is too short.  The second packet is not taken to come after a gap. -/
theorem short_buffer_inert :
    let settings : Settings :=
      { detector := { eventLag := 4, idleMillis := 30 }
        clustering := { enabled := false }
        layout := { coarseBits := 3, fineWidthBits := 1, fineBits := 1 } }
    let consumer := Recording.sink fun _ => false
    let archive := DumpSeries.archive fun _ => true
    let session : Session Recording DumpSeries :=
      { engine := .ofSettings settings, sink := {}, dump := some (.fresh "run" none) }
    let packet (number : UInt32) (readouts : List Readout) : Arrival :=
      .buffer (Packet.encode number readouts)
    let arrivals := [packet 5 [.neutron 3 5 5 0, .neutron 9 5 5 0, .neutron 14 6 6 0], .quiet]
    let fed := session.feedArrivals consumer archive false 0 arrivals
    let buffer : Bytes := [0x46, 0x45, 0]
    let later := [packet 6 [.neutron 20 7 7 0]]
    let without := fed.1.feedArrivals consumer archive false 0 later
    let between := fed.1.feedArrivals consumer archive false 0 (.buffer buffer :: later)
    settings.Valid ∧ fed.2 = none ∧ fed.1.engine.countdown = 2 ∧
      fed.1.dump.map DumpSeries.split = some none ∧
      (fed.1.reader.read buffer).2 = .error (.short 3) ∧
      fed.1.engine.counts = { packets := 1, bytes := 68 } ∧
      between.2 = without.2 ∧ between.1.engine.ring = without.1.engine.ring ∧
      between.1.sink = without.1.sink ∧ between.1.dump = without.1.dump ∧
      without.1.engine.counts = { packets := 2, bytes := 96 } ∧
      between.1.engine.counts = { packets := 3, bytes := 99, refused := 1 } := by
  intro settings consumer archive session packet arrivals fed buffer later without between
  have valid : settings.Valid := by decide
  have done : fed.2 = none := by decide +kernel
  have waiting : fed.1.engine.countdown = 2 := by decide +kernel
  have unsplit : fed.1.dump.map DumpSeries.split = some none := by decide +kernel
  have rejected : (fed.1.reader.read buffer).2 = .error (.short 3) := by decide +kernel
  have counted : fed.1.engine.counts = { packets := 1, bytes := 68 } := by decide +kernel
  have countedLater : without.1.engine.counts = { packets := 2, bytes := 96 } := by decide +kernel
  have awake : fed.1.engine.countdown ≠ 0 := by
    rw [waiting]
    decide
  have still : ∀ dump, fed.1.dump = some dump → archive.checkRotate dump = (dump, none) := by
    intro dump dumped
    rw [dumped] at unsplit
    exact DumpSeries.checkRotate_of_unsplit _ (Option.some.inj unsplit)
  have taken : session.feedArrivals consumer archive false 0 arrivals = (fed.1, none) :=
    Prod.mk.eta.symm.trans (congrArg (Prod.mk fed.1) done)
  have used : arrivals ≠ [] := List.cons_ne_nil _ _
  have served : session.engine =
      ((Engine.ofSettings settings).serve consumer session.sink []).1 := rfl
  obtain ⟨-, -, -, goesOn⟩ := rejected_buffer_inert valid consumer session.sink [] consumer
    archive 0 served used taken awake still rejected
  obtain ⟨held, -, same⟩ := goesOn later
  generalize whole : fed.1.feedArrivals consumer archive false 0 later = outcome at same
  have first : without = outcome := whole
  have second : between = outcome.surplus _ _ := same
  rw [first] at countedLater
  rw [first, second]
  refine ⟨valid, done, waiting, unsplit, rejected, counted, rfl, rfl, rfl, rfl, countedLater, ?_⟩
  change outcome.1.engine.counts.sum (rejection buffer) = _
  rw [countedLater]
  rfl

end Session

end EventFormation
