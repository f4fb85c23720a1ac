import EventFormation.Proofs.PacketStream
import EventFormation.Proofs.SessionSurplus

/-!
# Live input and batches

Buffers that one writer has made of batches lead a session through the same
steps as the batches themselves, up to the first refusal of the sink or of the
dump.  Each buffer brings a header besides, whose bytes are counted, and the
first one may come after a gap.
-/

namespace EventFormation

namespace Engine

/-- An engine that has counted further bytes and gaps. -/
def charge (engine : Engine) (bytes gaps : Nat) : Engine :=
  { engine with
    counts.bytes := engine.counts.bytes + bytes
    counts.gaps := engine.counts.gaps + gaps }

theorem counts_releaseDue (engine : Engine) : engine.releaseDue.1.counts = engine.counts := by
  unfold releaseDue
  split
  · rfl
  · exact counts_release engine _ _

theorem counts_run_tell {σ ε : Type} (sink : Sink σ ε) (state : σ) (engine : Engine) (base : Nat)
    (products : List Product) :
    ((engine.tell base products).run sink state).1.counts = engine.counts := by
  rw [tell, Plan.run_map]

theorem ingest_charge (engine : Engine) (bytes gaps : Nat) (readouts : List Readout)
    (earliest : Nat) :
    (engine.charge bytes gaps).ingest readouts earliest =
      (engine.ingest readouts earliest).charge bytes gaps :=
  engine.ingest_surplus { bytes, gaps } readouts earliest

theorem counts_ingest (engine : Engine) (readouts : List Readout) (earliest : Nat) :
    ∃ dropped resets, (engine.ingest readouts earliest).counts =
      { engine.counts with dropped, resets } := by
  by_cases some : readouts = []
  · rw [some]
    exact ⟨_, _, rfl⟩
  · rw [ingest_eq _ some]
    by_cases jumps : engine.jumps earliest
    · rw [awaited_of_jumps engine jumps]
      exact ⟨_, _, rfl⟩
    · rw [awaited_of_not_jumps engine jumps]
      exact ⟨_, _, rfl⟩

end Engine

/-- The readouts of a batch are of known kind, and its summary is the one that is
read with them. -/
structure Batch.Decoded (batch : Batch) : Prop where
  known : ∀ readout ∈ batch.readouts, Record.known readout = true
  summary : batch.summary = (Record.decodeKnown (Record.encodeAll batch.readouts)).2

namespace Session

variable {σ δ ε φ : Type}

/-- A session with another reader that has counted further bytes and gaps. -/
def charge (session : Session σ δ) (reader : PacketReader) (bytes gaps : Nat) : Session σ δ :=
  { session with reader, engine := session.engine.charge bytes gaps }

/-- The outcome of such a session. -/
def Outcome.charge (outcome : Outcome σ δ ε φ) (reader : PacketReader) (bytes gaps : Nat) :
    Outcome σ δ ε φ :=
  (outcome.1.charge reader bytes gaps, outcome.2)

theorem processBlock_charge (consumer : Sink σ ε) (archive : Archive δ φ) (session : Session σ δ)
    (reader : PacketReader) (bytes gaps : Nat) :
    (session.charge reader bytes gaps).processBlock consumer archive =
      (session.processBlock consumer archive).charge reader bytes gaps := by
  have charged (session : Session σ δ) :
      session.charge reader bytes gaps = session.surplus reader { bytes, gaps } := rfl
  rw [Outcome.charge, charged, charged]
  exact session.processBlock_surplus consumer archive

theorem recorded_charge (engine : Engine) (bytes gaps gap : Nat) {batch : Batch}
    (decoded : batch.Decoded) :
    ((engine.charge bytes gaps).recordPacket
        (Packet.headerSize + batch.readouts.length * Record.size)).recordLosses
        { batch.summary with gaps := gap } =
      ((engine.recordPacket (batch.readouts.length * Record.size)).recordLosses
        batch.summary).charge (bytes + Packet.headerSize) (gaps + gap) := by
  have none : batch.summary.gaps = 0 := by
    rw [decoded.summary]
    exact Record.gaps_decodeKnown _
  simp only [Engine.charge, Engine.recordPacket, Engine.recordLosses, none, Engine.mk.injEq,
    EngineCounts.mk.injEq, true_and, and_true]
  omega

theorem takeBuffer_encode (session : Session σ δ) (reader : PacketReader) (bytes gaps : Nat)
    (number : UInt32) {batch : Batch} (decoded : batch.Decoded) :
    (session.charge reader bytes gaps).takeBuffer (Packet.encode number batch.readouts) =
      (session.takeBatch batch).charge
        { readouts := batch.readouts, expected := some (number + 1) }
        (bytes + Packet.headerSize) (gaps + if reader.gapBefore number then 1 else 0) := by
  let gap := if reader.gapBefore number then 1 else 0
  have all : batch.readouts.filter Record.known = batch.readouts :=
    List.filter_eq_self.mpr decoded.known
  have read : (session.charge reader bytes gaps).reader.read
      (Packet.encode number batch.readouts) =
        ({ readouts := batch.readouts, expected := some (number + 1) },
          .ok { batch.summary with gaps := gap }) := by
    have written := reader.read_encode number batch.readouts
    rwa [all, ← decoded.summary] at written
  have recorded := recorded_charge session.engine bytes gaps gap decoded
  unfold takeBuffer takeBatch
  rw [read, Packet.length_encode]
  dsimp only [charge]
  rw [recorded]
  by_cases some : batch.summary.hasReadouts
  · have also : ({ batch.summary with gaps := gap } : Summary).hasReadouts = true := some
    rw [if_pos some, if_pos also, Engine.ingest_charge]
  · have also : ¬({ batch.summary with gaps := gap } : Summary).hasReadouts = true := some
    rw [if_neg some, if_neg also]

section

variable (consumer : Sink σ ε) (archive : Archive δ φ)

theorem Outcome.andThen_eq_none {outcome : Outcome σ δ ε φ}
    {next : Session σ δ → Outcome σ δ ε φ} {last : Session σ δ}
    (done : outcome.andThen next = (last, none)) :
    ∃ session, outcome = (session, none) ∧ next session = (last, none) := by
  obtain ⟨session, refusal⟩ := outcome
  cases refusal with
  | none => exact ⟨session, rfl, done⟩
  | some reason => exact nomatch congrArg Prod.snd done

/-- What further steps leave as it is stays, whether they are made or not. -/
theorem Outcome.andThen_keeps {α : Type} (look : Session σ δ → α) {outcome : Outcome σ δ ε φ}
    {next : Session σ δ → Outcome σ δ ε φ}
    (same : ∀ session, look (next session).1 = look session) :
    look (outcome.andThen next).1 = look outcome.1 := by
  obtain ⟨session, refusal⟩ := outcome
  cases refusal with
  | none => exact same session
  | some reason => rfl

theorem engine_withDump (session : Session σ δ) (act : δ → δ × Option φ) :
    (session.withDump act : Outcome σ δ ε φ).1.engine = session.engine := by
  unfold withDump
  split
  · rfl
  · rfl

theorem engine_keep (session : Session σ δ) (readouts : List Readout) :
    (session.keep archive readouts : Outcome σ δ ε φ).1.engine = session.engine := by
  unfold keep
  split
  · rfl
  · exact engine_withDump session _

theorem counts_processBlock (session : Session σ δ) :
    (session.processBlock consumer archive).1.engine.counts = session.engine.counts := by
  have told : (session.perform consumer session.engine.process.plan :
      Outcome σ δ ε φ).1.engine.counts = session.engine.counts := by
    rw [Engine.process_eq]
    exact (Engine.counts_run_tell consumer _ _ _ _).trans session.engine.counts_releaseDue
  unfold processBlock
  rw [Outcome.andThen_keeps (·.engine.counts), Outcome.andThen_keeps (·.engine.counts), told]
  · intro session
    rw [engine_keep]
  · intro session
    rw [engine_withDump]

theorem reader_processBlock (session : Session σ δ) :
    (session.processBlock consumer archive).1.reader = session.reader := by
  have reader_withDump (session : Session σ δ) (act : δ → δ × Option φ) :
      (session.withDump act : Outcome σ δ ε φ).1.reader = session.reader := by
    unfold withDump
    split
    · rfl
    · rfl
  unfold processBlock
  rw [Outcome.andThen_keeps (·.reader), Outcome.andThen_keeps (·.reader)]
  · rfl
  · intro told
    unfold keep
    split
    · rfl
    · exact reader_withDump told _
  · intro kept
    exact reader_withDump kept _

theorem feedArrival_eq (session : Session σ δ) (overflows : Nat) (arrival : Arrival) :
    session.feedArrival consumer archive false overflows arrival =
      (session.takeArrival arrival).processBlock consumer archive := by
  unfold feedArrival
  rcases (session.takeArrival arrival).processBlock consumer archive with ⟨processed, refusal⟩
  cases refusal with
  | none => rfl
  | some reason => rfl

theorem counts_takeBatch (session : Session σ δ) {batch : Batch} (decoded : batch.Decoded) :
    let before := session.engine.counts
    let after := (session.takeBatch batch).engine.counts
    after.packets = before.packets + 1 ∧ after.lostBytes = before.lostBytes ∧
      after.gaps = before.gaps ∧ after.refused = before.refused := by
  have lost : batch.summary.lostBytes = 0 := by
    rw [decoded.summary]
    exact Record.lostBytes_decodeKnown decoded.known
  have gaps : batch.summary.gaps = 0 := by
    rw [decoded.summary]
    exact Record.gaps_decodeKnown _
  let counted := (session.engine.recordPacket
    (batch.readouts.length * Record.size)).recordLosses batch.summary
  obtain ⟨dropped, resets, ingested⟩ :=
    counted.counts_ingest batch.readouts batch.summary.earliest
  unfold takeBatch
  dsimp only
  split
  · rw [ingested]
    exact ⟨rfl, by simp [counted, Engine.recordLosses, Engine.recordPacket, lost],
      by simp [counted, Engine.recordLosses, Engine.recordPacket, gaps], rfl⟩
  · exact ⟨rfl, by simp [Engine.recordLosses, Engine.recordPacket, lost],
      by simp [Engine.recordLosses, Engine.recordPacket, gaps], rfl⟩

def packets (start : UInt32) (batches : List Batch) : List Arrival :=
  (({ next := start } : PacketWriter).writeAll (batches.map Batch.readouts)).1.map .buffer

theorem packets_cons (start : UInt32) (batch : Batch) (rest : List Batch) :
    packets start (batch :: rest) =
      .buffer (Packet.encode start batch.readouts) :: packets (start + 1) rest := rfl

/-- The packet of a batch is dealt with like the batch. -/
theorem feedArrival_packet (session : Session σ δ) (reader : PacketReader) (bytes gaps : Nat)
    (overflows : Nat) (number : UInt32) {batch : Batch} (decoded : batch.Decoded) :
    (session.charge reader bytes gaps).feedArrival consumer archive false overflows
        (.buffer (Packet.encode number batch.readouts)) =
      (session.feedBatch consumer archive batch).charge
        { readouts := batch.readouts, expected := some (number + 1) }
        (bytes + Packet.headerSize) (gaps + if reader.gapBefore number then 1 else 0) := by
  have taken := session.takeBuffer_encode reader bytes gaps number decoded
  rw [feedArrival_eq, takeArrival, taken, processBlock_charge]
  rfl

/-- How many gaps are counted before the packets of batches: only the number of the
first one may be another than the reader expects. -/
def gapsBefore (reader : PacketReader) (start : UInt32) (batches : List Batch) : Nat :=
  if reader.gapBefore start ∧ batches ≠ [] then 1 else 0

/-- The packets of batches lead through the outcomes of the batches.  Nothing but
their headers and the gap before the first one is counted besides. -/
theorem feedArrivals_packets (session : Session σ δ) (reader : PacketReader) (bytes gaps : Nat)
    (overflows : Nat) (number : UInt32) {batches : List Batch}
    (decoded : ∀ batch ∈ batches, batch.Decoded) :
    let fed := session.feedBatches consumer archive batches
    ∃ last taken,
      (session.charge reader bytes gaps).feedArrivals consumer archive false overflows
          (packets number batches) =
        fed.charge last (bytes + Packet.headerSize * taken)
          (gaps + gapsBefore reader number batches) ∧
      fed.1.engine.counts.packets = session.engine.counts.packets + taken ∧
      fed.1.engine.counts.lostBytes = session.engine.counts.lostBytes ∧
      fed.1.engine.counts.gaps = session.engine.counts.gaps ∧
      fed.1.engine.counts.refused = session.engine.counts.refused := by
  induction batches generalizing session reader bytes gaps number with
  | nil =>
      have none : gapsBefore reader number [] = 0 := by simp [gapsBefore]
      rw [none]
      exact ⟨reader, 0, rfl, rfl, rfl, rfl, rfl⟩
  | cons batch rest induction =>
      obtain ⟨first, later⟩ := List.forall_mem_cons.mp decoded
      have gapsFirst : gapsBefore reader number (batch :: rest) =
          if reader.gapBefore number then 1 else 0 := by
        simp [gapsBefore]
      have step := session.feedArrival_packet consumer archive reader bytes gaps overflows number first
      rw [← gapsFirst] at step
      obtain ⟨packets, lost, gapless, accepted⟩ := session.counts_takeBatch first
      have counts : (session.feedBatch consumer archive batch).1.engine.counts = _ :=
        counts_processBlock consumer archive (session.takeBatch batch)
      rw [packets_cons, feedArrivals, feedBatches, step]
      rcases outcome : session.feedBatch consumer archive batch with ⟨fed, refusal⟩
      rw [outcome] at counts
      dsimp only at counts
      rw [← counts] at packets lost gapless accepted
      cases refusal with
      | some reason => exact ⟨_, 1, rfl, packets, lost, gapless, accepted⟩
      | none =>
          let onward : PacketReader :=
            { readouts := batch.readouts, expected := some (number + 1) }
          have expected : gapsBefore onward (number + 1) rest = 0 := by
            simp [gapsBefore, onward, PacketReader.gapBefore]
          obtain ⟨last, taken, live, packetsRest, lostRest, gaplessRest, acceptedRest⟩ :=
            induction fed onward (bytes + Packet.headerSize)
              (gaps + gapsBefore reader number (batch :: rest)) (number + 1) later
          rw [expected, Nat.add_zero] at live
          refine ⟨last, 1 + taken, ?_, ?_, lostRest.trans lost, gaplessRest.trans gapless,
            acceptedRest.trans accepted⟩
          · rw [Nat.mul_add, Nat.mul_one, ← Nat.add_assoc]
            exact live
          · rw [← Nat.add_assoc, ← packets]
            exact packetsRest

/-- A session that is fed with the packets of decoded batches goes through the same
steps as one that is fed with the batches: bins, lanes, router, sink and dump are
the same, and so is the first refusal.  Of what is counted only the bytes differ,
by a header for each packet that has been taken in, and by one gap if the reader
expects another number than that of the first packet.  What a live session does
after that is to finish, and a replay drains the engine before it does so. -/
theorem packets_agree_with_batches (session : Session σ δ) (start : UInt32) (overflows : Nat)
    {batches : List Batch} (decoded : ∀ batch ∈ batches, batch.Decoded) :
    let live := session.feedArrivals consumer archive false overflows (packets start batches)
    let fed := session.feedBatches consumer archive batches
    let before := session.engine.counts
    let counted := fed.1.engine.counts
    let taken := counted.packets - before.packets
    session.run consumer archive false overflows (packets start batches) =
        live.andThen (fun last => (last.recordOverflows overflows).finish consumer archive) ∧
      session.replay consumer archive batches =
        (fed.andThen (·.drain consumer archive)).andThen (·.finish consumer archive) ∧
      live.1.engine = { fed.1.engine with
        counts := { counted with
          bytes := counted.bytes + 8 * taken
          gaps := before.gaps + gapsBefore session.reader start batches } } ∧
      (session.reader.gapBefore start = false → live.1.engine.counts.gaps = before.gaps) ∧
      live.1.sink = fed.1.sink ∧ live.1.dump = fed.1.dump ∧ live.2 = fed.2 ∧
      counted.lostBytes = before.lostBytes ∧ counted.gaps = before.gaps ∧
      counted.refused = before.refused := by
  intro live fed before counted taken
  obtain ⟨last, number, agree, packets, lost, gapless, accepted⟩ :=
    session.feedArrivals_packets consumer archive session.reader 0 0 overflows start decoded
  have same : live = fed.charge last (8 * taken) (gapsBefore session.reader start batches) := by
    have all : taken = number := by
      rw [← Nat.add_sub_cancel_left (n := before.packets) (m := number), ← packets]
    rw [all, ← Nat.zero_add (8 * number), ← Nat.zero_add (gapsBefore _ _ _)]
    exact agree
  refine ⟨rfl, rfl, ?_, ?_, ?_, ?_, ?_, lost, gapless, accepted⟩
  · rw [same, ← gapless]
    rfl
  · intro awaited
    have none : gapsBefore session.reader start batches = 0 := by simp [gapsBefore, awaited]
    rw [same, none]
    exact gapless
  · rw [same]
    rfl
  · rw [same]
    rfl
  · rw [same]
    rfl

end

/-- The numbers wrap around, the second batch is empty, and the sink refuses the
neutron of the third one, so the fourth one is not taken in. -/
theorem wrapped_packets_agree :
    let settings : Settings :=
      { detector := { eventLag := 4 }
        clustering := { enabled := false }
        layout := { coarseBits := 2, fineWidthBits := 1, fineBits := 1 } }
    let decoded (readouts : List Readout) : Batch :=
      { readouts, summary := (Record.decodeKnown (Record.encodeAll readouts)).2 }
    let batches : List Batch :=
      [decoded [.neutron 3 5 5 0, .neutron 1 6 6 0, .neutron 9 5 5 0], decoded [],
        decoded [.neutron 10 7 7 0, .neutron 16 7 7 0], decoded [.neutron 20 7 7 0]]
    let consumer := Recording.sink (· == 3)
    let archive := DumpSeries.archive fun _ => true
    let session : Session Recording DumpSeries :=
      { engine := .ofSettings settings, sink := {}, dump := some (.fresh "run" none) }
    let start : UInt32 := 4294967294
    let live := session.feedArrivals consumer archive false 0 (packets start batches)
    let fed := session.feedBatches consumer archive batches
    settings.Valid ∧ (∀ batch ∈ batches, batch.Decoded) ∧
      live.2 = some (.sink 3) ∧ live.2 = fed.2 ∧
      live.1.engine.ring = fed.1.engine.ring ∧ live.1.engine.router = fed.1.engine.router ∧
      live.1.sink = fed.1.sink ∧ live.1.dump = fed.1.dump ∧
      live.1.engine.counts = { packets := 3, bytes := 124 } ∧
      fed.1.engine.counts = { packets := 3, bytes := 100 } := by
  intro settings decoded batches consumer archive session start live fed
  have allDecoded : ∀ batch ∈ batches, batch.Decoded := by
    have known : ∀ batch ∈ batches, ∀ readout ∈ batch.readouts, Record.known readout = true := by
      decide
    have summaries : ∀ batch ∈ batches,
        batch.summary = (Record.decodeKnown (Record.encodeAll batch.readouts)).2 := by
      decide
    exact fun batch member => ⟨known batch member, summaries batch member⟩
  have replayed : fed.1.engine.counts = { packets := 3, bytes := 100 } := by decide +kernel
  have arrived : live.1.engine.counts = { packets := 3, bytes := 124 } := by decide +kernel
  have refused : live.2 = some (.sink 3) := by decide +kernel
  obtain ⟨-, -, engine, -, sink, dump, refusal, -⟩ :=
    session.packets_agree_with_batches consumer archive start 0 allDecoded
  have ring : live.1.engine.ring = fed.1.engine.ring := by rw [engine]
  have router : live.1.engine.router = fed.1.engine.router := by rw [engine]
  have sinks : live.1.sink = fed.1.sink := by rw [sink]
  have dumps : live.1.dump = fed.1.dump := by rw [dump]
  exact ⟨by decide, allDecoded, refused, refusal, ring, router, sinks, dumps, arrived, replayed⟩

/-- The reader of a session that has been run goes on from its last packet, so packets that
are numbered anew are taken for a gap. -/
theorem rerun_session_counts_gap :
    let settings : Settings :=
      { detector := { eventLag := 4 }
        clustering := { enabled := false }
        layout := { coarseBits := 2, fineWidthBits := 1, fineBits := 1 } }
    let readouts : List Readout := [.neutron 3 5 5 0]
    let batches : List Batch :=
      [{ readouts, summary := (Record.decodeKnown (Record.encodeAll readouts)).2 }]
    let consumer := Recording.sink fun _ => false
    let archive := DumpSeries.archive fun _ => true
    let unused : Session Recording DumpSeries := { engine := .ofSettings settings, sink := {} }
    let earlier := unused.run consumer archive false 0 (packets 5 batches)
    let later := earlier.1.run consumer archive false 0 (packets 0 batches)
    settings.Valid ∧ (∀ batch ∈ batches, batch.Decoded) ∧
      earlier.2 = none ∧ earlier.1.reader.expected = some 6 ∧
      earlier.1.engine.counts = { packets := 1, bytes := 28 } ∧
      later.2 = none ∧ later.1.engine.counts = { packets := 2, bytes := 56, gaps := 1 } := by
  intro settings readouts batches consumer archive unused earlier later
  have decoded : ∀ batch ∈ batches, batch.Decoded := by
    intro batch member
    obtain rfl := List.mem_singleton.mp member
    exact ⟨by decide, rfl⟩
  refine ⟨by decide, decoded, ?_, ?_, ?_, ?_, ?_⟩
  all_goals decide +kernel

end Session

end EventFormation
