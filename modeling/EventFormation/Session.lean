import EventFormation.Dump.Series
import EventFormation.Dump.Source
import EventFormation.Engine
import EventFormation.Wire.Packet

/-!
# Processing sessions

A session joins a packet reader, an engine, a sink and, if wanted, a dump. It
is fed either with batches read back from dump files or with buffers as they
arrive. After every batch and every buffer the block that can be released is
processed; what it yields goes to the sink and into the dump.

The first refusal of the sink or of the dump ends the session; what was done up
to then stays.
-/

namespace EventFormation

/-- A keeper of processed readouts with states in `δ` that refuses with reasons
in `φ`. What is refused may still change the state. -/
structure Archive (δ φ : Type) where
  /-- Takes readouts in. -/
  push : δ → List Readout → δ × Option φ
  /-- Starts its next file, if that is due. -/
  checkRotate : δ → δ × Option φ
  /-- Writes what it holds back. -/
  flush : δ → δ × Option φ

/-- Dump series as archives. -/
def DumpSeries.archive (creates : String → Bool) : Archive DumpSeries DumpSeries.Fault where
  push series readouts := (series.push readouts, none)
  checkRotate series :=
    match series.checkRotate creates with
    | (checked, .ok _) => (checked, none)
    | (flushed, .error fault) => (flushed, some fault)
  flush series := (series.flush, none)

/-- What a session finds at its input. -/
inductive Arrival where
  | buffer (bytes : Bytes)
  /-- Nothing, for as long as it waits. -/
  | quiet
  deriving DecidableEq

/-- Why a session has ended early. -/
inductive Refusal (ε φ : Type) where
  | sink (reason : ε)
  | dump (reason : φ)
  deriving DecidableEq

/-- Reader, engine, sink and dump of a session. -/
structure Session (σ δ : Type) where
  /-- Reads packets and follows their numbers. -/
  reader : PacketReader := {}
  engine : Engine
  sink : σ
  /-- Keeps the processed readouts, if that is wanted. -/
  dump : Option δ := none

namespace Session

variable {σ δ ε φ : Type}

/-- A session after a step, and the refusal that ended it, if any. -/
abbrev Outcome (σ δ ε φ : Type) := Session σ δ × Option (Refusal ε φ)

/-- Goes on unless a refusal has ended the session. -/
def Outcome.andThen (outcome : Outcome σ δ ε φ) (next : Session σ δ → Outcome σ δ ε φ) :
    Outcome σ δ ε φ :=
  match outcome with
  | (session, none) => next session
  | (session, some reason) => (session, some reason)

/-- Tells a plan of the engine to the sink. -/
def perform (consumer : Sink σ ε) (session : Session σ δ) (plan : Plan Engine) :
    Outcome σ δ ε φ :=
  let (engine, sink, refusal) := plan.run consumer session.sink
  ({ session with engine, sink }, refusal.map .sink)

/-- Does something with the dump, if there is one. -/
def withDump (session : Session σ δ) (act : δ → δ × Option φ) : Outcome σ δ ε φ :=
  match session.dump with
  | none => (session, none)
  | some dump =>
    let (dump, refusal) := act dump
    ({ session with dump := some dump }, refusal.map .dump)

def keep (archive : Archive δ φ) (session : Session σ δ) (readouts : List Readout) :
    Outcome σ δ ε φ :=
  if readouts.isEmpty then (session, none) else session.withDump (archive.push · readouts)

/-- Takes a batch in. -/
def takeBatch (session : Session σ δ) (batch : Batch) : Session σ δ :=
  let counted :=
    (session.engine.recordPacket (batch.readouts.length * Record.size)).recordLosses batch.summary
  { session with
    engine :=
      if batch.summary.hasReadouts then
        counted.ingest batch.readouts batch.summary.earliest
      else counted }

/-- Takes a buffer in. A buffer that the reader refuses is only counted. -/
def takeBuffer (session : Session σ δ) (buffer : Bytes) : Session σ δ :=
  let counted := session.engine.recordPacket buffer.length
  match session.reader.read buffer with
  | (reader, .error _) => { session with reader, engine := counted.recordRefusal }
  | (reader, .ok summary) =>
    let recorded := counted.recordLosses summary
    { session with
      reader
      engine :=
        if summary.hasReadouts then recorded.ingest reader.readouts summary.earliest
        else recorded }

/-- Takes in what is found at the input. -/
def takeArrival (session : Session σ δ) : Arrival → Session σ δ
  | .buffer bytes => session.takeBuffer bytes
  | .quiet => { session with engine := session.engine.idle }

def recordOverflows (session : Session σ δ) (overflows : Nat) : Session σ δ :=
  { session with engine := session.engine.recordOverflows overflows }

variable (consumer : Sink σ ε) (archive : Archive δ φ)

/-- Processes the block that can be released now. -/
def processBlock (session : Session σ δ) : Outcome σ δ ε φ :=
  let block := session.engine.process
  ((session.perform consumer block.plan).andThen (·.keep archive block.readouts)).andThen
    (·.withDump archive.checkRotate)

def publish (session : Session σ δ) : Outcome σ δ ε φ :=
  session.perform consumer session.engine.flush

/-- Has the sink publish what is pending, and the dump write what it holds back. -/
def finish (session : Session σ δ) : Outcome σ δ ε φ :=
  Outcome.andThen (session.publish consumer) (·.withDump archive.flush)

/-- Takes a batch in and processes the block that can be released. -/
def feedBatch (session : Session σ δ) (batch : Batch) : Outcome σ δ ε φ :=
  (session.takeBatch batch).processBlock consumer archive

def feedBatches (session : Session σ δ) : List Batch → Outcome σ δ ε φ
  | [] => (session, none)
  | batch :: rest =>
    (session.feedBatch consumer archive batch).andThen fun fed => fed.feedBatches rest

def drain (session : Session σ δ) : Outcome σ δ ε φ :=
  let block := session.engine.drain
  Outcome.andThen (session.perform consumer block.plan) (·.keep archive block.readouts)

/-- Feeds batches and releases everything that is left. -/
def replay (session : Session σ δ) (batches : List Batch) : Outcome σ δ ε φ :=
  ((session.feedBatches consumer archive batches).andThen (·.drain consumer archive)).andThen
    (·.finish consumer archive)

/-- Brings the counts up to date and has the sink publish what is pending. -/
def update (overflows : Nat) (session : Session σ δ) : Outcome σ δ ε φ :=
  (session.recordOverflows overflows).publish consumer

/-- Takes in what is found at the input and processes the block that can be
released; then updates, if that is due every time. -/
def feedArrival (updates : Bool) (overflows : Nat) (session : Session σ δ) (arrival : Arrival) :
    Outcome σ δ ε φ :=
  ((session.takeArrival arrival).processBlock consumer archive).andThen fun processed =>
    if updates then processed.update consumer overflows else (processed, none)

def feedArrivals (updates : Bool) (overflows : Nat) (session : Session σ δ) :
    List Arrival → Outcome σ δ ε φ
  | [] => (session, none)
  | arrival :: rest =>
    (session.feedArrival consumer archive updates overflows arrival).andThen fun fed =>
      fed.feedArrivals updates overflows rest

/-- Feeds arrivals until the input is closed. What is still in flight then is
not released. -/
def run (updates : Bool) (overflows : Nat) (session : Session σ δ) (arrivals : List Arrival) :
    Outcome σ δ ε φ :=
  (session.feedArrivals consumer archive updates overflows arrivals).andThen fun fed =>
    (fed.recordOverflows overflows).finish consumer archive

end Session

end EventFormation
