import EventFormation.Command.Counters
import EventFormation.Command.Failure
import EventFormation.Report
import EventFormation.Session

/-!
# Forming events from dump files

The files are opened before anything is processed, then replayed as one
session. The events go into a report and, if wanted, the processed readouts
into a dump.
-/

namespace EventFormation

namespace Command

/-- What is asked of a replay. -/
structure ReplayRequest where
  files : List InputFile
  /-- The document with the settings, if they are not to be the defaults. -/
  settings : Option InputFile := none
  /-- Where the report is to be written. -/
  output : String
  /-- What the names of the dump files are to start with, if there is a dump. -/
  dump : Option String := none
  /-- Readouts that are processed together. -/
  batchSize : Nat := 4096
  /-- Whether to say beforehand what will be done. -/
  verbose : Bool := false
  deriving Inhabited

/-- A report and a dump that have been written. -/
structure Written where
  report : Report
  /-- The dump, if it was wanted. -/
  dump : Option DumpSeries
  deriving Inhabited

def ReplayRequest.load (request : ReplayRequest) : Except Failure Settings :=
  match request.settings with
  | none => .ok {}
  | some file => (Settings.ofFile file.contents).mapError .settings

/-- What is said beforehand. -/
def ReplayRequest.preamble (request : ReplayRequest) (settings : Settings) : String :=
  if request.verbose then
    s!"Replaying {request.files.length} file(s)...\n" ++
    s!"Clustering: {settings.clustering.enabled} ({settings.clustering.lanes} threads)\n" ++
    s!"Writing events to: {request.output}\n"
  else
    ""

/-- A session that has seen nothing, with a report and perhaps a dump. -/
def openSession (creates : String → Bool) (settings : Settings) (dump : Option String) :
    Except Failure (Session Report DumpSeries) := do
  let engine ← (Engine.create settings).mapError fun fault => .settings (.rule fault)
  let report ← (Report.create none).mapError fun _ => .output
  let dump ← dump.mapM fun stem =>
    (DumpSeries.create creates stem none).mapError fun _ => .keeping
  pure { engine, sink := report, dump }

/-- The failure of a command whose session has ended early. -/
def Failure.ofRefusal : Refusal Report.Fault DumpSeries.Fault → Failure
  | .sink _ => .output
  | .dump _ => .keeping

def written (session : Session Report DumpSeries) : Written :=
  { report := session.sink, dump := session.dump }

/-- Replays files with settings. Gives the printed counts and what was
written. -/
def ReplayRequest.perform (creates : String → Bool) (request : ReplayRequest)
    (settings : Settings) : Except Failure (String × Written) := do
  let sources ← request.files.mapM InputFile.openDump
  let session ← openSession creates settings request.dump
  match sources.mapM fun source => source.batches? request.batchSize with
  | none => .error .panicked
  | some batches =>
    match session.replay Report.sink (DumpSeries.archive creates) batches.flatten with
    | (_, some refusal) => .error (.ofRefusal refusal)
    | (finished, none) =>
      let records := (sources.map DumpSource.recordCount).foldr (· + ·) 0
      pure (countersText finished.engine.counters ++ s!"Replayed {records} readouts",
        written finished)

/-- Replays dump files. The last printed line is left open for the time taken. -/
def replay (creates : String → Bool) (request : ReplayRequest) : Outcome × Option Written :=
  match request.load with
  | .error failure => (.failed "" failure, none)
  | .ok settings =>
    let said := request.preamble settings
    match request.perform creates settings with
    | .error failure => (.failed said failure, none)
    | .ok (printed, written) => ({ stdout := printed, stderr := said }, some written)

end Command

end EventFormation
