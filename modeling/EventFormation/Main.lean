import EventFormation.Command.Arguments
import EventFormation.Command.Inspect
import EventFormation.Command.Live
import EventFormation.Command.Send

/-!
# The command line

Reads the files that a command needs, runs the command, writes what it gives
and prints what it says. There is no network here: nothing arrives for live
input, and a datagram that is sent finds no route.
-/

namespace EventFormation

namespace Command

def readFile (name : String) : IO InputFile := do
  try
    let contents ← IO.FS.readBinFile name
    return { name, contents := some contents.toList }
  catch _ =>
    return { name, contents := none }

def writeDump (series : DumpSeries) : IO Unit := do
  for (name, bytes) in series.names.zip series.files do
    IO.FS.writeBinFile name ⟨bytes.toArray⟩

/-- Writes a report and a dump, if there are any. -/
def writeAll (output : String) (written : Option Written) : IO Unit := do
  match written with
  | none => return
  | some written =>
    IO.FS.writeFile output written.report.text
    written.dump.forM writeDump

def finish (outcome : Outcome) : IO UInt32 := do
  IO.print outcome.stdout
  IO.eprint outcome.stderr
  return .ofNat outcome.exit

/-- What has been formed is written afterwards, so nothing is refused before. -/
def creates (_ : String) : Bool :=
  true

/-- Runs a command. -/
def Invocation.perform : Invocation → IO UInt32
  | .live settings output dump => do
    let (outcome, written) := Command.live creates (← readFile settings) dump []
    writeAll output written
    finish outcome
  | .replay files settings output dump batchSize verbose => do
    let files ← files.mapM readFile
    let settings ← settings.mapM readFile
    let (outcome, written) :=
      Command.replay creates { files, settings, output, dump, batchSize, verbose }
    writeAll output written
    finish outcome
  | .inspect file => do finish (Command.inspect (← readFile file))
  | .generate stem synthesis => do
    let (outcome, series) := Command.generate creates stem synthesis
    series.forM writeDump
    finish outcome
  | .send files target perPacket => do
    let (outcome, _) := Command.send .unreachable target (← files.mapM readFile) perPacket
    finish outcome

end Command

end EventFormation

def main (arguments : List String) : IO UInt32 := do
  match EventFormation.Command.Invocation.read arguments with
  | .error message =>
    IO.eprintln ("error: " ++ message)
    return 2
  | .ok invocation => invocation.perform
