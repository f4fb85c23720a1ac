import EventFormation.Dump.Source
import EventFormation.Settings.Document
import EventFormation.Text.Quoted

/-!
# Failures of commands

A command that fails prints one line that names the stage and the cause. What
the operating system or the JSON reader has to add to it depends on the
machine, so the line is given up to that point and is not ended.
-/

namespace EventFormation

namespace Command

/-- Why a command fails. -/
inductive Failure where
  | settings (fault : Settings.DocumentFault)
  /-- The settings ask for a reader that there is none of. -/
  | reader (name : String)
  /-- The settings ask for a transport that there is none of. -/
  | transport (name : String)
  | dump (file : String) (fault : DumpFault)
  | output
  /-- The processed readouts could not be kept. -/
  | keeping
  | network
  /-- The command has stopped in the middle of something. -/
  | panicked
  deriving DecidableEq

/-- The cause of a failure, as far as it does not depend on the machine, and
whether that is all of it. -/
def Failure.cause : Failure → String × Bool
  | .settings .missing => ("Core(Io", false)
  | .settings (.json _) => ("Core(Json", false)
  | .settings (.rule fault) => ("Core(ConfigError(" ++ Quoted.quote fault.message ++ "))", true)
  | .reader name => ("Unsupported(" ++ Quoted.quote ("reader: " ++ name) ++ ")", true)
  | .transport name => ("Unsupported(" ++ Quoted.quote ("DAE comms: " ++ name) ++ ")", true)
  | .dump _ .unreadable => ("EfuIo(Io", false)
  | .dump file (.torn length) =>
    let text := DumpFault.tornText length ++ " (file: " ++ file ++ ")"
    ("EfuIo(InvalidFormat(" ++ Quoted.quote text ++ "))", true)
  | .output => ("EfuIo(CoreError(Io", false)
  | .keeping => ("EfuIo(Io", false)
  | .network => ("Io", false)
  | .panicked => ("", false)

/-- The line of a failure. What is printed when a command stops in the middle depends on
how it was built. -/
def Failure.report (failure : Failure) : String :=
  if failure = .panicked then ""
  else
    let (cause, complete) := failure.cause
    "Error: " ++ cause ++ (if complete then "\n" else "")

def Failure.exit (failure : Failure) : Nat :=
  if failure = .panicked then 101 else 1

/-- What a command prints and how it ends. -/
structure Outcome where
  /-- Zero if the command succeeds. -/
  exit : Nat := 0
  /-- What is printed as output. -/
  stdout : String := ""
  /-- What is printed beside the output. -/
  stderr : String := ""
  deriving DecidableEq, Inhabited

/-- A command that fails after it has printed something beside the output. -/
def Outcome.failed (printed : String) (failure : Failure) : Outcome :=
  { exit := failure.exit, stderr := printed ++ failure.report }

/-- A file given to a command: its name, and its contents if it exists. -/
structure InputFile where
  name : String
  contents : Option Bytes
  deriving DecidableEq, Inhabited

def InputFile.openDump (file : InputFile) : Except Failure DumpSource :=
  (DumpSource.open? file.contents).mapError (.dump file.name)

end Command

end EventFormation
