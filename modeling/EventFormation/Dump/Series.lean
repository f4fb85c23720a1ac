import EventFormation.Wire.Record

/-!
# Dump series

Processed readouts are kept in a series of files named after a stem and
numbered from zero. A file holds packed records and nothing else. A series
moves on to its next file when it is told to, or, if it has a split interval,
when its current file has been open for that long.

Few bytes are held back until there are more of them. A file has all of its
bytes when it has been flushed or closed.

Whether a file of some name can be created is up to the file system, so its
answer is given to all that asks for one.
-/

namespace EventFormation

/-- A series of dump files, the last of which is open. -/
structure DumpSeries where
  /-- What the names of the files start with. -/
  stem : String
  /-- Number of the file that was asked for last, created or not. -/
  number : Nat := 0
  /-- The names of the files, oldest first. -/
  names : List String
  /-- The closed files, oldest first. -/
  closed : List Bytes := []
  /-- What the open file holds. -/
  current : Bytes := []
  /-- What is held back from the open file. -/
  pending : Bytes := []
  /-- Number of readouts taken for all files. -/
  records : Nat := 0
  /-- Milliseconds after which a file is closed, if there is such a limit. -/
  split : Option Nat := none
  /-- Milliseconds for which the open file has been open. -/
  age : Nat := 0
  deriving DecidableEq, Inhabited

/-- Why a dump series does not go on. -/
inductive DumpSeries.Fault where
  /-- The next file cannot be created. -/
  | uncreated
  deriving DecidableEq

namespace DumpSeries

/-- The name of a file of the series. -/
def fileName (stem : String) (number : Nat) : String :=
  s!"{stem}-{number}.bin"

/-- A series with one empty file. A split interval of zero means none. -/
def fresh (stem : String) (split : Option Nat) : DumpSeries :=
  { stem, names := [fileName stem 0], split := split.filter (0 < ·) }

def bufferSize : Nat := 8192

/-- Writes what is held back to the open file. -/
def flush (series : DumpSeries) : DumpSeries :=
  { series with current := series.current ++ series.pending, pending := [] }

/-- Takes bytes for the open file. What is held back is written first if they do
not fit behind it, and they are written themselves if they fill the buffer. -/
def write (series : DumpSeries) (bytes : Bytes) : DumpSeries :=
  let room := bufferSize - series.pending.length
  let ready := if room < bytes.length then series.flush else series
  if bufferSize ≤ bytes.length then { ready with current := ready.current ++ bytes }
  else { ready with pending := ready.pending ++ bytes }

def push (series : DumpSeries) (readouts : List Readout) : DumpSeries :=
  let written := series.write (Record.encodeAll readouts)
  { written with records := written.records + readouts.length }

/-- Whether the open file has been open for the split interval. -/
def due (series : DumpSeries) : Bool :=
  match series.split with
  | none => false
  | some split => split ≤ series.age

def wait (series : DumpSeries) (millis : Nat) : DumpSeries :=
  { series with age := series.age + millis }

def files (series : DumpSeries) : List Bytes :=
  series.closed ++ [series.current]

section

variable (creates : String → Bool)

/-- Creates the first file of a series. -/
def create (stem : String) (split : Option Nat) : Except Fault DumpSeries :=
  if creates (fileName stem 0) then .ok (fresh stem split) else .error .uncreated

/-- Writes what is held back, closes the open file and starts the next one. If
that cannot be created, the open file stays and the number has been used up. -/
def rotate (series : DumpSeries) : DumpSeries × Option Fault :=
  let flushed := { series.flush with number := series.number + 1 }
  let name := fileName series.stem flushed.number
  if creates name then
    ({ flushed with
        names := flushed.names ++ [name]
        closed := flushed.closed ++ [flushed.current]
        current := []
        age := 0 }, none)
  else
    (flushed, some .uncreated)

/-- Starts the next file if the open one is due, and says whether it was. -/
def checkRotate (series : DumpSeries) : DumpSeries × Except Fault Bool :=
  if series.due then
    match series.rotate creates with
    | (rotated, none) => (rotated, .ok true)
    | (flushed, some fault) => (flushed, .error fault)
  else
    (series, .ok false)

end

end DumpSeries

end EventFormation
