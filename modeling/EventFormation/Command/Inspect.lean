import EventFormation.Command.Failure
import EventFormation.Extent
import EventFormation.Text.Fixed

/-!
# Describing a dump file

The size of the file, how many readouts of each kind it holds, and the extents
of their times and of the positions of the neutrons.
-/

namespace EventFormation

namespace Command

/-- The extent of some numbers, if there are any. -/
def extent? : List Nat → Option (Extent Nat)
  | [] => none
  | first :: rest => some (rest.foldl Extent.insert (.point first))

/-- A line for an extent, if there is one. -/
def extentLine (label unit : String) (numbers : List Nat) : String :=
  match extent? numbers with
  | none => ""
  | some extent => s!"{label} range: {extent.lo} - {extent.hi}{unit}\n"

/-- A line for a kind, if there are readouts of it. -/
def kindLine (readouts : List Readout) (kind : EventKind) : String :=
  let count := (readouts.filter (·.kind == kind)).length
  if count = 0 then "" else s!"  {kind.name}: {count}\n"

/-- The size of a file in millions of bytes. -/
def megabytes (bytes : Nat) : Float :=
  bytes.toUInt64.toFloat / 1000000.0

/-- The description of an opened dump file. -/
def describe (name : String) (source : DumpSource) : String :=
  let size := source.bytes.length
  let readouts := source.readAll
  let neutrons := readouts.filter Readout.isNeutron
  s!"File: {name}\n" ++
    s!"Size: {size} bytes ({Fixed.text 2 (megabytes size)} MB)\n" ++
    s!"Records: {source.recordCount}\n" ++
    String.join (EventKind.all.map (kindLine readouts)) ++
    extentLine "Time" " ns" (readouts.map (·.time.toNat)) ++
    extentLine "X" "" (neutrons.map (·.x.toNat)) ++
    extentLine "Y" "" (neutrons.map (·.y.toNat))

def inspect (file : InputFile) : Outcome :=
  match file.openDump with
  | .error failure => .failed "" failure
  | .ok source => { stdout := describe file.name source }

end Command

end EventFormation
