import EventFormation.Sink

/-!
# Event reports

A report is a table of the routed events with one line for each: the kind, a
time, and a value. The time of a neutron is its time of flight; a pulse has no
value.

A report may be written to a place that takes only so many bytes. What fits of
a line is written, and from then on every line fails.
-/

namespace EventFormation

namespace Report

def header : String := "kind,time,value\n"

/-- The line of an event; publishing writes none. -/
def line : SinkCall → String
  | .pulse time => s!"pulse,{time},\n"
  | .neutron flight pixel => s!"neutron,{flight},{pixel.toNat}\n"
  | .frame time auxiliary => s!"frame,{time},{auxiliary.toNat}\n"
  | .monitor time count => s!"monitor,{time},{count.toNat}\n"
  | .custom time data => s!"custom,{time},{data.toNat}\n"
  | .flush => ""

def table (calls : List SinkCall) : String :=
  calls.foldl (fun text call => text ++ line call) header

def isNeutron : SinkCall → Bool
  | .neutron _ _ => true
  | _ => false

end Report

/-- A report that is being written. -/
structure Report where
  text : String := ""
  /-- How many more bytes the place takes, if there is a limit. -/
  room : Option Nat := none
  neutrons : Nat := 0
  deriving DecidableEq, Inhabited

namespace Report

/-- A line could not be written. -/
inductive Fault where
  | full
  deriving DecidableEq

/-- Writes what fits of a text, all of whose characters take one byte. -/
def write (report : Report) (added : String) : Report × Option Fault :=
  match report.room with
  | none => ({ report with text := report.text ++ added }, none)
  | some room =>
    if added.length ≤ room then
      ({ report with text := report.text ++ added, room := some (room - added.length) }, none)
    else
      ({ report with
          text := report.text ++ String.ofList (added.toList.take room), room := some 0 },
        some .full)

/-- Starts a report in a place that takes so many bytes. -/
def create (room : Option Nat) : Except Fault Report :=
  match ({ room : Report }).write header with
  | (report, none) => .ok report
  | (_, some fault) => .error fault

def tell (report : Report) (call : SinkCall) : Report × Option Fault :=
  match report.write (line call) with
  | (written, none) =>
    if isNeutron call then ({ written with neutrons := written.neutrons + 1 }, none)
    else (written, none)
  | (written, some fault) => (written, some fault)

def sink : Sink Report Fault where
  offer := tell

end Report

end EventFormation
