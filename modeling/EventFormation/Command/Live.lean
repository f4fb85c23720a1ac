import EventFormation.Command.Replay

/-!
# Forming events from live input

The settings name a reader and a transport, of which there is one each; the
names may be written in any case. The session is fed with what arrives until
the input is closed.
-/

namespace EventFormation

namespace Command

/-- A name in lower case, as far as it is ASCII. -/
def lowered (name : String) : String :=
  String.ofList (name.toList.map Char.toLower)

/-- Why settings cannot be used for live input, if they cannot. -/
def unsupported? (settings : Settings) : Option Failure :=
  if lowered settings.reader ≠ "packed" then some (.reader settings.reader)
  else if lowered settings.transport ≠ "udp" then some (.transport settings.transport)
  else none

/-- Forms events from what arrives. Gives the printed counts and what was
written. -/
def performLive (creates : String → Bool) (file : InputFile) (dump : Option String)
    (arrivals : List Arrival) : Except Failure (String × Written) := do
  let settings ← (Settings.ofFile file.contents).mapError .settings
  match unsupported? settings with
  | some failure => .error failure
  | none =>
    let session ← openSession creates settings dump
    match session.run Report.sink (DumpSeries.archive creates) false 0 arrivals with
    | (_, some refusal) => .error (.ofRefusal refusal)
    | (finished, none) => pure (countersText finished.engine.counters, written finished)

/-- Forms events from what arrives until the input is closed. -/
def live (creates : String → Bool) (file : InputFile) (dump : Option String)
    (arrivals : List Arrival) : Outcome × Option Written :=
  match performLive creates file dump arrivals with
  | .error failure => (.failed "" failure, none)
  | .ok (printed, written) => ({ stdout := printed }, some written)

end Command

end EventFormation
