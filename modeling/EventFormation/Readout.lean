/-!
# Detector readouts

A readout is one record of the data acquisition: when something happened,
what kind of thing it was, where on the detector and with how much charge.
Only neutron readouts have a position that means anything; the other kinds
mark frames, monitor counts and instrument events on the same clock.

The fields are machine words because the packed record fixes their widths.
Times are nanoseconds.
-/

namespace EventFormation

/-- What a readout reports. -/
inductive EventKind where
  | blank
  /-- A neutron, the only kind that is clustered. -/
  | neutron
  | frameStart
  | auxFrameStart
  /-- The end of a frame signal. -/
  | frameDeassert
  | veto
  /-- A beam monitor count, carried in the payload. -/
  | beamMonitor
  /-- An instrument event, carried in the payload. -/
  | other
  | invalid
  deriving DecidableEq, Inhabited

namespace EventKind

/-- Every kind, in the order of the codes. -/
def all : List EventKind :=
  [.blank, .neutron, .frameStart, .auxFrameStart, .frameDeassert, .veto,
    .beamMonitor, .other, .invalid]

/-- The code of a kind in the packed record. -/
def code : EventKind → UInt8
  | .blank => 0
  | .neutron => 1
  | .frameStart => 2
  | .auxFrameStart => 3
  | .frameDeassert => 4
  | .veto => 5
  | .beamMonitor => 6
  | .other => 7
  | .invalid => 255

/-- The kind of a code; codes without a kind are `invalid`. -/
def ofCode (code : UInt8) : EventKind :=
  if code = 0 then .blank
  else if code = 1 then .neutron
  else if code = 2 then .frameStart
  else if code = 3 then .auxFrameStart
  else if code = 4 then .frameDeassert
  else if code = 5 then .veto
  else if code = 6 then .beamMonitor
  else if code = 7 then .other
  else .invalid

/-- The name of a kind in texts. -/
def name : EventKind → String
  | .blank => "Blank"
  | .neutron => "Neutron"
  | .frameStart => "FrameStart"
  | .auxFrameStart => "FrameAuxStart"
  | .frameDeassert => "FrameDeassert"
  | .veto => "Veto"
  | .beamMonitor => "BeamMonitor"
  | .other => "OtherEvent"
  | .invalid => "Invalid"

def ofName? (name : String) : Option EventKind :=
  all.find? (fun kind => kind.name == name)

/-- What is reported for a name that no kind has. -/
def unknownName (name : String) : String :=
  "invalid event type: " ++ name

theorem ofCode_code (kind : EventKind) : ofCode kind.code = kind := by
  cases kind <;> rfl

/-- A code that names a kind is kept, any other becomes that of `invalid`. -/
theorem code_ofCode (code : UInt8) :
    (ofCode code).code = if code ≤ 7 then code else 255 := by
  by_cases named : code ≤ 7
  · rw [if_pos named]
    have small : code.toNat ≤ 7 := UInt8.le_iff_toNat_le.mp named
    obtain ⟨value, rfl⟩ : ∃ value : Fin 8, code = UInt8.ofNat value.val :=
      ⟨⟨code.toNat, by omega⟩, by simp⟩
    revert value
    decide
  · rw [if_neg named]
    have different : ∀ value : UInt8, value ≤ 7 → code ≠ value := by
      rintro value small rfl
      exact named small
    simp only [ofCode, different 0 (by decide), different 1 (by decide), different 2 (by decide),
      different 3 (by decide), different 4 (by decide), different 5 (by decide),
      different 6 (by decide), different 7 (by decide), if_false]
    rfl

end EventKind

/-- One record of the data acquisition. -/
structure Readout where
  /-- Time of the event in nanoseconds. -/
  time : UInt64 := 0
  kind : EventKind := .blank
  /-- Channel or module that produced it. -/
  source : UInt8 := 0
  x : UInt16 := 0
  y : UInt16 := 0
  /-- Charge or amplitude. -/
  weight : UInt16 := 0
  /-- Payload of the kinds that carry one. -/
  data : UInt32 := 0
  deriving DecidableEq, Inhabited

namespace Readout

def neutron (time : UInt64) (x y weight : UInt16) : Readout :=
  { time, kind := .neutron, x, y, weight }

def marker (kind : EventKind) (time : UInt64) (data : UInt32) : Readout :=
  { time, kind, data }

def isNeutron (readout : Readout) : Bool :=
  readout.kind == .neutron

def text (readout : Readout) : String :=
  s!"Event={readout.kind.name} time={readout.time.toNat} id={readout.source.toNat} x={readout.x.toNat} y={readout.y.toNat} w={readout.weight.toNat} data={readout.data.toNat}"

end Readout

end EventFormation
