import EventFormation.Limits
import EventFormation.Settings.Detector
import EventFormation.Settings.Layout

/-!
# Settings

Everything the processing depends on, and the rules that make it usable. The
rules are checked in a fixed order and the first one that is broken is
reported; nothing is corrected silently.
-/

namespace EventFormation

/-- Parameters of the clustering. -/
structure Clustering where
  enabled : Bool := true
  lanes : Nat := 1
  limits : Limits := {}
  slots : Nat := 1000
  deriving DecidableEq, Inhabited

/-- Parameters of the whole processing. -/
structure Settings where
  instrument : String := ""
  reader : String := "packed"
  transport : String := "udp"
  detector : Detector := {}
  clustering : Clustering := {}
  layout : Layout := {}
  deriving DecidableEq, Inhabited

namespace Settings

/-- A rule that settings break. -/
inductive Fault where
  | singleCoarseBin
  /-- The window of the ring has too large an exponent. -/
  | windowTooLarge (bits : Nat)
  | noPixels
  | noLanes
  | noSlots
  /-- The ellipse of the limits has a vanishing axis. -/
  | flatEllipse
  /-- Clusters may be longer than a fine bin. -/
  | spanExceedsFineBin (span width : Nat)
  | tooFewFineBins (bins lanes needed : Nat)
  /-- Lanes were asked for without settings, and there were none. -/
  | laneless
  deriving DecidableEq

/-- What is reported for a broken rule. -/
def Fault.message : Fault → String
  | .singleCoarseBin => "CoarseBinBits must be at least 1"
  | .windowTooLarge bits => s!"event binning window of 2^{bits} ns is too large"
  | .noPixels => "XPixels and YPixels must be non-zero"
  | .noLanes => "NumThreads must be at least 1"
  | .noSlots => "ActiveClusters must be at least 1"
  | .flatEllipse => "MaxDX and MaxDY must be non-zero"
  | .spanExceedsFineBin span width =>
    s!"MaxSpan {span} ns exceeds the fine bin width {width} ns"
  | .tooFewFineBins bins lanes needed =>
    s!"{bins} fine bins cannot be split across {lanes} threads (need at least {needed})"
  | .laneless => "clustering needs at least one thread"

/-- What is reported for a broken rule, with where it comes from. -/
def Fault.report (fault : Fault) : String :=
  "configuration error: " ++ fault.message

def layoutFault? (layout : Layout) : Option Fault :=
  if layout.coarseBits = 0 then some .singleCoarseBin
  else if 63 ≤ layout.windowBits then some (.windowTooLarge layout.windowBits)
  else none

/-- The number of fine bins that lanes need: two each, so that the bins they
replay are those of their neighbour alone. -/
def fineBinsFor (lanes : Nat) : Nat :=
  saturate (lanes * 2)

/-- The first rule that the clustering breaks over a valid layout. A cluster
must fit into a fine bin because two bins are replayed for it. -/
def clusteringFault? (clustering : Clustering) (layout : Layout) : Option Fault :=
  if clustering.lanes = 0 then some .noLanes
  else if clustering.slots = 0 then some .noSlots
  else if clustering.limits.dx = 0 ∨ clustering.limits.dy = 0 then some .flatEllipse
  else if layout.fineWidth < clustering.limits.span then
    some (.spanExceedsFineBin clustering.limits.span layout.fineWidth)
  else if layout.fineCount < fineBinsFor clustering.lanes then
    some (.tooFewFineBins layout.fineCount clustering.lanes (fineBinsFor clustering.lanes))
  else none

/-- The first rule that settings break. The clustering is looked at only if it
is enabled. -/
def fault? (settings : Settings) : Option Fault :=
  match layoutFault? settings.layout with
  | some fault => some fault
  | none =>
    if settings.detector.columns = 0 ∨ settings.detector.rows = 0 then some .noPixels
    else if settings.clustering.enabled then
      clusteringFault? settings.clustering settings.layout
    else none

/-- The settings break no rule. -/
def Valid (settings : Settings) : Prop :=
  settings.fault? = none

instance (settings : Settings) : Decidable settings.Valid :=
  inferInstanceAs (Decidable (_ = _))

/-- The settings, if they break no rule. -/
def check (settings : Settings) : Except Fault Settings :=
  match settings.fault? with
  | some fault => .error fault
  | none => .ok settings

theorem layoutFault?_eq_none_iff (layout : Layout) :
    layoutFault? layout = none ↔ layout.Valid := by
  unfold layoutFault? Layout.Valid
  split
  · simp; omega
  · split
    · simp; omega
    · simp; omega

theorem Valid.layout {settings : Settings} (valid : settings.Valid) :
    settings.layout.Valid := by
  rw [← layoutFault?_eq_none_iff]
  unfold Valid fault? at valid
  cases found : layoutFault? settings.layout with
  | none => rfl
  | some fault => simp [found] at valid

end Settings

end EventFormation
