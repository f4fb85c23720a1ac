import EventFormation.Json.Record
import EventFormation.Settings.Basic

/-!
# Settings documents

Settings are written as a JSON record with three records inside. The event lag
is written in milliseconds and the shortest time of flight in microseconds;
both are kept in nanoseconds, cut to the end of the clock.
-/

namespace EventFormation

namespace Settings

def word16 : Json.Reader Nat := Json.unsigned UInt16.size

def word32 : Json.Reader Nat := Json.unsigned UInt32.size

def word64 : Json.Reader Nat := Json.unsigned UInt64.size

/-- The fields of the detector. -/
def detectorFields : List (Json.Field Detector) :=
  [.of "BasePixel" word32 fun detector value => { detector with basePixel := .ofNat value },
    .of "XPixels" word16 fun detector value => { detector with columns := .ofNat value },
    .of "YPixels" word16 fun detector value => { detector with rows := .ofNat value },
    .of "EventLag" word64 fun detector value =>
      { detector with eventLag := saturate (value * 1000000) },
    .of "TOFMode" Json.truth fun detector value => { detector with frameMode := value },
    .of "MinTOF" word64 fun detector value =>
      { detector with minFlight := saturate (value * 1000) },
    .of "DemuxTimeout" word64 fun detector value => { detector with idleMillis := value }]

/-- The fields of the clustering. -/
def clusteringFields : List (Json.Field Clustering) :=
  [.of "Enabled" Json.truth fun clustering value => { clustering with enabled := value },
    .of "NumThreads" word64 fun clustering value => { clustering with lanes := value },
    .of "MaxSpan" word64 fun clustering value => { clustering with limits.span := value },
    .of "MaxDT" word64 fun clustering value => { clustering with limits.gap := value },
    .of "MaxDX" word16 fun clustering value => { clustering with limits.dx := .ofNat value },
    .of "MaxDY" word16 fun clustering value => { clustering with limits.dy := .ofNat value },
    .of "ActiveClusters" word64 fun clustering value => { clustering with slots := value }]

def layoutFields : List (Json.Field Layout) :=
  [.of "CoarseBinBits" word32 fun layout value => { layout with coarseBits := value },
    .of "FineWidthBits" word32 fun layout value => { layout with fineWidthBits := value },
    .of "FineBinBits" word32 fun layout value => { layout with fineBits := value }]

/-- The fields of the whole document. -/
def fields : List (Json.Field Settings) :=
  [.of "Instrument" Json.string fun settings value => { settings with instrument := value },
    .of "Reader" Json.string fun settings value => { settings with reader := value },
    .of "DAEComms" Json.string fun settings value => { settings with transport := value },
    .of "Detector" (Json.record detectorFields {}) fun settings value =>
      { settings with detector := value },
    .of "Clusters" (Json.record clusteringFields {}) fun settings value =>
      { settings with clustering := value },
    .of "EventBinning" (Json.record layoutFields {}) fun settings value =>
      { settings with layout := value }]

/-- Why a document gives no settings. -/
inductive DocumentFault where
  | missing
  | json (fault : Json.Fault)
  | rule (fault : Fault)
  deriving DecidableEq

/-- Reads settings from a document and checks them. -/
def ofBytes (bytes : Bytes) : Except DocumentFault Settings :=
  match Json.document (Json.record fields {}) bytes with
  | .error fault => .error (.json fault)
  | .ok settings => settings.check.mapError .rule

/-- Reads settings from a text and checks them. -/
def ofText (text : String) : Except DocumentFault Settings :=
  ofBytes text.toUTF8.toList

/-- Reads settings from a file with these contents; there are none if the file
is missing. -/
def ofFile (contents : Option Bytes) : Except DocumentFault Settings :=
  match contents with
  | none => .error .missing
  | some bytes => ofBytes bytes

end Settings

end EventFormation
