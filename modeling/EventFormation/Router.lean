import EventFormation.Readout
import EventFormation.Settings.Detector
import EventFormation.Sink

/-!
# Routing

The router turns processed readouts into events for a sink. A neutron becomes
a time of flight and a pixel; frames, monitor counts and instrument events are
passed on as they are.

Times of flight are measured against a pulse that the sink has been told of.
Without frames a pulse starts where a block of readouts starts, and is kept as
long as neutrons are pending and the block is at most a second after it. With
frames the pulse is the latest frame start that lies far enough before the
fine bin of the neutron; frame starts wait in a queue until then.
-/

namespace EventFormation

/-- How long after its pulse a block may start before there is a new pulse. -/
def pulseLifetime : Nat := 1000000000

/-- Counts of routed readouts. -/
structure RouteCounts where
  /-- Neutrons told to the sink. -/
  events : Nat := 0
  /-- Neutrons without a pulse or a pixel, and readouts of kinds that have no
  route. -/
  errors : Nat := 0
  frames : Nat := 0
  auxFrames : Nat := 0
  monitors : Nat := 0
  customs : Nat := 0
  deriving DecidableEq, Inhabited

/-- What the routing remembers between readouts. -/
structure Router where
  detector : Detector
  fineWidth : Nat
  /-- The pulse that the sink has been told of. -/
  pulse : Option Nat := none
  /-- Neutrons told to the sink since the last pulse or flush. -/
  pending : Nat := 0
  /-- Frame starts that are not in use yet. -/
  queue : List Nat := []
  /-- The frame start in use. -/
  frame : Option Nat := none
  /-- The latest fine bin for which the queue has been looked at. -/
  horizon : Nat := 0
  counts : RouteCounts := {}
  deriving DecidableEq, Inhabited

namespace Router

/-- A router that has seen nothing. -/
def create (detector : Detector) (fineWidth : Nat) : Router :=
  { detector, fineWidth }

/-- How far a frame start must lie before the fine bin of a neutron. -/
def delay (router : Router) : Nat :=
  router.detector.minFlight + router.fineWidth

/-- The start of the fine bin of an instant. -/
def floor (router : Router) (time : Nat) : Nat :=
  time / router.fineWidth * router.fineWidth

/-- Starts a pulse, unless it is the current one. -/
def startPulse (router : Router) (time : Nat) : Plan Router :=
  if router.pulse = some time then
    .done router
  else
    .tell (.pulse time) router (.done { router with pulse := some time, pending := 0 })

/-- Whether a block that starts at `base` needs a new pulse. -/
def needsPulse (router : Router) (base : Nat) : Bool :=
  match router.pulse with
  | none => true
  | some pulse => router.pending == 0 || base < pulse || pulse + pulseLifetime < base

/-- The earliest of `base` and the times of the neutrons. Clusters carried over
from the block before start ahead of the base. -/
def blockStart (base : Nat) (readouts : List Readout) : Nat :=
  (readouts.filter Readout.isNeutron).foldl
    (fun start readout => min start readout.time.toNat) base

/-- Takes the frame starts that are far enough before a fine bin out of the
queue, and puts the last of them into use. -/
def shiftQueue (delay floor : Nat) (frame : Option Nat) : List Nat → Option Nat × List Nat
  | [] => (frame, [])
  | front :: rest =>
    if front + delay ≤ floor then shiftQueue delay floor (some front) rest
    else (frame, front :: rest)

/-- Looks at the queue for a neutron of that time, once for each fine bin. -/
def checkQueue (router : Router) (time : Nat) : Plan Router :=
  let floor := router.floor time
  if router.horizon < floor then
    let (frame, queue) := shiftQueue router.delay floor router.frame router.queue
    let shifted := { router with horizon := floor, frame, queue }
    match frame with
    | some pulse =>
      if queue.length < router.queue.length then shifted.startPulse pulse else .done shifted
    | none => .done shifted
  else
    .done router

/-- The pulse that a neutron is measured against. -/
def reference (router : Router) : Option Nat :=
  if router.detector.frameMode then router.frame else router.pulse

/-- The time of flight and the pixel of a neutron, if it has both. -/
def event? (router : Router) (readout : Readout) : Option (Nat × UInt32) :=
  match router.reference, router.detector.pixel? readout.x readout.y with
  | some pulse, some pixel =>
    if pulse ≤ readout.time.toNat then some (readout.time.toNat - pulse, pixel) else none
  | _, _ => none

/-- Tells the sink of a neutron, or counts it as an error. -/
def tellNeutron (router : Router) (readout : Readout) : Plan Router :=
  match router.event? readout with
  | some (flight, pixel) =>
    .tell (.neutron flight pixel) router
      (.done { router with
        pending := router.pending + 1
        counts.events := router.counts.events + 1 })
  | none => .done { router with counts.errors := router.counts.errors + 1 }

def routeNeutron (router : Router) (readout : Readout) : Plan Router :=
  if router.detector.frameMode then
    (router.checkQueue readout.time.toNat).andThen (·.tellNeutron readout)
  else
    router.tellNeutron readout

/-- Queues a frame start. The first one is put into use at once. -/
def queueFrame (router : Router) (time : Nat) : Plan Router :=
  if router.detector.frameMode then
    let queue := router.queue ++ [time]
    match router.frame, queue with
    | none, front :: rest => { router with frame := some front, queue := rest }.startPulse front
    | _, _ => .done { router with queue }
  else
    .done router

def routeFrame (router : Router) (time : Nat) : Plan Router :=
  .tell (.frame time false) router
    ((router.queueFrame time).andThen fun queued =>
      .done { queued with counts.frames := queued.counts.frames + 1 })

/-- Routes one readout. -/
def routeOne (router : Router) (readout : Readout) : Plan Router :=
  let time := readout.time.toNat
  match readout.kind with
  | .neutron => router.routeNeutron readout
  | .frameStart => router.routeFrame time
  | .auxFrameStart =>
    .tell (.frame time true) router
      (.done { router with counts.auxFrames := router.counts.auxFrames + 1 })
  | .beamMonitor =>
    .tell (.monitor time readout.data) router
      (.done { router with counts.monitors := router.counts.monitors + 1 })
  | .other =>
    .tell (.custom time readout.data) router
      (.done { router with counts.customs := router.counts.customs + 1 })
  | .blank => .done router
  | .frameDeassert | .veto | .invalid =>
    .done { router with counts.errors := router.counts.errors + 1 }

/-- Routes readouts one after the other. -/
def routeAll (router : Router) : List Readout → Plan Router
  | [] => .done router
  | readout :: rest => (router.routeOne readout).andThen (·.routeAll rest)

/-- Starts a pulse for a block, if it needs one. -/
def openBlock (router : Router) (base : Nat) (readouts : List Readout) : Plan Router :=
  if !router.detector.frameMode && router.needsPulse base then
    router.startPulse (blockStart base readouts)
  else
    .done router

/-- Routes a block of processed readouts whose first coarse bin starts at
`base`. A block without readouts does nothing. -/
def route (router : Router) (base : Nat) (readouts : List Readout) : Plan Router :=
  if readouts.isEmpty then
    .done router
  else
    (router.openBlock base readouts).andThen (·.routeAll readouts)

/-- Has the sink publish what is pending. The next block may start a pulse. -/
def flush (router : Router) : Plan Router :=
  let flushed := { router with pending := 0 }
  .tell .flush flushed (.done flushed)

/-- Forgets the frame starts after a jump in time. -/
def resetFrames (router : Router) : Router :=
  { router with queue := [], frame := none, horizon := 0 }

end Router

end EventFormation
