import EventFormation.Engine

/-!
# Printed counters

The counts of a finished session, line by line. The clustering has a line only
if it has taken a readout in.
-/

namespace EventFormation

namespace Command

/-- The counts of a session as they are printed. -/
def countersText (counters : Counters) : String :=
  let engine := counters.engine
  let routing := counters.routing
  let clustering := counters.clustering
  let common :=
    s!"Packets received: {engine.packets}\n" ++
    s!"Bytes received: {engine.bytes}\n" ++
    s!"Queue overflows: {engine.overflows}\n" ++
    s!"Readout errors: {engine.lostBytes} bytes, {engine.gaps} sequence, {engine.refused} rejected buffers\n" ++
    s!"Dropped readouts: {engine.dropped} ({engine.resets} bin resets)\n" ++
    s!"Events: {routing.events} ({routing.errors} errors)\n" ++
    s!"Frames: {routing.frames}, aux frames: {routing.auxFrames}, beam monitor: {routing.monitors}, custom: {routing.customs}\n"
  if 0 < clustering.added then
    common ++
      s!"Clusters: {clustering.created} created, {clustering.merged} merged, {clustering.emitted} emitted, {clustering.dropped} readouts dropped\n"
  else
    common

end Command

end EventFormation
