import EventFormation.Command.Failure
import EventFormation.Link
import EventFormation.Wire.Packet

/-!
# Sending dump files

The readouts of dump files are sent as numbered packets, so many readouts in
each. A file is opened when its turn comes; the first refusal of the link ends
the sending.
-/

namespace EventFormation

namespace Command

/-- The most readouts that are put into one packet. -/
def mostPerPacket : Nat := 3000

/-- How many readouts are put into one packet if so many are asked for. -/
def perPacket (wanted : Nat) : Nat :=
  min (max 1 wanted) mostPerPacket

theorem perPacket_fits (wanted : Nat) :
    max 1 (perPacket wanted) * Record.size < UInt64.size := by
  simp only [perPacket, mostPerPacket, Record.size, UInt64.size]
  omega

def packetBatches (source : DumpSource) (wanted : Nat) : List Batch :=
  (source.batches? (perPacket wanted)).get (source.isSome_batches? (perPacket_fits wanted))

/-- Sends files one after the other. Gives the datagrams that were carried and
the failure that ended the sending, if any. -/
def sendFiles (link : Link) (wanted : Nat) (writer : PacketWriter) :
    List InputFile → List Bytes × Option Failure
  | [] => ([], none)
  | file :: rest =>
    match file.openDump with
    | .error failure => ([], some failure)
    | .ok source =>
      let (datagrams, writer) :=
        writer.writeAll ((packetBatches source wanted).map Batch.readouts)
      match link.send datagrams with
      | (carried, some _) => (carried, some .network)
      | (carried, none) =>
        let (more, failure) := sendFiles link wanted writer rest
        (carried ++ more, failure)

/-- Sends dump files to a destination. Gives the datagrams that were carried. -/
def send (link : Link) (target : String) (files : List InputFile) (wanted : Nat) :
    Outcome × List Bytes :=
  match sendFiles link wanted {} files with
  | (carried, some failure) => (.failed "" failure, carried)
  | (carried, none) =>
    ({ stdout := s!"Sent {carried.length} datagrams to {target}\n" }, carried)

end Command

end EventFormation
