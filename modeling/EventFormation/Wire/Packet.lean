import EventFormation.Text.Hex
import EventFormation.Wire.Summary

/-!
# Packets

A packet is a header of eight bytes and a string of packed records. The header
holds the mark `EF`, a version, a reserved byte and the number of the packet.
The numbers of consecutive packets are consecutive and wrap around; a reader
counts every place where they are not.

A packet that is too short, has another mark or another version is refused as
a whole: it yields no readout and leaves the expected number as it was.
-/

namespace EventFormation

namespace Packet

def headerSize : Nat := 8

/-- The mark at the start of a packet, as a word. -/
def mark : Nat := 0x4546

/-- The only version that is read. -/
def version : UInt8 := 0

/-- The bytes of a packet with that number. -/
def encode (number : UInt32) (readouts : List Readout) : Bytes :=
  Word.encode 2 mark ++ [version, 0] ++ Word.encode 4 number.toNat ++
    Record.encodeAll readouts

/-- The number of the packet in a buffer. -/
def number (buffer : Bytes) : UInt32 :=
  .ofNat (Word.decodeAt buffer 4 4)

/-- Why a buffer is no packet. -/
inductive Fault where
  | short (length : Nat)
  /-- The buffer starts with another mark. -/
  | badMark (mark : Nat)
  | badVersion (version : UInt8)
  deriving DecidableEq

def Fault.message : Fault → String
  | .short length => s!"buffer of {length} bytes is shorter than the header"
  | .badMark mark => "bad magic 0x" ++ String.ofList (Hex.fixed 4 mark)
  | .badVersion version => s!"unsupported version {version.toNat}"

/-- What is reported for a refused buffer, with where it comes from. -/
def Fault.report (fault : Fault) : String :=
  "parse error: " ++ fault.message

/-- The reason to refuse a buffer, if there is one. -/
def fault? (buffer : Bytes) : Option Fault :=
  if buffer.length < headerSize then some (.short buffer.length)
  else if Word.decodeAt buffer 0 2 ≠ mark then some (.badMark (Word.decodeAt buffer 0 2))
  else if .ofNat (Word.decodeAt buffer 2 1) ≠ version then
    some (.badVersion (.ofNat (Word.decodeAt buffer 2 1)))
  else none

end Packet

/-- Numbers the packets it writes. -/
structure PacketWriter where
  /-- Number of the next packet. -/
  next : UInt32 := 0
  deriving DecidableEq, Inhabited

/-- The packet of one batch of readouts, and the writer for the next one. -/
def PacketWriter.write (writer : PacketWriter) (readouts : List Readout) :
    Bytes × PacketWriter :=
  (Packet.encode writer.next readouts, { next := writer.next + 1 })

/-- The packets of several batches, and the writer for the next one. -/
def PacketWriter.writeAll (writer : PacketWriter) : List (List Readout) → List Bytes × PacketWriter
  | [] => ([], writer)
  | readouts :: rest =>
    let (packet, writer) := writer.write readouts
    let (packets, writer) := writer.writeAll rest
    (packet :: packets, writer)

/-- Reads packets and follows their numbers. -/
structure PacketReader where
  /-- The readouts of the last buffer that was read. -/
  readouts : List Readout := []
  /-- The number that the next packet should have, once one has been read. -/
  expected : Option UInt32 := none
  deriving DecidableEq, Inhabited

namespace PacketReader

/-- The name of the format of the packets. -/
def formatName : String := "packed"

/-- Whether a packet with that number follows a gap. -/
def gapBefore (reader : PacketReader) (number : UInt32) : Bool :=
  match reader.expected with
  | none => false
  | some expected => number != expected

/-- Reads one buffer. -/
def read (reader : PacketReader) (buffer : Bytes) :
    PacketReader × Except Packet.Fault Summary :=
  match Packet.fault? buffer with
  | some fault => ({ reader with readouts := [] }, .error fault)
  | none =>
    let number := Packet.number buffer
    let (readouts, summary) := Record.decodeKnown (buffer.drop Packet.headerSize)
    ({ readouts, expected := some (number + 1) },
      .ok { summary with gaps := if reader.gapBefore number then 1 else 0 })

end PacketReader

end EventFormation
