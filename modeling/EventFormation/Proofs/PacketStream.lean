import EventFormation.Proofs.PackedRecords
import EventFormation.Wire.Packet

/-!
# Packets, written and read

A packet that was written is never refused.  Its readouts of known kind are read
back, and so is its number, which is the one that the packet before it has made
the reader expect.
-/

namespace EventFormation

namespace Record

theorem gaps_foldl_accept (records : List Bytes) (state : Array Readout × Summary) :
    (records.foldl accept state).2.gaps = state.2.gaps := by
  induction records generalizing state with
  | nil => rfl
  | cons record records induction =>
      have step : (accept state record).2.gaps = state.2.gaps := by
        unfold accept
        dsimp only
        split <;> rfl
      rw [List.foldl_cons, induction, step]

theorem gaps_decodeKnown (bytes : Bytes) : (decodeKnown bytes).2.gaps = 0 :=
  gaps_foldl_accept _ _

theorem decodeAll_encoded (readouts : List Readout) : decodeAll (encodeAll readouts) = readouts := by
  have read := decodeAll_encodeAll readouts (by decide : ([] : Bytes).length < size)
  rwa [List.append_nil] at read

theorem decodeKnown_spec (readouts : List Readout) :
    (decodeKnown (encodeAll readouts)).1 = readouts.filter known ∧
      size * (readouts.filter known).length + (decodeKnown (encodeAll readouts)).2.lostBytes =
        size * readouts.length := by
  obtain ⟨read, counted, -⟩ := decodeOnto_spec #[] (encodeAll readouts)
  rw [decodeAll_encoded] at read counted
  exact ⟨read, counted.trans (length_encodeAll readouts)⟩

theorem decodeKnown_encodeAll (readouts : List Readout) :
    (decodeKnown (encodeAll readouts)).1 = readouts.filter known :=
  (decodeKnown_spec readouts).1

theorem lostBytes_decodeKnown {readouts : List Readout}
    (allKnown : ∀ readout ∈ readouts, known readout = true) :
    (decodeKnown (encodeAll readouts)).2.lostBytes = 0 := by
  have counted := (decodeKnown_spec readouts).2
  rw [List.filter_eq_self.mpr allKnown] at counted
  exact Nat.add_eq_left.mp counted

end Record

namespace Packet

variable (number : UInt32) (readouts : List Readout)

theorem length_header :
    (Word.encode 2 mark ++ [version, 0] ++ Word.encode 4 number.toNat).length = headerSize := by
  simp [Word.length_encode, headerSize]

theorem length_encode :
    (encode number readouts).length = headerSize + readouts.length * Record.size := by
  rw [encode, List.length_append, length_header, Record.length_encodeAll, Nat.mul_comm]

theorem fault?_encode : fault? (encode number readouts) = none := by
  have long : ¬(encode number readouts).length < headerSize := by
    rw [length_encode]
    exact Nat.not_lt.mpr (Nat.le_add_right _ _)
  have marked : Word.decodeAt (encode number readouts) 0 2 = mark :=
    Word.decodeAt_written [] _ (by simp [encode]; rfl) rfl (by decide)
  have versioned : Word.decodeAt (encode number readouts) 2 1 = version.toNat :=
    Word.decodeAt_written (Word.encode 2 mark)
      ([0] ++ Word.encode 4 number.toNat ++ Record.encodeAll readouts)
      (by simp [encode, Word.encode]) rfl (by decide)
  rw [fault?, if_neg long, if_neg (by simp [marked]), versioned, if_neg (by simp)]

theorem number_encode : Packet.number (encode number readouts) = number := by
  have found : Word.decodeAt (encode number readouts) 4 4 = number.toNat :=
    Word.decodeAt_written (Word.encode 2 mark ++ [version, 0]) (Record.encodeAll readouts)
      (by simp [encode]) rfl number.toNat_lt
  rw [Packet.number, found, UInt32.ofNat_toNat]

theorem drop_encode :
    (encode number readouts).drop headerSize = Record.encodeAll readouts := by
  rw [encode, ← length_header number, List.drop_left]

end Packet

namespace PacketReader

theorem read_encode (reader : PacketReader) (number : UInt32) (readouts : List Readout) :
    reader.read (Packet.encode number readouts) =
      ({ readouts := readouts.filter Record.known, expected := some (number + 1) },
        .ok { (Record.decodeKnown (Record.encodeAll readouts)).2 with
          gaps := if reader.gapBefore number then 1 else 0 }) := by
  rw [read, Packet.fault?_encode]
  dsimp only
  rw [Packet.number_encode, Packet.drop_encode, Record.decodeKnown_encodeAll]

/-- Reads buffers in order, and says what is reported of each. -/
def readAll (reader : PacketReader) :
    List Bytes → PacketReader × List (Except Packet.Fault Summary)
  | [] => (reader, [])
  | buffer :: rest =>
    let (onward, report) := reader.read buffer
    let (last, reports) := onward.readAll rest
    (last, report :: reports)

/-- How many gaps are reported. -/
def gapsIn (reports : List (Except Packet.Fault Summary)) : Nat :=
  reports.foldr (fun report count => (report.toOption.map Summary.gaps).getD 0 + count) 0

theorem gapsIn_cons (report : Except Packet.Fault Summary)
    (reports : List (Except Packet.Fault Summary)) :
    gapsIn (report :: reports) = (report.toOption.map Summary.gaps).getD 0 + gapsIn reports :=
  rfl

end PacketReader

namespace PacketWriter

/-- The packet of each batch has the number that follows the one before it. -/
theorem getElem?_writeAll (writer : PacketWriter) (batches : List (List Readout)) (place : Nat) :
    (writer.writeAll batches).1[place]? =
      batches[place]?.map (Packet.encode (writer.next + .ofNat place)) := by
  induction batches generalizing writer place with
  | nil => rfl
  | cons readouts rest induction =>
      cases place with
      | zero => simp [writeAll, write]
      | succ place =>
          have numbered : writer.next + 1 + UInt32.ofNat place =
              writer.next + UInt32.ofNat (place + 1) := by
            rw [UInt32.ofNat_add, UInt32.add_assoc, UInt32.add_comm 1]
            rfl
          simp only [writeAll, List.getElem?_cons_succ, induction]
          rw [write, numbered]

theorem length_writeAll (writer : PacketWriter) (batches : List (List Readout)) :
    (writer.writeAll batches).1.length = batches.length := by
  induction batches generalizing writer with
  | nil => rfl
  | cons readouts rest induction => exact congrArg (· + 1) (induction _)

end PacketWriter

end EventFormation
