import EventFormation.Proofs.PacketStream

/-!
# Numbers in a stream of buffers

Of any stream of buffers a reader takes those that are framed as packets, whatever
follows the header, and holds the readouts of the last buffer only.  A gap is reported
for each packet whose number does not follow that of the packet before it, and buffers
that are refused between two packets do not matter to that.
-/

namespace EventFormation

/-- A buffer that starts with a header, of the mark `EF` and version zero. -/
structure Packet.Framed (buffer : Bytes) : Prop where
  long : headerSize ≤ buffer.length
  first : buffer[0]? = some 0x46
  second : buffer[1]? = some 0x45
  version : buffer[2]? = some 0

namespace Packet

instance (buffer : Bytes) : Decidable (Framed buffer) :=
  decidable_of_iff
    (headerSize ≤ buffer.length ∧ buffer[0]? = some 0x46 ∧ buffer[1]? = some 0x45 ∧
      buffer[2]? = some 0)
    ⟨fun ⟨long, first, second, version⟩ => ⟨long, first, second, version⟩,
      fun ⟨long, first, second, version⟩ => ⟨long, first, second, version⟩⟩

theorem mark_iff (low high : UInt8) :
    low.toNat + 256 * (high.toNat + 256 * 0) = mark ↔ low = 0x46 ∧ high = 0x45 := by
  have small := low.toNat_lt
  rw [← UInt8.toNat_inj, ← UInt8.toNat_inj]
  change _ = 0x4546 ↔ _ = 0x46 ∧ _ = 0x45
  omega

/-- Nothing but the frame of a buffer matters to its being taken. -/
theorem fault?_eq_none_iff (buffer : Bytes) : fault? buffer = none ↔ Framed buffer := by
  unfold fault?
  by_cases long : headerSize ≤ buffer.length
  · obtain ⟨low, high, edition, rest, rfl⟩ :
        ∃ low high edition rest, buffer = low :: high :: edition :: rest := by
      match buffer, long with
      | low :: high :: edition :: rest, _ => exact ⟨low, high, edition, rest, rfl⟩
    have marked : Word.decodeAt (low :: high :: edition :: rest) 0 2 = mark ↔
        low = 0x46 ∧ high = 0x45 :=
      mark_iff low high
    have versioned : UInt8.ofNat (Word.decodeAt (low :: high :: edition :: rest) 2 1) = edition :=
      UInt8.ofNat_toNat
    have header : Framed (low :: high :: edition :: rest) ↔
        (low = 0x46 ∧ high = 0x45) ∧ edition = version := by
      constructor
      · intro framed
        exact ⟨⟨Option.some.inj framed.first, Option.some.inj framed.second⟩,
          Option.some.inj framed.version⟩
      · rintro ⟨⟨rfl, rfl⟩, rfl⟩
        exact ⟨long, rfl, rfl, rfl⟩
    rw [if_neg (Nat.not_lt.mpr long), versioned, header, ← marked]
    by_cases sameMark : Word.decodeAt (low :: high :: edition :: rest) 0 2 = mark
    · by_cases sameVersion : edition = version
      · simp [sameVersion]
      · simp [sameMark, sameVersion]
    · simp [sameMark]
  · rw [if_pos (Nat.lt_of_not_le long)]
    constructor
    · intro none
      contradiction
    · intro framed
      exact absurd framed.long long

theorem framed_encode (number : UInt32) (readouts : List Readout) :
    Framed (encode number readouts) :=
  (fault?_eq_none_iff _).mp (fault?_encode number readouts)

/-- How often one of some numbers does not follow the one before it. -/
def breaks (numbers : List UInt32) : Nat :=
  (numbers.zip numbers.tail).countP fun pair => pair.2 ≠ pair.1 + 1

theorem breaks_cons_cons (number next : UInt32) (rest : List UInt32) :
    breaks (number :: next :: rest) =
      (if next ≠ number + 1 then 1 else 0) + breaks (next :: rest) := by
  simp only [breaks, List.tail_cons, List.zip_cons_cons, List.countP_cons, decide_eq_true_eq]
  exact Nat.add_comm _ _

end Packet

namespace PacketReader

variable (reader : PacketReader) {buffer : Bytes}

theorem read_of_not_framed (other : ¬Packet.Framed buffer) :
    ∃ fault, reader.read buffer = ({ reader with readouts := [] }, .error fault) := by
  cases found : Packet.fault? buffer with
  | none => exact absurd ((Packet.fault?_eq_none_iff buffer).mp found) other
  | some fault =>
      refine ⟨fault, ?_⟩
      rw [read, found]

theorem read_of_framed (framed : Packet.Framed buffer) :
    let records := buffer.drop Packet.headerSize
    ∃ summary, reader.read buffer =
        ({ readouts := (Record.decodeAll records).filter Record.known
           expected := some (Packet.number buffer + 1) }, .ok summary) ∧
      summary.gaps = if reader.gapBefore (Packet.number buffer) then 1 else 0 := by
  intro records
  have taken := (Packet.fault?_eq_none_iff buffer).mpr framed
  have known : (Record.decodeKnown records).1 = (Record.decodeAll records).filter Record.known :=
    (Record.decodeOnto_spec #[] records).1
  refine ⟨{ (Record.decodeKnown records).2 with
    gaps := if reader.gapBefore (Packet.number buffer) then 1 else 0 }, ?_, rfl⟩
  rw [read, taken, ← known]

/-- What the reader holds after each of some buffers. -/
def held (reader : PacketReader) : List Bytes → List (List Readout)
  | [] => []
  | buffer :: rest =>
    let onward := (reader.read buffer).1
    onward.readouts :: onward.held rest

/-- The gaps in a stream are the breaks in the numbers of its packets. -/
theorem gapsIn_readAll (last : Option UInt32) (expected : reader.expected = last.map (· + 1))
    (buffers : List Bytes) :
    gapsIn (reader.readAll buffers).2 =
      Packet.breaks (last.toList ++
        (buffers.filter fun buffer => Packet.Framed buffer).map Packet.number) := by
  induction buffers generalizing reader last with
  | nil =>
      cases last with
      | none => rfl
      | some number => rfl
  | cons buffer rest induction =>
      by_cases framed : Packet.Framed buffer
      · obtain ⟨summary, taken, gap⟩ := reader.read_of_framed framed
        have onward := induction
          { readouts := (Record.decodeAll (buffer.drop Packet.headerSize)).filter Record.known
            expected := some (Packet.number buffer + 1) } (some (Packet.number buffer)) rfl
        rw [List.filter_cons_of_pos (by simpa), List.map_cons, readAll, taken]
        dsimp only
        rw [gapsIn_cons, onward]
        change summary.gaps + _ = _
        rw [gap, gapBefore, expected]
        cases last with
        | none => exact Nat.zero_add _
        | some number =>
            have follows : (Packet.number buffer != number + 1) = true ↔
                Packet.number buffer ≠ number + 1 := bne_iff_ne
            simp only [Option.map_some, follows]
            exact (Packet.breaks_cons_cons _ _ _).symm
      · obtain ⟨fault, refused⟩ := reader.read_of_not_framed framed
        rw [List.filter_cons_of_neg (by simpa), readAll, refused]
        refine Eq.trans ?_ (induction { reader with readouts := [] } last expected)
        exact Nat.zero_add _

/-- The packets of a writer are read one after the other, if the reader expects the first
of them or anything. -/
theorem readAll_writeAll (writer : PacketWriter)
    (expected : ∀ number ∈ reader.expected, number = writer.next) {batches : List (List Readout)}
    (known : ∀ batch ∈ batches, ∀ readout ∈ batch, Record.known readout = true) :
    let buffers := (writer.writeAll batches).1
    reader.held buffers = batches ∧
      ∀ report ∈ (reader.readAll buffers).2, ∃ summary,
        report = .ok summary ∧ summary.gaps = 0 ∧ summary.lostBytes = 0 := by
  induction batches generalizing reader writer with
  | nil => exact ⟨rfl, fun _ member => absurd member List.not_mem_nil⟩
  | cons batch rest induction =>
      obtain ⟨knownFirst, knownRest⟩ := List.forall_mem_cons.mp known
      have whole : batch.filter Record.known = batch := List.filter_eq_self.mpr knownFirst
      have next : ∀ number ∈ some (writer.next + 1), number = writer.next + 1 := by
        rintro number ⟨⟩
        rfl
      have onward := induction { readouts := batch, expected := some (writer.next + 1) }
        { next := writer.next + 1 } next knownRest
      obtain ⟨held, reports⟩ := onward
      have first : reader.read (Packet.encode writer.next batch) =
          ({ readouts := batch, expected := some (writer.next + 1) },
            .ok (Record.decodeKnown (Record.encodeAll batch)).2) := by
        have follows : reader.gapBefore writer.next = false := by
          unfold gapBefore
          cases found : reader.expected with
          | none => rfl
          | some number =>
              rw [expected number found]
              exact bne_self_eq_false _
        have none := Record.gaps_decodeKnown (Record.encodeAll batch)
        rw [read_encode, follows, whole, if_neg Bool.false_ne_true, ← none]
      simp only [PacketWriter.writeAll, PacketWriter.write, PacketReader.held, readAll, first]
      refine ⟨congrArg (batch :: ·) held, List.forall_mem_cons.mpr ⟨?_, reports⟩⟩
      exact ⟨_, rfl, Record.gaps_decodeKnown _, Record.lostBytes_decodeKnown knownFirst⟩

/-- A reader takes the buffers that are framed as packets, and holds the readouts of the last
one alone.  After a refused buffer it holds none, and expects the same number as before.
Of any stream, a gap is reported for each packet whose number does not follow that of the
packet before it.  So the packets of a writer are read without a gap or a loss, wherever
their numbers start, and yield what was written. -/
theorem stream_followed :
    (∀ (reader : PacketReader) (buffer : Bytes),
      let (after, report) := reader.read buffer
      (report.isOk = true ↔ Packet.Framed buffer) ∧
        (Packet.Framed buffer →
          after.readouts =
              (Record.decodeAll (buffer.drop Packet.headerSize)).filter Record.known ∧
            after.expected = some (Packet.number buffer + 1)) ∧
        (¬Packet.Framed buffer → after = { reader with readouts := [] })) ∧
    (∀ buffers, gapsIn (readAll {} buffers).2 =
      Packet.breaks ((buffers.filter fun buffer => Packet.Framed buffer).map Packet.number)) ∧
    ∀ (start : UInt32) (batches : List (List Readout)),
      (∀ batch ∈ batches, ∀ readout ∈ batch, Record.known readout = true) →
        let buffers := (PacketWriter.writeAll { next := start } batches).1
        held {} buffers = batches ∧
          ∀ report ∈ (readAll {} buffers).2, ∃ summary,
            report = .ok summary ∧ summary.gaps = 0 ∧ summary.lostBytes = 0 := by
  refine ⟨?_, ?_, ?_⟩
  · intro reader buffer
    by_cases framed : Packet.Framed buffer
    · obtain ⟨summary, taken, -⟩ := reader.read_of_framed framed
      rw [taken]
      refine ⟨⟨fun _ => framed, fun _ => rfl⟩, fun _ => ⟨rfl, rfl⟩, ?_⟩
      intro other
      exact absurd framed other
    · obtain ⟨fault, refused⟩ := reader.read_of_not_framed framed
      rw [refused]
      refine ⟨⟨?_, ?_⟩, ?_, fun _ => rfl⟩
      · intro taken
        exact absurd taken Bool.false_ne_true
      · intro taken
        exact absurd taken framed
      · intro taken
        exact absurd taken framed
  · exact gapsIn_readAll {} none rfl
  · intro start batches known
    exact readAll_writeAll {} { next := start } (fun _ member => nomatch member) known

/-- The numbers of two packets wrap around, with a refused buffer between them that has the
wrong version, and a third one is out of order. -/
theorem wrapped_stream_followed :
    let batches : List (List Readout) :=
      [[.neutron 1000 10 20 3], [.marker .frameStart 2000 0, .neutron 3000 11 21 4]]
    let packets := (PacketWriter.writeAll { next := 0xffffffff } batches).1
    let refused : Bytes := [0x46, 0x45, 1, 0, 9, 0, 0, 0]
    let stray := Packet.encode 7 []
    let buffers := packets.take 1 ++ refused :: packets.drop 1 ++ [stray]
    (∀ batch ∈ batches, ∀ readout ∈ batch, Record.known readout = true) ∧
      ¬Packet.Framed refused ∧
      buffers.map (fun buffer => decide (Packet.Framed buffer)) = [true, false, true, true] ∧
      (read { expected := some 0 } refused).1 = { expected := some 0 } ∧
      held {} packets = batches ∧
      gapsIn (readAll {} buffers).2 = 1 := by
  intro batches packets refused stray buffers
  have known : ∀ batch ∈ batches, ∀ readout ∈ batch, Record.known readout = true := by decide
  have other : ¬Packet.Framed refused := by decide
  have taken : buffers.map (fun buffer => decide (Packet.Framed buffer)) =
      [true, false, true, true] := by
    decide +kernel
  have breaks : Packet.breaks ((buffers.filter fun buffer => Packet.Framed buffer).map
      Packet.number) = 1 := by
    decide +kernel
  obtain ⟨one, gaps, written⟩ := stream_followed
  obtain ⟨-, -, left⟩ := one { expected := some 0 } refused
  exact ⟨known, other, taken, left other, (written 0xffffffff batches known).1,
    (gaps buffers).trans breaks⟩

end PacketReader

end EventFormation
