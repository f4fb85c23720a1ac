import EventFormation.Intake
import EventFormation.Proofs.PacketSequence
import EventFormation.Proofs.SessionFeeds

/-!
# Traffic through an input queue

Buffers arrive at a queue and a consumer takes them, in any order of the two.
Nothing is lost without being counted, nothing overtakes, and the queue never
grows beyond its capacity.

If the buffers are packets of one writer, the reader behind the queue sees the
losses as gaps: one for each place at which any number of packets is missing
between two that it has read.
-/

namespace EventFormation

/-- How many of the places do not follow the one before them. -/
def skips (places : List Nat) : Nat :=
  (places.zip places.tail).countP fun pair => pair.1 + 1 < pair.2

theorem skips_cons_cons (place next : Nat) (rest : List Nat) :
    skips (place :: next :: rest) =
      (if place + 1 < next then 1 else 0) + skips (next :: rest) := by
  simp [skips, List.countP_cons, Nat.add_comm]

theorem skips_take_le (places : List Nat) (count : Nat) :
    skips (places.take count) ≤ skips places := by
  induction places generalizing count with
  | nil => exact Nat.le_of_eq (congrArg skips List.take_nil)
  | cons place rest induction =>
      match count, rest with
      | 0, _ => exact Nat.zero_le _
      | 1, _ => exact Nat.zero_le _
      | count + 2, [] => exact Nat.zero_le _
      | count + 2, next :: rest =>
          rw [List.take_succ_cons, List.take_succ_cons, skips_cons_cons, skips_cons_cons]
          exact Nat.add_le_add_left (induction (count + 1)) _

theorem add_length_add_skips_le {place : Nat} {places : List Nat}
    (ordered : (place :: places).Pairwise (· < ·)) {bound : Nat}
    (inside : ∀ taken ∈ place :: places, taken < bound) :
    place + (place :: places).length + skips (place :: places) ≤ bound := by
  induction places generalizing place with
  | nil => exact inside place List.mem_cons_self
  | cons next rest induction =>
      obtain ⟨later, orderedRest⟩ := List.pairwise_cons.mp ordered
      have after : place < next := later next List.mem_cons_self
      have fits := induction orderedRest (List.forall_mem_cons.mp inside).2
      rw [skips_cons_cons, List.length_cons]
      split
      · omega
      · omega

theorem length_add_skips_le {places : List Nat} (ordered : places.Pairwise (· < ·)) {bound : Nat}
    (inside : ∀ place ∈ places, place < bound) : places.length + skips places ≤ bound := by
  cases places with
  | nil => exact Nat.zero_le bound
  | cons place rest =>
      refine Nat.le_trans ?_ (add_length_add_skips_le ordered inside)
      exact Nat.add_le_add_right (Nat.le_add_left _ _) _

/-- The number of a packet follows that of an earlier one if there is none between them. -/
theorem Packet.number_follows (start : UInt32) {place next : Nat} (after : place < next)
    (few : next < 2 ^ 32) :
    start + .ofNat next ≠ start + .ofNat place + 1 ↔ place + 1 < next := by
  have same : start + .ofNat next = start + .ofNat place + 1 ↔ next = place + 1 := by
    have successor : start + UInt32.ofNat place + 1 = start + .ofNat (place + 1) := by
      rw [UInt32.ofNat_add, UInt32.add_assoc]
      rfl
    rw [successor, UInt32.add_right_inj, ← UInt32.toNat_inj, UInt32.toNat_ofNat_of_lt' few,
      UInt32.toNat_ofNat_of_lt' (Nat.lt_of_le_of_lt after few)]
  rw [Ne, same]
  omega

/-- Of the packets at some of the places, the numbers break off where places are skipped. -/
theorem Packet.breaks_places (start : UInt32) {places : List Nat}
    (ordered : places.Pairwise (· < ·)) (few : ∀ place ∈ places, place < 2 ^ 32) :
    Packet.breaks (places.map fun place => start + .ofNat place) = skips places := by
  induction places with
  | nil => rfl
  | cons place rest induction =>
      obtain ⟨later, orderedRest⟩ := List.pairwise_cons.mp ordered
      obtain ⟨-, fewRest⟩ := List.forall_mem_cons.mp few
      have onward := induction orderedRest fewRest
      cases rest with
      | nil => rfl
      | cons next others =>
          have follows := number_follows start (later next List.mem_cons_self)
            (fewRest next List.mem_cons_self)
          rw [List.map_cons] at onward
          rw [List.map_cons, List.map_cons, breaks_cons_cons, onward, skips_cons_cons]
          simp only [follows]

/-- A reader that has read nothing yet does not miss the packets before its first one. -/
theorem PacketReader.gapsIn_readAll_places (start : UInt32) (content : Nat → List Readout)
    {places : List Nat} (ordered : places.Pairwise (· < ·))
    (few : ∀ place ∈ places, place < 2 ^ 32) :
    gapsIn (readAll {}
        (places.map fun place => Packet.encode (start + .ofNat place) (content place))).2 =
      skips places := by
  let packets := places.map fun place => Packet.encode (start + .ofNat place) (content place)
  have framed : packets.filter (fun packet => Packet.Framed packet) = packets := by
    apply List.filter_eq_self.mpr
    intro packet member
    obtain ⟨place, -, rfl⟩ := List.mem_map.mp member
    exact decide_eq_true (Packet.framed_encode _ _)
  have numbers : packets.map Packet.number = places.map fun place => start + .ofNat place := by
    simp only [packets, List.map_map, Function.comp_def, Packet.number_encode]
  rw [gapsIn_readAll {} none rfl, framed, Option.toList_none, List.nil_append, numbers]
  exact Packet.breaks_places start ordered few

namespace Session

variable {σ δ ε φ : Type}

/-- What a session knows of gaps: its reader, and how many have been counted. -/
def watched (session : Session σ δ) : PacketReader × Nat :=
  (session.reader, session.engine.counts.gaps)

theorem watched_takeBuffer (session : Session σ δ) (buffer : Bytes) :
    (session.takeBuffer buffer).watched =
      ((session.reader.read buffer).1,
        session.engine.counts.gaps + PacketReader.gapsIn [(session.reader.read buffer).2]) := by
  unfold takeBuffer watched
  rcases session.reader.read buffer with ⟨reader, report⟩
  cases report with
  | error fault => rfl
  | ok summary =>
      let counted := (session.engine.recordPacket buffer.length).recordLosses summary
      obtain ⟨dropped, resets, ingested⟩ := counted.counts_ingest reader.readouts summary.earliest
      dsimp only
      split
      · rw [ingested]
        rfl
      · rfl

section

variable (consumer : Sink σ ε) (archive : Archive δ φ)

theorem watched_processBlock (session : Session σ δ) :
    (session.processBlock consumer archive).1.watched = session.watched := by
  rw [watched, reader_processBlock, counts_processBlock]
  rfl

/-- Buffers that are fed without a refusal are all read, and their gaps are counted. -/
theorem gaps_feedArrivals {session last : Session σ δ} (overflows : Nat) {buffers : List Bytes}
    (fed : session.feedArrivals consumer archive false overflows (buffers.map .buffer) =
      (last, none)) :
    last.engine.counts.gaps =
      session.engine.counts.gaps + PacketReader.gapsIn (session.reader.readAll buffers).2 := by
  induction buffers generalizing session with
  | nil =>
      obtain rfl : session = last := congrArg Prod.fst fed
      rfl
  | cons buffer rest induction =>
      obtain ⟨next, done, later⟩ := Outcome.andThen_eq_none fed
      rw [feedArrival_eq, takeArrival] at done
      have processed := watched_processBlock consumer archive (session.takeBuffer buffer)
      rw [done] at processed
      change next.watched = _ at processed
      rw [watched_takeBuffer] at processed
      obtain ⟨reader, gaps⟩ := Prod.mk.inj processed
      rw [induction later, reader, gaps, PacketReader.readAll]
      dsimp only
      rw [PacketReader.gapsIn_cons, PacketReader.gapsIn_cons, Nat.add_assoc]
      rfl

end

end Session

/-- An input queue and what has happened at it. -/
structure Traffic where
  intake : Intake
  /-- Every buffer that has arrived, in order. -/
  arrived : List Bytes := []
  /-- The places among these of the buffers that were not lost. -/
  admitted : List Nat := []
  /-- What the consumer has taken, in order. -/
  consumed : List Bytes := []
  deriving DecidableEq

namespace Traffic

/-- What one of the parties does. -/
inductive Step where
  | arrive (buffer : Bytes)
  /-- The consumer takes a buffer, if one waits. -/
  | take
  deriving DecidableEq

def Step.arriving? : Step → Option Bytes
  | .arrive buffer => some buffer
  | .take => none

/-- No traffic yet. -/
def create (capacity : Nat) : Traffic :=
  { intake := .create capacity }

/-- The traffic after a step. -/
def step (traffic : Traffic) : Step → Traffic
  | .arrive buffer =>
    let intake := traffic.intake.arrive buffer
    let lost := traffic.intake.overflows < intake.overflows
    { traffic with
      intake
      arrived := traffic.arrived ++ [buffer]
      admitted :=
        if lost then traffic.admitted else traffic.admitted ++ [traffic.arrived.length] }
  | .take =>
    match traffic.intake.take? with
    | none => traffic
    | some (buffer, intake) => { traffic with intake, consumed := traffic.consumed ++ [buffer] }

/-- The traffic after steps of both parties, in any order. -/
def follow (traffic : Traffic) (steps : List Step) : Traffic :=
  steps.foldl step traffic

/-- What the consumer has taken and what it can still take, in order. -/
def kept (traffic : Traffic) : List Bytes :=
  traffic.consumed ++ traffic.intake.waiting

/-- What holds of any traffic. -/
structure Sound (traffic : Traffic) : Prop where
  placed : traffic.kept.map some = traffic.admitted.map (traffic.arrived[·]?)
  ordered : traffic.admitted.Pairwise (· < ·)
  inside : ∀ place ∈ traffic.admitted, place < traffic.arrived.length
  subsequence : traffic.kept.Sublist traffic.arrived
  received : traffic.intake.received = traffic.arrived.length
  counted : traffic.intake.received = traffic.kept.length + traffic.intake.overflows
  bounded : traffic.intake.waiting.length ≤ traffic.intake.capacity

theorem sound_create (capacity : Nat) : (create capacity).Sound where
  placed := rfl
  ordered := .nil
  inside _ member := nomatch member
  subsequence := .slnil
  received := rfl
  counted := rfl
  bounded := Nat.zero_le _

theorem step_arrive (traffic : Traffic) (buffer : Bytes) :
    let intake := traffic.intake
    traffic.step (.arrive buffer) =
      if intake.waiting.length < intake.capacity then
        { intake :=
            { intake with received := intake.received + 1, waiting := intake.waiting ++ [buffer] }
          arrived := traffic.arrived ++ [buffer]
          admitted := traffic.admitted ++ [traffic.arrived.length]
          consumed := traffic.consumed }
      else
        { intake :=
            { intake with received := intake.received + 1, overflows := intake.overflows + 1 }
          arrived := traffic.arrived ++ [buffer]
          admitted := traffic.admitted
          consumed := traffic.consumed } := by
  intro intake
  by_cases room : intake.waiting.length < intake.capacity
  · simp [step, Intake.arrive, intake, room]
  · simp [step, Intake.arrive, intake, room]

theorem step_take_nil {traffic : Traffic} (waits : traffic.intake.waiting = []) :
    traffic.step .take = traffic := by
  simp [step, Intake.take?, waits]

theorem step_take_cons {traffic : Traffic} {buffer : Bytes} {rest : List Bytes}
    (waits : traffic.intake.waiting = buffer :: rest) :
    traffic.step .take =
      { traffic with
        intake.waiting := rest
        consumed := traffic.consumed ++ [buffer] } := by
  simp [step, Intake.take?, waits]

theorem map_getElem?_append {places : List Nat} {arrived : List Bytes} (buffer : Bytes)
    (inside : ∀ place ∈ places, place < arrived.length) :
    places.map ((arrived ++ [buffer])[·]?) = places.map (arrived[·]?) :=
  List.map_congr_left fun place member => List.getElem?_append_left (inside place member)

theorem Sound.step {traffic : Traffic} (sound : traffic.Sound) (step : Step) :
    (traffic.step step).Sound := by
  cases step with
  | arrive buffer =>
      have within : ∀ place ∈ traffic.admitted, place < (traffic.arrived ++ [buffer]).length := by
        intro place member
        rw [List.length_append]
        exact Nat.lt_succ_of_lt (sound.inside place member)
      have places := map_getElem?_append buffer sound.inside
      have received : traffic.intake.received + 1 = (traffic.arrived ++ [buffer]).length := by
        rw [sound.received, List.length_append, List.length_singleton]
      have counted := sound.counted
      rw [step_arrive]
      by_cases room : traffic.intake.waiting.length < traffic.intake.capacity
      · rw [if_pos room]
        have kept : traffic.consumed ++ (traffic.intake.waiting ++ [buffer]) =
            traffic.kept ++ [buffer] := (List.append_assoc _ _ _).symm
        refine ⟨?placed, ?ordered, ?inside, ?subsequence, received, ?counted, ?bounded⟩
        case placed =>
          rw [Traffic.kept, kept, List.map_append, List.map_append, sound.placed, places]
          simp
        case ordered =>
          refine List.pairwise_append.mpr ⟨sound.ordered, List.pairwise_singleton _ _, ?_⟩
          intro place member last isLast
          rw [List.mem_singleton.mp isLast]
          exact sound.inside place member
        case inside =>
          intro place member
          rcases List.mem_append.mp member with earlier | last
          · exact within place earlier
          · simp [List.mem_singleton.mp last]
        case subsequence =>
          rw [Traffic.kept, kept]
          exact sound.subsequence.append (.refl _)
        case counted =>
          rw [Traffic.kept, kept, List.length_append, List.length_singleton, counted]
          exact Nat.add_right_comm _ _ _
        case bounded =>
          rw [List.length_append]
          exact room
      · rw [if_neg room]
        refine ⟨?_, sound.ordered, within, ?_, received, ?_, sound.bounded⟩
        · rw [places]
          exact sound.placed
        · exact sound.subsequence.trans (List.sublist_append_left _ _)
        · exact congrArg (· + 1) counted
  | take =>
      cases waits : traffic.intake.waiting with
      | nil => rwa [step_take_nil waits]
      | cons buffer rest =>
          have kept : traffic.consumed ++ [buffer] ++ rest = traffic.kept := by
            rw [Traffic.kept, waits, List.append_assoc, List.singleton_append]
          have bounded := sound.bounded
          rw [waits] at bounded
          rw [step_take_cons waits]
          refine ⟨?_, sound.ordered, sound.inside, ?_, sound.received, ?_,
            Nat.le_of_succ_le bounded⟩
          · rw [Traffic.kept, kept]
            exact sound.placed
          · rw [Traffic.kept, kept]
            exact sound.subsequence
          · rw [Traffic.kept, kept]
            exact sound.counted

theorem sound_follow {traffic : Traffic} (sound : traffic.Sound) (steps : List Step) :
    (traffic.follow steps).Sound := by
  induction steps generalizing traffic with
  | nil => exact sound
  | cons step steps induction => exact induction (sound.step step)

theorem follow_spec (traffic : Traffic) (steps : List Step) :
    (traffic.follow steps).intake.capacity = traffic.intake.capacity ∧
      (traffic.follow steps).arrived = traffic.arrived ++ steps.filterMap Step.arriving? := by
  induction steps generalizing traffic with
  | nil => exact ⟨rfl, (List.append_nil _).symm⟩
  | cons step steps induction =>
      obtain ⟨capacity, arrived⟩ := induction (traffic.step step)
      have kept : (traffic.step step).intake.capacity = traffic.intake.capacity ∧
          (traffic.step step).arrived = traffic.arrived ++ step.arriving?.toList := by
        cases step with
        | arrive buffer =>
            rw [step_arrive]
            split
            · exact ⟨rfl, rfl⟩
            · exact ⟨rfl, rfl⟩
        | take =>
            cases waits : traffic.intake.waiting with
            | nil => rw [step_take_nil waits]; exact ⟨rfl, (List.append_nil _).symm⟩
            | cons buffer rest => rw [step_take_cons waits]; exact ⟨rfl, (List.append_nil _).symm⟩
      refine ⟨capacity.trans kept.1, arrived.trans ?_⟩
      rw [kept.2, List.append_assoc]
      cases step with
      | arrive buffer => rfl
      | take => rfl

/-- What the consumer has taken are the packets at the first of the admitted places. -/
theorem Sound.consumed_packets {traffic : Traffic} (sound : traffic.Sound) {start : UInt32}
    {batches : List (List Readout)}
    (packets : traffic.arrived = (PacketWriter.writeAll { next := start } batches).1) :
    traffic.consumed = (traffic.admitted.take traffic.consumed.length).map fun place =>
      Packet.encode (start + .ofNat place) (batches[place]?.getD []) := by
  have length : traffic.arrived.length = batches.length := by
    rw [packets, PacketWriter.length_writeAll]
  have all : traffic.kept.map some = (traffic.admitted.map fun place =>
      Packet.encode (start + .ofNat place) (batches[place]?.getD [])).map some := by
    rw [sound.placed, List.map_map]
    refine List.map_congr_left fun place member => ?_
    have found : place < batches.length := length ▸ sound.inside place member
    rw [packets, PacketWriter.getElem?_writeAll]
    simp [found]
  have kept := (List.map_inj_right fun _ _ => Option.some.inj).mp all
  rw [List.map_take, ← kept, Traffic.kept, List.take_left]

/-- The reader counts the losses between two packets once, and it counts no other gaps. -/
theorem Sound.gaps {traffic : Traffic} (sound : traffic.Sound) {start : UInt32}
    {batches : List (List Readout)}
    (packets : traffic.arrived = (PacketWriter.writeAll { next := start } batches).1)
    (few : batches.length < 2 ^ 32) :
    PacketReader.gapsIn (PacketReader.readAll {} traffic.consumed).2 =
      skips (traffic.admitted.take traffic.consumed.length) := by
  have length : traffic.arrived.length = batches.length := by
    rw [packets, PacketWriter.length_writeAll]
  have small : ∀ place ∈ traffic.admitted.take traffic.consumed.length, place < 2 ^ 32 :=
    fun place member => Nat.lt_trans (length ▸ sound.inside place (List.mem_of_mem_take member)) few
  have ordered := sound.ordered.sublist (List.take_sublist traffic.consumed.length _)
  have read := PacketReader.gapsIn_readAll_places start (fun place => batches[place]?.getD [])
    ordered small
  rwa [← sound.consumed_packets packets] at read

theorem Sound.skips_le {traffic : Traffic} (sound : traffic.Sound) :
    skips (traffic.admitted.take traffic.consumed.length) ≤ traffic.intake.overflows := by
  have length : traffic.admitted.length = traffic.kept.length := by
    simpa using (congrArg List.length sound.placed).symm
  have fits : traffic.admitted.length + skips traffic.admitted ≤ traffic.arrived.length :=
    length_add_skips_le sound.ordered sound.inside
  have fewer := skips_take_le traffic.admitted traffic.consumed.length
  have counted := sound.counted
  rw [sound.received] at counted
  omega

/-- However the arrivals and the consumer alternate: what the consumer has taken and
what still waits are the buffers that were not lost, in order; each buffer is one of
these or has been counted as an overflow; and no more buffers wait than fit.  If the
buffers are packets of one writer, a new reader that reads what has been taken finds
one gap for each place at which packets between two of these were lost, and a session
that is fed with it counts as many. -/
theorem losses_are_counted {σ δ ε φ : Type} (consumer : Sink σ ε) (archive : Archive δ φ)
    (capacity : Nat) (steps : List Step) :
    let traffic := (create capacity).follow steps
    let intake := traffic.intake
    let kept := traffic.consumed ++ intake.waiting
    traffic.arrived = steps.filterMap Step.arriving? ∧
      kept.Sublist traffic.arrived ∧
      traffic.admitted.Pairwise (· < ·) ∧
      kept.map some = traffic.admitted.map (traffic.arrived[·]?) ∧
      intake.received = traffic.arrived.length ∧
      intake.received = traffic.consumed.length + intake.waiting.length + intake.overflows ∧
      intake.waiting.length ≤ max 1 capacity ∧
      ∀ (start : UInt32) (batches : List (List Readout)),
        traffic.arrived = (PacketWriter.writeAll { next := start } batches).1 →
        batches.length < 2 ^ 32 →
        let gaps := skips (traffic.admitted.take traffic.consumed.length)
        gaps ≤ intake.overflows ∧
          PacketReader.gapsIn (PacketReader.readAll {} traffic.consumed).2 = gaps ∧
          ∀ session last : Session σ δ, session.reader = {} →
            session.feedArrivals consumer archive false 0 (traffic.consumed.map .buffer) =
              (last, none) →
            last.engine.counts.gaps = session.engine.counts.gaps + gaps := by
  intro traffic intake kept
  have sound : traffic.Sound := sound_follow (sound_create capacity) steps
  obtain ⟨bound, arrived⟩ := follow_spec (create capacity) steps
  refine ⟨arrived, sound.subsequence, sound.ordered, sound.placed, sound.received, ?_, ?_, ?_⟩
  · rw [← List.length_append]
    exact sound.counted
  · have bounded := sound.bounded
    rwa [bound] at bounded
  · intro start batches packets few gaps
    have read := sound.gaps packets few
    refine ⟨sound.skips_le, read, fun session last unread fed => ?_⟩
    rw [Session.gaps_feedArrivals consumer archive 0 fed, unread, read]

/-- One buffer may wait, and the numbers wrap around.  The second packet is lost, and so
are the fifth and the sixth one; the ninth one is lost too, but no packet is read after it. -/
theorem lost_packets_are_counted :
    let settings : Settings :=
      { detector := { eventLag := 4 }
        clustering := { enabled := false }
        layout := { coarseBits := 2, fineWidthBits := 1, fineBits := 1 } }
    let batches : List (List Readout) :=
      [[.neutron 3 5 5 0], [.neutron 4 5 5 0], [], [.neutron 6 5 5 0], [.neutron 7 5 5 0], [],
        [.neutron 12 6 6 0], [.neutron 13 6 6 0], []]
    let start : UInt32 := 4294967292
    let packets := (PacketWriter.writeAll { next := start } batches).1
    let arrive (place : Nat) : Step := .arrive (packets[place]?.getD [])
    let steps : List Step :=
      [.take, arrive 0, arrive 1, .take, arrive 2, .take, arrive 3, arrive 4, arrive 5, .take,
        arrive 6, .take, .take, arrive 7, arrive 8]
    let consumer := Recording.sink (· == 3)
    let archive := DumpSeries.archive fun _ => true
    let session : Session Recording DumpSeries :=
      { engine := .ofSettings settings, sink := {}, dump := some (.fresh "run" none) }
    let traffic := (create 0).follow steps
    let fed := session.feedArrivals consumer archive false 0 (traffic.consumed.map .buffer)
    traffic.arrived = packets ∧ batches.length < 2 ^ 32 ∧
      traffic.admitted = [0, 2, 3, 6, 7] ∧ traffic.intake.waiting.length ≤ 1 ∧
      traffic.intake.overflows = 4 ∧
      PacketReader.gapsIn (PacketReader.readAll {} traffic.consumed).2 = 2 ∧
      ∃ last, fed = (last, none) ∧ last.engine.counts.gaps = 2 := by
  intro settings batches start packets arrive steps consumer archive session traffic fed
  have arrived : traffic.arrived = packets := by decide +kernel
  have admitted : traffic.admitted = [0, 2, 3, 6, 7] := by decide +kernel
  have lost : traffic.intake.overflows = 4 := by decide +kernel
  have accepted : fed.2 = none := by decide +kernel
  have skipped : skips (traffic.admitted.take traffic.consumed.length) = 2 := by decide +kernel
  have few : batches.length < 2 ^ 32 := by decide
  obtain ⟨-, -, -, -, -, -, bounded, counted⟩ :=
    losses_are_counted consumer archive 0 steps
  obtain ⟨-, read, gaps⟩ := counted start batches arrived few
  have reported : PacketReader.gapsIn (PacketReader.readAll {} traffic.consumed).2 = 2 := by
    rw [read, skipped]
  obtain ⟨last, done⟩ : ∃ last, fed = (last, none) := ⟨fed.1, by rw [← accepted]⟩
  have recorded : last.engine.counts.gaps = 2 := by
    rw [gaps session last rfl done, skipped]
    rfl
  exact ⟨arrived, few, admitted, bounded, lost, reported, last, done, recorded⟩

end Traffic

end EventFormation
