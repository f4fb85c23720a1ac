import Mathlib
import EventFormation.Dump.Source
import EventFormation.Proofs.PackedRecords

/-!
# Batches of a dump file

A dump file that is read in batches is cut between records, so each batch stands for the
records between two cuts.  In turn the batches yield what is read of the whole file at once,
what they have lost is what the whole file loses, and their times together span its times.
A batch may be of any size that can be counted in bytes, and a batch of nothing but unknown
kinds spans no time.
-/

namespace EventFormation

namespace Summary

variable {readouts : List Readout} {summary : Summary}

theorem Observed.within (observed : summary.Observed readouts) {readout : Readout}
    (member : readout ∈ readouts) :
    summary.earliest ≤ readout.time.toNat ∧ readout.time.toNat ≤ summary.latest := by
  have spans := observed.some (List.ne_nil_of_mem member)
  have timed := List.mem_map_of_mem (f := fun readout : Readout => readout.time.toNat) member
  exact ⟨spans.lo_le _ timed, spans.le_hi _ timed⟩

theorem Observed.le_earliest (observed : summary.Observed readouts) {bound : Nat}
    (onClock : bound ≤ clockEnd) (below : ∀ readout ∈ readouts, bound ≤ readout.time.toNat) :
    bound ≤ summary.earliest := by
  by_cases nothing : readouts = []
  · rwa [(observed.none nothing).1]
  · obtain ⟨readout, member, same⟩ := List.mem_map.mp (observed.some nothing).lo_mem
    exact Nat.le_trans (below readout member) (Nat.le_of_eq same)

theorem Observed.latest_le (observed : summary.Observed readouts) {bound : Nat}
    (above : ∀ readout ∈ readouts, readout.time.toNat ≤ bound) : summary.latest ≤ bound := by
  by_cases nothing : readouts = []
  · rw [(observed.none nothing).2]
    exact Nat.zero_le bound
  · obtain ⟨readout, member, same⟩ := List.mem_map.mp (observed.some nothing).hi_mem
    exact Nat.le_trans (Nat.le_of_eq same.symm) (above readout member)

end Summary

namespace Record

theorem length_decodeAll (bytes : Bytes) : (decodeAll bytes).length = bytes.length / size := by
  rw [decodeAll, List.length_map, length_whole]

theorem getElem_whole (bytes : Bytes) (number : Nat) (inside : number < (whole bytes).length) :
    (whole bytes)[number] = (bytes.drop (size * number)).take size := by
  simp [whole, cut_eq_map]

theorem decodeAll_take (count : Nat) (bytes : Bytes) :
    decodeAll (bytes.take (count * size)) = (decodeAll bytes).take count := by
  have records : whole (bytes.take (count * size)) = (whole bytes).take count := by
    refine List.ext_getElem ?_ fun number inside _ => ?_
    · simp only [length_whole, List.length_take, size]
      omega
    · have within : size ≤ count * size - size * number := by
        simp only [length_whole, List.length_take, size] at inside ⊢
        omega
      rw [List.getElem_take, getElem_whole, getElem_whole, List.drop_take, List.take_take,
        Nat.min_eq_left within]
  rw [decodeAll, records, List.map_take, decodeAll]

theorem decodeAll_drop (count : Nat) (bytes : Bytes) :
    decodeAll (bytes.drop (count * size)) = (decodeAll bytes).drop count := by
  have records : whole (bytes.drop (count * size)) = (whole bytes).drop count := by
    refine List.ext_getElem ?_ fun number _ _ => ?_
    · simp only [length_whole, List.length_drop, size]
      omega
    · rw [List.getElem_drop, getElem_whole, getElem_whole, List.drop_drop, Nat.mul_add,
        Nat.mul_comm count]
  rw [decodeAll, records, List.map_drop, decodeAll]

theorem length_known_add_unknown (records : List Readout) :
    (records.filter known).length + records.countP (fun record => !known record) =
      records.length := by
  rw [← List.countP_eq_length_filter, List.length_eq_countP_add_countP known]
  simp only [Bool.not_eq_true, Bool.decide_eq_false]

end Record

namespace Batch

/-- A batch stands for records: it holds those of known kind and tells their times, and the
bytes of the others are all that it has lost. -/
structure StandsFor (batch : Batch) (records : List Readout) : Prop where
  readouts : batch.readouts = records.filter Record.known
  lost : batch.summary.lostBytes =
    Record.size * records.countP fun record => !Record.known record
  observed : batch.summary.Observed batch.readouts

/-- What is read of one piece of a file. -/
def ofBytes (bytes : Bytes) : Batch :=
  { readouts := (Record.decodeKnown bytes).1, summary := (Record.decodeKnown bytes).2 }

theorem standsFor_ofBytes {bytes : Bytes} (untorn : Record.size ∣ bytes.length) :
    (ofBytes bytes).StandsFor (Record.decodeAll bytes) := by
  obtain ⟨read, counted, observed⟩ := Record.decodeOnto_spec #[] bytes
  have readouts : (ofBytes bytes).readouts = (Record.decodeAll bytes).filter Record.known := read
  refine ⟨readouts, ?_, readouts ▸ observed⟩
  have records : Record.size * (Record.decodeAll bytes).length = bytes.length := by
    rw [Record.length_decodeAll, Nat.mul_div_cancel' untorn]
  rw [← Record.length_known_add_unknown, Nat.mul_add] at records
  exact Nat.add_left_cancel (counted.trans records.symm)

/-- Records are divided over batches, so many to each but the last. -/
inductive Divided (per : Nat) : List Readout → List Batch → Prop where
  | nil : Divided per [] []
  | cons {records : List Readout} {batch : Batch} {batches : List Batch} :
      records ≠ [] → batch.StandsFor (records.take per) →
      Divided per (records.drop per) batches →
      Divided per records (batch :: batches)

namespace Divided

variable {per : Nat} {records : List Readout} {batches : List Batch}

theorem readouts_eq (divided : Divided per records batches) :
    batches.flatMap readouts = records.filter Record.known := by
  induction divided with
  | nil => rfl
  | @cons records batch batches _ first _ induction =>
      rw [List.flatMap_cons, first.readouts, induction, ← List.filter_append,
        List.take_append_drop]

theorem sum_lostBytes (divided : Divided per records batches) :
    (batches.map (·.summary.lostBytes)).sum =
      Record.size * records.countP fun record => !Record.known record := by
  induction divided with
  | nil => rfl
  | @cons records batch batches _ first _ induction =>
      rw [List.map_cons, List.sum_cons, first.lost, induction, ← Nat.mul_add,
        ← List.countP_append, List.take_append_drop]

theorem observed (divided : Divided per records batches) :
    ∀ batch ∈ batches, batch.summary.Observed batch.readouts := by
  induction divided with
  | nil => exact fun _ member => absurd member List.not_mem_nil
  | cons _ first _ induction => exact List.forall_mem_cons.mpr ⟨first.observed, induction⟩

/-- There is a batch of that number if some records are left for it. -/
theorem lt_length_iff (divided : Divided per records batches) (number : Nat) :
    number < batches.length ↔ number * per < records.length := by
  induction divided generalizing number with
  | nil => simp
  | @cons records batch batches occupied _ _ induction =>
      cases number with
      | zero => simpa using List.length_pos_iff.mpr occupied
      | succ number =>
          have onward := induction number
          rw [List.length_drop] at onward
          rw [List.length_cons, Nat.succ_lt_succ_iff, onward, Nat.succ_mul]
          omega

theorem standsFor_getElem (divided : Divided per records batches) (number : Nat)
    (inside : number < batches.length) :
    batches[number].StandsFor ((records.drop (number * per)).take per) := by
  induction divided generalizing number with
  | nil => exact absurd inside (Nat.not_lt_zero number)
  | @cons records batch batches _ first _ induction =>
      cases number with
      | zero => simpa using first
      | succ number =>
          have onward := induction number (Nat.lt_of_succ_lt_succ inside)
          rwa [List.drop_drop, Nat.add_comm, ← Nat.succ_mul] at onward

end Divided

variable {batches : List Batch}

theorem min?_earliest (observed : ∀ batch ∈ batches, batch.summary.Observed batch.readouts)
    (occupied : batches.flatMap readouts ≠ []) :
    (batches.map (·.summary.earliest)).min? =
      ((batches.flatMap readouts).map fun readout => readout.time.toNat).min? := by
  obtain ⟨least, found⟩ := Option.isSome_iff_exists.mp (List.isSome_min?_of_ne_nil
    (mt List.map_eq_nil_iff.mp occupied :
      ((batches.flatMap readouts).map fun readout => readout.time.toNat) ≠ []))
  obtain ⟨member, least_le⟩ := List.min?_eq_some_iff.mp found
  obtain ⟨first, inReadouts, rfl⟩ := List.mem_map.mp member
  obtain ⟨batch, inBatches, inBatch⟩ := List.mem_flatMap.mp inReadouts
  have le_earliest : ∀ batch ∈ batches, first.time.toNat ≤ batch.summary.earliest :=
    fun batch inBatches => (observed batch inBatches).le_earliest
      (Nat.le_sub_one_of_lt first.time.toNat_lt) fun readout inBatch =>
        least_le _ (List.mem_map_of_mem (List.mem_flatMap.mpr ⟨batch, inBatches, inBatch⟩))
  have reached : batch.summary.earliest = first.time.toNat :=
    Nat.le_antisymm ((observed batch inBatches).within inBatch).1 (le_earliest batch inBatches)
  rw [found, List.min?_eq_some_iff]
  exact ⟨List.mem_map.mpr ⟨batch, inBatches, reached⟩, List.forall_mem_map.mpr le_earliest⟩

theorem max?_latest (observed : ∀ batch ∈ batches, batch.summary.Observed batch.readouts)
    (occupied : batches.flatMap readouts ≠ []) :
    (batches.map (·.summary.latest)).max? =
      ((batches.flatMap readouts).map fun readout => readout.time.toNat).max? := by
  obtain ⟨greatest, found⟩ := Option.isSome_iff_exists.mp (List.isSome_max?_of_ne_nil
    (mt List.map_eq_nil_iff.mp occupied :
      ((batches.flatMap readouts).map fun readout => readout.time.toNat) ≠ []))
  obtain ⟨member, le_greatest⟩ := List.max?_eq_some_iff.mp found
  obtain ⟨last, inReadouts, rfl⟩ := List.mem_map.mp member
  obtain ⟨batch, inBatches, inBatch⟩ := List.mem_flatMap.mp inReadouts
  have latest_le : ∀ batch ∈ batches, batch.summary.latest ≤ last.time.toNat :=
    fun batch inBatches => (observed batch inBatches).latest_le fun readout inBatch =>
      le_greatest _ (List.mem_map_of_mem (List.mem_flatMap.mpr ⟨batch, inBatches, inBatch⟩))
  have reached : batch.summary.latest = last.time.toNat :=
    Nat.le_antisymm (latest_le batch inBatches) ((observed batch inBatches).within inBatch).2
  rw [found, List.max?_eq_some_iff]
  exact ⟨List.mem_map.mpr ⟨batch, inBatches, reached⟩, List.forall_mem_map.mpr latest_le⟩

end Batch

namespace DumpSource

/-- Cuts between records divide the records over the pieces. -/
theorem divided_pieces {per count : Nat} {bytes : Bytes} (untorn : Record.size ∣ bytes.length)
    (enough : bytes.length ≤ count * (per * Record.size)) :
    Batch.Divided per (Record.decodeAll bytes)
      ((pieces (per * Record.size) count bytes).map Batch.ofBytes) := by
  induction count generalizing bytes with
  | zero =>
      have empty : bytes = [] := List.length_eq_zero_iff.mp (by omega)
      rw [empty]
      exact .nil
  | succ count induction =>
      by_cases empty : bytes = []
      · simp only [pieces, empty]
        exact .nil
      · -- Both parts of the cut are whole records, since the cut is a multiple of their size.
        have untornFirst : Record.size ∣ (bytes.take (per * Record.size)).length := by
          simp only [List.length_take, Record.size] at untorn ⊢
          omega
        have untornRest : Record.size ∣ (bytes.drop (per * Record.size)).length := by
          simp only [List.length_drop, Record.size] at untorn ⊢
          omega
        have first := Batch.standsFor_ofBytes untornFirst
        have left : (bytes.drop (per * Record.size)).length ≤ count * (per * Record.size) := by
          rw [Nat.succ_mul] at enough
          rw [List.length_drop]
          omega
        have rest := induction untornRest left
        rw [Record.decodeAll_take] at first
        rw [Record.decodeAll_drop] at rest
        have occupied : Record.decodeAll bytes ≠ [] := by
          rw [← List.length_pos_iff, Record.length_decodeAll]
          exact Nat.div_pos (Nat.le_of_dvd (List.length_pos_iff.mpr empty) untorn) (by decide)
        rw [pieces, if_neg (by simpa using empty), List.map_cons]
        exact .cons occupied first rest

theorem batches?_of_pos {source : DumpSource} {size : Nat} (positive : 0 < pieceLength size) :
    source.batches? size =
      some ((pieces (pieceLength size) source.bytes.length source.bytes).map Batch.ofBytes) := by
  rw [batches?, if_neg (Nat.ne_of_gt positive)]
  rfl

/-- A file that ends before the first cut is one piece, unless it is empty. -/
theorem pieces_of_short {length : Nat} {bytes : Bytes} (short : bytes.length ≤ length) :
    pieces length bytes.length bytes = if bytes = [] then [] else [bytes] := by
  cases bytes with
  | nil => rfl
  | cons first others =>
      rw [if_neg (List.cons_ne_nil first others), List.length_cons, pieces, if_neg (by simp),
        List.take_of_length_le short, List.drop_of_length_le short]
      cases others.length with
      | zero => rfl
      | succ count => rfl

/-- A file that goes on behind the first cut has a second batch. -/
theorem one_lt_length_pieces {length : Nat} {bytes : Bytes} (positive : 0 < length)
    (long : length < bytes.length) : 1 < (pieces length bytes.length bytes).length := by
  obtain ⟨count, same⟩ := Nat.exists_eq_add_of_le' (Nat.lt_of_le_of_lt positive long)
  have first : bytes ≠ [] := List.ne_nil_of_length_pos (Nat.lt_trans positive long)
  have second : bytes.drop length ≠ [] := by
    rw [Ne, List.drop_eq_nil_iff]
    exact Nat.not_le.mpr long
  rw [same, pieces, pieces, if_neg (by simpa using first), if_neg (by simpa using second),
    List.length_cons, List.length_cons]
  omega

/-- The batches are counted in words of 64 bits, so the cuts are where they should be if so
many bytes can be counted, and also if the whole file lies before the first cut. -/
def CutsBetweenRecords (source : DumpSource) (size : Nat) : Prop :=
  max 1 size * Record.size < UInt64.size ∨
    0 < pieceLength size ∧ source.bytes.length ≤ pieceLength size

/-- A file that ends before the first cut is divided like a piece of its own. -/
theorem divided_of_short {per : Nat} {bytes : Bytes} (untorn : Record.size ∣ bytes.length)
    (short : bytes.length ≤ per * Record.size) :
    Batch.Divided per (Record.decodeAll bytes)
      ((if bytes = [] then [] else [bytes]).map Batch.ofBytes) := by
  by_cases empty : bytes = []
  · rw [if_pos empty, empty]
    exact .nil
  · have records : (Record.decodeAll bytes).length * Record.size = bytes.length := by
      rw [Record.length_decodeAll, Nat.div_mul_cancel untorn]
    have few : (Record.decodeAll bytes).length ≤ per :=
      Nat.le_of_mul_le_mul_right (records ▸ short) (by decide)
    have occupied : Record.decodeAll bytes ≠ [] := by
      intro none
      rw [none, List.length_nil, Nat.zero_mul] at records
      exact empty (List.length_eq_zero_iff.mp records.symm)
    rw [if_neg empty]
    refine .cons occupied ?_ ?_
    · rw [List.take_of_length_le few]
      exact Batch.standsFor_ofBytes untorn
    · rw [List.drop_of_length_le few]
      exact .nil

/-- The records of a file are divided over its batches. -/
theorem exists_batches {source : DumpSource} (untorn : Record.size ∣ source.bytes.length)
    {size : Nat} (cuts : source.CutsBetweenRecords size) :
    ∃ batches, source.batches? size = some batches ∧
      Batch.Divided (max 1 size) (Record.decodeAll source.bytes) batches := by
  rcases cuts with fits | ⟨positive, short⟩
  · have length := pieceLength_of_fits fits
    have positive : 0 < max 1 size * Record.size := by
      rw [Record.size]
      omega
    refine ⟨_, batches?_of_pos (length.symm ▸ positive), ?_⟩
    rw [length]
    exact divided_pieces untorn (Nat.le_mul_of_pos_right _ positive)
  · have most : pieceLength size ≤ max 1 size * Record.size := Nat.mod_le _ _
    refine ⟨_, batches?_of_pos positive, ?_⟩
    rw [pieces_of_short short]
    exact divided_of_short untorn (Nat.le_trans short most)

theorem open?_eq_ok_iff (contents : Bytes) (source : DumpSource) :
    open? (some contents) = .ok source ↔
      Record.size ∣ contents.length ∧ source = { bytes := contents } := by
  rw [Nat.dvd_iff_mod_eq_zero, open?]
  split
  · simp [*, eq_comm]
  · simp [*]

/-- A file has been read in batches of so many records.  They are as many as the records
need, each stands for the records between two cuts, none of which is torn, and each but the
last for that many.  Together they yield what is read of the whole file, lose the bytes of
all records that are not read, and tell the earliest and the latest time. -/
structure ReadIn (source : DumpSource) (per : Nat) (batches : List Batch) : Prop where
  readouts : batches.flatMap Batch.readouts = source.readAll
  count : ∀ number, number < batches.length ↔ number * per < source.recordCount
  covered : ∀ number (inside : number < batches.length),
    let covered := ((Record.decodeAll source.bytes).drop (number * per)).take per
    batches[number].StandsFor covered ∧ (number + 1 < batches.length → covered.length = per)
  lost : Record.size * source.readAll.length + (batches.map (·.summary.lostBytes)).sum =
    Record.size * source.recordCount
  times : source.readAll ≠ [] →
    let times := source.readAll.map fun readout => readout.time.toNat
    (batches.map (·.summary.earliest)).min? = times.min? ∧
      (batches.map (·.summary.latest)).max? = times.max?

theorem readIn_of_divided {source : DumpSource} {per : Nat} {batches : List Batch}
    (divided : Batch.Divided per (Record.decodeAll source.bytes) batches) :
    source.ReadIn per batches := by
  have count : (Record.decodeAll source.bytes).length = source.recordCount :=
    Record.length_decodeAll source.bytes
  have read : batches.flatMap Batch.readouts = source.readAll := divided.readouts_eq
  constructor
  · exact read
  · intro number
    rw [divided.lt_length_iff, count]
  · intro number inside covered
    refine ⟨divided.standsFor_getElem number inside, ?_⟩
    intro next
    have left := (divided.lt_length_iff (number + 1)).mp next
    rw [Nat.succ_mul] at left
    rw [List.length_take, List.length_drop]
    omega
  · rw [divided.sum_lostBytes, ← Nat.mul_add, ← count]
    exact congrArg (Record.size * ·) (Record.length_known_add_unknown _)
  · intro occupied times
    rw [← read] at occupied
    have earliest := Batch.min?_earliest divided.observed occupied
    have latest := Batch.max?_latest divided.observed occupied
    rw [read] at earliest latest
    exact ⟨earliest, latest⟩

/-- If the length of a file can be counted and the cuts are elsewhere than between records,
the second batch comes too early. -/
theorem cutsBetweenRecords_of_readIn {source : DumpSource}
    (counted : source.bytes.length < UInt64.size) {size : Nat} {batches : List Batch}
    (cut : source.batches? size = some batches) (read : source.ReadIn (max 1 size) batches) :
    source.CutsBetweenRecords size := by
  by_contra other
  obtain ⟨tooMany, apart⟩ := not_or.mp other
  have positive : 0 < pieceLength size := by
    by_contra none
    rw [batches?, if_pos (Nat.eq_zero_of_not_pos none)] at cut
    exact Option.some_ne_none _ cut.symm
  have long : pieceLength size < source.bytes.length := by
    by_contra short
    exact apart ⟨positive, Nat.not_lt.mp short⟩
  rw [batches?_of_pos positive] at cut
  obtain rfl := Option.some.inj cut
  have second : 1 < _ := one_lt_length_pieces positive long
  rw [← List.length_map (f := Batch.ofBytes)] at second
  -- There is no second batch of so many records, since the file is not that long.
  have records := (read.count 1).mp second
  rw [Nat.one_mul] at records
  have most : source.recordCount * Record.size ≤ source.bytes.length :=
    Nat.div_mul_le_self _ _
  have fewer : max 1 size * Record.size < source.recordCount * Record.size :=
    Nat.mul_lt_mul_of_pos_right records (by decide)
  exact tooMany (Nat.lt_trans (Nat.lt_of_lt_of_le fewer most) counted)

/-- A file is taken if it holds whole records.  Whatever the size of its batches, with zero
acting as one, they agree with what is read of the whole file if the cuts are between
records; and if its length can be counted, they do so in no other case. -/
theorem batches_agree_with_file (contents : Bytes) :
    ((∃ source, open? (some contents) = .ok source) ↔ Record.size ∣ contents.length) ∧
    ∀ (source : DumpSource) (size : Nat), open? (some contents) = .ok source →
      let agree := ∃ batches, source.batches? size = some batches ∧
        source.ReadIn (max 1 size) batches
      (source.CutsBetweenRecords size → agree) ∧
        (contents.length < UInt64.size → agree → source.CutsBetweenRecords size) := by
  refine ⟨?_, ?_⟩
  · simp only [open?_eq_ok_iff, exists_and_left, exists_eq, and_true]
  · intro source size opened agree
    obtain ⟨untorn, same⟩ := (open?_eq_ok_iff contents source).mp opened
    obtain rfl : source.bytes = contents := congrArg bytes same
    constructor
    · intro between
      obtain ⟨batches, cut, divided⟩ := exists_batches untorn between
      exact ⟨batches, cut, readIn_of_divided divided⟩
    · rintro counted ⟨batches, cut, read⟩
      exact cutsBetweenRecords_of_readIn counted cut read

/-- The second of three batches holds nothing but records of unknown kind. -/
theorem unknown_batch_agrees :
    let unknown : Readout := { Readout.neutron 5 6 7 8 with kind := .invalid }
    let early : Readout := .neutron 900 1 2 3
    let late : Readout := .neutron 1000 4 5 6
    let contents := Record.encodeAll [late, unknown, unknown, unknown, early]
    let source : DumpSource := { bytes := contents }
    open? (some contents) = .ok source ∧ source.CutsBetweenRecords 2 ∧
      source.readAll = [late, early] ∧
      ∃ batches, source.batches? 2 = some batches ∧
      batches.length = 3 ∧ batches.flatMap Batch.readouts = [late, early] ∧
      (batches.map (·.summary.lostBytes)).sum = 60 ∧
      (∃ inside : 1 < batches.length, batches[1].StandsFor [unknown, unknown]) ∧
      (batches.map (·.summary.earliest)).min? = some 900 ∧
      (batches.map (·.summary.latest)).max? = some 1000 := by
  intro unknown early late contents source
  have opened : open? (some contents) = .ok source :=
    (open?_eq_ok_iff contents source).mpr ⟨by decide, rfl⟩
  have cuts : source.CutsBetweenRecords 2 := .inl (by decide)
  have readAll : source.readAll = [late, early] := by decide +kernel
  have recordCount : source.recordCount = 5 := by decide
  have slice : ((Record.decodeAll contents).drop 2).take 2 = [unknown, unknown] := by
    decide +kernel
  obtain ⟨batches, cut, read⟩ := ((batches_agree_with_file contents).2 source 2 opened).1 cuts
  have lost := read.lost
  rw [readAll, recordCount] at lost
  have second : 1 < batches.length := (read.count 1).mpr (by decide)
  have last : 2 < batches.length := (read.count 2).mpr (by decide)
  have none : ¬3 < batches.length := mt (read.count 3).mp (by decide)
  have standing : batches[1].StandsFor (((Record.decodeAll contents).drop 2).take 2) :=
    (read.covered 1 second).1
  rw [slice] at standing
  obtain ⟨earliest, latest⟩ := read.times (readAll ▸ List.cons_ne_nil late [early])
  rw [readAll] at earliest latest
  exact ⟨opened, cuts, readAll, batches, cut, Nat.le_antisymm (Nat.not_lt.mp none) last,
    read.readouts.trans readAll, Nat.add_left_cancel lost, ⟨second, standing⟩, earliest, latest⟩

/-- So many records that the count of their bytes comes out as zero: the file is taken, but
there is no batch of it. -/
theorem oversized_batches_fail :
    let early : Readout := .neutron 900 1 2 3
    let late : Readout := .neutron 1000 4 5 6
    let contents := Record.encodeAll [late, early]
    let source : DumpSource := { bytes := contents }
    open? (some contents) = .ok source ∧ source.readAll = [late, early] ∧
      2 ^ 62 < UInt64.size ∧ source.batches? (2 ^ 62) = none := by
  intro early late contents source
  have opened : open? (some contents) = .ok source :=
    (open?_eq_ok_iff contents source).mpr ⟨by decide, rfl⟩
  have readAll : source.readAll = [late, early] := by decide +kernel
  have length : pieceLength (2 ^ 62) = 0 := by decide
  exact ⟨opened, readAll, by decide, if_pos length⟩

end DumpSource

end EventFormation
