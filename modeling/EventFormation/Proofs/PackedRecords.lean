import EventFormation.Proofs.ExtentSpans
import EventFormation.Wire.Summary

/-!
# Packed records, written and read

Readouts that are written are read back as they were, and records that are read
are written back as they were, save that a code without a kind becomes that of
`invalid`.  A string of bytes is read record by record.  Every byte of it is
accounted for: it belongs to a readout that is appended, or is counted as lost.
-/

namespace EventFormation

namespace Summary

/-- The times of a summary, from the earliest to the latest. -/
def extent (summary : Summary) : Extent Nat :=
  { lo := summary.earliest, hi := summary.latest }

/-- The times of a summary are those of readouts. -/
structure Observed (readouts : List Readout) (summary : Summary) : Prop where
  none : readouts = [] → summary.earliest = clockEnd ∧ summary.latest = 0
  some : readouts ≠ [] →
    summary.extent.Spans (readouts.map fun readout => readout.time.toNat)

variable {readouts : List Readout} {summary : Summary}

theorem Observed.observe (observed : summary.Observed readouts) (readout : Readout) :
    (summary.observe readout.time.toNat).Observed (readouts ++ [readout]) := by
  constructor
  · intro nothing
    simp at nothing
  · intro _
    rw [List.map_append]
    by_cases first : readouts = []
    · obtain ⟨earliest, latest⟩ := observed.none first
      have within : readout.time.toNat ≤ clockEnd := Nat.le_sub_one_of_lt readout.time.toNat_lt
      have point : (summary.observe readout.time.toNat).extent = .point readout.time.toNat := by
        simp [extent, Summary.observe, Extent.point, earliest, latest, Nat.min_eq_right within]
      rw [point, first]
      exact Extent.spans_point _
    · exact (observed.some first).insert readout.time.toNat

/-- The span of no times at all is one that no readout can have. -/
theorem Observed.eq_nil_iff (observed : summary.Observed readouts) :
    readouts = [] ↔ summary.earliest = clockEnd ∧ summary.latest = 0 := by
  refine ⟨observed.none, ?_⟩
  rintro ⟨earliest, latest⟩
  cases readouts with
  | nil => rfl
  | cons first rest =>
      have spans := observed.some (List.cons_ne_nil first rest)
      have ordered : summary.earliest ≤ summary.latest := spans.le_hi _ spans.lo_mem
      rw [earliest, latest] at ordered
      exact absurd ordered (by decide)

end Summary

namespace Record

/-- Reading records, whatever has been read before. -/
theorem foldl_accept (records : List Bytes) (out : Array Readout) (summary : Summary)
    {seen : List Readout} (observed : summary.Observed seen) :
    let appended := (records.map decode).filter known
    let (readouts, after) := records.foldl accept (out, summary)
    readouts.toList = out.toList ++ appended ∧
      size * appended.length + after.lostBytes = size * records.length + summary.lostBytes ∧
      after.Observed (seen ++ appended) := by
  induction records generalizing out summary seen with
  | nil =>
    refine ⟨(List.append_nil _).symm, rfl, ?_⟩
    rwa [List.map_nil, List.filter_nil, List.append_nil]
  | cons record records induction =>
    by_cases isKnown : known (decode record) = true
    · have step : accept (out, summary) record =
          (out.push (decode record), summary.observe (decode record).time.toNat) := by
        simp only [accept, if_pos isKnown]
      have onward := induction (out.push (decode record)) _ (observed.observe (decode record))
      obtain ⟨appended, counted, observedAfter⟩ := onward
      rw [List.foldl_cons, step, List.map_cons, List.filter_cons_of_pos isKnown]
      refine ⟨?_, ?_, ?_⟩
      · rw [appended, Array.toList_push, List.append_assoc, List.singleton_append]
      · have lost : (summary.observe (decode record).time.toNat).lostBytes = summary.lostBytes :=
          rfl
        rw [lost] at counted
        rw [List.length_cons, List.length_cons, Nat.mul_succ, Nat.mul_succ]
        omega
      · rwa [List.append_assoc, List.singleton_append] at observedAfter
    · let missed : Summary := { summary with lostBytes := summary.lostBytes + size }
      have step : accept (out, summary) record = (out, missed) := by
        simp only [accept, if_neg isKnown, missed]
      have observedMissed : missed.Observed seen := ⟨observed.none, observed.some⟩
      obtain ⟨appended, counted, observedAfter⟩ := induction out missed observedMissed
      rw [List.foldl_cons, step, List.map_cons, List.filter_cons_of_neg isKnown]
      refine ⟨appended, ?_, observedAfter⟩
      have lost : missed.lostBytes = summary.lostBytes + size := rfl
      rw [lost] at counted
      rw [List.length_cons, Nat.mul_succ]
      omega

theorem length_whole (bytes : Bytes) : (whole bytes).length = bytes.length / size := by
  rw [whole, cut_eq_map, List.length_map, List.length_range]

theorem decodeOnto_spec (out : Array Readout) (bytes : Bytes) :
    let appended := (decodeAll bytes).filter known
    let (readouts, summary) := decodeOnto out bytes
    readouts.toList = out.toList ++ appended ∧
      size * appended.length + summary.lostBytes = bytes.length ∧
      summary.Observed appended := by
  have fresh : ({ lostBytes := bytes.length % size } : Summary).Observed [] :=
    ⟨fun _ => ⟨rfl, rfl⟩, fun occupied => absurd rfl occupied⟩
  obtain ⟨appended, counted, observed⟩ := foldl_accept (whole bytes) out _ fresh
  refine ⟨appended, ?_, observed⟩
  rw [length_whole] at counted
  exact counted.trans (Nat.div_add_mod bytes.length size)

/-- Readouts are read back as they were written, and records are written back as
they were read, up to the code of an unknown kind.  Reading a string of bytes
appends the readouts of known kind in its whole records, in order, counts all
other bytes as lost, and tells the earliest and the latest time of what it has
appended.  So readouts of known kind are read from what was written, whatever
torn record follows. -/
theorem round_trip :
    (∀ readout, decode (encode readout) = readout) ∧
    (∀ (record : Bytes) (code : UInt8), record.length = size → record[8]? = some code →
      (code ≤ 7 ∨ code = 255 → encode (decode record) = record) ∧
      (¬(code ≤ 7 ∨ code = 255) → encode (decode record) = record.set 8 255)) ∧
    (∀ (bytes : Bytes) (out : Array Readout),
      let appended := ((List.range (bytes.length / size)).map fun number =>
        decode ((bytes.drop (size * number)).take size)).filter known
      let (readouts, summary) := decodeOnto out bytes
      readouts.toList = out.toList ++ appended ∧
        size * appended.length + summary.lostBytes = bytes.length ∧
        (appended = [] ↔ summary.earliest = clockEnd ∧ summary.latest = 0) ∧
        (appended ≠ [] → summary.extent.Spans (appended.map fun readout => readout.time.toNat))) ∧
    ∀ (readouts : List Readout) (tail : Bytes) (out : Array Readout), tail.length < size →
      (decodeOnto out (encodeAll readouts ++ tail)).1.toList =
        out.toList ++ readouts.filter known := by
  refine ⟨decode_encode, ?_, ?_, ?_⟩
  · intro record code length found
    obtain ⟨inside, stored⟩ := List.getElem?_eq_some_iff.mp found
    rw [encode_decode length found, EventKind.code_ofCode]
    constructor
    · intro named
      have kept : (if code ≤ 7 then code else 255) = code := by
        rcases named with small | rfl
        · exact if_pos small
        · rfl
      rw [kept, ← stored, List.set_getElem_self]
    · intro unnamed
      rw [if_neg fun small => unnamed (.inl small)]
  · intro bytes out appended
    have records : (decodeAll bytes).filter known = appended := by
      rw [decodeAll, whole, cut_eq_map, List.map_map]
      rfl
    have spec := decodeOnto_spec out bytes
    rw [records] at spec
    obtain ⟨read, counted, observed⟩ := spec
    exact ⟨read, counted, observed.eq_nil_iff, observed.some⟩
  · intro readouts tail out torn
    have read := (decodeOnto_spec out (encodeAll readouts ++ tail)).1
    rwa [decodeAll_encodeAll readouts torn] at read

/-- The second of two records is of unknown kind, and a torn one follows. -/
theorem round_trip_unknown_kind :
    let readout : Readout := .neutron 1000 10 20 3
    let record : Bytes := (encode readout).set 8 66
    let readouts : List Readout := [readout, decode record]
    let tail : Bytes := [1, 2, 3]
    let bytes := encodeAll readouts ++ tail
    let (read, summary) := decodeOnto #[] bytes
    record.length = size ∧ record[8]? = some 66 ∧ tail.length < size ∧
      encode (decode (encode readout)) = encode readout ∧
      encode (decode record) = record.set 8 255 ∧
      read.toList = readouts.filter known ∧ readouts.filter known = [readout] ∧
      summary.lostBytes = 23 ∧ summary.extent.Spans [1000] := by
  intro readout record readouts tail bytes
  have length : record.length = size := by decide
  have found : record[8]? = some 66 := by decide
  have torn : tail.length < size := by decide
  obtain ⟨-, written, strings, read⟩ := round_trip
  have again := (written (encode readout) 1 (by decide) (by decide)).1 (by decide)
  have changed := (written record 66 length found).2 (by decide)
  have only : ((List.range (bytes.length / size)).map fun number =>
      decode ((bytes.drop (size * number)).take size)).filter known = [readout] := by decide
  obtain ⟨-, -, -, spans⟩ := strings bytes #[]
  rw [only] at spans
  exact ⟨length, found, torn, again, changed, read readouts tail #[] torn, by decide, by decide,
    spans (List.cons_ne_nil readout [])⟩

end Record

end EventFormation
