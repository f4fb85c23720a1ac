import EventFormation.Readout
import EventFormation.Wire.Word

/-!
# Packed records

A record is twenty bytes: the time (eight), the code of the kind, the source,
the column, the row and the charge (two each) and the payload (four), all
little-endian. A code that names no kind is kept apart as `invalid`.
-/

namespace EventFormation

namespace Record

def size : Nat := 20

/-- The bytes of a readout. -/
def encode (readout : Readout) : Bytes :=
  Word.encode 8 readout.time.toNat ++ [readout.kind.code, readout.source] ++
    Word.encode 2 readout.x.toNat ++ Word.encode 2 readout.y.toNat ++
    Word.encode 2 readout.weight.toNat ++ Word.encode 4 readout.data.toNat

/-- The readout in the bytes of one record. -/
def decode (record : Bytes) : Readout where
  time := .ofNat (Word.decodeAt record 0 8)
  kind := .ofCode (.ofNat (Word.decodeAt record 8 1))
  source := .ofNat (Word.decodeAt record 9 1)
  x := .ofNat (Word.decodeAt record 10 2)
  y := .ofNat (Word.decodeAt record 12 2)
  weight := .ofNat (Word.decodeAt record 14 2)
  data := .ofNat (Word.decodeAt record 16 4)

/-- The bytes of many readouts, one record after the other. -/
def encodeAll (readouts : List Readout) : Bytes :=
  readouts.flatMap encode

/-- The first `count` records of a string of bytes. -/
def cut (count : Nat) (bytes : Bytes) : List Bytes :=
  match count with
  | 0 => []
  | count + 1 => bytes.take size :: cut count (bytes.drop size)

/-- The whole records of a string of bytes. -/
def whole (bytes : Bytes) : List Bytes :=
  cut (bytes.length / size) bytes

/-- The readouts in the whole records of a string of bytes, unknown kinds
among them. -/
def decodeAll (bytes : Bytes) : List Readout :=
  (whole bytes).map decode

/-- Whether a readout has a known kind. -/
def known (readout : Readout) : Bool :=
  readout.kind != .invalid

theorem length_encode (readout : Readout) : (encode readout).length = size := by
  simp [encode, Word.length_encode, size]

theorem length_encodeAll (readouts : List Readout) :
    (encodeAll readouts).length = size * readouts.length := by
  induction readouts with
  | nil => rfl
  | cons readout rest ih =>
    simp only [encodeAll, List.flatMap_cons, List.length_append, length_encode] at ih ⊢
    rw [ih, List.length_cons, Nat.mul_succ, Nat.add_comm]

theorem encodeAll_append (readouts others : List Readout) :
    encodeAll (readouts ++ others) = encodeAll readouts ++ encodeAll others :=
  List.flatMap_append

/-- A record that is read is the readout that was written. -/
theorem decode_encode (readout : Readout) : decode (encode readout) = readout := by
  have byte (value : UInt8) : [value] = Word.encode 1 value.toNat := by simp [Word.encode]
  let time := Word.encode 8 readout.time.toNat
  let marks := time ++ [readout.kind.code, readout.source]
  let x := Word.encode 2 readout.x.toNat
  let y := Word.encode 2 readout.y.toNat
  let weight := Word.encode 2 readout.weight.toNat
  let data := Word.encode 4 readout.data.toNat
  have timeAt : Word.decodeAt (encode readout) 0 8 = readout.time.toNat :=
    Word.decodeAt_written [] ([readout.kind.code, readout.source] ++ x ++ y ++ weight ++ data)
      (by simp [encode, x, y, weight, data]) rfl readout.time.toNat_lt
  have kindAt : Word.decodeAt (encode readout) 8 1 = readout.kind.code.toNat :=
    Word.decodeAt_written time ([readout.source] ++ x ++ y ++ weight ++ data)
      (by simp [encode, time, x, y, weight, data, ← byte])
      (by simp [time, Word.length_encode]) readout.kind.code.toNat_lt
  have sourceAt : Word.decodeAt (encode readout) 9 1 = readout.source.toNat :=
    Word.decodeAt_written (time ++ [readout.kind.code]) (x ++ y ++ weight ++ data)
      (by simp [encode, time, x, y, weight, data, ← byte])
      (by simp [time, Word.length_encode]) readout.source.toNat_lt
  have xAt : Word.decodeAt (encode readout) 10 2 = readout.x.toNat :=
    Word.decodeAt_written marks (y ++ weight ++ data)
      (by simp [encode, marks, time, y, weight, data])
      (by simp [marks, time, Word.length_encode]) readout.x.toNat_lt
  have yAt : Word.decodeAt (encode readout) 12 2 = readout.y.toNat :=
    Word.decodeAt_written (marks ++ x) (weight ++ data)
      (by simp [encode, marks, time, x, weight, data])
      (by simp [marks, time, x, Word.length_encode]) readout.y.toNat_lt
  have weightAt : Word.decodeAt (encode readout) 14 2 = readout.weight.toNat :=
    Word.decodeAt_written (marks ++ x ++ y) data
      (by simp [encode, marks, time, x, y, data])
      (by simp [marks, time, x, y, Word.length_encode]) readout.weight.toNat_lt
  have dataAt : Word.decodeAt (encode readout) 16 4 = readout.data.toNat :=
    Word.decodeAt_written (marks ++ x ++ y ++ weight) []
      (by simp [encode, marks, time, x, y, weight])
      (by simp [marks, time, x, y, weight, Word.length_encode]) readout.data.toNat_lt
  simp [decode, timeAt, kindAt, sourceAt, xAt, yAt, weightAt, dataAt, EventKind.ofCode_code]

/-- A readout that is written is the record that was read, up to the code of an
unknown kind. -/
theorem encode_decode {record : Bytes} {code : UInt8} (length : record.length = size)
    (found : record[8]? = some code) :
    encode (decode record) = record.set 8 (EventKind.ofCode code).code := by
  have byte (value : UInt8) : [value] = Word.encode 1 value.toNat := by simp [Word.encode]
  have whole (offset : Nat) {count : Nat} (inside : offset + count ≤ 20) :
      Word.encode count (Word.decodeAt record offset count) = (record.drop offset).take count :=
    Word.encode_decodeAt (by rwa [length])
  have inside : 8 < record.length := by
    rw [length]
    decide
  have time : Word.encode 8 (decode record).time.toNat = record.take 8 := by
    rw [decode, UInt64.toNat_ofNat_of_lt' (Word.decodeAt_lt record 0 8)]
    exact whole 0 (by decide)
  have kind : (decode record).kind = EventKind.ofCode code := by
    have read : Word.decodeAt record 8 1 = code.toNat := by
      simp [Word.decodeAt, List.drop_eq_getElem_cons inside, Word.decode,
        (List.getElem?_eq_some_iff.mp found).2]
    simp [decode, read]
  have source : [(decode record).source] = (record.drop 9).take 1 := by
    rw [byte, decode, UInt8.toNat_ofNat_of_lt' (Word.decodeAt_lt record 9 1)]
    exact whole 9 (by decide)
  have pair (offset : Nat) (inside : offset + 2 ≤ 20) :
      Word.encode 2 (UInt16.ofNat (Word.decodeAt record offset 2)).toNat =
        (record.drop offset).take 2 := by
    rw [UInt16.toNat_ofNat_of_lt' (Word.decodeAt_lt record offset 2)]
    exact whole offset inside
  have x : Word.encode 2 (decode record).x.toNat = (record.drop 10).take 2 := pair 10 (by decide)
  have y : Word.encode 2 (decode record).y.toNat = (record.drop 12).take 2 := pair 12 (by decide)
  have weight : Word.encode 2 (decode record).weight.toNat = (record.drop 14).take 2 :=
    pair 14 (by decide)
  have data : Word.encode 4 (decode record).data.toNat = (record.drop 16).take 4 := by
    rw [decode, UInt32.toNat_ofNat_of_lt' (Word.decodeAt_lt record 16 4)]
    exact whole 16 (by decide)
  have next (offset count : Nat) :
      (record.drop offset).take count ++ record.drop (offset + count) = record.drop offset := by
    rw [← List.drop_drop, List.take_append_drop]
  have rest : (record.drop 16).take 4 = record.drop 16 :=
    List.take_of_length_le (by rw [List.length_drop, length]; decide)
  rw [List.set_eq_take_append_cons_drop, if_pos inside]
  calc encode (decode record)
      = record.take 8 ++ ((decode record).kind.code :: ((record.drop 9).take 1 ++
          ((record.drop 10).take 2 ++ ((record.drop 12).take 2 ++
            ((record.drop 14).take 2 ++ record.drop 16))))) := by
        rw [← rest, ← time, ← source, ← x, ← y, ← weight, ← data]
        simp [encode]
    _ = record.take 8 ++ (EventKind.ofCode code).code :: record.drop 9 := by
        rw [kind, next 14 2, next 12 2, next 10 2, next 9 1]

theorem cut_eq_map (count : Nat) (bytes : Bytes) :
    cut count bytes =
      (List.range count).map fun number => (bytes.drop (size * number)).take size := by
  induction count generalizing bytes with
  | zero => rfl
  | succ count ih =>
    rw [cut, ih, List.range_succ_eq_map, List.map_cons, List.map_map]
    simp [Function.comp_def, List.drop_drop, Nat.mul_succ, Nat.add_comm]

/-- What was written is cut into its records, whatever torn record follows. -/
theorem whole_encodeAll (readouts : List Readout) {tail : Bytes} (torn : tail.length < size) :
    whole (encodeAll readouts ++ tail) = readouts.map encode := by
  have count : (encodeAll readouts ++ tail).length / size = readouts.length := by
    rw [List.length_append, length_encodeAll, Nat.mul_add_div (by decide),
      Nat.div_eq_of_lt torn, Nat.add_zero]
  rw [whole, count]
  clear count
  induction readouts with
  | nil => rfl
  | cons readout rest ih =>
    have first : encodeAll (readout :: rest) ++ tail =
        encode readout ++ (encodeAll rest ++ tail) := by
      simp [encodeAll]
    have length : size = (encode readout).length := (length_encode readout).symm
    rw [List.length_cons, cut, first, length, List.take_left, List.drop_left, ih, List.map_cons]

theorem decodeAll_encodeAll (readouts : List Readout) {tail : Bytes}
    (torn : tail.length < size) : decodeAll (encodeAll readouts ++ tail) = readouts := by
  rw [decodeAll, whole_encodeAll readouts torn, List.map_map]
  simp [Function.comp_def, decode_encode]

end Record

end EventFormation
