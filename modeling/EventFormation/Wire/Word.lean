/-!
# Little-endian words

A word is written as a fixed number of bytes, the lowest first.
-/

namespace EventFormation

abbrev Bytes := List UInt8

namespace Word

/-- The lowest `count` bytes of a number, the lowest first. -/
def encode (count value : Nat) : Bytes :=
  match count with
  | 0 => []
  | count + 1 => .ofNat (value % 256) :: encode count (value / 256)

/-- The number that bytes stand for, the lowest first. -/
def decode : Bytes → Nat
  | [] => 0
  | byte :: rest => byte.toNat + 256 * decode rest

/-- The number in the `count` bytes from `offset` on. -/
def decodeAt (bytes : Bytes) (offset count : Nat) : Nat :=
  decode ((bytes.drop offset).take count)

theorem length_encode (count value : Nat) : (encode count value).length = count := by
  induction count generalizing value with
  | zero => rfl
  | succ count ih => simp [encode, ih]

theorem encode_decode (bytes : Bytes) : encode bytes.length (decode bytes) = bytes := by
  induction bytes with
  | nil => rfl
  | cons byte rest ih =>
    have small := byte.toNat_lt
    have low : (byte.toNat + 256 * decode rest) % 256 = byte.toNat := by omega
    have high : (byte.toNat + 256 * decode rest) / 256 = decode rest := by omega
    simp [decode, encode, low, high, ih]

theorem decode_encode {count value : Nat} (fits : value < Nat.pow 256 count) :
    decode (encode count value) = value := by
  induction count generalizing value with
  | zero =>
    have zero : value = 0 := Nat.lt_one_iff.mp fits
    rw [zero]
    rfl
  | succ count ih =>
    have grown : Nat.pow 256 (count + 1) = 256 * Nat.pow 256 count := Nat.pow_succ'
    have rest : value / 256 < Nat.pow 256 count := Nat.div_lt_of_lt_mul (grown ▸ fits)
    have byte : (UInt8.ofNat (value % 256)).toNat = value % 256 := by
      simp
    rw [encode, decode, ih rest, byte, Nat.mod_add_div]

theorem decode_lt (bytes : Bytes) : decode bytes < Nat.pow 256 bytes.length := by
  induction bytes with
  | nil => exact Nat.one_pos
  | cons byte rest ih =>
    have small := byte.toNat_lt
    have grown : Nat.pow 256 (rest.length + 1) = 256 * Nat.pow 256 rest.length := Nat.pow_succ'
    rw [decode, List.length_cons, grown]
    omega

/-- The word that stands after other bytes. -/
theorem decodeAt_append (before word after : Bytes) :
    decodeAt (before ++ (word ++ after)) before.length word.length = decode word := by
  rw [decodeAt, List.drop_left, List.take_left]

theorem decodeAt_written {bytes : Bytes} {offset count value : Nat} (before after : Bytes)
    (split : bytes = before ++ (encode count value ++ after))
    (position : before.length = offset) (fits : value < Nat.pow 256 count) :
    decodeAt bytes offset count = value := by
  have found := decodeAt_append before (encode count value) after
  rwa [length_encode, decode_encode fits, position, ← split] at found

theorem decodeAt_lt (bytes : Bytes) (offset count : Nat) :
    decodeAt bytes offset count < Nat.pow 256 count := by
  refine Nat.lt_of_lt_of_le (decode_lt _) (Nat.pow_le_pow_right (by decide) ?_)
  exact List.length_take_le count _

theorem encode_decodeAt {bytes : Bytes} {offset count : Nat}
    (inside : offset + count ≤ bytes.length) :
    encode count (decodeAt bytes offset count) = (bytes.drop offset).take count := by
  have length : ((bytes.drop offset).take count).length = count := by
    rw [List.length_take, List.length_drop]
    omega
  have written := encode_decode ((bytes.drop offset).take count)
  rwa [length] at written

end Word

end EventFormation
