import CallStream.Wire.IntType

/-!
# Integers in narrow fields

A field keeps the residue of a word modulo the range of its width, and nothing else of it. So words
with one residue are written alike, the sign that a reader adds does not change what is written
back, and a number that its field can hold is read back as it was.

## Main results

* `encode_eq_of_mod_eq`: what is written depends on the residue alone.
* `encode_signExtend`: a number read with its sign is written back to the same bytes.
* `toInt_signExtend_decode_encode`: a signed number is read back as the balanced one of its residue.
* `decode_encode_of_lt`, `signExtend_decode_encode`: a number within the range of its field is read
  back as it was.
-/

namespace CallStream

/-- Every width can hold some number. -/
theorem IntWidth.capacity_pos (width : IntWidth) : 0 < width.capacity := by
  cases width <;> decide

/-- The range of a width divides that of a word, so residues survive the wrapping of words. -/
theorem IntWidth.capacity_dvd (width : IntWidth) : width.capacity ∣ UInt64.size := by
  cases width <;> decide

namespace IntType

/-- The digits that fit depend on the residue alone. -/
theorem ofNatLE_mod (width value : Nat) :
    Bytes.ofNatLE width (value % Bytes.capacity width) = Bytes.ofNatLE width value := by
  have hdigits := Bytes.ofNatLE_toNatLE (Bytes.ofNatLE width value)
  rwa [Bytes.length_ofNatLE, Bytes.toNatLE_ofNatLE] at hdigits

/-- Numbers with the same residue have the same bytes. -/
theorem encode_eq_of_mod_eq {type : IntType} {word other : UInt64}
    (h : word.toNat % type.width.capacity = other.toNat % type.width.capacity) :
    type.encode word = type.encode other := by
  have hdigits : Bytes.ofNatLE type.width.bytes word.toNat
      = Bytes.ofNatLE type.width.bytes other.toNat := by
    rw [← ofNatLE_mod, ← ofNatLE_mod type.width.bytes other.toNat]
    exact congrArg _ h
  unfold encode
  rw [hdigits]

/-- The bytes of a number hold its residue. -/
theorem toNat_decode_encode (type : IntType) (word : UInt64) :
    (type.decode (type.encode word)).toNat = word.toNat % type.width.capacity := by
  rw [decode_encode]
  have hlt := Nat.mod_lt word.toNat type.width.capacity_pos
  exact UInt64.toNat_ofNat_of_lt' (Nat.lt_of_lt_of_le hlt type.width.capacity_le)

/-- What was read is written back to the same bytes. -/
theorem encode_decode_encode (type : IntType) (word : UInt64) :
    type.encode (type.decode (type.encode word)) = type.encode word :=
  type.encode_decode _ (type.length_encode word)

/-- A word that its field can hold is read back. -/
theorem decode_encode_of_lt {type : IntType} {word : UInt64}
    (h : word.toNat < type.width.capacity) : type.decode (type.encode word) = word := by
  apply UInt64.toNat_inj.mp
  rw [toNat_decode_encode, Nat.mod_eq_of_lt h]

/-! ### Signs -/

/-- A signed number and the word with its bits leave one residue. -/
theorem bmod_toUInt64 (width : IntWidth) (value : Int64) :
    Int.bmod value.toUInt64.toNat width.capacity = Int.bmod value.toInt width.capacity := by
  have htoInt := toInt_toInt64 value.toUInt64
  rw [Int64.toInt64_toUInt64] at htoInt
  rw [htoInt, Int.bmod_bmod_of_dvd width.capacity_dvd]

/-- The balanced residue names the same residue as the number itself. -/
theorem mod_eq_of_bmod_eq {width : IntWidth} {n m : Nat}
    (h : Int.bmod n width.capacity = Int.bmod m width.capacity) :
    n % width.capacity = m % width.capacity := by
  have hmod := congrArg (· % (width.capacity : Int)) h
  simp only [Int.bmod_emod] at hmod
  exact_mod_cast hmod

/-- A number that was read with its sign is written back to the bytes it was read from. -/
theorem encode_signExtend (type : IntType) (word : UInt64) :
    type.encode (signExtend type.width word).toUInt64 = type.encode word := by
  apply encode_eq_of_mod_eq
  apply mod_eq_of_bmod_eq
  rw [bmod_toUInt64, toInt_signExtend, Int.bmod_bmod]

/-- What was read with its sign is written back to the same bytes. -/
theorem encode_signExtend_decode_encode (type : IntType) (word : UInt64) :
    type.encode (signExtend type.width (type.decode (type.encode word))).toUInt64
      = type.encode word := by
  rw [encode_signExtend, encode_decode_encode]

/-- A signed number is read back as the balanced one of its residue. -/
theorem toInt_signExtend_decode_encode (type : IntType) (value : Int64) :
    (signExtend type.width (type.decode (type.encode value.toUInt64))).toInt
      = Int.bmod value.toInt type.width.capacity := by
  rw [toInt_signExtend, toNat_decode_encode, Int.natCast_emod, Int.emod_bmod, bmod_toUInt64]

/-- A signed number that its field can hold is read back. -/
theorem signExtend_decode_encode {type : IntType} {value : Int64}
    (hle : -(type.width.capacity : Int) ≤ 2 * value.toInt)
    (hlt : 2 * value.toInt < type.width.capacity) :
    signExtend type.width (type.decode (type.encode value.toUInt64)) = value := by
  apply Int64.toInt_inj.mp
  rw [toInt_signExtend_decode_encode]
  exact Int.bmod_eq_of_le (by omega) (by omega)

end IntType

end CallStream
