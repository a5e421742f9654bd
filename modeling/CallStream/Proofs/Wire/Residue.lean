import CallStream.Wire.Cursor
import CallStream.Proofs.Wire.Integer
import Mathlib.Data.Int.ModEq

/-!
# What an integer field keeps

A field keeps a number modulo the range of its width, wherever in a payload it stands. Read without
a sign it gives the least number of that residue, read with a sign the one in the range around zero.
Each residue has exactly one number there, so a number comes back unchanged just when it lies in the
range, and a number that was read leads back to the bytes it was read from.

## Main results

* `bmod_capacity_eq_iff`: of one residue a field holds the balanced number with its sign, no other.
* `integer_fields_keep_residue`: fields of all widths and both byte orders, between any other bytes.
-/

namespace CallStream

/-- So many bytes spell so many numbers as their bits do. -/
theorem Bytes.capacity_eq_two_pow (width : Nat) : Bytes.capacity width = 2 ^ (8 * width) := by
  induction width with
  | zero => rfl
  | succ width ih => rw [Bytes.capacity, ih, Nat.mul_succ, Nat.pow_add, Nat.mul_comm]

namespace IntWidth

/-- A number that a field of this width can hold with its sign. -/
def HoldsSigned (width : IntWidth) (n : Int) : Prop :=
  -2 ^ (8 * width.bytes - 1) ≤ n ∧ n < 2 ^ (8 * width.bytes - 1)

/-- A width can hold two to the number of its bits. -/
theorem capacity_eq_two_pow (width : IntWidth) : width.capacity = 2 ^ (8 * width.bytes) :=
  Bytes.capacity_eq_two_pow width.bytes

/-- The signed numbers reach half of the capacity to either side of zero. -/
theorem holdsSigned_iff {width : IntWidth} {n : Int} :
    width.HoldsSigned n ↔ -(width.capacity : Int) ≤ 2 * n ∧ 2 * n < width.capacity := by
  have hcast : (width.capacity : Int) = 2 * 2 ^ (8 * width.bytes - 1) := by cases width <;> rfl
  rw [HoldsSigned, hcast]
  omega

/-- Of all numbers with one residue a field holds the balanced one with its sign, and no other. -/
theorem bmod_capacity_eq_iff (width : IntWidth) (m n : Int) :
    Int.bmod m width.capacity = n
      ↔ n ≡ m [ZMOD 2 ^ (8 * width.bytes)] ∧ width.HoldsSigned n := by
  have hresidue : n ≡ m [ZMOD 2 ^ (8 * width.bytes)] ↔ (width.capacity : Int) ∣ n - m := by
    rw [capacity_eq_two_pow, Int.modEq_comm, Int.modEq_iff_dvd]
    push_cast
    rfl
  have hmod : width.capacity % 2 = 0 := by cases width <;> rfl
  rw [Int.bmod_eq_iff width.capacity_pos, hresidue, holdsSigned_iff]
  constructor
  · rintro ⟨hle, hlt, hmultiple⟩
    exact ⟨hmultiple, by omega, by omega⟩
  · rintro ⟨hmultiple, hle, hlt⟩
    exact ⟨by omega, by omega, hmultiple⟩

end IntWidth

namespace Cursor

variable {ε : Type}

/-- The cursor behind the first part of a payload has the second part ahead. -/
theorem advance_start_append (front rest : Bytes) :
    (start (front ++ rest)).advance front.length = ⟨front.length, rest⟩ := by
  rw [start, advance, Nat.zero_add, List.drop_left]

/-- An integer field keeps the residue of a number modulo the range of its width, whatever stands in
front of it and behind it, and reading takes exactly the field. Without a sign the least number of
the residue is read; with a sign the one that the field holds with its sign, which is the number
that was written if and only if the field holds that. What is read from any bytes is written back to
those bytes, with and without a sign. -/
theorem integer_fields_keep_residue (type : IntType) (before behind : Bytes) :
    (∀ word : UInt64, ∃ read : UInt64,
      readUInt (ε := ε) type
          ((start (before ++ type.encode word ++ behind)).advance before.length)
        = .ok read ⟨before.length + type.width.bytes, behind⟩ ∧
      read.toNat = word.toNat % 2 ^ (8 * type.width.bytes)) ∧
    (∀ value : Int64, ∃ read : Int64,
      readSInt (ε := ε) type
          ((start (before ++ type.encode value.toUInt64 ++ behind)).advance before.length)
        = .ok read ⟨before.length + type.width.bytes, behind⟩ ∧
      (∀ n : Int, read.toInt = n
        ↔ n ≡ value.toInt [ZMOD 2 ^ (8 * type.width.bytes)] ∧ type.width.HoldsSigned n) ∧
      (read = value ↔ type.width.HoldsSigned value.toInt)) ∧
    ∀ bytes : Bytes, bytes.length = type.width.bytes →
      (∃ word : UInt64,
        readUInt (ε := ε) type ((start (before ++ bytes ++ behind)).advance before.length)
          = .ok word ⟨before.length + type.width.bytes, behind⟩ ∧
        type.encode word = bytes) ∧
      ∃ value : Int64,
        readSInt (ε := ε) type ((start (before ++ bytes ++ behind)).advance before.length)
          = .ok value ⟨before.length + type.width.bytes, behind⟩ ∧
        type.encode value.toUInt64 = bytes := by
  simp only [List.append_assoc, advance_start_append]
  refine ⟨fun word => ?_, fun value => ?_, fun bytes hlength => ?_⟩
  · refine ⟨_, readUInt_encode type word behind before.length, ?_⟩
    rw [IntType.toNat_decode_encode, IntWidth.capacity_eq_two_pow]
  · have hresidue := type.width.bmod_capacity_eq_iff value.toInt
    rw [← type.toInt_signExtend_decode_encode] at hresidue
    refine ⟨_, readSInt_encode type value.toUInt64 behind before.length, hresidue, ?_⟩
    rw [← Int64.toInt_inj, hresidue, and_iff_right (Int.ModEq.refl _)]
  · have hencode := type.encode_decode bytes hlength
    have hunsigned := readUInt_encode (ε := ε) type (type.decode bytes) behind before.length
    have hsigned := readSInt_encode (ε := ε) type (type.decode bytes) behind before.length
    rw [hencode] at hunsigned hsigned
    refine ⟨⟨_, hunsigned, hencode⟩, _, hsigned, ?_⟩
    rw [IntType.encode_signExtend, hencode]

/-- The lowest number of a field of two bytes, highest byte first, with a byte in front of it and a
byte behind it. -/
theorem integer_fields_keep_residue_lowest :
    ([0x80, 0] : Bytes).length = IntWidth.two.bytes ∧
      readSInt (ε := Empty) ⟨.two, true, .big⟩ ((start [1, 0x80, 0, 7]).advance 1)
        = .ok (-32768) ⟨3, [7]⟩ ∧
      IntType.encode ⟨.two, true, .big⟩ (-32768 : Int64).toUInt64 = [0x80, 0] := by
  have hlength : ([0x80, 0] : Bytes).length = IntWidth.two.bytes := rfl
  have hlowest : readSInt (ε := Empty) ⟨.two, true, .big⟩ ((start [1, 0x80, 0, 7]).advance 1)
      = .ok (-32768) ⟨3, [7]⟩ := by cbv
  obtain ⟨value, hreadSInt, hencode⟩ :=
    ((integer_fields_keep_residue ⟨.two, true, .big⟩ [1] [7]).2.2 [0x80, 0] hlength).2
  obtain rfl : value = -32768 := by
    cases hreadSInt.symm.trans hlowest
    rfl
  exact ⟨hlength, hlowest, hencode⟩

end Cursor

end CallStream
