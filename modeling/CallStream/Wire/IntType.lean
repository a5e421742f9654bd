import CallStream.Bytes

/-!
# Integer layouts

How an integer field lies on the wire: its width in bytes, whether it carries a sign, and its byte
order. Integers travel as 64-bit words; a narrower field keeps the low bytes of the word.

## Main results

- `length_encode`: an integer takes exactly its width.
- `decode_encode`: reading back gives the word modulo the range of the width.
- `encode_decode`: writing back what was read reproduces the bytes.
- `toInt_signExtend`: reading with a sign gives the balanced residue of the bytes' number.
-/

namespace CallStream

/-- The order of an integer's bytes. -/
inductive ByteOrder where
  | little
  | big
deriving DecidableEq, Repr

/-- The widths an integer field may have. -/
inductive IntWidth where
  | one
  | two
  | four
  | eight
deriving DecidableEq, Repr

/-- The number of bytes of a width. -/
def IntWidth.bytes : IntWidth → Nat
  | .one => 1
  | .two => 2
  | .four => 4
  | .eight => 8

/-- How many bits of a word lie above a field of this width. -/
def IntWidth.headroom (width : IntWidth) : Nat := 64 - 8 * width.bytes

/-- How many numbers a width can hold. -/
def IntWidth.capacity (width : IntWidth) : Nat := Bytes.capacity width.bytes

/-- A width holds no more than a word does. -/
theorem IntWidth.capacity_le (width : IntWidth) : width.capacity ≤ UInt64.size := by
  cases width <;> decide

/-- The layout of one integer field. -/
structure IntType where
  width : IntWidth
  signed : Bool
  order : ByteOrder
deriving DecidableEq, Repr

namespace IntType

/-- An unsigned little-endian layout. -/
def unsigned (width : IntWidth) : IntType := ⟨width, false, .little⟩

/-- A signed little-endian layout. -/
def twosComplement (width : IntWidth) : IntType := ⟨width, true, .little⟩

/-- A byte. -/
def u8 : IntType := unsigned .one

/-- A word. -/
def u32 : IntType := unsigned .four

/-- A double word. -/
def u64 : IntType := unsigned .eight

/-- A signed word. -/
def i32 : IntType := twosComplement .four

/-- The four-byte big-endian layout of lengths. -/
def length32 : IntType := { u32 with order := .big }

/-- Byte sizes travel as eight big-endian bytes. -/
def size : IntType := { u64 with order := .big }

/-- The bytes of the low part of a word. -/
def encode (type : IntType) (word : UInt64) : Bytes :=
  match type.order with
  | .little => Bytes.ofNatLE type.width.bytes word.toNat
  | .big => (Bytes.ofNatLE type.width.bytes word.toNat).reverse

/-- The word the bytes spell, extended with zeros. -/
def decode (type : IntType) (bytes : Bytes) : UInt64 :=
  match type.order with
  | .little => UInt64.ofNat (Bytes.toNatLE bytes)
  | .big => UInt64.ofNat (Bytes.toNatLE bytes.reverse)

/-- The signed reading of a word that was read from `width` bytes: the field is moved to the top of
the word and back, and on the way back its top bit fills the bits that it leaves. -/
def signExtend (width : IntWidth) (word : UInt64) : Int64 :=
  (word <<< UInt64.ofNat width.headroom).toInt64 >>> Int64.ofNat width.headroom

/-- Every number of a type takes the same number of bytes. -/
@[simp] theorem length_encode (type : IntType) (word : UInt64) :
    (type.encode word).length = type.width.bytes := by
  unfold encode
  split <;> simp

/-- A field keeps the residue of the word modulo its range. -/
theorem decode_encode (type : IntType) (word : UInt64) :
    type.decode (type.encode word) = UInt64.ofNat (word.toNat % type.width.capacity) := by
  unfold decode encode
  cases type.order <;> simp [Bytes.toNatLE_ofNatLE, IntWidth.capacity]

/-- No information is lost between the bytes and the word. -/
theorem encode_decode (type : IntType) (bytes : Bytes) (h : bytes.length = type.width.bytes) :
    type.encode (type.decode bytes) = bytes := by
  have hle := type.width.capacity_le
  have hrecover (digits : Bytes) (hd : digits.length = type.width.bytes) :
      Bytes.ofNatLE type.width.bytes (UInt64.ofNat (Bytes.toNatLE digits)).toNat = digits := by
    have hlt := Bytes.toNatLE_lt digits
    rw [hd] at hlt
    rw [UInt64.toNat_ofNat_of_lt' (Nat.lt_of_lt_of_le hlt hle), ← hd]
    exact Bytes.ofNatLE_toNatLE digits
  unfold encode decode
  cases type.order with
  | little => exact hrecover bytes h
  | big =>
    simp only
    rw [hrecover bytes.reverse (by simpa using h), List.reverse_reverse]

/-! ### Signs -/

/-- A word that is taken for a signed one is its own balanced residue. -/
theorem toInt_toInt64 (word : UInt64) : word.toInt64.toInt = Int.bmod word.toNat UInt64.size :=
  BitVec.toInt_eq_toNat_bmod word.toBitVec

/-- A field that is moved to the top of its word keeps the residue that the word can hold. -/
theorem toInt_shiftLeft_headroom (width : IntWidth) (word : UInt64) :
    (word <<< UInt64.ofNat width.headroom).toInt64.toInt
      = Int.bmod (word.toNat <<< width.headroom : Nat) UInt64.size := by
  have hamount : (UInt64.ofNat width.headroom).toNat % 64 = width.headroom := by
    cases width <;> decide
  have htoNat : (word <<< UInt64.ofNat width.headroom).toNat
      = (word.toNat <<< width.headroom) % UInt64.size := by
    rw [UInt64.toNat_shiftLeft, hamount]
  rw [toInt_toInt64, htoNat, Int.natCast_emod, Int.emod_bmod]

/-- On the way back down the sign is kept. -/
theorem toInt_shiftRight_headroom (width : IntWidth) (value : Int64) :
    (value >>> Int64.ofNat width.headroom).toInt = value.toInt >>> width.headroom := by
  have hamount : ((Int64.ofNat width.headroom).toBitVec.smod 64).toNat = width.headroom := by
    cases width <;> decide
  rw [← Int64.toInt_toBitVec, Int64.toBitVec_shiftRight, BitVec.sshiftRight_eq', hamount,
    BitVec.toInt_sshiftRight, Int64.toInt_toBitVec]

/-- The signed reading is the balanced residue of the word. -/
theorem toInt_signExtend (width : IntWidth) (word : UInt64) :
    (signExtend width word).toInt = Int.bmod word.toNat width.capacity := by
  have hrange : UInt64.size = 2 ^ width.headroom * width.capacity := by cases width <;> rfl
  have hdvd : 2 ∣ width.capacity := by cases width <;> decide
  have hlt : 0 < 2 ^ width.headroom := Nat.two_pow_pos _
  rw [signExtend, toInt_shiftRight_headroom, toInt_shiftLeft_headroom, Nat.shiftLeft_eq,
    Int.shiftRight_eq_div_pow, hrange, Nat.mul_comm, Int.natCast_mul,
    Int.mod_bmod_mul_of_pos _ _ hlt hdvd]
  exact Int.mul_ediv_cancel_left _ (Int.natCast_ne_zero_iff_pos.mpr hlt)

end IntType

end CallStream
