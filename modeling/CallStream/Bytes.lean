/-!
# Byte strings

The data every other module reads and writes: lists of bytes, the little-endian digits of a
number, and the UTF-8 form of a text.

## Main results

- `length_ofNatLE`: a number written in `width` bytes takes `width` bytes.
- `toNatLE_ofNatLE`: reading those bytes back gives the number modulo what the width can hold.
- `ofNatLE_toNatLE`: writing back the number read from some bytes reproduces the bytes.
- `toText?_ofText`, `ofText_of_toText?`: a text survives its own UTF-8 form, and has no other.
- `slice_splice`: what was put into a byte string is found there.
-/

namespace CallStream

/-- A string of bytes. It is a list, so that reading and writing are recursion on the data. -/
abbrev Bytes := List UInt8

namespace Bytes

/-- No buffer holds more bytes than this: sizes of memory are signed 64-bit numbers. A buffer that
would have to grow longer ends the process. -/
def maxLength : Nat := 0x7FFFFFFFFFFFFFFF

/-- The bytes as the contents of a buffer, if one can hold them. -/
def buffered? (bytes : Bytes) : Option Bytes :=
  if bytes.length ≤ maxLength then some bytes else none

/-- What a buffer holds are these bytes, and not too many. -/
theorem buffered?_eq_some_iff {bytes content : Bytes} :
    buffered? bytes = some content ↔ content = bytes ∧ bytes.length ≤ maxLength := by
  unfold buffered?
  split
  · next h => simp [h, eq_comm]
  · next h => simp [h]

/-! ### Little-endian numbers -/

/-- How many numbers `width` bytes can spell. -/
def capacity : (width : Nat) → Nat
  | 0 => 1
  | width + 1 => 256 * capacity width

/-- The `width` lowest base-256 digits of `value`, lowest first. -/
def ofNatLE : (width value : Nat) → Bytes
  | 0, _ => []
  | width + 1, value => UInt8.ofNat value :: ofNatLE width (value / 256)

/-- The number whose base-256 digits are the given bytes, lowest first. -/
def toNatLE : Bytes → Nat
  | [] => 0
  | b :: rest => b.toNat + 256 * toNatLE rest

/-- A number takes as many bytes as its width says, whatever it is. -/
@[simp] theorem length_ofNatLE (width value : Nat) : (ofNatLE width value).length = width := by
  induction width generalizing value with
  | zero => rfl
  | succ width ih => simp [ofNatLE, ih]

/-- Writing keeps the number modulo the range of its width. -/
theorem toNatLE_ofNatLE (width value : Nat) :
    toNatLE (ofNatLE width value) = value % capacity width := by
  induction width generalizing value with
  | zero => simp [ofNatLE, toNatLE, capacity, Nat.mod_one]
  | succ width ih =>
    have hmod := Nat.mod_mul (x := value) (a := 256) (b := capacity width)
    simp only [ofNatLE, toNatLE, ih, UInt8.toNat_ofNat', capacity]
    exact hmod.symm

/-- A number that fits is read back. -/
theorem toNatLE_ofNatLE_of_lt {width value : Nat} (h : value < capacity width) :
    toNatLE (ofNatLE width value) = value := by
  rw [toNatLE_ofNatLE, Nat.mod_eq_of_lt h]

/-- A word that was written is read back. -/
theorem word_ofNatLE (word : UInt32) :
    UInt32.ofNat (toNatLE (ofNatLE 4 word.toNat)) = word := by
  rw [toNatLE_ofNatLE_of_lt word.toNat_lt, UInt32.ofNat_toNat]

/-- A long word that was written is read back. -/
theorem long_ofNatLE (word : UInt64) :
    UInt64.ofNat (toNatLE (ofNatLE 8 word.toNat)) = word := by
  rw [toNatLE_ofNatLE_of_lt word.toNat_lt, UInt64.ofNat_toNat]

/-- Bytes are determined by the number they spell: no two strings of one length share one. -/
theorem ofNatLE_toNatLE (bytes : Bytes) : ofNatLE bytes.length (toNatLE bytes) = bytes := by
  induction bytes with
  | nil => rfl
  | cons b rest ih =>
    have hofNat : UInt8.ofNat (b.toNat + 256 * toNatLE rest) = b := by
      apply UInt8.toNat_inj.mp
      simp
    have hdiv : (b.toNat + 256 * toNatLE rest) / 256 = toNatLE rest := by
      have := b.toNat_lt
      omega
    simp only [List.length_cons, toNatLE, ofNatLE, hofNat, hdiv, ih]

/-- The number that bytes spell is less than the capacity of their width. -/
theorem toNatLE_lt (bytes : Bytes) : toNatLE bytes < capacity bytes.length := by
  induction bytes with
  | nil => simp [toNatLE, capacity]
  | cons b rest ih =>
    have := b.toNat_lt
    simp only [toNatLE, List.length_cons, capacity]
    omega

/-! ### Parts -/

/-- The `length` bytes from `offset` on, or as many of them as there are. -/
def slice (bytes : Bytes) (offset length : Nat) : Bytes := (bytes.drop offset).take length

/-- Puts `content` in the place of as many bytes from `offset` on. -/
def splice (bytes : Bytes) (offset : Nat) (content : Bytes) : Bytes :=
  bytes.take offset ++ content ++ bytes.drop (offset + content.length)

/-- Putting bytes into others that they lie within changes no length. -/
theorem length_splice {bytes content : Bytes} {offset : Nat}
    (h : offset + content.length ≤ bytes.length) :
    (splice bytes offset content).length = bytes.length := by
  simp only [splice, List.length_append, List.length_take, List.length_drop]
  omega

/-- Bytes that were put into others are found there. -/
theorem slice_splice {bytes content : Bytes} {offset : Nat}
    (h : offset + content.length ≤ bytes.length) :
    slice (splice bytes offset content) offset content.length = content := by
  have hlength : (bytes.take offset).length = offset := by
    rw [List.length_take]
    omega
  have hdrop : (splice bytes offset content).drop offset
      = content ++ bytes.drop (offset + content.length) := by
    simp only [splice, List.append_assoc]
    exact List.drop_left' hlength
  rw [slice, hdrop, List.take_left]

/-- What lies behind the front of a byte string is found without the front. -/
theorem slice_append_of_le {front rest : Bytes} {offset length : Nat} (h : front.length ≤ offset) :
    slice (front ++ rest) offset length = slice rest (offset - front.length) length := by
  rw [slice, slice, List.drop_append, List.drop_eq_nil_of_le h, List.nil_append]

/-- A number at the start of a byte string is found there. -/
theorem slice_ofNatLE_append (width value : Nat) (rest : Bytes) :
    slice (ofNatLE width value ++ rest) 0 width = ofNatLE width value := by
  rw [slice, List.drop_zero, List.take_left' (length_ofNatLE width value)]

/-! ### Text -/

/-- The UTF-8 bytes of a text. -/
def ofText (text : String) : Bytes := text.toByteArray.data.toList

/-- The text a UTF-8 byte string spells, if it is well formed. -/
def toText? (bytes : Bytes) : Option String := String.fromUTF8? ⟨bytes.toArray⟩

/-- The bytes of a text are valid and give the text back. -/
theorem toText?_ofText (text : String) : toText? (ofText text) = some text := by
  have hpair : (⟨text.toByteArray.data.toList.toArray⟩ : ByteArray) = text.toByteArray := by
    cases text.toByteArray; simp
  simp only [toText?, ofText, hpair, String.fromUTF8?, text.isValidUTF8, dif_pos]
  rfl

/-- No two byte strings spell one text. -/
theorem ofText_of_toText? {bytes : Bytes} {text : String} (h : toText? bytes = some text) :
    ofText text = bytes := by
  simp only [toText?, String.fromUTF8?] at h
  split at h
  · cases h
    rfl
  · cases h

end Bytes

end CallStream
