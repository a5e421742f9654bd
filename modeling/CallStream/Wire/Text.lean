import CallStream.Wire.Cursor

/-!
# Text on the wire

Three layouts carry a string: a field of fixed size padded with zero bytes, bytes up to a zero byte,
and bytes behind their length. Whatever the layout, the bytes of a string must be UTF-8.

## Main results

- `readText_lengthPrefixed`: a text behind its length is read back whole, whatever it holds.
-/

namespace CallStream

/-- The layout of a string field. -/
inductive TextEncoding where
  /-- Exactly `size` bytes; zero bytes at the end are padding. -/
  | fixed (size : Nat)
  /-- Bytes up to a zero byte, which belongs to the field. -/
  | terminated
  /-- A four-byte big-endian length and as many bytes. -/
  | lengthPrefixed
deriving DecidableEq, Repr

namespace TextEncoding

/-- The bytes without the zero bytes at their end. -/
def dropPadding (bytes : Bytes) : Bytes := (bytes.reverse.dropWhile (· == 0)).reverse

/-- The bytes of a text in a field of `size` bytes: cut, or padded with zero bytes. -/
def fit (size : Nat) (bytes : Bytes) : Bytes :=
  bytes.take size ++ List.replicate (size - bytes.length) 0

/-- The bytes of a text in its layout. -/
def encode (encoding : TextEncoding) (text : String) : Bytes :=
  let bytes := Bytes.ofText text
  match encoding with
  | fixed size => fit size bytes
  | terminated => bytes ++ [0]
  | lengthPrefixed => IntType.length32.encode (UInt64.ofNat bytes.length) ++ bytes

end TextEncoding

namespace Cursor

variable {ε : Type}

/-- Reads up to and with the next zero byte and returns the bytes before it. -/
def readTerminated : Read ε Bytes := fun c =>
  let bytes := c.rest.takeWhile (· != 0)
  if bytes.length < c.remaining then .ok bytes (c.advance (bytes.length + 1))
  else .error (.unexpectedEnd c.position (c.remaining + 1) c.remaining) c

/-- Reads a length and as many bytes. The length stays read when the bytes are missing. -/
def readLengthPrefixed : Read ε Bytes := do
  let length ← readUInt .length32
  readBytes length.toNat

/-- The bytes of a string field, without what its layout adds. -/
def readTextBytes : TextEncoding → Read ε Bytes
  | .fixed size => do
    let bytes ← readBytes size
    pure (TextEncoding.dropPadding bytes)
  | .terminated => readTerminated
  | .lengthPrefixed => readLengthPrefixed

/-- Reads a string field; `field` names it if its bytes are not UTF-8. -/
def readText (encoding : TextEncoding) (field : String) : Read ε String := do
  let bytes ← readTextBytes encoding
  match Bytes.toText? bytes with
  | some text => pure text
  | none => throw (.invalidText field)

/-- The length decides where the text ends, so any text can be carried. -/
theorem readText_lengthPrefixed (text field : String) (suffix : Bytes) (position : Nat)
    (h : (Bytes.ofText text).length < UInt32.size) :
    readText (ε := ε) .lengthPrefixed field
        ⟨position, TextEncoding.lengthPrefixed.encode text ++ suffix⟩
      = .ok text ⟨position + 4 + (Bytes.ofText text).length, suffix⟩ := by
  have htoNat : (IntType.length32.decode (IntType.length32.encode
      (UInt64.ofNat (Bytes.ofText text).length))).toNat = (Bytes.ofText text).length := by
    rw [IntType.decode_encode]
    have hwidth : IntType.length32.width.capacity = UInt32.size := rfl
    simp only [hwidth, UInt64.toNat_ofNat', UInt32.size] at h ⊢
    omega
  simp only [readText, readTextBytes, readLengthPrefixed, TextEncoding.encode, bind, EStateM.bind,
    List.append_assoc, readUInt_encode, htoNat, readBytes_append, Bytes.toText?_ofText]
  rfl

end Cursor

end CallStream
