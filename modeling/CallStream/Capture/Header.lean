import CallStream.Capture.Command

/-!
# Capture headers

A capture starts with a signature and a header of 56 bytes in all. Times in it count ticks of 100
nanoseconds since 1601; outside they are milliseconds since 1970. Both are words, and a step from
one to the other that would leave its words stops at their bound.

## Main results

- `parse_encode`: a header that was written is read back, whatever follows it.
- `toInt_saturatingAdd`, `toNat_saturatingMul`: a result that no word holds is the nearest word.
-/

namespace CallStream

/-- What a capture says about itself. -/
structure CaptureHeader where
  version : UInt32 := 0
  threadId : UInt32 := 0
  /-- Ticks of 100 nanoseconds since 1601. -/
  lastWritten : UInt64 := 0
  writeIndex : UInt32 := 0
  committedIndex : UInt32 := 0
  captureId : UInt64 := 0
  /-- The number of bytes of the commands behind the header. -/
  dataSize : UInt32 := 0
deriving DecidableEq, Repr

namespace CaptureHeader

/-- The mark that a capture starts with: `GFXAPILOG` and a zero byte. -/
def signature : Bytes := [0x47, 0x46, 0x58, 0x41, 0x50, 0x49, 0x4C, 0x4F, 0x47, 0]

/-- The size of a header, signature included. -/
def size : Nat := 56

/-- The bytes of a header. Each member lies at a multiple of its width. -/
def encode (header : CaptureHeader) : Bytes :=
  signature ++ [0, 0]
    ++ Bytes.ofNatLE 4 header.version.toNat
    ++ Bytes.ofNatLE 4 header.threadId.toNat ++ [0, 0, 0, 0]
    ++ Bytes.ofNatLE 8 header.lastWritten.toNat
    ++ Bytes.ofNatLE 4 header.writeIndex.toNat
    ++ Bytes.ofNatLE 4 header.committedIndex.toNat
    ++ Bytes.ofNatLE 8 header.captureId.toNat
    ++ Bytes.ofNatLE 4 header.dataSize.toNat ++ [0, 0, 0, 0]

/-- Reads the little-endian long word at an offset. -/
def longAt (bytes : Bytes) (offset : Nat) : UInt64 :=
  UInt64.ofNat (Bytes.toNatLE (bytes.slice offset 8))

open Command (wordAt) in
/-- Reads the header at the start of the bytes; its signature is not looked at. `offset` is where a
failure places it. -/
def parse (bytes : Bytes) (offset : Nat) : Except CaptureError CaptureHeader :=
  if bytes.length < size then .error (.truncatedHeader offset bytes.length)
  else
    .ok
      { version := wordAt bytes 12
        threadId := wordAt bytes 16
        lastWritten := longAt bytes 24
        writeIndex := wordAt bytes 32
        committedIndex := wordAt bytes 36
        captureId := longAt bytes 40
        dataSize := wordAt bytes 48 }

/-! ### Times -/

/-- The milliseconds between the start of 1601 and the start of 1970. -/
def epochOffset : Int64 := 11644473600000

/-- The ticks in a millisecond. -/
def ticksPerMillisecond : UInt64 := 10000

/-- The sum of two numbers, or the bound of the words that it lies beyond. -/
def saturatingAdd (a b : Int64) : Int64 := .ofIntClamp (a.toInt + b.toInt)

/-- The product of two numbers, or the greatest word if it is greater. -/
def saturatingMul (a b : UInt64) : UInt64 := .ofNatClamp (a.toNat * b.toNat)

/-- A sum that saturates is the true one, brought into the range of a word. -/
theorem toInt_saturatingAdd (a b : Int64) :
    (saturatingAdd a b).toInt
      = max Int64.minValue.toInt (min (a.toInt + b.toInt) Int64.maxValue.toInt) := by
  have hordered : Int64.minValue.toInt ≤ Int64.maxValue.toInt := by decide
  rw [saturatingAdd, Int64.ofIntClamp]
  split
  · split
    · rw [Int64.toInt_ofIntLE]
      omega
    · omega
  · omega

/-- A product that saturates is the true one, or the greatest word. -/
theorem toNat_saturatingMul (a b : UInt64) :
    (saturatingMul a b).toNat = min (a.toNat * b.toNat) (UInt64.size - 1) := by
  rw [saturatingMul]
  cases Nat.lt_or_ge (a.toNat * b.toNat) UInt64.size with
  | inl hfits =>
    rw [UInt64.toNat_ofNatClamp_of_lt hfits]
    omega
  | inr hexceeds =>
    rw [UInt64.toNat_ofNatClamp_of_le hexceeds]
    omega

/-- The milliseconds since 1970 at a number of ticks. -/
def timeOfTicks (ticks : UInt64) : Int64 :=
  (ticks / ticksPerMillisecond).toInt64 - epochOffset

/-- The number of ticks at a time in milliseconds since 1970, or the nearest one that there is. -/
def ticksOfTime (time : Int64) : UInt64 :=
  let milliseconds := max (saturatingAdd time epochOffset) 0
  saturatingMul milliseconds.toUInt64 ticksPerMillisecond

/-- The time of the last write, in milliseconds since 1970. -/
def timestamp (header : CaptureHeader) : Int := (timeOfTicks header.lastWritten).toInt

/-- The header with a time in milliseconds since 1970, or the nearest one that ticks can tell. -/
def withTimestamp (header : CaptureHeader) (time : Int) : CaptureHeader :=
  { header with lastWritten := ticksOfTime (.ofIntClamp time) }

/-! ### What was written is read back -/

/-- A header is as long as it has to be. -/
theorem length_encode (header : CaptureHeader) : header.encode.length = size := by
  simp [encode, signature, size]

open Command (wordAt) in
/-- A header that was written is read back, whatever follows it. -/
theorem parse_encode (header : CaptureHeader) (suffix : Bytes) (offset : Nat) :
    parse (header.encode ++ suffix) offset = .ok header := by
  have hnlt : ¬ (header.encode ++ suffix).length < size := by
    rw [List.length_append, length_encode]
    omega
  have hmark : signature.length = 10 := rfl
  rw [parse, if_neg hnlt]
  -- A member is found by taking off those in front of it, one after the other.
  simp (disch := simp [hmark]) only [wordAt, longAt, encode, List.append_assoc, hmark,
    Bytes.slice_append_of_le, Bytes.length_ofNatLE, List.length_cons, List.length_nil,
    Nat.reduceSub, Nat.reduceAdd, Bytes.slice_ofNatLE_append, Bytes.word_ofNatLE,
    Bytes.long_ofNatLE]

end CaptureHeader

end CallStream
