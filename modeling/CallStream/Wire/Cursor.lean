import CallStream.Wire.Error
import CallStream.Wire.IntType

/-!
# Reading from a payload

A cursor is a place in one payload: the bytes not read yet and how many came before them. A read
returns a value and moves the cursor; one that fails says how many bytes it needed and leaves the
cursor where the bytes ran out, so that the caller can still tell how far reading came.

## Main results

- `readBytes_append`: a read of `n` bytes sees only those bytes, whatever follows them.
- `readUInt_encode`, `readSInt_encode`, `readSentinel_encode`: an integer or a sentinel that was
  written is read back.
-/

namespace CallStream

/-- A place in a payload: `position` bytes are behind it and `rest` lies ahead. -/
structure Cursor where
  position : Nat
  rest : Bytes
deriving DecidableEq, Repr

/-- A read from a payload. A failed read keeps the cursor it reached. -/
abbrev Read (ε α : Type) := EStateM (WireError ε) Cursor α

/-- Repeats a step `count` times and collects its results; the first failure ends it, and the state
is then the one that step left. -/
def readMany {ε σ α : Type} (step : EStateM ε σ α) : Nat → EStateM ε σ (List α)
  | 0 => pure []
  | count + 1 => do
    let first ← step
    let others ← readMany step count
    pure (first :: others)

namespace Cursor

variable {ε : Type}

/-- The start of a payload. -/
def start (payload : Bytes) : Cursor := ⟨0, payload⟩

/-- The number of bytes ahead. -/
def remaining (c : Cursor) : Nat := c.rest.length

/-- The length of the whole payload. -/
def length (c : Cursor) : Nat := c.position + c.rest.length

/-- Whether the payload is used up. -/
def atEnd (c : Cursor) : Bool := c.rest.isEmpty

/-- The cursor `n` bytes further on. -/
def advance (c : Cursor) (n : Nat) : Cursor := ⟨c.position + n, c.rest.drop n⟩

/-- The bytes of `payload` between `mark` and the cursor; none if the mark lies ahead. -/
def since (c : Cursor) (payload : Bytes) (mark : Nat) : Bytes :=
  (payload.take c.position).drop mark

/-! ### Bytes and integers -/

/-- Reads exactly `n` bytes, or nothing at all. -/
def readBytes (n : Nat) : Read ε Bytes := fun c =>
  let bytes := c.rest.take n
  if bytes.length = n then .ok bytes (c.advance n)
  else .error (.unexpectedEnd c.position n c.remaining) c

/-- Reads an integer as a word, extended with zeros. -/
def readUInt (type : IntType) : Read ε UInt64 := do
  let bytes ← readBytes type.width.bytes
  pure (type.decode bytes)

/-- Reads an integer and extends the sign of its field. -/
def readSInt (type : IntType) : Read ε Int64 := do
  let word ← readUInt type
  pure (IntType.signExtend type.width word)

/-- Reads a little-endian 32-bit word. -/
def readU32 : Read ε UInt32 := do
  let word ← readUInt .u32
  pure word.toUInt32

/-- Reads a little-endian 64-bit word. -/
def readU64 : Read ε UInt64 := readUInt .u64

/-! ### Optional values -/

/-- The mark in front of an optional value: zero means that the value is absent. -/
def sentinel : IntType := { IntType.u64 with order := .big }

/-- Reads a sentinel; `true` means that a value follows. -/
def readSentinel : Read ε Bool := do
  let word ← readUInt sentinel
  pure (word != 0)

/-- Reads a sentinel and then, if it announces one, a value. -/
def readOptional {α : Type} (read : Read ε α) : Read ε (Option α) := do
  if ← readSentinel then
    let value ← read
    pure (some value)
  else
    pure none

/-- The bytes of a sentinel. -/
def encodeSentinel (present : Bool) : Bytes := sentinel.encode (if present then 1 else 0)

/-- The bytes of an optional value behind its sentinel. -/
def encodeOptional {α : Type} (encode : α → Bytes) : Option α → Bytes
  | none => encodeSentinel false
  | some value => encodeSentinel true ++ encode value

/-! ### What was written is read back -/

/-- A read of `n` bytes depends on these bytes alone. -/
theorem readBytes_append (bytes suffix : Bytes) (position : Nat) :
    readBytes (ε := ε) bytes.length ⟨position, bytes ++ suffix⟩
      = .ok bytes ⟨position + bytes.length, suffix⟩ := by
  simp [readBytes, advance]

/-- Behind a number that was written, reading goes on with the bytes that follow. Without a sign,
what is read is what the bytes of the number hold. -/
theorem readUInt_encode (type : IntType) (word : UInt64) (suffix : Bytes) (position : Nat) :
    readUInt (ε := ε) type ⟨position, type.encode word ++ suffix⟩
      = .ok (type.decode (type.encode word)) ⟨position + type.width.bytes, suffix⟩ := by
  have hreadBytes := readBytes_append (ε := ε) (type.encode word) suffix position
  rw [IntType.length_encode] at hreadBytes
  simp only [readUInt, bind, EStateM.bind, hreadBytes]
  rfl

/-- With a sign, what is read is the number that the same bytes hold in two's complement. -/
theorem readSInt_encode (type : IntType) (word : UInt64) (suffix : Bytes) (position : Nat) :
    readSInt (ε := ε) type ⟨position, type.encode word ++ suffix⟩
      = .ok (IntType.signExtend type.width (type.decode (type.encode word)))
          ⟨position + type.width.bytes, suffix⟩ := by
  simp only [readSInt, bind, EStateM.bind, readUInt_encode]
  rfl

/-- A sentinel that was written is read again. -/
theorem readSentinel_encode (present : Bool) (suffix : Bytes) (position : Nat) :
    readSentinel (ε := ε) ⟨position, encodeSentinel present ++ suffix⟩
      = .ok present ⟨position + 8, suffix⟩ := by
  simp only [readSentinel, encodeSentinel, bind, EStateM.bind, readUInt_encode]
  cases present <;> rfl

end Cursor

end CallStream
