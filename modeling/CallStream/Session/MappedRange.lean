import CallStream.Session.State
import CallStream.Value.Basic

/-!
# Mapped memory

Guest and host may each have a copy of mapped memory. Then the bytes of a range that a guest flushes
follow the parameters of the call, and the bytes of a range that it invalidates follow the result.

## Main results

- `hostPart?_eq_some_iff`: a range is transferred exactly if it lies in the mapping of its memory.
-/

namespace CallStream

/-- A part of a memory object. -/
structure MappedRange where
  /-- The driver's value for the memory object. -/
  memory : UInt64
  offset : UInt64
  size : UInt64
deriving DecidableEq, Repr

namespace MappedRange

/-- The name of the parameter that lists ranges. -/
def paramName : String := "pMemoryRanges"

/-- The size that stands for everything from an offset on. -/
def wholeSize : UInt64 := 0xFFFFFFFFFFFFFFFF

/-- The range that a value describes. -/
def ofValue? (value : Value) : Option MappedRange := do
  let fields ← value.record?
  let memory ← (← Record.get? fields "memory").toWord?
  let offset ← (← Record.get? fields "offset").toWord?
  let size ← (← Record.get? fields "size").toWord?
  some { memory, offset, size }

/-- The ranges that the parameters of a call list. -/
def ofArgs? (args : Record) : Option (List MappedRange) := do
  let ranges ← (← Record.get? args paramName).elements?
  ranges.mapM ofValue?

/-- The place and the length of the part of a mapping that has `size` bytes from `offset` on. -/
def hostPart? (offset size : UInt64) (mapping : Bytes) : Option (Nat × Nat) :=
  if offset.toNat + size.toNat ≤ mapping.length then some (offset.toNat, size.toNat) else none

/-- A range has a part of its mapping exactly if it lies within, and then it is that part. -/
theorem hostPart?_eq_some_iff {offset size : UInt64} {mapping : Bytes} {start length : Nat} :
    hostPart? offset size mapping = some (start, length)
      ↔ start = offset.toNat ∧ length = size.toNat ∧ start + length ≤ mapping.length := by
  unfold hostPart?
  split
  · simp only [Option.some.injEq, Prod.mk.injEq]
    constructor
    · rintro ⟨rfl, rfl⟩
      exact ⟨rfl, rfl, by assumption⟩
    · rintro ⟨rfl, rfl, _⟩
      exact ⟨rfl, rfl⟩
  · simp only [reduceCtorEq, false_iff]
    rintro ⟨rfl, rfl, _⟩
    contradiction

end MappedRange

namespace Execution

variable {σ : Type}

/-- The ranges that a call lists. -/
def rangesOf (args : Record) : Execution σ (List MappedRange) :=
  match MappedRange.ofArgs? args with
  | some ranges => pure ranges
  | none => throw (.malformed (.valueMismatch MappedRange.paramName))

/-- The part of a mapping that is transferred; `call` is named if it leaves the mapping. -/
def hostPart (call : String) (range : MappedRange) (size : UInt64) (mapping : Bytes) :
    Execution σ (Nat × Nat) :=
  match MappedRange.hostPart? range.offset size mapping with
  | some part => pure part
  | none => fail (.rangeOutOfBounds call range.memory range.offset size mapping.length)

/-- A read of what follows the parameters. -/
def readPayload {α : Type} (read : Read Empty α) (cursor : Cursor) : Execution σ (α × Cursor) :=
  match read cursor with
  | .ok value cursor => pure (value, cursor)
  | .error cause _ => throw (.malformed cause)

/-- Copies the bytes of one flushed range into its mapping. An unmapped range may be empty. -/
def flushRange (host : Collaborators σ) (call : String) (range : MappedRange) (cursor : Cursor) :
    Execution σ Cursor := do
  let (count, cursor) ← readPayload Cursor.readU64 cursor
  match host.mapped? range.memory (← get).state with
  | none =>
    if count > 0 then
      fail (.unmappedMemory call range.memory)
    else
      pure cursor
  | some mapping =>
    let (start, length) ← hostPart call range count mapping
    let (content, cursor) ← readPayload (Cursor.readBytes length) cursor
    modify fun run =>
      { run with state := host.setMapped range.memory (mapping.splice start content) run.state }
    pure cursor

/-- Copies the bytes of flushed ranges, one behind the other. -/
def flushRanges (host : Collaborators σ) (call : String) :
    List MappedRange → Cursor → Execution σ Cursor
  | [], cursor => pure cursor
  | range :: rest, cursor => do
    let cursor ← flushRange host call range cursor
    flushRanges host call rest cursor

/-- Copies bytes into scratch memory and returns them as they are found there. -/
def stage (call : String) (content : Bytes) : Execution σ Bytes := do
  match (← get).scratch.stage content with
  | .error fault => fail (.scratchExhausted ⟨call, fault⟩)
  | .ok (staged, scratch) =>
    modify fun run => { run with scratch }
    pure (scratch.get staged)

/-- Writes the bytes of one invalidated range behind their number. An unmapped range has none. -/
def invalidateRange (host : Collaborators σ) (call : String) (range : MappedRange) :
    Execution σ Unit := do
  let run ← get
  let size :=
    if range.size = MappedRange.wholeSize then host.memorySize range.memory run.state
    else range.size
  match host.mapped? range.memory run.state with
  | none => emit call (IntType.u64.encode 0)
  | some mapping =>
    let (start, length) ← hostPart call range size mapping
    let staged ← stage call (mapping.slice start length)
    emit call (IntType.u64.encode size)
    emit call staged

/-- Writes the bytes of invalidated ranges, one behind the other. -/
def invalidateRanges (host : Collaborators σ) (call : String) :
    List MappedRange → Execution σ Unit
  | [] => pure ()
  | range :: rest => do
    invalidateRange host call range
    invalidateRanges host call rest

end Execution

end CallStream
