import CallStream.Bytes

/-!
# Where results go

A writer gathers the bytes of one result and hands them to a sink in one write, which the sink is
asked to carry through at once. Both may fail, and then the sink may have taken a part of the bytes,
or all of them; it may also fail for a result without bytes. So a sink that fails may hold a part of
a result, and nothing else comes behind it.

A sink that takes each write whole or not at all is *atomic*. Those that are used here are.

## Main results

- `write?_eq_some_iff`: a write that succeeds is taken whole.
- `Atomic.offer`: an atomic sink holds what it held behind a write that fails.
-/

namespace CallStream

/-- A receiver of bytes. What becomes of a write depends on what the sink was offered and what it
received before: `refuses?` gives the number of bytes that are taken before the write or the flush
behind it fails, and `none` if both succeed. -/
structure Sink where
  refuses? : (offered : List Bytes) → (received write : Bytes) → Option Nat
  /-- The writes so far, failed ones too. -/
  offered : List Bytes := []
  /-- The bytes that were taken. -/
  received : Bytes := []

namespace Sink

/-- A sink that takes every write. -/
def unbounded : Sink := { refuses? := fun _ _ _ => none }

/-- A sink that refuses a write that would make it longer than `limit` bytes. -/
def bounded (limit : Nat) : Sink :=
  { refuses? := fun _ received write =>
      if received.length + write.length ≤ limit then none else some 0 }

/-- What becomes of the next write: the number of bytes that are taken if it fails. -/
def fails? (sink : Sink) (bytes : Bytes) : Option Nat :=
  sink.refuses? sink.offered sink.received bytes

/-- The sink behind a write, whether it failed or not. -/
def offer (sink : Sink) (bytes : Bytes) : Sink :=
  { sink with
    offered := sink.offered ++ [bytes]
    received := sink.received ++ bytes.take ((sink.fails? bytes).getD bytes.length) }

/-- The sink behind a write and a flush that succeed. -/
def write? (sink : Sink) (bytes : Bytes) : Option Sink :=
  if sink.fails? bytes = none then some (sink.offer bytes) else none

/-- The sink behind writes that all succeeded. -/
def taking (sink : Sink) (writes : List Bytes) : Sink :=
  { sink with offered := sink.offered ++ writes, received := sink.received ++ writes.flatten }

/-- The cause a sink gives for refusing a write. -/
def refusal : String := "sink full"

/-! ### What a sink takes -/

/-- A sink that takes nothing stays as it is. -/
@[simp] theorem taking_nil (sink : Sink) : sink.taking [] = sink := by
  simp [taking]

/-- Replies that are taken one after another are taken together. -/
@[simp] theorem taking_taking (sink : Sink) (front back : List Bytes) :
    (sink.taking front).taking back = sink.taking (front ++ back) := by
  simp [taking]

/-- A write that succeeds is taken whole. -/
theorem write?_eq_some_iff {sink after : Sink} {bytes : Bytes} :
    sink.write? bytes = some after ↔ sink.fails? bytes = none ∧ after = sink.taking [bytes] := by
  unfold write?
  split
  · next h => simp [offer, taking, h, eq_comm]
  · next h => simp [h]

/-- A write fails if the sink says so. -/
theorem write?_eq_none_iff {sink : Sink} {bytes : Bytes} :
    sink.write? bytes = none ↔ sink.fails? bytes ≠ none := by
  simp [write?]

/-- A sink that takes each write whole or refuses it whole, and whose flush succeeds. -/
def Atomic (sink : Sink) : Prop :=
  ∀ (offered : List Bytes) (received write : Bytes),
    (sink.refuses? offered received write).all (· = 0)

/-- A sink without a limit takes all of each reply. -/
theorem atomic_unbounded : unbounded.Atomic := fun _ _ _ => rfl

/-- A sink with a limit takes all of a reply or nothing. -/
theorem atomic_bounded (limit : Nat) : (bounded limit).Atomic := by
  intro offered received write
  simp only [bounded]
  split <;> rfl

/-- An atomic sink holds what it held behind a write that fails. -/
theorem Atomic.offer {sink : Sink} (hatomic : sink.Atomic) {bytes : Bytes}
    (hfails : sink.fails? bytes ≠ none) : (sink.offer bytes).received = sink.received := by
  obtain ⟨taken, htaken⟩ := Option.ne_none_iff_exists'.mp hfails
  have hnone : taken = 0 := by
    have h := hatomic sink.offered sink.received bytes
    rw [show sink.refuses? sink.offered sink.received bytes = some taken from htaken] at h
    simpa using h
  simp [Sink.offer, htaken, hnone]

end Sink

/-- The bytes of a result that is not finished yet. -/
structure Writer where
  bytes : Bytes := []
deriving DecidableEq, Repr

namespace Writer

/-- Adds bytes to the result. -/
def append (writer : Writer) (bytes : Bytes) : Writer := ⟨writer.bytes ++ bytes⟩

/-- Whether the result can grow by `count` bytes. -/
def HasRoom (writer : Writer) (count : Nat) : Prop :=
  writer.bytes.length + count ≤ Bytes.maxLength

/-- Whether there is room can be computed. -/
instance (writer : Writer) (count : Nat) : Decidable (writer.HasRoom count) :=
  inferInstanceAs (Decidable (_ ≤ _))

/-- A result that has grown has room for more where the shorter one had it for both. -/
theorem hasRoom_append {writer : Writer} {bytes : Bytes} {count : Nat} :
    (writer.append bytes).HasRoom count ↔ writer.HasRoom (bytes.length + count) := by
  unfold HasRoom append
  rw [List.length_append, Nat.add_assoc]

/-- Where there is room for more, there is room for less. -/
theorem HasRoom.mono {writer : Writer} {count more : Nat} (h : writer.HasRoom more)
    (hle : count ≤ more) : writer.HasRoom count :=
  Nat.le_trans (Nat.add_le_add_left hle _) h

/-- Drops what was written. -/
def clear (_ : Writer) : Writer := ⟨[]⟩

/-- Hands everything to the sink and starts afresh. When the sink fails, the writer keeps its
bytes. -/
def commit? (writer : Writer) (sink : Sink) : Option (Writer × Sink) :=
  (sink.write? writer.bytes).map fun sink => (writer.clear, sink)

end Writer

end CallStream
