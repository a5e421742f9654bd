import CallStream.Codec.Decode
import CallStream.Proofs.Step

/-!
# What a read takes

Two properties of a read of parameters, each closed under everything reads are built with, so that
a property of a whole call follows from those of its leaves.

`Reads read bytes value` says that `read` takes exactly `bytes` off any payload that starts with
them, whatever follows, and gives `value`. `Takes read size` says that `read` never succeeds on
fewer than `size` bytes. The first serves to read back what was written, the second to see that a
count which the bytes ahead cannot satisfy would have failed anyway.

## Main results

* `Reads.bind`, `Reads.readMany`: reads one behind the other take their bytes one behind the other.
* `Takes.bind`, `Takes.readMany`: the fewest bytes add up.
* `Reads.size_le`: a read that takes at least `size` bytes was given that many.
-/

namespace CallStream.Decoding

variable {σ ε α β : Type}

/-! ### Reads of the payload -/

/-- A read of the cursor that succeeds does so beside any state, and leaves it alone. -/
theorem onCursor_of_ok {read : Read ε α} {value : α} {cursor after : Cursor}
    (h : read cursor = .ok value after) (state : σ) :
    onCursor read (cursor, state) = .ok value (after, state) := by
  simp only [onCursor, h]

/-- If it fails, it fails beside any state. -/
theorem onCursor_of_error {read : Read ε α} {cause : WireError ε} {cursor after : Cursor}
    (h : read cursor = .error cause after) (state : σ) :
    (onCursor read : Decoding σ ε α) (cursor, state) = .error cause (after, state) := by
  simp only [onCursor, h]

/-- What is read of the cursor beside a state is what is read without one. -/
theorem onCursor_eq_ok_iff {read : Read ε α} {value : α} {cursor after : Cursor} {state last : σ} :
    onCursor read (cursor, state) = .ok value (after, last)
      ↔ read cursor = .ok value after ∧ state = last := by
  cases h : read cursor with
  | ok found reached =>
      rw [onCursor_of_ok h]
      simp only [EStateM.Result.ok.injEq, Prod.mk.injEq, and_assoc]
  | error cause reached =>
      rw [onCursor_of_error h]
      simp

/-- A chain of reads of the payload is a read of the payload. -/
theorem onCursor_bind (read : Read ε α) (next : α → Read ε β) :
    (onCursor (read >>= next) : Decoding σ ε β)
      = onCursor read >>= fun value => onCursor (next value) := by
  funext ⟨cursor, state⟩
  simp only [onCursor, bind, EStateM.bind]
  cases read cursor <;> rfl

/-- A repeated read of the payload is a read of the payload. -/
theorem readMany_onCursor (read : Read ε α) (count : Nat) :
    (readMany (onCursor read) count : Decoding σ ε (List α)) = onCursor (readMany read count) := by
  induction count with
  | zero => rfl
  | succ count ih =>
      simp only [readMany, ih, onCursor_bind]
      rfl

/-! ### Reading back given bytes -/

/-- The read takes exactly `bytes` off any payload that starts with them and gives `value`. What
follows the bytes is not looked at, and the mapper keeps its state. -/
def Reads (read : Decoding σ ε α) (bytes : Bytes) (value : α) : Prop :=
  ∀ (position : Nat) (suffix : Bytes) (state : σ),
    read (⟨position, bytes ++ suffix⟩, state)
      = .ok value (⟨position + bytes.length, suffix⟩, state)

/-- A value that is not read spells no bytes. -/
theorem reads_pure (value : α) : Reads (pure value : Decoding σ ε α) [] value :=
  fun _ _ _ => rfl

/-- The second read starts where the first one ended. -/
theorem Reads.bind {read : Decoding σ ε α} {next : α → Decoding σ ε β} {first second : Bytes}
    {value : α} {result : β} (hreads : Reads read first value)
    (htail : Reads (next value) second result) :
    Reads (read >>= next) (first ++ second) result := by
  intro position suffix state
  rw [List.append_assoc, bind_of_ok (hreads position (second ++ suffix) state),
    htail (position + first.length) suffix state, List.length_append, Nat.add_assoc]

/-- What is made of a value that was read takes no bytes. -/
theorem Reads.map {read : Decoding σ ε α} {bytes : Bytes} {value : α}
    (hreads : Reads read bytes value)
    (f : α → β) : Reads (read >>= fun value => pure (f value)) bytes (f value) := by
  intro position suffix state
  rw [bind_of_ok (hreads position suffix state)]
  rfl

/-- A read of the payload alone is one that takes its bytes off the cursor. -/
theorem reads_onCursor {read : Read ε α} {bytes : Bytes} {value : α}
    (h : ∀ position suffix,
      read ⟨position, bytes ++ suffix⟩ = .ok value ⟨position + bytes.length, suffix⟩) :
    Reads (onCursor read : Decoding σ ε α) bytes value := by
  intro position suffix state
  exact onCursor_of_ok (h position suffix) state

/-- A repeated read takes the bytes of its turns, in order. -/
theorem Reads.readMany {read : Decoding σ ε α} {turns : List β} {bytes : β → Bytes} {value : β → α}
    (heach : ∀ turn ∈ turns, Reads read (bytes turn) (value turn)) :
    Reads (readMany read turns.length) (turns.flatMap bytes) (turns.map value) := by
  induction turns with
  | nil => exact reads_pure []
  | cons turn rest ih =>
      obtain ⟨hreads, hothers⟩ := List.forall_mem_cons.mp heach
      exact hreads.bind ((ih hothers).map (value turn :: ·))

/-! ### The fewest bytes of a read -/

/-- The read never succeeds without taking at least `size` bytes. The reader counts on this when it
compares a count with the bytes that are left. -/
def Takes (read : Decoding σ ε α) (size : Nat) : Prop :=
  ∀ ⦃cursor after : Cursor⦄ ⦃state last : σ⦄ ⦃value : α⦄,
    read (cursor, state) = .ok value (after, last) → after.remaining + size ≤ cursor.remaining

/-- It takes none. -/
theorem takes_pure (value : α) : Takes (pure value : Decoding σ ε α) 0 := by
  intro cursor after state last result h
  obtain ⟨-, hpair⟩ := pure_eq_ok_iff.mp h
  cases hpair
  exact Nat.le_refl _

/-- A read that fails takes as much as one likes. -/
theorem takes_throw (failure : WireError ε) (size : Nat) :
    Takes (throw failure : Decoding σ ε α) size := by
  intro cursor after state last result h
  cases h

/-- A read that takes some bytes takes at least fewer. -/
theorem Takes.mono {read : Decoding σ ε α} {size smaller : Nat} (h : Takes read size)
    (hle : smaller ≤ size) : Takes read smaller := by
  intro cursor after state last value hok
  have := h hok
  omega

/-- Reads one after the other take their bytes together. -/
theorem Takes.bind {read : Decoding σ ε α} {next : α → Decoding σ ε β} {first second : Nat}
    (htakes : Takes read first) (htail : ∀ value, Takes (next value) second) :
    Takes (read >>= next) (first + second) := by
  intro cursor after state last result h
  obtain ⟨value, ⟨middle, reached⟩, hok, hrest⟩ := bind_eq_ok_iff.mp h
  have := htakes hok
  have := htail value hrest
  omega

/-- What is made of a value takes nothing. -/
theorem Takes.of_map {read : Decoding σ ε α} {wrap : α → β} {size : Nat}
    (h : Takes (read >>= fun value => pure (wrap value)) size) : Takes read size := by
  intro cursor after state last value hok
  exact h (bind_of_ok hok)

/-- What is done with a value after it was read can only take more. -/
theorem Takes.andThen {read : Decoding σ ε α} {next : α → Decoding σ ε β} {size : Nat}
    (htakes : Takes read size) (htail : ∀ value, Takes (next value) 0) :
    Takes (read >>= next) size :=
  htakes.bind htail

/-- A read of the cursor takes the bytes that it moves over. -/
theorem takes_onCursor {read : Read ε α} {size : Nat}
    (h : ∀ {cursor after : Cursor} {value : α}, read cursor = .ok value after →
      after.remaining + size ≤ cursor.remaining) :
    Takes (onCursor read : Decoding σ ε α) size := by
  intro cursor after state last value honCursor
  exact h (onCursor_eq_ok_iff.mp honCursor).1

/-- A step of the mapper takes nothing. -/
theorem takes_onMapper (field : String) (handle : UInt64) (step : EStateM ε σ UInt64) :
    Takes (onMapper field handle step) 0 := by
  intro cursor after state last value honMapper
  simp only [onMapper] at honMapper
  split at honMapper
  · cases honMapper
    exact Nat.le_refl _
  · cases honMapper

/-- A read that is repeated takes its bytes as often. -/
theorem Takes.readMany {read : Decoding σ ε α} {size : Nat} (htakes : Takes read size)
    (count : Nat) :
    Takes (readMany read count) (count * size) := by
  induction count with
  | zero =>
      rw [Nat.zero_mul]
      exact takes_pure []
  | succ count ih =>
      have hstep := htakes.bind fun first => ih.andThen fun others => takes_pure (first :: others)
      exact hstep.mono (by rw [Nat.succ_mul]; omega)

/-- A read that takes at least `size` bytes and takes exactly `bytes` was given that many. -/
theorem Reads.size_le {read : Decoding σ ε α} {bytes : Bytes} {value : α} {size : Nat}
    (hexact : Reads read bytes value) (hleast : Takes read size) (state : σ) :
    size ≤ bytes.length := by
  have hle := hleast (hexact 0 [] state)
  simp only [Cursor.remaining, List.length_nil, List.append_nil] at hle
  omega

end CallStream.Decoding

namespace CallStream

open Decoding Cursor

variable {σ ε : Type}

/-! ### A field behind its sentinel -/

/-- Reads one element, or an array of as many as `count` says. -/
def decodeElements (mapper : HandleMapper σ ε) (mapping : HandleMapping) (field : String)
    (type : FieldType) : (count : Option Nat) → Decoding σ ε Value
  | none => decodeElement mapper mapping field type
  | some count => do
    onCursor (requireRoom type count)
    let elements ← readMany (decodeElement mapper mapping field type) count
    pure (.array elements)

/-- Reads what lies behind the sentinel of a field, or all of a field that has none. The reader does
this in two places, and what is proved of it is proved once. -/
def decodeContent (mapper : HandleMapper σ ε) (mapping : HandleMapping) (spec : FieldSpec)
    (scope : Record) : Decoding σ ε Value :=
  match spec.elementCount scope with
  | .error failure => throw failure
  | .ok count => decodeElements mapper mapping spec.name spec.type count

/-- The content of a field is read by its count: one element, an array for which there is room, or
nothing if the count is bad. -/
theorem decodeContent_eq (mapper : HandleMapper σ ε) (mapping : HandleMapping) (spec : FieldSpec)
    (scope : Record) :
    decodeContent mapper mapping spec scope
      = match spec.elementCount scope with
        | .error failure => throw failure
        | .ok none => decodeElement mapper mapping spec.name spec.type
        | .ok (some count) => decodeElements mapper mapping spec.name spec.type (some count) := by
  unfold decodeContent
  rcases spec.elementCount (ε := ε) scope with _ | (_ | _) <;> rfl

/-- A field that cannot be absent is its content. -/
theorem decodeField_of_required {mapper : HandleMapper σ ε} {mapping : HandleMapping}
    {spec : FieldSpec} (h : spec.isOptional = false) (scope : Record) :
    decodeField mapper mapping spec scope = decodeContent mapper mapping spec scope := by
  obtain ⟨name, type, isOptional, count⟩ := spec
  cases h
  exact (decodeContent_eq mapper mapping _ scope).symm

/-- An optional field is its content behind a sentinel, or absent. -/
theorem decodeField_of_optional {mapper : HandleMapper σ ε} {mapping : HandleMapping}
    {spec : FieldSpec} (h : spec.isOptional = true) (scope : Record) :
    decodeField mapper mapping spec scope
      = onCursor readSentinel >>= fun present =>
          if present then decodeContent mapper mapping spec scope else pure .absent := by
  obtain ⟨name, type, isOptional, count⟩ := spec
  cases h
  simp only [decodeContent_eq]
  rfl

end CallStream
