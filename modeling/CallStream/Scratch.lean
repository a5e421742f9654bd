import CallStream.Bytes

/-!
# Scratch memory

Bytes that are needed only while one call is carried out. Parts are handed out one behind the other,
each at its own alignment, and all are given up together when the call is over.

Two limits are kept apart. An address that cannot be computed is refused (`addressOverflow`), which
a caller can handle. A pool that would become longer than a buffer can be ends the process
(`capacityOverflow`); nobody is told, and the pool is as it was.

## Main results

- `used_le_alignUp?`, `alignUp?_dvd`: an allocation starts behind what is in use, at a multiple of
  its alignment.
- `get_alloc`: fresh memory reads as zeros.
- `get_write`: what was written is read.
-/

namespace CallStream

/-- Why memory for more bytes cannot be had. -/
inductive MemoryFault where
  /-- Their end is no address. The request is refused. -/
  | addressOverflow
  /-- They would make a buffer longer than any can be. The process ends. -/
  | capacityOverflow
deriving DecidableEq, Repr

/-- A part of the scratch memory. -/
structure ScratchSlice where
  offset : Nat
  length : Nat
deriving DecidableEq, Repr

/-- The scratch memory in use. `highWater` is the most that ever was. -/
structure ScratchPool where
  bytes : Bytes := []
  highWater : Nat := 0
deriving DecidableEq, Repr

namespace ScratchPool

/-- Addresses are 64-bit words. -/
def addressLimit : Nat := UInt64.size

/-- The least multiple of `alignment` from `value` on, if it can be computed within an address. -/
def alignUp? (value alignment : Nat) : Option Nat :=
  let last := value + (alignment - 1)
  if last < addressLimit then some (last / alignment * alignment) else none

/-- The bytes in use, gaps between aligned parts included. -/
def used (pool : ScratchPool) : Nat := pool.bytes.length

/-- Gives everything up. -/
def reset (pool : ScratchPool) : ScratchPool := { pool with bytes := [] }

/-- Hands out `size` zero bytes at a multiple of `alignment`; an alignment of zero is none. It is
refused only if an address is too large. -/
def alloc (pool : ScratchPool) (size alignment : Nat) :
    Except MemoryFault (ScratchSlice × ScratchPool) :=
  match alignUp? pool.used (max alignment 1) with
  | none => .error .addressOverflow
  | some offset =>
    let stop := offset + size
    if addressLimit ≤ stop then
      .error .addressOverflow
    else if Bytes.maxLength < stop then
      .error .capacityOverflow
    else
      .ok (⟨offset, size⟩,
        { bytes := pool.bytes ++ List.replicate (stop - pool.used) 0
          highWater := max pool.highWater stop })

/-- The part that is handed out, if one is. -/
def alloc? (pool : ScratchPool) (size alignment : Nat) : Option (ScratchSlice × ScratchPool) :=
  (pool.alloc size alignment).toOption

/-- The bytes of a part. -/
def get (pool : ScratchPool) (slice : ScratchSlice) : Bytes :=
  pool.bytes.slice slice.offset slice.length

/-- Writes bytes at the start of a part. -/
def write (pool : ScratchPool) (slice : ScratchSlice) (content : Bytes) : ScratchPool :=
  { pool with bytes := pool.bytes.splice slice.offset content }

/-- Hands out a part that holds the given bytes. -/
def stage (pool : ScratchPool) (content : Bytes) :
    Except MemoryFault (ScratchSlice × ScratchPool) := do
  let (slice, pool) ← pool.alloc content.length 1
  pure (slice, pool.write slice content)

/-- The part that holds the given bytes, if one is handed out. -/
def stage? (pool : ScratchPool) (content : Bytes) : Option (ScratchSlice × ScratchPool) :=
  (pool.stage content).toOption

/-! ### Where parts lie and what they hold -/

/-- Rounding up never goes down. -/
theorem used_le_alignUp? {value alignment aligned : Nat} (hpos : 0 < alignment)
    (h : alignUp? value alignment = some aligned) : value ≤ aligned := by
  simp only [alignUp?] at h
  split at h
  · cases h
    have hsplit := Nat.div_add_mod (value + (alignment - 1)) alignment
    have hmod := Nat.mod_lt (value + (alignment - 1)) hpos
    rw [Nat.mul_comm] at hsplit
    omega
  · cases h

/-- Rounding up ends at a multiple. -/
theorem alignUp?_dvd {value alignment aligned : Nat} (h : alignUp? value alignment = some aligned) :
    alignment ∣ aligned := by
  simp only [alignUp?] at h
  split at h
  · cases h
    exact Nat.dvd_mul_left _ _
  · cases h

/-- What was handed out lies at the rounded offset and within both limits, and the pool is extended
by zeros up to its end. -/
theorem alloc_eq_ok {pool after : ScratchPool} {size alignment : Nat} {slice : ScratchSlice}
    (h : pool.alloc size alignment = .ok (slice, after)) :
    alignUp? pool.used (max alignment 1) = some slice.offset ∧ slice.length = size ∧
      slice.offset + size < addressLimit ∧ slice.offset + size ≤ Bytes.maxLength ∧
      after = { bytes := pool.bytes ++ List.replicate (slice.offset + size - pool.used) 0,
                highWater := max pool.highWater (slice.offset + size) } := by
  unfold alloc at h
  split at h
  · cases h
  · next offset haligned =>
    dsimp only at h
    split at h
    · cases h
    · next haddress =>
      split at h
      · cases h
      · next hcapacity =>
        cases h
        exact ⟨haligned, rfl, Nat.lt_of_not_le haddress, Nat.le_of_not_lt hcapacity, rfl⟩

/-- Fresh memory reads as zeros, whatever the pool held before. -/
theorem get_alloc {pool after : ScratchPool} {size alignment : Nat} {slice : ScratchSlice}
    (h : pool.alloc size alignment = .ok (slice, after)) :
    after.get slice = List.replicate size 0 := by
  obtain ⟨haligned, rfl, -, -, rfl⟩ := alloc_eq_ok h
  have hpos : 0 < max alignment 1 := Nat.lt_of_lt_of_le Nat.zero_lt_one (Nat.le_max_right _ _)
  have hbehind : pool.bytes.length ≤ slice.offset := used_le_alignUp? hpos haligned
  simp only [get, Bytes.slice, used, List.drop_append, List.drop_of_length_le hbehind,
    List.nil_append, List.drop_replicate, List.take_replicate]
  congr 1
  omega

/-- What was written into a part is read there. -/
theorem get_write {pool : ScratchPool} {slice : ScratchSlice} {content : Bytes}
    (hsize : content.length = slice.length) (hinside : slice.offset + slice.length ≤ pool.used) :
    (pool.write slice content).get slice = content := by
  rw [← hsize] at hinside
  rw [get, write, ← hsize]
  exact Bytes.slice_splice hinside

end ScratchPool

end CallStream
