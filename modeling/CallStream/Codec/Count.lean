import CallStream.Schema.Basic
import CallStream.Value.Basic

/-!
# The number of elements of a field

An array is as long as its schema says, or as an integer decoded before it says. That integer is
looked up by its path among the values decoded so far; an absent one counts as zero.

## Main results

- `elementCount_eq_none_iff`: a field is read as a single value exactly if it is no array.
-/

namespace CallStream

/-- `n / divisor`, rounded up. A divisor of zero divides like one. -/
def ceilDiv (n divisor : Nat) : Nat := (n + max divisor 1 - 1) / max divisor 1

namespace FieldSpec

variable {ε : Type}

/-- The number of elements of a field among the values in `scope`; none for a single value. -/
def elementCount (spec : FieldSpec) (scope : Record) : Except (WireError ε) (Option Nat) :=
  match spec.count with
  | .one => .ok none
  | .fixed count => .ok (some count)
  | .field path divisor =>
    let missing := .error (.missingCount spec.name (Record.pathText path))
    match Record.resolve? scope path with
    | none => missing
    | some .absent => .ok (some 0)
    | some value =>
      match value.toWord? with
      | none => missing
      | some word => .ok (some (ceilDiv word.toNat divisor))

/-- No count of an array is ever read as that of a single value. -/
theorem elementCount_eq_none_iff {spec : FieldSpec} {scope : Record} :
    spec.elementCount (ε := ε) scope = .ok none ↔ spec.count = .one := by
  unfold elementCount
  split
  · simp_all
  · simp_all
  · rename_i path divisor hcount
    simp only [hcount, reduceCtorEq, iff_false]
    split
    · simp
    · simp
    · split <;> simp

end FieldSpec

end CallStream
