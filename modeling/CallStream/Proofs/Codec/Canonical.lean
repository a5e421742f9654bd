import CallStream.Codec.Encode
import CallStream.Proofs.Codec.Layout
import CallStream.Proofs.Wire.Integer

/-!
# The record that a reader gets back

A record need not be well typed to be written. An integer keeps only the bytes that fit its field,
and takes on the sign of its field; members that the layout does not name are left out; the order of
members does not matter. `canonical` is what is left after writing and reading: the same values
under the names of the layout, in its order, with every integer as its field stores it.

Counts survive this. A count that an array of fewer than `UInt32.size` elements agrees with is small
enough for its field, so the reader finds the number that the writer found
(`elementCount_canonical`).

## Main results

* `resolve?_canonicalFields`: a path leads to the canonical form of what it led to before.
* `elementCount_canonical`: the count of a well laid array is the same before and after.
-/

namespace CallStream

/-! ### Canonical values -/

/-- An integer as its field stores it: cut to the width of the field, and signed as the field is. -/
def IntType.stored (type : IntType) (word : UInt64) : Value :=
  if type.signed then .sint (signExtend type.width (type.decode (type.encode word)))
  else .uint (type.decode (type.encode word))

mutual

/-- One element as it is read back. -/
def FieldType.canonical : FieldType → Value → Value
  | .int type, .uint word => type.stored word
  | .int type, .sint value => type.stored value.toUInt64
  | .struct schema, .struct fields => .struct (schema.canonical fields)
  | _, value => value
termination_by structural type => type

/-- The members of a structure as they are read back. -/
def StructSchema.canonical : StructSchema → Record → Record
  | ⟨_, _, fields⟩, record => FieldSpec.canonicalFields fields record
termination_by structural schema => schema

/-- The value of a field as it is read back. -/
def FieldSpec.canonical : FieldSpec → Value → Value
  | ⟨_, type, _, .one⟩, value => type.canonical value
  | ⟨_, type, _, _⟩, .array elements => .array (elements.map type.canonical)
  | _, value => value
termination_by structural spec => spec

/-- The values of some fields as they are read back, without those that the record lacks. They are
in the order of the layout, and names that the layout does not have are left out. -/
def FieldSpec.canonicalFields : List FieldSpec → Record → Record
  | [], _ => []
  | spec :: rest, record =>
    match Record.get? record spec.name with
    | none => FieldSpec.canonicalFields rest record
    | some value => (spec.name, spec.canonical value) :: FieldSpec.canonicalFields rest record
termination_by structural fields => fields

end

/-- The canonical form of a structure is that of its fields. -/
theorem StructSchema.canonical_eq (schema : StructSchema) (record : Record) :
    schema.canonical record = FieldSpec.canonicalFields schema.fields record := by
  cases schema
  rfl

/-- An absent value stays absent. -/
theorem FieldSpec.canonical_absent (spec : FieldSpec) : spec.canonical .absent = .absent := by
  obtain ⟨name, type, isOptional, count⟩ := spec
  cases count <;> cases type <;> rfl

/-- The canonical form of a single value is that of its type. -/
theorem FieldSpec.canonical_of_one {spec : FieldSpec} (h : spec.count = .one) (value : Value) :
    spec.canonical value = spec.type.canonical value := by
  obtain ⟨name, type, isOptional, count⟩ := spec
  cases h
  rfl

/-- The canonical form of an array is that of its elements. -/
theorem FieldSpec.canonical_array {spec : FieldSpec} (h : spec.count ≠ .one)
    (elements : List Value) :
    spec.canonical (.array elements) = .array (elements.map spec.type.canonical) := by
  obtain ⟨name, type, isOptional, count⟩ := spec
  cases count with
  | one => contradiction
  | fixed count => rfl
  | field path divisor => rfl

/-- A field without a value is left out. -/
theorem FieldSpec.canonicalFields_cons_of_none {spec : FieldSpec} {record : Record}
    (h : Record.get? record spec.name = none) (rest : List FieldSpec) :
    canonicalFields (spec :: rest) record = canonicalFields rest record := by
  simp only [canonicalFields, h]

/-- A field with a value has its canonical form, in the place of the field. -/
theorem FieldSpec.canonicalFields_cons_of_some {spec : FieldSpec} {record : Record} {value : Value}
    (h : Record.get? record spec.name = some value) (rest : List FieldSpec) :
    canonicalFields (spec :: rest) record
      = (spec.name, spec.canonical value) :: canonicalFields rest record := by
  simp only [canonicalFields, h]

/-- Fields one behind the other have their canonical forms so. -/
theorem FieldSpec.canonicalFields_append (front back : List FieldSpec) (record : Record) :
    canonicalFields (front ++ back) record
      = canonicalFields front record ++ canonicalFields back record := by
  induction front with
  | nil => rfl
  | cons spec rest ih =>
      rw [List.cons_append]
      cases hget : Record.get? record spec.name with
      | none =>
          rw [canonicalFields_cons_of_none hget, canonicalFields_cons_of_none hget, ih]
      | some value =>
          rw [canonicalFields_cons_of_some hget, canonicalFields_cons_of_some hget, ih,
            List.cons_append]

/-! ### Look-ups in canonical records -/

namespace Record

open FieldSpec

/-- A name finds what the first field of that name makes of the value it found before. -/
theorem get?_canonicalFields (fields : List FieldSpec) (record : Record) (name : String) :
    get? (canonicalFields fields record) name
      = (named? fields name).bind fun spec => (get? record name).map spec.canonical := by
  induction fields with
  | nil => rfl
  | cons spec rest ih =>
      by_cases hname : spec.name = name
      · subst hname
        have hnamed : named? (spec :: rest) spec.name = some spec := by simp [named?]
        rw [hnamed, Option.bind_some]
        cases hget : get? record spec.name with
        | none =>
            rw [canonicalFields_cons_of_none hget, ih, hget, Option.map_none]
            cases named? rest spec.name <;> rfl
        | some value =>
            rw [canonicalFields_cons_of_some hget, Option.map_some, get?, List.lookup_cons_self]
      -- Another field in front is passed over, whether or not it has a value.
      · have hlater : named? (spec :: rest) name = named? rest name := by simp [named?, hname]
        have hbeq : (name == spec.name) = false := by simpa using Ne.symm hname
        rw [hlater, ← ih]
        cases hget : get? record spec.name with
        | none => rw [canonicalFields_cons_of_none hget]
        | some value =>
            rw [canonicalFields_cons_of_some hget]
            simp only [get?, List.lookup_cons, hbeq]

/-- A path leads to the canonical form of what it led to before. -/
theorem resolve?_canonicalFields {fields : List FieldSpec} {path : List String}
    {counter : FieldSpec} (h : counter? fields path = some counter) (record : Record) :
    resolve? (canonicalFields fields record) path
      = (resolve? record path).map counter.canonical := by
  induction path generalizing fields record with
  | nil => cases h
  | cons name path ih =>
      cases path with
      | nil =>
          have hnamed : named? fields name = some counter := h
          rw [resolve?_singleton, resolve?_singleton, get?_canonicalFields, hnamed,
            Option.bind_some]
      | cons inner path =>
          simp only [counter?, Option.bind_eq_some_iff] at h
          obtain ⟨members, ⟨spec, hnamed, hinside⟩, h⟩ := h
          -- Only a single structure has members, so the path goes on in a structure or nowhere.
          obtain ⟨_, type, isOptional, count⟩ := spec
          cases type <;> cases count <;> try cases hinside
          rename_i schema
          have hstep := get?_canonicalFields fields record name
          rw [hnamed, Option.bind_some] at hstep
          simp only [resolve?, hstep]
          cases get? record name with
          | none => rfl
          | some value =>
              cases value with
              | struct members =>
                  rw [Option.map_some, FieldSpec.canonical, FieldType.canonical,
                    StructSchema.canonical_eq]
                  exact ih h members
              | _ => rfl

end Record

/-! ### Counts -/

namespace FieldSpec

variable {ε δ : Type}

/-- The count of an array that something else counts: none if that is absent, and else the units of
the integer that it is. -/
theorem elementCount_eq_some_iff {spec : FieldSpec} {path : List String} {divisor n : Nat}
    {scope : Record} (hcount : spec.count = .field path divisor) :
    spec.elementCount (ε := ε) scope = .ok (some n)
      ↔ ∃ value, Record.resolve? scope path = some value ∧
          ((value = .absent ∧ n = 0) ∨
            ∃ word, value.toWord? = some word ∧ n = ceilDiv word.toNat divisor) := by
  simp only [elementCount, hcount]
  cases hresolve : Record.resolve? scope path with
  | none => simp
  | some value =>
      cases value with
      | absent => simp [Value.toWord?, eq_comm]
      | _ =>
          simp only [Option.some.injEq, exists_eq_left', reduceCtorEq, false_and, false_or]
          split
          · next htoWord => simp [htoWord]
          · next word hsome => simp [hsome, eq_comm]

/-- A count in the range of array lengths bounds the integer that it comes from. -/
theorem lt_of_ceilDiv_lt {n divisor limit : Nat} (h : ceilDiv n divisor < limit) :
    n < limit * max divisor 1 := by
  have hlt : 0 < max divisor 1 := Nat.lt_of_lt_of_le Nat.zero_lt_one (Nat.le_max_right _ _)
  have hbound := (Nat.div_lt_iff_lt_mul hlt).mp h
  omega

/-- A counter that counts an array is stored as it is. -/
theorem toWord?_canonical {counter : FieldSpec} {divisor : Nat} {value : Value} {word : UInt64}
    (hcounts : counter.counts divisor = true) (h : value.toWord? = some word)
    (hlt : ceilDiv word.toNat divisor < UInt32.size) :
    (counter.canonical value).toWord? = some word := by
  obtain ⟨name, type, isOptional, count⟩ := counter
  simp only [FieldSpec.counts, Bool.and_eq_true, beq_iff_eq] at hcounts
  obtain ⟨rfl, hcounts⟩ := hcounts
  simp only [FieldSpec.canonical]
  cases type with
  | int type =>
      simp only [Bool.and_eq_true, Bool.not_eq_true', decide_eq_true_eq] at hcounts
      obtain ⟨hunsigned, hwide⟩ := hcounts
      -- The counter is wide enough for the number, so storing the number does not change it.
      have hfits : word.toNat < type.width.capacity :=
        Nat.lt_of_lt_of_le (lt_of_ceilDiv_lt hlt) hwide
      have htoWord : (type.stored word).toWord? = some word := by
        simp only [IntType.stored, hunsigned, Bool.false_eq_true, if_false,
          IntType.decode_encode_of_lt hfits, Value.toWord?]
      cases value with
      | uint other =>
          cases h
          exact htoWord
      | sint value =>
          simp only [Value.toWord?] at h
          split at h
          · cases h
          · cases h
            exact htoWord
      | _ => exact h
  | struct schema => cases hcounts
  | _ => exact h

/-- The count of a well laid array is the same in the canonical record, of which only the fields
before it need to be there. -/
theorem elementCount_canonical {spec : FieldSpec} {earlier : List FieldSpec}
    (hplaced : spec.Placed earlier) {record : Record} {count : Option Nat}
    (h : spec.elementCount (ε := ε) record = .ok count) (hsmall : ∀ n ∈ count, n < UInt32.size)
    (later : List FieldSpec) :
    spec.elementCount (ε := δ) (canonicalFields (earlier ++ later) record) = .ok count := by
  cases hcount : spec.count with
  | one =>
      rw [elementCount_eq_none_iff.mpr hcount] at h
      cases h
      exact elementCount_eq_none_iff.mpr hcount
  | fixed n =>
      simp only [elementCount, hcount] at h ⊢
      cases h
      rfl
  | field path divisor =>
      cases count with
      | none =>
          rw [elementCount_eq_none_iff, hcount] at h
          cases h
      | some n =>
          obtain ⟨counter, hcounter, hcounts⟩ := hplaced.counter hcount
          have hstep := Record.resolve?_canonicalFields (counter?_append hcounter later) record
          obtain ⟨value, hresolve, hmeaning⟩ := (elementCount_eq_some_iff hcount).mp h
          rw [hresolve, Option.map_some] at hstep
          refine (elementCount_eq_some_iff hcount).mpr ⟨_, hstep, ?_⟩
          -- An absent counter counts nothing and stays absent; any other one keeps its number.
          rcases hmeaning with ⟨rfl, rfl⟩ | ⟨word, hisWord, rfl⟩
          · exact Or.inl ⟨canonical_absent counter, rfl⟩
          · exact Or.inr ⟨word, toWord?_canonical hcounts hisWord (hsmall _ rfl), rfl⟩

end FieldSpec

end CallStream
