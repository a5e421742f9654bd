import CallStream.Proofs.Codec.Typing
import CallStream.Proofs.Within

/-!
# What is read is well typed

A reader builds its values by the layout, so what it gives is well typed for the layout, whatever
the bytes and whatever a mapper makes of the handles. Nothing is asked of the counts.

## Main results

* `admits_decodeField`: the value of a field is well typed for the field.
* `allAdmit_decodeFields`: the fields that are read give a well typed record.
-/

namespace CallStream

/-! ### Integers -/

namespace IntType

/-- A word that is read lies in the range of its width. -/
theorem toNat_decode_lt {type : IntType} {bytes : Bytes} (h : bytes.length = type.width.bytes) :
    (type.decode bytes).toNat < type.width.capacity := by
  rw [← type.encode_decode bytes h, toNat_decode_encode]
  exact Nat.mod_lt _ type.width.capacity_pos

/-- A number that is read with its sign lies in the range of its width. -/
theorem signExtend_range (width : IntWidth) (word : UInt64) :
    -(width.capacity : Int) ≤ 2 * (signExtend width word).toInt ∧
      2 * (signExtend width word).toInt < width.capacity := by
  have hle := Int.le_bmod (x := word.toNat) (m := width.capacity) width.capacity_pos
  have hlt := Int.bmod_lt (x := word.toNat) (m := width.capacity) width.capacity_pos
  have hmod : width.capacity % 2 = 0 := by cases width <;> decide
  rw [toInt_signExtend]
  omega

end IntType

namespace Cursor

variable {ε : Type}

/-- Reading bytes gives as many as asked for. -/
theorem yields_readBytes (n : Nat) :
    Yields (readBytes n : Read ε Bytes) fun bytes => bytes.length = n := by
  intro before after bytes hreadBytes
  simp only [readBytes] at hreadBytes
  split at hreadBytes
  · next hlength =>
      cases hreadBytes
      exact hlength
  · cases hreadBytes

/-- Reading a number gives one that its type can hold. -/
theorem yields_readUInt (type : IntType) :
    Yields (readUInt type : Read ε UInt64) fun word => word.toNat < type.width.capacity :=
  (yields_readBytes type.width.bytes).map fun _ => IntType.toNat_decode_lt

/-- So does reading one with a sign. -/
theorem yields_readSInt (type : IntType) :
    Yields (readSInt type : Read ε Int64) fun value =>
      -(type.width.capacity : Int) ≤ 2 * value.toInt ∧ 2 * value.toInt < type.width.capacity :=
  (yields_readUInt type).map fun word _ => IntType.signExtend_range type.width word

end Cursor

open Decoding Cursor

variable {σ ε : Type} {mapper : HandleMapper σ ε} {mapping : HandleMapping}

/-- What is read beside a mapper's state is what is read without. -/
theorem yields_onCursor {α : Type} {read : Read ε α} {property : α → Prop}
    (h : Yields read property) :
    Yields (onCursor read : Decoding σ ε α) property := by
  rintro ⟨cursor, state⟩ ⟨after, last⟩ value honCursor
  exact h (onCursor_eq_ok_iff.mp honCursor).1

/-! ### Fields -/

/-- An array of well typed elements, or one such element, is well typed content of a field. -/
theorem admits_decodeContent (spec : FieldSpec)
    (helement : Yields (decodeElement mapper mapping spec.name spec.type) fun value =>
      spec.type.admits value = true) (scope : Record) :
    Yields (decodeContent mapper mapping spec scope) fun value => spec.admits value = true := by
  obtain ⟨name, type, isOptional, count⟩ := spec
  unfold decodeContent
  cases helementCount : FieldSpec.elementCount (ε := ε) ⟨name, type, isOptional, count⟩ scope with
  | error cause => exact yields_throw cause _
  | ok number =>
      cases number with
      | none =>
          obtain rfl : count = .one := FieldSpec.elementCount_eq_none_iff.mp helementCount
          intro before after value hok
          cases value with
          | absent => cases type <;> cases helement hok
          | _ => exact helement hok
      | some number =>
          -- What has a count is an array, and its elements are typed one by one.
          have harray : count ≠ .one := fun hone => by
            rw [FieldSpec.elementCount_eq_none_iff.mpr hone] at helementCount
            cases helementCount
          refine (yields_true _).bind fun _ _ =>
            (helement.readMany number).map fun elements htyped => ?_
          cases count with
          | one => exact absurd rfl harray
          | fixed | field => exact List.all_eq_true.mpr htyped

mutual

/-- An element that is read is well typed. -/
theorem admits_decodeElement (field : String) : (type : FieldType) →
    Yields (decodeElement mapper mapping field type) fun value => type.admits value = true
  | .int type => by
      unfold decodeElement
      split
      · next hsigned =>
          refine (yields_onCursor (yields_readSInt type)).map fun value hrange => ?_
          simp only [FieldType.admits, hsigned, hrange.1, hrange.2, decide_true, Bool.and_self]
      · next hunsigned =>
          refine (yields_onCursor (yields_readUInt type)).map fun word hrange => ?_
          simp only [FieldType.admits, hunsigned, hrange, decide_true, Bool.not_false,
            Bool.and_self]
  | .float32 => (yields_true _).map fun _ _ => rfl
  | .enum _ => (yields_true _).map fun _ _ => rfl
  | .flags _ => (yields_true _).map fun _ _ => rfl
  | .handle _ => (yields_true _).bind fun _ _ => (yields_true _).map fun _ _ => rfl
  | .text _ => (yields_true _).map fun _ _ => rfl
  | .struct schema => (admits_decodeStruct schema).map fun _ htyped => htyped
termination_by structural type => type

/-- A structure that is read is well typed. -/
theorem admits_decodeStruct : (schema : StructSchema) →
    Yields (decodeStruct mapper mapping schema) fun record => schema.admits record = true
  | ⟨_, _, fields⟩ => (yields_true _).bind fun _ _ => by
      intro before after record hdecodeFields
      obtain ⟨back, rfl, htyped⟩ := allAdmit_decodeFields fields [] hdecodeFields
      exact htyped
termination_by structural schema => schema

/-- The value of a field is well typed for the field. -/
theorem admits_decodeField : (spec : FieldSpec) → (scope : Record) →
    Yields (decodeField mapper mapping spec scope) fun value => spec.admits value = true
  | ⟨name, type, isOptional, count⟩, scope => by
      have hcontent := admits_decodeContent ⟨name, type, isOptional, count⟩
        (admits_decodeElement name type) scope
      cases isOptional with
      | false =>
          rw [decodeField_of_required rfl]
          exact hcontent
      | true =>
          rw [decodeField_of_optional rfl]
          refine (yields_true _).bind fun present _ => ?_
          cases present with
          | true => exact hcontent
          | false => exact yields_pure rfl
termination_by structural spec => spec

/-- The fields that are read give a well typed record. -/
theorem allAdmit_decodeFields : (fields : List FieldSpec) → (scope : Record) →
    Yields (decodeFields mapper mapping fields scope) fun record =>
      ∃ back, record = scope ++ back ∧ FieldSpec.allAdmit fields back = true
  | [], scope => yields_pure ⟨[], (List.append_nil scope).symm, rfl⟩
  | spec :: rest, scope => (admits_decodeField spec scope).bind fun value htyped => by
      intro before after record hdecodeFields
      obtain ⟨back, rfl, hallAdmit⟩ := allAdmit_decodeFields rest _ hdecodeFields
      refine ⟨(spec.name, value) :: back, List.append_assoc .., ?_⟩
      simp only [FieldSpec.allAdmit, beq_self_eq_true, htyped, hallAdmit, Bool.and_self]
termination_by structural fields => fields

end

end CallStream
