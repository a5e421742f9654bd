import CallStream.Codec.Count

/-!
# Writing parameters

Values are written as their schema says. Handles are written as they are: whoever wants others puts
them into the record first. Writing stops at the first value that does not fit its field, and what
came before it is kept.
-/

namespace CallStream

/-- What a write produced: its bytes, and the failure that ended it, if one did. -/
structure Emission where
  bytes : Bytes
  failure : Option (WireError Empty) := none

namespace Emission

/-- A write that cannot fail. -/
def done (bytes : Bytes) : Emission := { bytes }

/-- A write that fails at once. -/
def failed (failure : WireError Empty) : Emission := { bytes := [], failure := some failure }

/-- One write after another; the second takes place only if the first succeeds. -/
def andThen (first second : Emission) : Emission :=
  match first.failure with
  | some failure => { bytes := first.bytes, failure := some failure }
  | none => { bytes := first.bytes ++ second.bytes, failure := second.failure }

/-- Writes in order, up to the first failure. -/
def sequence : List Emission → Emission
  | [] => done []
  | first :: rest => first.andThen (sequence rest)

end Emission

open Emission

/-- The header of a structure: its tag, and no extensions. -/
def encodeStructHeader : Option UInt32 → Bytes
  | none => []
  | some tag => IntType.u32.encode tag.toUInt64 ++ IntType.length32.encode 0

mutual

/-- Writes one element of a field. An integer is written whatever its sign, by its low bytes. -/
def encodeElement (field : String) : FieldType → Value → Emission
  | .int type, .uint value => done (type.encode value)
  | .int type, .sint value => done (type.encode value.toUInt64)
  | .float32, .float bits => done (IntType.u32.encode bits.toUInt64)
  | .enum _, .enum value => done (IntType.u32.encode value.toUInt64)
  | .flags _, .flags mask => done (IntType.u32.encode mask.toUInt64)
  | .handle _, .handle word => done (IntType.u64.encode word)
  | .text encoding, .text content => done (encoding.encode content)
  | .struct schema, .struct fields => encodeStruct schema fields
  | _, _ => failed (.valueMismatch field)
termination_by structural type => type

/-- Writes a structure: its header, then its fields. -/
def encodeStruct : StructSchema → Record → Emission
  | ⟨_, tag, fields⟩, record => (done (encodeStructHeader tag)).andThen (encodeFields fields record)
termination_by structural schema => schema

/-- Writes one field. `scope` is the record that the value belongs to; the length of an array has to
agree with its count there. -/
def encodeField : FieldSpec → Value → Record → Emission
  | ⟨name, type, isOptional, count⟩, value, scope =>
    match isOptional, value with
    | true, .absent => done (Cursor.encodeSentinel false)
    | false, .absent => failed (.valueMismatch name)
    | _, value =>
      let mark := if isOptional then Cursor.encodeSentinel true else []
      let content :=
        match FieldSpec.elementCount ⟨name, type, isOptional, count⟩ scope with
        | .error cause => failed cause
        | .ok none => encodeElement name type value
        | .ok (some expected) =>
          match value with
          | .array elements =>
            if elements.length = expected then
              Emission.sequence (elements.map (encodeElement name type))
            else
              failed (.countMismatch name expected elements.length)
          | _ => failed (.valueMismatch name)
      (done mark).andThen content
termination_by structural spec => spec

/-- Writes the fields in order, each with its value in the record. -/
def encodeFields : List FieldSpec → Record → Emission
  | [], _ => done []
  | spec :: rest, record =>
    match Record.get? record spec.name with
    | none => failed (.valueMismatch spec.name)
    | some value => (encodeField spec value record).andThen (encodeFields rest record)
termination_by structural fields => fields

end

end CallStream
