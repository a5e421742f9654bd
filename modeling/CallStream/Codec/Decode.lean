import CallStream.Codec.Count

/-!
# Reading parameters

Fields are read as their schema says: one set of functions serves every call and every structure.
Handles go through a mapper while they are read, and its state is threaded through the reading.

A read that fails leaves the cursor and the mapper's state where the failure found them.
-/

namespace CallStream

/-- A read of parameters, over the cursor and the state of a handle mapper. -/
abbrev Decoding (σ ε α : Type) := EStateM (WireError ε) (Cursor × σ) α

namespace Decoding

variable {σ ε α : Type}

/-- A read from the payload that does not concern the mapper. -/
def onCursor (read : Read ε α) : Decoding σ ε α := fun (cursor, state) =>
  match read cursor with
  | .ok value cursor => .ok value (cursor, state)
  | .error failure cursor => .error failure (cursor, state)

/-- A step of the mapper on the handle just read for `field`. -/
def onMapper (field : String) (handle : UInt64) (step : EStateM ε σ UInt64) :
    Decoding σ ε UInt64 := fun (cursor, state) =>
  match step state with
  | .ok value state => .ok value (cursor, state)
  | .error cause state => .error (.handleMapping field handle cause) (cursor, state)

end Decoding

/-- Whether one look at the type says that an element takes at least a byte: a structure does if it
has a tag or any field. -/
def FieldType.hasSize : FieldType → Bool
  | .struct schema => schema.tag.isSome || !schema.fields.isEmpty
  | _ => true

namespace Cursor

variable {ε : Type}

/-- Refuses a count that the bytes ahead cannot satisfy, before any element is read. -/
def requireRoom (type : FieldType) (count : Nat) : Read ε Unit := fun c =>
  if c.remaining < count && type.hasSize then
    .error (.unexpectedEnd c.position count c.remaining) c
  else
    .ok () c

/-- Reads the tag of a structure and the length of its extensions, of which none are supported. A
wrong tag is found before anything else is read. -/
def readStructHeader (schema : String) : Option UInt32 → Read ε Unit
  | none => pure ()
  | some expected => do
    let found ← readU32
    if found != expected then
      throw (.wrongStructure schema expected found)
    let length ← readUInt .length32
    if length != 0 then
      let extension ← fun c =>
        match readU32 (ε := ε) c with
        | .ok tag c => .ok (some tag) c
        | .error _ c => .ok none c
      throw (.extensionChain schema length.toUInt32 extension)

end Cursor

variable {σ ε : Type}

open Decoding Cursor

mutual

/-- Reads one element of a field. -/
def decodeElement (mapper : HandleMapper σ ε) (mapping : HandleMapping) (field : String) :
    FieldType → Decoding σ ε Value
  | .int type =>
    if type.signed then do
      let value ← onCursor (readSInt type)
      pure (.sint value)
    else do
      let value ← onCursor (readUInt type)
      pure (.uint value)
  | .float32 => do
    let bits ← onCursor readU32
    pure (.float bits)
  | .enum _ => do
    let value ← onCursor readU32
    pure (.enum value)
  | .flags _ => do
    let mask ← onCursor readU32
    pure (.flags mask)
  | .handle type => do
    let handle ← onCursor readU64
    let value ← onMapper field handle (mapper type mapping handle)
    pure (.handle value)
  | .text encoding => do
    let content ← onCursor (readText encoding field)
    pure (.text content)
  | .struct schema => do
    let fields ← decodeStruct mapper mapping schema
    pure (.struct fields)
termination_by structural type => type

/-- Reads a structure: its header, then its fields. -/
def decodeStruct (mapper : HandleMapper σ ε) (mapping : HandleMapping) :
    StructSchema → Decoding σ ε Record
  | ⟨name, tag, fields⟩ => do
    onCursor (readStructHeader name tag)
    decodeFields mapper mapping fields []
termination_by structural schema => schema

/-- Reads one field. `scope` holds the values decoded before it at the same level. -/
def decodeField (mapper : HandleMapper σ ε) (mapping : HandleMapping) :
    FieldSpec → Record → Decoding σ ε Value
  | ⟨name, type, isOptional, count⟩, scope => do
    let present ← if isOptional then onCursor readSentinel else pure true
    if present then
      match FieldSpec.elementCount ⟨name, type, isOptional, count⟩ scope with
      | .error failure => throw failure
      | .ok none => decodeElement mapper mapping name type
      | .ok (some count) =>
        onCursor (requireRoom type count)
        let elements ← readMany (decodeElement mapper mapping name type) count
        pure (.array elements)
    else
      pure .absent
termination_by structural spec => spec

/-- Reads fields in order and adds them to the values decoded so far. -/
def decodeFields (mapper : HandleMapper σ ε) (mapping : HandleMapping) :
    List FieldSpec → Record → Decoding σ ε Record
  | [], decoded => pure decoded
  | spec :: rest, decoded => do
    let value ← decodeField mapper mapping spec decoded
    decodeFields mapper mapping rest (decoded ++ [(spec.name, value)])
termination_by structural fields => fields

end

end CallStream
