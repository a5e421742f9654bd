import CallStream.Codec.Count
import CallStream.Listing.Basic
import CallStream.Listing.Label
import CallStream.Names.Enums

/-!
# Listing fields

Fields are listed as their schema says, in the order in which they lie in the payload, and the
values read are returned. Handles are plain words here.
-/

namespace CallStream.Listing

/-! ### Single values and arrays -/

/-- Lists an integer. -/
def int (name : String) (type : IntType) (level : Nat) : Listing Value :=
  if type.signed then do
    let value ← readValue (Cursor.readSInt type)
    writeEntry level name (intText value.toInt)
    pure (.sint value)
  else do
    let value ← readValue (Cursor.readUInt type)
    writeEntry level name (intText value.toNat)
    pure (.uint value)

/-- Lists an array of values that are read and spelled one like the other. -/
def array {α : Type} (read : Read Empty α) (spell : α → String) (wrap : α → Value) (name : String)
    (count level : Nat) : Listing Value := do
  let values ← readValue (readMany read count)
  writeEntry level name (bracketed (values.map spell))
  pure (.array (values.map wrap))

/-- Lists an array of integers, all in hexadecimal. -/
def ints (name : String) (type : IntType) (count level : Nat) : Listing Value :=
  if type.signed then
    array (Cursor.readSInt type) (fun value => Text.signedMarkedHex value.toInt) .sint name count
      level
  else
    array (Cursor.readUInt type) (fun value => Text.markedHex value.toNat) .uint name count level

/-- Lists a value that is read and spelled in one way. -/
def single {α : Type} (read : Read Empty α) (spell : α → String) (wrap : α → Value) (name : String)
    (level : Nat) : Listing Value := do
  let value ← readValue read
  writeEntry level name (spell value)
  pure (wrap value)

/-- Lists a value, or an array of them if there is a count. -/
def values {α : Type} (read : Read Empty α) (spell : α → String) (wrap : α → Value) (name : String)
    (count : Option Nat) (level : Nat) : Listing Value :=
  match count with
  | none => single read spell wrap name level
  | some count => array read spell wrap name count level

/-- Lists floats. -/
def floats (name : String) (count : Option Nat) (level : Nat) : Listing Value :=
  values Cursor.readU32 floatText .float name count level

/-- Lists enum values. -/
def enums (name : String) (table : EnumTable) (count : Option Nat) (level : Nat) : Listing Value :=
  values Cursor.readU32 (enumText table) .enum name count level

/-- Lists masks. -/
def masks (name : String) (table : FlagTable) (count : Option Nat) (level : Nat) : Listing Value :=
  values Cursor.readU32 (flagsText table) .flags name count level

/-- Lists texts. -/
def texts (name : String) (encoding : TextEncoding) (count : Option Nat) (level : Nat) :
    Listing Value :=
  values (Cursor.readText encoding name) textText .text name count level

/-! ### Structures -/

/-- Reads the sentinel of an optional field, lists an absent one and says whether it is absent. -/
def absence (name : String) (level : Nat) : Listing Bool := do
  let present ← readValue Cursor.readSentinel
  if !present then
    writeEntry level name "(null)"
  pure (!present)

/-- Lists the tag of a structure and the length of its extensions, of which none are supported. -/
def header (tag : Option UInt32) (level : Nat) : Listing Unit :=
  match tag with
  | none => pure ()
  | some expected => do
    let names := EnumTable.structureType
    let found ← readValue Cursor.readU32
    writeEntry level "sType" (enumText names found)
    if found ≠ expected then
      throw (.wrongStructure expected (names.label? expected) found (names.label? found))
    let length ← readValue (Cursor.readUInt .length32)
    writeEntry level "pNext_size" (intText length.toNat)
    if length ≠ 0 then
      let extension ← readValue Cursor.readU32
      writeEntry (level + 1) "ext type" (enumText names extension)
      throw .extensions

/-- Repeats a step, numbering its turns from `index` on, and collects the results. -/
def numbered {α : Type} (step : Nat → Listing α) (index : Nat) : (count : Nat) → Listing (List α)
  | 0 => pure []
  | count + 1 => do
    let first ← step index
    let others ← numbered step (index + 1) count
    pure (first :: others)

mutual

/-- Lists the elements of a field, behind its sentinel. -/
def elements (name : String) (count : Option Nat) (level : Nat) : FieldType → Listing Value
  | .int type =>
    match count with
    | none => int name type level
    | some count => ints name type count level
  | .handle _ =>
    match count with
    | none => int name .u64 level
    | some count => ints name .u64 count level
  | .float32 => floats name count level
  | .enum table => enums name table count level
  | .flags table => masks name table count level
  | .text encoding => texts name encoding count level
  | .struct schema =>
    match count with
    | none => do
      writeLine level (name ++ ":")
      let fields ← struct (level + 1) schema
      pure (.struct fields)
    | some count => do
      let structs ← numbered
        (fun index => do
          writeLine level s!"{name} #{Text.decimal index}:"
          struct (level + 1) schema)
        0 count
      pure (.array (structs.map .struct))
termination_by structural type => type

/-- Lists the inside of a structure. -/
def struct (level : Nat) : StructSchema → Listing Record
  | ⟨_, tag, members⟩ => do
    header tag level
    fields level members []
termination_by structural schema => schema

/-- Lists a field. Its count is looked up in `scope`, the values listed before it, and this is done
before the sentinel is read. -/
def field (level : Nat) : FieldSpec → Record → Listing Value
  | ⟨name, type, isOptional, count⟩, scope =>
    match FieldSpec.elementCount ⟨name, type, isOptional, count⟩ scope with
    | .error cause => throw (.wire cause)
    | .ok count => do
      let absent ← if isOptional then absence name level else pure false
      if absent then pure .absent else elements name count level type
termination_by structural spec => spec

/-- Lists fields in order and adds them to the values listed so far. -/
def fields (level : Nat) : List FieldSpec → Record → Listing Record
  | [], listed => pure listed
  | spec :: rest, listed => do
    let value ← field level spec listed
    fields level rest (listed ++ [(spec.name, value)])
termination_by structural specs => specs

end

/-- Lists a structure, or as many as `count` says, behind a sentinel if it is optional. -/
def structs (name : String) (schema : StructSchema) (isOptional : Bool) (count : Option Nat)
    (level : Nat) : Listing Value := do
  let absent ← if isOptional then absence name level else pure false
  if absent then pure .absent else elements name count level (.struct schema)

end CallStream.Listing
