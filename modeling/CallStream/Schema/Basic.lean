import CallStream.Handle
import CallStream.Names.Table
import CallStream.Wire.Text

/-!
# Layouts of fields and structures

A schema says what a field holds, whether it may be absent and how many elements it carries; a
structure is a list of fields behind an optional tag. Schemas nest, and everything that reads,
writes or prints parameters recurses on them. They are trees: no structure contains itself.
-/

namespace CallStream

/-- How many elements a field carries. -/
inductive Count where
  /-- One value, not an array. -/
  | one
  /-- As many as the integer at `path`, decoded before the field, says: that integer divided by
  `divisor`, rounded up. -/
  | field (path : List String) (divisor : Nat)
  /-- Always `count`. -/
  | fixed (count : Nat)
deriving DecidableEq, Repr

mutual

/-- What one element of a field holds. -/
inductive FieldType where
  | int (type : IntType)
  | float32
  | enum (table : EnumTable)
  | flags (table : FlagTable)
  | handle (type : HandleType)
  | text (encoding : TextEncoding)
  | struct (schema : StructSchema)

/-- One field of a structure or of a call. An optional field follows a sentinel. -/
structure FieldSpec where
  name : String
  type : FieldType
  isOptional : Bool
  count : Count

/-- The layout of a structure. One with a tag is extensible: the tag and the length of its
extensions come before the fields. -/
structure StructSchema where
  name : String
  tag : Option UInt32
  fields : List FieldSpec

end

namespace FieldSpec

/-! ### Building fields -/

/-- A field that holds exactly one value. -/
def single (name : String) (type : FieldType) : FieldSpec := ⟨name, type, false, .one⟩

/-- An integer of the given type. -/
def int (name : String) (type : IntType) : FieldSpec := single name (.int type)

/-- An unsigned word, the type of nearly all numbers of the API. -/
def u32 (name : String) : FieldSpec := int name .u32

/-- An unsigned double word: an offset or a size in device memory, or a pointer. -/
def u64 (name : String) : FieldSpec := int name .u64

/-- A signed word. -/
def i32 (name : String) : FieldSpec := int name .i32

/-- A truth value, which travels as a 32-bit word. -/
def bool32 (name : String) : FieldSpec := u32 name

/-- A byte size. -/
def size (name : String) : FieldSpec := int name .size

/-- A float, whose bits travel as a word. -/
def f32 (name : String) : FieldSpec := single name .float32

/-- A value of an enum, named by its table. -/
def enum (name : String) (table : EnumTable) : FieldSpec := single name (.enum table)

/-- A mask of flag bits, named by their table. -/
def flags (name : String) (table : FlagTable) : FieldSpec := single name (.flags table)

/-- A handle of an object of the given type. -/
def handle (name : String) (type : HandleType) : FieldSpec := single name (.handle type)

/-- A text, behind the number of its bytes. -/
def text (name : String) : FieldSpec := single name (.text .lengthPrefixed)

/-- A structure with the given layout. -/
def struct (name : String) (schema : StructSchema) : FieldSpec := single name (.struct schema)

/-- The same field behind a sentinel. -/
def optional (spec : FieldSpec) : FieldSpec := { spec with isOptional := true }

/-- An array counted by an integer further inside the fields before it. -/
def countedAt (spec : FieldSpec) (path : List String) : FieldSpec :=
  { spec with count := .field path 1 }

/-- An array counted by a field before it. -/
def countedBy (spec : FieldSpec) (name : String) : FieldSpec := spec.countedAt [name]

/-- An array with one element for every `divisor` units, begun or whole, of a field before it. -/
def countedByUnits (spec : FieldSpec) (name : String) (divisor : Nat) : FieldSpec :=
  { spec with count := .field [name] divisor }

/-- An array of always `count` elements. -/
def times (spec : FieldSpec) (count : Nat) : FieldSpec := { spec with count := .fixed count }

/-! ### Asking about fields -/

/-- Whether the field is an array. -/
def isArray (spec : FieldSpec) : Bool := spec.count != .one

/-- The object type of a field of handles. -/
def handleType? (spec : FieldSpec) : Option HandleType :=
  match spec.type with
  | .handle type => some type
  | _ => none

end FieldSpec

end CallStream
