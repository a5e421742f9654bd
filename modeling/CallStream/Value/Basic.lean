import CallStream.Bytes

/-!
# Decoded values

The values of fields, and records of named values: the parameters of a call or the members of a
structure, in wire order. Names may repeat in a record, and a look-up takes the first.

## Main results

- `resolve?_singleton`: a path of one name is a plain look-up.
-/

namespace CallStream

/-- The value of a field. -/
inductive Value where
  | uint (value : UInt64)
  | sint (value : Int64)
  /-- A 32-bit float, by its bits. -/
  | float (bits : UInt32)
  | enum (value : UInt32)
  | flags (mask : UInt32)
  | handle (word : UInt64)
  | text (content : String)
  | struct (fields : List (String × Value))
  | array (elements : List Value)
  /-- An optional field whose sentinel was zero. -/
  | absent
deriving Inhabited, Repr

/-- Named values in wire order. -/
abbrev Record := List (String × Value)

namespace Value

/-- A value as a count, a size or an offset. -/
def toWord? : Value → Option UInt64
  | uint value => some value
  | handle word => some word
  | sint value => if value < 0 then none else some value.toUInt64
  | enum value => some value.toUInt64
  | flags mask => some mask.toUInt64
  | _ => none

/-- The members of a structure. -/
def record? : Value → Option Record
  | struct fields => some fields
  | _ => none

/-- The elements of an array. -/
def elements? : Value → Option (List Value)
  | array elements => some elements
  | _ => none

/-- Whether the value is that of an absent optional field. -/
def isAbsent : Value → Bool
  | absent => true
  | _ => false

end Value

namespace Record

/-- The value of a name. -/
def get? (record : Record) (name : String) : Option Value := List.lookup name record

/-- Follows a path of names through nested structures. -/
def resolve? (record : Record) : List String → Option Value
  | [] => none
  | [name] => get? record name
  | name :: path =>
    match get? record name with
    | some (.struct fields) => resolve? fields path
    | _ => none

/-- A path of one name leads to what is found under it. -/
theorem resolve?_singleton (record : Record) (name : String) :
    resolve? record [name] = get? record name := rfl

/-- The path that a text spells with dots between its names. -/
def pathOfText (text : String) : List String := text.splitOn "."

/-- The text of a path, with dots between its names. -/
def pathText (path : List String) : String := ".".intercalate path

end Record

end CallStream
