/-!
# Name tables

The names of enum values and of flag bits. A table is an association list: where a value or a name
occurs twice, the first entry counts, and flags are listed in the order of their table.
-/

namespace CallStream

/-- The names of an enum's values. -/
structure EnumTable where
  name : String
  entries : List (UInt32 × String)
deriving DecidableEq, Repr

/-- The names of an enum's single-bit flags, in the order in which they are listed. -/
structure FlagTable where
  name : String
  entries : List (UInt32 × String)
deriving DecidableEq, Repr

namespace EnumTable

/-- The name of a value. -/
def label? (table : EnumTable) (value : UInt32) : Option String :=
  (table.entries.find? (·.1 == value)).map (·.2)

/-- The value with a given name. -/
def valueOf? (table : EnumTable) (label : String) : Option UInt32 :=
  (table.entries.find? (·.2 == label)).map (·.1)

end EnumTable

namespace FlagTable

/-- Takes bits off a mask, entry by entry: an entry that shares a bit with what is left is named,
and its bits are toggled in the rest. -/
def splitWith : List (UInt32 × String) → UInt32 → List String × UInt32
  | [], rest => ([], rest)
  | (bit, name) :: entries, rest =>
    if bit &&& rest != 0 then
      let (names, rest) := splitWith entries (rest ^^^ bit)
      (name :: names, rest)
    else
      splitWith entries rest

/-- The names of a mask's bits, in table order, and the bits that no entry accounts for. -/
def split (table : FlagTable) (mask : UInt32) : List String × UInt32 :=
  splitWith table.entries mask

end FlagTable

end CallStream
