import CallStream.Decimal.Binary32
import CallStream.Names.Table
import CallStream.Text.Number

/-!
# Values in listings

How a listing spells values: small numbers in decimal and others in both bases, enum values and
masks with their names, texts as they are.
-/

namespace CallStream.Listing

open Text

/-- Texts with commas between them, in brackets. -/
def bracketed (texts : List String) : String := "[" ++ ", ".intercalate texts ++ "]"

/-- An integer: in decimal below ten, and else in hexadecimal with its decimal form behind. -/
def intText (value : Int) : String :=
  if value < 10 then signedDecimal value
  else s!"{signedMarkedHex value} ({signedDecimal value})"

/-- A float: as few digits as tell it from the others. -/
def floatText (bits : UInt32) : String := FloatLayout.standard.render bits

/-- An enum value behind its name, if it has one. -/
def enumText (table : EnumTable) (value : UInt32) : String :=
  (table.label? value).getD "" ++ s!" ({decimal value.toNat})"

/-- The parts of a mask: first the bits without a name, then the names. The mask of all bits is not
taken apart. -/
def flagParts (table : FlagTable) (mask : UInt32) : List String :=
  if mask = 0xFFFFFFFF then ["(all flags)"]
  else
    let (names, rest) := table.split mask
    (if rest = 0 then [] else [markedHex rest.toNat]) ++ names

/-- A mask behind its parts. -/
def flagsText (table : FlagTable) (mask : UInt32) : String :=
  " | ".intercalate (flagParts table mask) ++ s!" ({markedHex mask.toNat})"

/-- A text in quotes, as it is. -/
def textText (content : String) : String := "\"" ++ content ++ "\""

end CallStream.Listing
