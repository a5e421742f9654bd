import CallStream.Decimal.Binary32
import CallStream.Text.Quoted
import CallStream.Value.Basic

/-!
# Values as one line of text

The text of a value in logs: words, masks and handles in hexadecimal, signed integers and enum
values in decimal, texts in quotes, arrays in brackets and structures in braces.
-/

namespace CallStream

open Text

namespace Value

mutual

/-- The text of a value. -/
def display : Value → String
  | .uint value => markedHex value.toNat
  | .sint value => signedDecimal value.toInt
  | .float bits => FloatLayout.standard.render bits
  | .enum value => decimal value.toNat
  | .flags mask => markedHex mask.toNat
  | .handle word => markedHex word.toNat
  | .text content => quoted content
  | .struct fields => "\x7b" ++ ", ".intercalate (displayFields fields) ++ "\x7d"
  | .array elements => "[" ++ ", ".intercalate (displayElements elements) ++ "]"
  | .absent => "null"
termination_by structural value => value

/-- The texts of the elements of an array. -/
def displayElements : List Value → List String
  | [] => []
  | value :: rest => display value :: displayElements rest
termination_by structural values => values

/-- The texts of the members of a structure, each behind its name. -/
def displayFields : List (String × Value) → List String
  | [] => []
  | (name, value) :: rest => (name ++ ": " ++ display value) :: displayFields rest
termination_by structural fields => fields

end

mutual

/-- Equality of values in which floats are compared as numbers. -/
def equal : Value → Value → Bool
  | .uint a, .uint b => a == b
  | .sint a, .sint b => a == b
  | .float a, .float b => Binary32.equal a b
  | .enum a, .enum b => a == b
  | .flags a, .flags b => a == b
  | .handle a, .handle b => a == b
  | .text a, .text b => a == b
  | .struct a, .struct b => equalFields a b
  | .array a, .array b => equalElements a b
  | .absent, .absent => true
  | _, _ => false
termination_by structural value => value

/-- `equal` on arrays, element by element. -/
def equalElements : List Value → List Value → Bool
  | [], [] => true
  | a :: as, b :: bs => equal a b && equalElements as bs
  | _, _ => false
termination_by structural values => values

/-- `equal` on structures, member by member, names included. -/
def equalFields : List (String × Value) → List (String × Value) → Bool
  | [], [] => true
  | (m, a) :: as, (n, b) :: bs => m == n && equal a b && equalFields as bs
  | _, _ => false
termination_by structural fields => fields

end

end Value

/-- The text of a record. -/
def Record.display (record : Record) : String := (Value.struct record).display

end CallStream
