import CallStream.Decimal.Shortest
import CallStream.Text.Number

/-!
# Single-precision floats as text

A 32-bit float by its bits, and its text: the shortest decimal that reads back, written
positionally or with an exponent, as a layout says.
-/

namespace CallStream

/-- What the bits of a 32-bit float stand for. -/
inductive Binary32 where
  | nan
  | infinite (negative : Bool)
  /-- The value `mantissa * 2 ^ exponent` with a sign; zero keeps its sign. -/
  | finite (negative : Bool) (mantissa : Nat) (exponent : Int)
deriving DecidableEq, Repr

namespace Binary32

/-- The mantissa of the numbers that are a power of two. -/
def leastNormal : Nat := 0x800000

/-- Splits the bits into sign, exponent and fraction. The fraction of a normal number has a leading
one in front; the least exponent is that of the numbers without it. -/
def ofBits (bits : UInt32) : Binary32 :=
  let negative : Bool := bits.toNat / 0x80000000 = 1
  let exponent : Nat := bits.toNat / leastNormal % 256
  let fraction : Nat := bits.toNat % leastNormal
  if exponent = 255 then
    if fraction = 0 then .infinite negative else .nan
  else if exponent = 0 then
    .finite negative fraction (-149)
  else
    .finite negative (leastNormal + fraction) ((exponent : Int) - 150)

/-- Equality of numbers: a value that is not a number differs from everything, itself included, and
the two zeros are equal. -/
def equal (a b : UInt32) : Bool :=
  match ofBits a, ofBits b with
  | .nan, _ => false
  | _, .nan => false
  | .finite _ 0 _, .finite _ 0 _ => true
  | _, _ => a == b

end Binary32

/-- How the text of a number is laid out. -/
structure FloatLayout where
  /-- The least power of ten above a number that is written positionally. -/
  leastPositional : Int
  /-- The greatest power of ten above a number that is written positionally. -/
  greatestPositional : Int

namespace FloatLayout

open Text

/-- Numbers from `0.0001` up to, but not with, `10 ^ 16` are written positionally. -/
def standard : FloatLayout := ⟨-3, 16⟩

/-- Digits with a point after the first `point` of them, and at least one digit on either side. -/
def positional (digits : List Char) (point : Int) : String :=
  let whole := if point ≤ 0 then ['0'] else
    digits.take point.toNat ++ List.replicate (point.toNat - digits.length) '0'
  let fraction := List.replicate (-point).toNat '0' ++ digits.drop point.toNat
  String.ofList (whole ++ '.' :: if fraction.isEmpty then ['0'] else fraction)

/-- Digits with a point after the first one, if more follow, and the power of ten of that digit. -/
def scientific (digits : List Char) (power : Int) : String :=
  let fraction := if digits.length ≤ 1 then [] else '.' :: digits.drop 1
  String.ofList (digits.take 1 ++ fraction) ++ "e" ++ signedDecimal power

/-- The text of a positive number. -/
def magnitude (layout : FloatLayout) (mantissa : Nat) (exponent : Int) : String :=
  let narrow : Bool := mantissa = Binary32.leastNormal
  let decimal := (Decimal.RoundingInterval.ofBinary mantissa exponent narrow).shortest.trim
  let digits := Nat.toDigits 10 decimal.digits
  let point := digits.length + decimal.exponent
  if layout.leastPositional ≤ point ∧ point ≤ layout.greatestPositional then
    positional digits point
  else
    scientific digits (point - 1)

/-- The text of a float given by its bits. -/
def render (layout : FloatLayout) (bits : UInt32) : String :=
  let signed (negative : Bool) (text : String) := if negative then "-" ++ text else text
  match Binary32.ofBits bits with
  | .nan => "NaN"
  | .infinite negative => signed negative "inf"
  | .finite negative 0 _ => signed negative "0.0"
  | .finite negative mantissa exponent => signed negative (layout.magnitude mantissa exponent)

end FloatLayout

end CallStream
