/-!
# The shortest decimal that reads back

A binary floating-point value stands for every real number that rounds to it. Of the decimals among
these, the shortest has the fewest digits, and of several with as few the one nearest to the value.

All arithmetic is exact: the value, the ends of its interval and the decimals tried are natural
numbers in one common unit.
-/

namespace CallStream.Decimal

/-- A decimal number `digits * 10 ^ exponent`. -/
structure Scientific where
  digits : Nat
  exponent : Int
deriving DecidableEq, Repr

/-- A value between the ends of the interval of reals that round to it, in units of
`10 ^ exponent`. -/
structure RoundingInterval where
  low : Nat
  value : Nat
  high : Nat
  exponent : Int
  /-- Whether the ends themselves round to the value. -/
  closed : Bool

namespace RoundingInterval

/-- The interval of `mantissa * 2 ^ exponent`. It ends half way to the neighbours; the lower one is
twice as near when `narrow` says that the exponent changes there. An end belongs to the interval if
the mantissa is even, since a tie goes to the even neighbour. -/
def ofBinary (mantissa : Nat) (exponent : Int) (narrow : Bool) : RoundingInterval :=
  let quarter := exponent - 2
  let unit := if quarter < 0 then Nat.pow 5 (-quarter).toNat else Nat.pow 2 quarter.toNat
  { low := (4 * mantissa - if narrow then 1 else 2) * unit
    value := 4 * mantissa * unit
    high := (4 * mantissa + 2) * unit
    exponent := min quarter 0
    closed := mantissa % 2 = 0 }

/-- Whether a number rounds to the value. -/
def contains (i : RoundingInterval) (n : Nat) : Bool :=
  if i.closed then i.low ≤ n && n ≤ i.high else i.low < n && n < i.high

/-- The decimal next to the value among those that are multiples of `step`, if one rounds to the
value. Of two at equal distance it is the greater. -/
def nearest? (i : RoundingInterval) (step : Nat) : Option Nat :=
  let below := i.value / step
  let above := below + 1
  match i.contains (below * step), i.contains (above * step) with
  | true, true => some (if i.value - below * step < above * step - i.value then below else above)
  | true, false => some below
  | false, true => some above
  | false, false => none

/-- The shortest decimal in the interval: grids of ever more digits are tried until one has a point
in it. The finest grid holds the value itself. -/
def shortest (i : RoundingInterval) : Scientific :=
  let places := (Nat.toDigits 10 i.value).length
  let attempt (places : Nat) : Option Scientific :=
    (i.nearest? (Nat.pow 10 places)).map fun digits => ⟨digits, i.exponent + places⟩
  ((List.range places).reverse.findSome? attempt).getD ⟨i.value, i.exponent⟩

end RoundingInterval

/-- The same number without zeros at the end of its digits. -/
def Scientific.trim (s : Scientific) : Scientific :=
  let zeros := ((Nat.toDigits 10 s.digits).reverse.takeWhile (· == '0')).length
  ⟨s.digits / Nat.pow 10 zeros, s.exponent + zeros⟩

end CallStream.Decimal
