/-!
# Numbers as text

The spellings that messages and listings share: decimal, and lower-case hexadecimal with and
without its `0x` mark.
-/

namespace CallStream.Text

/-- A natural number in decimal, without leading zeros. -/
def decimal (n : Nat) : String := String.ofList (Nat.toDigits 10 n)

/-- An integer in decimal, with a minus sign when it is negative. -/
def signedDecimal : Int → String
  | .ofNat n => decimal n
  | .negSucc n => "-" ++ decimal (n + 1)

/-- A natural number in lower-case hexadecimal, without leading zeros. -/
def hex (n : Nat) : String := String.ofList (Nat.toDigits 16 n)

/-- A natural number in hexadecimal behind its `0x` mark. -/
def markedHex (n : Nat) : String := "0x" ++ hex n

/-- An integer in marked hexadecimal; a minus sign follows the mark, as in `0x-5`. -/
def signedMarkedHex : Int → String
  | .ofNat n => markedHex n
  | .negSucc n => "0x-" ++ hex (n + 1)

/-- A byte as exactly two hexadecimal digits. -/
def hexByte (b : UInt8) : String :=
  String.ofList [Nat.digitChar (b.toNat / 16), Nat.digitChar (b.toNat % 16)]

end CallStream.Text
