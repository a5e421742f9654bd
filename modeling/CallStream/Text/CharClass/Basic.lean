import CallStream.Text.CharClass.GraphemeExtend
import CallStream.Text.CharClass.Unprintable

/-!
# Classes of characters

Whether a character may stand in a quoted text as it is, and which characters count as blank.
-/

namespace CallStream.Text

/-- Whether a code point lies in one of the ranges. -/
def inRanges (ranges : List (Nat × Nat)) (codePoint : Nat) : Bool :=
  ranges.any fun (first, last) => first ≤ codePoint && codePoint ≤ last

/-- The halfwidth katakana sound marks. They extend a grapheme, and yet they are letters that take a
place of their own. -/
def soundMarkRanges : List (Nat × Nat) := [(0xFF9E, 0xFF9F)]

/-- The Hangul fillers: letters that stand in the place of a missing one and show nothing. They are
the letters with the Unicode property `Default_Ignorable_Code_Point`. -/
def fillerRanges : List (Nat × Nat) := [(0x115F, 0x1160), (0x3164, 0x3164), (0xFFA0, 0xFFA0)]

/-- Whether a character is drawn as part of the character before it. -/
def isAttached (c : Char) : Bool :=
  inRanges graphemeExtendRanges c.toNat && !inRanges soundMarkRanges c.toNat

/-- Whether a character shows nothing, or nothing that is agreed upon. -/
def isInvisible (c : Char) : Bool :=
  inRanges unprintableRanges c.toNat || inRanges fillerRanges c.toNat

/-- Whether a character can be shown on its own: it has a printed form and does not attach to the
character before it. -/
def standsAlone (c : Char) : Bool := !isAttached c && !isInvisible c

/-- The ranges of the Unicode property `White_Space`. -/
def blankRanges : List (Nat × Nat) :=
  [(0x9, 0xD), (0x20, 0x20), (0x85, 0x85), (0xA0, 0xA0), (0x1680, 0x1680), (0x2000, 0x200A),
    (0x2028, 0x2029), (0x202F, 0x202F), (0x205F, 0x205F), (0x3000, 0x3000)]

/-- Whether a character counts as white space. -/
def isBlank (c : Char) : Bool := inRanges blankRanges c.toNat

/-- A text without the white space around it. -/
def trimBlanks (chars : List Char) : List Char :=
  ((chars.dropWhile isBlank).reverse.dropWhile isBlank).reverse

end CallStream.Text
