import CallStream.Capture.Header
import CallStream.Wire.IntType

/-!
# Times in headers

A header counts ticks since 1601 in a word, and tells times in milliseconds since 1970. Two of the
steps from a time to its ticks stop at the bounds of a word, and one stops at zero. Together they
come to one bound at either end: the start of 1601, and the last whole millisecond whose ticks a
word can count. The way back never leaves the words.

The sum of a time and the offset of 1970 may stop at the greatest signed word. That sum has far more
ticks than a word can count, so the product stops as well, and the first stop does not show.

## Main results

* `toInt_timeOfTicks`: the time at a number of ticks is computed exactly.
* `toNat_ticksOfTime`: only the last stop is seen in the number of ticks at a time.
* `timestamps_clamp`: a time comes back as the nearest one that a header can tell.
-/

namespace CallStream

namespace CaptureHeader

/-- The start of 1601, the earliest time that a header can tell. -/
def earliestTime : Int := -11644473600000

/-- The last whole millisecond since 1601 whose ticks a word can count. -/
def latestTime : Int := 1844674407370955 - 11644473600000

/-! ### From ticks to times -/

/-- A number of milliseconds since 1601 is small enough to be read as a signed word. -/
theorem toInt_milliseconds (ticks : UInt64) :
    (ticks / ticksPerMillisecond).toInt64.toInt = (ticks.toNat / 10000 : Nat) := by
  have hlt := ticks.toNat_lt
  have hquotient : (ticks / ticksPerMillisecond).toNat = ticks.toNat / 10000 := UInt64.toNat_div _ _
  rw [IntType.toInt_toInt64, hquotient]
  apply Int.bmod_eq_of_le <;> simp only [UInt64.size] <;> omega

/-- The time at a number of ticks is computed without leaving the signed words. -/
theorem toInt_timeOfTicks (ticks : UInt64) :
    (timeOfTicks ticks).toInt = (ticks.toNat / 10000 : Nat) - 11644473600000 := by
  have hlt := ticks.toNat_lt
  have hoffset : epochOffset.toInt = 11644473600000 := by decide
  rw [timeOfTicks, Int64.toInt_sub, toInt_milliseconds, hoffset]
  apply Int.bmod_eq_of_le <;> omega

/-! ### From times to ticks -/

/-- A signed word that is not negative is the same number without its sign. -/
theorem toNat_max_zero (value : Int64) : (max value 0).toUInt64.toNat = value.toInt.toNat := by
  have hgreater : max value 0 = if value ≤ 0 then 0 else value := rfl
  rw [hgreater]
  split
  · next hnegative =>
      have hle := Int64.le_iff_toInt_le.mp hnegative
      rw [Int64.toInt_zero] at hle
      rw [Int.toNat_of_nonpos hle]
      rfl
  · next hnle =>
      have habove : 0 ≤ value := Int64.le_of_lt (Int64.not_le.mp hnle)
      exact Int64.toNat_toUInt64_of_le habove

/-- The ticks at a time are those of the exact sum, up to the greatest word: where the sum stops at
the greatest signed word, the product stops at the greatest word. -/
theorem toNat_ticksOfTime (time : Int64) :
    (ticksOfTime time).toNat
      = min ((time.toInt + 11644473600000).toNat * 10000) (UInt64.size - 1) := by
  have hle := time.minValue_le_toInt
  have hhigh := time.toInt_le
  have hoffset : epochOffset.toInt = 11644473600000 := by decide
  have hfactor : ticksPerMillisecond.toNat = 10000 := by decide
  rw [ticksOfTime, toNat_saturatingMul, toNat_max_zero, toInt_saturatingAdd, hoffset, hfactor]
  rw [Int64.toInt_minValue, Int64.toInt_maxValue] at *
  simp only [UInt64.size]
  omega

/-- A time is read back as the nearest one between the bounds. -/
theorem toInt_timeOfTicks_ticksOfTime (time : Int64) :
    (timeOfTicks (ticksOfTime time)).toInt = max earliestTime (min time.toInt latestTime) := by
  rw [toInt_timeOfTicks, toNat_ticksOfTime]
  simp only [earliestTime, latestTime, UInt64.size]
  omega

/-- A header has the time that it was given, between the two bounds. -/
theorem timestamp_withTimestamp (header : CaptureHeader) (time : Int64) :
    (header.withTimestamp time.toInt).timestamp = max earliestTime (min time.toInt latestTime) := by
  rw [timestamp, withTimestamp, Int64.ofIntClamp_toInt]
  exact toInt_timeOfTicks_ticksOfTime time

/-- The ends of the signed words lie far outside. -/
example :
    (withTimestamp {} Int64.minValue.toInt).timestamp = earliestTime ∧
      (withTimestamp {} Int64.maxValue.toInt).timestamp = latestTime := by decide

/-- A time that is put into a header comes back as the nearest one between the earliest and the
latest that a header can tell, so it comes back as it was if and only if it lies between them.
Whatever the ticks of a header are, its time is computed without leaving the words, lies between the
same bounds, and is not before that of a header with fewer ticks. -/
theorem timestamps_clamp :
    (∀ (header : CaptureHeader) (time : Int64),
      (header.withTimestamp time.toInt).timestamp = max earliestTime (min time.toInt latestTime) ∧
      ((header.withTimestamp time.toInt).timestamp = time.toInt
        ↔ earliestTime ≤ time.toInt ∧ time.toInt ≤ latestTime)) ∧
    (∀ header : CaptureHeader,
      (header.lastWritten / ticksPerMillisecond).toInt64.toInt
        = (header.lastWritten.toNat / 10000 : Nat) ∧
      header.timestamp = (header.lastWritten.toNat / 10000 : Nat) - 11644473600000 ∧
      earliestTime ≤ header.timestamp ∧ header.timestamp ≤ latestTime) ∧
    ∀ older newer : CaptureHeader,
      older.lastWritten ≤ newer.lastWritten → older.timestamp ≤ newer.timestamp := by
  refine ⟨fun header time => ?_, fun header => ?_, fun older newer hle => ?_⟩
  · have hordered : earliestTime ≤ latestTime := by decide
    rw [timestamp_withTimestamp]
    omega
  · have hlt := header.lastWritten.toNat_lt
    refine ⟨toInt_milliseconds _, toInt_timeOfTicks _, ?_⟩
    rw [timestamp, toInt_timeOfTicks, earliestTime, latestTime]
    omega
  · have hfewer : older.lastWritten.toNat ≤ newer.lastWritten.toNat := hle
    rw [timestamp, timestamp, toInt_timeOfTicks, toInt_timeOfTicks]
    omega

/-- A tick before the latest millisecond, and the last tick that a word can count. -/
theorem timestamps_clamp_lastTick :
    let older : CaptureHeader := { lastWritten := 18446744073709549999 }
    let newer : CaptureHeader := { lastWritten := 18446744073709551615 }
    older.lastWritten ≤ newer.lastWritten ∧ older.timestamp ≤ newer.timestamp ∧
      older.timestamp = latestTime - 1 ∧ newer.timestamp = latestTime := by
  intro older newer
  have hfewer : older.lastWritten ≤ newer.lastWritten := by decide
  exact ⟨hfewer, timestamps_clamp.2.2 older newer hfewer, by decide, by decide⟩

end CaptureHeader

end CallStream
