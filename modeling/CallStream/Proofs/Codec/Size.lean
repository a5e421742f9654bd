import CallStream.Proofs.Codec.Reading

/-!
# The fewest bytes of a value

`minSize` computes from a layout the fewest bytes that a value of it can take: a counted array may
be empty and an optional field absent, everything else has to be there. No read succeeds on less
(`takes_decodeElement` and its companions for structures and fields), whatever the mapper does.

The reader refuses a count that exceeds the bytes ahead, on the grounds that every element takes at
least one. `minSize` is the exact form of that assumption.
-/

namespace CallStream

/-! ### Reads of the payload -/

namespace Cursor

variable {ε : Type}

/-- Reading bytes takes as many. -/
theorem remaining_of_readBytes {count : Nat} {cursor after : Cursor} {bytes : Bytes}
    (h : readBytes (ε := ε) count cursor = .ok bytes after) :
    after.remaining + count = cursor.remaining := by
  simp only [readBytes] at h
  split at h
  · next hlength =>
      cases h
      rw [List.length_take] at hlength
      simp only [advance, remaining, List.length_drop]
      omega
  · cases h

/-- Reading a number takes the width of its type. -/
theorem remaining_of_readUInt {type : IntType} {cursor after : Cursor} {word : UInt64}
    (h : readUInt (ε := ε) type cursor = .ok word after) :
    after.remaining + type.width.bytes = cursor.remaining := by
  obtain ⟨bytes, middle, hreadBytes, hpure⟩ := bind_eq_ok_iff.mp h
  obtain ⟨-, rfl⟩ := pure_eq_ok_iff.mp hpure
  exact remaining_of_readBytes hreadBytes

/-- So does reading one with a sign. -/
theorem remaining_of_readSInt {type : IntType} {cursor after : Cursor} {value : Int64}
    (h : readSInt (ε := ε) type cursor = .ok value after) :
    after.remaining + type.width.bytes = cursor.remaining := by
  obtain ⟨word, middle, hreadUInt, hpure⟩ := bind_eq_ok_iff.mp h
  obtain ⟨-, rfl⟩ := pure_eq_ok_iff.mp hpure
  exact remaining_of_readUInt hreadUInt

/-- Reading a word takes four bytes. -/
theorem remaining_of_readU32 {cursor after : Cursor} {word : UInt32}
    (h : readU32 (ε := ε) cursor = .ok word after) : after.remaining + 4 = cursor.remaining := by
  obtain ⟨long, middle, hreadUInt, hpure⟩ := bind_eq_ok_iff.mp h
  obtain ⟨-, rfl⟩ := pure_eq_ok_iff.mp hpure
  exact remaining_of_readUInt hreadUInt

/-- Reading a sentinel takes eight. -/
theorem remaining_of_readSentinel {cursor after : Cursor} {present : Bool}
    (h : readSentinel (ε := ε) cursor = .ok present after) :
    after.remaining + 8 = cursor.remaining := by
  obtain ⟨word, middle, hreadUInt, hpure⟩ := bind_eq_ok_iff.mp h
  obtain ⟨-, rfl⟩ := pure_eq_ok_iff.mp hpure
  exact remaining_of_readUInt hreadUInt

/-- A count that the bytes ahead can satisfy is let through. -/
theorem requireRoom_of_le {type : FieldType} {count : Nat} {cursor : Cursor}
    (h : type.hasSize = true → count ≤ cursor.remaining) :
    requireRoom (ε := ε) type count cursor = .ok () cursor := by
  unfold requireRoom
  rw [if_neg]
  intro hand
  simp only [Bool.and_eq_true, decide_eq_true_eq] at hand
  have := h hand.2
  omega

/-- Checking a count reads nothing. -/
theorem remaining_of_requireRoom {type : FieldType} {count : Nat} {cursor after : Cursor}
    (h : requireRoom (ε := ε) type count cursor = .ok () after) : after = cursor := by
  simp only [requireRoom] at h
  split at h
  · cases h
  · cases h
    rfl

/-- A structure with a tag starts with the tag and the length of its extensions. -/
theorem remaining_of_readStructHeader {schema : String} {tag : Option UInt32}
    {cursor after : Cursor} (h : readStructHeader (ε := ε) schema tag cursor = .ok () after) :
    after.remaining + (if tag.isSome then 8 else 0) ≤ cursor.remaining := by
  cases tag with
  | none =>
      obtain ⟨-, rfl⟩ := pure_eq_ok_iff.mp h
      exact Nat.le_refl _
  | some expected =>
      obtain ⟨found, afterTag, htagRead, h⟩ := bind_eq_ok_iff.mp h
      have htagSize := remaining_of_readU32 htagRead
      split at h
      · cases h
      · obtain ⟨length, afterLength, hlengthRead, h⟩ := bind_eq_ok_iff.mp h
        have hlengthSize := remaining_of_readUInt hlengthRead
        split at h
        · obtain ⟨_, _, -, himpossible⟩ := bind_eq_ok_iff.mp h
          cases himpossible
        · obtain ⟨-, rfl⟩ := pure_eq_ok_iff.mp h
          simp only [IntType.length32, IntType.u32, IntType.unsigned, IntWidth.bytes] at hlengthSize
          simp only [Option.isSome_some, if_true]
          omega

end Cursor

/-- The fewest bytes that a text takes in its layout. -/
def TextEncoding.minSize : TextEncoding → Nat
  | .fixed size => size
  | .terminated => 1
  | .lengthPrefixed => 4

namespace Cursor

variable {ε : Type}

/-- Reading the bytes of a text takes at least the least that its encoding can. -/
theorem remaining_of_readTextBytes {encoding : TextEncoding} {cursor after : Cursor} {bytes : Bytes}
    (h : readTextBytes (ε := ε) encoding cursor = .ok bytes after) :
    after.remaining + encoding.minSize ≤ cursor.remaining := by
  cases encoding with
  | fixed size =>
      obtain ⟨padded, middle, hreadBytes, hpure⟩ := bind_eq_ok_iff.mp h
      obtain ⟨-, rfl⟩ := pure_eq_ok_iff.mp hpure
      exact Nat.le_of_eq (remaining_of_readBytes hreadBytes)
  | terminated =>
      -- The zero byte is taken as well.
      simp only [readTextBytes, readTerminated] at h
      split at h
      · next hlt =>
          cases h
          simp only [advance, remaining, List.length_drop, TextEncoding.minSize] at hlt ⊢
          omega
      · cases h
  | lengthPrefixed =>
      obtain ⟨length, middle, hlengthRead, hreadBytes⟩ := bind_eq_ok_iff.mp h
      have hlengthSize := remaining_of_readUInt hlengthRead
      have hcontentSize := remaining_of_readBytes hreadBytes
      simp only [IntType.length32, IntType.u32, IntType.unsigned, IntWidth.bytes] at hlengthSize
      simp only [TextEncoding.minSize]
      omega

/-- So does reading the text. -/
theorem remaining_of_readText {encoding : TextEncoding} {field : String} {cursor after : Cursor}
    {text : String} (h : readText (ε := ε) encoding field cursor = .ok text after) :
    after.remaining + encoding.minSize ≤ cursor.remaining := by
  obtain ⟨bytes, middle, hreadTextBytes, hrest⟩ := bind_eq_ok_iff.mp h
  cases htoText : Bytes.toText? bytes with
  | none =>
      rw [htoText] at hrest
      cases hrest
  | some content =>
      rw [htoText] at hrest
      obtain ⟨-, rfl⟩ := pure_eq_ok_iff.mp hrest
      exact remaining_of_readTextBytes hreadTextBytes

end Cursor

/-! ### The fewest bytes of a layout -/

mutual

/-- The fewest bytes that one element takes. A text may be empty and an optional value absent, so
what is read can be longer. -/
def FieldType.minSize : FieldType → Nat
  | .int type => type.width.bytes
  | .float32 | .enum _ | .flags _ => 4
  | .handle _ => 8
  | .text encoding => encoding.minSize
  | .struct schema => schema.minSize
termination_by structural type => type

/-- The fewest bytes that a structure takes. -/
def StructSchema.minSize : StructSchema → Nat
  | ⟨_, tag, fields⟩ => (if tag.isSome then 8 else 0) + FieldSpec.sumMinSize fields
termination_by structural schema => schema

/-- The fewest bytes that a field takes: those of its sentinel if it may be absent, and none if it
is an array that something else counts. -/
def FieldSpec.minSize : FieldSpec → Nat
  | ⟨_, type, isOptional, count⟩ =>
    if isOptional then 8
    else
      match count with
      | .one => type.minSize
      | .fixed count => count * type.minSize
      | .field _ _ => 0
termination_by structural spec => spec

/-- The fewest bytes that some fields take together. -/
def FieldSpec.sumMinSize : List FieldSpec → Nat
  | [] => 0
  | spec :: rest => spec.minSize + FieldSpec.sumMinSize rest
termination_by structural fields => fields

end

section Takes

open Decoding Cursor

variable {σ ε : Type} (mapper : HandleMapper σ ε) (mapping : HandleMapping)

/-- An array takes at least as much as its elements do together. -/
theorem takes_decodeElements {field : String} {type : FieldType} {size : Nat}
    (helement : Takes (decodeElement mapper mapping field type) size) (count : Nat) :
    Takes (decodeElements mapper mapping field type (some count)) (count * size) := by
  have hroom : Takes (onCursor (requireRoom type count) : Decoding σ ε Unit) 0 :=
    takes_onCursor fun hroom => Nat.le_of_eq (congrArg remaining (remaining_of_requireRoom hroom))
  have helements := (helement.readMany count).andThen fun elements =>
    takes_pure (Value.array elements)
  have htakes := hroom.bind fun _ => helements
  rwa [Nat.zero_add] at htakes

/-- What lies behind a sentinel takes as much as a field that has none. -/
theorem takes_decodeContent (spec : FieldSpec)
    (helement : Takes (decodeElement mapper mapping spec.name spec.type) spec.type.minSize)
    (scope : Record) :
    Takes (decodeContent mapper mapping spec scope)
      (FieldSpec.minSize { spec with isOptional := false }) := by
  obtain ⟨name, type, isOptional, count⟩ := spec
  rw [decodeContent_eq]
  cases count with
  | one => exact helement
  | fixed count => exact takes_decodeElements mapper mapping helement count
  | field path divisor =>
      split
      · exact takes_throw _ _
      · exact helement.mono (Nat.zero_le _)
      · exact (takes_decodeElements mapper mapping helement _).mono (Nat.zero_le _)

mutual

/-- No element is read from fewer bytes than its type takes. -/
theorem takes_decodeElement (field : String) :
    (type : FieldType) → Takes (decodeElement mapper mapping field type) type.minSize
  | .int type => by
      simp only [decodeElement, FieldType.minSize]
      split
      · exact (takes_onCursor fun hread => Nat.le_of_eq (remaining_of_readSInt hread)).andThen
          fun value => takes_pure _
      · exact (takes_onCursor fun hread => Nat.le_of_eq (remaining_of_readUInt hread)).andThen
          fun value => takes_pure _
  | .float32 | .enum _ | .flags _ =>
      (takes_onCursor fun hread => Nat.le_of_eq (remaining_of_readU32 hread)).andThen
        fun value => takes_pure _
  | .handle type =>
      (takes_onCursor fun hread => Nat.le_of_eq (remaining_of_readUInt hread)).andThen
        fun handle => (takes_onMapper field handle _).andThen fun value => takes_pure _
  | .text encoding =>
      (takes_onCursor remaining_of_readText).andThen fun content => takes_pure _
  | .struct schema => (takes_decodeStruct schema).andThen fun fields => takes_pure _
termination_by structural type => type

/-- No structure is read from fewer bytes than its header and its fields take. -/
theorem takes_decodeStruct :
    (schema : StructSchema) → Takes (decodeStruct mapper mapping schema) schema.minSize
  | ⟨_, _, fields⟩ =>
      (takes_onCursor remaining_of_readStructHeader).bind fun _ => takes_decodeFields fields []
termination_by structural schema => schema

/-- No field is read from fewer bytes than it takes; one that may be absent takes its sentinel. -/
theorem takes_decodeField :
    (spec : FieldSpec) → (scope : Record) → Takes (decodeField mapper mapping spec scope)
    spec.minSize
  | ⟨name, type, isOptional, count⟩, scope => by
      have hcontent := takes_decodeContent mapper mapping ⟨name, type, isOptional, count⟩
        (takes_decodeElement name type) scope
      cases isOptional with
      | false =>
          rw [decodeField_of_required rfl]
          exact hcontent
      | true =>
          rw [decodeField_of_optional rfl]
          refine (takes_onCursor fun hread => Nat.le_of_eq
            (remaining_of_readSentinel hread)).andThen ?_
          intro present
          split
          · exact hcontent.mono (Nat.zero_le _)
          · exact takes_pure _
termination_by structural spec => spec

/-- Reading fields takes at least the sum of their least sizes. -/
theorem takes_decodeFields :
    (fields : List FieldSpec) → (scope : Record) →
      Takes (decodeFields mapper mapping fields scope) (FieldSpec.sumMinSize fields)
  | [], scope => takes_pure scope
  | spec :: rest, scope =>
      (takes_decodeField spec scope).bind fun _ => takes_decodeFields rest _
termination_by structural fields => fields

end

end Takes

end CallStream
