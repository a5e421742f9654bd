import CallStream.Codec.Encode

/-!
# What a successful write produced

A write either produces bytes and no failure, `Emission.done bytes`, or it ends early. The lemmas
here take a successful write apart: a chain succeeds exactly if all of it does, and its bytes are
those of its parts in order; a field succeeds exactly if it is absent and may be, or if what lies
behind its sentinel does.

## Main results

* `andThen_eq_done_iff`, `sequence_eq_done_iff`: successful chains.
* `encodeField_eq_done_iff`, `encodeContent_eq_done_iff`, `encodeFields_cons_eq_done_iff`: when a
  field, its content and the fields of a record are written, and with which bytes.
-/

namespace CallStream

namespace Emission

/-- Two writes in a row are done exactly if both are, and then their bytes follow one another. -/
theorem andThen_eq_done_iff {first second : Emission} {bytes : Bytes} :
    first.andThen second = done bytes
      ↔ ∃ front back, first = done front ∧ second = done back ∧ bytes = front ++ back := by
  obtain ⟨front, failure⟩ := first
  obtain ⟨back, later⟩ := second
  cases failure with
  | none =>
      simp only [andThen, done, Emission.mk.injEq, and_true]
      constructor
      · rintro ⟨rfl, rfl⟩
        exact ⟨front, back, rfl, ⟨rfl, rfl⟩, rfl⟩
      · rintro ⟨_, _, rfl, ⟨rfl, rfl⟩, rfl⟩
        exact ⟨rfl, rfl⟩
  | some cause => simp [andThen, done]

/-- What is written when a write is done is written once and for all. -/
theorem done_injective {front back : Bytes} (h : done front = done back) : front = back :=
  congrArg Emission.bytes h

/-- A write is done exactly if it has not failed. -/
theorem eq_done_iff {write : Emission} {bytes : Bytes} :
    write = done bytes ↔ write.failure = none ∧ write.bytes = bytes := by
  obtain ⟨written, failure⟩ := write
  simp only [done, Emission.mk.injEq]
  exact and_comm

/-- Writes in order succeed exactly if each does. -/
theorem sequence_eq_done_iff {writes : List Emission} {bytes : Bytes} :
    sequence writes = done bytes
      ↔ (∀ write ∈ writes, write.failure = none) ∧ writes.flatMap (·.bytes) = bytes := by
  induction writes generalizing bytes with
  | nil =>
      constructor
      · intro h
        exact ⟨fun write hmem => absurd hmem List.not_mem_nil, done_injective h⟩
      · rintro ⟨-, rfl⟩
        rfl
  | cons first rest ih =>
      rw [sequence, andThen_eq_done_iff, List.forall_mem_cons, List.flatMap_cons]
      constructor
      · rintro ⟨front, back, rfl, hsequence, rfl⟩
        obtain ⟨hall, rfl⟩ := ih.mp hsequence
        exact ⟨⟨rfl, hall⟩, rfl⟩
      · rintro ⟨⟨hfailure, hall⟩, rfl⟩
        exact ⟨first.bytes, _, eq_done_iff.mpr ⟨hfailure, rfl⟩, ih.mpr ⟨hall, rfl⟩, rfl⟩

end Emission

open Emission

/-! ### Fields -/

/-- What has a count is an array. -/
theorem FieldSpec.count_ne_one {ε : Type} {spec : FieldSpec} {scope : Record} {n : Nat}
    (h : spec.elementCount (ε := ε) scope = .ok (some n)) : spec.count ≠ .one := by
  intro hcount
  rw [elementCount_eq_none_iff.mpr hcount] at h
  cases h

/-- Writes what lies behind the sentinel of a field, or all of a field that has none. The number of
elements has to be the one that the record tells. -/
def encodeContent (spec : FieldSpec) (value : Value) (scope : Record) : Emission :=
  match spec.elementCount scope with
  | .error cause => failed cause
  | .ok none => encodeElement spec.name spec.type value
  | .ok (some expected) =>
    match value with
    | .array elements =>
      if elements.length = expected then sequence (elements.map (encodeElement spec.name spec.type))
      else failed (.countMismatch spec.name expected elements.length)
    | _ => failed (.valueMismatch spec.name)

/-- The sentinel in front of a value that is there. -/
def presenceMark (spec : FieldSpec) : Bytes :=
  if spec.isOptional then Cursor.encodeSentinel true else []

/-- A value that is there is written behind the sentinel of its field, if the field has one. -/
theorem encodeField_of_ne_absent {value : Value} (h : value ≠ .absent) (spec : FieldSpec)
    (scope : Record) :
    encodeField spec value scope
      = (done (presenceMark spec)).andThen (encodeContent spec value scope) := by
  obtain ⟨name, type, isOptional, count⟩ := spec
  cases value with
  | absent => exact absurd rfl h
  | _ => cases isOptional <;> rfl

/-- The content of a field is one element, or an array that agrees with its count. -/
theorem encodeContent_eq_done_iff {spec : FieldSpec} {value : Value} {scope : Record}
    {bytes : Bytes} :
    encodeContent spec value scope = done bytes
      ↔ (spec.count = .one ∧ encodeElement spec.name spec.type value = done bytes) ∨
        (∃ elements, value = .array elements ∧
          spec.elementCount (ε := Empty) scope = .ok (some elements.length) ∧
          sequence (elements.map (encodeElement spec.name spec.type)) = done bytes) := by
  unfold encodeContent
  split
  · next cause helementCount =>
      have harray : spec.count ≠ .one := fun hcount => by
        rw [FieldSpec.elementCount_eq_none_iff.mpr hcount] at helementCount
        cases helementCount
      simp [failed, done, harray, helementCount]
  · next helementCount =>
      have hcount := FieldSpec.elementCount_eq_none_iff.mp helementCount
      simp [hcount, helementCount]
  · next expected helementCount =>
      have harray := FieldSpec.count_ne_one helementCount
      simp only [harray, false_and, false_or, helementCount, Except.ok.injEq, Option.some.injEq]
      split
      · next elements =>
          simp only [Value.array.injEq, exists_eq_left']
          split
          · next hagrees => simp [hagrees]
          · next hne =>
              have hother : expected ≠ elements.length := Ne.symm hne
              simp [failed, done, hother]
      -- A field with a count is no single value.
      · next hother =>
          simp only [failed, done, Emission.mk.injEq, reduceCtorEq, and_false, false_iff]
          rintro ⟨elements, rfl, -, -⟩
          exact hother elements rfl

/-- Nothing is written behind the sentinel of an absent value. -/
theorem ne_absent_of_encodeContent {spec : FieldSpec} {value : Value} {scope : Record}
    {bytes : Bytes} (h : encodeContent spec value scope = done bytes) : value ≠ .absent := by
  rintro rfl
  rcases encodeContent_eq_done_iff.mp h with ⟨-, hencodeElement⟩ | ⟨elements, harray, -⟩
  · obtain ⟨name, type, isOptional, count⟩ := spec
    cases type <;> cases hencodeElement
  · cases harray

/-- A field is written if it is absent and may be, or if its content is. -/
theorem encodeField_eq_done_iff {spec : FieldSpec} {value : Value} {scope : Record}
    {bytes : Bytes} :
    encodeField spec value scope = done bytes
      ↔ (spec.isOptional = true ∧ value = .absent ∧ bytes = Cursor.encodeSentinel false) ∨
        ∃ content, encodeContent spec value scope = done content ∧
          bytes = presenceMark spec ++ content := by
  by_cases habsent : value = .absent
  · subst habsent
    -- Content is never absent, so the second case is out.
    have hunwritten : ∀ content, encodeContent spec .absent scope ≠ done content :=
      fun content hencodeContent => ne_absent_of_encodeContent hencodeContent rfl
    obtain ⟨name, type, isOptional, count⟩ := spec
    cases isOptional with
    | true =>
        simp only [encodeField, true_and, hunwritten, false_and, exists_false, or_false]
        exact ⟨fun h => (done_injective h).symm, fun h => congrArg done h.symm⟩
    | false =>
        simp only [hunwritten, false_and, exists_false, reduceCtorEq, or_false, iff_false]
        exact fun h => nomatch congrArg Emission.failure h
  · rw [encodeField_of_ne_absent habsent, andThen_eq_done_iff]
    constructor
    · rintro ⟨front, content, hmark, hencodeContent, rfl⟩
      exact Or.inr ⟨content, hencodeContent, by rw [done_injective hmark]⟩
    · rintro (⟨-, hisAbsent, -⟩ | ⟨content, hencodeContent, rfl⟩)
      · contradiction
      · exact ⟨_, content, rfl, hencodeContent, rfl⟩

/-- Fields are written exactly if the record has a value for the first one that can be written, and
the others are written too. -/
theorem encodeFields_cons_eq_done_iff {spec : FieldSpec} {rest : List FieldSpec} {record : Record}
    {bytes : Bytes} :
    encodeFields (spec :: rest) record = done bytes
      ↔ ∃ value front back, Record.get? record spec.name = some value ∧
          encodeField spec value record = done front ∧ encodeFields rest record = done back ∧
          bytes = front ++ back := by
  simp only [encodeFields]
  cases Record.get? record spec.name with
  | none => simp [failed, done]
  | some value => simp [andThen_eq_done_iff]

end CallStream
