import CallStream.Proofs.Codec.Layout

/-!
# Counts that the reader refuses

The reader refuses a count that exceeds the bytes ahead unless one look at the type says that its
elements may be empty, and it looks no further than the type itself: a structure with a field passes
for one that takes a byte, though the field may be an empty structure, an empty array or a text of
no bytes. `readsEmpty` looks all the way down. The refusal is right, in that reading the elements
one after another fails as well, for exactly the types that do not read as empty.

Nothing in an empty value can be a count, so a counted array has no place in one.

## Main results

* `empties_decodeElement`: elements of a type that reads as empty are read without taking a byte.
* `still_decodeElement`: an element that is read without taking a byte is of such a type.
* `decodeField_of_refused`: when a count is refused, and whether its elements could have been read.
* `isOk_readMany_of_placed`: in a well laid layout a refused count could never be satisfied.
-/

namespace CallStream

/-! ### Layouts that read as empty -/

mutual

/-- Whether an element can be read without taking a byte, when `room` bytes are ahead. The room
matters because a count within is compared with it. -/
def FieldType.readsEmpty (room : Nat) : FieldType → Bool
  | .text encoding => encoding == .fixed 0
  | .struct schema => schema.readsEmpty room
  | _ => false
termination_by structural type => type

/-- Whether a structure can. -/
def StructSchema.readsEmpty (room : Nat) : StructSchema → Bool
  | ⟨_, tag, fields⟩ => tag.isNone && FieldSpec.allReadEmpty room fields
termination_by structural schema => schema

/-- Whether a field can: it has no sentinel and no counter, and a count of its own passes the check
of the reader. -/
def FieldSpec.readsEmpty (room : Nat) : FieldSpec → Bool
  | ⟨_, type, isOptional, count⟩ =>
    !isOptional &&
      match count with
      | .one => type.readsEmpty room
      | .fixed count => count == 0 || (type.readsEmpty room && (!type.hasSize || count ≤ room))
      | .field _ _ => false
termination_by structural spec => spec

/-- Whether some fields can. -/
def FieldSpec.allReadEmpty (room : Nat) : List FieldSpec → Bool
  | [] => true
  | spec :: rest => spec.readsEmpty room && FieldSpec.allReadEmpty room rest
termination_by structural fields => fields

end

section Mono

variable {small large : Nat}

mutual

/-- More room lets more counts pass. -/
theorem FieldType.readsEmpty_mono (hle : small ≤ large) :
    (type : FieldType) → type.readsEmpty small = true → type.readsEmpty large = true
  | .text _, h => h
  | .struct schema, h => StructSchema.readsEmpty_mono hle schema h
  | .int _, h | .float32, h | .enum _, h | .flags _, h | .handle _, h => by cases h
termination_by structural type => type

/-- A structure that takes no byte with little room ahead takes none with more. -/
theorem StructSchema.readsEmpty_mono (hle : small ≤ large) :
    (schema : StructSchema) → schema.readsEmpty small = true → schema.readsEmpty large = true
  | ⟨_, tag, fields⟩, h => by
      rw [StructSchema.readsEmpty, Bool.and_eq_true] at h ⊢
      exact ⟨h.1, FieldSpec.allReadEmpty_mono hle fields h.2⟩
termination_by structural schema => schema

/-- Nor does such a field: with more room, more counts are let through to elements that are
empty. -/
theorem FieldSpec.readsEmpty_mono (hle : small ≤ large) :
    (spec : FieldSpec) → spec.readsEmpty small = true → spec.readsEmpty large = true
  | ⟨_, type, isOptional, count⟩, h => by
      have hinner := FieldType.readsEmpty_mono hle type
      cases count with
      | one =>
          simp only [FieldSpec.readsEmpty, Bool.and_eq_true] at h ⊢
          exact ⟨h.1, hinner h.2⟩
      | field path divisor => exact h
      | fixed count =>
          simp only [FieldSpec.readsEmpty, Bool.and_eq_true, Bool.or_eq_true, decide_eq_true_eq]
            at h ⊢
          exact h.imp_right (Or.imp_right fun ⟨hreadsEmpty, hfits⟩ =>
            ⟨hinner hreadsEmpty, hfits.imp_right (Nat.le_trans · hle)⟩)
termination_by structural spec => spec

/-- Nor do such fields, one after another. -/
theorem FieldSpec.allReadEmpty_mono (hle : small ≤ large) :
    (fields : List FieldSpec) → FieldSpec.allReadEmpty small fields = true →
      FieldSpec.allReadEmpty large fields = true
  | [], h => h
  | spec :: rest, h => by
      rw [FieldSpec.allReadEmpty, Bool.and_eq_true] at h ⊢
      exact ⟨FieldSpec.readsEmpty_mono hle spec h.1, FieldSpec.allReadEmpty_mono hle rest h.2⟩
termination_by structural fields => fields

end

end Mono

/-! ### Reading what reads as empty -/

namespace Decoding

variable {σ ε α β : Type}

/-- With `room` bytes ahead, the read gives `value` and takes nothing, and the mapper is not
asked. -/
def Empties (read : Decoding σ ε α) (room : Nat) (value : α) : Prop :=
  ∀ (cursor : Cursor) (state : σ), cursor.remaining = room →
    read (cursor, state) = .ok value (cursor, state)

/-- A value that is not read takes no byte. -/
theorem empties_pure (room : Nat) (value : α) : Empties (pure value : Decoding σ ε α) room value :=
  fun _ _ _ => rfl

/-- Two reads that take no byte take none one after the other, so the second has the same room. -/
theorem Empties.bind {read : Decoding σ ε α} {next : α → Decoding σ ε β} {room : Nat} {value : α}
    {result : β} (hempties : Empties read room value) (htail : Empties (next value) room result) :
    Empties (read >>= next) room result := by
  intro cursor state hremaining
  rw [bind_of_ok (hempties cursor state hremaining), htail cursor state hremaining]

/-- What is made of a value takes no byte. -/
theorem Empties.map {read : Decoding σ ε α} {room : Nat} {value : α}
    (hempties : Empties read room value) (f : α → β) :
    Empties (read >>= fun value => pure (f value)) room (f value) :=
  hempties.bind (empties_pure room (f value))

/-- A read of the cursor that stays where it is takes no byte, and cannot ask the mapper. -/
theorem empties_onCursor {read : Read ε α} {room : Nat} {value : α}
    (h : ∀ cursor : Cursor, cursor.remaining = room → read cursor = .ok value cursor) :
    Empties (onCursor read : Decoding σ ε α) room value :=
  fun cursor state hremaining => onCursor_of_ok (h cursor hremaining) state

/-- Any number of empty elements is read. -/
theorem Empties.readMany {read : Decoding σ ε α} {room : Nat} {value : α}
    (hempties : Empties read room value) (count : Nat) :
    Empties (readMany read count) room (List.replicate count value) := by
  induction count with
  | zero => exact empties_pure room []
  | succ count ih => exact hempties.bind (ih.map (value :: ·))

end Decoding

/-- A text of no bytes is the empty text. -/
theorem Cursor.readText_fixed_zero {ε : Type} (field : String) (cursor : Cursor) :
    readText (ε := ε) (.fixed 0) field cursor = .ok "" cursor := by
  have hnothing : readTextBytes (ε := ε) (.fixed 0) cursor = .ok (Bytes.ofText "") cursor := rfl
  rw [readText, bind_of_ok hnothing, Bytes.toText?_ofText]
  rfl

section Empties

open Decoding Cursor

variable {σ ε : Type} (mapper : HandleMapper σ ε) (mapping : HandleMapping) (room : Nat)

/-- An array whose count passes the check is read as empty if its elements are. -/
theorem empties_decodeElements {field : String} {type : FieldType} {count : Nat}
    (hfits : type.hasSize = true → count ≤ room) {values : List Value}
    (helements : Empties (readMany (decodeElement mapper mapping field type) count) room values) :
    Empties (decodeElements mapper mapping field type (some count)) room (.array values) := by
  have hempties : Empties (onCursor (requireRoom type count) : Decoding σ ε Unit) room () :=
    empties_onCursor fun cursor hremaining => requireRoom_of_le fun hsized =>
    hremaining ▸ hfits hsized
  exact hempties.bind (helements.map Value.array)

mutual

/-- An element of a type that reads as empty is read without taking a byte. -/
theorem empties_decodeElement (field : String) : (type : FieldType) →
    type.readsEmpty room = true →
      ∃ value, Empties (decodeElement mapper mapping field type) room value
  | .text encoding, h => by
      obtain rfl : encoding = .fixed 0 := eq_of_beq h
      have hempties : Empties (onCursor (readText (.fixed 0) field) : Decoding σ ε String)
          room "" :=
        empties_onCursor fun cursor _ => readText_fixed_zero field cursor
      exact ⟨.text "", hempties.map Value.text⟩
  | .struct schema, h => by
      obtain ⟨record, hempties⟩ := empties_decodeStruct schema h
      exact ⟨.struct record, hempties.map Value.struct⟩
  | .int _, h | .float32, h | .enum _, h | .flags _, h | .handle _, h => by cases h
termination_by structural type => type

/-- A structure that can be read with nothing gives some record there. -/
theorem empties_decodeStruct : (schema : StructSchema) → schema.readsEmpty room = true →
    ∃ record, Empties (decodeStruct mapper mapping schema) room record
  | ⟨name, tag, fields⟩, h => by
      rw [StructSchema.readsEmpty, Bool.and_eq_true, Option.isNone_iff_eq_none] at h
      obtain ⟨rfl, h⟩ := h
      have hheader : Empties (onCursor (readStructHeader name none) : Decoding σ ε Unit) room () :=
        empties_onCursor fun _ _ => rfl
      obtain ⟨record, hempties⟩ := empties_decodeFields fields h []
      exact ⟨record, hheader.bind hempties⟩
termination_by structural schema => schema

/-- A field that can be read with nothing gives some value there, which is the same whatever was
read before it: it counts its elements itself, or has none. -/
theorem empties_decodeField : (spec : FieldSpec) → spec.readsEmpty room = true →
    ∃ value, ∀ scope, Empties (decodeField mapper mapping spec scope) room value
  | ⟨name, type, isOptional, count⟩, h => by
      simp only [FieldSpec.readsEmpty, Bool.and_eq_true] at h
      obtain ⟨hrequired, h⟩ := h
      have hcontent : ∀ scope : Record,
          decodeField mapper mapping ⟨name, type, isOptional, count⟩ scope
            = decodeContent mapper mapping ⟨name, type, isOptional, count⟩ scope :=
        decodeField_of_required (by simpa using hrequired)
      simp only [hcontent]
      have hinner := empties_decodeElement name type
      cases count with
      | one =>
          obtain ⟨value, hempties⟩ := hinner h
          exact ⟨value, fun scope => hempties⟩
      | field path divisor => cases h
      | fixed count =>
          simp only [Bool.or_eq_true, beq_iff_eq, Bool.and_eq_true, Bool.not_eq_true',
            decide_eq_true_eq] at h
          rcases h with rfl | ⟨hreadsEmpty, hfits⟩
          · exact ⟨.array [], fun scope => empties_decodeElements mapper mapping room
              (fun _ => Nat.zero_le room) (empties_pure room [])⟩
          · obtain ⟨value, hempties⟩ := hinner hreadsEmpty
            refine ⟨.array (List.replicate count value), fun scope =>
              empties_decodeElements mapper mapping room (fun hsized => ?_)
                (hempties.readMany count)⟩
            exact hfits.resolve_left (by rw [hsized]; exact Bool.noConfusion)
termination_by structural spec => spec

/-- Fields that can be read with nothing are read one after another. -/
theorem empties_decodeFields : (fields : List FieldSpec) →
    FieldSpec.allReadEmpty room fields = true → ∀ decoded,
      ∃ record, Empties (decodeFields mapper mapping fields decoded) room record
  | [], _, decoded => ⟨decoded, empties_pure room decoded⟩
  | spec :: rest, h, decoded => by
      rw [FieldSpec.allReadEmpty, Bool.and_eq_true] at h
      obtain ⟨value, hfirst⟩ := empties_decodeField spec h.1
      obtain ⟨record, hothers⟩ := empties_decodeFields rest h.2 (decoded ++ [(spec.name, value)])
      exact ⟨record, (hfirst decoded).bind hothers⟩
termination_by structural fields => fields

end

end Empties

/-! ### Values that cannot count -/

/-- No path leads to a number, or to an absent value, which counts as zero. So no array behind such
a record can be counted by it. -/
def Record.Countless (record : Record) : Prop :=
  ∀ path value, resolve? record path = some value → value.toWord? = none ∧ value ≠ .absent

/-- The value is no count, and there is none in it. -/
structure Value.Countless (value : Value) : Prop where
  unreadable : value.toWord? = none
  present : value ≠ .absent
  members : ∀ fields, value = .struct fields → Record.Countless fields

section Countless

variable {record scope : Record} {name : String} {value : Value}

/-- Where nothing was read, nothing is counted. -/
theorem Record.countless_nil : Record.Countless [] := by
  intro path value hresolve
  rcases path with _ | ⟨name, _ | ⟨inner, path⟩⟩ <;> cases hresolve

/-- A text counts nothing. -/
theorem Value.countless_text (content : String) : (Value.text content).Countless :=
  ⟨rfl, Value.noConfusion, fun _ htext => by cases htext⟩

/-- An array counts nothing, whatever its elements are. -/
theorem Value.countless_array (elements : List Value) : (Value.array elements).Countless :=
  ⟨rfl, Value.noConfusion, fun _ harray => by cases harray⟩

/-- A structure counts nothing if its fields do not. -/
theorem Value.countless_struct (h : record.Countless) : (Value.struct record).Countless :=
  ⟨rfl, Value.noConfusion, fun _ hstruct => by cases hstruct; exact h⟩

/-- A record may be extended by a value that cannot count. -/
theorem Record.Countless.concat (h : record.Countless) (hadded : value.Countless) :
    Record.Countless (record ++ [(name, value)]) := by
  have hfound {key : String} {result : Value}
      (h : get? (record ++ [(name, value)]) key = some result) :
      get? record key = some result ∨ result = value := by
    rw [get?, List.lookup_append, Option.or_eq_some_iff] at h
    refine h.imp_right fun ⟨_, h⟩ => ?_
    rw [List.lookup_cons, List.lookup_nil] at h
    split at h
    · exact (Option.some.inj h).symm
    · cases h
  intro path result hled
  -- A path leads to what its first name finds, or on into the structure that it finds.
  rcases path with _ | ⟨key, _ | ⟨inner, path⟩⟩
  · cases hled
  · rcases hfound hled with hget | rfl
    · exact h [key] result hget
    · exact ⟨hadded.unreadable, hadded.present⟩
  · rw [resolve?] at hled
    · split at hled
      · next fields his =>
          rcases hfound his with hget | hstruct
          · refine h (key :: inner :: path) result ?_
            rw [resolve?, hget]
            · exact hled
            · exact fun hcons => by cases hcons
          · exact hadded.members fields hstruct.symm (inner :: path) result hled
      · cases hled
    · exact fun hcons => by cases hcons

/-- A counted field is not read among values that cannot count. -/
theorem elementCount_of_countless {ε : Type} {spec : FieldSpec} {path : List String} {divisor : Nat}
    (hcount : spec.count = .field path divisor) (h : scope.Countless) :
    spec.elementCount (ε := ε) scope
      = .error (.missingCount spec.name (Record.pathText path)) := by
  rw [FieldSpec.elementCount, hcount]
  dsimp only
  split
  · rfl
  · next hresolve => exact absurd rfl (h path .absent hresolve).2
  · next value _ hresolve => rw [(h path value hresolve).1]

end Countless

/-! ### Reads that take nothing -/

namespace Decoding

variable {σ ε α β : Type}

/-- With `room` bytes ahead, a read that succeeds without taking any has the property of its
value. -/
def Still (read : Decoding σ ε α) (room : Nat) (property : α → Prop) : Prop :=
  ∀ ⦃cursor after : Cursor⦄ ⦃state last : σ⦄ ⦃value : α⦄, cursor.remaining = room →
    after.remaining = room → read (cursor, state) = .ok value (after, last) → property value

variable {read : Decoding σ ε α} {room : Nat} {property : α → Prop}

/-- A read that takes some bytes takes at least none. -/
theorem Takes.zero {size : Nat} (h : Takes read size) : Takes read 0 := h.mono (Nat.zero_le size)

/-- A read that takes a byte does not succeed without one. -/
theorem still_of_takes {size : Nat} (h : Takes read size) (hlt : 0 < size) :
    Still read room property := by
  intro cursor after state last value hremaining hleft hok
  have := h hok
  omega

/-- A value that is not read has the property that it is known to have. -/
theorem still_pure {value : α} (h : property value) :
    Still (pure value : Decoding σ ε α) room property := by
  intro cursor after state last result hremaining hleft hpure
  obtain ⟨rfl, -⟩ := pure_eq_ok_iff.mp hpure
  exact h

/-- A read that fails promises nothing. -/
theorem still_throw (failure : WireError ε) :
    Still (throw failure : Decoding σ ε α) room property := by
  intro cursor after state last value hremaining hleft hthrow
  cases hthrow

/-- If two reads take nothing together, neither of them does. -/
theorem Still.bind {next : α → Decoding σ ε β} {result : β → Prop} (htakes : Takes read 0)
    (hstill : Still read room property) (hsecond : ∀ value, Takes (next value) 0)
    (htail : ∀ value, property value → Still (next value) room result) :
    Still (read >>= next) room result := by
  intro cursor after state last value hremaining hleft hbind
  obtain ⟨found, ⟨middle, reached⟩, hok, hrest⟩ := bind_eq_ok_iff.mp hbind
  have hfewer := htakes hok
  have hfewest := hsecond found hrest
  have hsame : middle.remaining = room := by omega
  exact htail found (hstill hremaining hsame hok) hsame hleft hrest

/-- What is made of a value has a property that follows from the value's own. -/
theorem Still.map {result : β → Prop} (htakes : Takes read 0) (hstill : Still read room property)
    {f : α → β} (h : ∀ value, property value → result (f value)) :
    Still (read >>= fun value => pure (f value)) room result :=
  hstill.bind htakes (fun _ => takes_pure _) fun value hholds => still_pure (h value hholds)

/-- If several elements are read without taking a byte, then one is. -/
theorem Still.readMany {fact : Prop} (htakes : Takes read 0)
    (hstill : Still read room fun _ => fact)
    (count : Nat) : Still (readMany read count) room fun _ => count = 0 ∨ fact := by
  cases count with
  | zero => exact still_pure (Or.inl rfl)
  | succ count =>
      have hothers (first : α) : Takes (CallStream.readMany read count >>= fun others =>
          pure (first :: others)) 0 :=
        (htakes.readMany count).zero.andThen fun _ => takes_pure _
      intro cursor after state last values hremaining hleft hreadMany
      obtain ⟨first, ⟨middle, reached⟩, hok, hbind⟩ := bind_eq_ok_iff.mp hreadMany
      have hfewer := htakes hok
      have hfewest := hothers first hbind
      exact Or.inr (hstill hremaining (by omega) hok)

end Decoding

section Still

open Decoding Cursor

variable {σ ε : Type} (mapper : HandleMapper σ ε) (mapping : HandleMapping) (room : Nat)

/-- Checking that there is room takes no byte. -/
theorem takes_requireRoom (type : FieldType) (count : Nat) :
    Takes (onCursor (requireRoom type count) : Decoding σ ε Unit) 0 :=
  takes_onCursor fun hrequireRoom =>
    Nat.le_of_eq (congrArg remaining (remaining_of_requireRoom hrequireRoom))

/-- An array that is read without taking a byte is empty, or its elements are. -/
theorem still_decodeElements {field : String} {type : FieldType} (count : Nat)
    (helement : Still (decodeElement mapper mapping field type) room
      fun value => type.readsEmpty room = true ∧ value.Countless) :
    Still (decodeElements mapper mapping field type (some count)) room fun value =>
      (count = 0 ∨ type.readsEmpty room = true ∧ (type.hasSize = true → count ≤ room)) ∧
        value.Countless := by
  -- The count was within the room, if the reader took the elements to have a size.
  have hstill : Still (onCursor (requireRoom type count) : Decoding σ ε Unit) room
      fun _ => type.hasSize = true → count ≤ room := by
    intro cursor after state last value hremaining hleft hok hsized
    obtain ⟨hrequireRoom, -⟩ := onCursor_eq_ok_iff.mp hok
    refine Nat.le_of_not_lt fun hlt => ?_
    rw [requireRoom, hremaining, hsized, Bool.and_true, if_pos (decide_eq_true hlt)] at hrequireRoom
    cases hrequireRoom
  have htakes := (takes_decodeElement mapper mapping field type).zero
  have helements : Still (readMany (decodeElement mapper mapping field type) count) room
      fun _ => count = 0 ∨ type.readsEmpty room = true :=
    Still.readMany htakes (fun _ _ _ _ _ hremaining hleft hok => (helement hremaining hleft hok).1)
      count
  have hmany : Takes (readMany (decodeElement mapper mapping field type) count) 0 :=
    (htakes.readMany count).zero
  refine hstill.bind (takes_requireRoom type count)
    (fun _ => hmany.andThen fun _ => takes_pure _) fun _ hfits =>
      helements.map hmany fun values hempty => ⟨?_, Value.countless_array values⟩
  exact hempty.imp_right fun hempty => ⟨hempty, hfits⟩

mutual

/-- An element that is read without taking a byte is of a type that reads as empty. -/
theorem still_decodeElement (field : String) : (type : FieldType) →
    Still (decodeElement mapper mapping field type) room
      fun value => type.readsEmpty room = true ∧ value.Countless
  | .int type =>
      still_of_takes (takes_decodeElement mapper mapping field (.int type))
        (by rw [FieldType.minSize]; cases type.width <;> decide)
  | .float32 =>
      still_of_takes (takes_decodeElement mapper mapping field .float32) (Nat.succ_pos _)
  | .enum table =>
      still_of_takes (takes_decodeElement mapper mapping field (.enum table)) (Nat.succ_pos _)
  | .flags table =>
      still_of_takes (takes_decodeElement mapper mapping field (.flags table)) (Nat.succ_pos _)
  | .handle type =>
      still_of_takes (takes_decodeElement mapper mapping field (.handle type)) (Nat.succ_pos _)
  | .text encoding => by
      -- The one leaf without a byte is a text of fixed length zero.
      by_cases hnone : encoding = .fixed 0
      · subst hnone
        have hstill : Still (onCursor (readText (.fixed 0) field) : Decoding σ ε String) room
            fun _ => True := fun _ _ _ _ _ _ _ _ => trivial
        exact hstill.map (takes_onCursor remaining_of_readText).zero
          fun content _ => ⟨rfl, Value.countless_text content⟩
      · refine still_of_takes (takes_decodeElement mapper mapping field (.text encoding)) ?_
        cases encoding with
        | fixed size =>
            exact Nat.pos_of_ne_zero fun hminSize => hnone (congrArg TextEncoding.fixed hminSize)
        | terminated | lengthPrefixed => exact Nat.succ_pos _
  | .struct schema =>
      (still_decodeStruct schema).map (takes_decodeStruct mapper mapping schema).zero
        fun _ ⟨hempty, hcountless⟩ => ⟨hempty, Value.countless_struct hcountless⟩
termination_by structural type => type

/-- A structure that was read with nothing could be read so, and has no numbers that count. -/
theorem still_decodeStruct : (schema : StructSchema) →
    Still (decodeStruct mapper mapping schema) room
      fun record => schema.readsEmpty room = true ∧ record.Countless
  | ⟨name, tag, fields⟩ => by
      have hheader : Still (onCursor (readStructHeader name tag) : Decoding σ ε Unit) room
          fun _ => tag.isNone = true := by
        intro cursor after state last value hremaining hleft hok
        have hle := remaining_of_readStructHeader (onCursor_eq_ok_iff.mp hok).1
        cases tag with
        | none => rfl
        | some expected =>
            simp only [Option.isSome_some, if_true] at hle
            omega
      refine hheader.bind (takes_onCursor remaining_of_readStructHeader).zero
        (fun _ => (takes_decodeFields mapper mapping fields []).zero) fun _ huntagged => ?_
      intro cursor after state last record hremaining hleft hok
      obtain ⟨hempty, hcountless⟩ :=
        still_decodeFields fields [] Record.countless_nil hremaining hleft hok
      refine ⟨?_, hcountless⟩
      rw [StructSchema.readsEmpty, huntagged, hempty]
      rfl
termination_by structural schema => schema

/-- A field that was read with nothing could be read so, if nothing before it counts. A number, a
sentinel or a length would have taken bytes. -/
theorem still_decodeField : (spec : FieldSpec) → (scope : Record) → scope.Countless →
    Still (decodeField mapper mapping spec scope) room
      fun value => spec.readsEmpty room = true ∧ value.Countless
  | ⟨name, type, isOptional, count⟩, scope, hcountless => by
      have helement := still_decodeElement name type
      cases isOptional with
      | true =>
          exact still_of_takes (takes_decodeField mapper mapping ⟨name, type, true, count⟩ scope)
            (Nat.succ_pos _)
      | false =>
          rw [decodeField_of_required rfl, decodeContent_eq]
          cases count with
          | one =>
              simp only [FieldSpec.elementCount, FieldSpec.readsEmpty, Bool.not_false,
                Bool.true_and]
              exact helement
          | fixed count =>
              intro cursor after state last value hremaining hleft hok
              obtain ⟨hempty, hplain⟩ :=
                still_decodeElements mapper mapping room count helement hremaining
                  hleft hok
              refine ⟨?_, hplain⟩
              simp only [FieldSpec.readsEmpty, Bool.not_false, Bool.true_and, Bool.or_eq_true,
                beq_iff_eq, Bool.and_eq_true, Bool.not_eq_true', decide_eq_true_eq]
              refine hempty.imp_right (And.imp_right fun hfits => ?_)
              cases hsized : type.hasSize with
              | true => exact Or.inr (hfits hsized)
              | false => exact Or.inl rfl
          | field path divisor =>
              rw [elementCount_of_countless rfl hcountless]
              exact still_throw _
termination_by structural spec => spec

/-- So it is for fields one after another: what was read of the first ones counts nothing for the
later ones. -/
theorem still_decodeFields : (fields : List FieldSpec) → (decoded : Record) → decoded.Countless →
    Still (decodeFields mapper mapping fields decoded) room
      fun record => FieldSpec.allReadEmpty room fields = true ∧ record.Countless
  | [], decoded, hcountless => still_pure ⟨rfl, hcountless⟩
  | spec :: rest, decoded, hcountless => by
      refine (still_decodeField spec decoded hcountless).bind
        (takes_decodeField mapper mapping spec decoded).zero
        (fun value => (takes_decodeFields mapper mapping rest _).zero)
        fun value ⟨hreadsEmpty, hplain⟩ => ?_
      intro cursor after state last record hremaining hleft hok
      obtain ⟨hallReadEmpty, hwhole⟩ :=
  still_decodeFields rest _ (hcountless.concat hplain) hremaining hleft hok
      refine ⟨?_, hwhole⟩
      rw [FieldSpec.allReadEmpty, hreadsEmpty, hallReadEmpty]
      rfl
termination_by structural fields => fields

end

end Still

/-! ### Refused counts -/

/-- The reader comes to the elements of an array, `count` in number, with fewer bytes than that
ahead, and takes them to have a size. -/
structure Refused (ε : Type) (spec : FieldSpec) (scope : Record) (cursor ahead : Cursor)
    (count : Nat) : Prop where
  /-- The sentinel is read, if there is one. -/
  reached : if spec.isOptional then Cursor.readSentinel (ε := ε) cursor = .ok true ahead
    else ahead = cursor
  counted : spec.elementCount (ε := ε) scope = .ok (some count)
  short : ahead.remaining < count
  sized : spec.type.hasSize = true

section Refused

open Decoding Cursor

variable {σ ε : Type} (mapper : HandleMapper σ ε) (mapping : HandleMapping)

/-- If more elements are read than there are bytes, their type reads as empty: the first one that
takes nothing shows it. -/
theorem readsEmpty_of_readMany {field : String} {type : FieldType} {count : Nat}
    {cursor after : Cursor} {state last : σ} {values : List Value}
    (hlt : cursor.remaining < count)
    (h : readMany (decodeElement mapper mapping field type) count (cursor, state)
      = .ok values (after, last)) : type.readsEmpty cursor.remaining = true := by
  induction count generalizing cursor after state last values with
  | zero => exact absurd hlt (Nat.not_lt_zero _)
  | succ count ih =>
      obtain ⟨first, ⟨middle, reached⟩, hdecodeElement, hbind⟩ := bind_eq_ok_iff.mp h
      obtain ⟨others, ⟨final, ended⟩, hreadMany, -⟩ := bind_eq_ok_iff.mp hbind
      have hfewer := (takes_decodeElement mapper mapping field type).zero hdecodeElement
      rcases Nat.lt_or_ge middle.remaining cursor.remaining with htaken | hge
      · have hstill : middle.remaining < count := by omega
        exact FieldType.readsEmpty_mono (Nat.le_of_lt htaken) type (ih hstill hreadMany)
      · exact (still_decodeElement mapper mapping cursor.remaining field type rfl (by omega)
          hdecodeElement).1

/-- Elements of a type that reads as empty are all read, however many. -/
theorem isOk_readMany_of_readsEmpty {field : String} {type : FieldType} {cursor : Cursor}
    (h : type.readsEmpty cursor.remaining = true) (count : Nat) (state : σ) :
    isOk (readMany (decodeElement mapper mapping field type) count (cursor, state)) = true := by
  obtain ⟨value, hempties⟩ := empties_decodeElement mapper mapping cursor.remaining field type h
  rw [hempties.readMany count cursor state rfl]
  rfl

/-- The refusal itself: the count is reported in place of the bytes that are missing, and no element
is read. -/
theorem decodeField_eq_error {spec : FieldSpec} {scope : Record} {cursor ahead : Cursor}
    {count : Nat} (h : Refused ε spec scope cursor ahead count) (state : σ) :
    decodeField mapper mapping spec scope (cursor, state)
      = .error (.unexpectedEnd ahead.position count ahead.remaining) (ahead, state) := by
  have hcontent : decodeContent mapper mapping spec scope (ahead, state)
      = .error (.unexpectedEnd ahead.position count ahead.remaining) (ahead, state) := by
    have hrequireRoom : requireRoom (ε := ε) spec.type count ahead
        = .error (.unexpectedEnd ahead.position count ahead.remaining) ahead := by
      rw [requireRoom, h.sized, Bool.and_true, if_pos (decide_eq_true h.short)]
    rw [decodeContent_eq, h.counted]
    exact bind_of_error (onCursor_of_error hrequireRoom state)
  have hbranch := h.reached
  cases hoptional : spec.isOptional with
  | false =>
      simp only [hoptional, Bool.false_eq_true, if_false] at hbranch
      rw [decodeField_of_required hoptional, ← hbranch, hcontent]
  | true =>
      simp only [hoptional, if_true] at hbranch
      rw [decodeField_of_optional hoptional, bind_of_ok (onCursor_of_ok hbranch state), if_pos rfl,
        hcontent]

/-- When a count is refused, whether its elements could have been read one after another depends on
their type alone: they could if and only if it reads as empty with the bytes ahead. -/
theorem decodeField_of_refused {spec : FieldSpec} {scope : Record} {cursor ahead : Cursor}
    {count : Nat} (h : Refused ε spec scope cursor ahead count) (state : σ) :
    decodeField mapper mapping spec scope (cursor, state)
        = .error (.unexpectedEnd ahead.position count ahead.remaining) (ahead, state) ∧
      (isOk (readMany (decodeElement mapper mapping spec.name spec.type) count (ahead, state))
          = true ↔ spec.type.readsEmpty ahead.remaining = true) := by
  refine ⟨decodeField_eq_error mapper mapping h state, fun hread => ?_,
    fun hreadsEmpty => isOk_readMany_of_readsEmpty mapper mapping hreadsEmpty count state⟩
  obtain ⟨values, ⟨after, last⟩, hread⟩ := exists_of_isOk hread
  exact readsEmpty_of_readMany mapper mapping h.short hread

/-- In a well laid layout, as that of every call is, the elements that the reader takes to have a
size have one, so a count that is refused could never be satisfied. -/
theorem isOk_readMany_of_placed {spec : FieldSpec} {earlier : List FieldSpec} {scope : Record}
    {cursor ahead : Cursor} {count : Nat} (hplaced : spec.Placed earlier)
    (h : Refused ε spec scope cursor ahead count) (state : σ) :
    isOk (readMany (decodeElement mapper mapping spec.name spec.type) count (ahead, state))
      = false := by
  refine Bool.eq_false_iff.mpr fun hread => ?_
  obtain ⟨values, ⟨after, last⟩, hread⟩ := exists_of_isOk hread
  have hreadsEmpty := readsEmpty_of_readMany mapper mapping h.short hread
  obtain ⟨value, hnothing⟩ :=
    empties_decodeElement mapper mapping ahead.remaining spec.name spec.type hreadsEmpty
  have hle := takes_decodeElement mapper mapping spec.name spec.type (hnothing ahead state rfl)
  have harray : spec.count ≠ .one := fun hsingle => by
    have huncounted : spec.elementCount (ε := ε) scope = .ok none :=
      FieldSpec.elementCount_eq_none_iff.mpr hsingle
    cases h.counted.symm.trans huncounted
  have hlt := hplaced.takesRoom harray h.sized
  omega

end Refused

/-- Three words are announced and two bytes are there. -/
theorem decodeField_of_refused_words :
    Refused Empty ((FieldSpec.u32 "words").times 3) [] ⟨0, [1, 2]⟩ ⟨0, [1, 2]⟩ 3 ∧
      decodeField (.identity : HandleMapper Unit Empty) .disabled
          ((FieldSpec.u32 "words").times 3) [] (⟨0, [1, 2]⟩, ())
        = .error (.unexpectedEnd 0 3 2) (⟨0, [1, 2]⟩, ()) ∧
      isOk (readMany (decodeElement (.identity : HandleMapper Unit Empty) .disabled "words"
        (.int .u32)) 3 (⟨0, [1, 2]⟩, ())) ≠ true := by
  have hrefused : Refused Empty ((FieldSpec.u32 "words").times 3) [] ⟨0, [1, 2]⟩ ⟨0, [1, 2]⟩ 3 :=
    ⟨rfl, rfl, by decide, rfl⟩
  obtain ⟨hdecodeField, hiff⟩ := decodeField_of_refused .identity .disabled hrefused ()
  exact ⟨hrefused, hdecodeField, fun hisOk => absurd (hiff.mp hisOk) (by decide)⟩

/-- One structure whose only member is a structure without members. -/
def hollowItems : FieldSpec :=
  (FieldSpec.struct "items" ⟨"Outer", none, [.struct "inner" ⟨"Inner", none, []⟩]⟩).times 1

/-- It takes no bytes, and is refused when there are none. -/
theorem readable_hollowItems :
    decodeField (.identity : HandleMapper Unit Empty) .disabled hollowItems [] (⟨0, []⟩, ())
        = .error (.unexpectedEnd 0 1 0) (⟨0, []⟩, ()) ∧
      ¬ ∀ (spec : FieldSpec) (scope : Record) (cursor ahead : Cursor) (count : Nat),
        Refused Empty spec scope cursor ahead count →
          isOk (readMany (decodeElement (.identity : HandleMapper Unit Empty) .disabled spec.name
            spec.type) count (ahead, ())) = false := by
  refine ⟨rfl, fun hnever => ?_⟩
  have hrefused : Refused Empty hollowItems [] ⟨0, []⟩ ⟨0, []⟩ 1 := ⟨rfl, rfl, by decide, rfl⟩
  exact absurd (hnever hollowItems [] _ _ 1 hrefused) (by decide)

end CallStream
