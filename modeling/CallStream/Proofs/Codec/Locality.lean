import CallStream.Proofs.Codec.Respelling

/-!
# A read sees only what it takes

Whatever a reader takes off a payload, it takes off every payload that starts with the same bytes,
and gives the same value: it looks neither behind these bytes nor at where they lie. So a part of a
payload that was read can be cut out, put behind something else and read again.

The one step that looks ahead is the check that an array has room. It is made before the elements
are read, and these take a byte each, so the check passes wherever the elements can be read.

The values read before a field matter to it only where they count it. Where a name counts nothing,
the value of that name can be left out.

## Main results

* `repeats_decodeFields`: fields that were read are read again from the bytes that they took.
* `decodeFields_leaves_out`: a value that counts nothing may be missing among those read before.
-/

namespace CallStream

open Decoding Cursor

variable {σ τ ε δ α β : Type}

/-- Whatever `read` takes off a payload, `copy` takes off every payload that starts with the same
bytes, and gives the same value. -/
def Repeats (read : Decoding σ ε α) (copy : Decoding τ δ α) : Prop :=
  ∀ ⦃before after : Cursor × σ⦄ ⦃value : α⦄, read before = .ok value after →
    ∃ taken, before.1.Passes taken after.1 ∧ Reads copy taken value

/-! ### Chains of reads -/

/-- A value that is not read repeats itself. -/
theorem repeats_pure (value : α) : Repeats (pure value : Decoding σ ε α)
    (pure value : Decoding τ δ α) := by
  intro before after result h
  obtain ⟨rfl, rfl⟩ := pure_eq_ok_iff.mp h
  exact ⟨[], .refl _, reads_pure _⟩

/-- A read that fails takes nothing. -/
theorem repeats_throw (cause : WireError ε) (copy : Decoding τ δ α) :
    Repeats (throw cause : Decoding σ ε α) copy := by
  intro before after result h
  cases h

/-- Reads one after the other repeat themselves, if each of them does. -/
theorem Repeats.bind {read : Decoding σ ε α} {copy : Decoding τ δ α} {next : α → Decoding σ ε β}
    {copyNext : α → Decoding τ δ β} (hrepeats : Repeats read copy)
    (htail : ∀ value, Repeats (next value) (copyNext value)) :
    Repeats (read >>= next) (copy >>= copyNext) := by
  intro before after result h
  obtain ⟨value, middle, hok, hrest⟩ := bind_eq_ok_iff.mp h
  obtain ⟨taken, hpasses, hreads⟩ := hrepeats hok
  obtain ⟨more, hgoesOn, hothers⟩ := htail value hrest
  exact ⟨taken ++ more, hpasses.trans hgoesOn, hreads.bind hothers⟩

/-- What is made of a value repeats itself if the value does. -/
theorem Repeats.map {read : Decoding σ ε α} {copy : Decoding τ δ α} (h : Repeats read copy)
    (f : α → β) : Repeats (read >>= fun value => pure (f value))
    (copy >>= fun value => pure (f value)) :=
  h.bind fun value => repeats_pure (f value)

/-- So does a read that is repeated. -/
theorem Repeats.readMany {read : Decoding σ ε α} {copy : Decoding τ δ α}
    (hrepeats : Repeats read copy)
    (count : Nat) : Repeats (readMany read count) (readMany copy count) := by
  induction count with
  | zero => exact repeats_pure []
  | succ count ih => exact hrepeats.bind fun first => ih.map (first :: ·)

/-! ### Reads of the payload -/

/-- Bytes are read alike wherever they lie and whatever follows them. -/
theorem repeats_readBytes (count : Nat) :
    Repeats (onCursor (readBytes count) : Decoding σ ε Bytes)
      (onCursor (readBytes count) : Decoding τ δ Bytes) := by
  rintro ⟨cursor, state⟩ ⟨after, last⟩ bytes h
  obtain ⟨rfl, hpasses⟩ := passes_of_readBytes (onCursor_eq_ok_iff.mp h).1
  exact ⟨bytes, hpasses, reads_onCursor fun position suffix => readBytes_append bytes
    suffix position⟩

/-- So are numbers. -/
theorem repeats_readUInt (type : IntType) :
    Repeats (onCursor (readUInt type) : Decoding σ ε UInt64)
      (onCursor (readUInt type) : Decoding τ δ UInt64) := by
  simp only [readUInt, onCursor_bind]
  exact (repeats_readBytes _).bind fun bytes => repeats_pure (type.decode bytes)

/-- So are numbers with a sign. -/
theorem repeats_readSInt (type : IntType) :
    Repeats (onCursor (readSInt type) : Decoding σ ε Int64)
      (onCursor (readSInt type) : Decoding τ δ Int64) := by
  simp only [readSInt, onCursor_bind]
  exact (repeats_readUInt type).bind fun word => repeats_pure _

/-- So are words. -/
theorem repeats_readU32 :
    Repeats (onCursor readU32 : Decoding σ ε UInt32) (onCursor readU32 : Decoding τ δ UInt32) := by
  simp only [readU32, onCursor_bind]
  exact (repeats_readUInt .u32).bind fun word => repeats_pure _

/-- So are sentinels. -/
theorem repeats_readSentinel :
    Repeats (onCursor readSentinel : Decoding σ ε Bool)
      (onCursor readSentinel : Decoding τ δ Bool) := by
  simp only [readSentinel, onCursor_bind]
  exact (repeats_readUInt sentinel).bind fun word => repeats_pure _

/-- A text behind its length ends where the length says. -/
theorem repeats_readText (field : String) :
    Repeats (onCursor (readText .lengthPrefixed field) : Decoding σ ε String)
      (onCursor (readText .lengthPrefixed field) : Decoding τ δ String) := by
  simp only [readText, readTextBytes, readLengthPrefixed, onCursor_bind, bind_assoc]
  refine (repeats_readUInt _).bind fun length => (repeats_readBytes _).bind fun bytes => ?_
  cases Bytes.toText? bytes with
  | none => exact repeats_throw _ _
  | some text => exact repeats_pure text

/-- Where a structure has extensions, nothing is read. -/
theorem repeats_readStructHeader (schema : String) (tag : Option UInt32) :
    Repeats (onCursor (readStructHeader schema tag) : Decoding σ ε Unit)
      (onCursor (readStructHeader schema tag) : Decoding τ δ Unit) := by
  rintro ⟨cursor, state⟩ ⟨after, last⟩ ⟨⟩ h
  exact ⟨_, passes_of_readStructHeader (onCursor_eq_ok_iff.mp h).1,
    reads_readStructHeader schema tag⟩

/-! ### Fields -/

section Fields

variable (mapping mapping' : HandleMapping)

/-- What lies behind a sentinel is read again, if its elements are. -/
theorem repeats_decodeContent {spec : FieldSpec} {earlier : List FieldSpec}
    (hplaced : spec.Placed earlier)
    (helement : Repeats
      (decodeElement (HandleMapper.identity (σ := σ) (ε := ε)) mapping spec.name spec.type)
      (decodeElement (HandleMapper.identity (σ := τ) (ε := δ)) mapping' spec.name spec.type))
    (scope : Record) :
    Repeats (decodeContent (HandleMapper.identity (σ := σ) (ε := ε)) mapping spec scope)
      (decodeContent (HandleMapper.identity (σ := τ) (ε := δ)) mapping' spec scope) := by
  intro before after value h
  unfold decodeContent at h ⊢
  cases helementCount : spec.elementCount (ε := ε) scope with
  | error cause =>
      rw [helementCount] at h
      cases h
  | ok count =>
      have hsame := FieldSpec.elementCount_append (δ := δ) helementCount []
      rw [List.append_nil] at hsame
      rw [helementCount] at h
      rw [hsame]
      cases count with
      | none => exact helement h
      | some count =>
          obtain ⟨_, ⟨reached, state⟩, hroom, h⟩ := bind_eq_ok_iff.mp h
          obtain ⟨elements, middle, hmany, hpure⟩ := bind_eq_ok_iff.mp h
          obtain ⟨rfl, rfl⟩ := pure_eq_ok_iff.mp hpure
          obtain ⟨hrequireRoom, rfl⟩ := onCursor_eq_ok_iff.mp hroom
          obtain rfl := remaining_of_requireRoom hrequireRoom
          -- The elements take their bytes, so there is room for them wherever these bytes stand.
          obtain ⟨taken, hpasses, hreads⟩ := helement.readMany count hmany
          have harray : spec.count ≠ .one := FieldSpec.count_ne_one helementCount
          exact ⟨taken, hpasses, reads_decodeElements mapping'
            (takes_decodeElement _ mapping' spec.name spec.type) (hplaced.takesRoom harray) hreads⟩

mutual

/-- An element is read again from the bytes that it took. -/
theorem repeats_decodeElement (field : String) : (type : FieldType) → type.wellLaid = true →
    Repeats (decodeElement (HandleMapper.identity (σ := σ) (ε := ε)) mapping field type)
      (decodeElement (HandleMapper.identity (σ := τ) (ε := δ)) mapping' field type)
  | .int type, _ => by
      unfold decodeElement
      split
      · exact (repeats_readSInt type).map Value.sint
      · exact (repeats_readUInt type).map Value.uint
  | .float32, _ => repeats_readU32.map Value.float
  | .enum _, _ => repeats_readU32.map Value.enum
  | .flags _, _ => repeats_readU32.map Value.flags
  | .handle type, _ => by
      rw [decodeElement_handle, decodeElement_handle]
      exact (repeats_readUInt .u64).map Value.handle
  | .text encoding, hlaid => by
      simp only [FieldType.wellLaid, beq_iff_eq] at hlaid
      subst hlaid
      exact (repeats_readText field).map Value.text
  | .struct schema, hlaid => (repeats_decodeStruct schema hlaid).map Value.struct
termination_by structural type => type

/-- So is a structure. -/
theorem repeats_decodeStruct : (schema : StructSchema) → schema.wellLaid = true →
    Repeats (decodeStruct (HandleMapper.identity (σ := σ) (ε := ε)) mapping schema)
      (decodeStruct (HandleMapper.identity (σ := τ) (ε := δ)) mapping' schema)
  | ⟨name, tag, fields⟩, hlaid =>
      (repeats_readStructHeader name tag).bind fun _ => repeats_decodeFields fields [] hlaid []
termination_by structural schema => schema

/-- So is a field, behind the same values. -/
theorem repeats_decodeField : (spec : FieldSpec) → (earlier : List FieldSpec) →
    spec.Placed earlier → (scope : Record) →
    Repeats (decodeField (HandleMapper.identity (σ := σ) (ε := ε)) mapping spec scope)
      (decodeField (HandleMapper.identity (σ := τ) (ε := δ)) mapping' spec scope)
  | ⟨name, type, isOptional, count⟩, earlier, hplaced, scope => by
      have hcontent := repeats_decodeContent mapping mapping' hplaced
        (repeats_decodeElement name type hplaced.type_wellLaid) scope
      cases isOptional with
      | false =>
          rw [decodeField_of_required rfl, decodeField_of_required rfl]
          exact hcontent
      | true =>
          rw [decodeField_of_optional rfl, decodeField_of_optional rfl]
          refine repeats_readSentinel.bind fun present => ?_
          cases present with
          | true => exact hcontent
          | false => exact repeats_pure Value.absent
termination_by structural spec => spec

/-- So are fields, one behind the other. -/
theorem repeats_decodeFields : (fields earlier : List FieldSpec) →
    FieldSpec.allWellLaid fields earlier = true → (scope : Record) →
    Repeats (decodeFields (HandleMapper.identity (σ := σ) (ε := ε)) mapping fields scope)
      (decodeFields (HandleMapper.identity (σ := τ) (ε := δ)) mapping' fields scope)
  | [], _, _, scope => repeats_pure scope
  | spec :: rest, earlier, hlaid, scope => by
      simp only [FieldSpec.allWellLaid, Bool.and_eq_true] at hlaid
      exact (repeats_decodeField spec earlier (FieldSpec.placed_of_wellLaid hlaid.1) scope).bind
        fun value => repeats_decodeFields rest (earlier ++ [spec]) hlaid.2 _
termination_by structural fields => fields

end

end Fields

/-! ### Values that count nothing -/

/-- Whether the number of elements of a field is found without a value of a name. -/
def FieldSpec.ignores (name : String) (spec : FieldSpec) : Bool :=
  match spec.count with
  | .field (first :: _) _ => first != name
  | _ => true

/-- A path that starts with another name leads past a value in front. -/
theorem Record.resolve?_cons_of_ne {name first : String} (hne : first ≠ name) (value : Value)
    (scope : Record) (path : List String) :
    Record.resolve? ((name, value) :: scope) (first :: path) = scope.resolve? (first :: path) := by
  have hmissed : Record.get? ((name, value) :: scope) first = Record.get? scope first := by
    rw [Record.get?, List.lookup_cons, beq_false_of_ne hne, Record.get?]
  cases path with
  | nil => exact hmissed
  | cons inner path => simp only [Record.resolve?, hmissed]

/-- A value under a name that the field ignores does not count it. -/
theorem FieldSpec.elementCount_cons {spec : FieldSpec} {name : String}
    (hignored : spec.ignores name = true) (value : Value) (scope : Record) :
    spec.elementCount (ε := ε) ((name, value) :: scope) = spec.elementCount scope := by
  unfold ignores at hignored
  unfold elementCount
  split at hignored
  · next first path divisor hcount =>
      rw [hcount]
      dsimp only
      rw [Record.resolve?_cons_of_ne (bne_iff_ne.mp hignored)]
  · next hothers =>
      rcases hcount : spec.count with _ | ⟨_ | ⟨first, path⟩, divisor⟩ | _
      · rfl
      · rfl
      · exact absurd hcount (hothers first path divisor)
      · rfl

/-- So it makes no difference to reading the field. -/
theorem decodeField_cons {mapper : HandleMapper σ ε} {mapping : HandleMapping} {spec : FieldSpec}
    {name : String} (hignored : spec.ignores name = true) (value : Value) (scope : Record) :
    decodeField mapper mapping spec ((name, value) :: scope)
      = decodeField mapper mapping spec scope := by
  obtain ⟨field, type, isOptional, count⟩ := spec
  simp only [decodeField, FieldSpec.elementCount_cons hignored]

/-- A value that counts nothing may be missing among those read before. -/
theorem decodeFields_leaves_out (mapper : HandleMapper σ ε) (mapping : HandleMapping)
    {fields : List FieldSpec} {name : String} (hignored : ∀ spec ∈ fields, spec.ignores name = true)
    (value : Value) (scope : Record) :
    decodeFields mapper mapping fields ((name, value) :: scope)
      = decodeFields mapper mapping fields scope >>= fun record =>
        pure ((name, value) :: record) := by
  induction fields generalizing scope with
  | nil => rfl
  | cons spec rest ih =>
      obtain ⟨hignores, hothers⟩ := List.forall_mem_cons.mp hignored
      simp only [decodeFields, decodeField_cons hignores, List.cons_append, ih hothers, bind_assoc]

end CallStream
