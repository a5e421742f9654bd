import CallStream.Proofs.Codec.Typing
import CallStream.Proofs.Codec.Writing

/-!
# Reading back what was written

Whatever record a call was written from, the bytes are read back whole, whatever follows them, and
the record read is the canonical form of the one written. Writing it again gives the same bytes.

The induction runs over the layout. It carries the fields read so far: the reader's scope is the
canonical form of the whole record on those fields, which is where `elementCount_canonical` finds
the counts. The check of a count against the bytes ahead never refuses what was written, since every
element takes at least `minSize` bytes.

## Main results

* `reads_encodeFields`: fields that were written are read back in their canonical form.
* `encodeFields_canonicalFields`: the canonical form is written to the same bytes.
* `decodeParams_encodeParams`: both, for the parameters of a call.
-/

namespace CallStream

open Decoding Cursor Emission

variable {σ ε : Type}

/-! ### Leaves -/

/-- Of the bytes of a number its residue is read, without a sign. -/
theorem reads_readUInt (type : IntType) (word : UInt64) :
    Reads (onCursor (readUInt type) : Decoding σ ε UInt64) (type.encode word)
      (type.decode (type.encode word)) :=
  reads_onCursor fun position suffix => by
    rw [readUInt_encode, IntType.length_encode]

/-- And with one. -/
theorem reads_readSInt (type : IntType) (word : UInt64) :
    Reads (onCursor (readSInt type) : Decoding σ ε Int64) (type.encode word)
      (IntType.signExtend type.width (type.decode (type.encode word))) :=
  reads_onCursor fun position suffix => by
    rw [readSInt_encode, IntType.length_encode]

/-- A word that was written is read again. -/
theorem readU32_encode (word : UInt32) (suffix : Bytes) (position : Nat) :
    readU32 (ε := ε) ⟨position, IntType.u32.encode word.toUInt64 ++ suffix⟩
      = .ok word ⟨position + 4, suffix⟩ := by
  have hfits : word.toUInt64.toNat < IntType.u32.width.capacity := word.toNat_lt
  rw [readU32, bind_of_ok (readUInt_encode .u32 word.toUInt64 suffix position),
    IntType.decode_encode_of_lt hfits, UInt32.toUInt32_toUInt64]
  rfl

/-- So it is beside a mapper's state. -/
theorem reads_readU32 (word : UInt32) :
    Reads (onCursor readU32 : Decoding σ ε UInt32) (IntType.u32.encode word.toUInt64) word :=
  reads_onCursor fun position suffix => by
    rw [readU32_encode, IntType.length_encode]
    rfl

/-- A double word needs no residue. -/
theorem reads_readU64 (word : UInt64) :
    Reads (onCursor readU64 : Decoding σ ε UInt64) (IntType.u64.encode word) word := by
  have hreads := reads_readUInt (σ := σ) (ε := ε) .u64 word
  rwa [IntType.decode_encode_of_lt word.toNat_lt] at hreads

/-- A sentinel is read as it was written. -/
theorem reads_readSentinel (present : Bool) :
    Reads (onCursor readSentinel : Decoding σ ε Bool) (encodeSentinel present) present :=
  reads_onCursor fun position suffix => by
    rw [readSentinel_encode, encodeSentinel, IntType.length_encode]
    rfl

/-- So is a text whose length fits a word. -/
theorem reads_readText {text : String} (hfits : (Bytes.ofText text).length < UInt32.size)
    (field : String) :
    Reads (onCursor (readText .lengthPrefixed field) : Decoding σ ε String)
      (TextEncoding.lengthPrefixed.encode text) text :=
  reads_onCursor fun position suffix => by
    rw [readText_lengthPrefixed text field suffix position hfits, TextEncoding.encode,
      List.length_append, IntType.length_encode, Nat.add_assoc]
    rfl

/-- A header is read back by whoever expects its tag. -/
theorem reads_readStructHeader (schema : String) (tag : Option UInt32) :
    Reads (onCursor (readStructHeader schema tag) : Decoding σ ε Unit)
    (encodeStructHeader tag) () :=
  reads_onCursor fun position suffix => by
    cases tag with
    | none => rfl
    | some tag =>
        have hnoExtensions : IntType.length32.decode (IntType.length32.encode 0) = 0 := by decide
        simp only [encodeStructHeader, readStructHeader, List.append_assoc, List.length_append,
          IntType.length_encode]
        rw [bind_of_ok (readU32_encode tag _ position)]
        simp only [bne_self_eq_false, Bool.false_eq_true, if_false]
        rw [bind_of_ok (readUInt_encode .length32 0 suffix _), hnoExtensions]
        rfl

/-- An integer is read back as its field stores it. -/
theorem reads_int (mapper : HandleMapper σ ε) (mapping : HandleMapping) (field : String)
    (type : IntType) (word : UInt64) :
    Reads (decodeElement mapper mapping field (.int type)) (type.encode word)
      (type.stored word) := by
  unfold decodeElement IntType.stored
  split
  · exact (reads_readSInt type word).map Value.sint
  · exact (reads_readUInt type word).map Value.uint

/-- An integer as its field stores it is written to the same bytes. -/
theorem encodeElement_stored (field : String) (type : IntType) (word : UInt64) :
    encodeElement field (.int type) (type.stored word) = done (type.encode word) := by
  unfold IntType.stored
  split
  · exact congrArg done (type.encode_signExtend_decode_encode word)
  · exact congrArg done (type.encode_decode_encode word)

/-- A handle that stands for itself is read back as it was. -/
theorem reads_handle (mapping : HandleMapping) (field : String) (type : HandleType)
    (word : UInt64) :
    Reads (decodeElement (HandleMapper.identity (σ := σ) (ε := ε)) mapping field (.handle type))
      (IntType.u64.encode word) (.handle word) := by
  intro position suffix state
  unfold decodeElement
  rw [bind_of_ok (reads_readU64 word position suffix state)]
  rfl

/-! ### Reading back -/

section Reading

variable (mapping : HandleMapping)

/-- An array is read back if its elements are. An element takes `size` bytes at least, so there is
room for all of them. -/
theorem reads_decodeElements {mapper : HandleMapper σ ε} {field : String} {type : FieldType}
    {size : Nat} (hleast : Takes (decodeElement mapper mapping field type) size)
    (hroom : type.hasSize = true → 0 < size) {count : Nat} {bytes : Bytes} {elements : List Value}
    (hmany : Reads (readMany (decodeElement mapper mapping field type) count) bytes elements) :
    Reads (decodeElements mapper mapping field type (some count)) bytes (.array elements) := by
  intro position suffix state
  have hrequireRoom : requireRoom (ε := ε) type count ⟨position, bytes ++ suffix⟩ = .ok () _ :=
    requireRoom_of_le fun hsized => by
      have hle := hmany.size_le (hleast.readMany count) state
      have hcounted := Nat.le_mul_of_pos_right count (hroom hsized)
      rw [remaining, List.length_append]
      omega
  rw [decodeElements, bind_of_ok (onCursor_of_ok hrequireRoom state)]
  exact hmany.map Value.array position suffix state

/-- An array that was written is read back, if each of its elements is. -/
theorem reads_array {field : String} {type : FieldType} {size : Nat}
    (hleast : Takes (decodeElement (HandleMapper.identity (σ := σ) (ε := ε)) mapping field type)
      size)
    (hroom : type.hasSize = true → 0 < size) {elements : List Value}
    (helement : ∀ value ∈ elements, ∀ bytes, encodeElement field type value = done bytes →
      Reads (decodeElement (HandleMapper.identity (σ := σ) (ε := ε)) mapping field type) bytes
        (type.canonical value))
    {bytes : Bytes} (h : sequence (elements.map (encodeElement field type)) = done bytes) :
    Reads (decodeElements (HandleMapper.identity (σ := σ) (ε := ε)) mapping field type
      (some elements.length)) bytes (.array (elements.map type.canonical)) := by
  obtain ⟨hall, hflatMap⟩ := sequence_eq_done_iff.mp h
  have hmany := Reads.readMany fun value hmem => helement value hmem _
    (eq_done_iff.mpr ⟨hall _ (List.mem_map_of_mem hmem), rfl⟩)
  rw [← List.flatMap_map, hflatMap] at hmany
  exact reads_decodeElements mapping hleast hroom hmany

/-- The content of a field that was written is read back, if its elements are. -/
theorem reads_encodeContent {spec : FieldSpec} {earlier : List FieldSpec}
    (hplaced : spec.Placed earlier)
    (helement : ∀ value, value.fits = true → ∀ bytes,
      encodeElement spec.name spec.type value = done bytes →
      Reads (decodeElement (HandleMapper.identity (σ := σ) (ε := ε)) mapping spec.name spec.type)
        bytes (spec.type.canonical value))
    {value : Value} (hfits : value.fits = true) {record : Record} {bytes : Bytes}
    (h : encodeContent spec value record = done bytes) :
    Reads (decodeContent (HandleMapper.identity (σ := σ) (ε := ε)) mapping spec
      (FieldSpec.canonicalFields earlier record)) bytes (spec.canonical value) := by
  unfold decodeContent
  rcases encodeContent_eq_done_iff.mp h with ⟨hcount, hwritten⟩ |
    ⟨elements, rfl, helementCount, hwritten⟩
  · rw [FieldSpec.elementCount_eq_none_iff.mpr hcount, FieldSpec.canonical_of_one hcount]
    exact helement value hfits bytes hwritten
  · simp only [Value.fits, Bool.and_eq_true, decide_eq_true_eq] at hfits
    obtain ⟨hlt, hfit⟩ := hfits
    have harray : spec.count ≠ .one := FieldSpec.count_ne_one helementCount
    -- The reader counts in the canonical record, and comes to the number that the writer had.
    have hsameCount := FieldSpec.elementCount_canonical (δ := ε) hplaced helementCount
      (fun n hmem => by cases hmem; exact hlt) []
    rw [List.append_nil] at hsameCount
    rw [hsameCount, FieldSpec.canonical_array harray]
    exact reads_array mapping (takes_decodeElement _ mapping spec.name spec.type)
      (hplaced.takesRoom harray)
      (fun value hmem => helement value (Value.fits_of_mem_elements hfit hmem)) hwritten

mutual

/-- An element that was written is read back in its canonical form. -/
theorem reads_encodeElement (field : String) : (type : FieldType) → type.wellLaid = true →
    (value : Value) → value.fits = true → (bytes : Bytes) →
    encodeElement field type value = done bytes →
    Reads (decodeElement (HandleMapper.identity (σ := σ) (ε := ε)) mapping field type) bytes
      (type.canonical value)
  | .int type, _, .uint word, _, _, h => by
      cases h
      exact reads_int _ mapping field type word
  | .int type, _, .sint value, _, _, h => by
      cases h
      exact reads_int _ mapping field type value.toUInt64
  | .float32, _, .float bits, _, _, h => by
      cases h
      exact (reads_readU32 bits).map Value.float
  | .enum table, _, .enum value, _, _, h => by
      cases h
      exact (reads_readU32 value).map Value.enum
  | .flags table, _, .flags mask, _, _, h => by
      cases h
      exact (reads_readU32 mask).map Value.flags
  | .handle type, _, .handle word, _, _, h => by
      cases h
      exact reads_handle mapping field type word
  | .text encoding, hlaid, .text content, hfits, _, h => by
      cases h
      simp only [FieldType.wellLaid, beq_iff_eq] at hlaid
      simp only [Value.fits, decide_eq_true_eq] at hfits
      subst hlaid
      exact (reads_readText hfits field).map Value.text
  | .struct schema, hlaid, .struct fields, hfits, bytes, h =>
      (reads_encodeStruct schema hlaid fields hfits bytes h).map Value.struct
termination_by structural type => type

/-- A structure that was written is read back in its canonical form. -/
theorem reads_encodeStruct : (schema : StructSchema) → schema.wellLaid = true →
    (record : Record) → record.fits = true → (bytes : Bytes) →
    encodeStruct schema record = done bytes →
    Reads (decodeStruct (HandleMapper.identity (σ := σ) (ε := ε)) mapping schema) bytes
      (schema.canonical record)
  | ⟨name, tag, fields⟩, hlaid, record, hfits, bytes, h => by
      rw [encodeStruct] at h
      obtain ⟨header, body, hmark, hwritten, rfl⟩ := andThen_eq_done_iff.mp h
      rw [← done_injective hmark]
      exact (reads_readStructHeader name tag).bind
        (reads_encodeFields fields [] hlaid record hfits body hwritten)
termination_by structural schema => schema

/-- A field that was written is read back in its canonical form, behind the fields before it. -/
theorem reads_encodeField : (spec : FieldSpec) → (earlier : List FieldSpec) →
    spec.Placed earlier → (value : Value) → value.fits = true → (record : Record) →
    (bytes : Bytes) → encodeField spec value record = done bytes →
    Reads (decodeField (HandleMapper.identity (σ := σ) (ε := ε)) mapping spec
      (FieldSpec.canonicalFields earlier record)) bytes (spec.canonical value)
  | ⟨name, type, isOptional, count⟩, earlier, hplaced, value, hfits, record, bytes, h => by
      rcases encodeField_eq_done_iff.mp h with ⟨hoptional, rfl, rfl⟩ | ⟨content, hwritten, rfl⟩
      · rw [decodeField_of_optional hoptional, FieldSpec.canonical_absent]
        intro position suffix state
        rw [bind_of_ok (reads_readSentinel false position suffix state)]
        rfl
      · have hreads := reads_encodeContent mapping hplaced
          (reads_encodeElement name type hplaced.type_wellLaid) hfits hwritten
        cases isOptional with
        | false =>
            rw [decodeField_of_required rfl]
            exact hreads
        | true =>
            rw [decodeField_of_optional rfl]
            exact (reads_readSentinel true).bind hreads
termination_by structural spec => spec

/-- What was written for fields is read as their canonical values, behind those of the fields
before. -/
theorem reads_encodeFields : (fields earlier : List FieldSpec) →
    FieldSpec.allWellLaid fields earlier = true → (record : Record) → record.fits = true →
    (bytes : Bytes) → encodeFields fields record = done bytes →
    Reads (decodeFields (HandleMapper.identity (σ := σ) (ε := ε)) mapping fields
      (FieldSpec.canonicalFields earlier record)) bytes
      (FieldSpec.canonicalFields (earlier ++ fields) record)
  | [], earlier, _, record, _, bytes, h => by
      cases h
      rw [List.append_nil]
      exact reads_pure _
  | spec :: rest, earlier, hlaid, record, hfits, bytes, h => by
      simp only [FieldSpec.allWellLaid, Bool.and_eq_true] at hlaid
      obtain ⟨value, front, back, hget, hwritten, hencodeFields, rfl⟩ :=
        encodeFields_cons_eq_done_iff.mp h
      have hhead := reads_encodeField spec earlier (FieldSpec.placed_of_wellLaid hlaid.1) value
        (Record.fits_of_get? hfits hget) record front hwritten
      have htail := reads_encodeFields rest (earlier ++ [spec]) hlaid.2 record hfits back
        hencodeFields
      rw [FieldSpec.canonicalFields_append earlier [spec],
        FieldSpec.canonicalFields_cons_of_some hget, List.append_assoc] at htail
      exact hhead.bind htail
termination_by structural fields => fields

end

end Reading

/-! ### Writing again -/

/-- The canonical form of what was written behind a sentinel is written alike. -/
theorem encodeContent_canonical {spec : FieldSpec} {earlier : List FieldSpec}
    (hplaced : spec.Placed earlier)
    (helement : ∀ value, value.fits = true → ∀ bytes,
      encodeElement spec.name spec.type value = done bytes →
      encodeElement spec.name spec.type (spec.type.canonical value) = done bytes)
    {value : Value} (hfits : value.fits = true) {record : Record} (later : List FieldSpec)
    {bytes : Bytes} (h : encodeContent spec value record = done bytes) :
    encodeContent spec (spec.canonical value)
      (FieldSpec.canonicalFields (earlier ++ later) record) = done bytes := by
  refine encodeContent_eq_done_iff.mpr ?_
  rcases encodeContent_eq_done_iff.mp h with ⟨hone, hwritten⟩ |
    ⟨elements, rfl, helementCount, hwritten⟩
  · rw [FieldSpec.canonical_of_one hone]
    exact Or.inl ⟨hone, helement value hfits bytes hwritten⟩
  · simp only [Value.fits, Bool.and_eq_true, decide_eq_true_eq] at hfits
    obtain ⟨hlt, hfit⟩ := hfits
    -- The number of elements is counted in the canonical record now.
    have hsameCount := FieldSpec.elementCount_canonical (δ := Empty) hplaced helementCount
      (fun n hmem => by cases hmem; exact hlt) later
    refine Or.inr ⟨elements.map spec.type.canonical,
      FieldSpec.canonical_array (FieldSpec.count_ne_one helementCount) elements, ?_, ?_⟩
    · rw [hsameCount, List.length_map]
    · rw [← hwritten, List.map_map]
      refine congrArg sequence (List.map_congr_left fun value hmem => ?_)
      have hone := (sequence_eq_done_iff.mp hwritten).1 _ (List.mem_map_of_mem hmem)
      have hencodeElement := eq_done_iff.mpr ⟨hone, rfl⟩
      exact (helement value (Value.fits_of_mem_elements hfit hmem) _ hencodeElement).trans
        hencodeElement.symm

mutual

/-- The canonical form of an element that was written is written alike. -/
theorem encodeElement_canonical (field : String) : (type : FieldType) → type.wellLaid = true →
    (value : Value) → value.fits = true → (bytes : Bytes) →
    encodeElement field type value = done bytes →
    encodeElement field type (type.canonical value) = done bytes
  | .int type, _, .uint word, _, _, h => by
      cases h
      exact encodeElement_stored field type word
  | .int type, _, .sint value, _, _, h => by
      cases h
      exact encodeElement_stored field type value.toUInt64
  | .float32, _, .float _, _, _, h => h
  | .enum _, _, .enum _, _, _, h => h
  | .flags _, _, .flags _, _, _, h => h
  | .handle _, _, .handle _, _, _, h => h
  | .text _, _, .text _, _, _, h => h
  | .struct schema, hlaid, .struct fields, hfits, bytes, h =>
      encodeStruct_canonical schema hlaid fields hfits bytes h
termination_by structural type => type

/-- The canonical form of a structure that was written is written alike. -/
theorem encodeStruct_canonical : (schema : StructSchema) → schema.wellLaid = true →
    (record : Record) → record.fits = true → (bytes : Bytes) →
    encodeStruct schema record = done bytes →
    encodeStruct schema (schema.canonical record) = done bytes
  | ⟨name, tag, fields⟩, hlaid, record, hfits, bytes, h => by
      rw [encodeStruct] at h ⊢
      obtain ⟨header, body, hmark, hwritten, rfl⟩ := andThen_eq_done_iff.mp h
      refine andThen_eq_done_iff.mpr ⟨header, body, hmark, ?_, rfl⟩
      exact encodeFields_canonicalFields fields [] hlaid record hfits body hwritten
termination_by structural schema => schema

/-- The canonical form of a field that was written is written alike, among the canonical forms of
the fields around it. -/
theorem encodeField_canonical : (spec : FieldSpec) → (earlier : List FieldSpec) →
    spec.Placed earlier → (value : Value) → value.fits = true → (record : Record) →
    (later : List FieldSpec) → (bytes : Bytes) → encodeField spec value record = done bytes →
    encodeField spec (spec.canonical value)
      (FieldSpec.canonicalFields (earlier ++ later) record) = done bytes
  | ⟨name, type, isOptional, count⟩, earlier, hplaced, value, hfits, record, later, bytes, h => by
      refine encodeField_eq_done_iff.mpr ?_
      rcases encodeField_eq_done_iff.mp h with ⟨hoptional, rfl, rfl⟩ | ⟨content, hwritten, rfl⟩
      · exact Or.inl ⟨hoptional, FieldSpec.canonical_absent _, rfl⟩
      · exact Or.inr ⟨content, encodeContent_canonical hplaced
          (encodeElement_canonical name type hplaced.type_wellLaid) hfits later hwritten, rfl⟩
termination_by structural spec => spec

/-- The canonical values are written as the given ones are. -/
theorem encodeFields_canonicalFields : (fields earlier : List FieldSpec) →
    FieldSpec.allWellLaid fields earlier = true → (record : Record) → record.fits = true →
    (bytes : Bytes) → encodeFields fields record = done bytes →
    encodeFields fields (FieldSpec.canonicalFields (earlier ++ fields) record) = done bytes
  | [], _, _, _, _, _, h => h
  | spec :: rest, earlier, hlaid, record, hfits, bytes, h => by
      simp only [FieldSpec.allWellLaid, Bool.and_eq_true] at hlaid
      have hplaced := FieldSpec.placed_of_wellLaid hlaid.1
      obtain ⟨value, front, back, hget, hwritten, hencodeFields, rfl⟩ :=
        encodeFields_cons_eq_done_iff.mp h
      have hlookup := Record.get?_canonicalFields (earlier ++ spec :: rest) record spec.name
      rw [FieldSpec.named?_of_fresh hplaced.fresh rest, hget] at hlookup
      have hencodeField := encodeField_canonical spec earlier hplaced value
        (Record.fits_of_get? hfits hget) record (spec :: rest) front hwritten
      have htail := encodeFields_canonicalFields rest (earlier ++ [spec]) hlaid.2 record hfits back
        hencodeFields
      rw [List.append_assoc] at htail
      exact encodeFields_cons_eq_done_iff.mpr ⟨_, front, back, hlookup, hencodeField, htail, rfl⟩
termination_by structural fields => fields

end

/-! ### The parameters of a call -/

namespace CallDescriptor

/-- Whatever a call was written from, the parameters are read back from exactly the bytes that were
written and are written to the same bytes again. A well typed record is read back as it was. -/
theorem decodeParams_encodeParams {opcode : UInt32} {call : CallDescriptor}
    (hopcode : ofOpcode? opcode = some call) {record : Record} (hfits : record.fits = true)
    {bytes : Bytes} (hencodeParams : call.encodeParams record = done bytes)
    (mapping : HandleMapping) (suffix : Bytes) (state : σ) :
    ∃ decoded,
      call.decodeParams (HandleMapper.identity (σ := σ) (ε := ε)) mapping
          (start (bytes ++ suffix), state) = .ok decoded (⟨bytes.length, suffix⟩, state) ∧
        call.encodeParams decoded = done bytes ∧
        (FieldSpec.allAdmit call.fields record = true → decoded = record) := by
  have hallWellLaid := fields_wellLaid call (ofOpcode?_eq_some hopcode).1
  refine ⟨FieldSpec.canonicalFields call.fields record, ?_, ?_, ?_⟩
  · have hdecodeFields := reads_encodeFields (σ := σ) (ε := ε) mapping call.fields [] hallWellLaid
      record hfits bytes
      hencodeParams 0 suffix state
    rwa [Nat.zero_add] at hdecodeFields
  · exact encodeFields_canonicalFields call.fields [] hallWellLaid record hfits bytes hencodeParams
  · exact canonicalFields_of_admits call.fields [] hallWellLaid [] rfl record

/-- Parameters out of order, with a count of the wrong sign and a member that no layout names. -/
def descriptorSetRequest : Record :=
  [("pDescriptorSets", .array [.handle 5]), ("device", .handle 3), ("flags", .uint 0),
    ("pAllocateInfo", .struct [("descriptorPool", .handle 7), ("descriptorSetCount", .sint 1),
      ("pSetLayouts", .array [.handle 9])])]

/-- It is written, and read in order and as the layouts say. -/
theorem decodeParams_encodeParams_descriptorSetRequest :
    ofOpcode? 20077 = some allocateDescriptorSets ∧ descriptorSetRequest.fits = true ∧
      ∃ bytes, allocateDescriptorSets.encodeParams descriptorSetRequest = done bytes ∧
        bytes.length = 44 ∧
        ∃ decoded,
          allocateDescriptorSets.decodeParams (HandleMapper.identity (σ := Unit) (ε := Empty))
              .normal (start (bytes ++ [1, 2]), ()) = .ok decoded (⟨bytes.length, [1, 2]⟩, ()) ∧
            allocateDescriptorSets.encodeParams decoded = done bytes ∧
            (FieldSpec.allAdmit allocateDescriptorSets.fields descriptorSetRequest = true →
              decoded = descriptorSetRequest) := by
  have hopcode : ofOpcode? 20077 = some allocateDescriptorSets := rfl
  have hfits : descriptorSetRequest.fits = true := by decide
  exact ⟨hopcode, hfits, _, rfl, by decide, decodeParams_encodeParams hopcode hfits rfl
    .normal [1, 2] ()⟩

end CallDescriptor

end CallStream
