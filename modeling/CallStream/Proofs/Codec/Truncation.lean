import CallStream.Proofs.Codec.Locality

/-!
# Payloads that are cut short

The parameters of a call delimit themselves: the bytes say where they end, so that they are read
alike from a payload that ends there and from one that goes on.

Cut anywhere inside, they are not read. A read that succeeded on the shorter payload would take the
same bytes off the whole one, where the parameters are longer. And a failure for anything but the
end of the payload is one of bytes that are there, so it *lasts*: no bytes behind it mend it. With
the missing bytes in place the parameters are read, so all that can be wrong without them is that
the payload ends.

Only the check that an array has room looks ahead, and it fails for nothing but the end.

## Main results

* `lasting_decodeFields`: fields in which something is wrong stay wrong in any longer payload.
* `fails_of_cut`: a read that is cut inside what it takes fails for the end of the payload.
* `CallDescriptor.decodeParams_delimits`: both, for the parameters of every call.
-/

namespace CallStream

open Decoding Cursor

variable {σ ε α β : Type}

/-- The failure is that the payload ends before the bytes that a value needs. -/
def WireError.IsEnd : WireError ε → Prop
  | .unexpectedEnd _ _ _ => True
  | _ => False

/-- That a payload ends is said with the place, the bytes wanted and those left. -/
theorem WireError.IsEnd.exists_eq {cause : WireError ε} (h : cause.IsEnd) :
    ∃ offset needed remaining, cause = .unexpectedEnd offset needed remaining := by
  cases cause with
  | unexpectedEnd offset needed remaining => exact ⟨offset, needed, remaining, rfl⟩
  | _ => cases h

/-- Where the read fails for anything but the end of the payload, it fails whatever follows. It may
word the failure otherwise, because an extension is named if it is there. -/
def Lasting (read : Decoding σ ε α) : Prop :=
  ∀ ⦃position : Nat⦄ ⦃bytes : Bytes⦄ ⦃state : σ⦄ ⦃cause : WireError ε⦄ ⦃last : Cursor × σ⦄,
    read (⟨position, bytes⟩, state) = .error cause last → ¬ cause.IsEnd →
      ∀ suffix, isOk (read (⟨position, bytes ++ suffix⟩, state)) = false

/-- A read that is repeated leaves the mapper alone and the bytes behind those that it takes. -/
theorem Repeats.exists_taken {read : Decoding σ ε α} (hrepeats : Repeats read read) {position : Nat}
    {bytes : Bytes} {state : σ} {value : α} {after : Cursor × σ}
    (h : read (⟨position, bytes⟩, state) = .ok value after) :
    ∃ taken rest, bytes = taken ++ rest ∧ after = (⟨position + taken.length, rest⟩, state) ∧
      Reads read taken value := by
  obtain ⟨taken, hpasses, hreads⟩ := hrepeats h
  obtain rfl : bytes = taken ++ after.1.rest := hpasses.rest
  have hok := h.symm.trans (hreads position after.1.rest state)
  exact ⟨taken, after.1.rest, rfl, (EStateM.Result.ok.inj hok).2, hreads⟩

/-! ### Chains of reads -/

/-- A read that always fails has nothing to cut short. -/
theorem lasting_of_fails {read : Decoding σ ε α} (h : ∀ before, isOk (read before) = false) :
    Lasting read :=
  fun _ _ _ _ _ _ _ _ => h _

/-- A value that is not read is there in any payload. -/
theorem lasting_pure (value : α) : Lasting (pure value : Decoding σ ε α) := by
  intro position bytes state cause last hpure
  cases hpure

/-- A failure that does not depend on the payload lasts. -/
theorem lasting_throw (cause : WireError ε) : Lasting (throw cause : Decoding σ ε α) :=
  lasting_of_fails fun _ => rfl

/-- A read that only ever misses bytes has no failure that has to last. -/
theorem lasting_of_ends {read : Decoding σ ε α}
    (h : ∀ {before last : Cursor × σ} {cause : WireError ε}, read before = .error cause last →
      cause.IsEnd) : Lasting read :=
  fun _ _ _ _ _ herror hlasts => absurd (h herror) hlasts

/-- The first read takes what it took from the longer payload too, so the second one goes on at the
same place. -/
theorem Lasting.bind {read : Decoding σ ε α} {next : α → Decoding σ ε β}
    (hrepeats : Repeats read read)
    (hlasting : Lasting read) (htail : ∀ value, Lasting (next value)) :
    Lasting (read >>= next) := by
  intro position bytes state cause last hbind hlasts suffix
  rcases bind_eq_error_iff.mp hbind with herror | ⟨value, middle, hok, hsecond⟩
  · have hisOk := hlasting herror hlasts suffix
    cases hlonger : read (⟨position, bytes ++ suffix⟩, state) with
    | ok value after =>
        rw [hlonger] at hisOk
        cases hisOk
    | error cause after =>
        rw [bind_of_error hlonger]
        rfl
  · obtain ⟨taken, rest, rfl, rfl, hreads⟩ := hrepeats.exists_taken hok
    rw [List.append_assoc, bind_of_ok (hreads position (rest ++ suffix) state)]
    exact htail value hsecond hlasts suffix

/-- What is made of a value lasts if the value does. -/
theorem Lasting.map {read : Decoding σ ε α} (hrepeats : Repeats read read) (h : Lasting read)
    (f : α → β) : Lasting (read >>= fun value => pure (f value)) :=
  .bind hrepeats h fun value => lasting_pure (f value)

/-- A read that is repeated lasts, by the number of repetitions. -/
theorem Lasting.readMany {read : Decoding σ ε α} (hrepeats : Repeats read read)
    (hlasting : Lasting read) (count : Nat) : Lasting (readMany read count) := by
  induction count with
  | zero => exact lasting_pure []
  | succ count ih =>
    exact .bind hrepeats hlasting fun first => .map (hrepeats.readMany count) ih (first :: ·)

/-! ### Reads of the payload -/

/-- Bytes last: nothing can be wrong with them but that the payload ends. -/
theorem lasting_readBytes (count : Nat) :
    Lasting (onCursor (readBytes count) : Decoding σ ε Bytes) := by
  apply lasting_of_ends
  rintro ⟨cursor, state⟩ last cause honCursor
  simp only [onCursor, readBytes] at honCursor
  split at honCursor
  · next hbranch =>
      split at hbranch
      · cases hbranch
        cases honCursor
      · cases hbranch
  · next hbranch =>
      split at hbranch
      · cases hbranch
      · cases hbranch
        cases honCursor
        trivial

/-- So do numbers, as their bytes do. -/
theorem lasting_readUInt (type : IntType) :
    Lasting (onCursor (readUInt type) : Decoding σ ε UInt64) := by
  simp only [readUInt, onCursor_bind]
  exact .map (repeats_readBytes _) (lasting_readBytes _) type.decode

/-- So do numbers with a sign. -/
theorem lasting_readSInt (type : IntType) :
    Lasting (onCursor (readSInt type) : Decoding σ ε Int64) := by
  simp only [readSInt, onCursor_bind]
  exact .map (repeats_readUInt type) (lasting_readUInt type) _

/-- So do words. -/
theorem lasting_readU32 : Lasting (onCursor readU32 : Decoding σ ε UInt32) := by
  simp only [readU32, onCursor_bind]
  exact .map (repeats_readUInt .u32) (lasting_readUInt .u32) _

/-- So do sentinels, which are double words. -/
theorem lasting_readSentinel : Lasting (onCursor readSentinel : Decoding σ ε Bool) := by
  simp only [readSentinel, onCursor_bind]
  exact .map (repeats_readUInt sentinel) (lasting_readUInt sentinel) _

/-- Whether bytes are a text is not looked at before all of them are there. -/
theorem lasting_readText (field : String) :
    Lasting (onCursor (readText .lengthPrefixed field) : Decoding σ ε String) := by
  simp only [readText, readTextBytes, readLengthPrefixed, onCursor_bind, bind_assoc]
  refine .bind (repeats_readUInt _) (lasting_readUInt _) fun length =>
    .bind (repeats_readBytes _) (lasting_readBytes _) fun bytes => ?_
  cases Bytes.toText? bytes with
  | none => exact lasting_throw _
  | some text => exact lasting_pure text

/-- A wrong tag and an extension are found in bytes that are there. -/
theorem lasting_readStructHeader (schema : String) (tag : Option UInt32) :
    Lasting (onCursor (readStructHeader schema tag) : Decoding σ ε Unit) := by
  cases tag with
  | none => exact lasting_pure ()
  | some expected =>
      simp only [readStructHeader, onCursor_bind]
      refine .bind repeats_readU32 lasting_readU32 fun found => ?_
      split
      · exact lasting_throw _
      · simp only [onCursor_bind]
        refine .bind (repeats_readUInt _) (lasting_readUInt _) fun length => ?_
        split
        · apply lasting_of_fails
          rintro ⟨cursor, state⟩
          simp only [onCursor, bind, EStateM.bind]
          cases readU32 (ε := ε) cursor <;> rfl
        · exact lasting_pure ()

/-- Bytes that have room for an array have room for it with more behind. -/
theorem Lasting.behindRoom {next : Decoding σ ε α} (type : FieldType) (count : Nat)
    (h : Lasting next) : Lasting (onCursor (requireRoom type count) >>= fun _ => next) := by
  intro position bytes state cause last hbind hlasts suffix
  by_cases hroom : type.hasSize = true → count ≤ bytes.length
  · have hpasses : requireRoom (ε := ε) type count ⟨position, bytes⟩ = .ok () ⟨position, bytes⟩ :=
      requireRoom_of_le hroom
    have hlonger : requireRoom (ε := ε) type count ⟨position, bytes ++ suffix⟩
        = .ok () ⟨position, bytes ++ suffix⟩ := by
      refine requireRoom_of_le fun hsized => Nat.le_trans (hroom hsized) ?_
      rw [remaining, List.length_append]
      exact Nat.le_add_right _ _
    rw [bind_of_ok (onCursor_of_ok hpasses state)] at hbind
    rw [bind_of_ok (onCursor_of_ok hlonger state)]
    exact h hbind hlasts suffix
  · have hand : (decide (bytes.length < count) && type.hasSize) = true := by
      simpa [and_comm] using hroom
    have hrequireRoom : requireRoom (ε := ε) type count ⟨position, bytes⟩
        = .error (.unexpectedEnd position count bytes.length) ⟨position, bytes⟩ := if_pos hand
    rw [bind_of_error (onCursor_of_error hrequireRoom state)] at hbind
    cases hbind
    exact absurd trivial hlasts

/-! ### Fields -/

section Fields

variable (mapping : HandleMapping)

/-- What is wrong behind a sentinel lasts, if what is wrong in an element does. -/
theorem lasting_decodeContent (spec : FieldSpec)
    (hrepeats : Repeats
      (decodeElement (HandleMapper.identity (σ := σ) (ε := ε)) mapping spec.name spec.type)
      (decodeElement (HandleMapper.identity (σ := σ) (ε := ε)) mapping spec.name spec.type))
    (helement : Lasting
      (decodeElement (HandleMapper.identity (σ := σ) (ε := ε)) mapping spec.name spec.type))
    (scope : Record) :
    Lasting (decodeContent (HandleMapper.identity (σ := σ) (ε := ε)) mapping spec scope) := by
  unfold decodeContent
  cases spec.elementCount (ε := ε) scope with
  | error cause => exact lasting_throw cause
  | ok count =>
      cases count with
      | none => exact helement
      | some count =>
          exact .behindRoom spec.type count
            (.map (hrepeats.readMany count) (helement.readMany hrepeats count)
            Value.array)

mutual

/-- What is wrong in an element lasts. -/
theorem lasting_decodeElement (field : String) : (type : FieldType) → type.wellLaid = true →
    Lasting (decodeElement (HandleMapper.identity (σ := σ) (ε := ε)) mapping field type)
  | .int type, _ => by
      unfold decodeElement
      split
      · exact .map (repeats_readSInt type) (lasting_readSInt type) Value.sint
      · exact .map (repeats_readUInt type) (lasting_readUInt type) Value.uint
  | .float32, _ => .map repeats_readU32 lasting_readU32 Value.float
  | .enum _, _ => .map repeats_readU32 lasting_readU32 Value.enum
  | .flags _, _ => .map repeats_readU32 lasting_readU32 Value.flags
  | .handle type, _ => by
      rw [decodeElement_handle]
      exact .map (repeats_readUInt .u64) (lasting_readUInt .u64) Value.handle
  | .text encoding, hlaid => by
      simp only [FieldType.wellLaid, beq_iff_eq] at hlaid
      subst hlaid
      exact .map (repeats_readText field) (lasting_readText field) Value.text
  | .struct schema, hlaid =>
      .map (repeats_decodeStruct mapping mapping schema hlaid) (lasting_decodeStruct schema hlaid)
        Value.struct
termination_by structural type => type

/-- So does what is wrong in a structure. -/
theorem lasting_decodeStruct : (schema : StructSchema) → schema.wellLaid = true →
    Lasting (decodeStruct (HandleMapper.identity (σ := σ) (ε := ε)) mapping schema)
  | ⟨name, tag, fields⟩, hlaid =>
      .bind (repeats_readStructHeader name tag) (lasting_readStructHeader name tag) fun _ =>
        lasting_decodeFields fields [] hlaid []
termination_by structural schema => schema

/-- So does what is wrong in a field. -/
theorem lasting_decodeField : (spec : FieldSpec) → (earlier : List FieldSpec) →
    spec.Placed earlier → (scope : Record) →
    Lasting (decodeField (HandleMapper.identity (σ := σ) (ε := ε)) mapping spec scope)
  | ⟨name, type, isOptional, count⟩, earlier, hplaced, scope => by
      have hcontent := lasting_decodeContent mapping ⟨name, type, isOptional, count⟩
        (repeats_decodeElement mapping mapping name type hplaced.type_wellLaid)
        (lasting_decodeElement name type hplaced.type_wellLaid) scope
      cases isOptional with
      | false =>
          rw [decodeField_of_required rfl]
          exact hcontent
      | true =>
          rw [decodeField_of_optional rfl]
          refine .bind repeats_readSentinel lasting_readSentinel fun present => ?_
          cases present with
          | true => exact hcontent
          | false => exact lasting_pure Value.absent
termination_by structural spec => spec

/-- So does what is wrong in any of some fields. -/
theorem lasting_decodeFields : (fields earlier : List FieldSpec) →
    FieldSpec.allWellLaid fields earlier = true → (scope : Record) →
    Lasting (decodeFields (HandleMapper.identity (σ := σ) (ε := ε)) mapping fields scope)
  | [], _, _, scope => lasting_pure scope
  | spec :: rest, earlier, hlaid, scope => by
      simp only [FieldSpec.allWellLaid, Bool.and_eq_true] at hlaid
      have hplaced := FieldSpec.placed_of_wellLaid hlaid.1
      exact .bind (repeats_decodeField mapping mapping spec earlier hplaced scope)
        (lasting_decodeField spec earlier hplaced scope) fun value =>
          lasting_decodeFields rest (earlier ++ [spec]) hlaid.2 _
termination_by structural fields => fields

end

end Fields

/-! ### Cuts -/

/-- A read that is cut inside what it takes fails because the payload ends there: it neither finds
anything else wrong nor makes do with less. -/
theorem fails_of_cut {read : Decoding σ ε α} (hrepeats : Repeats read read)
    (hlasting : Lasting read) {payload : Bytes} {value : α} {cursor : Cursor} {state last : σ}
    (h : read (start payload, state) = .ok value (cursor, last)) {size : Nat}
    (hlt : size < cursor.position) :
    ∃ offset needed remaining reached,
      read (start (payload.take size), state)
        = .error (.unexpectedEnd offset needed remaining) reached := by
  have happend : payload.take size ++ payload.drop size = payload :=
    List.take_append_drop size payload
  cases herror : read (start (payload.take size), state) with
  | error cause reached =>
      have hisEnd : cause.IsEnd := by
        by_cases hlasts : cause.IsEnd
        · exact hlasts
        · have hisOk := hlasting herror hlasts (payload.drop size)
          rw [happend] at hisOk
          have hsucceeds : isOk (read (start payload, state)) = true := by rw [h]; rfl
          exact Bool.noConfusion (hsucceeds.symm.trans hisOk)
      obtain ⟨offset, needed, remaining, rfl⟩ := hisEnd.exists_eq
      exact ⟨offset, needed, remaining, reached, rfl⟩
  | ok found after =>
      -- The whole payload starts with what was taken off the shorter one, so it takes no more.
      obtain ⟨taken, rest, hshorter, -, hreads⟩ := hrepeats.exists_taken herror
      have hlonger := hreads 0 (rest ++ payload.drop size) state
      rw [← List.append_assoc, ← hshorter, happend] at hlonger
      have hpair := (EStateM.Result.ok.inj (h.symm.trans hlonger)).2
      have hposition : cursor.position = 0 + taken.length := congrArg (·.1.position) hpair
      have hle : taken.length + rest.length ≤ size := by
        rw [← List.length_append, ← hshorter]
        exact List.length_take_le size payload
      omega

namespace CallDescriptor

/-- The parameters of a call are read alike from every payload that starts with the bytes that they
take, whether more follows or not. Cut anywhere inside these bytes, they are not read, and the one
failure is that the payload ends. -/
theorem decodeParams_delimits {opcode : UInt32} {call : CallDescriptor}
    (hopcode : ofOpcode? opcode = some call) {mapping : HandleMapping} {payload : Bytes}
    {record : Record} {cursor : Cursor} {state last : σ}
    (hdecodeParams : call.decodeParams (HandleMapper.identity (σ := σ) (ε := ε)) mapping
      (start payload, state) = .ok record (cursor, last)) :
    (∀ suffix, call.decodeParams (HandleMapper.identity (σ := σ) (ε := ε)) mapping
        (start (payload ++ suffix), state)
          = .ok record (⟨cursor.position, cursor.rest ++ suffix⟩, last)) ∧
      call.decodeParams (HandleMapper.identity (σ := σ) (ε := ε)) mapping
        (start (payload.take cursor.position), state) = .ok record (⟨cursor.position, []⟩, last) ∧
      ∀ size < cursor.position, ∃ offset needed remaining reached,
        call.decodeParams (HandleMapper.identity (σ := σ) (ε := ε)) mapping
          (start (payload.take size), state)
            = .error (.unexpectedEnd offset needed remaining) reached := by
  have hallWellLaid := fields_wellLaid call (ofOpcode?_eq_some hopcode).1
  have hrepeats := repeats_decodeFields (σ := σ) (τ := σ) (ε := ε)
    (δ := ε) mapping mapping call.fields
    [] hallWellLaid []
  obtain ⟨taken, rest, rfl, hpair, hreads⟩ := hrepeats.exists_taken hdecodeParams
  obtain ⟨rfl, rfl⟩ := Prod.mk.inj hpair
  refine ⟨fun suffix => ?_, ?_, fun size hlt => ?_⟩
  · rw [List.append_assoc]
    exact hreads 0 (rest ++ suffix) last
  · have hdecodeFields := hreads 0 [] last
    rw [List.append_nil] at hdecodeFields
    rw [Nat.zero_add] at hdecodeFields ⊢
    rw [List.take_left]
    exact hdecodeFields
  · exact fails_of_cut hrepeats (lasting_decodeFields mapping call.fields [] hallWellLaid [])
      hdecodeParams hlt

/-- An optional structure with a text in it, an empty array, one with a text, and an id. -/
def instanceRequest : Record :=
  [("pCreateInfo", .struct [("flags", .uint 0),
      ("pApplicationInfo", .struct [("pApplicationName", .text "cube"),
        ("applicationVersion", .uint 1), ("pEngineName", .absent), ("engineVersion", .uint 0),
        ("apiVersion", .uint 7)]),
      ("enabledLayerCount", .uint 0), ("ppEnabledLayerNames", .array []),
      ("enabledExtensionCount", .uint 1), ("ppEnabledExtensionNames", .array [.text "surface"])]),
    ("pAllocator", .absent), ("pInstance", .handle 9)]

/-- The guest creates an instance with one extension. -/
def instancePayload : Bytes :=
  IntType.u32.encode 1 ++ [0, 0, 0, 0] ++ IntType.u32.encode 0 ++ encodeSentinel true
    ++ IntType.u32.encode 0 ++ [0, 0, 0, 0] ++ encodeSentinel true
    ++ TextEncoding.lengthPrefixed.encode "cube" ++ IntType.u32.encode 1 ++ encodeSentinel false
    ++ IntType.u32.encode 0 ++ IntType.u32.encode 7 ++ IntType.u32.encode 0 ++ IntType.u32.encode 1
    ++ TextEncoding.lengthPrefixed.encode "surface" ++ encodeSentinel false ++ IntType.u64.encode 9

/-- Wherever the payload is cut, it ends too early, and bytes behind it make no difference. -/
theorem decodeParams_delimits_instancePayload :
    ofOpcode? 20000 = some createInstance ∧
      createInstance.decodeParams (HandleMapper.identity (σ := Unit) (ε := Empty)) .normal
          (start (instancePayload ++ [1, 2]), ()) = .ok instanceRequest (⟨99, [1, 2]⟩, ()) ∧
      (∀ suffix, createInstance.decodeParams (HandleMapper.identity (σ := Unit) (ε := Empty))
        .normal
          (start (instancePayload ++ [1, 2] ++ suffix), ())
            = .ok instanceRequest (⟨99, [1, 2] ++ suffix⟩, ())) ∧
        createInstance.decodeParams (HandleMapper.identity (σ := Unit) (ε := Empty)) .normal
          (start ((instancePayload ++ [1, 2]).take 99), ()) = .ok instanceRequest (⟨99, []⟩, ()) ∧
        ∀ size < 99, ∃ offset needed remaining reached,
          createInstance.decodeParams (HandleMapper.identity (σ := Unit) (ε := Empty)) .normal
            (start ((instancePayload ++ [1, 2]).take size), ())
              = .error (.unexpectedEnd offset needed remaining) reached := by
  have hopcode : ofOpcode? 20000 = some createInstance := rfl
  have hdecodeParams : createInstance.decodeParams (HandleMapper.identity (σ := Unit) (ε := Empty))
    .normal
      (start (instancePayload ++ [1, 2]), ()) = .ok instanceRequest (⟨99, [1, 2]⟩, ()) := rfl
  exact ⟨hopcode, hdecodeParams, decodeParams_delimits hopcode hdecodeParams⟩

end CallDescriptor

end CallStream
