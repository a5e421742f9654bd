import CallStream.Proofs.Codec.Mapping

/-!
# Mappers that always answer

The *leaves* of a record are its handles with the types that the layout declares for them, in wire
order. A mapper that has an answer for every handle meets exactly these leaves, each of them once
and one after the other, and what is read is what was sent with the answers in place.

Such a mapper cannot fail a read. So wherever a read with it fails, the plain read fails too, at the
same place and for the same cause: up to there both read the same bytes, and counts do not depend on
what handles are mapped to.

## Main results

* `visitAll_of_answers`: a visit with a mapper that always answers goes through the leaves.
* `failsAlike_decodeBehind`: where the plain read fails, so does the one with the mapper.
* `decodeFields_of_answers`: a mapper that always answers is called once on every leaf that was
  sent.
-/

namespace CallStream

/-! ### Leaves -/

mutual

/-- The handles in an element, with their types. -/
def FieldType.leaves : FieldType → Value → List (HandleType × UInt64)
  | .handle type, .handle word => [(type, word)]
  | .struct schema, .struct fields => schema.leaves fields
  | _, _ => []
termination_by structural type => type

/-- The handles in a structure, with their types. -/
def StructSchema.leaves : StructSchema → Record → List (HandleType × UInt64)
  | ⟨_, _, fields⟩, record => FieldSpec.allLeaves fields record
termination_by structural schema => schema

/-- The handles in the value of a field, with their types. -/
def FieldSpec.leaves : FieldSpec → Value → List (HandleType × UInt64)
  | ⟨_, type, _, .one⟩, value => type.leaves value
  | ⟨_, type, _, _⟩, .array elements => elements.flatMap type.leaves
  | _, _ => []
termination_by structural spec => spec

/-- The handles in the values of fields, with their types and in order. -/
def FieldSpec.allLeaves : List FieldSpec → Record → List (HandleType × UInt64)
  | spec :: rest, (_, value) :: record => spec.leaves value ++ FieldSpec.allLeaves rest record
  | _, _ => []
termination_by structural fields => fields

end

/-- The values of fields with every handle replaced, by what `f` makes of it and its type. -/
def FieldSpec.mapAll (f : HandleType → UInt64 → UInt64) (fields : List FieldSpec)
    (record : Record) :
    Record :=
  Id.run (FieldSpec.visitAll (fun type handle => pure (f type handle)) fields record)

variable {σ ε : Type}

/-- The mapper has an answer for every handle, whatever state it is in. Its state may note the
calls, but what it answers depends on the type and the handle. -/
def HandleMapper.Answers (mapper : HandleMapper σ ε) (mapping : HandleMapping)
    (f : HandleType → UInt64 → UInt64) : Prop :=
  ∀ type handle state, ∃ after, mapper type mapping handle state = .ok (f type handle) after

/-- The state of a mapper after it was called on some leaves, one after the other. -/
def HandleMapper.afterAll (mapper : HandleMapper σ ε) (mapping : HandleMapping)
    (leaves : List (HandleType × UInt64)) (state : σ) : σ :=
  leaves.foldl (fun state (type, handle) => stateOf (mapper type mapping handle state)) state

/-- Calling the mapper on some handles and then on others is calling it on all of them. -/
theorem HandleMapper.afterAll_append (mapper : HandleMapper σ ε) (mapping : HandleMapping)
    (front back : List (HandleType × UInt64)) (state : σ) :
    mapper.afterAll mapping (front ++ back) state
      = mapper.afterAll mapping back (mapper.afterAll mapping front state) :=
  List.foldl_append

/-! ### Visits that cannot fail -/

section Visits

variable {mapper : HandleMapper σ ε} {mapping : HandleMapping} {f : HandleType → UInt64 → UInt64}

/-- If a visit goes through the leaves of each element, it goes through those of an array. -/
theorem mapM_of_leaves {visit : Value → EStateM ε σ Value} {image : Value → Id Value}
    {leaves : Value → List (HandleType × UInt64)}
    (heach : ∀ value state,
      visit value state = .ok (image value).run (mapper.afterAll mapping (leaves value) state))
    (elements : List Value) (state : σ) :
    elements.mapM visit state
      = .ok (elements.mapM image).run
        (mapper.afterAll mapping (elements.flatMap leaves) state) := by
  induction elements generalizing state with
  | nil => rfl
  | cons value rest ih =>
      rw [List.mapM_cons, bind_of_ok (heach value state), bind_of_ok (ih _), List.mapM_cons,
        List.flatMap_cons, mapper.afterAll_append]
      rfl

mutual

/-- A visit of an element calls the mapper on its leaves. -/
theorem visit_of_answers (hanswers : mapper.Answers mapping f) : (type : FieldType) →
    (value : Value) → (state : σ) →
    type.visit (fun type => mapper type mapping) value state
      = .ok (type.visit (fun type handle => (pure (f type handle) : Id UInt64)) value).run
          (mapper.afterAll mapping (type.leaves value) state)
  | .handle type, value, state => by
      cases value with
      | handle word =>
          obtain ⟨after, hok⟩ := hanswers type word state
          have hafterAll : mapper.afterAll mapping [(type, word)] state = after := by
            simp only [HandleMapper.afterAll, List.foldl_cons, List.foldl_nil, hok, stateOf]
          rw [FieldType.visit, bind_of_ok hok, FieldType.leaves, hafterAll]
          rfl
      | _ => rfl
  | .struct schema, value, state => by
      cases value with
      | struct fields =>
          rw [FieldType.visit, bind_of_ok (visitStruct_of_answers hanswers schema fields state)]
          rfl
      | _ => rfl
  | .int _, _, _ | .float32, _, _ | .enum _, _, _ | .flags _, _, _ | .text _, _, _ => rfl
termination_by structural type => type

/-- A structure is visited field by field. -/
theorem visitStruct_of_answers (hanswers : mapper.Answers mapping f) : (schema : StructSchema) →
    (record : Record) → (state : σ) →
    schema.visit (fun type => mapper type mapping) record state
      = .ok (schema.visit (fun type handle => (pure (f type handle) : Id UInt64)) record).run
          (mapper.afterAll mapping (schema.leaves record) state)
  | ⟨_, _, fields⟩, record, state => visitAll_of_answers hanswers fields record state
termination_by structural schema => schema

/-- A field is visited element by element, if it is an array. -/
theorem visitField_of_answers (hanswers : mapper.Answers mapping f) : (spec : FieldSpec) →
    (value : Value) → (state : σ) →
    spec.visit (fun type => mapper type mapping) value state
      = .ok (spec.visit (fun type handle => (pure (f type handle) : Id UInt64)) value).run
          (mapper.afterAll mapping (spec.leaves value) state)
  | ⟨_, type, _, count⟩, value, state => by
      have heach := visit_of_answers hanswers type
      cases count with
      | one => exact heach value state
      | fixed | field =>
          cases value with
          | array elements => exact (bind_of_ok (mapM_of_leaves heach elements state)).trans rfl
          | _ => rfl
termination_by structural spec => spec

/-- A visit of fields calls the mapper on their leaves. -/
theorem visitAll_of_answers (hanswers : mapper.Answers mapping f) : (fields : List FieldSpec) →
    (record : Record) → (state : σ) →
    FieldSpec.visitAll (fun type => mapper type mapping) fields record state
      = .ok (FieldSpec.mapAll f fields record)
          (mapper.afterAll mapping (FieldSpec.allLeaves fields record) state)
  | spec :: rest, (name, value) :: record, state => by
      rw [FieldSpec.visitAll, bind_of_ok (visitField_of_answers hanswers spec value state),
        bind_of_ok (visitAll_of_answers hanswers rest record _), FieldSpec.allLeaves,
        mapper.afterAll_append]
      rfl
  | [], _, _ | _ :: _, [], _ => rfl
termination_by structural fields => fields

end

end Visits

/-! ### Reads that fail alike -/

namespace Decoding

variable {α β : Type}

/-- Where the plain read fails, the other one fails for the same cause and leaves the same bytes.
The state of the mapper is then that of a part of the way. -/
def FailsAlike (read : Decoding σ ε α) (plain : Decoding Unit ε α) : Prop :=
  ∀ ⦃cursor last : Cursor⦄ ⦃cause : WireError ε⦄ (state : σ),
    plain (cursor, ()) = .error cause (last, ()) →
      ∃ reached, read (cursor, state) = .error cause (last, reached)

/-- Values that are not read do not fail. -/
theorem failsAlike_pure (value result : α) :
    FailsAlike (pure value : Decoding σ ε α) (pure result) := by
  intro cursor last cause state hpure
  cases hpure

/-- A failure is one in either reading. -/
theorem failsAlike_throw (cause : WireError ε) :
    FailsAlike (throw cause : Decoding σ ε α) (throw cause) := by
  intro cursor last other state hthrow
  cases hthrow
  exact ⟨state, rfl⟩

/-- A read that no mapper concerns may come first. -/
theorem FailsAlike.behind {read : Read ε β} {next : β → Decoding σ ε α}
    {plainNext : β → Decoding Unit ε α}
    (htail : ∀ value, FailsAlike (next value) (plainNext value)) :
    FailsAlike (onCursor read >>= next) (onCursor read >>= plainNext) := by
  intro cursor last cause state hbind
  cases hok : read cursor with
  | ok value after =>
      rw [bind_of_ok (onCursor_of_ok hok ())] at hbind
      rw [bind_of_ok (onCursor_of_ok hok state)]
      exact htail value state hbind
  | error found after =>
      rw [bind_of_error (onCursor_of_error hok ())] at hbind
      rw [bind_of_error (onCursor_of_error hok state)]
      cases hbind
      exact ⟨state, rfl⟩

/-- Where the first read succeeds, both go on from the same bytes, with values that correspond. -/
theorem FailsAlike.bind {read : Decoding σ ε α} {plain : Decoding Unit ε α}
    {visit : α → EStateM ε σ α} {next : α → Decoding σ ε β} {plainNext : α → Decoding Unit ε β}
    (hmaps : Maps read plain visit) (hsucceeds : ∀ sent state, isOk (visit sent state) = true)
    (hfailsAlike : FailsAlike read plain)
    (htail : ∀ {cursor after : Cursor} {state last : σ} {sent value : α},
      plain (cursor, ()) = .ok sent (after, ()) → visit sent state = .ok value last →
        FailsAlike (next value) (plainNext sent)) :
    FailsAlike (read >>= next) (plain >>= plainNext) := by
  intro cursor last cause state hfailed
  rcases bind_eq_error_iff.mp hfailed with herror | ⟨sent, ⟨middle, ⟨⟩⟩, hok, hsecond⟩
  · obtain ⟨reached, hfailed⟩ := hfailsAlike state herror
    exact ⟨reached, bind_of_error hfailed⟩
  · obtain ⟨value, between, hvisited⟩ := exists_of_isOk (hsucceeds sent state)
    obtain ⟨reached, hfailed⟩ := htail hok hvisited between hsecond
    exact ⟨reached, (bind_of_ok (hmaps.mpr ⟨sent, hok, hvisited⟩)).trans hfailed⟩

/-- What is made of a value cannot fail. -/
theorem FailsAlike.map {read : Decoding σ ε α} {plain : Decoding Unit ε α}
    (hfailsAlike : FailsAlike read plain) (f g : α → β) :
    FailsAlike (read >>= fun value => pure (f value)) (plain >>= fun value => pure (g value)) := by
  intro cursor last cause state hfailed
  rcases bind_eq_error_iff.mp hfailed with herror | ⟨sent, middle, hok, hpure⟩
  · obtain ⟨reached, hfailed⟩ := hfailsAlike state herror
    exact ⟨reached, bind_of_error hfailed⟩
  · cases hpure

/-- A read that is repeated fails at the same repetition, as all before it succeed in both. -/
theorem FailsAlike.readMany {read : Decoding σ ε α} {plain : Decoding Unit ε α}
    {visit : α → EStateM ε σ α} (hmaps : Maps read plain visit)
    (hsucceeds : ∀ sent state, isOk (visit sent state) = true) (hfailsAlike : FailsAlike read plain)
    (count : Nat) : FailsAlike (readMany read count) (readMany plain count) := by
  induction count with
  | zero => exact failsAlike_pure [] []
  | succ count ih =>
      exact .bind hmaps hsucceeds hfailsAlike fun {_ _ _ _ sent value} _ _ =>
        ih.map (value :: ·) (sent :: ·)

end Decoding

open Decoding Cursor

section Fields

variable {mapper : HandleMapper σ ε} {mapping mapping' : HandleMapping}
  {f : HandleType → UInt64 → UInt64}

/-- The content of a field fails alike if both readings count the same elements. -/
theorem failsAlike_decodeContent (spec : FieldSpec)
    (hmaps : Maps (decodeElement mapper mapping spec.name spec.type)
      (decodeElement .identity mapping' spec.name spec.type)
      (spec.type.visit fun type => mapper type mapping))
    (hanswers : mapper.Answers mapping f)
    (helement : FailsAlike (decodeElement mapper mapping spec.name spec.type)
      (decodeElement .identity mapping' spec.name spec.type)) {sent scope : Record}
    (helementCount : spec.elementCount (ε := ε) scope = spec.elementCount sent) :
    FailsAlike (decodeContent mapper mapping spec scope)
      (decodeContent .identity mapping' spec sent) := by
  unfold decodeContent
  rw [helementCount]
  cases spec.elementCount (ε := ε) sent with
  | error cause => exact failsAlike_throw cause
  | ok number =>
      cases number with
      | none => exact helement
      | some number =>
          -- The mapper knows every handle, so only the bytes can make an element fail.
          have hsucceeds (value : Value) (state : σ) :
              isOk (spec.type.visit (fun type => mapper type mapping) value state) = true := by
            rw [visit_of_answers hanswers]
            rfl
          exact .behind fun _ =>
            (helement.readMany hmaps hsucceeds number).map Value.array Value.array

mutual

/-- An element fails with a mapper that always answers where it fails without one. -/
theorem failsAlike_decodeElement (hanswers : mapper.Answers mapping f) (field : String) :
    (type : FieldType) → type.plainlyCounted = true →
    FailsAlike (decodeElement mapper mapping field type)
      (decodeElement .identity mapping' field type)
  | .int type, _ => by
      unfold decodeElement
      split
      · exact .behind fun _ => failsAlike_pure _ _
      · exact .behind fun _ => failsAlike_pure _ _
  | .float32, _ | .enum _, _ | .flags _, _ | .text _, _ => .behind fun _ => failsAlike_pure _ _
  | .handle type, _ => .behind fun handle => by
      intro cursor last cause state hbind
      cases hbind
  | .struct schema, hplain => (failsAlike_decodeStruct hanswers schema hplain).map Value.struct
      Value.struct
termination_by structural type => type

/-- A structure fails alike if none of its fields is counted by a handle. -/
theorem failsAlike_decodeStruct (hanswers : mapper.Answers mapping f) : (schema : StructSchema) →
    schema.plainlyCounted = true →
    FailsAlike (decodeStruct mapper mapping schema) (decodeStruct .identity mapping' schema)
  | ⟨name, tag, fields⟩, hplain => .behind fun _ => by
      rw [decodeFields_nil, decodeFields_nil]
      exact failsAlike_decodeBehind hanswers fields [] hplain .nil
termination_by structural schema => schema

/-- A field fails alike behind fields that were read alike but for handles, none of which counts
it. -/
theorem failsAlike_decodeField (hanswers : mapper.Answers mapping f) : (spec : FieldSpec) →
    (earlier : List FieldSpec) → spec.plainlyCounted earlier = true → {sent scope : Record} →
    Aligned earlier sent scope →
    FailsAlike (decodeField mapper mapping spec scope) (decodeField .identity mapping' spec sent)
  | ⟨name, type, isOptional, count⟩, earlier, hplain, sent, scope, haligned => by
      have htypePlain : type.plainlyCounted = true := (Bool.and_eq_true_iff.mp hplain).1
      have hcontent := failsAlike_decodeContent ⟨name, type, isOptional, count⟩
        (maps_decodeElement name type htypePlain) hanswers
        (failsAlike_decodeElement hanswers name type htypePlain) (haligned.elementCount_eq hplain)
      cases isOptional with
      | false =>
          rw [decodeField_of_required rfl, decodeField_of_required rfl]
          exact hcontent
      | true =>
          rw [decodeField_of_optional rfl, decodeField_of_optional rfl]
          refine .behind fun present => ?_
          cases present with
          | true => exact hcontent
          | false => exact failsAlike_pure _ _
termination_by structural spec => spec

/-- Fields fail with a mapper that always answers where they fail without one. -/
theorem failsAlike_decodeBehind (hanswers : mapper.Answers mapping f) :
    (fields earlier : List FieldSpec) → FieldSpec.allPlainlyCounted fields earlier = true →
    {sent scope : Record} → Aligned earlier sent scope →
    FailsAlike (decodeBehind mapper mapping fields scope)
      (decodeBehind .identity mapping' fields sent)
  | [], _, _, _, _, _ => failsAlike_pure [] []
  | spec :: rest, earlier, hplain, sent, scope, haligned => by
      obtain ⟨hplainlyCounted, hallPlainlyCounted⟩ := Bool.and_eq_true_iff.mp hplain
      have hsucceeds (value : Value) (state : σ) :
          isOk (spec.visit (fun type => mapper type mapping) value state) = true := by
        rw [visitField_of_answers hanswers]
        rfl
      refine .bind (maps_decodeField spec earlier hplainlyCounted haligned) hsucceeds
        (failsAlike_decodeField hanswers spec earlier hplainlyCounted haligned)
        fun hdecodeField hvisit => ?_
      have hbehind := haligned.concat (admits_decodeField spec sent hdecodeField)
        (blank_visitField spec _ hvisit)
      exact (failsAlike_decodeBehind hanswers rest (earlier ++ [spec]) hallPlainlyCounted
        hbehind).map _ _
termination_by structural fields => fields

end

/-- A visitor that notes the handles it meets. -/
def noteHandle (handle : UInt64) : EStateM ε (List UInt64) UInt64 := fun seen =>
  .ok handle (seen ++ [handle])

/-- The leaves of a well typed record are the handles that a visitor meets, in the same order. -/
theorem leaves_eq_visited {fields : List FieldSpec} {record : Record}
    (hallAdmit : FieldSpec.allAdmit fields record = true) :
    (FieldSpec.allLeaves fields record).map (·.2)
      = stateOf (Value.traverseFields (noteHandle (ε := ε)) record []) := by
  let noting : HandleMapper (List UInt64) ε := fun _ _ => noteHandle
  have hanswers : noting.Answers .normal fun _ handle => handle := fun _ _ _ => ⟨_, rfl⟩
  have hnoted (leaves : List (HandleType × UInt64)) (seen : List UInt64) :
      noting.afterAll .normal leaves seen = seen ++ leaves.map (·.2) := by
    induction leaves generalizing seen with
    | nil => exact (List.append_nil seen).symm
    | cons leaf rest ih => exact (ih _).trans (List.append_assoc ..)
  rw [← visitAll_eq_traverseFields noteHandle fields hallAdmit]
  exact (congrArg stateOf ((visitAll_of_answers hanswers fields record []).trans
    (congrArg _ (hnoted _ [])))).symm

/-- No parameter of a call is counted by a handle. Where none is, a mapper that always answers has
no say in whether fields are read and in where the reading ends. It gives what was sent with its
answers in place of the handles, and it was called on each leaf of what was sent, exactly once, with
the declared type and the given way of mapping, in the order in which a visitor meets the
handles. -/
theorem decodeFields_of_answers (hanswers : mapper.Answers mapping f) {fields : List FieldSpec}
    (hallPlainlyCounted : FieldSpec.allPlainlyCounted fields [] = true) (cursor : Cursor)
    (state : σ) :
    (∀ call ∈ CallDescriptor.catalog, FieldSpec.allPlainlyCounted call.fields [] = true) ∧
      (∀ {sent : Record} {after : Cursor},
        decodeFields (HandleMapper.identity (σ := Unit) (ε := ε)) mapping fields [] (cursor, ())
          = .ok sent (after, ()) →
        decodeFields mapper mapping fields [] (cursor, state)
            = .ok (FieldSpec.mapAll f fields sent)
              (after, mapper.afterAll mapping (FieldSpec.allLeaves fields sent) state) ∧
          (FieldSpec.allLeaves fields sent).map (·.2)
            = stateOf (Value.traverseFields (noteHandle (ε := ε)) sent [])) ∧
      ∀ {cause : WireError ε} {last : Cursor},
        decodeFields (HandleMapper.identity (σ := Unit) (ε := ε)) mapping fields [] (cursor, ())
          = .error cause (last, ()) →
        ∃ reached, decodeFields mapper mapping fields [] (cursor, state)
          = .error cause (last, reached) := by
  refine ⟨CallDescriptor.fields_plainlyCounted, fun hdecodeFields => ⟨?_, ?_⟩, fun hfailed => ?_⟩
  · rw [decodeFields_nil] at hdecodeFields ⊢
    exact (maps_decodeBehind fields [] hallPlainlyCounted .nil).mpr
      ⟨_, hdecodeFields, visitAll_of_answers hanswers fields _ state⟩
  · obtain ⟨back, rfl, hallAdmit⟩ := allAdmit_decodeFields fields [] hdecodeFields
    exact leaves_eq_visited hallAdmit
  · rw [decodeFields_nil] at hfailed ⊢
    exact failsAlike_decodeBehind hanswers fields [] hallPlainlyCounted .nil state hfailed

end Fields

/-- A mapper that notes what it is called on, and adds to a handle the tag of its type. -/
def taggingMapper : HandleMapper (List (HandleType × HandleMapping × UInt64)) Empty :=
  fun type mapping handle calls =>
    .ok (handle + type.tag.toUInt64) (calls ++ [(type, mapping, handle)])

/-- An array of structures in an array of structures, and an array that is absent. -/
def updateRecord (device set sampler image view : UInt64) : Record :=
  [("device", .handle device), ("descriptorWriteCount", .uint 1),
    ("pDescriptorWrites", .array [.struct
      [("dstSet", .handle set), ("dstBinding", .uint 0), ("dstArrayElement", .uint 0),
        ("descriptorCount", .uint 1), ("descriptorType", .enum 1),
        ("pImageInfo", .array [
          .struct [("sampler", .handle sampler), ("imageView", .handle image),
            ("imageLayout", .enum 5)]]),
        ("pBufferInfo", .absent), ("pTexelBufferView", .array [.handle view])]]),
    ("descriptorCopyCount", .uint 0), ("pDescriptorCopies", .array [])]

/-- The guest writes one descriptor of an image and copies none. -/
def updatePayload : Bytes :=
  IntType.u64.encode 100 ++ IntType.u32.encode 1 ++ IntType.u32.encode 35 ++ [0, 0, 0, 0]
    ++ IntType.u64.encode 200 ++ IntType.u32.encode 0 ++ IntType.u32.encode 0
    ++ IntType.u32.encode 1 ++ IntType.u32.encode 1 ++ encodeSentinel true
    ++ IntType.u64.encode 300 ++ IntType.u64.encode 0 ++ IntType.u32.encode 5
    ++ encodeSentinel false ++ encodeSentinel true ++ IntType.u64.encode 500 ++ IntType.u32.encode 0

/-- Each handle of the payload is mapped by its declared type. -/
theorem decodeFields_of_answers_updatePayload :
    taggingMapper.Answers .normal (fun type handle => handle + type.tag.toUInt64) ∧
      FieldSpec.allPlainlyCounted CallDescriptor.updateDescriptorSets.fields [] = true ∧
      decodeFields (HandleMapper.identity (σ := Unit) (ε := Empty)) .normal
          CallDescriptor.updateDescriptorSets.fields [] (start (updatePayload ++ [1]), ())
        = .ok (updateRecord 100 200 300 0 500) (⟨100, [1]⟩, ()) ∧
      decodeFields taggingMapper .normal
          CallDescriptor.updateDescriptorSets.fields [] (start (updatePayload ++ [1]), [])
        = .ok (updateRecord 103 213 315 9 523) (⟨100, [1]⟩,
          [(.device, .normal, 100), (.descriptorSet, .normal, 200), (.sampler, .normal, 300),
            (.imageView, .normal, 0), (.bufferView, .normal, 500)]) := by
  have hanswers : taggingMapper.Answers .normal fun type handle => handle + type.tag.toUInt64 :=
    fun _ _ _ => ⟨_, rfl⟩
  have hallPlainlyCounted : FieldSpec.allPlainlyCounted CallDescriptor.updateDescriptorSets.fields
      [] = true := by
    decide +kernel
  have hdecodeFields : decodeFields (HandleMapper.identity (σ := Unit) (ε := Empty)) .normal
      CallDescriptor.updateDescriptorSets.fields [] (start (updatePayload ++ [1]), ())
        = .ok (updateRecord 100 200 300 0 500) (⟨100, [1]⟩, ()) := rfl
  -- What is read without a mapper gives what is read with it, and the mapper's calls.
  obtain ⟨-, hreads, -⟩ :=
    decodeFields_of_answers hanswers hallPlainlyCounted (start (updatePayload ++ [1])) []
  exact ⟨hanswers, hallPlainlyCounted, hdecodeFields, (hreads hdecodeFields).1⟩

end CallStream
