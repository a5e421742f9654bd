import CallStream.Proofs.Codec.Counting

/-!
# Reading with mapped handles

Handles go through a mapper while a payload is read. Reading with a mapper gives what was sent with
its handles visited afterwards, in wire order, as long as no array is counted by a handle; so what a
mapper does can be said of values alone, without any reading.

A read *maps* a plain one if it succeeds exactly when the plain one does and a visit of what that
gives does, and then leaves the same bytes and gives what the visit gives.

## Main results

* `Maps.cons`, `Maps.readMany`: reads that map plain ones do so one behind the other.
* `maps_decodeField`: a field is read with a mapper as it is without one and visited afterwards.
* `visit_eq_traverseHandles`: visiting by the layout is visiting in wire order.
-/

namespace CallStream

/-! ### Visiting by the layout -/

section Visits

variable {m : Type → Type} [Monad m] (f : HandleType → UInt64 → m UInt64)

mutual

/-- Replaces the handles in an element, each by what `f` makes of it and its type. -/
def FieldType.visit : FieldType → Value → m Value
  | .handle type, .handle word => do
    let word ← f type word
    pure (.handle word)
  | .struct schema, .struct fields => do
    let fields ← schema.visit fields
    pure (.struct fields)
  | _, value => pure value
termination_by structural type => type

/-- Replaces the handles in a structure. -/
def StructSchema.visit : StructSchema → Record → m Record
  | ⟨_, _, fields⟩, record => FieldSpec.visitAll fields record
termination_by structural schema => schema

/-- Replaces the handles in the value of a field. -/
def FieldSpec.visit : FieldSpec → Value → m Value
  | ⟨_, type, _, .one⟩, value => type.visit value
  | ⟨_, type, _, _⟩, .array elements => do
    let elements ← elements.mapM type.visit
    pure (.array elements)
  | _, value => pure value
termination_by structural spec => spec

/-- Replaces the handles in the values of fields, in order. -/
def FieldSpec.visitAll : List FieldSpec → Record → m Record
  | spec :: rest, (name, value) :: record => do
    let value ← spec.visit value
    let record ← FieldSpec.visitAll rest record
    pure ((name, value) :: record)
  | _, record => pure record
termination_by structural fields => fields

end

end Visits

section Blank

variable {σ ε : Type} {f : HandleType → UInt64 → EStateM ε σ UInt64}

/-- If every element is only changed in its handles, so is the array. -/
theorem yields_mapM_blank {step : Value → EStateM ε σ Value}
    (heach : ∀ value, Yields (step value) fun result => result.blank = value.blank)
    (elements : List Value) :
    Yields (elements.mapM step) fun results =>
      results.map Value.blank = elements.map Value.blank := by
  induction elements with
  | nil => exact yields_pure rfl
  | cons value rest ih =>
      rw [List.mapM_cons]
      refine (heach value).bind fun first hblank => ih.map fun others hmap => ?_
      rw [List.map_cons, hblank, hmap, List.map_cons]

mutual

/-- A visit changes nothing but handles. -/
theorem blank_visit : (type : FieldType) → (value : Value) →
    Yields (type.visit f value) fun result => result.blank = value.blank
  | .handle type, value => by
      cases value with
      | handle word => exact (yields_true _).map fun _ _ => rfl
      | _ => exact yields_pure rfl
  | .struct schema, value => by
      cases value with
      | struct fields =>
          refine (blank_visitStruct schema fields).map fun record hsame => ?_
          rw [Value.blank, Value.mapHandles_struct, Value.mapHandles_struct]
          exact congrArg Value.struct hsame
      | _ => exact yields_pure rfl
  | .int _, _ | .float32, _ | .enum _, _ | .flags _, _ | .text _, _ => yields_pure rfl
termination_by structural type => type

/-- Visiting a structure changes nothing but its handles. -/
theorem blank_visitStruct : (schema : StructSchema) → (record : Record) →
    Yields (schema.visit f record) fun result =>
      result.mapHandles (fun _ => 0) = record.mapHandles fun _ => 0
  | ⟨_, _, fields⟩, record => blank_visitAll fields record
termination_by structural schema => schema

/-- Visiting a field changes nothing but its handles, and none where it is absent. -/
theorem blank_visitField : (spec : FieldSpec) → (value : Value) →
    Yields (spec.visit f value) fun result => result.blank = value.blank
  | ⟨_, type, _, count⟩, value => by
      have heach := blank_visit type
      cases count with
      | one => exact heach value
      | fixed | field =>
          cases value with
          | array elements =>
              refine (yields_mapM_blank heach elements).map fun results hsame => ?_
              rw [Value.blank, Value.mapHandles_array, Value.mapHandles_array]
              exact congrArg Value.array hsame
          | _ => exact yields_pure rfl
termination_by structural spec => spec

/-- So it is for fields one after another. -/
theorem blank_visitAll : (fields : List FieldSpec) → (record : Record) →
    Yields (FieldSpec.visitAll f fields record) fun result =>
      result.mapHandles (fun _ => 0) = record.mapHandles fun _ => 0
  | spec :: rest, (name, value) :: record => (blank_visitField spec value).bind fun first hsame =>
      (blank_visitAll rest record).map fun others hmapHandles => by
        simp only [Record.mapHandles, List.map_cons] at hmapHandles ⊢
        rw [hmapHandles]
        exact congrArg (fun value => (name, value) :: _) hsame
  | [], _ | _ :: _, [] => yields_pure rfl
termination_by structural fields => fields

end

end Blank

/-! ### Reads that map plain ones -/

namespace Decoding

variable {σ ε α β γ : Type}

/-- The read succeeds exactly if the plain one does and the visit of what that gives does. It leaves
the bytes that the plain one leaves, and its value and the mapper's state are those of the visit. -/
def Maps (read : Decoding σ ε α) (plain : Decoding Unit ε α) (visit : α → EStateM ε σ α) : Prop :=
  ∀ ⦃cursor after : Cursor⦄ ⦃state last : σ⦄ ⦃value : α⦄,
    read (cursor, state) = .ok value (after, last) ↔
      ∃ sent, plain (cursor, ()) = .ok sent (after, ()) ∧ visit sent state = .ok value last

/-- A read that fails maps one that fails: there is nothing to visit. -/
theorem maps_throw (cause : WireError ε) (visit : α → EStateM ε σ α) :
    Maps (throw cause) (throw cause) visit := by
  intro cursor after state last value
  constructor
  · intro hthrow
    cases hthrow
  · rintro ⟨sent, hthrow, -⟩
    cases hthrow

/-- A value without handles is its own image. -/
theorem maps_pure {value : α} {visit : α → EStateM ε σ α} (hsame : visit value = pure value) :
    Maps (pure value) (pure value) visit := by
  intro cursor after state last result
  constructor
  · intro hpure
    cases hpure
    exact ⟨value, rfl, congrFun hsame state⟩
  · rintro ⟨sent, hpure, hok⟩
    cases hpure
    rw [hsame] at hok
    cases hok
    rfl

/-- What is made of a value is visited as the value is. -/
theorem Maps.map {read : Decoding σ ε α} {plain : Decoding Unit ε α} {visit : α → EStateM ε σ α}
    (hmaps : Maps read plain visit) {f : α → β} {visit' : β → EStateM ε σ β}
    (hsame : ∀ value, visit' (f value) = visit value >>= fun value => pure (f value)) :
    Maps (read >>= fun value => pure (f value)) (plain >>= fun value => pure (f value)) visit' := by
  intro cursor after state last result
  constructor
  · intro hbind
    obtain ⟨value, ⟨middle, reached⟩, hok, hpure⟩ := bind_eq_ok_iff.mp hbind
    cases hpure
    obtain ⟨sent, hplainly, hvisited⟩ := hmaps.mp hok
    exact ⟨f sent, bind_of_ok hplainly, by rw [hsame, bind_of_ok hvisited]; rfl⟩
  · rintro ⟨made, hbind, hvisited⟩
    obtain ⟨sent, middle, hplainly, hwrapped⟩ := bind_eq_ok_iff.mp hbind
    cases hwrapped
    rw [hsame] at hvisited
    obtain ⟨value, reached, hvisited, hwrapped⟩ := bind_eq_ok_iff.mp hvisited
    cases hwrapped
    exact bind_of_ok (hmaps.mpr ⟨sent, hplainly, hvisited⟩)

/-- A read that no mapper concerns may come first. -/
theorem Maps.behind {read : Read ε β} {next : β → Decoding σ ε α}
    {plainNext : β → Decoding Unit ε α}
    {visit : α → EStateM ε σ α} (htail : ∀ value, Maps (next value) (plainNext value) visit) :
    Maps (onCursor read >>= next) (onCursor read >>= plainNext) visit := by
  intro cursor after state last result
  constructor
  · intro hbind
    obtain ⟨value, ⟨middle, reached⟩, honCursor, hok⟩ := bind_eq_ok_iff.mp hbind
    obtain ⟨hfirst, rfl⟩ := onCursor_eq_ok_iff.mp honCursor
    obtain ⟨sent, hplainly, hvisited⟩ := (htail value).mp hok
    exact ⟨sent, (bind_of_ok (onCursor_of_ok hfirst ())).trans hplainly, hvisited⟩
  · rintro ⟨sent, hbind, hvisited⟩
    obtain ⟨value, ⟨middle, reached⟩, honCursor, hok⟩ := bind_eq_ok_iff.mp hbind
    obtain ⟨hfirst, -⟩ := onCursor_eq_ok_iff.mp honCursor
    exact (bind_of_ok (onCursor_of_ok hfirst state)).trans ((htail value).mpr ⟨sent, hok, hvisited⟩)

/-- A value that holds no handles is read alike with any mapper. -/
theorem maps_onCursor {read : Read ε α} {wrap : α → β} {visit : β → EStateM ε σ β}
    (hsame : ∀ value, visit (wrap value) = pure (wrap value)) :
    Maps (onCursor read >>= fun value => pure (wrap value))
      (onCursor read >>= fun value => pure (wrap value)) visit :=
  Maps.behind fun value => maps_pure (hsame value)

/-- Two reads, the second of which may depend on the value of the first: what they give together is
visited one behind the other. -/
theorem Maps.cons {read : Decoding σ ε α} {plain : Decoding Unit ε α} {visit : α → EStateM ε σ α}
    {next : α → Decoding σ ε β} {plainNext : α → Decoding Unit ε β} {visitNext : β → EStateM ε σ β}
    {join : α → β → γ} {visitBoth : γ → EStateM ε σ γ} (hmaps : Maps read plain visit)
    (htail : ∀ {cursor after : Cursor} {state last : σ} {sent value : α},
      plain (cursor, ()) = .ok sent (after, ()) → visit sent state = .ok value last →
        Maps (next value) (plainNext sent) visitNext)
    (hsame : ∀ first second, visitBoth (join first second)
      = visit first >>= fun first => visitNext second >>= fun second => pure (join first second)) :
    Maps (read >>= fun first => next first >>= fun second => pure (join first second))
      (plain >>= fun first => plainNext first >>= fun second => pure (join first second))
      visitBoth := by
  intro cursor after state last result
  constructor
  -- What the first read gives is what the visit makes of what was sent, so the second read has what
  -- `htail` asks for.
  · intro hbind
    obtain ⟨value, ⟨middle, reached⟩, hok, hrest⟩ := bind_eq_ok_iff.mp hbind
    obtain ⟨others, ⟨ending, final⟩, hcontinued, hpure⟩ := bind_eq_ok_iff.mp hrest
    cases hpure
    obtain ⟨sent, hplainly, hvisited⟩ := hmaps.mp hok
    obtain ⟨sentOthers, hplainlyRest, hvisitedRest⟩ := (htail hplainly hvisited).mp hcontinued
    refine ⟨join sent sentOthers, ?_, ?_⟩
    · rw [bind_of_ok hplainly, bind_of_ok hplainlyRest]
      rfl
    · rw [hsame, bind_of_ok hvisited, bind_of_ok hvisitedRest]
      rfl
  · rintro ⟨both, hbind, hvisitedBoth⟩
    obtain ⟨sent, ⟨middle, reached⟩, hplainly, hrest⟩ := bind_eq_ok_iff.mp hbind
    obtain ⟨sentOthers, ⟨ending, final⟩, hplainlyRest, hpure⟩ := bind_eq_ok_iff.mp hrest
    cases hpure
    rw [hsame] at hvisitedBoth
    obtain ⟨value, between, hvisited, hrest⟩ := bind_eq_ok_iff.mp hvisitedBoth
    obtain ⟨others, ending, hvisitedRest, hpure⟩ := bind_eq_ok_iff.mp hrest
    cases hpure
    rw [bind_of_ok (hmaps.mpr ⟨sent, hplainly, hvisited⟩),
      bind_of_ok ((htail hplainly hvisited).mpr ⟨sentOthers, hplainlyRest, hvisitedRest⟩)]
    rfl

/-- Elements that are read one behind the other are visited one behind the other. -/
theorem Maps.readMany {read : Decoding σ ε α} {plain : Decoding Unit ε α}
    {visit : α → EStateM ε σ α} (hmaps : Maps read plain visit) (count : Nat) :
    Maps (readMany read count) (readMany plain count) (List.mapM visit) := by
  induction count with
  | zero => exact maps_pure List.mapM_nil
  | succ count ih => exact hmaps.cons (fun _ _ => ih) fun _ _ => List.mapM_cons

end Decoding

/-! ### Reading by the layout -/

open Decoding Cursor

section Reading

variable {σ ε : Type} (mapper : HandleMapper σ ε) (mapping mapping' : HandleMapping)

/-- Reads fields and returns them without those that were read before. The reader returns all of
them, so an induction over the fields needs this form. -/
def decodeBehind : List FieldSpec → Record → Decoding σ ε Record
  | [], _ => pure []
  | spec :: rest, scope => do
    let value ← decodeField mapper mapping spec scope
    let others ← decodeBehind rest (scope ++ [(spec.name, value)])
    pure ((spec.name, value) :: others)

/-- Reading fields behind others adds them to those read before. -/
theorem decodeFields_eq (fields : List FieldSpec) (scope : Record) :
    decodeFields mapper mapping fields scope
      = decodeBehind mapper mapping fields scope >>= fun back => pure (scope ++ back) := by
  induction fields generalizing scope with
  | nil =>
      rw [decodeFields, decodeBehind, pure_bind, List.append_nil]
  | cons spec rest ih =>
      simp only [decodeFields, decodeBehind, ih, bind_assoc, pure_bind, List.append_assoc,
        List.singleton_append]

/-- The first fields of a level. -/
theorem decodeFields_nil (fields : List FieldSpec) :
    decodeFields mapper mapping fields [] = decodeBehind mapper mapping fields [] := by
  rw [decodeFields_eq]
  simp only [List.nil_append, bind_pure]

variable {mapper mapping mapping'}

/-- What lies behind a sentinel is mapped if its elements are and its length is the same. -/
theorem maps_decodeContent (spec : FieldSpec)
    (helement : Maps (decodeElement mapper mapping spec.name spec.type)
      (decodeElement .identity mapping' spec.name spec.type)
      (spec.type.visit fun type => mapper type mapping)) {sent scope : Record}
    (helementCount : spec.elementCount (ε := ε) scope = spec.elementCount sent) :
    Maps (decodeContent mapper mapping spec scope) (decodeContent .identity mapping' spec sent)
      (spec.visit fun type => mapper type mapping) := by
  obtain ⟨name, type, isOptional, count⟩ := spec
  unfold decodeContent
  rw [helementCount]
  cases hfound : FieldSpec.elementCount (ε := ε) ⟨name, type, isOptional, count⟩ sent with
  | error cause => exact maps_throw cause _
  | ok number =>
      cases number with
      | none =>
          obtain rfl : count = .one := FieldSpec.elementCount_eq_none_iff.mp hfound
          exact helement
      | some number =>
          -- A field with a count is an array, and its elements are visited one by one.
          have harray : count ≠ .one := fun hone => by
            rw [FieldSpec.elementCount_eq_none_iff.mpr hone] at hfound
            cases hfound
          refine Maps.behind fun _ => (helement.readMany number).map fun elements => ?_
          cases count with
          | one => exact absurd rfl harray
          | fixed | field => rfl

mutual

/-- An element is read with a mapper as it is without one and visited afterwards. -/
theorem maps_decodeElement (field : String) : (type : FieldType) →
    type.plainlyCounted = true →
    Maps (decodeElement mapper mapping field type) (decodeElement .identity mapping' field type)
      (type.visit fun type => mapper type mapping)
  | .int type, _ => by
      unfold decodeElement
      split
      · exact maps_onCursor fun _ => rfl
      · exact maps_onCursor fun _ => rfl
  | .float32, _ | .enum _, _ | .flags _, _ | .text _, _ => maps_onCursor fun _ => rfl
  -- Only here the mapper is asked: what it answers is what visiting the word gives.
  | .handle type, _ => Maps.behind fun handle => by
      intro cursor after state last value
      constructor
      · intro hbind
        obtain ⟨word, ⟨middle, reached⟩, honMapper, hpure⟩ := bind_eq_ok_iff.mp hbind
        cases hpure
        simp only [onMapper] at honMapper
        split at honMapper
        · next hstepped =>
            cases honMapper
            exact ⟨.handle handle, rfl, bind_of_ok hstepped⟩
        · cases honMapper
      · rintro ⟨sent, hbind, hvisit⟩
        cases hbind
        obtain ⟨word, reached, hstepped, hpure⟩ := bind_eq_ok_iff.mp hvisit
        cases hpure
        refine bind_of_ok ?_
        simp only [onMapper, hstepped]
  | .struct schema, hplain => (maps_decodeStruct schema hplain).map fun _ => rfl
termination_by structural type => type

/-- A structure is read with a mapper as it is without one and visited afterwards. -/
theorem maps_decodeStruct : (schema : StructSchema) → schema.plainlyCounted = true →
    Maps (decodeStruct mapper mapping schema) (decodeStruct .identity mapping' schema)
      (schema.visit fun type => mapper type mapping)
  | ⟨name, tag, fields⟩, hplain => Maps.behind fun _ => by
      rw [decodeFields_nil, decodeFields_nil]
      exact maps_decodeBehind fields [] hplain .nil
termination_by structural schema => schema

/-- A field is read with a mapper as it is without one and visited afterwards. -/
theorem maps_decodeField : (spec : FieldSpec) → (earlier : List FieldSpec) →
    spec.plainlyCounted earlier = true → {sent scope : Record} → Aligned earlier sent scope →
    Maps (decodeField mapper mapping spec scope) (decodeField .identity mapping' spec sent)
      (spec.visit fun type => mapper type mapping)
  | ⟨name, type, isOptional, count⟩, earlier, hplain, sent, scope, haligned => by
      have htypePlain : type.plainlyCounted = true := (Bool.and_eq_true_iff.mp hplain).1
      have hcontent := maps_decodeContent ⟨name, type, isOptional, count⟩
        (maps_decodeElement name type htypePlain) (haligned.elementCount_eq hplain)
      cases isOptional with
      | false =>
          rw [decodeField_of_required rfl, decodeField_of_required rfl]
          exact hcontent
      | true =>
          rw [decodeField_of_optional rfl, decodeField_of_optional rfl]
          refine Maps.behind fun present => ?_
          cases present with
          | true => exact hcontent
          | false =>
              -- An absent field has nothing to visit, whatever its count.
              refine maps_pure ?_
              cases count with
              | one => cases type <;> rfl
              | fixed | field => rfl
termination_by structural spec => spec

/-- Fields are read with a mapper as they are without one and visited afterwards. -/
theorem maps_decodeBehind : (fields earlier : List FieldSpec) →
    FieldSpec.allPlainlyCounted fields earlier = true → {sent scope : Record} →
    Aligned earlier sent scope →
    Maps (decodeBehind mapper mapping fields scope) (decodeBehind .identity mapping' fields sent)
      (FieldSpec.visitAll (fun type => mapper type mapping) fields)
  | [], _, _, _, _, _ => maps_pure rfl
  | spec :: rest, earlier, hplain, sent, scope, haligned => by
      obtain ⟨hplainlyCounted, hallPlainlyCounted⟩ := Bool.and_eq_true_iff.mp hplain
      refine (maps_decodeField spec earlier hplainlyCounted haligned).cons
        (fun hdecodeField hvisit => ?_)
        fun _ _ => rfl
      exact maps_decodeBehind rest (earlier ++ [spec]) hallPlainlyCounted
        (haligned.concat (admits_decodeField spec sent hdecodeField)
        (blank_visitField spec _ hvisit))
termination_by structural fields => fields

end

end Reading

/-! ### Visiting in wire order -/

section WireOrder

variable {ε σ : Type} (step : UInt64 → EStateM ε σ UInt64)

mutual

/-- A step that does not look at types visits a well typed element in wire order. -/
theorem visit_eq_traverseHandles : (type : FieldType) → {value : Value} →
    type.admits value = true → type.visit (fun _ => step) value = value.traverseHandles step
  | .handle type, value, htyped => by
      cases value with
      | handle word => rfl
      | _ => cases htyped
  | .struct schema, value, htyped => by
      cases value with
      | struct fields =>
          rw [FieldType.visit, Value.traverseHandles, visitStruct_eq_traverseFields schema htyped]
      | _ => cases htyped
  | .int _, value, htyped | .float32, value, htyped | .enum _, value, htyped
  | .flags _, value, htyped | .text _, value, htyped => by
      cases value with
      | array | struct | handle => cases htyped
      | _ => rfl
termination_by structural type => type

/-- A structure of the right layout is visited handle by handle, if the visitor does not ask for
types. -/
theorem visitStruct_eq_traverseFields : (schema : StructSchema) → {record : Record} →
    schema.admits record = true →
    schema.visit (fun _ => step) record = Value.traverseFields step record
  | ⟨_, _, fields⟩, _, htyped => visitAll_eq_traverseFields fields htyped
termination_by structural schema => schema

/-- Such a step visits the value of a field in wire order. -/
theorem visitField_eq_traverseHandles : (spec : FieldSpec) → {value : Value} →
    spec.admits value = true → spec.visit (fun _ => step) value = value.traverseHandles step
  | ⟨_, type, isOptional, count⟩, value, htyped => by
      have heach {value : Value} (htyped : type.admits value = true) :=
        visit_eq_traverseHandles type htyped
      cases count with
      | one =>
          cases value with
          | absent => cases type <;> rfl
          | _ => exact heach htyped
      | fixed | field =>
          cases value with
          | absent => rfl
          | array elements =>
              rw [Value.traverseHandles, ← Value.mapM_eq_traverseElements fun value hmem =>
                heach (List.all_eq_true.mp htyped value hmem)]
              rfl
          | _ => cases htyped
termination_by structural spec => spec

/-- So are the fields of a record. -/
theorem visitAll_eq_traverseFields : (fields : List FieldSpec) → {record : Record} →
    FieldSpec.allAdmit fields record = true →
    FieldSpec.visitAll (fun _ => step) fields record = Value.traverseFields step record
  | [], [], _ => rfl
  | spec :: rest, (name, value) :: record, htyped => by
      simp only [FieldSpec.allAdmit, Bool.and_eq_true] at htyped
      rw [FieldSpec.visitAll, Value.traverseFields, visitField_eq_traverseHandles spec htyped.1.2,
        visitAll_eq_traverseFields rest htyped.2]
termination_by structural fields => fields

end

end WireOrder

end CallStream
