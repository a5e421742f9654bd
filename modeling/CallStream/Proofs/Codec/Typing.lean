import CallStream.Proofs.Codec.Canonical

/-!
# Well typed records

A record is well typed for a layout if it has exactly the layout's fields, in its order and at every
level, and each holds a value of its type: integers of the right sign and within the range of their
width, arrays of elements of one type, structures that are well typed themselves. Only an optional
field may be absent. Nothing is said about counts; a record whose counts are wrong cannot be
written.

A value *fits* if its arrays and texts are short enough for a 32-bit length. This is the only bound
on a record that is to be written, and it says nothing about types.

## Main results

* `canonicalFields_of_admits`: a well typed record is its own canonical form.
-/

namespace CallStream

/-! ### Values that fit -/

namespace Value

mutual

/-- Whether every array and every text in a value has a 32-bit length. The length of a text is
written in 32 bits, and so are most counts. -/
def fits : Value → Bool
  | .text content => (Bytes.ofText content).length < UInt32.size
  | .array elements => elements.length < UInt32.size && elementsFit elements
  | .struct fields => fieldsFit fields
  | _ => true
termination_by structural value => value

/-- `fits` of every element of an array. -/
def elementsFit : List Value → Bool
  | [] => true
  | value :: rest => fits value && elementsFit rest
termination_by structural values => values

/-- `fits` of every member of a structure. -/
def fieldsFit : List (String × Value) → Bool
  | [] => true
  | (_, value) :: rest => fits value && fieldsFit rest
termination_by structural fields => fields

end

/-- The elements of an array that fits do so one by one. -/
theorem fits_of_mem_elements {elements : List Value} (h : elementsFit elements = true)
    {value : Value} (hmem : value ∈ elements) : value.fits = true := by
  induction elements with
  | nil => cases hmem
  | cons first rest ih =>
      simp only [elementsFit, Bool.and_eq_true] at h
      rcases List.mem_cons.mp hmem with rfl | hlater
      · exact h.1
      · exact ih h.2 hlater

end Value

/-- Whether everything in a record has a 32-bit length, members that no layout names included. -/
def Record.fits (record : Record) : Bool := Value.fieldsFit record

/-- What a record that fits holds fits. -/
theorem Record.fits_of_get? {record : Record} (h : record.fits = true) {name : String}
    {value : Value} (hget : record.get? name = some value) : value.fits = true := by
  induction record with
  | nil => cases hget
  | cons entry rest ih =>
      obtain ⟨other, first⟩ := entry
      simp only [Record.fits, Value.fieldsFit, Bool.and_eq_true] at h
      simp only [Record.get?, List.lookup_cons] at hget
      split at hget
      · cases hget
        exact h.1
      · exact ih h.2 hget

/-! ### Well typed values -/

mutual

/-- Whether a value is a well typed element: of the kind that the type asks for, and an integer
within the width of its field. -/
def FieldType.admits : FieldType → Value → Bool
  | .int type, .uint word => !type.signed && word.toNat < type.width.capacity
  | .int type, .sint value =>
    type.signed && -(type.width.capacity : Int) ≤ 2 * value.toInt
      && 2 * value.toInt < type.width.capacity
  | .float32, .float _ => true
  | .enum _, .enum _ => true
  | .flags _, .flags _ => true
  | .handle _, .handle _ => true
  | .text _, .text _ => true
  | .struct schema, .struct fields => schema.admits fields
  | _, _ => false
termination_by structural type => type

/-- Whether a record is a well typed structure. -/
def StructSchema.admits : StructSchema → Record → Bool
  | ⟨_, _, fields⟩, record => FieldSpec.allAdmit fields record
termination_by structural schema => schema

/-- Whether a value is well typed for a field. -/
def FieldSpec.admits : FieldSpec → Value → Bool
  | ⟨_, _, isOptional, _⟩, .absent => isOptional
  | ⟨_, type, _, .one⟩, value => type.admits value
  | ⟨_, type, _, _⟩, .array elements => elements.all type.admits
  | _, _ => false
termination_by structural spec => spec

/-- Whether a record has exactly the given fields, in order, each with a well typed value. Whatever
is read for the fields is such a record. -/
def FieldSpec.allAdmit : List FieldSpec → Record → Bool
  | [], [] => true
  | spec :: rest, (name, value) :: record =>
    spec.name == name && spec.admits value && FieldSpec.allAdmit rest record
  | _, _ => false
termination_by structural fields => fields

end

/-- Entries under the names of other fields do not hide one. -/
theorem Record.get?_append_of_fresh {front : Record} {earlier : List FieldSpec} {name : String}
    (hnames : front.map (·.1) = earlier.map (·.name))
    (hfresh : FieldSpec.named? earlier name = none)
    (back : Record) : Record.get? (front ++ back) name = Record.get? back name := by
  have hlookup : List.lookup name front = none := by
    rw [List.lookup_eq_none_iff]
    intro entry hmem
    have hamong : entry.1 ∈ earlier.map (·.name) := hnames ▸ List.mem_map_of_mem hmem
    obtain ⟨spec, hspecMem, hname⟩ := List.mem_map.mp hamong
    have hne := List.find?_eq_none.mp hfresh spec hspecMem
    rw [← hname]
    simpa using fun hhit : name = spec.name => hne (by simp [hhit])
  rw [Record.get?, List.lookup_append, hlookup, Option.none_or, Record.get?]

/-! ### Well typed records are canonical -/

mutual

/-- A well typed element is read back as it was. -/
theorem canonical_of_admits : (type : FieldType) → type.wellLaid = true → (value : Value) →
    type.admits value = true → type.canonical value = value
  | .int type, _, .uint word, htyped => by
      simp only [FieldType.admits, Bool.and_eq_true, Bool.not_eq_true', decide_eq_true_eq] at htyped
      simp only [FieldType.canonical, IntType.stored, htyped.1, Bool.false_eq_true, if_false,
        IntType.decode_encode_of_lt htyped.2]
  | .int type, _, .sint value, htyped => by
      simp only [FieldType.admits, Bool.and_eq_true, decide_eq_true_eq] at htyped
      simp only [FieldType.canonical, IntType.stored, htyped.1.1, if_true,
        IntType.signExtend_decode_encode htyped.1.2 htyped.2]
  | .struct schema, hlaid, .struct fields, htyped => by
      rw [FieldType.canonical, schema_canonical_of_admits schema hlaid fields htyped]
  | .float32, _, .float _, _ | .enum _, _, .enum _, _ | .flags _, _, .flags _, _ => rfl
  | .handle _, _, .handle _, _ | .text _, _, .text _, _ => rfl
termination_by structural type => type

/-- A structure that the layout admits is its own canonical form. -/
theorem schema_canonical_of_admits : (schema : StructSchema) → schema.wellLaid = true →
    (record : Record) → schema.admits record = true → schema.canonical record = record
  | ⟨_, _, fields⟩, hlaid, record, htyped =>
      canonicalFields_of_admits fields [] hlaid [] rfl record htyped
termination_by structural schema => schema

/-- So is the value of a field. -/
theorem field_canonical_of_admits : (spec : FieldSpec) → spec.type.wellLaid = true →
    (value : Value) → spec.admits value = true → spec.canonical value = value
  | ⟨name, type, isOptional, count⟩, hlaid, value, htyped => by
      have helement := canonical_of_admits type hlaid
      have harray (elements : List Value) (htyped : elements.all type.admits = true) :
          elements.map type.canonical = elements := by
        have hmap : elements.map type.canonical = elements.map id :=
          List.map_congr_left fun value hmem =>
          helement value (List.all_eq_true.mp htyped value hmem)
        rw [hmap, List.map_id]
      cases count with
      | one =>
          cases value with
          | absent => exact FieldSpec.canonical_absent _
          | _ => exact helement _ htyped
      | fixed count | field path divisor =>
          cases value with
          | absent => exact FieldSpec.canonical_absent _
          | array elements => exact congrArg Value.array (harray elements htyped)
          | _ => cases htyped
termination_by structural spec => spec

/-- A well typed record is read back as it was, also behind entries under other names. -/
theorem canonicalFields_of_admits : (fields earlier : List FieldSpec) →
    FieldSpec.allWellLaid fields earlier = true → (front : Record) →
    front.map (·.1) = earlier.map (·.name) → (back : Record) →
    FieldSpec.allAdmit fields back = true →
    FieldSpec.canonicalFields fields (front ++ back) = back
  | [], _, _, _, _, [], _ => rfl
  | spec :: rest, earlier, hlaid, front, hnames, (name, value) :: back, htyped => by
      simp only [FieldSpec.allWellLaid, Bool.and_eq_true] at hlaid
      simp only [FieldSpec.allAdmit, Bool.and_eq_true, beq_iff_eq] at htyped
      obtain ⟨⟨rfl, hvalueTyped⟩, hbackTyped⟩ := htyped
      have hplaced := FieldSpec.placed_of_wellLaid hlaid.1
      have hget : Record.get? (front ++ (spec.name, value) :: back) spec.name = some value := by
        rw [Record.get?_append_of_fresh hnames hplaced.fresh, Record.get?, List.lookup_cons_self]
      have hcanonicalFields := canonicalFields_of_admits rest (earlier ++ [spec]) hlaid.2
        (front ++ [(spec.name, value)]) (by simp [hnames]) back hbackTyped
      rw [List.append_assoc, List.singleton_append] at hcanonicalFields
      rw [FieldSpec.canonicalFields_cons_of_some hget, hcanonicalFields,
        field_canonical_of_admits spec hplaced.type_wellLaid value hvalueTyped]
termination_by structural fields => fields

end

end CallStream
