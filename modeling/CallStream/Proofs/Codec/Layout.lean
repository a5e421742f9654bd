import CallStream.Codec.Params
import CallStream.Proofs.Codec.Size

/-!
# Layouts that can be read back

The writer looks a count up in the whole record, the reader among the fields it has read so far, and
there the integer has gone through its wire form. Both find the same number in a layout that is
*well laid*: every array is counted by an integer before it that is wide enough for any length an
array can have, no two fields of one level share a name, texts carry their length, and an element
that is taken to have a size has one.

The conditions are computed from the layout, and every call of the stream meets them.

## Main results

* `FieldSpec.Placed`, `placed_of_wellLaid`: what the check of a field establishes.
* `fields_wellLaid`, `capturedFields_wellLaid`: the parameters of every call are well laid, as a
  guest sends them and as a capture records them.
-/

namespace CallStream

namespace FieldSpec

/-! ### Counters -/

/-- The field of a given name. -/
def named? (fields : List FieldSpec) (name : String) : Option FieldSpec :=
  fields.find? (·.name == name)

/-- The members of a field that holds one structure. -/
def members? (spec : FieldSpec) : Option (List FieldSpec) :=
  match spec.type, spec.count with
  | .struct schema, .one => some schema.fields
  | _, _ => none

/-- The field that a path leads to, through structures that are not arrays. It is found in the
layout alone, where a count is looked up in a record. -/
def counter? (fields : List FieldSpec) : List String → Option FieldSpec
  | [] => none
  | [name] => named? fields name
  | name :: path => ((named? fields name).bind members?).bind fun members => counter? members path

/-- Whether a field holds one integer that cannot be negative and that, divided by `divisor`, can
count any array of fewer than `UInt32.size` elements. -/
def counts (counter : FieldSpec) (divisor : Nat) : Bool :=
  counter.count == .one &&
    match counter.type with
    | .int type => !type.signed && UInt32.size * max divisor 1 ≤ type.width.capacity
    | .enum _ | .flags _ | .handle _ => true
    | _ => false

/-- Whether the elements of a field take a byte each, if the reader relies on it. The reader refuses
more elements than there are bytes left, which is right for such fields only. -/
def elementsTakeRoom (spec : FieldSpec) : Bool := !spec.type.hasSize || 0 < spec.type.minSize

/-- Whether the number of elements of a field can be told from the fields before it. The count of an
optional array lies at its own level. -/
def isCounted (spec : FieldSpec) (earlier : List FieldSpec) : Bool :=
  match spec.count with
  | .one => true
  | .fixed _ => spec.elementsTakeRoom
  | .field path divisor =>
    spec.elementsTakeRoom && (!spec.isOptional || path.length == 1)
      && (counter? earlier path).any (·.counts divisor)

/-- The first field of a name is not displaced by fields behind it. -/
theorem named?_append {earlier : List FieldSpec} {name : String} {spec : FieldSpec}
    (h : named? earlier name = some spec) (later : List FieldSpec) :
    named? (earlier ++ later) name = some spec := by
  unfold named? at h ⊢
  rw [List.find?_append, h, Option.some_or]

/-- A field is the first of its name if no field before it has the name. -/
theorem named?_of_fresh {earlier : List FieldSpec} {spec : FieldSpec}
    (h : named? earlier spec.name = none) (later : List FieldSpec) :
    named? (earlier ++ spec :: later) spec.name = some spec := by
  unfold named? at h ⊢
  rw [List.find?_append, h, Option.none_or]
  exact List.find?_cons_of_pos (beq_self_eq_true _)

/-- Fields that come later do not change what a path leads to. -/
theorem counter?_append {earlier : List FieldSpec} {path : List String} {counter : FieldSpec}
    (h : counter? earlier path = some counter) (later : List FieldSpec) :
    counter? (earlier ++ later) path = some counter := by
  rcases path with _ | ⟨name, _ | ⟨inner, path⟩⟩
  · cases h
  · exact named?_append h later
  · simp only [counter?, Option.bind_eq_some_iff] at h ⊢
    obtain ⟨members, ⟨spec, hnamed, hinside⟩, h⟩ := h
    exact ⟨members, ⟨spec, named?_append hnamed later, hinside⟩, h⟩

end FieldSpec

/-! ### Well laid layouts -/

mutual

/-- Whether the elements of a type can be read back. The other encodings of texts may cut a text or
drop zeros, so what they spell is not always read back. -/
def FieldType.wellLaid : FieldType → Bool
  | .text encoding => encoding == .lengthPrefixed
  | .struct schema => schema.wellLaid
  | _ => true
termination_by structural type => type

/-- Whether a structure can be read back. -/
def StructSchema.wellLaid : StructSchema → Bool
  | ⟨_, _, fields⟩ => FieldSpec.allWellLaid fields []
termination_by structural schema => schema

/-- Whether a field can be read back behind the fields in `earlier`: its elements can be, its name
is new, and what counts it is among them. -/
def FieldSpec.wellLaid : FieldSpec → (earlier : List FieldSpec) → Bool
  | ⟨name, type, isOptional, count⟩, earlier =>
    type.wellLaid && (FieldSpec.named? earlier name).isNone
      && FieldSpec.isCounted ⟨name, type, isOptional, count⟩ earlier
termination_by structural spec => spec

/-- Whether fields can be read back, one behind the other and behind the fields in `earlier`. -/
def FieldSpec.allWellLaid : List FieldSpec → (earlier : List FieldSpec) → Bool
  | [], _ => true
  | spec :: rest, earlier =>
    spec.wellLaid earlier && FieldSpec.allWellLaid rest (earlier ++ [spec])
termination_by structural fields => fields

end

namespace FieldSpec

/-- A field behind others that it can be read back from. It is the propositional form of `wellLaid`,
by its parts. -/
structure Placed (spec : FieldSpec) (earlier : List FieldSpec) : Prop where
  type_wellLaid : spec.type.wellLaid = true
  /-- No field before it has its name. -/
  fresh : named? earlier spec.name = none
  counted : spec.isCounted earlier = true

/-- A field that is well laid has its counter in front of it. -/
theorem placed_of_wellLaid {spec : FieldSpec} {earlier : List FieldSpec}
    (h : spec.wellLaid earlier = true) : spec.Placed earlier := by
  obtain ⟨name, type, isOptional, count⟩ := spec
  simp only [wellLaid, Bool.and_eq_true, Option.isNone_iff_eq_none] at h
  exact ⟨h.1.1, h.1.2, h.2⟩

/-- The elements of an array take a byte each, if the reader relies on it. -/
theorem Placed.takesRoom {spec : FieldSpec} {earlier : List FieldSpec} (h : spec.Placed earlier)
    (harray : spec.count ≠ .one) (hsized : spec.type.hasSize = true) : 0 < spec.type.minSize := by
  have hisCounted := h.counted
  unfold isCounted at hisCounted
  split at hisCounted
  · contradiction
  · simpa [elementsTakeRoom, hsized] using hisCounted
  · simp only [Bool.and_eq_true] at hisCounted
    simpa [elementsTakeRoom, hsized] using hisCounted.1.1

/-- A counted array has a counter before it. -/
theorem Placed.counter {spec : FieldSpec} {earlier : List FieldSpec} (h : spec.Placed earlier)
    {path : List String} {divisor : Nat} (hcount : spec.count = .field path divisor) :
    ∃ counter, counter? earlier path = some counter ∧ counter.counts divisor = true := by
  have hisCounted := h.counted
  simp only [isCounted, hcount, Bool.and_eq_true, Option.any_eq_true_iff_get] at hisCounted
  obtain ⟨hisSome, hcounts⟩ := hisCounted.2
  exact ⟨_, (Option.some_get hisSome).symm, hcounts⟩

/-- The counter of an optional array is a field of the same level. -/
theorem Placed.near {spec : FieldSpec} {earlier : List FieldSpec} (h : spec.Placed earlier)
    {path : List String} {divisor : Nat} (hcount : spec.count = .field path divisor)
    (hoptional : spec.isOptional = true) : ∃ name, path = [name] := by
  have hisCounted := h.counted
  simp only [isCounted, hcount, hoptional, Bool.and_eq_true, Bool.not_true, Bool.false_or,
    beq_iff_eq] at hisCounted
  exact List.length_eq_one_iff.mp hisCounted.1.2

end FieldSpec

/-! ### The calls of the stream -/

namespace CallDescriptor

/-- The parameters of every call can be read back. -/
theorem fields_wellLaid : ∀ call ∈ catalog, FieldSpec.allWellLaid call.fields [] = true := by
  decide +kernel

/-- So can those that a capture records. -/
theorem capturedFields_wellLaid : ∀ call ∈ catalog,
    FieldSpec.allWellLaid (call.capturedParams.map (·.field)) [] = true := by
  have hrecorded : ∀ call ∈ catalog, call.isRecorded = true →
      FieldSpec.allWellLaid ((call.params.drop 1).map (·.field)) [] = true := by
    decide +kernel
  intro call hmem
  unfold capturedParams
  split
  · next hisRecorded => exact hrecorded call hmem hisRecorded
  · exact fields_wellLaid call hmem

end CallDescriptor

end CallStream
