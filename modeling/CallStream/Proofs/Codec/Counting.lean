import CallStream.Proofs.Codec.Decoded
import CallStream.Proofs.Value.Traversal

/-!
# Counts among mapped values

Handles go through a mapper while a payload is read, so the integer that counts an array is looked
up among values whose handles were mapped already. If no array of a layout is counted by a handle,
that makes no difference: what was read is well typed, so the path of a count leads to what the
layout says, and a mapper changes nothing but handles. The layout of every call is of this kind.

## Main results

* `FieldSpec.admits_of_resolve?`: a path in a well typed record leads to what its layout says.
* `Aligned.elementCount_eq`: an array is as long among mapped values as among those that were sent.
* `fields_plainlyCounted`: no parameter of a call is counted by a handle.
-/

namespace CallStream

/-! ### Layouts whose counts are no handles -/

mutual

/-- Whether no array in an element is counted by a handle. Mapping handles would change such a
count, and with it what is read. -/
def FieldType.plainlyCounted : FieldType → Bool
  | .struct schema => schema.plainlyCounted
  | _ => true
termination_by structural type => type

/-- Whether no array in a structure is counted by a handle. -/
def StructSchema.plainlyCounted : StructSchema → Bool
  | ⟨_, _, fields⟩ => FieldSpec.allPlainlyCounted fields []
termination_by structural schema => schema

/-- Whether no array in a field behind the fields in `earlier` is counted by a handle. -/
def FieldSpec.plainlyCounted : FieldSpec → (earlier : List FieldSpec) → Bool
  | ⟨_, type, _, count⟩, earlier =>
    type.plainlyCounted &&
      match count with
      | .field path _ => (FieldSpec.counter? earlier path).all (·.handleType?.isNone)
      | _ => true
termination_by structural spec => spec

/-- Whether no array in fields behind the fields in `earlier` is counted by a handle. -/
def FieldSpec.allPlainlyCounted : List FieldSpec → (earlier : List FieldSpec) → Bool
  | [], _ => true
  | spec :: rest, earlier =>
    spec.plainlyCounted earlier && FieldSpec.allPlainlyCounted rest (earlier ++ [spec])
termination_by structural fields => fields

end

/-- No parameter of a call is counted by a handle. -/
theorem CallDescriptor.fields_plainlyCounted : ∀ call ∈ catalog,
    FieldSpec.allPlainlyCounted call.fields [] = true := by
  decide +kernel

/-! ### Well typed values behind a path -/

namespace FieldSpec

/-- Fields admit a record with one value more, if the next field admits the value. -/
theorem allAdmit_concat {earlier : List FieldSpec} {record : Record}
    (hallAdmit : allAdmit earlier record = true) {spec : FieldSpec} {value : Value}
    (hadmits : spec.admits value = true) :
    allAdmit (earlier ++ [spec]) (record ++ [(spec.name, value)]) = true := by
  induction earlier generalizing record with
  | nil =>
      cases record with
      | nil => simp only [List.nil_append, allAdmit, beq_self_eq_true, hadmits, Bool.and_self]
      | cons entry rest => cases hallAdmit
  | cons first others ih =>
      cases record with
      | nil => cases hallAdmit
      | cons entry rest =>
          obtain ⟨name, held⟩ := entry
          simp only [allAdmit, Bool.and_eq_true] at hallAdmit
          simp only [List.cons_append, allAdmit, Bool.and_eq_true]
          exact ⟨hallAdmit.1, ih hallAdmit.2⟩

/-- A value that is found in a record of given fields is one that the field of that name admits. -/
theorem admits_of_get? {earlier : List FieldSpec} {record : Record}
    (hallAdmit : allAdmit earlier record = true) {name : String} {value : Value}
    (hget : record.get? name = some value) :
    ∃ spec, named? earlier name = some spec ∧ spec.admits value = true := by
  induction earlier generalizing record with
  | nil =>
      cases record with
      | nil => cases hget
      | cons entry rest => cases hallAdmit
  | cons first others ih =>
      cases record with
      | nil => cases hallAdmit
      | cons entry rest =>
          obtain ⟨other, held⟩ := entry
          simp only [allAdmit, Bool.and_eq_true, beq_iff_eq] at hallAdmit
          obtain ⟨⟨rfl, hadmits⟩, hlater⟩ := hallAdmit
          simp only [Record.get?, List.lookup_cons] at hget
          -- Fields and values have the same names in the same order, so both look-ups stop at the
          -- same place.
          by_cases hname : first.name = name
          · subst hname
            rw [beq_self_eq_true] at hget
            cases hget
            exact ⟨first, List.find?_cons_of_pos (beq_self_eq_true _), hadmits⟩
          · have hbeq : (name == first.name) = false := by simpa using Ne.symm hname
            rw [hbeq] at hget
            obtain ⟨spec, hnamed, hadmits⟩ := ih hlater hget
            exact ⟨spec, (List.find?_cons_of_neg (by simpa using hname)).trans hnamed, hadmits⟩

/-- A well typed record has a value for every field of its layout. -/
theorem get?_of_allAdmit {fields : List FieldSpec} {record : Record}
    (hallAdmit : allAdmit fields record = true) {name : String} {spec : FieldSpec}
    (hnamed : named? fields name = some spec) :
    ∃ value, record.get? name = some value ∧ spec.admits value = true := by
  induction fields generalizing record with
  | nil => cases hnamed
  | cons first others ih =>
      cases record with
      | nil => cases hallAdmit
      | cons entry rest =>
          obtain ⟨other, held⟩ := entry
          simp only [allAdmit, Bool.and_eq_true, beq_iff_eq] at hallAdmit
          obtain ⟨⟨rfl, hadmits⟩, hlater⟩ := hallAdmit
          simp only [Record.get?, List.lookup_cons]
          -- A look-up by name takes the first field of that name, in the layout as in the record.
          by_cases hname : first.name = name
          · subst hname
            simp only [named?, List.find?_cons, beq_self_eq_true] at hnamed
            cases hnamed
            exact ⟨held, by rw [beq_self_eq_true], hadmits⟩
          · have hbeq : (name == first.name) = false := by simpa using Ne.symm hname
            rw [named?, List.find?_cons_of_neg (by simpa using hname)] at hnamed
            rw [hbeq]
            exact ih hlater hnamed

/-- A well typed record has the names of its layout. -/
theorem names_of_allAdmit {fields : List FieldSpec} {record : Record}
    (hallAdmit : allAdmit fields record = true) : record.map (·.1) = fields.map (·.name) := by
  induction fields generalizing record with
  | nil =>
      cases record with
      | nil => rfl
      | cons entry rest => cases hallAdmit
  | cons spec others ih =>
      cases record with
      | nil => cases hallAdmit
      | cons entry rest =>
          obtain ⟨name, value⟩ := entry
          simp only [allAdmit, Bool.and_eq_true, beq_iff_eq] at hallAdmit
          rw [List.map_cons, List.map_cons, ih hallAdmit.2, hallAdmit.1.1]

/-- A field that holds a structure is no array, and the structure is well typed. -/
theorem members?_of_admits {spec : FieldSpec} {fields : Record}
    (h : spec.admits (.struct fields) = true) :
    ∃ members, spec.members? = some members ∧ allAdmit members fields = true := by
  obtain ⟨name, type, isOptional, count⟩ := spec
  cases count with
  | fixed | field => cases h
  | one =>
      cases type with
      | struct schema =>
          obtain ⟨name, tag, members⟩ := schema
          exact ⟨members, rfl, h⟩
      | _ => cases h

/-- What a path leads to in a well typed record is well typed for the field it leads to. -/
theorem admits_of_resolve? {earlier : List FieldSpec} {record : Record}
    (hallAdmit : allAdmit earlier record = true) {path : List String} {value : Value}
    (hresolve : record.resolve? path = some value) :
    ∃ counter, counter? earlier path = some counter ∧ counter.admits value = true := by
  induction path generalizing earlier record with
  | nil => cases hresolve
  | cons name path ih =>
      cases path with
      | nil => exact admits_of_get? hallAdmit hresolve
      | cons inner path =>
          simp only [Record.resolve?] at hresolve
          split at hresolve
          · next fields hholds =>
              obtain ⟨spec, hnamed, hadmits⟩ := admits_of_get? hallAdmit hholds
              obtain ⟨members, hinside, hallAdmit⟩ := members?_of_admits hadmits
              obtain ⟨counter, hleads, hadmits⟩ := ih hallAdmit hresolve
              refine ⟨counter, ?_, hadmits⟩
              simp only [counter?, hnamed, Option.bind_some, hinside]
              exact hleads
          · cases hresolve

/-- Only a field of handles holds a handle. -/
theorem handleType?_of_admits {spec : FieldSpec} {word : UInt64}
    (h : spec.admits (.handle word) = true) : spec.handleType?.isSome = true := by
  obtain ⟨name, type, isOptional, count⟩ := spec
  cases count with
  | fixed | field => cases h
  | one =>
      cases type with
      | handle type => rfl
      | _ => cases h

/-- A path that counts an array does not lead to a handle. -/
theorem ne_handle_of_plainlyCounted {spec : FieldSpec} {earlier : List FieldSpec}
    (hplainlyCounted : spec.plainlyCounted earlier = true) {record : Record}
    (hallAdmit : allAdmit earlier record = true) {path : List String} {divisor : Nat}
    (hcount : spec.count = .field path divisor) (word : UInt64) :
    record.resolve? path ≠ some (.handle word) := by
  intro hresolve
  obtain ⟨counter, hleads, hadmits⟩ := admits_of_resolve? hallAdmit hresolve
  obtain ⟨name, type, isOptional, count⟩ := spec
  cases hcount
  simp only [plainlyCounted, hleads, Option.all_some, Bool.and_eq_true,
    Option.isNone_iff_eq_none] at hplainlyCounted
  have hisSome := handleType?_of_admits hadmits
  rw [hplainlyCounted.2] at hisSome
  cases hisSome

/-! ### Counts among mapped values -/

/-- An array is as long whatever its counter's neighbours are mapped to, unless its counter is a
handle itself. -/
theorem elementCount_mapHandles {ε : Type} (f : UInt64 → UInt64) {spec : FieldSpec} {scope : Record}
    (hplain : ∀ path divisor, spec.count = .field path divisor →
      ∀ word, scope.resolve? path ≠ some (.handle word)) :
    spec.elementCount (ε := ε) (scope.mapHandles f) = spec.elementCount scope := by
  unfold elementCount
  cases hcount : spec.count with
  | one | fixed => rfl
  | field path divisor =>
      dsimp only
      rw [Record.resolve?_mapHandles]
      cases hresolve : Record.resolve? scope path with
      | none => rfl
      | some value =>
          cases value with
          | handle word => exact absurd hresolve (hplain path divisor hcount word)
          | array elements => simp only [Option.map_some, Value.mapHandles_array, Value.toWord?]
          | struct fields => simp only [Option.map_some, Value.mapHandles_struct, Value.toWord?]
          | _ => rfl

end FieldSpec

/-- Nothing can be told from handles that are all null. Two values with one blank form differ in
their handles only. -/
abbrev Value.blank : Value → Value := Value.mapHandles fun _ => 0

/-- The values read so far, as they were sent and as they were mapped: they differ in their handles
only, and those that were sent are well typed. -/
structure Aligned (earlier : List FieldSpec) (sent scope : Record) : Prop where
  typed : FieldSpec.allAdmit earlier sent = true
  blank : scope.mapHandles (fun _ => 0) = sent.mapHandles (fun _ => 0)

namespace Aligned

variable {earlier : List FieldSpec} {sent scope : Record}

/-- Where nothing was read, both readings agree. -/
theorem nil : Aligned [] [] [] := ⟨rfl, rfl⟩

/-- They still agree behind a value that differs in handles only. -/
theorem concat (h : Aligned earlier sent scope) {spec : FieldSpec} {value mapped : Value}
    (hadmits : spec.admits value = true) (hblank : mapped.blank = value.blank) :
    Aligned (earlier ++ [spec]) (sent ++ [(spec.name, value)])
    (scope ++ [(spec.name, mapped)]) where
  typed := FieldSpec.allAdmit_concat h.typed hadmits
  blank := by
    have hfronts := h.blank
    simp only [Record.mapHandles] at hfronts ⊢
    rw [List.map_append, List.map_append, hfronts, List.map_singleton, List.map_singleton]
    simp only [Value.blank] at hblank
    rw [hblank]

/-- An array is as long among mapped values as among those that were sent. -/
theorem elementCount_eq {ε : Type} (h : Aligned earlier sent scope) {spec : FieldSpec}
    (hplainlyCounted : spec.plainlyCounted earlier = true) :
    spec.elementCount (ε := ε) scope = spec.elementCount sent := by
  have hsentPlain (path : List String) (divisor : Nat)
      (hcount : spec.count = .field path divisor) :=
    FieldSpec.ne_handle_of_plainlyCounted hplainlyCounted h.typed hcount
  have hscopePlain (path : List String) (divisor : Nat) (hcount : spec.count = .field path divisor)
      (word : UInt64) : scope.resolve? path ≠ some (.handle word) := by
    intro hresolve
    have hblanked := Record.resolve?_mapHandles (fun _ => 0) scope path
    rw [h.blank, Record.resolve?_mapHandles, hresolve, Option.map_some, Value.mapHandles_handle,
      Option.map_eq_some_iff] at hblanked
    obtain ⟨value, hleads, hhidden⟩ := hblanked
    cases value with
    | handle word => exact hsentPlain path divisor hcount word hleads
    | array elements =>
        rw [Value.mapHandles_array] at hhidden
        cases hhidden
    | struct fields =>
        rw [Value.mapHandles_struct] at hhidden
        cases hhidden
    | _ => cases hhidden
  -- Neither reading has a handle where the count is, so both have the count that is left when
  -- handles are blanked.
  rw [← FieldSpec.elementCount_mapHandles (fun _ => 0) hscopePlain, h.blank,
    FieldSpec.elementCount_mapHandles (fun _ => 0) hsentPlain]

end Aligned

end CallStream
