import CallStream.Codec.Count

/-!
# Values without handles

A reader that knows nothing of objects takes a handle for the word that it is. `plain` makes the
same of a value that was read with handles. Counts do not see the difference.

## Main results

* `elementCount_plain`: an array is as long among plain values as among those they come from.
-/

namespace CallStream

namespace Value

mutual

/-- The value with every handle in it taken for its word. -/
def plain : Value → Value
  | .handle word => .uint word
  | .array elements => .array (plainElements elements)
  | .struct fields => .struct (plainFields fields)
  | value => value
termination_by structural value => value

/-- `plain` of every element of an array. -/
def plainElements : List Value → List Value
  | [] => []
  | value :: rest => plain value :: plainElements rest
termination_by structural values => values

/-- `plain` of every member of a structure. -/
def plainFields : List (String × Value) → List (String × Value)
  | [] => []
  | (name, value) :: rest => (name, plain value) :: plainFields rest
termination_by structural fields => fields

end

/-- The elements of an array are made plain one by one. -/
theorem plainElements_eq_map (elements : List Value) :
    plainElements elements = elements.map plain := by
  induction elements with
  | nil => rfl
  | cons value rest ih => rw [plainElements, ih, List.map_cons]

/-- So an array is made plain by its elements. -/
theorem plain_array (elements : List Value) : (array elements).plain =
      array (elements.map plain) := by
  rw [plain, plainElements_eq_map]

end Value

namespace Record

/-- The record with every handle in it taken for its word. -/
def plain (record : Record) : Record := Value.plainFields record

/-- Records one behind the other are made plain one by one. -/
theorem plain_append (front back : Record) : plain (front ++ back) = plain front ++ plain back := by
  induction front with
  | nil => rfl
  | cons entry rest ih => exact congrArg ((entry.1, entry.2.plain) :: ·) ih

/-- Under a name, a plain record has the plain value. -/
theorem get?_plain (record : Record) (name : String) :
    get? (plain record) name = (get? record name).map Value.plain := by
  induction record with
  | nil => rfl
  | cons entry rest ih =>
      obtain ⟨other, value⟩ := entry
      simp only [get?, plain, Value.plainFields, List.lookup_cons]
      split
      · rfl
      · exact ih

/-- A path leads to the plain form of what it leads to in the record itself. -/
theorem resolve?_plain (record : Record) (path : List String) :
    resolve? (plain record) path = (resolve? record path).map Value.plain := by
  induction path generalizing record with
  | nil => rfl
  | cons name path ih =>
      cases path with
      | nil => exact get?_plain record name
      | cons inner path =>
          simp only [resolve?, get?_plain]
          cases get? record name with
          | none => rfl
          | some value =>
              cases value with
              | struct fields => exact ih fields
              | _ => rfl

end Record

/-- An array is as long among plain values as among those they come from. -/
theorem FieldSpec.elementCount_plain {ε : Type} (spec : FieldSpec) (scope : Record) :
    spec.elementCount (ε := ε) scope.plain = spec.elementCount scope := by
  unfold elementCount
  split
  · rfl
  · rfl
  · rw [Record.resolve?_plain]
    cases Record.resolve? scope _ with
    | none => rfl
    | some value => cases value <;> rfl

end CallStream
