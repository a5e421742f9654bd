import CallStream.Proofs.Within
import CallStream.Value.Handles

/-!
# Visiting the handles of a value

A traversal runs a step on every handle in a value, in wire order, so it does what the step does on
each of them: it stays within what the step stays within on these handles, and if the step can only
give one answer for a handle, the traversal can only give the value with these answers in place.

## Main results

* `Inherited.traverseHandles`: a traversal has what chains inherit from their steps.
* `traverseHandles_eq_ok`: a traversal gives the value with every handle replaced.
* `mapM_of_traverseHandles`: a traversal goes from handle to handle and changes nothing else.
* `resolve?_mapHandles`: a path leads to what it led to before, with its handles replaced.
-/

namespace CallStream

namespace Value

/-! ### Replaced handles -/

/-- What visits every element as a traversal does visits the array as a traversal does. -/
theorem mapM_eq_traverseElements {m : Type → Type} [Monad m] [LawfulMonad m]
    {f : UInt64 → m UInt64} {step : Value → m Value} {elements : List Value}
    (heach : ∀ value ∈ elements, step value = value.traverseHandles f) :
    elements.mapM step = traverseElements f elements := by
  induction elements with
  | nil => rw [traverseElements, List.mapM_nil]
  | cons value rest ih =>
      obtain ⟨hfirst, hothers⟩ := List.forall_mem_cons.mp heach
      rw [traverseElements, List.mapM_cons, hfirst, ih hothers]

section Replacing

variable (f : UInt64 → UInt64)

/-- Visiting the handles of elements without effects is mapping them. -/
theorem traverseElements_id (elements : List Value) :
    traverseElements (m := Id) (fun handle => pure (f handle)) elements
      = elements.map (mapHandles f) := by
  induction elements with
  | nil => rfl
  | cons value rest ih =>
      rw [traverseElements, ih]
      rfl

/-- So it is for fields. -/
theorem traverseFields_id (fields : List (String × Value)) :
    traverseFields (m := Id) (fun handle => pure (f handle)) fields
      = fields.map fun (name, value) => (name, value.mapHandles f) := by
  induction fields with
  | nil => rfl
  | cons field rest ih =>
      rw [traverseFields, ih]
      rfl

/-- A handle is mapped. -/
theorem mapHandles_handle (word : UInt64) : (handle word).mapHandles f = handle (f word) := rfl

/-- An array is mapped element by element. -/
theorem mapHandles_array (elements : List Value) :
    (array elements).mapHandles f = array (elements.map (mapHandles f)) := by
  rw [← traverseElements_id]
  rfl

/-- A structure is mapped field by field, under the same names. -/
theorem mapHandles_struct (fields : List (String × Value)) :
    (struct fields).mapHandles f
      = struct (fields.map fun (name, value) => (name, value.mapHandles f)) := by
  rw [← traverseFields_id]
  rfl

end Replacing

end Value

namespace Record

/-- The record with every handle replaced. -/
def mapHandles (f : UInt64 → UInt64) (record : Record) : Record :=
  record.map fun (name, value) => (name, value.mapHandles f)

/-- The handles inside a record, in wire order. -/
def handles (record : Record) : List UInt64 := Value.fieldHandles record

/-- Under a name, a mapped record has the mapped value. -/
theorem get?_mapHandles (f : UInt64 → UInt64) (record : Record) (name : String) :
    get? (mapHandles f record) name = (get? record name).map (Value.mapHandles f) := by
  induction record with
  | nil => rfl
  | cons entry rest ih =>
      obtain ⟨other, value⟩ := entry
      simp only [get?, mapHandles, List.map_cons, List.lookup_cons]
      split
      · rfl
      · exact ih

/-- A path leads to what it led to before, with its handles replaced. -/
theorem resolve?_mapHandles (f : UInt64 → UInt64) (record : Record) (path : List String) :
    resolve? (mapHandles f record) path = (resolve? record path).map (Value.mapHandles f) := by
  induction path generalizing record with
  | nil => rfl
  | cons name path ih =>
      cases path with
      | nil => exact get?_mapHandles f record name
      | cons inner path =>
          simp only [resolve?, get?_mapHandles]
          cases get? record name with
          | none => rfl
          | some value =>
              cases value with
              | struct fields =>
                  simp only [Option.map_some, Value.mapHandles_struct]
                  exact ih fields
              | array elements =>
                simp only [Option.map_some, Value.mapHandles_array, Option.map_none]
              | _ => rfl

end Record

/-! ### How far a traversal goes -/

section Inherited

open Value

variable {m : Type → Type} [Monad m] {property : (α : Type) → m α → Prop} {f : UInt64 → m UInt64}
  (hinherited : Inherited property)

include hinherited

mutual

/-- A traversal has what chains inherit, if its step has it on the handles of the value. -/
theorem Inherited.traverseHandles : (value : Value) →
    (∀ word ∈ value.handles, property _ (f word)) →
    property _ (value.traverseHandles f)
  | .handle word, heach =>
    hinherited.bind (heach word (List.mem_singleton_self word)) fun _ => hinherited.pure _
  | .array elements, heach =>
    hinherited.bind (Inherited.traverseElements elements heach) fun _ => hinherited.pure _
  | .struct fields, heach =>
    hinherited.bind (Inherited.traverseFields fields heach) fun _ => hinherited.pure _
  | .uint _, _ | .sint _, _ | .float _, _ | .enum _, _ | .flags _, _ | .text _, _ | .absent, _ =>
    hinherited.pure _
termination_by structural value => value

/-- The property is handed on from the handles to the elements. -/
theorem Inherited.traverseElements : (elements : List Value) →
    (∀ word ∈ elementHandles elements, property _ (f word)) →
    property _ (Value.traverseElements f elements)
  | [], _ => hinherited.pure _
  | value :: rest, heach =>
    hinherited.bind
      (Inherited.traverseHandles value fun word hmem => heach word (List.mem_append_left _ hmem))
      fun _ => hinherited.bind
        (Inherited.traverseElements rest fun word hmem => heach word (List.mem_append_right _ hmem))
        fun _ => hinherited.pure _
termination_by structural elements => elements

/-- And from there to the fields. -/
theorem Inherited.traverseFields : (fields : List (String × Value)) →
    (∀ word ∈ fieldHandles fields, property _ (f word)) →
    property _ (Value.traverseFields f fields)
  | [], _ => hinherited.pure _
  | (_, value) :: rest, heach =>
    hinherited.bind
      (Inherited.traverseHandles value fun word hmem => heach word (List.mem_append_left _ hmem))
      fun _ => hinherited.bind
        (Inherited.traverseFields rest fun word hmem => heach word (List.mem_append_right _ hmem))
        fun _ => hinherited.pure _
termination_by structural fields => fields

end

end Inherited

/-! ### What a traversal gives -/

namespace Value

section Answers

variable {ε σ : Type} {f : UInt64 → EStateM ε σ UInt64} {holds : List UInt64 → σ → Prop}
  {answer : UInt64 → UInt64} {known : UInt64 → Prop}

/-- While the invariant holds, the step has one answer for a handle, only if the handle is known,
and keeps the invariant. The invariant may speak of the handles that were visited so far. -/
def Answers (holds : List UInt64 → σ → Prop) (answer : UInt64 → UInt64) (known : UInt64 → Prop)
    (f : UInt64 → EStateM ε σ UInt64) (word : UInt64) : Prop :=
  ∀ ⦃seen : List UInt64⦄ ⦃before after : σ⦄ ⦃result : UInt64⦄, holds seen before →
    f word before = .ok result after → holds (seen ++ [word]) after ∧ result = answer word ∧
    known word

mutual

/-- A traversal gives the value with every handle replaced, and only if all of them are known. -/
theorem traverseHandles_eq_ok : (value : Value) →
    (∀ word ∈ value.handles, Answers holds answer known f word) → {before after : σ} →
    {seen : List UInt64} → {result : Value} → holds seen before →
    value.traverseHandles f before = .ok result after →
    holds (seen ++ value.handles) after ∧ result = value.mapHandles answer ∧
      ∀ word ∈ value.handles, known word
  | .handle word, heach, before, after, seen, result, hstart, hok => by
      obtain ⟨mapped, middle, hstepped, hpure⟩ := bind_eq_ok_iff.mp hok
      cases hpure
      obtain ⟨hkept, rfl, hknown⟩ := heach word (List.mem_singleton_self word) hstart hstepped
      exact ⟨hkept, rfl, fun _ hmem => List.mem_singleton.mp hmem ▸ hknown⟩
  | .array elements, heach, before, after, seen, result, hstart, hok => by
      obtain ⟨mapped, middle, hvisited, hpure⟩ := bind_eq_ok_iff.mp hok
      cases hpure
      obtain ⟨hkept, rfl, hknown⟩ := traverseElements_eq_ok elements heach hstart hvisited
      exact ⟨hkept, (mapHandles_array answer elements).symm, hknown⟩
  | .struct fields, heach, before, after, seen, result, hstart, hok => by
      obtain ⟨mapped, middle, hvisited, hpure⟩ := bind_eq_ok_iff.mp hok
      cases hpure
      obtain ⟨hkept, rfl, hknown⟩ := traverseFields_eq_ok fields heach hstart hvisited
      exact ⟨hkept, (mapHandles_struct answer fields).symm, hknown⟩
  -- Values without handles are passed over.
  | .uint _, _, _, _, seen, _, hstart, hok | .sint _, _, _, _, seen, _, hstart, hok
  | .float _, _, _, _, seen, _, hstart, hok | .enum _, _, _, _, seen, _, hstart, hok
  | .flags _, _, _, _, seen, _, hstart, hok | .text _, _, _, _, seen, _, hstart, hok
  | .absent, _, _, _, seen, _, hstart, hok => by
      cases hok
      exact ⟨(List.append_nil seen).symm ▸ hstart, rfl, fun _ hmem => absurd hmem List.not_mem_nil⟩
termination_by structural value => value

/-- Elements are visited in order, and each handle among them is answered. -/
theorem traverseElements_eq_ok : (elements : List Value) →
    (∀ word ∈ elementHandles elements, Answers holds answer known f word) → {before after : σ} →
    {seen : List UInt64} → {results : List Value} → holds seen before →
    traverseElements f elements before = .ok results after →
    holds (seen ++ elementHandles elements) after ∧ results = elements.map (mapHandles answer) ∧
      ∀ word ∈ elementHandles elements, known word
  | [], _, before, after, seen, results, hstart, hok => by
      cases hok
      exact ⟨(List.append_nil seen).symm ▸ hstart, rfl, fun _ hmem => absurd hmem List.not_mem_nil⟩
  | value :: rest, heach, before, after, seen, results, hstart, hok => by
      obtain ⟨first, middle, hvisited, hbind⟩ := bind_eq_ok_iff.mp hok
      obtain ⟨others, last, hvisitedRest, hpure⟩ := bind_eq_ok_iff.mp hbind
      cases hpure
      obtain ⟨hkept, rfl, hknown⟩ := traverseHandles_eq_ok value
        (fun word hmem => heach word (List.mem_append_left _ hmem)) hstart hvisited
      obtain ⟨hkept, rfl, hothers⟩ := traverseElements_eq_ok rest
        (fun word hmem => heach word (List.mem_append_right _ hmem)) hkept hvisitedRest
      rw [List.append_assoc] at hkept
      exact ⟨hkept, rfl, fun word hmem => (List.mem_append.mp hmem).elim (hknown word)
        (hothers word)⟩
termination_by structural elements => elements

/-- So are fields. -/
theorem traverseFields_eq_ok : (fields : List (String × Value)) →
    (∀ word ∈ fieldHandles fields, Answers holds answer known f word) → {before after : σ} →
    {seen : List UInt64} → {results : Record} → holds seen before →
    traverseFields f fields before = .ok results after →
    holds (seen ++ fieldHandles fields) after ∧ results = Record.mapHandles answer fields ∧
      ∀ word ∈ fieldHandles fields, known word
  | [], _, before, after, seen, results, hstart, hok => by
      cases hok
      exact ⟨(List.append_nil seen).symm ▸ hstart, rfl, fun _ hmem => absurd hmem List.not_mem_nil⟩
  | (name, value) :: rest, heach, before, after, seen, results, hstart, hok => by
      obtain ⟨first, middle, hvisited, hbind⟩ := bind_eq_ok_iff.mp hok
      obtain ⟨others, last, hvisitedRest, hpure⟩ := bind_eq_ok_iff.mp hbind
      cases hpure
      obtain ⟨hkept, rfl, hknown⟩ := traverseHandles_eq_ok value
        (fun word hmem => heach word (List.mem_append_left _ hmem)) hstart hvisited
      obtain ⟨hkept, rfl, hothers⟩ := traverseFields_eq_ok rest
        (fun word hmem => heach word (List.mem_append_right _ hmem)) hkept hvisitedRest
      rw [List.append_assoc] at hkept
      exact ⟨hkept, rfl, fun word hmem => (List.mem_append.mp hmem).elim (hknown word)
        (hothers word)⟩
termination_by structural fields => fields

end

end Answers

/-! ### Leaf by leaf -/

section Leaves

variable {ε σ : Type} {f : UInt64 → EStateM ε σ UInt64}

mutual

/-- A traversal takes one handle after another through its step, and changes nothing else. -/
theorem mapM_of_traverseHandles : (value : Value) → {before after : σ} → {result : Value} →
    value.traverseHandles f before = .ok result after →
    value.handles.mapM f before = .ok result.handles after ∧
      result.mapHandles (fun _ => 0) = value.mapHandles fun _ => 0
  | .handle word, before, after, result, hok => by
      obtain ⟨mapped, middle, hstepped, hpure⟩ := bind_eq_ok_iff.mp hok
      cases hpure
      rw [handles, List.mapM_cons, bind_of_ok hstepped, List.mapM_nil]
      exact ⟨rfl, rfl⟩
  | .array elements, before, after, result, hok => by
      obtain ⟨mapped, middle, hvisited, hpure⟩ := bind_eq_ok_iff.mp hok
      cases hpure
      obtain ⟨hstepped, hsame⟩ := mapM_of_traverseElements elements hvisited
      rw [mapHandles_array, mapHandles_array, hsame]
      exact ⟨hstepped, rfl⟩
  | .struct fields, before, after, result, hok => by
      obtain ⟨mapped, middle, hvisited, hpure⟩ := bind_eq_ok_iff.mp hok
      cases hpure
      obtain ⟨hstepped, hsame⟩ := mapM_of_traverseFields fields hvisited
      rw [mapHandles_struct, mapHandles_struct]
      exact ⟨hstepped, congrArg struct hsame⟩
  -- Values without handles are passed over.
  | .uint _, _, _, _, hok | .sint _, _, _, _, hok | .float _, _, _, _, hok | .enum _, _, _, _, hok
  | .flags _, _, _, _, hok | .text _, _, _, _, hok | .absent, _, _, _, hok => by
      cases hok
      exact ⟨rfl, rfl⟩
termination_by structural value => value

/-- Visiting elements is visiting the list of their handles, and nothing but handles changes. -/
theorem mapM_of_traverseElements : (elements : List Value) → {before after : σ} →
    {results : List Value} → traverseElements f elements before = .ok results after →
    (elementHandles elements).mapM f before = .ok (elementHandles results) after ∧
      results.map (mapHandles fun _ => 0) = elements.map (mapHandles fun _ => 0)
  | [], _, _, _, hok => by
      cases hok
      exact ⟨rfl, rfl⟩
  | value :: rest, before, after, results, hok => by
      obtain ⟨first, middle, hvisited, hbind⟩ := bind_eq_ok_iff.mp hok
      obtain ⟨others, last, hvisitedRest, hpure⟩ := bind_eq_ok_iff.mp hbind
      cases hpure
      obtain ⟨hstepped, hsame⟩ := mapM_of_traverseHandles value hvisited
      obtain ⟨hsteppedRest, hsameRest⟩ := mapM_of_traverseElements rest hvisitedRest
      rw [elementHandles, List.mapM_append, bind_of_ok hstepped, bind_of_ok hsteppedRest,
        List.map_cons, List.map_cons, hsame, hsameRest]
      exact ⟨rfl, rfl⟩
termination_by structural elements => elements

/-- So is visiting fields. -/
theorem mapM_of_traverseFields : (fields : List (String × Value)) → {before after : σ} →
    {results : Record} → traverseFields f fields before = .ok results after →
    (fieldHandles fields).mapM f before = .ok (fieldHandles results) after ∧
      Record.mapHandles (fun _ => 0) results = Record.mapHandles (fun _ => 0) fields
  | [], _, _, _, hok => by
      cases hok
      exact ⟨rfl, rfl⟩
  | (name, value) :: rest, before, after, results, hok => by
      obtain ⟨first, middle, hvisited, hbind⟩ := bind_eq_ok_iff.mp hok
      obtain ⟨others, last, hvisitedRest, hpure⟩ := bind_eq_ok_iff.mp hbind
      cases hpure
      obtain ⟨hstepped, hsame⟩ := mapM_of_traverseHandles value hvisited
      obtain ⟨hsteppedRest, hsameRest⟩ := mapM_of_traverseFields rest hvisitedRest
      rw [fieldHandles, List.mapM_append, bind_of_ok hstepped, bind_of_ok hsteppedRest]
      refine ⟨rfl, ?_⟩
      show (name, first.mapHandles _) :: Record.mapHandles _ others
        = (name, value.mapHandles _) :: Record.mapHandles _ rest
      rw [hsame, hsameRest]
termination_by structural fields => fields

end

end Leaves

end Value

end CallStream
