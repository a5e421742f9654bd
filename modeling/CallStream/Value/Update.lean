import CallStream.Value.Basic

/-!
# Changing values

Replacing a part of a record. A path names members of structures; in an array it goes on with an
index in decimal. A path that leads nowhere changes nothing.

## Main results

- `get?_change_self`, `get?_change_of_ne`: a change concerns the first value of its name alone.
-/

namespace CallStream

namespace Record

/-- Changes the first value of a name. -/
def change (f : Value → Value) (name : String) : Record → Record
  | [] => []
  | (other, value) :: rest =>
    if other = name then (other, f value) :: rest else (other, value) :: change f name rest

/-- Under the changed name, what was found is found changed. -/
theorem get?_change_self (f : Value → Value) (name : String) (record : Record) :
    get? (change f name record) name = (get? record name).map f := by
  induction record with
  | nil => rfl
  | cons entry rest ih =>
    obtain ⟨other, value⟩ := entry
    by_cases heq : other = name
    · simp [change, get?, heq]
    · have hbeq : (name == other) = false := by simpa using Ne.symm heq
      simp only [change, heq, if_false, get?, List.lookup_cons, hbeq]
      exact ih

/-- Under other names, what was found is found. -/
theorem get?_change_of_ne {f : Value → Value} {name other : String} (h : other ≠ name)
    (record : Record) : get? (change f name record) other = get? record other := by
  induction record with
  | nil => rfl
  | cons entry rest ih =>
    obtain ⟨first, value⟩ := entry
    by_cases heq : first = name
    · subst heq
      have hbeq : (other == first) = false := by simpa using h
      simp [change, get?, List.lookup_cons, hbeq]
    · simp only [change, heq, if_false, get?, List.lookup_cons]
      split
      · rfl
      · exact ih

end Record

/-- Replaces what a path leads to. -/
def Value.setAt (new : Value) : List String → Value → Value
  | [], _ => new
  | name :: path, .struct fields => .struct (Record.change (setAt new path) name fields)
  | index :: path, .array elements =>
    match index.toNat? with
    | some place => .array (elements.modify place (setAt new path))
    | none => .array elements
  | _ :: _, value => value

/-- Replaces what a path leads to in a record. -/
def Record.setAt (record : Record) (path : List String) (new : Value) : Record :=
  match path with
  | [] => record
  | name :: path => change (Value.setAt new path) name record

end CallStream
