import CallStream.Value.Basic

/-!
# The handles inside a value

A value may hold handles at any depth, in arrays and in structures. They are visited in wire order.

## Main results

- `traverseHandles_pure`: visiting without changing anything gives the value back.
-/

namespace CallStream

namespace Value

mutual

/-- Replaces every handle inside a value, in wire order, by what `f` makes of it. -/
def traverseHandles {m : Type → Type} [Monad m] (f : UInt64 → m UInt64) : Value → m Value
  | .handle word => do
    let word ← f word
    pure (.handle word)
  | .array elements => do
    let elements ← traverseElements f elements
    pure (.array elements)
  | .struct fields => do
    let fields ← traverseFields f fields
    pure (.struct fields)
  | .uint value => pure (.uint value)
  | .sint value => pure (.sint value)
  | .float bits => pure (.float bits)
  | .enum value => pure (.enum value)
  | .flags mask => pure (.flags mask)
  | .text content => pure (.text content)
  | .absent => pure .absent
termination_by structural value => value

/-- `traverseHandles` on every element of an array. -/
def traverseElements {m : Type → Type} [Monad m] (f : UInt64 → m UInt64) :
    List Value → m (List Value)
  | [] => pure []
  | value :: rest => do
    let value ← traverseHandles f value
    let rest ← traverseElements f rest
    pure (value :: rest)
termination_by structural values => values

/-- `traverseHandles` on every member of a structure. -/
def traverseFields {m : Type → Type} [Monad m] (f : UInt64 → m UInt64) :
    List (String × Value) → m (List (String × Value))
  | [] => pure []
  | (name, value) :: rest => do
    let value ← traverseHandles f value
    let rest ← traverseFields f rest
    pure ((name, value) :: rest)
termination_by structural fields => fields

end

/-- The value with every handle replaced. -/
def mapHandles (f : UInt64 → UInt64) (value : Value) : Value :=
  Id.run (value.traverseHandles fun handle => pure (f handle))

mutual

/-- The handles inside a value, in wire order. -/
def handles : Value → List UInt64
  | .handle word => [word]
  | .array elements => elementHandles elements
  | .struct fields => fieldHandles fields
  | _ => []
termination_by structural value => value

/-- The handles inside the elements of an array. -/
def elementHandles : List Value → List UInt64
  | [] => []
  | value :: rest => handles value ++ elementHandles rest
termination_by structural values => values

/-- The handles inside the members of a structure. -/
def fieldHandles : List (String × Value) → List UInt64
  | [] => []
  | (_, value) :: rest => handles value ++ fieldHandles rest
termination_by structural fields => fields

end

section Laws

variable {m : Type → Type} [Monad m] [LawfulMonad m]

mutual

/-- Visiting every handle without changing it gives the value back. -/
theorem traverseHandles_pure : (value : Value) → value.traverseHandles (m := m) pure = pure value
  | .handle word => by simp [traverseHandles]
  | .array elements => by simp [traverseHandles, traverseElements_pure elements]
  | .struct fields => by simp [traverseHandles, traverseFields_pure fields]
  | .uint _ | .sint _ | .float _ | .enum _ | .flags _ | .text _ | .absent => by
    simp [traverseHandles]

/-- So it is for the elements of an array. -/
theorem traverseElements_pure :
    (values : List Value) → traverseElements (m := m) pure values = pure values
  | [] => by simp [traverseElements]
  | value :: rest => by
    simp [traverseElements, traverseHandles_pure value, traverseElements_pure rest]

/-- And for the fields of a structure. -/
theorem traverseFields_pure :
    (fields : List (String × Value)) → traverseFields (m := m) pure fields = pure fields
  | [] => by simp [traverseFields]
  | (name, value) :: rest => by
    simp [traverseFields, traverseHandles_pure value, traverseFields_pure rest]

end

end Laws

end Value

end CallStream
