import CallStream.Boxing.Id
import CallStream.Text.Number

/-!
# The table of live objects

The table says which driver object an id stands for. Objects enter it when they are created and
leave it when they are destroyed; a slot that was left is used again under its next generation, and
for good left alone once its generations are used up. Ids restored from a snapshot can be reserved;
objects take them, in order, before any new id.

Destroying has two steps. While a call is read, the objects it destroys are only queued, so that
they still resolve for the rest of the call; once it is read, the queue is carried out.

## Main results

- `find?_insert_self`, `find?_insert_of_ne`, `find?_remove_self`, `find?_remove_of_ne`: an entry is
  added or removed without touching another.
- `unwrap_zero`: the null handle stands for itself.
-/

namespace CallStream

/-- One live object. -/
structure BoxedEntry where
  boxed : BoxedId
  /-- The driver's value. -/
  raw : UInt64
  type : HandleType
deriving DecidableEq, Repr

/-- What a handle in the table is good for. -/
def BoxedEntry.kind (entry : BoxedEntry) : HandleKind := entry.type.kind

/-- Why an object could not be found or entered. -/
inductive BoxingError where
  /-- No live object has the id. -/
  | unknownHandle (id : BoxedId)
  /-- There are as many slots as ids can name. -/
  | exhausted (type : HandleType)
deriving DecidableEq, Repr

/-- The wording of a failure. -/
def BoxingError.message : BoxingError → String
  | unknownHandle id => s!"unknown boxed handle {Text.markedHex id.toNat}"
  | exhausted type => s!"boxed handle space exhausted while boxing a {type.name}"

/-- The live objects and what is needed to find new ids. -/
structure BoxTable where
  entries : List BoxedEntry := []
  /-- The generation of each slot: the next one to use, or the one in use. -/
  generations : Array UInt16 := #[]
  /-- The slots that may be used again, the last one freed first. -/
  free : List UInt32 := []
  /-- The ids that the next objects take. -/
  reserved : List BoxedId := []
  /-- The ids destroyed by the current call, in order. -/
  preserved : List BoxedId := []
  /-- The ids to destroy once the current call is read, in order. -/
  pending : List BoxedId := []
deriving Repr

/-- A step on a table. -/
abbrev Boxing (α : Type) := EStateM BoxingError BoxTable α

namespace BoxTable

/-! ### Entries -/

/-- The object that an id stands for. -/
def find? (table : BoxTable) (id : BoxedId) : Option BoxedEntry :=
  table.entries.find? (·.boxed == id)

/-- Whether an id stands for an object. -/
def isLive (table : BoxTable) (id : BoxedId) : Bool := (table.find? id).isSome

/-- The number of live objects. -/
def size (table : BoxTable) : Nat := table.entries.length

/-- Whether there are no live objects. -/
def isEmpty (table : BoxTable) : Bool := table.entries.isEmpty

/-- Enters an object. -/
def insert (table : BoxTable) (entry : BoxedEntry) : BoxTable :=
  { table with entries := entry :: table.entries }

/-- Removes the object of an id. -/
def remove (table : BoxTable) (id : BoxedId) : BoxTable :=
  { table with entries := table.entries.filter (·.boxed != id) }

/-- An entry is found under its id when it has been added, also if there was another one. -/
theorem find?_insert_self (table : BoxTable) (entry : BoxedEntry) :
    (table.insert entry).find? entry.boxed = some entry := by
  simp [insert, find?]

/-- Adding an entry leaves what other ids find. -/
theorem find?_insert_of_ne {table : BoxTable} {entry : BoxedEntry} {id : BoxedId}
    (h : id ≠ entry.boxed) : (table.insert entry).find? id = table.find? id := by
  have hbeq : (entry.boxed == id) = false := by simpa using Ne.symm h
  simp [insert, find?, hbeq]

/-- Under an id that was removed nothing is found. -/
theorem find?_remove_self (table : BoxTable) (id : BoxedId) :
    (table.remove id).find? id = none := by
  simp [remove, find?, List.find?_eq_none]

/-- Removing an id leaves what other ids find. -/
theorem find?_remove_of_ne {table : BoxTable} {id other : BoxedId} (h : other ≠ id) :
    (table.remove id).find? other = table.find? other := by
  simp only [remove, find?, List.find?_filter]
  congr 1
  funext entry
  by_cases hboxed : entry.boxed = other
  · simp [hboxed, h]
  · simp [hboxed]

/-! ### Ids for new objects -/

/-- Whether an object may take an id: it must not be null, or the object's own value, or in use. -/
def isUsable (table : BoxTable) (raw : UInt64) (id : BoxedId) : Bool :=
  id != 0 && id != raw && !table.isLive id

/-- Takes the first usable id off the reservations. Those before it are dropped for good. -/
def takeReserved (raw : UInt64) : Boxing (Option BoxedId) := fun table =>
  match table.reserved.dropWhile fun id => !table.isUsable raw id with
  | [] => .ok none { table with reserved := [] }
  | id :: rest => .ok (some id) { table with reserved := rest }

/-- The first generation of a slot with a usable id, among `tries` generations from `generation`. -/
def usableGeneration? (table : BoxTable) (raw : UInt64) (type : HandleType) (slot : UInt32) :
    (tries generation : Nat) → Option UInt16
  | 0, _ => none
  | tries + 1, generation =>
    if table.isUsable raw (.compose slot (UInt16.ofNat generation) type) then
      some (UInt16.ofNat generation)
    else
      usableGeneration? table raw type slot tries (generation + 1)

/-- The generation of a slot. -/
def generationOf (table : BoxTable) (slot : UInt32) : UInt16 :=
  table.generations[slot.toNat]?.getD 0

/-- Records the generation of a slot. -/
def setGeneration (table : BoxTable) (slot : UInt32) (generation : UInt16) : BoxTable :=
  { table with generations := table.generations.setIfInBounds slot.toNat generation }

/-- The last generation a slot can have. -/
def lastGeneration : UInt16 := 65535

/-- Finds an id in one slot. A slot whose generations are all unusable stays at its last one. -/
def claimSlot (table : BoxTable) (raw : UInt64) (type : HandleType) (slot : UInt32) :
    Option BoxedId × BoxTable :=
  let current := (table.generationOf slot).toNat
  match table.usableGeneration? raw type slot (lastGeneration.toNat + 1 - current) current with
  | some generation =>
    (some (.compose slot generation type), table.setGeneration slot generation)
  | none => (none, table.setGeneration slot lastGeneration)

/-- The number of slots that ids can name. -/
def slotLimit : Nat := UInt32.size

/-- Claiming a slot does not look at the free slots. It was taken from them before, or is none of
them. -/
theorem free_claimSlot (table : BoxTable) (raw : UInt64) (type : HandleType) (slot : UInt32) :
    (table.claimSlot raw type slot).2.free = table.free := by
  simp only [claimSlot]
  split <;> rfl

/-- Claiming a slot neither adds one nor gives one up. -/
theorem size_generations_claimSlot (table : BoxTable) (raw : UInt64) (type : HandleType)
    (slot : UInt32) :
    (table.claimSlot raw type slot).2.generations.size = table.generations.size := by
  simp only [claimSlot]
  split <;> simp [setGeneration]

/-- Finds an id for a new object: in the free slots first, then in new ones. -/
def freshId (raw : UInt64) (type : HandleType) (table : BoxTable) :
    EStateM.Result BoxingError BoxTable BoxedId :=
  match hfree : table.free with
  | slot :: free =>
    let claim := { table with free }.claimSlot raw type slot
    match claim.1 with
    | some id => .ok id claim.2
    | none => freshId raw type claim.2
  | [] =>
    let slot := table.generations.size
    if hroom : slot < slotLimit then
      let extended := { table with generations := table.generations.push 0 }
      let claim := extended.claimSlot raw type (UInt32.ofNat slot)
      match claim.1 with
      | some id => .ok id claim.2
      | none => freshId raw type claim.2
    else
      .error (.exhausted type) table
termination_by (slotLimit - table.generations.size, table.free.length)
decreasing_by
  · simp only [free_claimSlot, size_generations_claimSlot, hfree]
    exact Prod.Lex.right _ (by simp)
  · refine Prod.Lex.left _ _ ?_
    simp only [size_generations_claimSlot, Array.size_push]
    omega

/-! ### Operations -/

/-- Enters an object under a reserved id, or else under a new one, and returns the id. -/
def create (raw : UInt64) (type : HandleType) : Boxing BoxedId := do
  let boxed ←
    match ← takeReserved raw with
    | some id => pure id
    | none => freshId raw type
  modify (·.insert { boxed, raw, type })
  pure boxed

/-- The driver's value behind an id. The null handle stands for itself. -/
def resolve (table : BoxTable) (id : BoxedId) : Except BoxingError UInt64 :=
  if id = 0 then .ok 0
  else
    match table.find? id with
    | some entry => .ok entry.raw
    | none => .error (.unknownHandle id)

/-- Looks an id up and leaves the table alone. -/
def unwrap (id : BoxedId) : Boxing UInt64 := fun table =>
  match table.resolve id with
  | .ok raw => .ok raw table
  | .error failure => .error failure table

/-- Frees the slot of an id that was destroyed, unless the slot has moved on, is not one of this
table's, or has no further generation. -/
def recycle (table : BoxTable) (id : BoxedId) : BoxTable :=
  let slot := BoxedId.slot id
  match table.generations[slot.toNat]? with
  | none => table
  | some current =>
    if current = BoxedId.generation id ∧ current < lastGeneration then
      { table.setGeneration slot (current + 1) with free := slot :: table.free }
    else
      table

/-- Removes the object of an id and returns the driver's value. With `preserve` the id stays listed
until the call is over. -/
def destroy (id : BoxedId) (preserve : Bool) : Boxing UInt64 := fun table =>
  if id = 0 then .ok 0 table
  else
    match table.find? id with
    | none => .error (.unknownHandle id) table
    | some entry =>
      let table := (table.remove id).recycle id
      .ok entry.raw
        (if preserve then { table with preserved := table.preserved ++ [id] } else table)

/-- Looks an id up and queues it for destruction. -/
def defer (id : BoxedId) : Boxing UInt64 := do
  let raw ← unwrap id
  if id != 0 then
    modify fun table => { table with pending := table.pending ++ [id] }
  pure raw

/-- Destroys ids in order; the first unknown one ends it. -/
def destroyAll : List BoxedId → Boxing Unit
  | [] => pure ()
  | id :: rest => do
    let _ ← destroy id true
    destroyAll rest

/-- Empties the queue and destroys what was in it. -/
def commitDestroys : Boxing Unit := do
  let table ← get
  set { table with pending := [] }
  destroyAll table.pending

/-- Empties the queue; what was in it stays live. -/
def discardDestroys (table : BoxTable) : BoxTable := { table with pending := [] }

/-- Forgets the ids that the call destroyed. -/
def releasePreserved (table : BoxTable) : BoxTable := { table with preserved := [] }

/-- Reserves ids for the next objects, behind those reserved before. -/
def reserve (table : BoxTable) (ids : List BoxedId) : BoxTable :=
  { table with reserved := table.reserved ++ ids }

/-- Gives the reserved ids up. -/
def clearReservations (table : BoxTable) : BoxTable := { table with reserved := [] }

/-- The null handle is never looked up. -/
theorem unwrap_zero (table : BoxTable) : unwrap 0 table = .ok 0 table := rfl

/-- Maps a handle of a call that is being read: destroyed handles are queued. -/
def mapHandle : HandleMapper BoxTable BoxingError := fun _ mapping handle =>
  match mapping with
  | .disabled => pure handle
  | .normal => unwrap handle
  | .preserveForTrace => defer handle

end BoxTable

end CallStream
