import CallStream.Session.Collaborators
import CallStream.Value.Handles
import CallStream.Value.Update

/-!
# Scripted surroundings

A driver and a global state that follow a script, for sessions without a graphics device. They
number the objects that calls create, and each call takes the next step of the script for its
outputs and its result; behind the end of the script every call succeeds.

## Main results

- `lawfulMemory`: the scripted memory is mapped memory.
-/

namespace CallStream

/-- How a scripted call fails. -/
inductive ScriptedFailure where
  | unsupported
  | failed (reason : String)
deriving DecidableEq, Repr

/-- What one call does. -/
structure ScriptStep where
  /-- Values to store among the parameters, by their paths. -/
  stores : List (List String × Value) := []
  /-- The number of parameters to leave. -/
  keep : Option Nat := none
  failure : Option ScriptedFailure := none
  /-- The result, if it is not the usual one. -/
  result : Option (Option Value) := none

/-- The state of scripted surroundings. -/
structure ScriptedWorld where
  /-- The driver's value for the next object. -/
  next : UInt64 := 0x1000
  script : List ScriptStep := []
  /-- There is a global state that carries out calls. -/
  hasState : Bool := true
  sharesMemory : Bool := false
  mapped : List (UInt64 × Bytes) := []
  sizes : List (UInt64 × UInt64) := []
  /-- A recorder is offered. -/
  records : Bool := false
  /-- Values to store among the parameters of a call, by the call's name and a path. -/
  toHost : List (String × List String × Value) := []
  /-- Values that replace outputs, by the parameter's name. -/
  fromHost : List (String × Value) := []
  /-- What reading the handles of a snapshot gives, if they are not to be parsed. -/
  block : Option (Except String (Nat × List BoxedId)) := none
  /-- How often the handles of a snapshot were cleared. -/
  cleared : Nat := 0

/-- A step of scripted surroundings. -/
abbrev Scripted (α : Type) := EStateM DriverError ScriptedWorld α

/-- A step of the scripted global state. -/
abbrev ScriptedService (α : Type) := EStateM DriverError (ScriptedWorld × BoxTable × ScratchPool) α

namespace ScriptedWorld

/-- The driver's value for a new object. -/
def takeNext : Scripted UInt64 :=
  modifyGet fun world => (world.next, { world with next := world.next + 1 })

/-- Puts what `fresh` hands out in the place of every handle that a call creates. -/
def fillCreated {σ : Type} (fresh : HandleType → EStateM DriverError σ UInt64) :
    List ParamSpec → Record → EStateM DriverError σ Record
  | param :: params, (name, value) :: rest => do
    let value ←
      match param.creates, param.field.handleType? with
      | true, some type => value.traverseHandles fun _ => fresh type
      | _, _ => pure value
    let rest ← fillCreated fresh params rest
    pure ((name, value) :: rest)
  | _, rest => pure rest

/-- The result of a call that succeeds. -/
def usualResult (call : CallDescriptor) : Option Value :=
  if call.result.isSome then some (.sint 0) else none

/-- Takes the next step of the script. -/
def follow (call : CallDescriptor) (args : Record) : Scripted CallOutcome := do
  let world ← get
  set { world with script := world.script.tail }
  let step := world.script.headD {}
  match step.failure with
  | some .unsupported => throw (.unsupported call.name)
  | some (.failed reason) => throw (.failed call.name reason)
  | none =>
    let args := step.stores.foldl (fun args (path, value) => Record.setAt args path value) args
    pure
      { args := (step.keep.map args.take).getD args
        result := step.result.getD (usualResult call) }

/-- The scripted driver. -/
def drive (request : DriverCall) : Scripted CallOutcome := do
  let args ← fillCreated (fun _ => takeNext) request.call.params request.args
  follow request.call args

/-- A step that leaves objects and scratch memory alone. -/
def onWorld {α : Type} (step : Scripted α) : ScriptedService α := fun (world, rest) =>
  match step world with
  | .ok value world => .ok value (world, rest)
  | .error cause world => .error cause (world, rest)

/-- Enters a new object. -/
def createObject (call : String) (type : HandleType) : ScriptedService UInt64 := do
  let raw ← onWorld takeNext
  fun (world, table, scratch) =>
    match BoxTable.create raw type table with
    | .ok id table => .ok id (world, table, scratch)
    | .error cause table => .error (.failed call cause.message) (world, table, scratch)

/-- What the scripted global state leaves in scratch memory. -/
def scratchMark : Bytes := Bytes.ofText "state"

/-- The scripted global state. -/
def serve (request : StateCall) : ScriptedService CallOutcome := do
  let (world, _) ← get
  if !world.hasState then
    throw (.unsupported request.call.name)
  modify fun (world, table, scratch) =>
    (world, table, ((scratch.stage? scratchMark).map (·.2)).getD scratch)
  let args ← fillCreated (createObject request.call.name) request.call.params request.args
  onWorld (follow request.call args)

/-- Stores what is to be stored among the parameters of a call. -/
def adaptParams (world : ScriptedWorld) (call : CallDescriptor) (params : Record) : Record :=
  world.toHost.foldl
    (fun params (name, path, value) =>
      if name = call.name then Record.setAt params path value else params)
    params

/-- Replaces the bytes of a mapped memory object. -/
def setMapped (memory : UInt64) (bytes : Bytes) (world : ScriptedWorld) : ScriptedWorld :=
  { world with
    mapped := world.mapped.map fun (other, old) =>
      (other, if other = memory then bytes else old) }

/-- Reads the handles of a snapshot. -/
def loadHandles (bytes : Bytes) : Scripted (Nat × List BoxedId) := do
  match (← get).block with
  | some (.ok block) => pure block
  | some (.error reason) => throw (.malformedBlock (.other reason))
  | none => CreatedHandles.load bytes

/-- The bytes of a memory object. No mapping is longer than a buffer can be. -/
def mapping? (memory : UInt64) (world : ScriptedWorld) : Option Bytes :=
  (world.mapped.lookup memory).bind Bytes.buffered?

/-- A memory object that has bytes is listed with them. -/
theorem mapping?_eq_some_iff {memory : UInt64} {world : ScriptedWorld} {mapping : Bytes} :
    world.mapping? memory = some mapping
      ↔ world.mapped.lookup memory = some mapping ∧ mapping.length ≤ Bytes.maxLength := by
  rw [mapping?, Option.bind_eq_some_iff]
  constructor
  · rintro ⟨content, hlook, hbuffer⟩
    obtain ⟨rfl, hlength⟩ := Bytes.buffered?_eq_some_iff.mp hbuffer
    exact ⟨hlook, hlength⟩
  · rintro ⟨hlook, hlength⟩
    exact ⟨mapping, hlook, Bytes.buffered?_eq_some_iff.mpr ⟨rfl, hlength⟩⟩

/-- Scripted surroundings. The recorder, if there is one, keeps nothing. -/
def host : Collaborators ScriptedWorld where
  drive := drive
  serve := serve
  toHost call params := do
    let world ← get
    pure (world.adaptParams call params)
  fromHost _ param value := do
    let world ← get
    pure ((world.fromHost.lookup param.name).getD value)
  sharesMemory := sharesMemory
  mapped? memory world := world.mapping? memory
  mapped?_length_le h := (mapping?_eq_some_iff.mp h).2
  setMapped := setMapped
  memorySize memory world := (world.sizes.lookup memory).getD 0
  offersRecorder := do return (← get).records
  loadHandles := loadHandles
  clearHandles world := { world with cleared := world.cleared + 1 }

/-- What was put into a memory object is found there, and nowhere else. -/
theorem lookup_setMapped (memory other : UInt64) (bytes : Bytes) (world : ScriptedWorld) :
    (setMapped memory bytes world).mapped.lookup other
      = (world.mapped.lookup other).map fun old => if other = memory then bytes else old := by
  unfold setMapped
  induction world.mapped with
  | nil => rfl
  | cons entry rest ih =>
    obtain ⟨first, old⟩ := entry
    simp only [List.map_cons, List.lookup_cons]
    split
    · next h =>
      have hfirst : other = first := by simpa using h
      simp [hfirst]
    · exact ih

/-- The scripted memory is mapped memory. -/
theorem lawfulMemory : LawfulMemory host where
  mapped?_setMapped_self memory old new world hfound hlength := by
    obtain ⟨hlook, hfits⟩ := mapping?_eq_some_iff.mp hfound
    refine mapping?_eq_some_iff.mpr ⟨?_, hlength ▸ hfits⟩
    change (setMapped memory new world).mapped.lookup memory = some new
    rw [lookup_setMapped, hlook, Option.map_some, if_pos rfl]
  mapped?_setMapped_of_ne memory other bytes world hne := by
    change ((setMapped memory bytes world).mapped.lookup other).bind _ = _
    simp only [lookup_setMapped, if_neg hne, Option.map_id']
    rfl

end ScriptedWorld

end CallStream
