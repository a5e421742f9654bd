import CallStream.Call.Basic
import CallStream.Scratch
import CallStream.Session.CreatedHandles
import CallStream.Value.Basic

/-!
# The driver and the global state

What a session asks of its surroundings. The driver carries calls out; the global state carries out
those that concern the whole connection, adapts parameters, knows the mapped memory, and may offer a
recorder for snapshots. Both keep whatever they keep in one state of a type of their own, and
whatever they are asked or told may change it: the recorder, too, is a part of the global state.

Looking at that state changes nothing: whether memory is shared, which memory is mapped and how
large a memory object is are functions of it.

## Main results

- `LawfulMemory`: mapped memory is a family of byte strings, each changed without the others.
-/

namespace CallStream

/-- The object that a call is issued on. -/
structure DispatchHandle where
  type : HandleType
  /-- The id that the guest knows. -/
  boxed : BoxedId
  /-- The driver's value. -/
  raw : UInt64
deriving DecidableEq, Repr

/-- A call as the driver gets it: its handles are the driver's own values. -/
structure DriverCall where
  call : CallDescriptor
  dispatch : Option UInt64
  /-- The process-wide lock is held for the call. -/
  lockHeld : Bool
  args : Record

/-- A call as the global state gets it: the handle it is issued on is still the guest's. -/
structure StateCall where
  call : CallDescriptor
  dispatch : Option DispatchHandle
  args : Record

/-- What a call leaves: its parameters, with the outputs in place, and its result. -/
structure CallOutcome where
  args : Record
  result : Option Value

/-- A call as a snapshot keeps it: its handles are those of the guest, also the ones it destroyed,
and `trace` holds the bytes that were read for it. -/
structure SnapshotCall where
  call : CallDescriptor
  trace : Bytes
  params : Record
  result : Option Value

/-- The surroundings of a session, over a state `σ` of their own. -/
structure Collaborators (σ : Type) where
  /-- The driver carries out a call. -/
  drive : DriverCall → EStateM DriverError σ CallOutcome
  /-- The global state carries out a call. It may enter objects and use scratch memory. -/
  serve : StateCall → EStateM DriverError (σ × BoxTable × ScratchPool) CallOutcome
  /-- Adapts the parameters of a call before it is carried out. -/
  toHost : CallDescriptor → Record → StateM σ Record := fun _ params => pure params
  /-- Adapts an output before it is written back. -/
  fromHost : CallDescriptor → ParamSpec → Value → StateM σ Value := fun _ _ value => pure value
  /-- Whether guest and host share mapped memory, so that its bytes are never transferred. -/
  sharesMemory : σ → Bool := fun _ => false
  /-- The bytes of a memory object, by the driver's value for it, if it is mapped. -/
  mapped? : UInt64 → σ → Option Bytes := fun _ _ => none
  /-- A mapping is a buffer, and no longer than a buffer can be. -/
  mapped?_length_le : ∀ {memory : UInt64} {state : σ} {mapping : Bytes},
      mapped? memory state = some mapping → mapping.length ≤ Bytes.maxLength := by
    intro _ _ _ h
    cases h
  /-- Replaces the bytes of a mapped memory object. -/
  setMapped : UInt64 → Bytes → σ → σ := fun _ _ state => state
  /-- The size of a memory object. -/
  memorySize : UInt64 → σ → UInt64 := fun _ _ => 0
  /-- Is asked for a recorder, and says whether there is one. -/
  offersRecorder : StateM σ Bool := pure false
  /-- The recorder is told of a call. -/
  record : SnapshotCall → σ → σ := fun _ state => state
  /-- Reads the ids of a snapshot's objects and says how many bytes they take. -/
  loadHandles : Bytes → EStateM DriverError σ (Nat × List BoxedId) := CreatedHandles.load
  /-- Is told that the handles of a snapshot are no longer needed. -/
  clearHandles : σ → σ := id

/-- Mapped memory that is a family of byte strings of fixed lengths. -/
structure LawfulMemory {σ : Type} (host : Collaborators σ) : Prop where
  /-- Bytes put into mapped memory are found there. -/
  mapped?_setMapped_self : ∀ (memory : UInt64) (old new : Bytes) (state : σ),
    host.mapped? memory state = some old → new.length = old.length →
      host.mapped? memory (host.setMapped memory new state) = some new
  /-- They are found nowhere else. -/
  mapped?_setMapped_of_ne : ∀ (memory other : UInt64) (bytes : Bytes) (state : σ),
    other ≠ memory →
      host.mapped? other (host.setMapped memory bytes state) = host.mapped? other state

namespace Collaborators

variable {σ : Type} (host : Collaborators σ)

/-- Whether a recorder is offered in a state. -/
def offers (state : σ) : Bool := (host.offersRecorder.run state).1

/-- The state behind a call that may be recorded: a recorder is asked for, and told of the call if
there is one. -/
def afterRecording (snapshot : SnapshotCall) (state : σ) : σ :=
  let (offered, state) := host.offersRecorder.run state
  if offered then host.record snapshot state else state

end Collaborators

/-- Surroundings without a global state: calls routed to it are unsupported. -/
def Collaborators.ofDriver {σ : Type} (drive : DriverCall → EStateM DriverError σ CallOutcome) :
    Collaborators σ :=
  { drive, serve := fun request => throw (.unsupported request.call.name) }

end CallStream
