import CallStream.Session.State
import CallStream.Value.Handles

/-!
# Recording calls

A snapshot keeps calls as the guest sent them. So the handle that a call was issued on and the
handles that it destroyed are turned back into the guest's ids; the handles that it created already
are. The recorder is asked for behind each call that was answered, and what asking for it and
telling it do to the surroundings is up to them.

## Main results

- `record_eq`: what recording a call changes.
-/

namespace CallStream

/-- The parameters of a call issued on `handle`, with that handle in the first place. -/
def withDispatch (handle : Option UInt64) : Record → Record
  | [] => []
  | (name, value) :: rest =>
    match handle with
    | some word => (name, .handle word) :: rest
    | none => (name, value) :: rest

/-- The id that a destroyed handle had: the next one of those destroyed. -/
def restoreHandle (handle : UInt64) : StateM (List BoxedId) UInt64 := do
  if handle = 0 then
    pure 0
  else
    match ← get with
    | [] => pure handle
    | id :: rest =>
      set rest
      pure id

/-- Turns the handles that a call destroyed back into their ids. -/
def restoreDestroyed : List ParamSpec → Record → StateM (List BoxedId) Record
  | param :: params, (name, value) :: rest => do
    let value ← if param.destroys then value.traverseHandles restoreHandle else pure value
    let rest ← restoreDestroyed params rest
    pure ((name, value) :: rest)
  | _, rest => pure rest

/-- A call as a snapshot keeps it; `destroyed` lists the ids it destroyed. -/
def SnapshotCall.ofCall (call : CallDescriptor) (trace : Bytes) (dispatch : Option DispatchHandle)
    (destroyed : List BoxedId) (outcome : CallOutcome) : SnapshotCall :=
  let args := withDispatch (dispatch.map (·.boxed)) outcome.args
  { call
    trace
    params := ((restoreDestroyed call.params args).run destroyed).1
    result := outcome.result }

namespace Execution

variable {σ : Type}

/-- Asks for a recorder, and tells it of a call if there is one. -/
def record (host : Collaborators σ) (call : CallDescriptor) (trace : Bytes)
    (dispatch : Option DispatchHandle) (outcome : CallOutcome) : Execution σ Unit := do
  if ← onState host.offersRecorder then
    let snapshot := .ofCall call trace dispatch (← get).table.preserved outcome
    note (.recorded snapshot)
    modify fun run => { run with state := host.record snapshot run.state }

/-- Recording adds to the history if a recorder is offered, and changes nothing else but the state
of the surroundings. -/
theorem record_eq (host : Collaborators σ) (call : CallDescriptor) (trace : Bytes)
    (dispatch : Option DispatchHandle) (outcome : CallOutcome) (run : Run σ) :
    let snapshot := SnapshotCall.ofCall call trace dispatch run.table.preserved outcome
    record host call trace dispatch outcome run
      = .ok () { run with
          state := host.afterRecording snapshot run.state
          events := noteIf (host.offers run.state) (.recorded snapshot) run.events } := by
  intro snapshot
  have hasked : onState host.offersRecorder run
      = .ok (host.offers run.state) { run with state := (host.offersRecorder.run run.state).2 } :=
    rfl
  unfold record
  simp only [bind, EStateM.bind, hasked]
  cases h : host.offersRecorder.run run.state with
  | mk offered state =>
    cases offered <;> simp [Collaborators.afterRecording, Collaborators.offers, h, noteIf] <;> rfl

end Execution

end CallStream
