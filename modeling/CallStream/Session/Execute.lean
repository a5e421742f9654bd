import CallStream.Session.MappedRange
import CallStream.Session.Reply
import CallStream.Session.Request
import CallStream.Session.Snapshot

/-!
# Carrying out a call

A call is read whole, then the objects it destroys leave the table, then it is carried out, and at
last its reply is written. Whatever goes wrong on the way, nothing of the call is left behind that
the next one could meet: no queued destruction, no scratch memory, no part of a reply.

A buffer that would outgrow every buffer ends the process, which is a failure here like the others.
Memory that runs out before that is not considered, and neither are the traces that are logged
besides the calls.

## Main results

- `runPacket_writer_of_error`: a packet that fails leaves nothing of its reply behind.
-/

namespace CallStream.Execution

variable {σ : Type}

/-- Reads a call and returns it with the cursor behind it. -/
def readCall (call : CallDescriptor) (payload : Bytes) : Execution σ (Request × Cursor) :=
  fun run =>
    match Reading.readRequest call (.start payload, run.table) with
    | .ok request (cursor, table) => .ok (request, cursor) { run with table }
    | .error cause (_, table) => .error cause { run with table }

/-- The driver carries out a call. -/
def callDriver (host : Collaborators σ) (request : DriverCall) : Execution σ CallOutcome := do
  note (.drove request)
  fun run =>
    match host.drive request run.state with
    | .ok outcome state => .ok outcome { run with state }
    | .error cause state =>
      .error (.fatal (.driver request.call.name cause)) { run with state }

/-- The global state carries out a call. -/
def callState (host : Collaborators σ) (request : StateCall) : Execution σ CallOutcome := do
  note (.served request (← get).scratch.used)
  fun run =>
    match host.serve request (run.state, run.table, run.scratch) with
    | .ok outcome (state, table, scratch) => .ok outcome { run with state, table, scratch }
    | .error cause (state, table, scratch) =>
      .error (.fatal (.driver request.call.name cause)) { run with state, table, scratch }

/-- Carries out a call on its route. -/
def dispatch (host : Collaborators σ) (call : CallDescriptor) (request : Request) :
    Execution σ CallOutcome :=
  if call.route = .globalState then
    callState host { call, dispatch := request.dispatch, args := request.args }
  else
    let handle := request.dispatch.map (·.raw)
    callDriver host
      { call, dispatch := handle, lockHeld := call.needsLock
        args := withDispatch handle request.args }

/-- Reads a call and the flushed bytes that may follow it. The objects it destroys leave the table
when all of it is read. Returns the number of bytes read, too. -/
def receive (host : Collaborators σ) (call : CallDescriptor) (payload : Bytes) (transfers : Bool) :
    Execution σ (Request × Nat) := do
  let (request, cursor) ← readCall call payload
  let cursor ←
    if call.route = .flushMappedRanges && transfers then do
      let ranges ← rangesOf request.args
      flushRanges host call.name ranges cursor
    else
      pure cursor
  onTable BoxTable.commitDestroys
  pure (request, cursor.position)

/-- Writes the reply of a call and returns its outcome with guest ids in place. -/
def reply (host : Collaborators σ) (call : CallDescriptor) (transfers : Bool)
    (outcome : CallOutcome) : Execution σ CallOutcome := do
  let box := call.route != .globalState && isSuccess outcome.result
  let args ← writeOutputs host call box call.outputs outcome.args
  writeResult call outcome.result
  if call.route = .invalidateMappedRanges && transfers then
    let ranges ← rangesOf args
    invalidateRanges host call.name ranges
  commit
  pure { outcome with args }

/-- Carries out the call in a payload. -/
def perform (host : Collaborators σ) (call : CallDescriptor) (payload : Bytes) :
    Execution σ Unit := do
  let transfers := !host.sharesMemory (← get).state
  let (request, size) ← receive host call payload transfers
  let args ← onState (host.toHost call request.args)
  if (← get).config.logCalls then
    note (.logged call args)
  let outcome ← dispatch host call { request with args }
  let outcome ← reply host call transfers outcome
  record host call (payload.take size) request.dispatch outcome

/-- A run between two packets: nothing of the last one is left. -/
def settle (run : Run σ) : Run σ :=
  { run with
    table := run.table.discardDestroys.releasePreserved
    scratch := run.scratch.reset }

/-- Carries out one packet and cleans up behind it. -/
def runPacket (host : Collaborators σ) (call : CallDescriptor) (payload : Bytes) :
    Execution σ Unit := fun run =>
  match perform host call payload { run with scratch := run.scratch.reset } with
  | .ok () run => .ok () (settle run)
  | .error cause run => .error cause { settle run with writer := run.writer.clear }

/-- A packet that fails leaves nothing of its reply behind. -/
theorem runPacket_writer_of_error {host : Collaborators σ} {call : CallDescriptor} {payload : Bytes}
    {run after : Run σ} {cause : PacketError}
    (h : runPacket host call payload run = .error cause after) : after.writer.bytes = [] := by
  unfold runPacket at h
  split at h
  · cases h
  · cases h
    rfl

end CallStream.Execution
