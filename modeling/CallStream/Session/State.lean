import CallStream.Session.Collaborators
import CallStream.Session.Config
import CallStream.Wire.Sink

/-!
# The state of a session

What a session keeps between its packets, and what a run adds to it: the sink that takes the results
and the history of what the run did.

## Main results

- `onTable_ok_iff`: a step on the table changes nothing else.
- `emit_eq_ok_iff`, `emit_of_full`: a result grows by all the bytes or by none.
-/

namespace CallStream

/-- One guest's session; `σ` is the state of its surroundings. -/
structure Session (σ : Type) where
  state : σ
  table : BoxTable := {}
  scratch : ScratchPool := {}
  writer : Writer := {}
  config : SessionConfig := {}
  /-- The next buffer starts with the handles of a snapshot. -/
  awaitsHandles : Bool := false

/-- A new session. -/
def Session.start {σ : Type} (state : σ) (config : SessionConfig := {}) : Session σ :=
  { state, config, awaitsHandles := config.forSnapshotLoad }

/-- Something a run did that others can see. -/
inductive SessionEvent where
  /-- A call was logged. -/
  | logged (call : CallDescriptor) (params : Record)
  /-- The driver was called. -/
  | drove (request : DriverCall)
  /-- The global state was called, with `scratchUsed` bytes of scratch memory in use. -/
  | served (request : StateCall) (scratchUsed : Nat)
  /-- A call was recorded in a snapshot. -/
  | recorded (snapshot : SnapshotCall)

/-- The history behind an event that is noted only for an observer. -/
def noteIf (observed : Bool) (event : SessionEvent) (events : List SessionEvent) :
    List SessionEvent :=
  if observed then events ++ [event] else events

/-- A session at work. -/
structure Run (σ : Type) extends Session σ where
  sink : Sink
  /-- What the run did, in order. -/
  events : List SessionEvent := []

/-- A part of carrying out one packet. -/
abbrev Execution (σ α : Type) := EStateM PacketError (Run σ) α

namespace Execution

variable {σ α : Type}

/-- Fails for good. -/
def fail (cause : SessionError) : Execution σ α := throw (.fatal cause)

/-- A step on the table of live objects. -/
def onTable (step : Boxing α) : Execution σ α := fun run =>
  match step run.table with
  | .ok value table => .ok value { run with table }
  | .error cause table => .error (.fatal (.boxing cause)) { run with table }

/-- A step of the surroundings. -/
def onState (step : StateM σ α) : Execution σ α := fun run =>
  let (value, state) := step.run run.state
  .ok value { run with state }

/-- Adds bytes to the result of a call. Where they would make it longer than a buffer can be, the
process ends. -/
def emit (call : String) (bytes : Bytes) : Execution σ Unit := do
  if (← get).writer.HasRoom bytes.length then
    modify fun run => { run with writer := run.writer.append bytes }
  else
    fail (.scratchExhausted ⟨call, .capacityOverflow⟩)

/-- Adds to the history. -/
def note (event : SessionEvent) : Execution σ Unit :=
  modify fun run => { run with events := run.events ++ [event] }

/-- A step on the table changes nothing else. -/
theorem onTable_ok_iff {step : Boxing α} {run after : Run σ} {value : α} :
    onTable step run = .ok value after
      ↔ ∃ table, step run.table = .ok value table ∧ after = { run with table } := by
  unfold onTable
  constructor
  · intro h
    split at h
    · next hok =>
      cases h
      exact ⟨_, hok, rfl⟩
    · cases h
  · rintro ⟨table, hok, rfl⟩
    rw [hok]

/-- Where there is room, the bytes are added. -/
theorem emit_of_room {call : String} {bytes : Bytes} {run : Run σ}
    (hroom : run.writer.HasRoom bytes.length) :
    emit call bytes run = .ok () { run with writer := run.writer.append bytes } := by
  change (if run.writer.HasRoom bytes.length then _ else _ : Execution σ Unit) run = _
  rw [if_pos hroom]
  rfl

/-- Where there is no room, the process ends and nothing was added. -/
theorem emit_of_full {call : String} {bytes : Bytes} {run : Run σ}
    (hfull : ¬ run.writer.HasRoom bytes.length) :
    emit call bytes run = .error (.fatal (.scratchExhausted ⟨call, .capacityOverflow⟩)) run := by
  change (if run.writer.HasRoom bytes.length then _ else _ : Execution σ Unit) run = _
  rw [if_neg hfull]
  rfl

/-- Bytes are added exactly where there is room for them. -/
theorem emit_eq_ok_iff {call : String} {bytes : Bytes} {run after : Run σ} :
    emit call bytes run = .ok () after
      ↔ run.writer.HasRoom bytes.length ∧
        after = { run with writer := run.writer.append bytes } := by
  by_cases hroom : run.writer.HasRoom bytes.length
  · rw [emit_of_room hroom]
    simp [hroom, eq_comm]
  · rw [emit_of_full hroom]
    simp [hroom]

end Execution

end CallStream
