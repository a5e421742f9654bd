import CallStream.Call.Catalog
import CallStream.Packet
import CallStream.Session.Execute

/-!
# Decoding a stream

A session takes the stream in buffers. It carries out packet after packet and stops at the end of
the buffer, before a packet that is not complete, or before one that it cannot carry out; it says
how many bytes it is done with, and the next buffer is to start with the rest. A session whose
process has ended (`MemoryFault.capacityOverflow`) is given no further buffer.

## Main results

- `runPackets_nil`: an empty buffer is used up at once.
-/

namespace CallStream

/-- Why a session stopped. -/
inductive StopReason where
  /-- The buffer is used up. -/
  | drained
  /-- The next packet is not complete. -/
  | needMoreData
  /-- No call has the next packet's opcode. -/
  | unknownOpcode (opcode : UInt32)
  /-- The next packet can never be complete. -/
  | malformedPacket (cause : FrameError)
  /-- The next packet's payload does not spell its call. -/
  | malformedCall (call : String) (cause : WireError Empty)
deriving DecidableEq, Repr

/-- How far a session came. No part of the packet that stopped it counts as consumed. -/
structure Progress where
  consumed : Nat
  stop : StopReason
deriving DecidableEq, Repr

namespace Session

variable {σ : Type}

/-- Carries out the packets of `rest`, which lies `offset` bytes into its buffer. -/
def runPackets (host : Collaborators σ) (offset : Nat) (rest : Bytes) (run : Run σ) :
    EStateM.Result SessionError (Run σ) Progress :=
  if rest.isEmpty then .ok ⟨offset, .drained⟩ run
  else
    match _hframe : Packet.frame rest offset with
    | .error cause =>
      .ok ⟨offset, if cause.isIncomplete then .needMoreData else .malformedPacket cause⟩ run
    | .ok packet =>
      match CallDescriptor.ofOpcode? packet.opcode with
      | none => .ok ⟨offset, .unknownOpcode packet.opcode⟩ run
      | some call =>
        match Execution.runPacket host call packet.payload run with
        | .ok () run =>
          runPackets host (offset + packet.length) (rest.drop packet.length) run
        | .error (.malformed cause) run => .ok ⟨offset, .malformedCall call.name cause⟩ run
        | .error (.fatal cause) run => .error cause run
termination_by rest.length
decreasing_by
  have hinside := Packet.frame_length_le _hframe
  have hlt := packet.length_pos
  simp only [List.length_drop]
  omega

/-- A run that no longer needs the handles of a snapshot. -/
def forgetHandles (host : Collaborators σ) (run : Run σ) : Run σ :=
  { run with state := host.clearHandles run.state }

/-- Loads the handles of a snapshot and carries out the packets behind them. When they cannot be
loaded, the next buffer is taken to start with them. -/
def runSnapshot (host : Collaborators σ) (buffer : Bytes) (run : Run σ) :
    EStateM.Result SessionError (Run σ) Progress :=
  match host.loadHandles buffer run.state with
  | .error cause state => .error (.snapshotLoad cause) (forgetHandles host { run with state })
  | .ok (consumed, ids) state =>
    let loaded := { run with state, awaitsHandles := false, table := run.table.reserve ids }
    let finish (run : Run σ) : Run σ :=
      let run := forgetHandles host run
      { run with table := run.table.clearReservations }
    let start := min consumed buffer.length
    match runPackets host start (buffer.drop start) loaded with
    | .ok progress run => .ok progress (finish run)
    | .error cause run => .error cause (finish run)

/-- Carries out a buffer. Nothing is read from one that is shorter than a packet's header, not even
the handles of a snapshot. -/
def runBuffer (host : Collaborators σ) (buffer : Bytes) (run : Run σ) :
    EStateM.Result SessionError (Run σ) Progress :=
  if run.awaitsHandles && Packet.headerSize ≤ buffer.length then runSnapshot host buffer run
  else runPackets host 0 buffer run

/-- What a session made of one buffer. -/
structure Decoded (σ : Type) where
  session : Session σ
  sink : Sink
  events : List SessionEvent
  outcome : Except SessionError Progress

/-- Carries out a buffer; the replies go to `sink`. -/
def decode (host : Collaborators σ) (session : Session σ) (buffer : Bytes) (sink : Sink) :
    Decoded σ :=
  match runBuffer host buffer { session with sink } with
  | .ok progress run =>
    { session := run.toSession, sink := run.sink, events := run.events, outcome := .ok progress }
  | .error cause run =>
    { session := run.toSession, sink := run.sink, events := run.events, outcome := .error cause }

/-- An empty buffer is used up at once. -/
theorem runPackets_nil (host : Collaborators σ) (offset : Nat) (run : Run σ) :
    runPackets host offset [] run = .ok ⟨offset, .drained⟩ run := by
  unfold runPackets
  rfl

end Session

end CallStream
