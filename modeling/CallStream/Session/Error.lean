import CallStream.Boxing.Table
import CallStream.Scratch
import CallStream.Wire.Error

/-!
# Failures of a session

Why a call could not be carried out. Bytes that spell no call are the guest's fault and leave the
session usable; every other failure ends it. One of them ends the process as well: a buffer that
would have to be longer than any can be (`MemoryFault.capacityOverflow`).
-/

namespace CallStream

open Text

/-- What is wrong with the handles in front of a snapshot's calls. -/
inductive HandleBlockFault where
  /-- There is no count. -/
  | missingCount
  /-- There are fewer bytes than the count asks for. -/
  | tooShort (count available : Nat)
  /-- A fault that the global state words itself. -/
  | other (reason : String)
deriving DecidableEq, Repr

/-- The wording of a fault. -/
def HandleBlockFault.message : HandleBlockFault → String
  | missingCount => "missing handle count"
  | tooShort count available =>
    s!"{decimal count} handles do not fit in {decimal available} bytes"
  | other reason => reason

/-- Why the driver or the global state failed. -/
inductive DriverError where
  /-- It does not know the call. -/
  | unsupported (call : String)
  /-- The call went wrong. -/
  | failed (call reason : String)
  /-- The handles of a snapshot could not be read. -/
  | malformedBlock (fault : HandleBlockFault)
deriving DecidableEq, Repr

/-- The wording of a failure. -/
def DriverError.message : DriverError → String
  | unsupported call => s!"{call} is not implemented by this driver"
  | failed call reason => s!"{call}: {reason}"
  | malformedBlock fault => s!"malformed snapshot handle block: {fault.message}"

/-- There was no memory for what `call` needed. -/
structure MemoryShortage where
  call : String
  fault : MemoryFault
deriving DecidableEq, Repr

/-- The wording of a shortage. That a buffer would be too long is told by the process that ends. -/
def MemoryShortage.message (shortage : MemoryShortage) : String :=
  match shortage.fault with
  | .addressOverflow => s!"scratch pool exhausted while decoding {shortage.call}"
  | .capacityOverflow => "capacity overflow"

/-- A failure that ends a session. `call` is the name of the call it happened in. -/
inductive SessionError where
  /-- A handle is unknown, or there is no id for a new one. -/
  | boxing (cause : BoxingError)
  /-- Memory whose bytes are transferred is not mapped. -/
  | unmappedMemory (call : String) (memory : UInt64)
  /-- A range to be transferred leaves the mapping of its memory. -/
  | rangeOutOfBounds (call : String) (memory offset size : UInt64) (mapped : Nat)
  /-- The driver or the global state failed. -/
  | driver (call : String) (cause : DriverError)
  /-- A call that has a result code gave none. -/
  | missingReturn (call : String)
  /-- An output does not fit its layout. -/
  | writeback (call : String) (cause : WireError Empty)
  /-- There is no scratch memory left, or a buffer cannot grow as it should. -/
  | scratchExhausted (shortage : MemoryShortage)
  /-- The handles of a snapshot could not be loaded. -/
  | snapshotLoad (cause : DriverError)
  /-- The guest does not take the results. -/
  | sinkRefused
deriving DecidableEq, Repr

/-- The wording of a failure, without its cause. -/
def SessionError.message : SessionError → String
  | boxing cause => cause.message
  | unmappedMemory call memory =>
    s!"{call} references device memory {markedHex memory.toNat}, which has no host mapping"
  | rangeOutOfBounds call memory offset size mapped =>
    s!"{call}: range {markedHex offset.toNat}+{markedHex size.toNat} exceeds the "
      ++ s!"{markedHex mapped}-byte mapping of memory {markedHex memory.toNat}"
  | driver call _ => s!"{call} failed"
  | missingReturn call => s!"{call} returned no result code"
  | writeback call _ => s!"writing back {call} failed; the guest stream is corrupted"
  | scratchExhausted shortage => shortage.message
  | snapshotLoad _ => "failed to load snapshot handles"
  | sinkRefused => "failed to write to the guest"

/-- Why a packet was not carried out. -/
inductive PacketError where
  /-- Its bytes do not spell the call; the session stops before it. -/
  | malformed (cause : WireError Empty)
  /-- The session is over. -/
  | fatal (cause : SessionError)
deriving DecidableEq, Repr

/-- What a failed read of a call means: an unknown handle is no matter of malformed bytes. -/
def PacketError.ofRead (cause : WireError BoxingError) : PacketError :=
  match cause.separate with
  | .inl cause => .fatal (.boxing cause)
  | .inr cause => .malformed cause

end CallStream
