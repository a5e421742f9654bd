import CallStream.Codec.Encode
import CallStream.Session.State
import CallStream.Value.Handles

/-!
# Replies

What a guest gets back for a call: its outputs in order, then its result code. Objects that the
driver created get guest ids on the way. A reply is offered to the sink whole, in one write, or not
at all; a sink that fails may keep a part of it, and then the session is over.
-/

namespace CallStream

/-- A result as a number. A result code is a signed 32-bit number. -/
def resultCode? : Value → Option Int64
  | .sint code => some code
  | .uint code => some code.toInt64
  | .enum code => some code.toInt32.toInt64
  | _ => none

/-- Whether a call succeeded: a call without a result always does. -/
def isSuccess : Option Value → Bool
  | none => true
  | some result => resultCode? result == some 0

/-- Gives guest ids to the driver's handles in a value; null handles stay null. -/
def boxHandles (type : HandleType) (value : Value) : Boxing Value :=
  value.traverseHandles fun raw => if raw = 0 then pure 0 else BoxTable.create raw type

/-- The name that stands for the result code in messages. -/
def resultName : String := "return"

namespace Execution

variable {σ : Type}

/-- Writes a value in the place of a parameter and returns the parameters with it. The count of an
array is looked up among them. -/
def writeReceived (call : CallDescriptor) (param : ParamSpec) (place : Nat) (name : String)
    (args : Record) (value : Value) : Execution σ Record := do
  let emission := encodeField param.field value (args.set place (name, .absent))
  emit call.name emission.bytes
  match emission.failure with
  | some cause => fail (.writeback call.name cause)
  | none => pure (args.set place (name, value))

/-- An output as the guest gets it: with `box`, the objects that it received get guest ids. -/
def boxOutput (box : Bool) (param : ParamSpec) (value : Value) : Execution σ Value :=
  match param.field.handleType? with
  | some type =>
    if box && param.createsNonDispatchable then onTable (boxHandles type value) else pure value
  | none => pure value

/-- Writes one output and returns the parameters with what was written. -/
def writeOutput (host : Collaborators σ) (call : CallDescriptor) (box : Bool) (param : ParamSpec)
    (place : Nat) (args : Record) : Execution σ Record :=
  match args[place]? with
  | none => pure args
  | some (name, received) => do
    let adapted ← onState (host.fromHost call param received)
    let value ← boxOutput box param adapted
    writeReceived call param place name args value

/-- Writes outputs in order. -/
def writeOutputs (host : Collaborators σ) (call : CallDescriptor) (box : Bool) :
    List (ParamSpec × Nat) → Record → Execution σ Record
  | [], args => pure args
  | (param, place) :: rest, args => do
    let args ← writeOutput host call box param place args
    writeOutputs host call box rest args

/-- Writes the result code of a call that has one. -/
def writeResult (call : CallDescriptor) (result : Option Value) : Execution σ Unit :=
  match call.result, result with
  | none, _ => pure ()
  | some _, none => fail (.missingReturn call.name)
  | some type, some value =>
    match resultCode? value with
    | none => fail (.writeback call.name (.valueMismatch resultName))
    | some code => emit call.name (type.encode code.toUInt64)

/-- Hands the reply to the sink. -/
def commit : Execution σ Unit := fun run =>
  match run.writer.commit? run.sink with
  | some (writer, sink) => .ok () { run with writer, sink }
  | none => .error (.fatal .sinkRefused) { run with sink := run.sink.offer run.writer.bytes }

end Execution

end CallStream
