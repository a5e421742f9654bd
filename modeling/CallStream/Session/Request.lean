import CallStream.Codec.Decode
import CallStream.Session.Collaborators

/-!
# Reading a call

The parameters of a call are read in order. The handle that the call is issued on and the handles
that it writes back stay as the guest sent them; all others are mapped to the driver's values while
they are read, and those that the call destroys are queued.
-/

namespace CallStream

/-- A call that was read. -/
structure Request where
  dispatch : Option DispatchHandle
  args : Record

/-- A read of a call, over the payload and the table of live objects. -/
abbrev Reading (α : Type) := EStateM PacketError (Cursor × BoxTable) α

namespace Reading

/-- How the handles of a parameter are mapped, unless the call is issued on it. -/
def mappingOf (param : ParamSpec) : HandleMapping :=
  if param.isOutput then .disabled
  else if param.destroys then .preserveForTrace
  else .normal

/-- Reads one parameter. -/
def readParam (mapping : HandleMapping) (param : ParamSpec) (scope : Record) : Reading Value :=
  (decodeField BoxTable.mapHandle mapping param.field scope).adaptExcept PacketError.ofRead

/-- Reads parameters in order and adds them to those read so far. -/
def readParams : List ParamSpec → Record → Reading Record
  | [], args => pure args
  | param :: rest, args => do
    let value ← readParam (mappingOf param) param args
    readParams rest (args ++ [(param.name, value)])

/-- The live object that a call is issued on. -/
def resolveDispatch (type : HandleType) (field : String) : Value → Reading DispatchHandle
  | .handle boxed => fun (cursor, table) =>
    match table.resolve boxed with
    | .ok raw => .ok { type, boxed, raw } (cursor, table)
    | .error cause => .error (.fatal (.boxing cause)) (cursor, table)
  | _ => throw (.malformed (.valueMismatch field))

/-- Reads a call. -/
def readRequest (call : CallDescriptor) : Reading Request :=
  match call.dispatchType?, call.params with
  | some type, first :: rest => do
    let value ← readParam .disabled first []
    let dispatch ← resolveDispatch type first.name value
    let args ← readParams rest [(first.name, value)]
    pure { dispatch := some dispatch, args }
  | _, params => do
    let args ← readParams params []
    pure { dispatch := none, args }

end Reading

end CallStream
