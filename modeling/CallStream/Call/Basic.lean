import CallStream.Schema.Device

/-!
# Calls

What is known about a call before any of it is read: its opcode and name, its parameters and their
part in the life of handles, the width of its result, and the way it is executed.

## Main results

- `dispatchType?_isDispatchable`: the leading handle that a call is issued on selects functions.
-/

namespace CallStream

/-- One parameter of a call. -/
structure ParamSpec where
  field : FieldSpec
  /-- The parameter receives handles that the call creates. -/
  creates : Bool := false
  /-- The parameter names handles that the call destroys. -/
  destroys : Bool := false
  /-- The parameter is written back to the guest after the call. -/
  isOutput : Bool := false

namespace ParamSpec

/-- The name of a parameter. -/
def name (param : ParamSpec) : String := param.field.name

/-- A parameter that the guest passes in. -/
def input (field : FieldSpec) : ParamSpec := { field }

/-- A parameter that is written back to the guest. -/
def output (field : FieldSpec) : ParamSpec := { field, isOutput := true }

/-- The same parameter, receiving created handles. -/
def creating (param : ParamSpec) : ParamSpec := { param with creates := true }

/-- The same parameter, naming destroyed handles. -/
def destroying (param : ParamSpec) : ParamSpec := { param with destroys := true }

/-- A handle that the guest passes in. -/
def object (name : String) (type : HandleType) : ParamSpec := input (.handle name type)

/-- A handle that the call creates. -/
def created (name : String) (type : HandleType) : ParamSpec := (output (.handle name type)).creating

/-- A handle that the call destroys. -/
def destroyed (name : String) (type : HandleType) : ParamSpec :=
  (input (.handle name type)).destroying

/-- A 32-bit number that the guest passes in. -/
def number (name : String) : ParamSpec := input (.u32 name)

/-- The allocation callbacks, which a guest may leave out. -/
def allocator : ParamSpec := input (FieldSpec.struct "pAllocator" .allocationCallbacks).optional

/-- The description of the object to create. -/
def createInfo (schema : StructSchema) : ParamSpec := input (.struct "pCreateInfo" schema)

/-- Whether the handles in this parameter get a guest id when they are written back. -/
def createsNonDispatchable (param : ParamSpec) : Bool :=
  param.creates && (param.field.handleType?.any fun type => !type.isDispatchable)

end ParamSpec

/-- The way a call is executed. -/
inductive Route where
  /-- By the driver; created objects get guest ids when they are written back. -/
  | generic
  /-- By the global state, which itself hands out guest ids. -/
  | globalState
  /-- By the driver, after the bytes of mapped ranges that follow the parameters are copied. -/
  | flushMappedRanges
  /-- By the driver; the bytes of mapped ranges are written back behind the result. -/
  | invalidateMappedRanges
deriving DecidableEq, Repr

/-- What is known about a call. -/
structure CallDescriptor where
  opcode : UInt32
  name : String
  params : List ParamSpec
  /-- The layout of the result code; none for a call that returns nothing. -/
  result : Option IntType := none
  route : Route := .generic
  /-- The driver runs the call only while it holds the process-wide lock. -/
  needsLock : Bool := false
  /-- The call is recorded into a command buffer. A capture keeps neither the command buffer nor a
  sequence number for it. -/
  isRecorded : Bool := false

namespace CallDescriptor

/-- The name of a call without the mark of the API. -/
def shortName (call : CallDescriptor) : String := String.ofList (call.name.toList.drop 2)

/-- The object type of the handle that a call is issued on: the first parameter, if it is exactly
one dispatchable handle. -/
def dispatchType? (call : CallDescriptor) : Option HandleType :=
  match call.params with
  | [] => none
  | first :: _ =>
    match first.field.handleType? with
    | none => none
    | some type =>
      if type.isDispatchable && !first.field.isArray && !first.field.isOptional then some type
      else none

/-- The parameters that a capture records, in order. -/
def capturedParams (call : CallDescriptor) : List ParamSpec :=
  if call.isRecorded then call.params.drop 1 else call.params

/-- The parameters that are written back, with their places. -/
def outputs (call : CallDescriptor) : List (ParamSpec × Nat) :=
  call.params.zipIdx.filter (·.1.isOutput)

/-- The fields of the parameters. -/
def fields (call : CallDescriptor) : List FieldSpec := call.params.map (·.field)

/-- A call is issued on a dispatchable object, if on any. -/
theorem dispatchType?_isDispatchable {call : CallDescriptor} {type : HandleType}
    (h : call.dispatchType? = some type) : type.isDispatchable = true := by
  unfold dispatchType? at h
  split at h
  · cases h
  · split at h
    · cases h
    · split at h
      next hand =>
        cases h
        simp only [Bool.and_eq_true] at hand
        exact hand.1.1
      next => cases h

end CallDescriptor

end CallStream
