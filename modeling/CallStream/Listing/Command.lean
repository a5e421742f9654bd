import CallStream.Call.Catalog
import CallStream.Capture.Command
import CallStream.Listing.Field
import CallStream.Listing.HexDump

/-!
# Listing captured commands

A captured command is listed under a title: its parameters, if it is known, and else its bytes. One
that cannot be listed to its end is followed by the reason and by its bytes.
-/

namespace CallStream

namespace Command

open Text

/-- The name of a command in listings. -/
def label (command : Command) : String :=
  match CallDescriptor.ofOpcode? command.opcode with
  | some call => "OP_" ++ call.name
  | none => decimal command.opcode.toNat

/-- The indentation of parameters, in steps. -/
def paramLevel : Nat := 4

/-- The indentation of dumps, in spaces. -/
def dumpIndent : Nat := 8

/-- The title of a command; `stream` and `index` say where it stands. -/
def title (command : Command) (stream index : Nat) : String :=
  let size := signedDecimal ((command.fullSize.toNat : Int) - Packet.headerSize)
  s!"\n{decimal stream}.{decimal index} - {command.label}: ({size} bytes)\n"

end Command

namespace Listing

open Text

/-- Lists the parameters of a call as a capture records them: behind a sequence number, unless the
call is recorded into a command buffer. -/
def params (call : CallDescriptor) (level : Nat) : Listing Record := do
  if !call.isRecorded then
    let _ ← int "seqno" .u32 level
  fields level (call.capturedParams.map (·.field)) []

/-- Fails unless the payload is used up. -/
def expectEnd : Listing Unit := fun (cursor, sink) =>
  if cursor.atEnd then .ok () (cursor, sink)
  else .error (.trailingBytes cursor.position cursor.length) (cursor, sink)

/-- Writes lines of a dump. -/
def writeDump : List String → Listing Unit
  | [] => pure ()
  | line :: rest => do
    write (spaces Command.dumpIndent ++ line ++ "\n")
    writeDump rest

/-- Lists the bytes of a command. -/
def dump (command : Command) : Listing Unit :=
  writeDump (HexDump.lines command.data command.isTruncated)

/-- Lists the payload of a known call to its end. -/
def payload (call : CallDescriptor) : Listing Unit := do
  let _ ← params call Command.paramLevel
  expectEnd

/-- Lists the payload of a known call. When that fails, the reason and the bytes are listed before
the failure is passed on. -/
def payloadOrDump (command : Command) (call : CallDescriptor) : Listing Unit := fun state =>
  match payload call state with
  | .ok () state => .ok () state
  | .error cause state =>
    let explain : Listing Unit := do
      write s!"Error while processing {command.label}: {cause.message}\n"
      write "Command raw data:\n"
      dump command
      throw cause
    explain state

/-- Lists a command from its first byte on. -/
def command (command : Command) (stream index : Nat) : Listing Unit := do
  modify fun (_, sink) => (Cursor.start command.data, sink)
  write (command.title stream index)
  if !command.data.isEmpty then
    match CallDescriptor.ofOpcode? command.opcode with
    | none => dump command
    | some call => payloadOrDump command call

end Listing

end CallStream
