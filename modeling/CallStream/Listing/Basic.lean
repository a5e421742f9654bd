import CallStream.Text.Sink
import CallStream.Wire.Text

/-!
# Listing a payload

A listing reads a payload and writes what it reads, line by line, so that a payload which cannot be
read to its end is still listed up to there.

## Main results

- `readValue_ok_iff`: a read writes nothing.
-/

namespace CallStream

/-- Why a payload could not be listed. -/
inductive ListingError where
  /-- It could not be read. -/
  | wire (cause : WireError Empty)
  /-- There is more than the call takes. -/
  | trailingBytes (decoded total : Nat)
  /-- A structure has the tag of another one; labels are the tags' names, where they have one. -/
  | wrongStructure (expected : UInt32) (expectedLabel : Option String) (found : UInt32)
      (foundLabel : Option String)
  /-- A structure has extensions. -/
  | extensions
  /-- The text sink is broken. -/
  | sinkBroken
deriving DecidableEq, Repr

open Text in
/-- The wording of a failure. -/
def ListingError.message : ListingError → String
  | wire cause => cause.message nofun
  | trailingBytes decoded total =>
    s!"Not all data was decoded. Decoded {decimal decoded} bytes but command had {decimal total}"
  | wrongStructure expected expectedLabel found foundLabel =>
    let wanted := expectedLabel.getD (decimal expected.toNat)
    let met := foundLabel.getD "unknown"
    s!"Wrong structure type. Expected: {wanted}, got {decimal found.toNat} ({met}) instead"
  | extensions => "Decoding structs with extensions is not supported"
  | sinkBroken => "failed to write output"

/-- A part of a listing, over the payload and the text written so far. -/
abbrev Listing (α : Type) := EStateM ListingError (Cursor × TextSink) α

namespace Listing

variable {α : Type}

/-- A read from the payload. -/
def readValue (read : Read Empty α) : Listing α := fun (cursor, sink) =>
  match read cursor with
  | .ok value cursor => .ok value (cursor, sink)
  | .error cause cursor => .error (.wire cause) (cursor, sink)

/-- Writes text. -/
def write (text : String) : Listing Unit := fun (cursor, sink) =>
  match sink.write text with
  | (sink, true) => .ok () (cursor, sink)
  | (sink, false) => .error .sinkBroken (cursor, sink)

/-- Spaces in front of a line. -/
def spaces (count : Nat) : String := String.ofList (List.replicate count ' ')

/-- Writes a line that is indented by `level` steps of two spaces. -/
def writeLine (level : Nat) (text : String) : Listing Unit :=
  write (spaces (level * 2) ++ text ++ "\n")

/-- Writes the line of a named value. -/
def writeEntry (level : Nat) (name text : String) : Listing Unit :=
  writeLine level (name ++ ": " ++ text)

/-- A read writes nothing. -/
theorem readValue_ok_iff {read : Read Empty α} {cursor after : Cursor} {sink last : TextSink}
    {value : α} :
    readValue read (cursor, sink) = .ok value (after, last)
      ↔ read cursor = .ok value after ∧ last = sink := by
  simp only [readValue]
  cases read cursor with
  | ok found reached =>
    simp only [EStateM.Result.ok.injEq, Prod.mk.injEq]
    constructor
    · rintro ⟨rfl, rfl, rfl⟩
      exact ⟨⟨rfl, rfl⟩, rfl⟩
    · rintro ⟨⟨rfl, rfl⟩, rfl⟩
      exact ⟨rfl, rfl, rfl⟩
  | error cause reached => simp

end Listing

end CallStream
