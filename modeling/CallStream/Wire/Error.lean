import CallStream.Text.Number

/-!
# Failures of reading and writing parameters

Every way in which one call's parameters cannot be read or written, as data. A handle that cannot
be mapped carries the mapper's own cause, so the type of causes is a parameter.
-/

namespace CallStream

/-- Why parameters could not be read or written; `ε` is the cause a handle mapper gives. -/
inductive WireError (ε : Type) where
  /-- The payload ends before the bytes that a value needs. -/
  | unexpectedEnd (offset needed remaining : Nat)
  /-- A structure starts with the tag of another one. -/
  | wrongStructure (schema : String) (expected found : UInt32)
  /-- A structure announces extensions; `extension` is the first one's tag, if it was there. -/
  | extensionChain (schema : String) (length : UInt32) (extension : Option UInt32)
  /-- A string field does not hold UTF-8. -/
  | invalidText (field : String)
  /-- The count of an array is not an integer decoded before it. -/
  | missingCount (field countField : String)
  /-- An array to be written is longer or shorter than its count. -/
  | countMismatch (field : String) (expected found : Nat)
  /-- A value to be written has another type than its field. -/
  | valueMismatch (field : String)
  /-- A handle cannot be mapped. -/
  | handleMapping (field : String) (handle : UInt64) (cause : ε)
deriving DecidableEq, Repr

namespace WireError

open Text

/-- Tells the failures of a mapper from those of the bytes. -/
def separate {ε : Type} : WireError ε → ε ⊕ WireError Empty
  | unexpectedEnd offset needed remaining => .inr (unexpectedEnd offset needed remaining)
  | wrongStructure schema expected found => .inr (wrongStructure schema expected found)
  | extensionChain schema length extension => .inr (extensionChain schema length extension)
  | invalidText field => .inr (invalidText field)
  | missingCount field countField => .inr (missingCount field countField)
  | countMismatch field expected found => .inr (countMismatch field expected found)
  | valueMismatch field => .inr (valueMismatch field)
  | handleMapping _ _ cause => .inl cause

/-- The tag of an extension as messages show it. -/
def describeExtension : Option UInt32 → String
  | none => "None"
  | some tag => s!"Some({decimal tag.toNat})"

/-- The wording of a failure; `describe` words the cause of a handle mapper. -/
def message {ε : Type} (describe : ε → String) : WireError ε → String
  | unexpectedEnd offset needed remaining =>
    s!"unexpected end of payload: needed {decimal needed} bytes at offset {decimal offset}, "
      ++ s!"{decimal remaining} remaining"
  | wrongStructure schema expected found =>
    s!"wrong structure type for {schema}: expected {decimal expected.toNat}, "
      ++ s!"found {decimal found.toNat}"
  | extensionChain schema length extension =>
    s!"{schema} carries an extension chain of {decimal length.toNat} bytes "
      ++ s!"(ext type {describeExtension extension}); extension chains are not supported"
  | invalidText field => s!"string field {field} is not valid utf-8"
  | missingCount field countField =>
    s!"array {field} is counted by {countField}, which was not decoded before it"
  | countMismatch field expected found =>
    s!"array {field} has {decimal found} elements but its count says {decimal expected}"
  | valueMismatch field => s!"value for {field} does not match its declared type"
  | handleMapping field handle cause =>
    s!"handle {markedHex handle.toNat} for {field} could not be mapped: {describe cause}"

end WireError

end CallStream
