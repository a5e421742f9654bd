import CallStream.Capture.Header

/-!
# Captures in a dump

A crash dump holds captures at any offset; each is found by its signature. A capture that is damaged
does not hide the others: what could be read of it is kept, together with the reason why no more
could.

## Main results

- `mem_signatures_iff`: captures are found exactly where the signature stands.
-/

namespace CallStream

/-- What a dump holds of one capture. -/
structure CapturedStream where
  /-- The offset of the signature in the dump. -/
  position : Nat
  version : UInt32 := 0
  /-- Milliseconds since 1970. -/
  timestamp : Int := 0
  threadId : UInt32 := 0
  captureId : UInt64 := 0
  /-- The commands before the end or the first failure. -/
  commands : List Command := []
  failure : Option CaptureError := none
deriving DecidableEq, Repr

namespace CapturedStream

/-- Captures hold no more bytes of commands than this. -/
def maxDataSize : Nat := 64 * 1024 * 1024

/-- The newest version of the layout. -/
def currentVersion : UInt32 := 2

/-- The bytes of the commands behind a header; `bytes` starts with the header. -/
def dataOf (header : CaptureHeader) (bytes : Bytes) : Except CaptureError Bytes :=
  let available := bytes.length - CaptureHeader.size
  if header.version = 0 ∨ currentVersion < header.version then
    .error (.unsupportedVersion header.version)
  else if maxDataSize < header.dataSize.toNat then .error (.dataTooLarge header.dataSize)
  else if available < header.dataSize.toNat then
    .error (.dataOutOfBounds header.dataSize available)
  else .ok (bytes.slice CaptureHeader.size header.dataSize.toNat)

/-- Reads the capture whose signature stands at a position of a dump. -/
def parse (dump : Bytes) (position : Nat) : CapturedStream :=
  let bytes := dump.drop position
  match CaptureHeader.parse bytes position with
  | .error cause => { position, failure := some cause }
  | .ok header =>
    let found : CapturedStream :=
      { position
        version := header.version
        timestamp := header.timestamp
        threadId := header.threadId
        captureId := header.captureId }
    match dataOf header bytes with
    | .error cause => { found with failure := some cause }
    | .ok data =>
      let (commands, failure) := Command.decodeAll header.version 0 data
      { found with commands, failure }

/-- The bytes of a capture. The header's data size is that of the commands. -/
def encode (header : CaptureHeader) (commands : List Command) : Bytes :=
  let data := commands.flatMap (Command.encode header.version)
  { header with dataSize := UInt32.ofNat data.length }.encode ++ data

/-! ### Finding captures -/

/-- Adds the positions from `position` on at which a signature stands to those found, the last one
first. -/
def findFrom (position : Nat) (found : List Nat) : Bytes → List Nat
  | [] => found
  | byte :: rest =>
    let found :=
      if CaptureHeader.signature.isPrefixOf (byte :: rest) then position :: found else found
    findFrom (position + 1) found rest

/-- The positions at which a signature stands, in order. -/
def signatures (dump : Bytes) : List Nat := (findFrom 0 [] dump).reverse

/-- Every capture of a dump, in order. -/
def all (dump : Bytes) : List CapturedStream := (signatures dump).map (parse dump)

/-- What is found in the rest of a dump are the positions found before it, and those at which the
rest has a signature. -/
theorem mem_findFrom_iff (dump : Bytes) (start position : Nat) (found : List Nat) :
    position ∈ findFrom start found dump
      ↔ position ∈ found
        ∨ start ≤ position ∧ CaptureHeader.signature <+: dump.drop (position - start) := by
  induction dump generalizing start found with
  | nil =>
    have hnotIsPrefix : ¬ CaptureHeader.signature <+: [] := by simp [CaptureHeader.signature]
    simp [findFrom, hnotIsPrefix]
  | cons byte rest ih =>
    rw [findFrom, ih]
    constructor
    · rintro (hhere | ⟨hle, hstands⟩)
      · split at hhere
        · next hstands =>
          rcases List.mem_cons.mp hhere with rfl | hmem
          · exact .inr ⟨Nat.le_refl _, by simpa using hstands⟩
          · exact .inl hmem
        · exact .inl hhere
      · refine .inr ⟨by omega, ?_⟩
        have hshift : position - start = (position - (start + 1)) + 1 := by omega
        rw [hshift, List.drop_succ_cons]
        exact hstands
    -- A position in the rest is this one or a later one.
    · rintro (hmem | ⟨hle, hstands⟩)
      · exact .inl (by split <;> simp [hmem])
      · by_cases hhere : position = start
        · subst hhere
          have hprefixed : CaptureHeader.signature.isPrefixOf (byte :: rest) = true := by
            simpa using hstands
          exact .inl (by simp [hprefixed])
        · refine .inr ⟨by omega, ?_⟩
          have hshift : position - start = (position - (start + 1)) + 1 := by omega
          rw [hshift, List.drop_succ_cons] at hstands
          exact hstands

/-- Captures are found exactly where the signature stands. -/
theorem mem_signatures_iff {dump : Bytes} {position : Nat} :
    position ∈ signatures dump ↔ CaptureHeader.signature <+: dump.drop position := by
  simp [signatures, mem_findFrom_iff]

end CapturedStream

end CallStream
