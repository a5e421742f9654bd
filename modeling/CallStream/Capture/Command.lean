import CallStream.Packet

/-!
# Captured commands

A capture holds commands back to back. Each looks like a packet and may have lost the end of its
payload; from the second version on, the size that the packet had follows it.

## Main results

- `decode_encode`: a command that was written is read back, whatever follows it.
-/

namespace CallStream

/-- A command of a capture. -/
structure Command where
  opcode : UInt32
  /-- The size of the packet when the call was made, header included. -/
  fullSize : UInt32
  /-- The payload as it was captured. -/
  data : Bytes
deriving DecidableEq, Repr

/-- Why a capture could not be read to its end. Offsets count from the start of its commands. -/
inductive CaptureError where
  /-- The header at `offset` in the dump is not all there. -/
  | truncatedHeader (offset available : Nat)
  | unsupportedVersion (version : UInt32)
  /-- No capture is that large. -/
  | dataTooLarge (size : UInt32)
  /-- The dump ends before the commands do. -/
  | dataOutOfBounds (size : UInt32) (available : Nat)
  /-- A command's size does not cover its header. -/
  | badCommandSize (offset : Nat) (size : UInt32)
  /-- The commands end inside a command. -/
  | commandOverrun (offset : Nat) (size : UInt32) (remaining : Nat)
  /-- The commands end before the full size of the last one. -/
  | missingTrailer (offset : Nat)
deriving DecidableEq, Repr

open Text in
/-- The wording of a failure. -/
def CaptureError.message : CaptureError → String
  | truncatedHeader offset available =>
    s!"capture header at {decimal offset} is truncated: {decimal available} of 56 bytes present"
  | unsupportedVersion version => s!"unsupported capture version {decimal version.toNat}"
  | dataTooLarge size => s!"capture data size {decimal size.toNat} exceeds the 64 MiB limit"
  | dataOutOfBounds size available =>
    s!"capture data size {decimal size.toNat} runs past the end of the file "
      ++ s!"({decimal available} bytes left)"
  | badCommandSize offset size =>
    s!"command at data offset {decimal offset} has invalid size {decimal size.toNat}"
  | commandOverrun offset size remaining =>
    s!"command at data offset {decimal offset} needs {decimal size.toNat} bytes "
      ++ s!"but only {decimal remaining} remain"
  | missingTrailer offset =>
    s!"command at data offset {decimal offset} is missing its original size"

namespace Command

/-- The size of a command as it was captured, header included. -/
def size (command : Command) : Nat := Packet.headerSize + command.data.length

/-- Whether the capture cut the payload. -/
def isTruncated (command : Command) : Bool := command.size < command.fullSize.toNat

/-- The first version whose commands are followed by their full sizes. -/
def trailerVersion : UInt32 := 2

/-- The bytes of a command in the layout of a version. -/
def encode (version : UInt32) (command : Command) : Bytes :=
  Bytes.ofNatLE 4 command.opcode.toNat ++ Bytes.ofNatLE 4 command.size ++ command.data
    ++ (if trailerVersion ≤ version then Bytes.ofNatLE 4 command.fullSize.toNat else [])

/-- Reads the little-endian word at an offset. -/
def wordAt (bytes : Bytes) (offset : Nat) : UInt32 :=
  UInt32.ofNat (Bytes.toNatLE (bytes.slice offset 4))

/-- Reads the command at the start of the bytes and says how many bytes it takes. `offset` is where
failures place it. -/
def decode (version : UInt32) (offset : Nat) (bytes : Bytes) :
    Except CaptureError (Command × Nat) :=
  if bytes.length < Packet.headerSize then
    .error (.commandOverrun offset (UInt32.ofNat Packet.headerSize) bytes.length)
  else
    let opcode := wordAt bytes 0
    let size := wordAt bytes 4
    let stop := size.toNat
    if stop < Packet.headerSize then .error (.badCommandSize offset size)
    else if bytes.length < stop then .error (.commandOverrun offset size bytes.length)
    else
      let data := (bytes.take stop).drop Packet.headerSize
      if trailerVersion ≤ version then
        if bytes.length < stop + 4 then .error (.missingTrailer offset)
        else .ok ({ opcode, fullSize := wordAt bytes stop, data }, stop + 4)
      else
        .ok ({ opcode, fullSize := size, data }, stop)

/-- A command takes at least its header, and no more than there is. -/
theorem size_of_decode {version : UInt32} {offset : Nat} {bytes : Bytes} {command : Command}
    {size : Nat} (h : decode version offset bytes = .ok (command, size)) :
    Packet.headerSize ≤ size ∧ size ≤ bytes.length := by
  simp only [decode] at h
  split at h
  · cases h
  · split at h
    · cases h
    · split at h
      · cases h
      · split at h
        · split at h
          · cases h
          · cases h
            omega
        · cases h
          omega

/-- A command that was written is read back, whatever follows it. In a version without full
sizes, the size is that of the command as it was captured. -/
theorem decode_encode (version : UInt32) (offset : Nat) (command : Command) (suffix : Bytes)
    (hfits : command.size < UInt32.size)
    (huntold : ¬ trailerVersion ≤ version → command.fullSize.toNat = command.size) :
    decode version offset (command.encode version ++ suffix)
      = .ok (command, (command.encode version).length) := by
  have hopcodeWidth := Bytes.length_ofNatLE 4 command.opcode.toNat
  have htrailerWidth := Bytes.length_ofNatLE 4 command.fullSize.toNat
  have htoNat : (UInt32.ofNat command.size).toNat = command.size :=
    UInt32.toNat_ofNat_of_lt' hfits
  -- What the reader looks at, one after the other: the opcode, the size, and the payload that the
  -- size covers.
  have hopcode : wordAt (command.encode version ++ suffix) 0 = command.opcode := by
    simp only [wordAt, encode, List.append_assoc, Bytes.slice_ofNatLE_append, Bytes.word_ofNatLE]
  have hwordAt : wordAt (command.encode version ++ suffix) 4 = UInt32.ofNat command.size := by
    simp only [wordAt, encode, List.append_assoc]
    rw [Bytes.slice_append_of_le (Nat.le_of_eq hopcodeWidth), hopcodeWidth, Nat.sub_self,
      Bytes.slice_ofNatLE_append, Bytes.toNatLE_ofNatLE_of_lt hfits]
  have hlength : (Bytes.ofNatLE 4 command.opcode.toNat ++ Bytes.ofNatLE 4 command.size).length
      = Packet.headerSize := by
    simp [Packet.headerSize]
  have hbody : (Bytes.ofNatLE 4 command.opcode.toNat ++ Bytes.ofNatLE 4 command.size
      ++ command.data).length = command.size := by
    rw [List.length_append, hlength, Command.size]
  have hdata : ((command.encode version ++ suffix).take command.size).drop Packet.headerSize
      = command.data := by
    simp only [encode]
    rw [List.append_assoc, List.take_left' hbody, List.drop_left' hlength]
  have hcovers : ¬ command.size < Packet.headerSize := by
    simp [Command.size]
  -- Newer captures have one word more behind the payload. In older ones the payload ends the
  -- command, and the size stands for that word.
  by_cases hnewer : trailerVersion ≤ version
  · have htotal : (command.encode version).length = command.size + 4 := by
      simp only [encode, hnewer, if_true]
      rw [List.length_append, hbody, htrailerWidth]
    have htrailer : wordAt (command.encode version ++ suffix) command.size
        = command.fullSize := by
      simp only [wordAt, encode, hnewer, if_true]
      rw [List.append_assoc, Bytes.slice_append_of_le (Nat.le_of_eq hbody), hbody, Nat.sub_self,
        Bytes.slice_ofNatLE_append, Bytes.word_ofNatLE]
    have hnlt : ¬ (command.encode version ++ suffix).length < Packet.headerSize := by
      rw [List.length_append, htotal]
      omega
    have hroom : ¬ (command.encode version ++ suffix).length < command.size := by
      rw [List.length_append, htotal]
      omega
    have hroomBehind : ¬ (command.encode version ++ suffix).length < command.size + 4 := by
      rw [List.length_append, htotal]
      omega
    simp only [decode, hnlt, if_false, hopcode, hwordAt, htoNat, hcovers, hroom, hdata,
      hnewer, if_true, hroomBehind, htrailer, htotal]
  · have htotal : (command.encode version).length = command.size := by
      simp only [encode, hnewer, if_false, List.append_nil]
      exact hbody
    have hofNat : UInt32.ofNat command.size = command.fullSize := by
      rw [← huntold hnewer, UInt32.ofNat_toNat]
    have hnlt : ¬ (command.encode version ++ suffix).length < Packet.headerSize := by
      rw [List.length_append, htotal]
      omega
    have hroom : ¬ (command.encode version ++ suffix).length < command.size := by
      rw [List.length_append, htotal]
      omega
    simp only [decode, hnlt, if_false, hopcode, hwordAt, htoNat, hcovers, hroom, hdata,
      hnewer, htotal]
    simp only [hofNat]

/-- Reads commands up to the end of the bytes or to the first failure. -/
def decodeAll (version : UInt32) (offset : Nat) (bytes : Bytes) :
    List Command × Option CaptureError :=
  if bytes.isEmpty then ([], none)
  else
    match _hdecode : decode version offset bytes with
    | .error cause => ([], some cause)
    | .ok (command, size) =>
      let (commands, failure) := decodeAll version (offset + size) (bytes.drop size)
      (command :: commands, failure)
termination_by bytes.length
decreasing_by
  have hcovered := size_of_decode _hdecode
  have hlt : 0 < Packet.headerSize := by decide
  simp only [List.length_drop]
  omega

end Command

end CallStream
