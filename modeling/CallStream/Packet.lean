import CallStream.Bytes
import CallStream.Text.Number

/-!
# Packets

A stream is a sequence of packets, back to back: an opcode, a length that counts the header too, and
a payload. A stream may stop in the middle of a packet, and more bytes may complete it; a length
that does not even cover the header can never be right.

## Main results

- `frame_length_le`: a framed packet lies within the bytes it was framed from.
- `frame_encode`: an encoded packet is framed as it was, whatever follows it.
-/

namespace CallStream

/-- One call in a stream. -/
structure Packet where
  opcode : UInt32
  payload : Bytes
deriving DecidableEq, Repr

/-- What the first bytes of a packet say. -/
structure PacketHeader where
  opcode : UInt32
  length : Int32
deriving DecidableEq, Repr

/-- Why no packet could be framed. -/
inductive FrameError where
  /-- The header, or the packet it announces, is not all there. -/
  | incomplete (offset needed available : Nat)
  /-- The length does not cover the header. -/
  | badLength (offset : Nat) (length : Int32)
deriving DecidableEq, Repr

namespace FrameError

open Text

/-- Whether more bytes may mend the failure. -/
def isIncomplete : FrameError → Bool
  | incomplete _ _ _ => true
  | badLength _ _ => false

/-- The wording of a failure. -/
def message : FrameError → String
  | incomplete offset needed available =>
    s!"incomplete packet at offset {decimal offset}: need {decimal needed} bytes, "
      ++ s!"have {decimal available}"
  | badLength offset length =>
    s!"packet at offset {decimal offset} declares invalid length {signedDecimal length.toInt}"

end FrameError

namespace Packet

/-- The size of a packet's header. -/
def headerSize : Nat := 8

/-- The largest size that the length of a packet can tell. -/
def maxLength : Nat := 0x7FFFFFFF

/-- The size of a packet, header included. -/
def length (packet : Packet) : Nat := headerSize + packet.payload.length

/-- The bytes of a packet. -/
def encode (packet : Packet) : Bytes :=
  Bytes.ofNatLE 4 packet.opcode.toNat ++ Bytes.ofNatLE 4 packet.length ++ packet.payload

/-- Reads a header, if all of it is there. -/
def header? (bytes : Bytes) : Option PacketHeader :=
  if bytes.length < headerSize then none
  else
    some
      { opcode := UInt32.ofNat (Bytes.toNatLE (bytes.take 4))
        length := (UInt32.ofNat (Bytes.toNatLE ((bytes.drop 4).take 4))).toInt32 }

/-- Frames the packet at the start of the bytes. `offset` is where failures place them. -/
def frame (bytes : Bytes) (offset : Nat) : Except FrameError Packet :=
  match header? bytes with
  | none => .error (.incomplete offset headerSize bytes.length)
  | some header =>
    let length := header.length.toInt.toNat
    if header.length.toInt < headerSize then .error (.badLength offset header.length)
    else if bytes.length < length then .error (.incomplete offset length bytes.length)
    else .ok ⟨header.opcode, (bytes.take length).drop headerSize⟩

/-- A framed packet lies within the bytes it was framed from. -/
theorem frame_length_le {bytes : Bytes} {offset : Nat} {packet : Packet}
    (h : frame bytes offset = .ok packet) : packet.length ≤ bytes.length := by
  unfold frame at h
  split at h
  · cases h
  · next header _ =>
    simp only at h
    split at h
    · cases h
    · split at h
      · cases h
      · next hnlt hlong =>
        cases h
        simp only [length, headerSize, List.length_drop, List.length_take] at hnlt hlong ⊢
        omega

/-- Every packet has a header, so no packet is empty. -/
theorem length_pos (packet : Packet) : 0 < packet.length := by
  simp only [length, headerSize]
  omega

/-- An encoded packet of a length that fits its field is framed as it was. -/
theorem frame_encode (packet : Packet) (suffix : Bytes) (offset : Nat)
    (h : packet.length ≤ maxLength) : frame (packet.encode ++ suffix) offset = .ok packet := by
  have hle : packet.length ≤ 2147483647 := h
  have hopcodeBytes := Bytes.length_ofNatLE 4 packet.opcode.toNat
  have hlengthBytes := Bytes.length_ofNatLE 4 packet.length
  have htotal : (packet.encode ++ suffix).length = packet.length + suffix.length := by
    simp [encode, length, headerSize]
    omega
  have hopcode : (packet.encode ++ suffix).take 4 = Bytes.ofNatLE 4 packet.opcode.toNat := by
    simp only [encode, List.append_assoc]
    rw [List.take_append_of_le_length (by omega), List.take_of_length_le (by omega)]
  have htake : ((packet.encode ++ suffix).drop 4).take 4 = Bytes.ofNatLE 4 packet.length := by
    simp only [encode, List.append_assoc]
    rw [List.drop_append_of_le_length (by omega), List.drop_of_length_le (by omega),
      List.nil_append, List.take_append_of_le_length (by omega), List.take_of_length_le (by omega)]
  -- The length is read as a signed word. It is not negative, because no packet is longer than such
  -- a word can say.
  have hword : (UInt32.ofNat (Bytes.toNatLE (Bytes.ofNatLE 4 packet.length))).toInt32.toInt
      = packet.length := by
    rw [Bytes.toNatLE_ofNatLE_of_lt (by simp only [Bytes.capacity]; omega)]
    have := UInt32.toNat_ofNat_of_lt' (n := packet.length) (by
      simp only [UInt32.size]
      omega)
    rw [Int32.toInt, UInt32.toBitVec_toInt32, BitVec.toInt_eq_toNat_of_lt]
    · rw [UInt32.toNat_toBitVec, this]
    · rw [UInt32.toNat_toBitVec, this]
      omega
  have hpayload : ((packet.encode ++ suffix).take packet.length).drop headerSize
      = packet.payload := by
    have hbody : packet.encode ++ suffix = (Bytes.ofNatLE 4 packet.opcode.toNat
        ++ Bytes.ofNatLE 4 packet.length) ++ (packet.payload ++ suffix) := by
      simp [encode]
    have hlength : (Bytes.ofNatLE 4 packet.opcode.toNat ++ Bytes.ofNatLE 4 packet.length).length
        = headerSize := by
      simp [headerSize]
    have hsub : packet.length - headerSize = packet.payload.length := by
      simp [length]
    rw [hbody, ← hlength, List.drop_take, List.drop_left, hlength, hsub, List.take_left]
  have hnlt : ¬ (packet.encode ++ suffix).length < headerSize := by
    rw [htotal, length]
    omega
  have hcovers : ¬ ((packet.length : Int) < headerSize) := by
    rw [length]
    omega
  have hfits : ¬ ((packet.encode ++ suffix).length < packet.length) := by omega
  have hnumber : UInt32.ofNat (Bytes.toNatLE (Bytes.ofNatLE 4 packet.opcode.toNat))
      = packet.opcode := by
    exact Bytes.word_ofNatLE packet.opcode
  simp only [frame, header?, hnlt, if_false, hopcode, htake, hword, Int.toNat_natCast,
    hcovers, hfits, hpayload, hnumber]

end Packet

/-- A walk over the packets of some bytes, which ends with the first failure. -/
structure PacketWalk where
  rest : Bytes
  /-- The bytes covered by the packets met so far. -/
  consumed : Nat := 0
  failed : Bool := false
deriving DecidableEq, Repr

namespace PacketWalk

/-- The start of a walk. -/
def start (bytes : Bytes) : PacketWalk := { rest := bytes }

/-- The next packet or the failure that ends the walk; none once the walk is over. -/
def next? (walk : PacketWalk) : Option (Except FrameError Packet × PacketWalk) :=
  if walk.failed || walk.rest.isEmpty then none
  else
    match Packet.frame walk.rest walk.consumed with
    | .error failure => some (.error failure, { walk with failed := true })
    | .ok packet =>
      some (.ok packet,
        { walk with
          rest := walk.rest.drop packet.length
          consumed := walk.consumed + packet.length })

/-- The steps of a walk, each with the bytes covered after it, and the walk's end. -/
def run (walk : PacketWalk) : List (Except FrameError Packet × Nat) × PacketWalk :=
  match _hnext : walk.next? with
  | none => ([], walk)
  | some (step, after) =>
    let (steps, last) := run after
    ((step, after.consumed) :: steps, last)
termination_by (walk.rest.length, if walk.failed then 0 else 1)
decreasing_by
  unfold next? at _hnext
  split at _hnext
  · cases _hnext
  · next hgoing =>
    simp only [Bool.or_eq_true, not_or, Bool.not_eq_true] at hgoing
    split at _hnext
    · simp only [Option.some.injEq, Prod.mk.injEq] at _hnext
      obtain ⟨_, rfl⟩ := _hnext
      simp only [hgoing.1]
      exact Prod.Lex.right _ (by simp)
    · next packet hframe =>
      simp only [Option.some.injEq, Prod.mk.injEq] at _hnext
      obtain ⟨_, rfl⟩ := _hnext
      have hcovered := Packet.frame_length_le hframe
      have hlt := packet.length_pos
      refine Prod.Lex.left _ _ ?_
      simp only [List.length_drop]
      omega

end PacketWalk

end CallStream
