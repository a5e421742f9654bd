import CallStream.Capture.Stream
import Mathlib.Data.List.Nodup

/-!
# Recovery of captures

A capture is found wherever it stands in a dump, and all of it is read back: what lies before it or
behind it does not matter, and neither does a signature inside it. A dump holds one capture for each
place where the signature stands, damaged or not.

## Main results

* `Command.decodeAll_encode`: commands that were written back to back are read back.
* `CapturedStream.parse_encode`: a capture is read back from its place in a dump.
* `CapturedStream.pairwise_signatures`: the places of the signature are found in order, each once.
* `CapturedStream.all_recovers`: a capture in a dump is recovered, and every signature counts once.
-/

namespace CallStream

namespace Command

/-- Commands that were written back to back are read back, none left out and none made up. -/
theorem decodeAll_encode {version : UInt32} {commands : List Command}
    (hfits : ∀ command ∈ commands, command.size < UInt32.size)
    (huntold : ¬ trailerVersion ≤ version →
      ∀ command ∈ commands, command.fullSize.toNat = command.size) (offset : Nat) :
    decodeAll version offset (commands.flatMap (encode version)) = (commands, none) := by
  induction commands generalizing offset with
  | nil =>
      rw [decodeAll]
      rfl
  | cons command commands ih =>
      obtain ⟨hfit, hfits⟩ := List.forall_mem_cons.mp hfits
      have hdecode : decode version offset ((command :: commands).flatMap (encode version))
          = .ok (command, (command.encode version).length) := by
        rw [List.flatMap_cons]
        exact decode_encode version offset command _ hfit fun holder =>
          huntold holder command List.mem_cons_self
      have hdecodeAll :=
        ih hfits (fun holder other hmem => huntold holder other (List.mem_cons_of_mem _ hmem))
          (offset + (command.encode version).length)
      -- A command takes bytes, so the reader does not stop in front of it.
      have hisEmpty : ((command :: commands).flatMap (encode version)).isEmpty = false := by
        simp [encode, Bytes.ofNatLE]
      rw [decodeAll, hisEmpty]
      simp only [Bool.false_eq_true, if_false]
      split
      · next hfailed => cases hdecode.symm.trans hfailed
      · next hfound =>
          cases hdecode.symm.trans hfound
          rw [List.flatMap_cons, List.drop_left, hdecodeAll]

/-- A command that is written among others takes no more bytes than all of them. -/
theorem size_le_of_mem {version : UInt32} {commands : List Command} {command : Command}
    (h : command ∈ commands) :
    command.size ≤ (commands.flatMap (encode version)).length := by
  obtain ⟨before, behind, rfl⟩ := List.append_of_mem h
  simp only [List.flatMap_append, List.flatMap_cons, List.length_append, encode, size,
    Packet.headerSize, Bytes.length_ofNatLE]
  omega

end Command

namespace CapturedStream

/-! ### One capture -/

/-- What a dump holds of a capture that is intact: its commands, the fields of its header, and no
failure. -/
def intact (position : Nat) (header : CaptureHeader) (commands : List Command) : CapturedStream :=
  { position
    version := header.version
    timestamp := header.timestamp
    threadId := header.threadId
    captureId := header.captureId
    commands }

/-- A capture has the position that it was looked for at. -/
theorem position_parse (dump : Bytes) (position : Nat) :
    (parse dump position).position = position := by
  dsimp only [parse]
  split
  · rfl
  · split <;> rfl

/-- A version whose layout is known is supported. -/
theorem supported_of_known {version : UInt32} (hknown : version = 1 ∨ version = 2) :
    ¬ (version = 0 ∨ currentVersion < version) := by
  rcases hknown with rfl | rfl <;> decide

/-- The commands behind a header are as many bytes as it tells. -/
theorem dataOf_encode (header : CaptureHeader) {data : Bytes}
    (hknown : header.version = 1 ∨ header.version = 2)
    (htoNat : header.dataSize.toNat = data.length) (hfits : data.length ≤ maxDataSize)
    (behind : Bytes) : dataOf header (header.encode ++ (data ++ behind)) = .ok data := by
  have havailable : (header.encode ++ (data ++ behind)).length - CaptureHeader.size
      = data.length + behind.length := by
    simp only [List.length_append, CaptureHeader.length_encode]
    omega
  have hslice :
      (header.encode ++ (data ++ behind)).slice CaptureHeader.size data.length = data := by
    rw [Bytes.slice, ← CaptureHeader.length_encode header, List.drop_left, List.take_left]
  simp only [dataOf, supported_of_known hknown, htoNat, havailable, hslice, Nat.not_lt.mpr hfits,
    Nat.not_lt.mpr (Nat.le_add_right _ _), if_false]

/-- A capture is read back from its place in a dump, whatever surrounds it. -/
theorem parse_encode {header : CaptureHeader} {commands : List Command}
    (hknown : header.version = 1 ∨ header.version = 2)
    (hfits : (commands.flatMap (Command.encode header.version)).length ≤ maxDataSize)
    (huntold : header.version = 1 → ∀ command ∈ commands, command.fullSize.toNat = command.size)
    (before behind : Bytes) :
    parse (before ++ encode header commands ++ behind) before.length
      = intact before.length header commands := by
  have hlt : maxDataSize < UInt32.size := by decide
  -- The size limit also keeps the sizes within their words.
  have htoNat : (UInt32.ofNat (commands.flatMap (Command.encode header.version)).length).toNat
      = (commands.flatMap (Command.encode header.version)).length :=
    UInt32.toNat_ofNat_of_lt' (Nat.lt_of_le_of_lt hfits hlt)
  have hdecodeAll : Command.decodeAll header.version 0
      (commands.flatMap (Command.encode header.version)) = (commands, none) := by
    refine Command.decodeAll_encode (fun command hmem => ?_) (fun holder => ?_) 0
    · exact Nat.lt_of_le_of_lt (Nat.le_trans (Command.size_le_of_mem hmem) hfits) hlt
    · rcases hknown with hversion | hversion
      · exact huntold hversion
      · exact absurd (hversion ▸ by decide) holder
  have hdataOf := dataOf_encode { header with dataSize := UInt32.ofNat _ } hknown htoNat
    hfits behind
  rw [encode, List.append_assoc, List.append_assoc]
  simp only [parse, List.drop_left, CaptureHeader.parse_encode, hdataOf, hdecodeAll]
  rfl

/-! ### Every capture -/

/-- Behind the places found so far, further ones are found in order. -/
theorem pairwise_findFrom (dump : Bytes) {start : Nat} {found : List Nat}
    (hsorted : found.Pairwise (· > ·)) (hbefore : ∀ position ∈ found, position < start) :
    (findFrom start found dump).Pairwise (· > ·) := by
  induction dump generalizing start found with
  | nil => exact hsorted
  | cons byte rest ih =>
      rw [findFrom]
      refine ih ?_ ?_
      · split
        · exact List.pairwise_cons.mpr ⟨hbefore, hsorted⟩
        · exact hsorted
      · intro position hmem
        split at hmem
        · rcases List.mem_cons.mp hmem with rfl | hearlier
          · exact Nat.lt_succ_self _
          · exact Nat.lt_succ_of_lt (hbefore position hearlier)
        · exact Nat.lt_succ_of_lt (hbefore position hmem)

/-- The places of the signature are found in order, each once. -/
theorem pairwise_signatures (dump : Bytes) : (signatures dump).Pairwise (· < ·) :=
  List.pairwise_reverse.mpr
    (pairwise_findFrom dump List.Pairwise.nil (List.forall_mem_nil _))

/-- There is one capture for each signature in a dump, in order. -/
theorem map_position_all (dump : Bytes) : (all dump).map (·.position) = signatures dump := by
  rw [all, List.map_map]
  exact (List.map_congr_left fun position _ => position_parse dump position).trans (List.map_id _)

/-- What is found at a place where the signature stands is the capture that is read there. -/
theorem filter_position_all {dump : Bytes} {position : Nat}
    (hisPrefix : CaptureHeader.signature <+: dump.drop position) :
    (all dump).filter (·.position = position) = [parse dump position] := by
  have hcount : (signatures dump).count position = 1 :=
    List.count_eq_one_of_mem ((pairwise_signatures dump).imp Nat.ne_of_lt)
      (mem_signatures_iff.mpr hisPrefix)
  have hcomp : (fun found : CapturedStream => decide (found.position = position)) ∘ parse dump
      = fun place => decide (place = position) := by
    funext place
    rw [Function.comp_apply, position_parse]
  rw [all, List.filter_map, hcomp, List.filter_eq, hcount]
  rfl

/-- Where a capture stands, its signature does. -/
theorem signature_prefix_encode (header : CaptureHeader) (commands : List Command)
    (before behind : Bytes) :
    CaptureHeader.signature
      <+: (before ++ encode header commands ++ behind).drop before.length := by
  rw [List.append_assoc, List.drop_left, encode, CaptureHeader.encode]
  simp only [List.append_assoc]
  exact List.prefix_append _ _

/-- A capture that stands anywhere in a dump is recovered: among what is found in the dump exactly
one entry is of its place, and that is the whole capture, without a failure. And whatever a dump
holds, one entry is found for each place where the signature stands, in the order of the places. -/
theorem all_recovers :
    (∀ (header : CaptureHeader) (commands : List Command) (before behind : Bytes),
      (header.version = 1 ∨ header.version = 2) →
      (commands.flatMap (Command.encode header.version)).length ≤ maxDataSize →
      (header.version = 1 →
        ∀ command ∈ commands, command.fullSize.toNat = command.data.length + 8) →
      (all (before ++ encode header commands ++ behind)).filter (·.position = before.length)
        = [{ position := before.length
             version := header.version
             timestamp := header.timestamp
             threadId := header.threadId
             captureId := header.captureId
             commands
             failure := none }]) ∧
    ∀ dump : Bytes,
      ((all dump).map (·.position)).Pairwise (· < ·) ∧
      ∀ position, position ∈ (all dump).map (·.position)
        ↔ CaptureHeader.signature <+: dump.drop position := by
  refine ⟨fun header commands before behind hknown hfits huntold => ?_, fun dump => ?_⟩
  · have hparse := parse_encode hknown hfits (fun holder command hmem => by
      rw [huntold holder command hmem, Command.size, Packet.headerSize, Nat.add_comm]) before behind
    rw [filter_position_all (signature_prefix_encode header commands before behind), hparse]
    rfl
  · rw [map_position_all]
    exact ⟨pairwise_signatures dump, fun position => mem_signatures_iff⟩

/-- A capture of one command whose payload is a signature, with a stray byte before it and a
signature without a header behind it: it is found whole, among three places. -/
theorem all_recovers_nested :
    let header : CaptureHeader := { version := 1, threadId := 5, captureId := 9 }
    let commands : List Command := [⟨20020, 18, CaptureHeader.signature⟩]
    let dump := [0x47] ++ encode header commands ++ CaptureHeader.signature
    header.version = 1 ∧
      (commands.flatMap (Command.encode header.version)).length ≤ maxDataSize ∧
      (∀ command ∈ commands, command.fullSize.toNat = command.data.length + 8) ∧
      (all dump).map (·.position) = [1, 65, 75] ∧
      (all dump).filter (·.position = 1)
        = [{ position := 1
             version := 1
             timestamp := -11644473600000
             threadId := 5
             captureId := 9
             commands
             failure := none }] := by
  intro header commands dump
  have hfits : (commands.flatMap (Command.encode header.version)).length ≤ maxDataSize := by decide
  have hfull : ∀ command ∈ commands, command.fullSize.toNat = command.data.length + 8 := by decide
  have hplaces : (all dump).map (·.position) = [1, 65, 75] := by
    rw [map_position_all]
    decide
  have htime : header.timestamp = -11644473600000 := by decide
  have hfilter := all_recovers.1 header commands [0x47] CaptureHeader.signature (.inl rfl) hfits
    fun _ => hfull
  rw [htime] at hfilter
  exact ⟨rfl, hfits, hfull, hplaces, hfilter⟩

end CapturedStream

end CallStream
