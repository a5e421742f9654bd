import CallStream.Proofs.Codec.Respelling
import CallStream.Session.MappedRange
import Mathlib.Data.List.Forall2

/-!
# What flushed ranges do to mapped memory

The bytes of flushed ranges lie one behind the other, each behind their number. They are put into
the mappings in the order of the ranges, so where ranges overlap, the last one wins; where none
reaches, nothing changes. The lengths of mappings stay the same, so whether a range fits does not
depend on the ranges before it.

A range that does not fit its mapping takes nothing, and neither does one without a mapping.

## Main results

* `flushRanges_eq_ok`, `flushRanges_of_allTake`: ranges are flushed if each of them can take its
  bytes, and then these are in mapped memory.
* `flushRanges_of_rejects`: the first range that cannot take its bytes ends it.
-/

namespace CallStream

open Cursor

variable {σ : Type}

/-! ### Bytes in their places -/

/-- Put into a byte string, bytes lie where they were put, and no other byte changes. -/
theorem Bytes.splice_eq_mapIdx {bytes content : Bytes} {offset : Nat}
    (hinside : offset + content.length ≤ bytes.length) :
    splice bytes offset content = bytes.mapIdx fun place byte =>
      (if offset ≤ place then content[place - offset]? else none).getD byte := by
  refine (List.mapIdx_eq_iff.mpr fun place => ?_).symm
  have hlength : (bytes.take offset).length = offset := List.length_take_of_le (by omega)
  rw [splice, List.append_assoc]
  by_cases hlt : place < offset
  · rw [List.getElem?_append_left (by omega), List.getElem?_take_of_lt hlt,
      if_neg (Nat.not_le.mpr hlt)]
    exact Option.map_id'.symm
  rw [List.getElem?_append_right (by omega), hlength, if_pos (Nat.not_lt.mp hlt)]
  by_cases hcovered : place - offset < content.length
  · have hknown : place < bytes.length := by omega
    rw [List.getElem?_append_left hcovered, List.getElem?_eq_getElem hcovered,
      List.getElem?_eq_getElem hknown]
    rfl
  · rw [List.getElem?_append_right (by omega), List.getElem?_drop,
      List.getElem?_eq_none (Nat.not_lt.mp hcovered),
      show offset + content.length + (place - offset - content.length) = place by omega]
    exact Option.map_id'.symm

/-- The byte that a range puts at a place in a memory object when it takes `content`, if it reaches
there. -/
def MappedRange.byteAt? (range : MappedRange) (content : Bytes) (memory : UInt64) (place : Nat) :
    Option UInt8 :=
  if range.memory = memory ∧ range.offset.toNat ≤ place then content[place - range.offset.toNat]?
  else none

/-- The byte at a place in a memory object behind ranges that took their bytes in order: the last
range that reaches there has put it there. If none does, it is still the byte from before. -/
def flushedByte (pieces : List (MappedRange × Bytes)) (memory : UInt64) (place : Nat)
    (byte : UInt8) :
    UInt8 :=
  pieces.foldl (fun byte (range, content) => (range.byteAt? content memory place).getD byte) byte

/-- Where no range reaches, a byte stays what it was. -/
theorem flushedByte_of_unreached {pieces : List (MappedRange × Bytes)} {memory : UInt64}
    {place : Nat}
    (hunreached : ∀ piece ∈ pieces, ¬ (piece.1.memory = memory ∧ piece.1.offset.toNat ≤ place ∧
      place < piece.1.offset.toNat + piece.2.length)) (byte : UInt8) :
    flushedByte pieces memory place byte = byte := by
  induction pieces with
  | nil => rfl
  | cons piece rest ih =>
      obtain ⟨range, content⟩ := piece
      obtain ⟨houtside, hothers⟩ := List.forall_mem_cons.mp hunreached
      have hnothing : range.byteAt? content memory place = none := by
        unfold MappedRange.byteAt?
        split
        · next hwithin =>
            refine List.getElem?_eq_none
              (Nat.not_lt.mp fun hcovered => houtside ⟨hwithin.1, hwithin.2, ?_⟩)
            exact (Nat.sub_lt_iff_lt_add' hwithin.2).mp hcovered
        · rfl
      change flushedByte rest memory place ((range.byteAt? content memory place).getD byte) = byte
      rw [hnothing]
      exact ih hothers

/-- A memory object that no range has bytes for stays as it was. -/
theorem mapIdx_flushedByte_of_untouched {pieces : List (MappedRange × Bytes)} {memory : UInt64}
    (huntouched : ∀ piece ∈ pieces, piece.1.memory = memory → piece.2 = []) (bytes : Bytes) :
    bytes.mapIdx (flushedByte pieces memory) = bytes := by
  refine List.mapIdx_eq_iff.mpr fun place => ?_
  have hflushedByte : flushedByte pieces memory place = id := by
    funext byte
    refine flushedByte_of_unreached (fun piece hmem hreached => ?_) byte
    obtain ⟨hmemory, hle, hlt⟩ := hreached
    rw [huntouched piece hmem hmemory] at hlt
    exact Nat.not_lt.mpr hle hlt
  rw [hflushedByte, Option.map_id]
  rfl

/-- Ranges took their bytes, one behind the other, and no other byte of mapped memory changed. Where
ranges overlap, the later one wins. -/
def Flushed (host : Collaborators σ) (pieces : List (MappedRange × Bytes))
    (before after : σ) : Prop :=
  ∀ memory, host.mapped? memory after
    = (host.mapped? memory before).map (List.mapIdx (flushedByte pieces memory))

namespace Flushed

variable {host : Collaborators σ} {pieces : List (MappedRange × Bytes)} {before middle after : σ}

/-- Without ranges, nothing is flushed. -/
theorem nil (host : Collaborators σ) (state : σ) : Flushed host [] state state := by
  intro memory
  have hmapIdx : List.mapIdx (flushedByte [] memory) = id :=
    funext (mapIdx_flushedByte_of_untouched fun _ hmem => absurd hmem List.not_mem_nil)
  rw [hmapIdx, Option.map_id]
  rfl

/-- A range and then others are flushed in order. -/
theorem cons {piece : MappedRange × Bytes} (hflushed : Flushed host [piece] before middle)
    (hothers : Flushed host pieces middle after) : Flushed host (piece :: pieces) before after := by
  intro memory
  rw [hothers memory, hflushed memory, Option.map_map]
  congr 1
  funext bytes
  exact List.mapIdx_mapIdx

/-- Mappings keep their lengths. -/
theorem length_eq (h : Flushed host pieces before after) (memory : UInt64) :
    (host.mapped? memory after).map List.length = (host.mapped? memory before).map List.length := by
  rw [h memory, Option.map_map]
  congr 1
  funext bytes
  exact List.length_mapIdx

end Flushed

/-! ### What a range takes -/

/-- What a range can take of a flush: nothing if it is unmapped, and otherwise as many bytes as its
part of the mapping holds. -/
def MappedRange.Takes (range : MappedRange) (content : Bytes) : (mapped? : Option Nat) → Prop
  | none => content = []
  | some length => content.length < UInt64.size ∧ range.offset.toNat + content.length ≤ length

/-- Why a range cannot take `count` bytes: there are some, but no mapping, or they leave the
mapping. -/
inductive MappedRange.Rejects (call : String) (range : MappedRange) (count : UInt64) :
    (mapped? : Option Nat) → SessionError → Prop
  | unmapped (hne : count ≠ 0) : Rejects call range count none (.unmappedMemory call range.memory)
  | outside {length : Nat} (hleaves : length < range.offset.toNat + count.toNat) :
      Rejects call range count (some length)
        (.rangeOutOfBounds call range.memory range.offset count length)

/-- The length of a memory object's mapping, if it has one. -/
def mappedLength? (host : Collaborators σ) (memory : UInt64) (state : σ) : Option Nat :=
  (host.mapped? memory state).map List.length

/-- Mapped memory behind a range that took `content`. -/
def fillRange (host : Collaborators σ) (range : MappedRange) (content : Bytes) (state : σ) : σ :=
  match host.mapped? range.memory state with
  | none => state
  | some mapping => host.setMapped range.memory (mapping.splice range.offset.toNat content) state

/-- Mapped memory behind ranges that took their bytes in order. -/
def fillRanges (host : Collaborators σ) (pieces : List (MappedRange × Bytes)) (state : σ) : σ :=
  pieces.foldl (fun state (range, content) => fillRange host range content state) state

/-- Each range can take its bytes. Flushing changes no lengths, if memory is lawful, so this can be
asked of the memory as it was at first. -/
def AllTake (host : Collaborators σ) (state : σ) (ranges : List MappedRange)
    (contents : List Bytes) :
    Prop :=
  List.Forall₂ (fun range content => range.Takes content (mappedLength? host range.memory state))
    ranges contents

section Filling

variable {host : Collaborators σ} {ranges : List MappedRange} {contents : List Bytes} {state : σ}

/-- Lawful memory that takes the bytes of a range has them, and no other byte changes. -/
theorem flushed_fillRange (hlawful : LawfulMemory host) {range : MappedRange} {content : Bytes}
    (htakes : range.Takes content (mappedLength? host range.memory state)) :
    Flushed host [(range, content)] state (fillRange host range content state) := by
  intro memory
  unfold fillRange
  unfold mappedLength? at htakes
  cases hmapped : host.mapped? range.memory state with
  | none =>
      rw [hmapped] at htakes
      have huntouched : List.mapIdx (flushedByte [(range, content)] memory) = id :=
        funext (mapIdx_flushedByte_of_untouched (List.forall_mem_singleton.mpr fun _ => htakes))
      rw [huntouched, Option.map_id]
      rfl
  | some mapping =>
      rw [hmapped] at htakes
      -- A range has its bytes in its own memory object, and other objects have none of them.
      by_cases hhere : memory = range.memory
      · subst hhere
        rw [hlawful.mapped?_setMapped_self _ _ _ _ hmapped (Bytes.length_splice htakes.2), hmapped,
          Bytes.splice_eq_mapIdx htakes.2]
        refine congrArg some (List.mapIdx_eq_mapIdx_iff.mpr fun place _ => ?_)
        simp only [flushedByte, MappedRange.byteAt?, List.foldl_cons, List.foldl_nil, true_and]
      · have huntouched : List.mapIdx (flushedByte [(range, content)] memory) = id :=
          funext (mapIdx_flushedByte_of_untouched
            (List.forall_mem_singleton.mpr fun hmemory => absurd hmemory.symm hhere))
        rw [hlawful.mapped?_setMapped_of_ne _ _ _ _ hhere, huntouched, Option.map_id]
        rfl

/-- What ranges can take does not depend on what the ranges before them took. -/
theorem Flushed.allTake_iff {pieces : List (MappedRange × Bytes)} {after : σ}
    (h : Flushed host pieces state after) :
    AllTake host after ranges contents ↔ AllTake host state ranges contents := by
  unfold AllTake mappedLength?
  simp only [h.length_eq]

/-- Ranges that can take their bytes take them. -/
theorem flushed_fillRanges (hlawful : LawfulMemory host)
    (hallTake : AllTake host state ranges contents) :
    Flushed host (ranges.zip contents) state (fillRanges host (ranges.zip contents) state) := by
  induction ranges generalizing contents state with
  | nil => exact .nil host state
  | cons range ranges ih =>
      obtain _ | ⟨htakes, hothers⟩ := hallTake
      have hflushed := flushed_fillRange hlawful htakes
      exact hflushed.cons (ih (hflushed.allTake_iff.mpr hothers))

end Filling

/-! ### What a payload spells is read from it -/

namespace Cursor

variable {ε : Type} {cursor after : Cursor} {front back : Bytes}

/-- What is passed lies at the cursor, and in front of it afterwards. -/
theorem passes_iff : cursor.Passes front after
    ↔ ∃ position suffix, cursor = ⟨position, front ++ suffix⟩ ∧
        after = ⟨position + front.length, suffix⟩ := by
  constructor
  · rintro ⟨hrest, hposition⟩
    exact ⟨cursor.position, after.rest, by rw [← hrest], by rw [← hposition]⟩
  · rintro ⟨position, suffix, rfl, rfl⟩
    exact ⟨rfl, rfl⟩

/-- What is passed in two steps is passed by way of a cursor between them. -/
theorem passes_append_iff : cursor.Passes (front ++ back) after
    ↔ ∃ middle, cursor.Passes front middle ∧ Cursor.Passes middle back after := by
  constructor
  · rintro ⟨hrest, hposition⟩
    refine ⟨⟨cursor.position + front.length, back ++ after.rest⟩, ⟨?_, rfl⟩, rfl, ?_⟩
    · rw [hrest, List.append_assoc]
    · rw [hposition, List.length_append, Nat.add_assoc]
  · rintro ⟨middle, hpasses, htail⟩
    exact hpasses.trans htail

/-- Nothing is passed exactly if the cursor stays. -/
theorem passes_nil_iff : cursor.Passes [] after ↔ after = cursor := by
  rw [passes_iff]
  constructor
  · rintro ⟨position, suffix, rfl, rfl⟩
    rfl
  · rintro rfl
    exact ⟨after.position, after.rest, rfl, rfl⟩

/-- Bytes that lie ahead are read. -/
theorem Passes.readBytes_eq (h : cursor.Passes front after) :
    readBytes (ε := ε) front.length cursor = .ok front after := by
  obtain ⟨position, suffix, rfl, rfl⟩ := passes_iff.mp h
  exact readBytes_append front suffix position

/-- A word that lies ahead is read. -/
theorem Passes.readU64_eq {word : UInt64} (h : cursor.Passes (IntType.u64.encode word) after) :
    readU64 (ε := ε) cursor = .ok word after := by
  obtain ⟨position, suffix, rfl, rfl⟩ := passes_iff.mp h
  have hreadUInt := readUInt_encode (ε := ε) .u64 word suffix position
  rw [IntType.decode_encode_of_lt word.toNat_lt] at hreadUInt
  rw [IntType.length_encode]
  exact hreadUInt

end Cursor

namespace Execution

variable {host : Collaborators σ} {call : String} {range : MappedRange} {content : Bytes}
  {cursor after : Cursor} {run last : Run σ}

/-- Reading bytes of the payload is reading them, and leaves the run alone. -/
theorem readPayload_eq_ok_iff {α : Type} {read : Read Empty α} {value : α} :
    readPayload read cursor run = .ok (value, after) last
      ↔ read cursor = .ok value after ∧ run = last := by
  unfold readPayload
  cases read cursor with
  | ok found reached =>
      dsimp only
      rw [pure_eq_ok_iff, Prod.mk.injEq, EStateM.Result.ok.injEq]
  | error cause reached => exact iff_of_false (fun h => by cases h) fun h => by cases h.1

/-- The ranges of a call are those that its parameters list. -/
theorem rangesOf_eq_ok_iff {args : Record} {ranges : List MappedRange} :
    rangesOf args run = .ok ranges last ↔ MappedRange.ofArgs? args = some ranges ∧ run = last := by
  unfold rangesOf
  cases MappedRange.ofArgs? args with
  | some listed =>
      dsimp only
      rw [pure_eq_ok_iff, Option.some.injEq]
  | none => exact iff_of_false (fun h => by cases h) fun h => by cases h.1

variable {size : UInt64} {mapping : Bytes}

/-- A part of a mapping is transferred if it lies there. -/
theorem hostPart_eq_ok_iff {part : Nat × Nat} :
    hostPart call range size mapping run = .ok part last
      ↔ range.offset.toNat + size.toNat ≤ mapping.length ∧
        part = (range.offset.toNat, size.toNat) ∧ run = last := by
  unfold hostPart MappedRange.hostPart?
  by_cases hinside : range.offset.toNat + size.toNat ≤ mapping.length
  · rw [if_pos hinside, and_iff_right hinside]
    dsimp only
    rw [pure_eq_ok_iff, eq_comm (a := part)]
  · rw [if_neg hinside]
    exact iff_of_false (fun h => by cases h) fun h => hinside h.1

/-- Otherwise the session is over. -/
theorem hostPart_of_outside (houtside : mapping.length < range.offset.toNat + size.toNat) :
    hostPart call range size mapping run
      = .error (.fatal (.rangeOutOfBounds call range.memory range.offset size mapping.length))
      run := by
  unfold hostPart MappedRange.hostPart?
  rw [if_neg (Nat.not_le.mpr houtside)]
  rfl

/-! ### Flushing ranges -/

/-- The bytes of a flushed range as they follow a call: behind their number. -/
def flushedChunk (content : Bytes) : Bytes :=
  IntType.u64.encode (UInt64.ofNat content.length) ++ content

/-- The count of a range decides what becomes of it. -/
theorem flushRange_of_count {count : UInt64}
    (hpasses : cursor.Passes (IntType.u64.encode count) after) :
    flushRange host call range cursor run
      = match host.mapped? range.memory run.state with
        | none => if count > 0 then .error (.fatal (.unmappedMemory call range.memory)) run
            else .ok after run
        | some mapping =>
          (hostPart call range count mapping >>= fun (start, length) =>
            readPayload (readBytes length) after >>= fun (content, cursor) =>
              (modify fun run => { run with
                state := host.setMapped range.memory (mapping.splice start content) run.state })
                >>= fun _ => pure cursor) run := by
  unfold flushRange
  rw [bind_of_ok (readPayload_eq_ok_iff.mpr ⟨hpasses.readU64_eq, rfl⟩)]
  dsimp only
  rw [get_bind_eq]
  cases host.mapped? range.memory run.state with
  | none =>
      dsimp only
      split <;> rfl
  | some mapping => rfl

/-- A range that can take the bytes that lie ahead takes them. -/
theorem flushRange_of_takes
      (htakes : range.Takes content (mappedLength? host range.memory run.state))
    (hpasses : cursor.Passes (flushedChunk content) after) :
    flushRange host call range cursor run
      = .ok after { run with state := fillRange host range content run.state } := by
  obtain ⟨middle, htold, hfollows⟩ := Cursor.passes_append_iff.mp hpasses
  rw [flushRange_of_count htold, fillRange]
  unfold mappedLength? at htakes
  cases hmapped : host.mapped? range.memory run.state with
  | none =>
      rw [hmapped] at htakes
      -- Without a mapping only a count of zero is taken.
      obtain rfl : content = [] := htakes
      rw [Cursor.passes_nil_iff.mp hfollows]
      rfl
  | some mapping =>
      rw [hmapped] at htakes
      obtain ⟨hlt, hinside⟩ := htakes
      have htoNat : (UInt64.ofNat content.length).toNat = content.length :=
        UInt64.toNat_ofNat_of_lt' hlt
      have hpart : hostPart call range (UInt64.ofNat content.length) mapping run
          = .ok (range.offset.toNat, content.length) run :=
        hostPart_eq_ok_iff.mpr (by rw [htoNat]; exact ⟨hinside, rfl, rfl⟩)
      dsimp only
      rw [bind_of_ok hpart, bind_of_ok (readPayload_eq_ok_iff.mpr ⟨hfollows.readBytes_eq, rfl⟩)]
      rfl

/-- A range that cannot take as many bytes as there are takes none, and ends it. -/
theorem flushRange_of_rejects {count : UInt64} {cause : SessionError}
    (hrejects : range.Rejects call count (mappedLength? host range.memory run.state) cause)
    (hpasses : cursor.Passes (IntType.u64.encode count) after) :
    flushRange host call range cursor run = .error (.fatal cause) run := by
  rw [flushRange_of_count hpasses]
  unfold mappedLength? at hrejects
  cases hmapped : host.mapped? range.memory run.state with
  | none =>
      rw [hmapped] at hrejects
      obtain ⟨hne⟩ := hrejects
      exact if_pos (UInt64.pos_iff_ne_zero.mpr hne)
  | some mapping =>
      rw [hmapped] at hrejects
      obtain _ | ⟨hleaves⟩ := hrejects
      exact bind_of_error (hostPart_of_outside hleaves)

/-- What a range took off a payload, it could take. -/
theorem flushRange_eq_ok (h : flushRange host call range cursor run = .ok after last) :
    ∃ content, range.Takes content (mappedLength? host range.memory run.state) ∧
      cursor.Passes (flushedChunk content) after ∧
      last = { run with state := fillRange host range content run.state } := by
  obtain ⟨⟨count, behind⟩, _, hreadPayload, -⟩ := bind_eq_ok_iff.mp h
  have hpasses := passes_of_readUInt (readPayload_eq_ok_iff.mp hreadPayload).1
  rw [flushRange_of_count hpasses] at h
  unfold mappedLength? fillRange
  cases hmapped : host.mapped? range.memory run.state with
  | none =>
      rw [hmapped] at h
      -- Without a mapping, a range can only have no bytes.
      by_cases hgt : count > 0
      · rw [if_pos hgt] at h
        cases h
      · rw [if_neg hgt] at h
        cases h
        obtain rfl : count = 0 := by simpa using hgt
        exact ⟨[], rfl, by rwa [flushedChunk, List.append_nil], rfl⟩
  | some mapping =>
      rw [hmapped] at h
      obtain ⟨part, _, hhostPart, h⟩ := bind_eq_ok_iff.mp h
      obtain ⟨hinside, rfl, rfl⟩ := hostPart_eq_ok_iff.mp hhostPart
      dsimp only at h
      obtain ⟨⟨content, rest⟩, _, hcopied, h⟩ := bind_eq_ok_iff.mp h
      obtain ⟨hreadBytes, rfl⟩ := readPayload_eq_ok_iff.mp hcopied
      obtain ⟨hlength, hback⟩ := passes_of_readBytes hreadBytes
      cases h
      refine ⟨content, ⟨?_, ?_⟩, ?_, rfl⟩
      · rw [hlength]
        exact count.toNat_lt
      · rwa [hlength]
      · rw [flushedChunk, hlength, UInt64.ofNat_toNat]
        exact hpasses.trans hback

variable {ranges front back : List MappedRange} {contents : List Bytes}

/-- Ranges are flushed one behind the other. -/
theorem flushRanges_append (host : Collaborators σ) (call : String) (front back : List MappedRange)
    (cursor : Cursor) :
    flushRanges host call (front ++ back) cursor
      = flushRanges host call front cursor >>= flushRanges host call back := by
  induction front generalizing cursor with
  | nil => rfl
  | cons range front ih =>
      rw [List.cons_append, flushRanges, flushRanges, bind_assoc]
      exact congrArg _ (funext ih)

/-- Ranges that can take the bytes that lie ahead take them, in order. -/
theorem flushRanges_of_allTake (hlawful : LawfulMemory host)
    (hallTake : AllTake host run.state ranges contents)
    (hpasses : cursor.Passes (contents.flatMap flushedChunk) after) :
    flushRanges host call ranges cursor run
      = .ok after { run with state := fillRanges host (ranges.zip contents) run.state } := by
  induction ranges generalizing contents cursor run with
  | nil =>
      cases hallTake
      rw [Cursor.passes_nil_iff.mp hpasses]
      rfl
  | cons range ranges ih =>
      obtain _ | ⟨htakes, hothers⟩ := hallTake
      obtain ⟨middle, hchunk, hchunks⟩ := Cursor.passes_append_iff.mp hpasses
      have hflushed := flushed_fillRange hlawful htakes
      rw [flushRanges, bind_of_ok (flushRange_of_takes htakes hchunk)]
      exact ih (hflushed.allTake_iff.mpr hothers) hchunks

/-- What ranges took off a payload, they could take. -/
theorem flushRanges_eq_ok (hlawful : LawfulMemory host)
    (h : flushRanges host call ranges cursor run = .ok after last) :
    ∃ contents, AllTake host run.state ranges contents ∧
      cursor.Passes (contents.flatMap flushedChunk) after ∧
      last = { run with state := fillRanges host (ranges.zip contents) run.state } := by
  induction ranges generalizing cursor run with
  | nil =>
      cases h
      exact ⟨[], .nil, .refl _, rfl⟩
  | cons range ranges ih =>
      obtain ⟨middle, _, hflushRange, hflushRanges⟩ := bind_eq_ok_iff.mp h
      obtain ⟨content, htakes, hchunk, rfl⟩ := flushRange_eq_ok hflushRange
      obtain ⟨contents, hallTake, hchunks, rfl⟩ := ih hflushRanges
      have hflushed := flushed_fillRange hlawful htakes
      exact ⟨content :: contents, .cons htakes (hflushed.allTake_iff.mp hallTake),
        hchunk.trans hchunks, rfl⟩

/-- The first range that cannot take as many bytes as there are ends it. -/
theorem flushRanges_of_rejects (hlawful : LawfulMemory host) {count : UInt64} {cause : SessionError}
    {middle : Cursor} (hallTake : AllTake host run.state front contents)
    (hpasses : cursor.Passes (contents.flatMap flushedChunk) middle)
    (hrejects : range.Rejects call count (mappedLength? host range.memory run.state) cause)
    (htold : middle.Passes (IntType.u64.encode count) after) :
    flushRanges host call (front ++ range :: back) cursor run
      = .error (.fatal cause)
          { run with state := fillRanges host (front.zip contents) run.state } := by
  have hflushed := flushed_fillRanges hlawful hallTake
  rw [flushRanges_append, bind_of_ok (flushRanges_of_allTake hlawful hallTake hpasses)]
  refine bind_of_error (flushRange_of_rejects ?_ htold)
  rwa [mappedLength?, hflushed.length_eq]

end Execution

end CallStream
