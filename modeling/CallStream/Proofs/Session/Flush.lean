import CallStream.Proofs.Session.Destruction
import CallStream.Proofs.Session.Recording
import CallStream.Proofs.Session.Writeback

/-!
# Packets that flush memory

A call that flushes memory is received with the bytes behind its parameters, and these are in mapped
memory before the driver is called. The first range that does not fit its mapping, or has bytes but
no mapping, ends the session before anybody is called.

## Main results

* `receive_flush_eq_ok`: what lies behind the parameters of a call is put into mapped memory.
* `drives_of_runPacket`: a call without outputs leaves the surroundings as the driver left them, but
  for what recording it does.
* `runPacket_flushes`: what becomes of a packet that flushes memory.
-/

namespace CallStream

open Cursor

variable {σ : Type}

/-- What lies ahead is what a payload has behind the bytes that were taken off it. -/
theorem Cursor.Passes.drop_position {payload front : Bytes} {after : Cursor}
    (h : (start payload).Passes front after) : payload.drop after.position = after.rest := by
  rw [h.position, show payload = front ++ after.rest from h.rest]
  exact (congrArg (List.drop · _) (Nat.zero_add _)).trans List.drop_left

namespace Execution

variable {host : Collaborators σ} {call : CallDescriptor} {payload : Bytes} {request : Request}
  {range : MappedRange} {front back : List MappedRange} {contents : List Bytes}
  {cursor after : Cursor} {run last : Run σ}

/-! ### Receiving flushed bytes -/

/-- A call is read from the start of its payload, over the table, and nothing else of the run is
used. -/
theorem readCall_eq_ok_iff : readCall call payload run = .ok (request, cursor) last
    ↔ ∃ table, Reading.readRequest call (.start payload, run.table) = .ok request (cursor, table) ∧
        last = { run with table } := by
  unfold readCall
  constructor
  · intro h
    split at h
    · next table hreadRequest =>
        cases h
        exact ⟨table, hreadRequest, rfl⟩
    · cases h
  · rintro ⟨table, hreadRequest, rfl⟩
    rw [hreadRequest]

/-- The parameters of a call are the first bytes of its payload. -/
theorem drop_position_of_readRequest (hmem : call ∈ CallDescriptor.catalog)
    {before after : BoxTable}
    (h : Reading.readRequest call (.start payload, before) = .ok request (cursor, after)) :
    payload.drop cursor.position = cursor.rest := by
  obtain ⟨sent, hsent, -⟩ := Reading.readRequest_eq_ok hmem h
  have hallWellLaid := CallDescriptor.fields_wellLaid call hmem
  obtain ⟨taken, hpasses, -⟩ := repeats_decodeFields .disabled (τ := Unit) (δ := Empty) .disabled
    call.fields [] hallWellLaid [] hsent
  exact hpasses.drop_position

/-- The call that flushes memory is received with the bytes behind it. -/
theorem receive_flush (host : Collaborators σ) (payload : Bytes) :
    receive host .flushMappedMemoryRanges payload true
      = readCall .flushMappedMemoryRanges payload >>= fun (request, cursor) =>
          (rangesOf request.args >>= fun ranges =>
              flushRanges host CallDescriptor.flushMappedMemoryRanges.name ranges cursor) >>=
            fun cursor => onTable BoxTable.commitDestroys >>= fun _ =>
              pure (request, cursor.position) :=
  receive_eq host .flushMappedMemoryRanges payload true

/-- What lies behind the parameters of a call that is received is put into mapped memory. -/
theorem receive_flush_eq_ok (hlawful : LawfulMemory host) {size : Nat}
    (h : receive host .flushMappedMemoryRanges payload true run = .ok (request, size) last) :
    ∃ cursor table ranges contents behind,
      Reading.readRequest .flushMappedMemoryRanges (.start payload, run.table)
        = .ok request (cursor, table) ∧
      MappedRange.ofArgs? request.args = some ranges ∧ AllTake host run.state ranges contents ∧
      cursor.Passes (contents.flatMap flushedChunk) behind ∧
      last.state = fillRanges host (ranges.zip contents) run.state := by
  rw [receive_flush] at h
  obtain ⟨⟨read, cursor⟩, _, hreadCall, h⟩ := bind_eq_ok_iff.mp h
  obtain ⟨table, hreadRequest, rfl⟩ := readCall_eq_ok_iff.mp hreadCall
  obtain ⟨behind, _, hflushes, h⟩ := bind_eq_ok_iff.mp h
  obtain ⟨ranges, _, hrangesOf, hflushes⟩ := bind_eq_ok_iff.mp hflushes
  obtain ⟨hranges, rfl⟩ := rangesOf_eq_ok_iff.mp hrangesOf
  obtain ⟨contents, hallTake, hpasses, rfl⟩ := flushRanges_eq_ok hlawful hflushes
  obtain ⟨_, _, hcommitted, hpure⟩ := bind_eq_ok_iff.mp h
  obtain ⟨_, -, rfl⟩ := onTable_ok_iff.mp hcommitted
  cases hpure
  exact ⟨cursor, table, ranges, contents, behind, hreadRequest, hranges, hallTake, hpasses, rfl⟩

/-- The first range that cannot take as many bytes as there are keeps a call from being received. -/
theorem receive_flush_of_rejects (hlawful : LawfulMemory host) {table : BoxTable}
    (hreadRequest : Reading.readRequest .flushMappedMemoryRanges (.start payload, run.table)
      = .ok request (cursor, table))
    (hranges : MappedRange.ofArgs? request.args = some (front ++ range :: back))
    {middle : Cursor} {count : UInt64} {cause : SessionError}
    (hallTake : AllTake host run.state front contents)
    (hpasses : cursor.Passes (contents.flatMap flushedChunk) middle)
    (htold : middle.Passes (IntType.u64.encode count) after)
    (hrejects : range.Rejects CallDescriptor.flushMappedMemoryRanges.name count
      (mappedLength? host range.memory run.state) cause) :
    receive host .flushMappedMemoryRanges payload true run
      = .error (.fatal cause)
          { run with table, state := fillRanges host (front.zip contents) run.state } := by
  rw [receive_flush, bind_of_ok (readCall_eq_ok_iff.mpr ⟨table, hreadRequest, rfl⟩)]
  have hflushRanges : flushRanges host _ (front ++ range :: back) cursor { run with table } = _ :=
    flushRanges_of_rejects hlawful hallTake hpasses hrejects htold
  exact bind_of_error ((bind_of_ok (rangesOf_eq_ok_iff.mpr ⟨hranges, rfl⟩)).trans hflushRanges)

/-! ### Behind the driver -/

/-- A call that is finished leaves the surroundings as its recording does. -/
theorem state_of_finish {answered : Request × Nat × CallOutcome}
    (h : finish host call payload answered run = .ok () last) :
    ∃ snapshot, last.state = host.afterRecording snapshot run.state := by
  obtain ⟨-, rfl⟩ := finish_eq_ok h
  exact ⟨_, rfl⟩

/-- A result code is appended to the reply. -/
theorem appends_writeResult (result : Option Value) :
    Within Appends (fun _ => True) (writeResult (σ := σ) call result) := by
  unfold writeResult
  split
  · exact within_pure ()
  · exact within_throw trivial
  · split
    · exact within_throw trivial
    · exact appends_emit _ _

/-- Where there are no outputs, drafting a reply does not change the surroundings. -/
theorem appends_draft (host : Collaborators σ) (houtputs : call.outputs = []) (transfers : Bool)
    (outcome : CallOutcome) :
    Within Appends (fun _ => True) (draft host call transfers outcome) := by
  unfold draft
  rw [houtputs]
  refine (within_pure outcome.args).bind fun args => (appends_writeResult _).bind fun _ => ?_
  dsimp only
  split
  · refine (within_rangesOf args).bind fun ranges => ?_
    exact (appends_invalidateRanges _ ranges).bind fun _ => within_pure _
  · exact within_pure _

/-- A received call as the driver gets it, if the global state adapts its parameters in `state`. -/
def driverCall (host : Collaborators σ) (call : CallDescriptor) (request : Request) (state : σ) :
    DriverCall :=
  toDriver call { request with args := (host.toHost call request.args state).1 }

/-- Surroundings that find a received call in the state `before` leave `outcome` and the state
`left`: its parameters are adapted, and then the driver is called. -/
def Drives (host : Collaborators σ) (call : CallDescriptor) (request : Request) (before : σ)
    (outcome : CallOutcome) (left : σ) : Prop :=
  host.drive (driverCall host call request before) (host.toHost call request.args before).2
    = .ok outcome left

/-- A call without outputs leaves the surroundings as the driver left them, but for what recording
it does. -/
theorem drives_of_runPacket (hroute : call.route ≠ .globalState) (houtputs : call.outputs = [])
    (h : runPacket host call payload run = .ok () last) :
    ∃ request size middle outcome left snapshot,
      receive host call payload (!host.sharesMemory run.state) (started run)
        = .ok (request, size) middle ∧
      Drives host call request middle.state outcome left ∧
      last.state = host.afterRecording snapshot left := by
  obtain ⟨request, size, middle, answered, drafted, finished, hreceive, hanswer, hfinish, rfl⟩ :=
    answer_of_runPacket h
  obtain ⟨reached, _, hexecuted, hpure⟩ :=
    bind_eq_ok_iff.mp ((bind_of_ok hreceive).symm.trans hanswer)
  obtain ⟨rfl, rfl⟩ := pure_eq_ok_iff.mp hpure
  rw [execute_eq] at hexecuted
  obtain ⟨outcome, driven, hdispatch, hdrafts⟩ := bind_eq_ok_iff.mp hexecuted
  obtain ⟨state, hdrive, rfl⟩ := drive_of_dispatch hroute hdispatch
  have hkept := ((appends_draft host houtputs _ outcome).of_ok hdrafts).rest
  obtain ⟨snapshot, hstate⟩ := state_of_finish hfinish
  refine ⟨request, size, middle, outcome, state, snapshot, hreceive, hdrive, ?_⟩
  show finished.state = _
  rw [hstate, hkept]

/-- While a call is carried out, nobody but the session writes to mapped memory. The global state,
the driver and the recorder each may; whether they do is theirs to say. -/
structure SparesMemory (host : Collaborators σ) (call : CallDescriptor) : Prop where
  adapted : ∀ (args : Record) (state : σ) (memory : UInt64),
    host.mapped? memory (host.toHost call args state).2 = host.mapped? memory state
  driven : ∀ (request : DriverCall) (state after : σ) (outcome : CallOutcome), request.call = call →
    host.drive request state = .ok outcome after →
      ∀ memory, host.mapped? memory after = host.mapped? memory state
  recorded : ∀ (snapshot : SnapshotCall) (state : σ) (memory : UInt64),
    host.mapped? memory (host.afterRecording snapshot state) = host.mapped? memory state

/-- Then memory is behind the driver what it was before the call was carried out. -/
theorem SparesMemory.mapped?_left {before left : σ} {outcome : CallOutcome}
    (hspares : SparesMemory host call) (hdrives : Drives host call request before outcome left)
    (memory : UInt64) : host.mapped? memory left = host.mapped? memory before :=
  calc host.mapped? memory left
    _ = host.mapped? memory (host.toHost call request.args before).2 :=
        hspares.driven _ _ _ _ rfl hdrives memory
    _ = host.mapped? memory before := hspares.adapted request.args before memory

end Execution

namespace Session

/-- A packet that ends its session ends a run that meets it. -/
theorem runPackets_of_fatal {host : Collaborators σ} {offset : Nat} {rest : Bytes}
    {run last : Run σ} {packet : Packet} {call : CallDescriptor} {cause : SessionError}
    (hframe : Packet.frame rest offset = .ok packet)
    (hopcode : CallDescriptor.ofOpcode? packet.opcode = some call)
    (hpacket : Execution.runPacket host call packet.payload run = .error (.fatal cause) last) :
    runPackets host offset rest run = .error cause last := by
  rw [runPackets_of_known hframe hopcode, hpacket]

end Session

namespace Execution

variable {host : Collaborators σ} {payload : Bytes} {run : Run σ}

/-- The call that flushes memory is in the catalog. -/
theorem flushMappedMemoryRanges_mem :
    CallDescriptor.flushMappedMemoryRanges ∈ CallDescriptor.catalog :=
  (CallDescriptor.ofOpcode?_eq_some (rfl : CallDescriptor.ofOpcode? 20025 = _)).1

/-- What becomes of a packet that flushes memory which guest and host do not share.

If it is carried out, its payload has the bytes of each range behind its parameters, in order and
each behind their number, none for ranges without a mapping. They were put into mapped memory, where
ranges overlap the later ones over the earlier ones, and no other byte changed. In that memory the
parameters were adapted and the driver was called, and behind that the call may have been recorded;
if all these leave mapped memory alone it is what the packet leaves.

If its parameters can be read, the first range that its count keeps from being flushed, for want of
a mapping or for leaving it, ends the session before anything is called. -/
theorem runPacket_flushes (hlawful : LawfulMemory host)
    (hcopies : host.sharesMemory run.state = false) (payload : Bytes) :
    (∀ after, runPacket host .flushMappedMemoryRanges payload run = .ok () after →
      ∃ request cursor table ranges contents trailing filled outcome left snapshot,
        Reading.readRequest .flushMappedMemoryRanges (.start payload, run.table)
          = .ok request (cursor, table) ∧
        MappedRange.ofArgs? request.args = some ranges ∧
        payload.drop cursor.position = contents.flatMap flushedChunk ++ trailing ∧
        AllTake host run.state ranges contents ∧
        Flushed host (ranges.zip contents) run.state filled ∧
        Drives host .flushMappedMemoryRanges request filled outcome left ∧
        after.state = host.afterRecording snapshot left ∧
        (SparesMemory host .flushMappedMemoryRanges →
          Flushed host (ranges.zip contents) run.state after.state)) ∧
    ∀ request cursor table front range back contents count rest cause,
      Reading.readRequest .flushMappedMemoryRanges (.start payload, run.table)
          = .ok request (cursor, table) →
        MappedRange.ofArgs? request.args = some (front ++ range :: back) →
        payload.drop cursor.position
          = contents.flatMap flushedChunk ++ (IntType.u64.encode count ++ rest) →
        AllTake host run.state front contents →
        range.Rejects CallDescriptor.flushMappedMemoryRanges.name count
          (mappedLength? host range.memory run.state) cause →
        ∃ after, runPacket host .flushMappedMemoryRanges payload run = .error (.fatal cause) after ∧
          after.events = run.events ∧
          ∀ offset buffer, Packet.frame buffer offset = .ok ⟨20025, payload⟩ →
            Session.runPackets host offset buffer run = .error cause after := by
  constructor
  · intro after hpacket
    obtain ⟨request, size, middle, outcome, left, snapshot, hreceive, hdrives, hstate⟩ :=
      drives_of_runPacket (by decide) rfl hpacket
    rw [hcopies] at hreceive
    obtain ⟨cursor, table, ranges, contents, behind, hreadRequest, hranges, hallTake, hpasses,
      hfilled⟩ :=
      receive_flush_eq_ok hlawful hreceive
    have hdrop := (drop_position_of_readRequest flushMappedMemoryRanges_mem hreadRequest).trans
      hpasses.rest
    have hflushed : Flushed host (ranges.zip contents) run.state middle.state := by
      rw [hfilled]
      exact flushed_fillRanges hlawful hallTake
    refine ⟨request, cursor, table, ranges, contents, behind.rest, middle.state, outcome, left,
      snapshot, hreadRequest, hranges, hdrop, hallTake, hflushed, hdrives, hstate,
      fun hspares memory => ?_⟩
    rw [hstate, hspares.recorded, hspares.mapped?_left hdrives, hflushed memory]
  · intro request cursor table front range back contents count rest cause hreadRequest hranges hdrop
      hallTake hrejects
    rw [drop_position_of_readRequest flushMappedMemoryRanges_mem hreadRequest] at hdrop
    -- The bytes of the ranges in front have been passed, and the number of this one has been read.
    let middle : Cursor :=
      ⟨cursor.position + (contents.flatMap flushedChunk).length, IntType.u64.encode count ++ rest⟩
    have hpasses : cursor.Passes (contents.flatMap flushedChunk) middle := ⟨hdrop, rfl⟩
    have htold : middle.Passes (IntType.u64.encode count) ⟨_, rest⟩ := ⟨rfl, rfl⟩
    have hagain : Reading.readRequest .flushMappedMemoryRanges (.start payload, (started run).table)
      = .ok request (cursor, table) := hreadRequest
    have hstopped := receive_flush_of_rejects hlawful hagain hranges hallTake hpasses htold hrejects
    have htransfers : (!host.sharesMemory run.state) = true := by rw [hcopies]; rfl
    rw [← htransfers] at hstopped
    have hended := runPacket_of_receive_error hstopped
    exact ⟨_, hended, rfl, fun offset buffer hframe => Session.runPackets_of_fatal hframe
      rfl hended⟩

/-- The one memory object that is mapped is lawful. -/
theorem lawfulMemory_recordingHost : LawfulMemory recordingHost where
  mapped?_setMapped_self memory old new content hfound hlength := by
    by_cases hmemory : memory = 6
    · simp only [recordingHost, hmemory, if_true] at hfound ⊢
      obtain ⟨rfl, hfits⟩ := Bytes.buffered?_eq_some_iff.mp hfound
      exact Bytes.buffered?_eq_some_iff.mpr ⟨rfl, hlength ▸ hfits⟩
    · simp only [recordingHost, hmemory, if_false, reduceCtorEq] at hfound
  mapped?_setMapped_of_ne memory other bytes content hne := by
    by_cases hmemory : memory = 6
    · have hother : other ≠ 6 := hmemory ▸ hne
      simp only [recordingHost, hother, if_false]
    · simp only [recordingHost, hmemory, if_false]

/-- Its driver and its recorder leave it alone. -/
theorem sparesMemory_recordingHost (call : CallDescriptor) : SparesMemory recordingHost call where
  adapted _ _ _ := rfl
  driven _ _ _ _ _ hdrive := by
    cases hdrive
    exact fun _ => rfl
  recorded _ _ _ := rfl

/-- A range as the guest spells it. -/
def rangeBytes (memory offset size : UInt64) : Bytes :=
  [6, 0, 0, 0] ++ [0, 0, 0, 0] ++ IntType.u64.encode memory ++ IntType.u64.encode offset
    ++ IntType.u64.encode size

/-- The guest flushes two bytes, none of the null object, and one of the two once more. -/
def overlappingPayload : Bytes :=
  [7, 0, 0, 0, 0, 0, 0, 0] ++ [3, 0, 0, 0]
    ++ rangeBytes 8 0 2 ++ rangeBytes 0 0 0 ++ rangeBytes 8 1 1
    ++ flushedChunk [0xAA, 0xBB] ++ flushedChunk [] ++ flushedChunk [0xCC]

/-- Behind a range that fits, the guest flushes one whose end is no word. -/
def beyondPayload : Bytes :=
  [7, 0, 0, 0, 0, 0, 0, 0] ++ [2, 0, 0, 0]
    ++ rangeBytes 8 0 1 ++ rangeBytes 8 0xFFFFFFFFFFFFFFFF 2
    ++ flushedChunk [0xAA] ++ IntType.u64.encode 2

/-- The later of two ranges wins, and a range that leaves its mapping ends the session. -/
theorem runPacket_flushes_overlapping :
    LawfulMemory recordingHost ∧ recordingHost.sharesMemory mappedRun.state = false ∧
    (∃ after ranges contents,
      runPacket recordingHost .flushMappedMemoryRanges overlappingPayload mappedRun = .ok () after ∧
      after.state = [0xAA, 0xCC] ∧ AllTake recordingHost [0, 0] ranges contents ∧
      Flushed recordingHost (ranges.zip contents) [0, 0] after.state) ∧
    ∃ after, runPacket recordingHost .flushMappedMemoryRanges beyondPayload mappedRun
        = .error (.fatal (.rangeOutOfBounds "vkFlushMappedMemoryRanges" 6 0xFFFFFFFFFFFFFFFF 2 2))
          after ∧ after.events = [] := by
  have hlawful := lawfulMemory_recordingHost
  have hcopies : recordingHost.sharesMemory mappedRun.state = false := rfl
  refine ⟨hlawful, hcopies, ?_, ?_⟩
  · let result := runPacket recordingHost .flushMappedMemoryRanges overlappingPayload mappedRun
    have hcompletes : isOk result = true ∧ (stateOf result).state =
        [0xAA, 0xCC] := by decide +kernel
    obtain ⟨_, after, hok⟩ := exists_of_isOk hcompletes.1
    have hstate : after.state = [0xAA, 0xCC] := by
      rw [← hcompletes.2, hok]
      rfl
    obtain ⟨request, cursor, table, ranges, contents, trailing, filled, outcome, left,
      snapshot, -, -, -, hallTake, -, -, -, hspared⟩ :=
      (runPacket_flushes hlawful hcopies overlappingPayload).1 after hok
    exact ⟨after, ranges, contents, hok, hstate, hallTake, hspared (sparesMemory_recordingHost _)⟩
  · let reading :=
      Reading.readRequest .flushMappedMemoryRanges (.start beyondPayload, mappedRun.table)
    obtain ⟨request, cursor, table, hread, hranges, hdrop⟩ : ∃ request cursor table,
        reading = .ok request (cursor, table) ∧
        MappedRange.ofArgs? request.args = some [⟨6, 0, 1⟩, ⟨6, 0xFFFFFFFFFFFFFFFF, 2⟩] ∧
        beyondPayload.drop cursor.position
          = [[0xAA]].flatMap flushedChunk ++ (IntType.u64.encode 2 ++ []) :=
          ⟨_, _, _, rfl, rfl, rfl⟩
    -- The first range fits, and the second one ends behind the last address.
    have hallTake : AllTake recordingHost mappedRun.state [⟨6, 0, 1⟩] [[0xAA]] :=
      .cons ⟨by decide, by decide⟩ .nil
    obtain ⟨after, hpacket, huncalled, -⟩ :=
      (runPacket_flushes hlawful hcopies beyondPayload).2 request
        cursor table _ _ [] _ 2 [] _ hread hranges hdrop hallTake (.outside (by decide))
    exact ⟨after, hpacket, huncalled⟩

end Execution

end CallStream
