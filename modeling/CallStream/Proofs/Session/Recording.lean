import CallStream.Proofs.Codec.Locality
import CallStream.Proofs.Listing.Agreement
import CallStream.Proofs.Session.FlushedRanges
import CallStream.Proofs.Session.Residue

/-!
# What is recorded can be listed

A session keeps the bytes that it read for a call. A capture of such a call is these bytes behind a
sequence number, or without the command buffer that the call is recorded into. The listing expects
the parameters there and nothing else, and that is what they are: whatever a session reads as the
parameters of a call, the listing reads alike, wherever it lies.

A call that flushes ranges of memory is the exception. The bytes of the ranges lie behind its
parameters and were read with it, so they are kept with it; the listing finds them where it expects
the end.

## Main results

* `passes_of_receive`: the bytes read for a call are its parameters and the ranges that it flushes.
* `CallDescriptor.reads_decodeCaptured`: parameters that were read are read again in a capture.
* `Execution.recorded_lists`: a recorded call is listed without a failure, unless it flushed ranges.
* `Execution.not_lists_flushPayload`: one that flushed a range is not.
-/

namespace CallStream

open Decoding Cursor

/-! ### Captured calls -/

namespace CallDescriptor

/-- The bytes that a capture keeps of a call that was read from `trace`: they follow a sequence
number, or lack the command buffer in front if the call is recorded into one. -/
def captureData (call : CallDescriptor) (seqno : UInt32) (trace : Bytes) : Bytes :=
  if call.isRecorded then trace.drop 8 else Bytes.ofNatLE 4 seqno.toNat ++ trace

/-- The calls that are recorded into a command buffer are issued on it. -/
theorem dispatchType?_of_isRecorded : ∀ call ∈ catalog, call.isRecorded = true →
    call.dispatchType? = some .commandBuffer := by
  decide +kernel

/-- It counts nothing. -/
theorem ignores_first_of_isRecorded : ∀ call ∈ catalog, call.isRecorded = true →
    ∀ first ∈ call.params.head?, ∀ spec ∈ (call.params.drop 1).map (·.field),
      spec.ignores first.name = true := by
  decide +kernel

/-- The handle that a call is issued on takes eight bytes. -/
theorem passes_of_dispatch {σ ε : Type} {call : CallDescriptor} {type : HandleType}
    (hdispatchType : call.dispatchType? = some type) {first : ParamSpec} {rest : List ParamSpec}
    (hparams : call.params = first :: rest) {mapping : HandleMapping} {scope : Record}
    {before after : Cursor × σ} {value : Value}
    (h : decodeField (HandleMapper.identity (σ := σ) (ε := ε)) mapping first.field scope before
      = .ok value after) : ∃ taken, before.1.Passes taken after.1 ∧ taken.length = 8 := by
  obtain ⟨⟨name, fieldType, isOptional, count⟩, creates, destroys, isOutput⟩ := first
  simp only [dispatchType?, hparams, FieldSpec.handleType?] at hdispatchType
  cases fieldType with
  | handle type =>
      simp only [FieldSpec.isArray, Option.ite_none_right_eq_some, Bool.and_eq_true,
        Bool.not_eq_true'] at hdispatchType
      obtain ⟨⟨⟨-, hsingle⟩, hrequired⟩, -⟩ := hdispatchType
      obtain rfl : count = .one := by simpa using hsingle
      subst hrequired
      rw [decodeField_of_required rfl] at h
      change decodeElement _ _ _ _ _ = _ at h
      rw [decodeElement_handle] at h
      obtain ⟨word, ⟨reached, state⟩, honCursor, hpure⟩ := bind_eq_ok_iff.mp h
      obtain ⟨rfl, rfl⟩ := pure_eq_ok_iff.mp hpure
      exact ⟨_, passes_of_readUInt (onCursor_eq_ok_iff.mp honCursor).1, IntType.length_encode _ _⟩
  | _ => cases hdispatchType

/-- A recorded command is read without the command buffer, which captures leave out. -/
theorem decodeCaptured_of_recorded {call : CallDescriptor} (hisRecorded : call.isRecorded = true)
    (mapping : HandleMapping) :
    call.decodeCaptured mapping
      = decodeFields HandleMapper.identity mapping ((call.params.drop 1).map (·.field)) [] := by
  unfold decodeCaptured capturedParams
  rw [hisRecorded]
  rfl

/-- Any other call is read behind a sequence number. -/
theorem decodeCaptured_of_not_recorded {call : CallDescriptor} (hnumbered : call.isRecorded = false)
    (mapping : HandleMapping) :
    call.decodeCaptured mapping
      = onCursor readU32 >>= fun _ =>
          decodeFields HandleMapper.identity mapping call.fields [] := by
  unfold decodeCaptured capturedParams
  rw [hnumbered]
  rfl

variable {call : CallDescriptor} {payload : Bytes} {sent : Record} {cursor : Cursor}

/-- Behind the command buffer that a call is recorded into, its parameters are read without it. -/
theorem repeats_behind_first (hmem : call ∈ catalog) (hisRecorded : call.isRecorded = true)
    (h : call.decodeSent payload = .ok sent (cursor, ())) (mapping : HandleMapping) :
    ∃ handle taken record, (start payload).Passes (handle ++ taken) cursor ∧ handle.length = 8 ∧
      Reads (call.decodeCaptured mapping) taken record := by
  have hdispatchType := dispatchType?_of_isRecorded call hmem hisRecorded
  have hignored := ignores_first_of_isRecorded call hmem hisRecorded
  have hallWellLaid := capturedFields_wellLaid call hmem
  rw [capturedParams, if_pos hisRecorded] at hallWellLaid
  rw [decodeCaptured_of_recorded hisRecorded]
  unfold decodeSent decodeParams fields at h
  cases hparams : call.params with
  | nil =>
      rw [dispatchType?, hparams] at hdispatchType
      cases hdispatchType
  | cons first rest =>
      rw [hparams] at h hallWellLaid hignored
      obtain ⟨value, middle, hdecodeField, hdecodeFields⟩ := bind_eq_ok_iff.mp h
      -- No later parameter is counted by the command buffer in front, so the others are read the
      -- same without it.
      have hothers :=
        decodeFields_leaves_out (HandleMapper.identity : HandleMapper Unit BoxingError)
          .disabled (hignored first rfl) value []
      obtain ⟨record, last, hfound, hpure⟩ :=
        bind_eq_ok_iff.mp ((congrFun hothers middle).symm.trans hdecodeFields)
      obtain ⟨-, rfl⟩ := pure_eq_ok_iff.mp hpure
      obtain ⟨handle, hpasses, hlength⟩ := passes_of_dispatch hdispatchType hparams hdecodeField
      obtain ⟨taken, hpasses', hreads⟩ :=
        repeats_decodeFields .disabled mapping _ [] hallWellLaid [] hfound
      exact ⟨handle, taken, record, hpasses.trans hpasses', hlength, hreads⟩

/-- What a session read as the parameters of a call is read again in a capture, wherever it lies
there and whatever follows it. -/
theorem reads_decodeCaptured (hmem : call ∈ catalog)
    (h : call.decodeSent payload = .ok sent (cursor, ())) (seqno : UInt32)
    (mapping : HandleMapping) :
    ∃ taken record, (start payload).Passes taken cursor ∧
      (call.isRecorded = true → 8 ≤ taken.length) ∧
      Reads (call.decodeCaptured mapping) (call.captureData seqno taken) record := by
  cases hisRecorded : call.isRecorded with
  | true =>
      obtain ⟨handle, taken, record, hpasses, hlength, hreads⟩ :=
        repeats_behind_first hmem hisRecorded h mapping
      refine ⟨handle ++ taken, record, hpasses, fun _ => ?_, ?_⟩
      · rw [List.length_append, hlength]
        exact Nat.le_add_right 8 _
      · rwa [captureData, if_pos hisRecorded, ← hlength, List.drop_left]
  | false =>
      have hallWellLaid := fields_wellLaid call hmem
      obtain ⟨taken, hpasses, hreads⟩ :=
        repeats_decodeFields .disabled mapping call.fields [] hallWellLaid [] h
      refine ⟨taken, sent, hpasses, Bool.false_ne_true.elim, ?_⟩
      have hword := reads_readU32 (σ := Unit) (ε := Empty) seqno
      rw [decodeCaptured_of_not_recorded hisRecorded, captureData, if_neg (by simp [hisRecorded])]
      exact hword.bind hreads

/-- What lies behind the parameters lies behind them in a capture, too. -/
theorem captureData_append {taken : Bytes} (hthere : call.isRecorded = true → 8 ≤ taken.length)
    (seqno : UInt32) (behind : Bytes) :
    call.captureData seqno (taken ++ behind) = call.captureData seqno taken ++ behind := by
  unfold captureData
  split
  · next hisRecorded => exact List.drop_append_of_le_length (hthere hisRecorded)
  · exact (List.append_assoc ..).symm

end CallDescriptor

/-! ### The bytes that are read for a call -/

/-- What was taken off a payload from its start on is what it starts with. -/
theorem Cursor.Passes.take_position {payload taken : Bytes} {after : Cursor}
    (h : (start payload).Passes taken after) : payload.take after.position = taken := by
  rw [h.position, show payload = taken ++ after.rest from h.rest]
  exact (congrArg (List.take · _) (Nat.zero_add _)).trans List.take_left

namespace Execution

variable {σ : Type} {host : Collaborators σ} {run last : Run σ}

/-- Flushed ranges take bytes, unless there are none. -/
theorem flatMap_flushedChunk_eq_nil {contents : List Bytes} :
    contents.flatMap flushedChunk = [] ↔ contents = [] := by
  cases contents with
  | nil => exact iff_of_true rfl rfl
  | cons content rest =>
      refine iff_of_false (fun hflatMap => ?_) (List.cons_ne_nil _ _)
      have hlength := IntType.length_encode .u64 (UInt64.ofNat content.length)
      rw [(List.append_eq_nil_iff.mp (List.append_eq_nil_iff.mp hflatMap).1).1] at hlength
      exact absurd hlength (by decide)

/-- Each flushed range takes its length, and the bytes that it tells. -/
theorem passes_of_flushRanges {call : String} {ranges : List MappedRange} {cursor after : Cursor}
    (h : flushRanges host call ranges cursor run = .ok after last) :
    ∃ contents : List Bytes, contents.length = ranges.length ∧
      cursor.Passes (contents.flatMap flushedChunk) after := by
  induction ranges generalizing cursor run with
  | nil =>
      cases h
      exact ⟨[], rfl, .refl _⟩
  | cons range rest ih =>
      obtain ⟨middle, _, hflushRange, hflushRanges⟩ := bind_eq_ok_iff.mp h
      obtain ⟨content, -, hpasses, -⟩ := flushRange_eq_ok hflushRange
      obtain ⟨contents, hlength, hgoesOn⟩ := ih hflushRanges
      exact ⟨content :: contents, congrArg Nat.succ hlength, hpasses.trans hgoesOn⟩

/-- The ranges whose bytes follow a call that was read. Only flushes carry bytes, and only where
memory is not shared. -/
def flushedRanges (call : CallDescriptor) (transfers : Bool) (request : Request) :
    List MappedRange :=
  if call.route = .flushMappedRanges && transfers then
    (MappedRange.ofArgs? request.args).getD []
  else []

/-- Flushing passes the bytes of every range, each behind their number. -/
theorem passes_of_receiveFlushed {call : CallDescriptor} {transfers : Bool} {request : Request}
    {cursor after : Cursor}
    (h : receiveFlushed host call transfers request cursor run = .ok after last) :
    ∃ contents : List Bytes, contents.length = (flushedRanges call transfers request).length ∧
      cursor.Passes (contents.flatMap flushedChunk) after := by
  unfold receiveFlushed at h
  unfold flushedRanges
  split at h
  · next hflushes =>
      obtain ⟨ranges, _, hrangesOf, h⟩ := bind_eq_ok_iff.mp h
      obtain ⟨hranges, rfl⟩ := rangesOf_eq_ok_iff.mp hrangesOf
      rw [if_pos hflushes, hranges]
      exact passes_of_flushRanges h
  · next hne =>
      cases h
      rw [if_neg hne]
      exact ⟨[], rfl, .refl _⟩

/-- Behind the parameters of a call, as they were sent, the bytes of flushed ranges are read. -/
theorem passes_of_receive {call : CallDescriptor} (hmem : call ∈ CallDescriptor.catalog)
    {payload : Bytes} {transfers : Bool} {request : Request} {size : Nat}
    (h : receive host call payload transfers run = .ok (request, size) last) :
    ∃ sent cursor, ∃ contents : List Bytes, ∃ behind,
      call.decodeSent payload = .ok sent (cursor, ()) ∧
      contents.length = (flushedRanges call transfers request).length ∧
      cursor.Passes (contents.flatMap flushedChunk) behind ∧ size = behind.position := by
  rw [receive_eq] at h
  obtain ⟨⟨read, cursor⟩, middle, hreadCall, h⟩ := bind_eq_ok_iff.mp h
  obtain ⟨behind, _, hreceiveFlushed, h⟩ := bind_eq_ok_iff.mp h
  obtain ⟨_, _, -, hpure⟩ := bind_eq_ok_iff.mp h
  cases hpure
  unfold readCall at hreadCall
  split at hreadCall
  · next hreadRequest =>
      cases hreadCall
      obtain ⟨sent, hsent, -⟩ := Reading.readRequest_eq_ok hmem hreadRequest
      obtain ⟨contents, hlength, hpasses⟩ := passes_of_receiveFlushed hreceiveFlushed
      exact ⟨sent, cursor, contents, behind, hsent, hlength, hpasses, rfl⟩
  · cases hreadCall

end Execution

/-! ### Listing captured calls -/

namespace Listing

variable {call : CallDescriptor} {sink : TextSink}

/-- A dump is written to its end. -/
theorem follows_writeDump (lines : List String) :
    Follows (writeDump lines) (pure ()) id := by
  induction lines with
  | nil => exact follows_pure () id
  | cons line rest ih => exact ih.write _

/-- Bytes behind the parameters are in the way. -/
theorem payload_of_trailing {mapping : HandleMapping} (hmem : call ∈ CallDescriptor.catalog)
    {bytes : Bytes} {record : Record} (hreads : Reads (call.decodeCaptured mapping) bytes record)
    (behind : Bytes) (hisOpen : sink.isOpen) :
    ∃ last, last.isOpen ∧
      payload call (start (bytes ++ behind), sink)
        = if behind = [] then .ok () (⟨bytes.length, []⟩, last)
          else .error (.trailingBytes bytes.length (bytes ++ behind).length)
            (⟨bytes.length, behind⟩, last) := by
  have hdecodeCaptured := hreads 0 behind ()
  rw [Nat.zero_add] at hdecodeCaptured
  obtain ⟨last, hparams, hstays⟩ :=
    (follows_params hmem Command.paramLevel).ok_of_isOpen hdecodeCaptured hisOpen
  refine ⟨last, hstays, (bind_of_ok hparams).trans ?_⟩
  cases behind with
  | nil => rfl
  | cons byte rest =>
      simp only [expectEnd, atEnd, List.isEmpty_cons, Bool.false_eq_true, if_false, Cursor.length,
        List.length_append, reduceCtorEq]

/-- The reason and the bytes are written before a failure is passed on. -/
theorem payloadOrDump_of_error (command : Command) {state : Cursor × TextSink}
    {cause : ListingError} {cursor : Cursor} (h : payload call state = .error cause (cursor, sink))
    (hisOpen : sink.isOpen) :
    ∃ last, payloadOrDump command call state = .error cause last := by
  have hunmoved : (pure () : Decoding Unit Empty Unit) (cursor, ()) = .ok () (cursor, ()) := rfl
  unfold payloadOrDump
  rw [h]
  obtain ⟨named, hwrote, hisOpen⟩ := (follows_write _).ok_of_isOpen hunmoved hisOpen
  obtain ⟨headed, hwroteRest, hisOpen⟩ := (follows_write _).ok_of_isOpen hunmoved hisOpen
  obtain ⟨dumped, hwriteDump, -⟩ := (follows_writeDump _).ok_of_isOpen hunmoved hisOpen
  exact ⟨_, (bind_of_ok hwrote).trans ((bind_of_ok hwroteRest).trans (bind_of_ok hwriteDump))⟩

/-- A captured call is listed to its end if its parameters are all there is of it. -/
theorem command_of_reads {command : Command} {mapping : HandleMapping}
    (hopcode : CallDescriptor.ofOpcode? command.opcode = some call) {bytes behind : Bytes}
    (hdata : command.data = bytes ++ behind) {record : Record}
    (hreads : Reads (call.decodeCaptured mapping) bytes record) (hisOpen : sink.isOpen)
    (stream index : Nat) (cursor : Cursor) :
    (behind = [] → ∃ last, Listing.command command stream index (cursor, sink) = .ok () last) ∧
      (behind ≠ [] → ∃ last, Listing.command command stream index (cursor, sink)
        = .error (.trailingBytes bytes.length command.data.length) last) := by
  have hunmoved : (pure () : Decoding Unit Empty Unit) (start command.data, ())
      = .ok () (start command.data, ()) := rfl
  obtain ⟨titled, hwrite, hstays⟩ := (follows_write (command.title stream index)).ok_of_isOpen
    hunmoved hisOpen
  by_cases hcaptured : command.data = []
  -- Only a capture without data is listed by its title alone, and then there is nothing behind the
  -- parameters.
  · refine ⟨fun _ => ⟨(start command.data, titled), ?_⟩, fun hne => ?_⟩
    · have hisEmpty : command.data.isEmpty = true := List.isEmpty_iff.mpr hcaptured
      unfold Listing.command
      rw [hisEmpty]
      exact bind_of_ok hwrite
    · rw [hcaptured] at hdata
      exact absurd (List.append_eq_nil_iff.mp hdata.symm).2 hne
  · rw [command_of_known hopcode hcaptured, bind_of_ok hwrite]
    obtain ⟨last, hstillOpen, hpayload⟩ := payload_of_trailing
      (CallDescriptor.ofOpcode?_eq_some hopcode).1 hreads behind hstays
    rw [← hdata] at hpayload
    refine ⟨fun hnil => ?_, fun hsome => ?_⟩
    · rw [if_pos hnil] at hpayload
      unfold payloadOrDump
      rw [hpayload]
      exact ⟨_, rfl⟩
    · rw [if_neg hsome] at hpayload
      exact payloadOrDump_of_error command hpayload hstillOpen

end Listing

/-! ### Recorded calls -/

/-- A recorded call as a capture keeps it, whole and under a sequence number. Calls that are
recorded into a command buffer have no number of their own. -/
def SnapshotCall.captured (snapshot : SnapshotCall) (seqno : UInt32) : Command :=
  let data := snapshot.call.captureData seqno snapshot.trace
  { opcode := snapshot.call.opcode
    fullSize := UInt32.ofNat (Packet.headerSize + data.length)
    data }

namespace Execution

variable {σ : Type} {host : Collaborators σ} {call : CallDescriptor} {payload : Bytes}
  {run after : Run σ}

/-- A call that is recorded is read again in a capture. Only the bytes of ranges that it flushed lie
behind its parameters there. -/
theorem recorded_of_runPacket (hmem : call ∈ CallDescriptor.catalog)
    (h : runPacket host call payload run = .ok () after)
    (hoffers : offersFor host call payload run = true) :
    ∃ snapshot request size middle,
      after.events.getLast? = some (.recorded snapshot) ∧
      snapshot.call = call ∧ snapshot.trace = payload.take size ∧
      receive host call payload (!host.sharesMemory run.state) (started run)
        = .ok (request, size) middle ∧
      ∀ seqno, ∃ bytes behind record, (snapshot.captured seqno).data = bytes ++ behind ∧
        Reads (call.decodeCaptured .normal) bytes record ∧
        (behind = [] ↔ flushedRanges call (!host.sharesMemory run.state) request = []) := by
  obtain ⟨request, size, middle, answered, drafted, finished, hreceive, hanswer, hfinish, rfl⟩ :=
    answer_of_runPacket h
  obtain ⟨outcome, _, -, hpure⟩ := bind_eq_ok_iff.mp ((bind_of_ok hreceive).symm.trans hanswer)
  cases hpure
  have hlast := recorded_of_finish hfinish ((offersFor_of_answer hanswer).symm.trans hoffers)
  refine ⟨_, request, size, middle, hlast, rfl, rfl, hreceive, fun seqno => ?_⟩
  obtain ⟨sent, behind, contents, reached, hsent, hlength, hpasses, hposition⟩ :=
    passes_of_receive hmem hreceive
  have hunflushed : contents.flatMap flushedChunk = []
      ↔ flushedRanges call (!host.sharesMemory run.state) request = [] := by
    rw [flatMap_flushedChunk_eq_nil, ← List.length_eq_zero_iff, hlength, List.length_eq_zero_iff]
  obtain ⟨taken, record, hfront, hthere, hreads⟩ :=
    CallDescriptor.reads_decodeCaptured hmem hsent seqno .normal
  refine ⟨_, contents.flatMap flushedChunk, record, ?_, hreads, hunflushed⟩
  rw [← CallDescriptor.captureData_append hthere, ← (hfront.trans hpasses).take_position,
    ← hposition]
  rfl

/-- A captured call is found by its opcode. -/
theorem ofOpcode?_captured {snapshot : SnapshotCall} (hmem : call ∈ CallDescriptor.catalog)
    (hcall : snapshot.call = call) (seqno : UInt32) :
    CallDescriptor.ofOpcode? (snapshot.captured seqno).opcode = some call := by
  rw [← CallDescriptor.ofOpcode?_opcode hmem, ← hcall]
  rfl

/-- A call that is recorded can be listed as a capture keeps it, under any sequence number, with one
exception: if it flushes ranges whose bytes follow it, these bytes are in the way. -/
theorem recorded_lists {opcode : UInt32} (hopcode : CallDescriptor.ofOpcode? opcode = some call)
    (h : runPacket host call payload run = .ok () after)
    (hoffers : offersFor host call payload run = true) :
    ∃ snapshot request size middle,
      after.events.getLast? = some (.recorded snapshot) ∧
      snapshot.call = call ∧ snapshot.trace = payload.take size ∧
      receive host call payload (!host.sharesMemory run.state) (started run)
        = .ok (request, size) middle ∧
      ∀ (seqno : UInt32) (stream index : Nat) (cursor : Cursor) (sink : TextSink), sink.isOpen →
        (flushedRanges call (!host.sharesMemory run.state) request = [] →
          ∃ last, Listing.command (snapshot.captured seqno) stream index (cursor, sink)
            = .ok () last) ∧
        (flushedRanges call (!host.sharesMemory run.state) request ≠ [] →
          ∃ decoded last, Listing.command (snapshot.captured seqno) stream index (cursor, sink)
            = .error (.trailingBytes decoded (snapshot.captured seqno).data.length) last) := by
  obtain ⟨hmem, -⟩ := CallDescriptor.ofOpcode?_eq_some hopcode
  obtain ⟨snapshot, request, size, middle, hlast, hcall, htraced, hreceive, hagain⟩ :=
    recorded_of_runPacket hmem h hoffers
  refine ⟨snapshot, request, size, middle, hlast, hcall, htraced, hreceive, ?_⟩
  intro seqno stream index cursor sink hisOpen
  obtain ⟨bytes, behind, record, hdata, hreads, hunflushed⟩ := hagain seqno
  obtain ⟨hlists, hfails⟩ := Listing.command_of_reads (ofOpcode?_captured hmem hcall seqno)
    hdata hreads
    hisOpen stream index cursor
  exact ⟨fun hnone => hlists (hunflushed.mpr hnone),
    fun hne => ⟨_, hfails fun hnone => hne (hunflushed.mp hnone)⟩⟩

/-- Surroundings that record every call and have one memory object, which is mapped. -/
def recordingHost : Collaborators Bytes :=
  { Collaborators.ofDriver fun request =>
      pure { args := request.args, result := some (.sint 0) } with
    mapped? := fun memory content => if memory = 6 then content.buffered? else none
    mapped?_length_le := fun h => by
      split at h
      · obtain ⟨rfl, hlength⟩ := Bytes.buffered?_eq_some_iff.mp h
        exact hlength
      · cases h
    setMapped := fun memory bytes content => if memory = 6 then bytes else content
    offersRecorder := pure true }

/-- A run that knows device 5 as 7 and the mapped memory object 6 as 8. -/
def mappedRun : Run Bytes where
  state := [0, 0]
  table := { entries := [⟨7, 5, .device⟩, ⟨8, 6, .deviceMemory⟩] }
  sink := .unbounded

/-- The guest waits for its device; the call is recorded, and can be listed. -/
theorem recorded_lists_wait :
    let payload : Bytes := [7, 0, 0, 0, 0, 0, 0, 0]
    ∃ after snapshot,
      CallDescriptor.ofOpcode? 20020 = some .deviceWaitIdle ∧
      runPacket recordingHost .deviceWaitIdle payload mappedRun = .ok () after ∧
      offersFor recordingHost .deviceWaitIdle payload mappedRun = true ∧
      after.events.getLast? = some (.recorded snapshot) ∧
      (snapshot.captured 1).data = [1, 0, 0, 0, 7, 0, 0, 0, 0, 0, 0, 0] ∧
      ∃ last, Listing.command (snapshot.captured 1) 0 0 (start [], {}) = .ok () last := by
  intro payload
  have hopcode : CallDescriptor.ofOpcode? 20020 = some .deviceWaitIdle := rfl
  obtain ⟨after, hpacket, hrecords⟩ : ∃ after,
      runPacket recordingHost .deviceWaitIdle payload mappedRun = .ok () after ∧
        offersFor recordingHost .deviceWaitIdle payload mappedRun = true := ⟨_, rfl, rfl⟩
  obtain ⟨snapshot, request, size, middle, hlast, hcall, htraced, hreceive, hlists⟩ :=
    recorded_lists hopcode hpacket hrecords
  have heq : size = 8 := by
    cases hreceive
    rfl
  refine ⟨after, snapshot, hopcode, hpacket, hrecords, hlast, ?_,
    (hlists 1 0 0 _ {} ⟨rfl, rfl⟩).1 rfl⟩
  rw [SnapshotCall.captured, hcall, htraced, heq]
  rfl

/-- The guest flushes the two bytes of its memory object. -/
def flushPayload : Bytes :=
  [7, 0, 0, 0, 0, 0, 0, 0] ++ [1, 0, 0, 0] ++ [6, 0, 0, 0] ++ [0, 0, 0, 0]
    ++ [8, 0, 0, 0, 0, 0, 0, 0] ++ [0, 0, 0, 0, 0, 0, 0, 0] ++ [2, 0, 0, 0, 0, 0, 0, 0]
    ++ [2, 0, 0, 0, 0, 0, 0, 0] ++ [0xAA, 0xBB]

/-- The call is carried out and recorded, and cannot be listed to its end. -/
theorem not_lists_flushPayload : ∃ after snapshot,
    CallDescriptor.ofOpcode? 20025 = some .flushMappedMemoryRanges ∧
    recordingHost.sharesMemory mappedRun.state = false ∧
    runPacket recordingHost .flushMappedMemoryRanges flushPayload mappedRun = .ok () after ∧
    offersFor recordingHost .flushMappedMemoryRanges flushPayload mappedRun = true ∧
    after.events.getLast? = some (.recorded snapshot) ∧
    (snapshot.captured 0).data = [0, 0, 0, 0] ++ flushPayload ∧
    ¬ ∃ last, Listing.command (snapshot.captured 0) 0 0 (start [], {}) = .ok () last := by
  obtain ⟨after, hpacket, hrecords⟩ : ∃ after,
      runPacket recordingHost .flushMappedMemoryRanges flushPayload mappedRun = .ok () after ∧
        offersFor recordingHost .flushMappedMemoryRanges flushPayload mappedRun = true :=
    ⟨_, rfl, rfl⟩
  have hmem : CallDescriptor.flushMappedMemoryRanges ∈ CallDescriptor.catalog :=
    (CallDescriptor.ofOpcode?_eq_some (rfl : CallDescriptor.ofOpcode? 20025 = _)).1
  obtain ⟨snapshot, request, size, middle, hlast, hcall, htraced, hreceive, hagain⟩ :=
    recorded_of_runPacket hmem hpacket hrecords
  obtain ⟨heq, hflushes⟩ : size = 54 ∧
      flushedRanges .flushMappedMemoryRanges true request ≠ [] := by
    cases hreceive
    exact ⟨rfl, List.cons_ne_nil _ _⟩
  obtain ⟨bytes, behind, record, hdata, hreads, hunflushed⟩ := hagain 0
  have hopened : TextSink.isOpen {} := ⟨rfl, rfl⟩
  obtain ⟨failed, hcommand⟩ :=
    (Listing.command_of_reads (ofOpcode?_captured hmem hcall 0) hdata hreads
      hopened 0 0 (start [])).2 fun hnil => hflushes (hunflushed.mp hnil)
  refine ⟨after, snapshot, rfl, rfl, hpacket, hrecords, hlast, ?_, ?_⟩
  · rw [SnapshotCall.captured, hcall, htraced, heq]
    rfl
  · rintro ⟨_, hlisted⟩
    cases hcommand.symm.trans hlisted

end Execution

end CallStream
