import CallStream.Proofs.Session.Flush

/-!
# What a guest gets of invalidated memory

Behind the result of a call that invalidates memory, the guest gets the bytes of its ranges, each
behind their number. They are those of the mapping when the driver is done, and they are staged in
scratch memory on the way. A range without a mapping counts no bytes. The ranges are those that the
driver leaves among the parameters, whoever put them there.

The first range that leaves its mapping ends the session, and nothing of the reply gets out then.
All bytes that are staged are also in the reply, so scratch memory never runs out of addresses
before the reply is longer than a buffer can be. A reply that would be so long ends the process.

## Main results

* `invalidateRanges_of_allFit`, `invalidateRanges_of_leaves`, `invalidateRanges_of_full`: what
  ranges are answered with, and what ends it.
* `runPacket_invalidates`: what becomes of a packet that invalidates memory.
* `unanswered_though_fitting`: a packet whose ranges are gone when its call is over is not
  answered, and neither is one whose reply would be too long.
-/

namespace CallStream

variable {σ : Type}

/-! ### Staged bytes -/

/-- A part that lies within its bytes is as long as it should be. -/
theorem Bytes.length_slice {bytes : Bytes} {offset length : Nat}
    (hinside : offset + length ≤ bytes.length) : (bytes.slice offset length).length = length := by
  rw [slice, List.length_take, List.length_drop]
  omega

namespace ScratchPool

variable {pool : ScratchPool} {content : Bytes}

/-- Any address is a multiple of one. -/
theorem alignUp?_one {value : Nat} (haddress : value < addressLimit) :
    alignUp? value 1 = some value := by
  unfold alignUp?
  simp [haddress]

/-- Where there is room, bytes are staged behind those in use, and found there. -/
theorem exists_stage_eq_ok (hroom : pool.used + content.length ≤ Bytes.maxLength) :
    ∃ staged after, pool.stage content = .ok (staged, after) ∧ after.get staged = content ∧
      after.used = pool.used + content.length := by
  have haddress : pool.used + content.length < addressLimit := Nat.lt_of_le_of_lt hroom (by decide)
  have halloc : pool.alloc content.length 1 = .ok (⟨pool.used, content.length⟩,
      { bytes := pool.bytes ++ List.replicate content.length 0
        highWater := max pool.highWater (pool.used + content.length) }) := by
    unfold alloc
    rw [Nat.max_self, alignUp?_one (Nat.lt_of_le_of_lt (Nat.le_add_right ..) haddress)]
    dsimp only
    rw [if_neg (Nat.not_le.mpr haddress), if_neg (Nat.not_lt.mpr hroom), Nat.add_sub_cancel_left]
  unfold stage
  rw [halloc]
  refine ⟨_, _, rfl, get_write rfl ?_, ?_⟩
  · simp only [used, List.length_append, List.length_replicate, le_refl]
  · rw [used, write, Bytes.length_splice] <;>
      simp only [used, List.length_append, List.length_replicate, le_refl]

/-- Where the bytes have addresses but no room, the process ends. -/
theorem stage_of_full (hfull : Bytes.maxLength < pool.used + content.length)
    (haddress : pool.used + content.length < addressLimit) :
    pool.stage content = .error .capacityOverflow := by
  unfold stage alloc
  rw [Nat.max_self, alignUp?_one (Nat.lt_of_le_of_lt (Nat.le_add_right ..) haddress)]
  dsimp only
  rw [if_neg (Nat.not_le.mpr haddress), if_pos hfull]
  rfl

end ScratchPool

/-! ### What a range is answered with -/

section Ranges

variable (host : Collaborators σ) (state : σ) (range : MappedRange)

/-- The number of bytes that a guest wants of an invalidated range: those that it names, or as many
as the memory object has. -/
def wantedSize : UInt64 :=
  if range.size = MappedRange.wholeSize then host.memorySize range.memory state else range.size

/-- An invalidated range lies in its mapping, if it has one. A range without a mapping fits whatever
it names, and is answered with no bytes. -/
def Fits : Prop :=
  ∀ mapping ∈ host.mapped? range.memory state,
    range.offset.toNat + (wantedSize host state range).toNat ≤ mapping.length

/-- Whether a range fits can be computed: there is one mapping at most. -/
instance : Decidable (Fits host state range) :=
  inferInstanceAs (Decidable (∀ mapping ∈ host.mapped? range.memory state, _))

/-- What a guest gets for a range that fits: the bytes of the mapping behind their number, which is
zero where there is no mapping. -/
def returnedChunk : Bytes :=
  match host.mapped? range.memory state with
  | none => IntType.u64.encode 0
  | some mapping =>
    let size := wantedSize host state range
    IntType.u64.encode size ++ mapping.slice range.offset.toNat size.toNat

/-- The reply to a call that invalidates ranges: its result code, and what each range is answered
with. -/
def invalidateReply (code : Int64) (ranges : List MappedRange) : Bytes :=
  IntType.i32.encode code.toUInt64 ++ ranges.flatMap (returnedChunk host state)

end Ranges

namespace Execution

variable {host : Collaborators σ} {call : String} {range : MappedRange} {run : Run σ}

/-! ### One range -/

/-- With nothing staged but what the reply has too, bytes of a mapping are staged, or the process
ends. -/
theorem stage_cases (call : String) (content : Bytes)
    (hstaged : run.scratch.used ≤ run.writer.bytes.length)
    (hbounded : run.writer.bytes.length ≤ Bytes.maxLength)
    (hcontent : content.length ≤ Bytes.maxLength) :
    (∃ scratch, stage call content run = .ok content { run with scratch } ∧
        scratch.used = run.scratch.used + content.length) ∨
      (Bytes.maxLength < run.scratch.used + content.length ∧
        stage call content run
          = .error (.fatal (.scratchExhausted ⟨call, .capacityOverflow⟩)) run) := by
  unfold stage
  rw [get_bind_eq]
  rcases Nat.lt_or_ge Bytes.maxLength (run.scratch.used + content.length) with hfull | hroom
  · have haddress : run.scratch.used + content.length < ScratchPool.addressLimit := by
      have hlimit : Bytes.maxLength + Bytes.maxLength < ScratchPool.addressLimit := by decide
      omega
    refine Or.inr ⟨hfull, ?_⟩
    rw [ScratchPool.stage_of_full hfull haddress]
    rfl
  · obtain ⟨staged, scratch, hstage, hget, hused⟩ := ScratchPool.exists_stage_eq_ok hroom
    refine Or.inl ⟨scratch, ?_, hused⟩
    rw [hstage]
    show EStateM.Result.ok (scratch.get staged) { run with scratch } = _
    rw [hget]

/-- Bytes in two parts are added where there is room for both. -/
theorem emit_emit_of_room {front back : Bytes} (hroom : run.writer.HasRoom (front ++ back).length) :
    (emit call front >>= fun _ => emit call back) run
      = .ok () { run with writer := run.writer.append (front ++ back) } := by
  rw [List.length_append] at hroom
  have hfront : run.writer.HasRoom front.length := hroom.mono (Nat.le_add_right ..)
  have hback : (run.writer.append front).HasRoom back.length := Writer.hasRoom_append.mpr hroom
  rw [bind_of_ok (emit_of_room hfront), emit_of_room hback, Writer.append, Writer.append,
    Writer.append, List.append_assoc]

/-- Where there is no room for both, the process ends, and the surroundings are left as they
were. -/
theorem emit_emit_of_full {front back : Bytes}
    (hfull : ¬ run.writer.HasRoom (front ++ back).length) :
    ∃ stopped, (emit call front >>= fun _ => emit call back) run
        = .error (.fatal (.scratchExhausted ⟨call, .capacityOverflow⟩)) stopped ∧
      stopped.state = run.state := by
  rw [List.length_append] at hfull
  by_cases hfront : run.writer.HasRoom front.length
  · have hback : ¬ (run.writer.append front).HasRoom back.length :=
      fun hroom => hfull (Writer.hasRoom_append.mp hroom)
    rw [bind_of_ok (emit_of_room hfront)]
    exact ⟨_, emit_of_full hback, rfl⟩
  · exact ⟨_, bind_of_error (emit_of_full hfront), rfl⟩

/-- A range without a mapping is answered with a zero. -/
theorem invalidateRange_of_unmapped (hmapped : host.mapped? range.memory run.state = none) :
    invalidateRange host call range run = emit call (IntType.u64.encode 0) run := by
  unfold invalidateRange
  rw [get_bind_eq, hmapped]

/-- A range that lies in its mapping is staged, and then added to the reply behind its size. -/
theorem invalidateRange_of_inside {mapping : Bytes}
    (hmapped : host.mapped? range.memory run.state = some mapping)
    (hinside : range.offset.toNat + (wantedSize host run.state range).toNat ≤ mapping.length) :
    invalidateRange host call range run
      = (stage call (mapping.slice range.offset.toNat (wantedSize host run.state range).toNat)
          >>= fun staged => emit call (IntType.u64.encode (wantedSize host run.state range))
            >>= fun _ => emit call staged) run := by
  unfold invalidateRange
  rw [get_bind_eq, hmapped]
  refine (bind_of_ok (hostPart_eq_ok_iff.mpr ⟨hinside, rfl, rfl⟩)).trans ?_
  dsimp only [wantedSize]

/-- A range that fits is answered if the reply has room for it. -/
theorem invalidateRange_of_room (call : String) (hfits : Fits host run.state range)
    (hstaged : run.scratch.used ≤ run.writer.bytes.length)
    (hroom : run.writer.HasRoom (returnedChunk host run.state range).length) :
    ∃ scratch, invalidateRange host call range run
        = .ok () { run with
            scratch, writer := run.writer.append (returnedChunk host run.state range) } ∧
      scratch.used ≤ (run.writer.append (returnedChunk host run.state range)).bytes.length := by
  unfold Writer.append
  rw [List.length_append]
  unfold returnedChunk at hroom ⊢
  cases hmapped : host.mapped? range.memory run.state with
  | none =>
      rw [hmapped] at hroom
      refine ⟨run.scratch, ?_, Nat.le_add_right_of_le hstaged⟩
      rw [invalidateRange_of_unmapped hmapped]
      exact emit_of_room hroom
  | some mapping =>
      rw [hmapped] at hroom
      have hinside := hfits mapping hmapped
      have hlength := Bytes.length_slice hinside
      rw [invalidateRange_of_inside hmapped hinside]
      dsimp only at hroom ⊢
      generalize mapping.slice range.offset.toNat _ = content at hroom ⊢
      -- The staged bytes are no more than the reply will have, so there is room for them too.
      have hreply := hroom
      rw [Writer.HasRoom, List.length_append] at hreply
      rcases stage_cases call content hstaged (by omega) (by omega) with
        ⟨scratch, hstage, hused⟩ | ⟨hfull, -⟩
      · refine ⟨scratch, ?_, ?_⟩
        · rw [bind_of_ok hstage]
          exact emit_emit_of_room hroom
        · rw [hused, List.length_append]
          omega
      · omega

/-- A range that fits ends the process if the reply has no room for it. -/
theorem invalidateRange_of_full (hfits : Fits host run.state range)
    (hstaged : run.scratch.used ≤ run.writer.bytes.length)
    (hbounded : run.writer.bytes.length ≤ Bytes.maxLength)
    (hfull : ¬ run.writer.HasRoom (returnedChunk host run.state range).length) :
    ∃ stopped, invalidateRange host call range run
        = .error (.fatal (.scratchExhausted ⟨call, .capacityOverflow⟩)) stopped ∧
      stopped.state = run.state := by
  unfold returnedChunk at hfull
  cases hmapped : host.mapped? range.memory run.state with
  | none =>
      rw [hmapped] at hfull
      refine ⟨run, ?_, rfl⟩
      rw [invalidateRange_of_unmapped hmapped]
      exact emit_of_full hfull
  | some mapping =>
      rw [hmapped] at hfull
      have hinside := hfits mapping hmapped
      have hlength := Bytes.length_slice hinside
      have hmapping := host.mapped?_length_le hmapped
      rw [invalidateRange_of_inside hmapped hinside]
      dsimp only at hfull ⊢
      generalize mapping.slice range.offset.toNat _ = content at hlength hfull ⊢
      -- Either the staged bytes are too many, or the reply is.
      rcases stage_cases call content hstaged hbounded (by omega) with
        ⟨scratch, hstage, -⟩ | ⟨-, hstage⟩
      · rw [bind_of_ok hstage]
        exact emit_emit_of_full hfull
      · exact ⟨run, bind_of_error hstage, rfl⟩

/-- A range that leaves its mapping ends the session. -/
theorem invalidateRange_of_leaves {mapping : Bytes}
    (hmapped : host.mapped? range.memory run.state = some mapping)
    (hleaves : mapping.length < range.offset.toNat + (wantedSize host run.state range).toNat) :
    invalidateRange host call range run
      = .error (.fatal (.rangeOutOfBounds call range.memory range.offset
          (wantedSize host run.state range) mapping.length)) run := by
  unfold invalidateRange
  rw [get_bind_eq, hmapped]
  exact bind_of_error (hostPart_of_outside hleaves)

/-! ### Ranges -/

variable {ranges front back : List MappedRange}

/-- Ranges are answered one behind the other. -/
theorem invalidateRanges_append (host : Collaborators σ) (call : String)
    (front back : List MappedRange) :
    invalidateRanges host call (front ++ back)
      = invalidateRanges host call front >>= fun _ => invalidateRanges host call back := by
  induction front with
  | nil => rfl
  | cons range front ih => rw [List.cons_append, invalidateRanges, invalidateRanges, ih, bind_assoc]

/-- Ranges that fit are answered in order if the reply has room for all of them. -/
theorem invalidateRanges_of_allFit (call : String)
    (hfits : ∀ range ∈ ranges, Fits host run.state range)
    (hstaged : run.scratch.used ≤ run.writer.bytes.length)
    (hroom : run.writer.HasRoom (ranges.flatMap (returnedChunk host run.state)).length) :
    ∃ scratch, invalidateRanges host call ranges run
      = .ok () { run with
          scratch
          writer := run.writer.append (ranges.flatMap (returnedChunk host run.state)) } := by
  induction ranges generalizing run with
  | nil =>
      refine ⟨run.scratch, ?_⟩
      rw [List.flatMap_nil, Writer.append, List.append_nil]
      rfl
  | cons range ranges ih =>
      obtain ⟨hfirst, hothers⟩ := List.forall_mem_cons.mp hfits
      rw [List.flatMap_cons, List.length_append] at hroom
      -- The reply holds all that is staged, so its room is enough for scratch memory as well.
      have hchunk : run.writer.HasRoom (returnedChunk host run.state range).length :=
        hroom.mono (Nat.le_add_right ..)
      obtain ⟨middle, hrange, hused⟩ := invalidateRange_of_room call hfirst hstaged hchunk
      obtain ⟨scratch, hranges⟩ := @ih
        { run with
          scratch := middle
          writer := run.writer.append (returnedChunk host run.state range) }
        hothers hused (Writer.hasRoom_append.mpr hroom)
      refine ⟨scratch, ?_⟩
      rw [invalidateRanges, bind_of_ok hrange, hranges]
      simp only [Writer.append, List.flatMap_cons, List.append_assoc]

/-- The first range that leaves its mapping ends the session. -/
theorem invalidateRanges_of_leaves (hfits : ∀ range ∈ front, Fits host run.state range)
    (hstaged : run.scratch.used ≤ run.writer.bytes.length)
    (hroom : run.writer.HasRoom (front.flatMap (returnedChunk host run.state)).length)
    {mapping : Bytes} (hmapped : host.mapped? range.memory run.state = some mapping)
    (hleaves : mapping.length < range.offset.toNat + (wantedSize host run.state range).toNat) :
    ∃ stopped, invalidateRanges host call (front ++ range :: back) run
        = .error (.fatal (.rangeOutOfBounds call range.memory range.offset
            (wantedSize host run.state range) mapping.length)) stopped ∧
      stopped.state = run.state := by
  obtain ⟨scratch, hfront⟩ := invalidateRanges_of_allFit call hfits hstaged hroom
  rw [invalidateRanges_append, bind_of_ok hfront]
  exact ⟨_, bind_of_error (invalidateRange_of_leaves hmapped hleaves), rfl⟩

/-- Ranges that fit end the process if the reply has no room for all of them. -/
theorem invalidateRanges_of_full (hfits : ∀ range ∈ front, Fits host run.state range)
    (hstaged : run.scratch.used ≤ run.writer.bytes.length)
    (hbounded : run.writer.bytes.length ≤ Bytes.maxLength)
    (hfull : ¬ run.writer.HasRoom (front.flatMap (returnedChunk host run.state)).length) :
    ∃ stopped, invalidateRanges host call (front ++ back) run
        = .error (.fatal (.scratchExhausted ⟨call, .capacityOverflow⟩)) stopped ∧
      stopped.state = run.state := by
  induction front generalizing run with
  | nil => exact absurd hbounded hfull
  | cons range front ih =>
      obtain ⟨hfirst, hothers⟩ := List.forall_mem_cons.mp hfits
      rw [List.cons_append, invalidateRanges]
      -- The first range for which the room is gone ends the process.
      by_cases hchunk : run.writer.HasRoom (returnedChunk host run.state range).length
      · obtain ⟨middle, hrange, hused⟩ := invalidateRange_of_room call hfirst hstaged hchunk
        rw [bind_of_ok hrange]
        refine ih hothers hused ?_ fun hroom => hfull ?_
        · rw [Writer.append, List.length_append]
          exact hchunk
        · rw [List.flatMap_cons, List.length_append]
          exact Writer.hasRoom_append.mp hroom
      · obtain ⟨stopped, hrange, hstate⟩ := invalidateRange_of_full hfirst hstaged hbounded hchunk
        exact ⟨stopped, bind_of_error hrange, hstate⟩

/-! ### Packets that are answered, and packets that are not -/

section Packets

variable {call : CallDescriptor} {payload : Bytes} {drafted middle : Run σ} {request : Request}
  {size : Nat}

/-- A packet whose answer the sink takes is carried out, and its call recorded if a recorder is
offered. -/
theorem runPacket_of_answer {answered : Request × Nat × CallOutcome} {sink : Sink}
    (hanswer : answer host call payload (!host.sharesMemory run.state) (started run)
      = .ok answered drafted)
    (htaken : drafted.sink.write? drafted.writer.bytes = some sink) :
    ∃ after snapshot, runPacket host call payload run = .ok () after ∧ after.sink = sink ∧
      after.state = host.afterRecording snapshot drafted.state := by
  let sent : Run σ := { drafted with writer := drafted.writer.clear, sink }
  have hcommit : commit drafted = .ok () sent := by
    unfold commit Writer.commit?
    rw [htaken]
    rfl
  have hrecord := record_eq host call (payload.take answered.2.1) answered.1.dispatch
    answered.2.2 sent
  have hperform := (perform_eq host call payload (started run)).trans
    ((bind_of_ok hanswer).trans ((bind_of_ok hcommit).trans hrecord))
  unfold runPacket
  rw [← started, hperform]
  exact ⟨_, _, rfl, rfl, rfl⟩

/-- A packet that is not answered is over, and the sink did not hear of it. -/
theorem runPacket_of_answer_error {cause : PacketError}
    (hfails : answer host call payload (!host.sharesMemory run.state) (started run)
      = .error cause drafted) :
    ∃ after, runPacket host call payload run = .error cause after ∧ after.sink = run.sink ∧
      after.state = drafted.state := by
  have hperform : perform host call payload (started run) = .error cause drafted :=
    (perform_eq host call payload (started run)).trans (bind_of_error hfails)
  have hsink := sink_of_answer host call payload (!host.sharesMemory run.state) (started run)
  rw [hfails] at hsink
  unfold runPacket
  rw [← started, hperform]
  exact ⟨_, rfl, hsink, rfl⟩

/-- A call that flushes nothing is received without changing the surroundings. -/
theorem state_of_receive (hroute : call.route ≠ .flushMappedRanges) {transfers : Bool}
    (h : receive host call payload transfers run = .ok (request, size) middle) :
    middle.state = run.state := by
  rw [receive_eq] at h
  obtain ⟨⟨read, cursor⟩, reached, hread, h⟩ := bind_eq_ok_iff.mp h
  obtain ⟨_, _, hflush, h⟩ := bind_eq_ok_iff.mp h
  obtain ⟨_, _, hcommit, hdone⟩ := bind_eq_ok_iff.mp h
  obtain ⟨_, -, rfl⟩ := onTable_ok_iff.mp hcommit
  unfold receiveFlushed at hflush
  rw [if_neg (by simp [hroute])] at hflush
  cases hflush
  cases hdone
  exact (collects_readCall.of_ok hread).state.symm

/-- Behind the driver, a call that was received only has its reply to draft. -/
theorem answer_of_drive (hroute : call.route ≠ .globalState) {transfers : Bool}
    (hreceive : receive host call payload transfers run = .ok (request, size) middle)
    {outcome : CallOutcome} {left : σ}
    (hdrives : Drives host call request middle.state outcome left) :
    ∃ events, answer host call payload transfers run
      = (draft host call transfers outcome >>= fun outcome => pure (request, size, outcome))
          { middle with state := left, events } := by
  have hdispatch : dispatch host call (adapted host call request middle)
      (prepared host call request middle)
      = .ok outcome { prepared host call request middle with
          state := left
          events := (prepared host call request middle).events
            ++ [.drove (toDriver call (adapted host call request middle))] } := by
    have hdrove : host.drive (driverCall host call request middle.state)
        (prepared host call request middle).state = .ok outcome left := hdrives
    unfold dispatch
    rw [if_neg hroute]
    change callDriver host (driverCall host call request middle.state) _ = _
    rw [callDriver_eq, hdrove]
    rfl
  -- What is left of the call is its draft, over the state that the driver left.
  have hexecute := (execute_eq host call transfers request middle).trans (bind_of_ok hdispatch)
  exact ⟨_, (bind_of_ok hreceive).trans (bind_eq_bind hexecute)⟩

end Packets

/-! ### Drafting the reply -/

/-- A result code is added to an empty reply. -/
theorem writeResult_of_code {call : CallDescriptor} {type : IntType}
    (htype : call.result = some type)
    (hblank : run.writer.bytes = []) {result : Option Value} {code : Int64}
    (hcode : result.bind resultCode? = some code) :
    writeResult call result run
      = .ok () { run with writer := ⟨type.encode code.toUInt64⟩ } := by
  obtain ⟨value, rfl, hvalue⟩ := Option.bind_eq_some_iff.mp hcode
  have hroom : run.writer.HasRoom (type.encode code.toUInt64).length := by
    rw [Writer.HasRoom, hblank, IntType.length_encode]
    generalize type.width = width
    cases width <;> decide
  unfold writeResult
  rw [htype]
  dsimp only
  rw [hvalue]
  refine (emit_of_room hroom).trans ?_
  rw [Writer.append, hblank, List.nil_append]

/-- The reply to a call that invalidates memory: the result code, and the ranges behind it. -/
theorem draft_invalidate (host : Collaborators σ) (outcome : CallOutcome) :
    draft host .invalidateMappedMemoryRanges true outcome
      = writeResult .invalidateMappedMemoryRanges outcome.result >>= fun _ =>
          rangesOf outcome.args >>= fun ranges =>
            invalidateRanges host CallDescriptor.invalidateMappedMemoryRanges.name ranges >>=
              fun _ =>
              pure outcome := rfl

/-- A run whose driver left `state` and whose reply has the result code so far. Nothing is staged
yet. -/
structure Coded (run : Run σ) (state : σ) (code : Int64) : Prop where
  state : run.state = state
  writer : run.writer.bytes = IntType.i32.encode code.toUInt64
  unused : run.scratch.used = 0

namespace Coded

variable {state : σ} {code : Int64}

/-- All that is staged is in the reply. -/
theorem staged (h : Coded run state code) : run.scratch.used ≤ run.writer.bytes.length :=
  h.unused ▸ Nat.zero_le _

/-- A result code is not too long. -/
theorem bounded (h : Coded run state code) : run.writer.bytes.length ≤ Bytes.maxLength := by
  rw [h.writer, IntType.length_encode]
  decide

/-- There is room behind the result code for what makes a reply that is not too long. -/
theorem hasRoom_iff (h : Coded run state code) (host : Collaborators σ)
    (ranges : List MappedRange) :
    run.writer.HasRoom (ranges.flatMap (returnedChunk host run.state)).length
      ↔ (invalidateReply host state code ranges).length ≤ Bytes.maxLength := by
  rw [Writer.HasRoom, invalidateReply, List.length_append, h.writer, h.state]

end Coded

/-! ### Packets that invalidate memory -/

section Invalidating

variable {payload : Bytes} {request : Request} {size : Nat} {middle : Run σ} {outcome : CallOutcome}
  {left : σ} {code : Int64}

/-- Behind the driver, the ranges are what is left to draft. -/
theorem answer_of_code (hunwritten : run.writer.bytes = [])
    (hreceive : receive host .invalidateMappedMemoryRanges payload true (started run)
      = .ok (request, size) middle)
    (hdrives : Drives host .invalidateMappedMemoryRanges request middle.state outcome left)
    (hcode : outcome.result.bind resultCode? = some code)
    (hlisted : MappedRange.ofArgs? outcome.args = some ranges) :
    ∃ coded, Coded coded left code ∧ coded.sink = run.sink ∧
      answer host .invalidateMappedMemoryRanges payload true (started run)
        = (invalidateRanges host CallDescriptor.invalidateMappedMemoryRanges.name ranges >>=
          fun _ =>
            pure (request, size, outcome)) coded := by
  have hrest := ((collects_receive true).of_ok hreceive).rest
  obtain ⟨events, hanswer⟩ := answer_of_drive (by decide) hreceive hdrives
  let driven : Run σ := { middle with state := left, events }
  have hblank : driven.writer.bytes = [] := by
    show middle.writer.bytes = []
    rw [hrest]
    exact hunwritten
  -- Behind the driver's call, the reply has the result code and nothing else, and nothing is
  -- staged.
  let coded : Run σ := { driven with writer := ⟨IntType.i32.encode code.toUInt64⟩ }
  have hdraft : draft host .invalidateMappedMemoryRanges true outcome driven
      = (invalidateRanges host CallDescriptor.invalidateMappedMemoryRanges.name ranges >>= fun _ =>
          pure outcome) coded := by
    have hresult : writeResult .invalidateMappedMemoryRanges outcome.result driven
        = .ok () coded := writeResult_of_code rfl hblank hcode
    rw [draft_invalidate, bind_of_ok hresult]
    exact bind_of_ok (rangesOf_eq_ok_iff.mpr ⟨hlisted, rfl⟩)
  refine ⟨coded, ⟨rfl, rfl, ?_⟩, ?_, ?_⟩
  · show middle.scratch.used = 0
    rw [hrest]
    rfl
  · show middle.sink = run.sink
    rw [hrest]
    rfl
  · rw [hanswer, bind_eq_bind hdraft, bind_assoc]
    rfl

/-- A packet whose ranges fit is answered with the result code and their bytes, if the reply is not
too long. -/
theorem runPacket_of_allFit (hcopies : host.sharesMemory run.state = false)
    (hunwritten : run.writer.bytes = [])
    (hreceive : receive host .invalidateMappedMemoryRanges payload true (started run)
      = .ok (request, size) middle)
    (hdrives : Drives host .invalidateMappedMemoryRanges request middle.state outcome left)
    (hcode : outcome.result.bind resultCode? = some code)
    (hlisted : MappedRange.ofArgs? outcome.args = some ranges)
    (hfits : ∀ range ∈ ranges, Fits host left range)
    (hroom : (invalidateReply host left code ranges).length ≤ Bytes.maxLength) {sink : Sink}
    (htaken : run.sink.write? (invalidateReply host left code ranges) = some sink) :
    ∃ after snapshot, runPacket host .invalidateMappedMemoryRanges payload run = .ok () after ∧
      after.sink = sink ∧ after.state = host.afterRecording snapshot left := by
  obtain ⟨coded, hcoded, hsink, hanswer⟩ := answer_of_code hunwritten hreceive hdrives hcode hlisted
  obtain ⟨scratch, hranges⟩ := invalidateRanges_of_allFit
    CallDescriptor.invalidateMappedMemoryRanges.name (hcoded.state ▸ hfits) hcoded.staged
    ((hcoded.hasRoom_iff host ranges).mpr hroom)
  have htransfers : (!host.sharesMemory run.state) = true := by rw [hcopies]; rfl
  rw [bind_of_ok hranges, ← htransfers] at hanswer
  obtain ⟨after, snapshot, hpacket, hafter, hstate⟩ := runPacket_of_answer hanswer (by
    show coded.sink.write? (coded.writer.bytes ++ _) = some sink
    rw [hsink, hcoded.writer, hcoded.state]
    exact htaken)
  refine ⟨after, snapshot, hpacket, hafter, hstate.trans ?_⟩
  exact congrArg (host.afterRecording snapshot) hcoded.state

/-- What keeps ranges from being answered ends the session before the sink gets anything. -/
theorem runPacket_of_ranges_error (hcopies : host.sharesMemory run.state = false)
    (hunwritten : run.writer.bytes = [])
    (hreceive : receive host .invalidateMappedMemoryRanges payload true (started run)
      = .ok (request, size) middle)
    (hdrives : Drives host .invalidateMappedMemoryRanges request middle.state outcome left)
    (hcode : outcome.result.bind resultCode? = some code)
    (hlisted : MappedRange.ofArgs? outcome.args = some ranges) {cause : SessionError}
    (hfails : ∀ coded, Coded coded left code → ∃ stopped,
      invalidateRanges host CallDescriptor.invalidateMappedMemoryRanges.name ranges coded
        = .error (.fatal cause) stopped ∧ stopped.state = coded.state) :
    ∃ after, runPacket host .invalidateMappedMemoryRanges payload run =
      .error (.fatal cause) after ∧
      after.sink = run.sink ∧ after.state = left ∧
      ∀ offset buffer, Packet.frame buffer offset = .ok ⟨20026, payload⟩ →
        Session.runPackets host offset buffer run = .error cause after := by
  obtain ⟨coded, hcoded, -, hanswer⟩ := answer_of_code hunwritten hreceive hdrives hcode hlisted
  -- The failure comes before the commit, so nothing was offered to the sink.
  obtain ⟨stopped, hranges, hstate⟩ := hfails coded hcoded
  have htransfers : (!host.sharesMemory run.state) = true := by rw [hcopies]; rfl
  rw [bind_of_error hranges, ← htransfers] at hanswer
  obtain ⟨after, hpacket, hsink, hafter⟩ := runPacket_of_answer_error hanswer
  exact ⟨after, hpacket, hsink, hafter.trans (hstate.trans hcoded.state),
    fun offset buffer hframe => Session.runPackets_of_fatal hframe rfl hpacket⟩

end Invalidating

/-- What becomes of a packet that invalidates memory which guest and host do not share, if the
driver tells a result code and leaves the ranges as it gets them.

Where all ranges fit, the sink gets the result code and, for each range in order, the bytes that its
mapping has when the driver is done, behind their number. Where one does not, the first such range
ends the session and the sink gets nothing. A reply that no buffer can hold ends the process, and
the sink gets nothing either: so it is as soon as the ranges in front of any that does not fit are
too much.

The surroundings are left as the driver left them, but for what recording the call does. If nobody
writes to mapped memory meanwhile, it is what it was.

The ranges are those that the driver gets. If the global state hands on what was read, they are
those of the packet. -/
theorem runPacket_invalidates {payload : Bytes} {request : Request} {size : Nat} {middle : Run σ}
    {outcome : CallOutcome} {left : σ} {code : Int64}
    (hcopies : host.sharesMemory run.state = false) (hunwritten : run.writer.bytes = [])
    (hreceive : receive host .invalidateMappedMemoryRanges payload true (started run)
      = .ok (request, size) middle)
    (hdrives : Drives host .invalidateMappedMemoryRanges request middle.state outcome left)
    (hcode : outcome.result.bind resultCode? = some code)
    (hkept : Record.get? outcome.args MappedRange.paramName
      = Record.get? (driverCall host .invalidateMappedMemoryRanges request middle.state).args
          MappedRange.paramName) :
    let driven := (driverCall host .invalidateMappedMemoryRanges request middle.state).args
    (Record.get? driven MappedRange.paramName = Record.get? request.args MappedRange.paramName →
      ∃ ranges, MappedRange.ofArgs? driven = some ranges ∧
        MappedRange.ofArgs? request.args = some ranges) ∧
    (∀ ranges, MappedRange.ofArgs? driven = some ranges →
      (∀ range ∈ ranges, Fits host left range) →
      (invalidateReply host left code ranges).length ≤ Bytes.maxLength →
      ∀ sink, run.sink.write? (invalidateReply host left code ranges) = some sink →
        ∃ after snapshot, runPacket host .invalidateMappedMemoryRanges payload run = .ok () after ∧
          after.sink = sink ∧ after.state = host.afterRecording snapshot left) ∧
    (∀ front range back mapping, MappedRange.ofArgs? driven = some (front ++ range :: back) →
      (∀ range ∈ front, Fits host left range) →
      (invalidateReply host left code front).length ≤ Bytes.maxLength →
      host.mapped? range.memory left = some mapping →
      mapping.length < range.offset.toNat + (wantedSize host left range).toNat →
        let cause := SessionError.rangeOutOfBounds CallDescriptor.invalidateMappedMemoryRanges.name
          range.memory range.offset (wantedSize host left range) mapping.length
        ∃ after, runPacket host .invalidateMappedMemoryRanges payload run
            = .error (.fatal cause) after ∧
          after.sink = run.sink ∧ after.state = left ∧
          ∀ offset buffer, Packet.frame buffer offset = .ok ⟨20026, payload⟩ →
            Session.runPackets host offset buffer run = .error cause after) ∧
    (∀ front back, MappedRange.ofArgs? driven = some (front ++ back) →
      (∀ range ∈ front, Fits host left range) →
      Bytes.maxLength < (invalidateReply host left code front).length →
        let cause := SessionError.scratchExhausted
          ⟨CallDescriptor.invalidateMappedMemoryRanges.name, .capacityOverflow⟩
        ∃ after, runPacket host .invalidateMappedMemoryRanges payload run
            = .error (.fatal cause) after ∧
          after.sink = run.sink ∧ after.state = left ∧
          ∀ offset buffer, Packet.frame buffer offset = .ok ⟨20026, payload⟩ →
            Session.runPackets host offset buffer run = .error cause after) ∧
    (SparesMemory host .invalidateMappedMemoryRanges → ∀ memory,
      host.mapped? memory left = host.mapped? memory run.state ∧
        ∀ snapshot, host.mapped? memory (host.afterRecording snapshot left)
          = host.mapped? memory run.state) := by
  intro driven
  -- The ranges are taken from what the driver left, which has them as it got them.
  have hdriven : MappedRange.ofArgs? outcome.args = MappedRange.ofArgs? driven :=
    MappedRange.ofArgs?_congr hkept
  refine ⟨fun hhanded => ?_, ?_, ?_, ?_, fun hspares memory => ?_⟩
  · obtain ⟨cursor, table, hread⟩ := readRequest_of_receive hreceive
    have htyped := Reading.yields_readRequest _ hread
    obtain ⟨ranges, hlisted⟩ := Option.isSome_iff_exists.mp (MappedRange.ofArgs?_isSome htyped)
    exact ⟨ranges, (MappedRange.ofArgs?_congr hhanded).trans hlisted, hlisted⟩
  · intro ranges hlisted hfits hroom sink htaken
    exact runPacket_of_allFit hcopies hunwritten hreceive hdrives hcode
      (hdriven.trans hlisted) hfits
      hroom htaken
  · intro front range back mapping hlisted hfits hroom hmapped hleaves cause
    refine runPacket_of_ranges_error hcopies hunwritten hreceive hdrives hcode
      (hdriven.trans hlisted) fun coded hcoded => ?_
    obtain rfl := hcoded.state
    exact invalidateRanges_of_leaves hfits hcoded.staged ((hcoded.hasRoom_iff host front).mpr hroom)
      hmapped hleaves
  · intro front back hlisted hfits hlong cause
    refine runPacket_of_ranges_error hcopies hunwritten hreceive hdrives hcode
      (hdriven.trans hlisted) fun coded hcoded => ?_
    obtain rfl := hcoded.state
    exact invalidateRanges_of_full hfits hcoded.staged hcoded.bounded fun hroom =>
      Nat.not_lt.mpr ((hcoded.hasRoom_iff host front).mp hroom) hlong
  · have hroute : CallDescriptor.invalidateMappedMemoryRanges.route ≠
        .flushMappedRanges := by decide
    have hmiddle : middle.state = (started run).state := state_of_receive hroute hreceive
    have hleft := hspares.mapped?_left hdrives memory
    rw [hmiddle] at hleft
    exact ⟨hleft, fun snapshot => (hspares.recorded snapshot left memory).trans hleft⟩

/-- Surroundings as for recording, which tell the size of the memory object. -/
def sizedHost : Collaborators Bytes :=
  { recordingHost with memorySize := fun _ content => UInt64.ofNat content.length }

/-- A run whose mapped memory has two bytes. -/
def filledRun : Run Bytes := { mappedRun with state := [0xAA, 0xBB] }

/-- The guest invalidates all of its memory object, the null object, and one byte once more. -/
def refreshPayload : Bytes :=
  [7, 0, 0, 0, 0, 0, 0, 0] ++ [3, 0, 0, 0] ++ rangeBytes 8 0 MappedRange.wholeSize
    ++ rangeBytes 0 0 5 ++ rangeBytes 8 1 1

/-- Behind a byte, the guest invalidates a range whose end is no word. -/
def strayRefreshPayload : Bytes :=
  [7, 0, 0, 0, 0, 0, 0, 0] ++ [2, 0, 0, 0] ++ rangeBytes 8 1 1 ++ rangeBytes 8 0xFFFFFFFFFFFFFFFE 2

/-- The guest gets all bytes, no bytes, and one byte; where a range leaves the mapping, it gets
nothing. -/
theorem runPacket_invalidates_refresh :
    (∃ after, runPacket sizedHost .invalidateMappedMemoryRanges refreshPayload filledRun
        = .ok () after ∧
      after.sink.received = [0, 0, 0, 0] ++ flushedChunk [0xAA, 0xBB] ++ flushedChunk []
        ++ flushedChunk [0xBB] ∧
      after.state = [0xAA, 0xBB]) ∧
    ∃ after, runPacket sizedHost .invalidateMappedMemoryRanges strayRefreshPayload filledRun
        = .error (.fatal
          (.rangeOutOfBounds "vkInvalidateMappedMemoryRanges" 6 0xFFFFFFFFFFFFFFFE 2 2))
          after ∧
      after.sink.received = [] ∧ after.state = [0xAA, 0xBB] := by
  have hcopies : sizedHost.sharesMemory filledRun.state = false := rfl
  -- The driver of these surroundings leaves everything as it gets it.
  have hdrive (request : DriverCall) (content : Bytes) :
      sizedHost.drive request content = .ok ⟨request.args, some (.sint 0)⟩ content := rfl
  constructor
  · obtain ⟨request, size, middle, hreceive, hmemory, hlisted⟩ : ∃ request size middle,
        receive sizedHost .invalidateMappedMemoryRanges refreshPayload true (started filledRun)
          = .ok (request, size) middle ∧ middle.state = [0xAA, 0xBB] ∧
        MappedRange.ofArgs? (toDriver .invalidateMappedMemoryRanges request).args
          = some [⟨6, 0, MappedRange.wholeSize⟩, ⟨0, 0, 5⟩, ⟨6, 1, 1⟩] := ⟨_, _, _, rfl, rfl, rfl⟩
    obtain ⟨-, hanswered, -⟩ :=
      runPacket_invalidates hcopies rfl hreceive (hdrive _ middle.state) rfl rfl
    rw [hmemory] at hanswered
    obtain ⟨after, snapshot, hpacket, hsink, hstate⟩ :=
      hanswered _ hlisted (by decide) (by decide) _ rfl
    exact ⟨after, hpacket, by rw [hsink]; rfl, hstate⟩
  · obtain ⟨request, size, middle, hreceive, hmemory, hlisted⟩ : ∃ request size middle,
        receive sizedHost .invalidateMappedMemoryRanges strayRefreshPayload true (started filledRun)
          = .ok (request, size) middle ∧ middle.state = [0xAA, 0xBB] ∧
        MappedRange.ofArgs? (toDriver .invalidateMappedMemoryRanges request).args
          = some ([⟨6, 1, 1⟩] ++ [⟨6, 0xFFFFFFFFFFFFFFFE, 2⟩]) := ⟨_, _, _, rfl, rfl, rfl⟩
    obtain ⟨-, -, hstopped, -⟩ :=
      runPacket_invalidates hcopies rfl hreceive (hdrive _ middle.state) rfl rfl
    rw [hmemory] at hstopped
    obtain ⟨after, hpacket, hsink, hstate, -⟩ := hstopped [⟨6, 1, 1⟩] ⟨6, 0xFFFFFFFFFFFFFFFE, 2⟩ []
      _ hlisted (by decide) (by decide) rfl (by decide)
    exact ⟨after, hpacket, by rw [hsink]; rfl, hstate⟩

/-- The guest invalidates the first half of what a buffer can hold at most, and once more. -/
def halvesPayload : Bytes :=
  [7, 0, 0, 0, 0, 0, 0, 0] ++ [2, 0, 0, 0] ++ rangeBytes 8 0 0x4000000000000000
    ++ rangeBytes 8 0 0x4000000000000000

/-- Ranges that fit may still be too many bytes for one reply. -/
theorem runPacket_halvesPayload {content : Bytes} (hlength : content.length = 2 ^ 62) :
    (∀ range ∈ [⟨6, 0, 0x4000000000000000⟩, ⟨6, 0, 0x4000000000000000⟩],
      Fits sizedHost content range) ∧
    ∃ after, runPacket sizedHost .invalidateMappedMemoryRanges halvesPayload
        { mappedRun with state := content }
      = .error (.fatal (.scratchExhausted ⟨"vkInvalidateMappedMemoryRanges", .capacityOverflow⟩))
          after ∧
      after.sink.received = [] := by
  let half : MappedRange := ⟨6, 0, 0x4000000000000000⟩
  have hwanted : (wantedSize sizedHost content half).toNat = 2 ^ 62 := by
    show (0x4000000000000000 : UInt64).toNat = 2 ^ 62
    decide
  have hmapped : sizedHost.mapped? half.memory content = some content :=
    Bytes.buffered?_eq_some_iff.mpr ⟨rfl, by rw [hlength]; decide⟩
  have hinside : half.offset.toNat + (wantedSize sizedHost content half).toNat ≤
      content.length := by
    rw [hwanted, hlength]
    decide
  have hfits : Fits sizedHost content half := by
    intro mapping hmapping
    obtain rfl : content = mapping := Option.some.inj (hmapped.symm.trans hmapping)
    exact hinside
  have hall : ∀ range ∈ [half, half], Fits sizedHost content range :=
    List.forall_mem_cons.mpr ⟨hfits, List.forall_mem_singleton.mpr hfits⟩
  refine ⟨hall, ?_⟩
  have hchunk : (returnedChunk sizedHost content half).length = 8 + 2 ^ 62 := by
    unfold returnedChunk
    rw [hmapped]
    dsimp only
    rw [List.length_append, IntType.length_encode, Bytes.length_slice hinside, hwanted]
    rfl
  -- Two halves and their numbers are more than a buffer can hold.
  have hlong : Bytes.maxLength < (invalidateReply sizedHost content 0 [half, half]).length := by
    rw [invalidateReply, List.flatMap_cons, List.flatMap_singleton, List.length_append,
      List.length_append, hchunk, IntType.length_encode]
    decide
  let run : Run Bytes := { mappedRun with state := content }
  obtain ⟨request, size, middle, hreceive, hstate, hlisted⟩ : ∃ request size middle,
      receive sizedHost .invalidateMappedMemoryRanges halvesPayload true (started run)
        = .ok (request, size) middle ∧ middle.state = content ∧
      MappedRange.ofArgs? (driverCall sizedHost .invalidateMappedMemoryRanges request content).args
        = some ([half, half] ++ []) := ⟨_, _, _, rfl, rfl, rfl⟩
  have hdrives : Drives sizedHost .invalidateMappedMemoryRanges request middle.state
      ⟨(driverCall sizedHost .invalidateMappedMemoryRanges request content).args, some (.sint 0)⟩
      content := by
    rw [hstate]
    rfl
  obtain ⟨after, hpacket, hsink, -⟩ :=
    runPacket_of_ranges_error rfl rfl hreceive hdrives rfl hlisted
      fun coded hcoded => by
        obtain rfl := hcoded.state
        exact invalidateRanges_of_full hall hcoded.staged hcoded.bounded fun hroom =>
          Nat.not_lt.mpr ((hcoded.hasRoom_iff sizedHost [half, half]).mp hroom) hlong
  exact ⟨after, hpacket, by rw [hsink]; rfl⟩

end Execution

namespace Session

open Execution

/-- It does not do that the driver leaves the ranges as it gets them and tells a result code, and
that all ranges fit. Where the global state has hidden the ranges of a packet that lists none, the
driver is called and the sink, which would take anything, gets nothing. It gets nothing either where
the bytes of the ranges are too many for one reply. -/
theorem unanswered_though_fitting :
    let decoded := decode rangeHidingHost deviceSession emptyInvalidatePacket.encode .unbounded
    rangeHidingHost.sharesMemory deviceSession.state = false ∧
      (∀ request state after outcome, rangeHidingHost.drive request state = .ok outcome after →
        outcome.result.bind resultCode? = some 0 ∧
          Record.get? outcome.args MappedRange.paramName
            = Record.get? request.args MappedRange.paramName) ∧
      (∃ request size middle,
        receive rangeHidingHost .invalidateMappedMemoryRanges emptyInvalidatePacket.payload true
            (started { deviceSession with sink := .unbounded }) = .ok (request, size) middle ∧
          MappedRange.ofArgs? request.args = some []) ∧
      (dispatches decoded.events).map (·.call?) = [some .invalidateMappedMemoryRanges] ∧
      (∀ bytes, Sink.unbounded.fails? bytes = none) ∧
      decoded.outcome = .ok ⟨0, .malformedCall "vkInvalidateMappedMemoryRanges"
        (.valueMismatch MappedRange.paramName)⟩ ∧
      decoded.sink.received ≠ IntType.i32.encode 0 ∧
      ∃ content : Bytes, content.length = 2 ^ 62 ∧
        (∀ range ∈ [⟨6, 0, 0x4000000000000000⟩, ⟨6, 0, 0x4000000000000000⟩],
          Fits sizedHost content range) ∧
        ∃ after, runPacket sizedHost .invalidateMappedMemoryRanges halvesPayload
            { mappedRun with state := content }
          = .error (.fatal
            (.scratchExhausted ⟨"vkInvalidateMappedMemoryRanges", .capacityOverflow⟩))
              after ∧
          after.sink.received = [] := by
  intro decoded
  obtain ⟨last, hrefused, hcalled⟩ : ∃ last,
      runPacket rangeHidingHost .invalidateMappedMemoryRanges emptyInvalidatePacket.payload
          { deviceSession with sink := .unbounded }
        = .error (.malformed (.valueMismatch MappedRange.paramName)) last ∧
      (dispatches last.events).map (·.call?) = [some .invalidateMappedMemoryRanges] := ⟨_, rfl, rfl⟩
  have hsink : last.sink = .unbounded := sink_of_runPacket_malformed hrefused
  have hdecoded : decoded =
      Decoded.ofResult (.ok ⟨0, .malformedCall "vkInvalidateMappedMemoryRanges"
      (.valueMismatch MappedRange.paramName)⟩ last) := by
    have hframe : Packet.frame emptyInvalidatePacket.encode 0 = .ok emptyInvalidatePacket := rfl
    have hcall : CallDescriptor.ofOpcode? emptyInvalidatePacket.opcode
        = some .invalidateMappedMemoryRanges := rfl
    show decode _ _ _ _ = _
    rw [decode_of_not_awaits rfl, runPackets_of_known hframe hcall, hrefused]
    rfl
  rw [hdecoded]
  refine ⟨rfl, fun request state after outcome hdrive => ?_, ⟨_, _, _, rfl, rfl⟩, hcalled,
    fun _ => rfl, rfl, ?_, List.replicate (2 ^ 62) 0, List.length_replicate,
    runPacket_halvesPayload List.length_replicate⟩
  · cases hdrive
    exact ⟨rfl, rfl⟩
  · show last.sink.received ≠ _
    rw [hsink]
    decide

end Session

end CallStream
