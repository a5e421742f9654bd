import CallStream.Proofs.Session.Ranges
import CallStream.Proofs.Session.Reading
import CallStream.Proofs.Session.Stages

/-!
# One packet

A packet is received, its call is executed, the reply is handed to the sink, and the call is
recorded. Only executing it calls the driver or the global state, once, and only behind that the
sink is used, once. So a packet that is carried out to its end has called and replied exactly once,
and one that stops in between has called at most once.

Bytes are to blame for a failure only while the packet is received, as long as nobody changes the
ranges of a call that invalidates memory.

## Main results

* `runPacket_calls`: whatever becomes of a packet, nobody is called, or its call is carried out.
* `runPacket_calls_once`, `runPacket_replies`: a packet that is carried out calls and replies once.
* `runPacket_malformed`: a packet that is refused changes nothing but mapped memory.
-/

namespace CallStream

namespace Execution

variable {σ : Type}

/-! ### The parts of a packet -/

section Parts

variable (host : Collaborators σ) (call : CallDescriptor)

/-- Receives the flushed bytes that may follow a call. -/
def receiveFlushed (transfers : Bool) (request : Request) (cursor : Cursor) : Execution σ Cursor :=
  if call.route = .flushMappedRanges && transfers then
    rangesOf request.args >>= fun ranges => flushRanges host call.name ranges cursor
  else
    pure cursor

/-- A call is read, then the bytes behind it, and then what it destroys leaves the table. -/
theorem receive_eq (payload : Bytes) (transfers : Bool) :
    receive host call payload transfers
      = readCall call payload >>= fun (request, cursor) =>
          receiveFlushed host call transfers request cursor >>= fun cursor =>
            onTable BoxTable.commitDestroys >>= fun _ => pure (request, cursor.position) := by
  unfold receive receiveFlushed
  congr 1
  funext (request, cursor)
  dsimp only
  split <;> simp only [bind_assoc]

/-- Carries out a received call and drafts its reply. -/
def execute (transfers : Bool) (request : Request) : Execution σ CallOutcome := do
  let args ← onState (host.toHost call request.args)
  if (← get).config.logCalls then
    note (.logged call args)
  let outcome ← dispatch host call { request with args }
  draft host call transfers outcome

/-- What a packet is answered with is drafted before anything reaches the sink. -/
def answer (payload : Bytes) (transfers : Bool) : Execution σ (Request × Nat × CallOutcome) :=
  receive host call payload transfers >>= fun (request, size) =>
    execute host call transfers request >>= fun outcome => pure (request, size, outcome)

/-- Hands what a packet is answered with to the sink, and records the call. -/
def finish (payload : Bytes) (answered : Request × Nat × CallOutcome) : Execution σ Unit :=
  commit >>= fun _ =>
    record host call (payload.take answered.2.1) answered.1.dispatch answered.2.2

/-- A packet is answered, and then finished. -/
theorem perform_eq (payload : Bytes) (run : Run σ) :
    perform host call payload run
      = (answer host call payload (!host.sharesMemory run.state) >>= finish host call payload)
      run := by
  have hperform : perform host call payload = get >>= fun run =>
      answer host call payload (!host.sharesMemory run.state) >>= finish host call payload := by
    unfold perform answer execute finish
    simp only [bind_assoc, reply_eq, pure_bind]
    congr 1
    funext run
    congr 1
    funext (request, size)
    congr 1
    funext args
    congr 1
    funext current
    split <;> simp only [bind_assoc]
  exact congrFun hperform run

/-- A call as the global state adapts it before it is carried out. -/
def adapted (request : Request) (run : Run σ) : Request :=
  { request with args := (host.toHost call request.args run.state).1 }

/-- The run in which a call is carried out: the global state has adapted its parameters, and it is
logged if calls are. -/
def prepared (request : Request) (run : Run σ) : Run σ :=
  { run with
    state := (host.toHost call request.args run.state).2
    events := run.events ++
      if run.config.logCalls then [.logged call (adapted host call request run).args] else [] }

/-- A call is carried out in two stages: it is dispatched over a run that is prepared for it, and
its reply is drafted. -/
theorem execute_eq (transfers : Bool) (request : Request) (run : Run σ) :
    execute host call transfers request run
      = (dispatch host call (adapted host call request run) >>= draft host call transfers)
          (prepared host call request run) := by
  unfold execute prepared
  cases hlogs : run.config.logCalls with
  | true =>
      rw [if_pos rfl]
      change (if run.config.logCalls = true then _ else _ : Execution σ CallOutcome) _ = _
      rw [hlogs]
      rfl
  | false =>
      rw [if_neg Bool.false_ne_true, List.append_nil]
      change (if run.config.logCalls = true then _ else _ : Execution σ CallOutcome) _ = _
      rw [hlogs]
      rfl

end Parts

/-! ### Receiving -/

section Receiving

variable {host : Collaborators σ} {call : CallDescriptor} {payload : Bytes}

/-- Reading a call at most queues objects to destroy. -/
theorem collects_readCall :
    Within (Collects BoxTable.Queues Eq) (fun _ => True)
      (readCall (σ := σ) call payload) where
  moves run := by
    have hofMapper := (Reading.onlyQueues_readRequest call).moves (.start payload, run.table)
    unfold readCall
    cases hreadRequest : Reading.readRequest call (.start payload, run.table) with
    | ok request state =>
        rw [hreadRequest] at hofMapper
        exact ⟨rfl, hofMapper, rfl⟩
    | error cause state =>
        rw [hreadRequest] at hofMapper
        exact ⟨rfl, hofMapper, rfl⟩
  fails _ := trivial

/-- No bound on what happens to the table. -/
def AnyTable (_ _ : BoxTable) : Prop := True

/-- Any table may follow any other. -/
instance : IsPreorder BoxTable AnyTable where
  refl _ := trivial
  trans _ _ _ _ _ := trivial

/-- The flushed bytes are received without touching the table. -/
theorem fills_receiveFlushed (transfers : Bool) (request : Request) (cursor : Cursor) :
    Fills host (receiveFlushed host call transfers request cursor) := by
  unfold receiveFlushed
  split
  · exact (within_rangesOf _).bind fun ranges => fills_flushRanges host _ ranges cursor
  · exact within_pure cursor

/-- Receiving a call changes at most the table and mapped memory. -/
theorem collects_receive (transfers : Bool) :
    Within (Collects AnyTable (Refilled host)) (fun _ => True)
      (receive host call payload transfers) := by
  have hwithin : Within (Collects AnyTable (Refilled host)) (fun _ => True)
      (readCall (σ := σ) call payload) :=
    collects_readCall.mono (fun hcollects => ⟨hcollects.rest, trivial, hcollects.state ▸ .refl⟩) id
  have hflushes (request : Request) (cursor : Cursor) :
      Within (Collects AnyTable (Refilled host)) (fun _ => True)
        (receiveFlushed host call transfers request cursor) :=
    (fills_receiveFlushed transfers request cursor).mono
      (fun hfilled => ⟨hfilled.rest, trivial, hfilled.state⟩) id
  have hcommits : Within (Collects AnyTable (Refilled host)) (fun _ => True)
      (onTable (σ := σ) BoxTable.commitDestroys) := by
    refine ⟨fun run => ?_, fun _ => trivial⟩
    unfold onTable
    split <;> exact ⟨rfl, trivial, .refl⟩
  rw [receive_eq]
  refine hwithin.bind fun (request, cursor) => (hflushes request cursor).bind fun cursor => ?_
  exact hcommits.bind fun _ => within_pure _

/-- Receiving a call is quiet. -/
theorem receives_receive (transfers : Bool) :
    Receives AnyTable (receive host call payload transfers) :=
  (collects_receive transfers).mono Collects.quiet id

/-- Bytes are to blame only before the objects to destroy leave the table. -/
theorem receive_malformed {transfers : Bool} {run after : Run σ} {cause : WireError Empty}
    (h : receive host call payload transfers run = .error (.malformed cause) after) :
    Collects BoxTable.Queues (Refilled host) run after ∧
      (call.route ≠ .flushMappedRanges → after.state = run.state) := by
  rw [receive_eq] at h
  rcases bind_eq_error_iff.mp h with hfailed | ⟨⟨request, cursor⟩, middle, hreadCall, h⟩
  · have hcollected := collects_readCall.of_error hfailed
    exact ⟨⟨hcollected.rest, hcollected.table, hcollected.state ▸ .refl⟩,
      fun _ => hcollected.state.symm⟩
  have hcollected := collects_readCall.of_ok hreadCall
  rcases bind_eq_error_iff.mp h with hfailed | ⟨cursor, last, -, h⟩
  · have hcollects := (fills_receiveFlushed transfers request cursor).of_error hfailed
    refine ⟨⟨?_, ?_, ?_⟩, fun hroute => ?_⟩
    · rw [hcollects.rest, hcollected.rest]
    · rw [← hcollects.table]
      exact hcollected.table
    · rw [hcollected.state]
      exact hcollects.state
    · unfold receiveFlushed at hfailed
      rw [if_neg (by simp [hroute])] at hfailed
      cases hfailed
  -- Destroying objects fails with another kind of cause.
  · rcases bind_eq_error_iff.mp h with hfailed | ⟨_, _, -, hpure⟩
    · unfold onTable at hfailed
      split at hfailed <;> cases hfailed
    · cases hpure

/-- A call that is received was read from the table before it. -/
theorem readRequest_of_receive {transfers : Bool} {run after : Run σ} {request : Request}
    {size : Nat} (h : receive host call payload transfers run = .ok (request, size) after) :
    ∃ cursor table,
      Reading.readRequest call (.start payload, run.table) = .ok request (cursor, table) := by
  rw [receive_eq] at h
  obtain ⟨⟨read, cursor⟩, middle, hreadCall, hrest⟩ := bind_eq_ok_iff.mp h
  obtain ⟨last, _, -, hrest⟩ := bind_eq_ok_iff.mp hrest
  obtain ⟨_, _, -, hpure⟩ := bind_eq_ok_iff.mp hrest
  cases hpure
  unfold readCall at hreadCall
  split at hreadCall
  · next hreadRequest =>
      cases hreadCall
      exact ⟨_, _, hreadRequest⟩
  · cases hreadCall

/-- A call that is received was read, and then what it destroys left the table. -/
theorem commitDestroys_of_receive {transfers : Bool} {run after : Run σ} {received : Request × Nat}
    (h : receive host call payload transfers run = .ok received after) :
    ∃ read middle, readCall call payload run = .ok read middle ∧
      BoxTable.commitDestroys middle.table = .ok () after.table := by
  rw [receive_eq] at h
  obtain ⟨⟨request, cursor⟩, middle, hreadCall, h⟩ := bind_eq_ok_iff.mp h
  obtain ⟨_, flushed, hreceiveFlushed, h⟩ := bind_eq_ok_iff.mp h
  obtain ⟨_, _, hcommitted, hpure⟩ := bind_eq_ok_iff.mp h
  obtain ⟨-, rfl⟩ := pure_eq_ok_iff.mp hpure
  obtain ⟨table, hcommitDestroys, rfl⟩ := onTable_ok_iff.mp hcommitted
  rw [← ((fills_receiveFlushed transfers request cursor).of_ok
    hreceiveFlushed).table] at hcommitDestroys
  exact ⟨_, middle, hreadCall, hcommitDestroys⟩

end Receiving

/-! ### Executing -/

section Executing

variable {moves : BoxTable → BoxTable → Prop} [IsPreorder BoxTable moves] {host : Collaborators σ}
  {call : CallDescriptor}

/-- Preparing a call notes no dispatch. -/
theorem dispatches_prepared (request : Request) (run : Run σ) :
    dispatches (prepared host call request run).events = dispatches run.events := by
  unfold prepared
  dsimp only
  rw [dispatches_append]
  split <;> exact List.append_nil _

/-- A received call is carried out once, with its parameters adapted, and behind that its reply is
drafted quietly. -/
theorem within_execute
    (hcreates : ∀ raw type table, moves table (stateOf (BoxTable.create raw type table)))
    (hserves : ∀ request state table scratch,
      moves table (stateOf (host.serve request (state, table, scratch))).2.1)
    (transfers : Bool) (request : Request) :
    Within (Calls moves fun run =>
        dispatchEvent call (adapted host call request run) run.scratch.used)
      (fun _ => True) (execute host call transfers request) where
  moves run := by
    have hdispatched : Within _ (fun _ => True)
        (dispatch host call (adapted host call request run)) :=
      (within_dispatch hserves call _).mono id fun _ => trivial
    have hcalls :=
      (hdispatched.andThen (fun outcome => receives_draft hcreates host call transfers outcome)
        Calls.quiet).moves (prepared host call request run)
    rw [execute_eq]
    refine ⟨hcalls.sink, ?_, hcalls.table⟩
    rw [hcalls.dispatches, dispatches_prepared]
    rfl
  fails _ := trivial

/-- A draft can only be to blame on bytes if it looks ranges up and does not find them. -/
theorem drafts_draft
    (hcreates : ∀ raw type table, moves table (stateOf (BoxTable.create raw type table)))
    {outcome : CallOutcome}
    (hspelled : call.route = .invalidateMappedRanges →
      call.outputs = [] ∧ (MappedRange.ofArgs? outcome.args).isSome = true) (transfers : Bool) :
    Drafts moves (draft host call transfers outcome) := by
  unfold draft
  by_cases hinvalidates : call.route = .invalidateMappedRanges
  · obtain ⟨houtputs, hisSome⟩ := hspelled hinvalidates
    obtain ⟨ranges, hranges⟩ := Option.isSome_iff_exists.mp hisSome
    -- Such a call has no outputs and its ranges are found, so no look-up can fail.
    have hunwritten (box : Bool) :
        writeOutputs host call box call.outputs outcome.args = pure outcome.args := by
      rw [houtputs]
      rfl
    simp only [hunwritten, pure_bind]
    refine (drafts_writeResult call _).bind fun _ => ?_
    split
    · have hrangesOf : rangesOf (σ := σ) outcome.args = pure ranges := by rw [rangesOf, hranges]
      rw [hrangesOf, pure_bind]
      exact (drafts_invalidateRanges host _ ranges).bind fun _ => within_pure _
    · exact within_pure _
  · refine (drafts_writeOutputs hcreates host call _ _ _).bind fun args => ?_
    refine (drafts_writeResult call _).bind fun _ => ?_
    dsimp only
    rw [if_neg (by simp [hinvalidates])]
    exact within_pure _

end Executing

/-! ### Finishing -/

/-- Nobody was called and the table was left alone, but the sink may have taken a reply. -/
structure Delivers (before after : Run σ) : Prop where
  dispatches : dispatches after.events = dispatches before.events
  table : after.table = before.table

/-- What is delivered in two steps is delivered. -/
instance : IsPreorder (Run σ) Delivers where
  refl _ := ⟨rfl, rfl⟩
  trans _ _ _ h h' := ⟨h'.dispatches.trans h.dispatches, h'.table.trans h.table⟩

/-- A sink that takes a reply takes all of it at once. -/
theorem commit_eq_ok {run after : Run σ} (h : commit run = .ok () after) :
    run.sink.fails? run.writer.bytes = none ∧
      after = { run with
        writer := run.writer.clear
        sink := run.sink.taking [run.writer.bytes] } := by
  unfold commit Writer.commit? at h
  cases hwrite : run.sink.write? run.writer.bytes with
  | none =>
      rw [hwrite] at h
      cases h
  | some sink =>
      obtain ⟨hfails, rfl⟩ := Sink.write?_eq_some_iff.mp hwrite
      rw [hwrite] at h
      cases h
      exact ⟨hfails, rfl⟩

/-- A reply that the sink does not take stays in the writer; a part of it may have been taken. -/
theorem commit_eq_error {run after : Run σ} {cause : PacketError}
    (h : commit run = .error cause after) :
    run.sink.fails? run.writer.bytes ≠ none ∧ cause = .fatal .sinkRefused ∧
      after = { run with sink := run.sink.offer run.writer.bytes } := by
  unfold commit Writer.commit? at h
  cases hwrite : run.sink.write? run.writer.bytes with
  | none =>
      rw [hwrite] at h
      cases h
      exact ⟨Sink.write?_eq_none_iff.mp hwrite, rfl, rfl⟩
  | some sink =>
      rw [hwrite] at h
      cases h

/-- Committing a draft hands the sink one reply, or ends the session. -/
theorem within_commit : Within Delivers PacketError.IsFatal (commit (σ := σ)) where
  moves run := by
    unfold commit
    split <;> exact ⟨rfl, rfl⟩
  fails {run after cause} h := by
    unfold commit at h
    split at h
    · cases h
    · cases h
      trivial

/-- The call is over before its reply is handed to the sink. -/
theorem within_finish (host : Collaborators σ) (call : CallDescriptor) (payload : Bytes)
    (answered : Request × Nat × CallOutcome) :
    Within Delivers PacketError.IsFatal (finish host call payload answered) := by
  have hrecords : Drafts Eq (record host call (payload.take answered.2.1) answered.1.dispatch
      answered.2.2) := drafts_record host call _ _ _
  exact within_commit.bind fun _ =>
    hrecords.mono (fun hquiet => ⟨hquiet.dispatches, hquiet.table.symm⟩) id

/-! ### Packets -/

section Packets

variable {host : Collaborators σ} {call : CallDescriptor} {payload : Bytes} {run after : Run σ}

/-- The run in which a packet starts. -/
def started (run : Run σ) : Run σ := { run with scratch := run.scratch.reset }

/-- What a packet is answered with: what the writer holds when it is handed to the sink. -/
def writeback (host : Collaborators σ) (call : CallDescriptor) (payload : Bytes) (run : Run σ) :
    Bytes :=
  (stateOf (answer host call payload (!host.sharesMemory run.state) (started run))).writer.bytes

/-- Whether a recorder is offered for a packet, in the state in which it was answered. -/
def offersFor (host : Collaborators σ) (call : CallDescriptor) (payload : Bytes) (run : Run σ) :
    Bool :=
  host.offers
    (stateOf (answer host call payload (!host.sharesMemory run.state) (started run))).state

/-- A call that is not received is not answered. -/
theorem answer_of_error {transfers : Bool} {run middle : Run σ} {cause : PacketError}
    (h : receive host call payload transfers run = .error cause middle) :
    answer host call payload transfers run = .error cause middle :=
  bind_of_error h

/-- A call that was received is carried out once on the way to the answer. -/
theorem calls_of_receive {moves : BoxTable → BoxTable → Prop} [IsPreorder BoxTable moves]
    (hcreates : ∀ raw type table, moves table (stateOf (BoxTable.create raw type table)))
    (hserves : ∀ request state table scratch,
      moves table (stateOf (host.serve request (state, table, scratch))).2.1)
    {transfers : Bool} {run middle : Run σ} {request : Request} {size : Nat}
    (h : receive host call payload transfers run = .ok (request, size) middle) :
    Calls moves (fun run => dispatchEvent call (adapted host call request run) run.scratch.used)
      middle (stateOf (answer host call payload transfers run)) := by
  have hexecutes : Within _ _ (execute host call transfers request) :=
    within_execute hcreates hserves transfers request
  rw [answer, bind_of_ok h]
  exact (hexecutes.andThen (fun outcome => within_pure (request, size, outcome))
    Calls.quiet).moves middle

/-- A call that was received is carried out once, before the sink is used. -/
theorem calls_answer {transfers : Bool} {run middle : Run σ} {request : Request} {size : Nat}
    (h : receive host call payload transfers run = .ok (request, size) middle) :
    Calls AnyTable
      (fun _ => dispatchEvent call (adapted host call request middle) middle.scratch.used)
      run (stateOf (answer host call payload transfers run)) := by
  have hquiet := (receives_receive transfers).of_ok h
  have hcalls : Calls AnyTable _ middle _ :=
    calls_of_receive (fun _ _ _ => trivial) (fun _ _ _ _ => trivial) h
  exact ⟨hcalls.sink.trans hquiet.sink, by rw [hcalls.dispatches, hquiet.dispatches], trivial⟩

/-- A packet goes on from its answer. -/
theorem delivers_perform (run : Run σ) :
    Delivers (stateOf (answer host call payload (!host.sharesMemory run.state) run))
      (stateOf (perform host call payload run)) := by
  rw [perform_eq]
  cases hanswer : answer host call payload (!host.sharesMemory run.state) run with
  | error cause drafted =>
      rw [bind_of_error hanswer]
      exact refl_of Delivers drafted
  | ok answer drafted =>
      rw [bind_of_ok hanswer]
      exact (within_finish host call payload answer).moves drafted

/-- What becomes of a packet becomes of its run, apart from what is cleaned up. -/
theorem runPacket_events (run : Run σ) :
    (stateOf (runPacket host call payload run)).events
      = (stateOf (perform host call payload (started run))).events := by
  unfold runPacket started
  cases perform host call payload { run with scratch := run.scratch.reset } <;> rfl

/-- Behind a packet, the table is the one that it was carried out with, whatever remained queued. -/
theorem runPacket_table (run : Run σ) :
    (stateOf (runPacket host call payload run)).table
      = (settle (stateOf (perform host call payload (started run)))).table := by
  unfold runPacket started
  cases perform host call payload { run with scratch := run.scratch.reset } <;> rfl

/-- Whatever becomes of a packet, nobody was called, or it was received and its call carried out
once. -/
theorem runPacket_calls (host : Collaborators σ) (call : CallDescriptor) (payload : Bytes)
    (run : Run σ) :
    dispatches (stateOf (runPacket host call payload run)).events = dispatches run.events ∨
      ∃ request size middle,
        receive host call payload (!host.sharesMemory run.state) (started run)
            = .ok (request, size) middle ∧
          dispatches (stateOf (runPacket host call payload run)).events
            = dispatches run.events ++
                [dispatchEvent call (adapted host call request middle) middle.scratch.used] := by
  rw [runPacket_events, (delivers_perform (started run)).dispatches]
  cases hreceive : receive host call payload (!host.sharesMemory run.state) (started run) with
  | error cause middle =>
      refine Or.inl ?_
      have hquiet := (receives_receive (!host.sharesMemory run.state)).of_error hreceive
      exact (congrArg (fun result => dispatches (stateOf result).events)
        (answer_of_error hreceive)).trans hquiet.dispatches
  | ok read middle =>
      obtain ⟨request, size⟩ := read
      exact Or.inr ⟨request, size, middle, rfl, (calls_answer hreceive).dispatches⟩

/-! ### Packets that are carried out -/

/-- A packet that is carried out was received, answered and finished. -/
theorem answer_of_runPacket (h : runPacket host call payload run = .ok () after) :
    ∃ request size middle answered drafted finished,
      receive host call payload (!host.sharesMemory run.state) (started run)
          = .ok (request, size) middle ∧
        answer host call payload (!host.sharesMemory run.state) (started run)
          = .ok answered drafted ∧
        finish host call payload answered drafted = .ok () finished ∧ after = settle finished := by
  unfold runPacket at h
  split at h
  · next finished hperformed =>
      cases h
      have hbind := (perform_eq host call payload (started run)).symm.trans hperformed
      obtain ⟨answered, drafted, hanswer, hfinish⟩ := bind_eq_ok_iff.mp hbind
      obtain ⟨⟨request, size⟩, middle, hreceive, -⟩ := bind_eq_ok_iff.mp hanswer
      exact ⟨request, size, middle, answered, drafted, finished, hreceive, hanswer, hfinish, rfl⟩
  · cases h

/-- The recorder that is offered for a packet is offered where it was answered. -/
theorem offersFor_of_answer {answered : Request × Nat × CallOutcome} {drafted : Run σ}
    (h : answer host call payload (!host.sharesMemory run.state) (started run)
      = .ok answered drafted) : offersFor host call payload run = host.offers drafted.state := by
  rw [offersFor, h]
  rfl

/-- A packet that is carried out calls the driver or the global state once. -/
theorem runPacket_calls_once (h : runPacket host call payload run = .ok () after) :
    ∃ event, event.call? = some call ∧ dispatches after.events =
      dispatches run.events ++ [event] := by
  obtain ⟨request, size, middle, answered, drafted, finished, hreceive, hanswer, hfinish, rfl⟩ :=
    answer_of_runPacket h
  have hcalls := calls_answer hreceive
  rw [hanswer] at hcalls
  have hdelivered := (within_finish host call payload answered).of_ok hfinish
  exact ⟨_, call?_dispatchEvent .., hdelivered.dispatches.trans hcalls.dispatches⟩

/-- A packet that is carried out hands its reply to the sink, whole and once. -/
theorem runPacket_replies (h : runPacket host call payload run = .ok () after) :
    run.sink.fails? (writeback host call payload run) = none ∧
      after.sink = run.sink.taking [writeback host call payload run] := by
  obtain ⟨request, size, middle, answered, drafted, finished, hreceive, hanswer, hfinish, rfl⟩ :=
    answer_of_runPacket h
  have hcalls := calls_answer hreceive
  rw [hanswer] at hcalls
  obtain ⟨_, taken, hcommitted, hrecord⟩ := bind_eq_ok_iff.mp hfinish
  -- Recording offers nothing to the sink.
  have hrecords : Drafts Eq (record host call (payload.take answered.2.1) answered.1.dispatch
      answered.2.2) := drafts_record host call _ _ _
  have hsink' : finished.sink = taken.sink := (hrecords.of_ok hrecord).sink
  have hreply : writeback host call payload run = drafted.writer.bytes := by
    rw [writeback, hanswer]
    rfl
  obtain ⟨hfails, rfl⟩ := commit_eq_ok hcommitted
  have hsink : drafted.sink = run.sink := hcalls.sink
  rw [hsink] at hfails
  rw [hreply]
  refine ⟨hfails, ?_⟩
  show finished.sink = _
  rw [hsink']
  show drafted.sink.taking _ = _
  rw [hsink]

/-! ### Packets that are refused -/

/-- Bytes are not to blame for a call that cannot be carried out once it was received, unless the
ranges that it lists were changed on the way. -/
theorem isFatal_of_execute (hmem : call ∈ CallDescriptor.catalog)
    (hkeeps : call.name = CallDescriptor.invalidateMappedMemoryRanges.name → KeepsRanges host)
    {transfers : Bool} {middle : Run σ} {request : Request} {size : Nat} {cause : PacketError}
    (hreceive : receive host call payload transfers run = .ok (request, size) middle)
    (hfailed : execute host call transfers request middle = .error cause after) :
    cause.IsFatal := by
  rw [execute_eq] at hfailed
  rcases bind_eq_error_iff.mp hfailed with hfailed | ⟨outcome, last, hdispatch, hfailed⟩
  · have hdispatched : Within (Calls AnyTable _) PacketError.IsFatal
        (dispatch host call (adapted host call request middle)) :=
      within_dispatch (fun _ _ _ _ => trivial) call _
    exact hdispatched.fails hfailed
  -- Ranges are read once more when the call is over. They can be, because the driver has kept them.
  · have hspelled (hroute : call.route = .invalidateMappedRanges) :
        call.outputs = [] ∧ (MappedRange.ofArgs? outcome.args).isSome = true := by
      obtain rfl := CallDescriptor.eq_invalidateMappedMemoryRanges hmem hroute
      obtain ⟨cursor, table, hreadRequest⟩ := readRequest_of_receive hreceive
      have htyped := Reading.yields_readRequest _ hreadRequest
      refine ⟨rfl, ?_⟩
      change callDriver host _ _ = _ at hdispatch
      rw [callDriver_eq] at hdispatch
      split at hdispatch
      · next hdrive =>
          cases hdispatch
          exact (hkeeps rfl).ofArgs?_isSome htyped rfl rfl hdrive
      · cases hdispatch
    have hdrafted : Drafts AnyTable (draft host call transfers outcome) :=
      drafts_draft (fun _ _ _ => trivial) hspelled transfers
    exact hdrafted.fails hfailed

/-- A packet that is refused was not received. It leaves the run as it was but for mapped memory,
and that only if the call flushes some; what was left of an earlier packet is cleaned up. -/
theorem runPacket_malformed (hmem : call ∈ CallDescriptor.catalog)
    (hkeeps : call.name = CallDescriptor.invalidateMappedMemoryRanges.name → KeepsRanges host)
    {cause : WireError Empty}
    (h : runPacket host call payload run = .error (.malformed cause) after) :
    after = { run with
        state := after.state
        table := run.table.discardDestroys.releasePreserved
        scratch := run.scratch.reset
        writer := run.writer.clear } ∧
      Refilled host run.state after.state ∧
      (call.route ≠ .flushMappedRanges → after.state = run.state) := by
  unfold runPacket at h
  split at h
  · cases h
  · next cause middle hperformed =>
      cases h
      have hbind := (perform_eq host call payload (started run)).symm.trans hperformed
      rcases bind_eq_error_iff.mp hbind with hfailed | ⟨answered, drafted, -, hfailed⟩
      -- The call could not be received. All that follows fails in ways that end the session.
      · rcases bind_eq_error_iff.mp hfailed with hfailed |
          ⟨⟨request, size⟩, reached, hreceive, hfailed⟩
        · obtain ⟨hcollected, hunfilled⟩ := receive_malformed hfailed
          refine ⟨?_, hcollected.state, hunfilled⟩
          rw [hcollected.rest]
          show ({ run with
            state := middle.state
            table := middle.table.discardDestroys.releasePreserved
            scratch := run.scratch.reset
            writer := run.writer.clear } : Run σ) = _
          rw [hcollected.table.settled]
          rfl
        · rcases bind_eq_error_iff.mp hfailed with hfailed | ⟨_, _, -, hpure⟩
          · exact (isFatal_of_execute hmem hkeeps hreceive hfailed).elim
          · cases hpure
      · exact ((within_finish host call payload answered).fails hfailed).elim

end Packets

end Execution

end CallStream
