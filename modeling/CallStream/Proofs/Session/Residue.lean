import CallStream.Proofs.Session.Lifetime
import CallStream.Proofs.Session.Prefix

/-!
# Nothing is left of a packet

A packet fills the writer, takes scratch memory, queues objects and lists those that it destroyed.
It can end in many ways: its bytes may be to blame, a handle may be unknown, the driver may fail, an
output may not fit, a range may leave its mapping, the sink may refuse the reply. Whatever the way,
a session is *idle* behind it. So no packet meets what another one left, and the sink has taken the
reply of every packet that was carried out, drafted in an empty writer. Of any other it has not a
byte, unless it is the sink itself that failed halfway.

## Main results

* `Session.Idle`, `idle_runPacket`: a session is idle behind every packet.
* `sink_of_runPacket_error`: a packet that fails leaves the sink alone, unless the sink failed.
* `decode_leaves_idle`: what is left, called and replied behind any buffers.
-/

namespace CallStream

variable {σ : Type}

/-- Nothing is left of an earlier packet: no bytes of a reply, no scratch memory, no object to
destroy and none that is listed as destroyed. -/
structure Session.Idle (session : Session σ) : Prop where
  writer : session.writer.bytes = []
  scratch : session.scratch.used = 0
  pending : session.table.pending = []
  preserved : session.table.preserved = []

/-- A session starts idle. -/
theorem Session.idle_start (state : σ) (config : SessionConfig) : (start state config).Idle :=
  ⟨rfl, rfl, rfl, rfl⟩

/-- There is nothing to clean up in an idle session. -/
theorem Session.Idle.eq {session : Session σ} (hidle : session.Idle) :
    session = { session with
      table := session.table.releasePreserved
      scratch := session.scratch.reset
      writer := session.writer.clear } := by
  obtain ⟨state, ⟨entries, generations, free, reserved, preserved, pending⟩, ⟨used, highWater⟩,
    ⟨bytes⟩, config, awaits⟩ := session
  obtain ⟨hbytes, hinUse, -, hpreserved⟩ := hidle
  obtain rfl : used = [] := List.eq_nil_of_length_eq_zero hinUse
  cases hbytes
  cases hpreserved
  rfl

/-- Whenever the global state was called, no scratch memory was in use. So no call can see what
another one left there. -/
def FreshScratch (events : List SessionEvent) : Prop :=
  ∀ request used, SessionEvent.served request used ∈ events → used = 0

namespace Execution

variable {host : Collaborators σ} {call : CallDescriptor} {payload : Bytes} {run after : Run σ}

/-! ### The end of a packet -/

/-- What finishing a packet comes to if the sink takes its reply: nothing is left in the writer, and
the call is recorded if a recorder is offered. -/
theorem finish_eq_ok {answered : Request × Nat × CallOutcome}
    (h : finish host call payload answered run = .ok () after) :
    let snapshot := SnapshotCall.ofCall call (payload.take answered.2.1) answered.1.dispatch
      run.table.preserved answered.2.2
    run.sink.fails? run.writer.bytes = none ∧
      after = { run with
        state := host.afterRecording snapshot run.state
        writer := run.writer.clear
        sink := run.sink.taking [run.writer.bytes]
        events := noteIf (host.offers run.state) (.recorded snapshot) run.events } := by
  intro snapshot
  obtain ⟨_, taken, hcommit, hrecord⟩ := bind_eq_ok_iff.mp h
  obtain ⟨hfails, rfl⟩ := commit_eq_ok hcommit
  rw [record_eq] at hrecord
  cases hrecord
  exact ⟨hfails, rfl⟩

/-- Where a recorder is offered, the last thing that a packet does is to record its call. -/
theorem recorded_of_finish {answered : Request × Nat × CallOutcome}
    (h : finish host call payload answered run = .ok () after)
    (hoffers : host.offers run.state = true) :
    after.events.getLast? = some (.recorded (.ofCall call (payload.take answered.2.1)
      answered.1.dispatch run.table.preserved answered.2.2)) := by
  obtain ⟨-, rfl⟩ := finish_eq_ok h
  rw [noteIf, if_pos hoffers]
  exact List.getLast?_concat

/-- Otherwise the sink refused the reply, and nothing else happened. -/
theorem finish_eq_error {answered : Request × Nat × CallOutcome} {cause : PacketError}
    (h : finish host call payload answered run = .error cause after) :
    run.sink.fails? run.writer.bytes ≠ none ∧ cause = .fatal .sinkRefused ∧
      after = { run with sink := run.sink.offer run.writer.bytes } := by
  rcases bind_eq_error_iff.mp h with hcommit | ⟨_, taken, -, hrecord⟩
  · exact commit_eq_error hcommit
  · rw [record_eq] at hrecord
    cases hrecord

/-- Before a packet is finished, the sink is not used. -/
theorem sink_of_answer (host : Collaborators σ) (call : CallDescriptor) (payload : Bytes)
    (transfers : Bool) (run : Run σ) :
    (stateOf (answer host call payload transfers run)).sink = run.sink := by
  cases hreceive : receive host call payload transfers run with
  | error cause middle =>
      rw [answer_of_error hreceive]
      exact ((receives_receive transfers).of_error hreceive).sink
  | ok read middle =>
      obtain ⟨request, size⟩ := read
      exact (calls_answer hreceive).sink

/-- A packet that fails leaves the sink alone, unless it is the sink that failed. -/
theorem sink_of_runPacket_error {cause : PacketError}
    (h : runPacket host call payload run = .error cause after) :
    after.sink = run.sink ∨
      cause = .fatal .sinkRefused ∧ run.sink.fails? (writeback host call payload run) ≠ none ∧
        after.sink = run.sink.offer (writeback host call payload run) := by
  unfold runPacket at h
  split at h
  · cases h
  · next cause middle hperform =>
      cases h
      have hsink := sink_of_answer host call payload (!host.sharesMemory (started run).state)
        (started run)
      have hchain := (perform_eq host call payload (started run)).symm.trans hperform
      -- Either the call failed before its reply was offered, or the sink refused it.
      rcases bind_eq_error_iff.mp hchain with hanswer | ⟨answered, drafted, hanswer, hfinish⟩
      · rw [hanswer] at hsink
        exact Or.inl hsink
      · obtain ⟨hfails, rfl, rfl⟩ := finish_eq_error hfinish
        have hreply : writeback host call payload run = drafted.writer.bytes :=
          congrArg (fun result => (stateOf result).writer.bytes) hanswer
        rw [hanswer] at hsink
        rw [show drafted.sink = run.sink from hsink, ← hreply] at hfails
        refine Or.inr ⟨rfl, hfails, ?_⟩
        show drafted.sink.offer _ = _
        rw [show drafted.sink = run.sink from hsink, hreply]

/-- A packet that is refused for its bytes leaves the sink alone. -/
theorem sink_of_runPacket_malformed {cause : WireError Empty}
    (h : runPacket host call payload run = .error (.malformed cause) after) :
    after.sink = run.sink := by
  rcases sink_of_runPacket_error h with hsink | ⟨hcause, -⟩
  · exact hsink
  · cases hcause

variable {result : EStateM.Result PacketError (Run σ) Unit}

/-- Whatever becomes of a packet, the session is idle behind it. -/
theorem idle_runPacket (h : runPacket host call payload run = result) :
    (stateOf result).toSession.Idle := by
  cases result with
  | ok done after =>
      obtain ⟨request, size, middle, answered, drafted, finished, -, -, hfinish, rfl⟩ :=
        answer_of_runPacket h
      obtain ⟨-, rfl⟩ := finish_eq_ok hfinish
      exact ⟨rfl, rfl, rfl, rfl⟩
  | error cause after =>
      have hbytes := runPacket_writer_of_error h
      unfold runPacket at h
      split at h
      · cases h
      · cases h
        exact ⟨hbytes, rfl, rfl, rfl⟩

/-! ### Scratch memory -/

/-- A packet calls the global state before it uses scratch memory. -/
theorem freshScratch_runPacket (hfresh : FreshScratch run.events)
    (h : runPacket host call payload run = result) : FreshScratch (stateOf result).events := by
  subst h
  have hcalled (events : List SessionEvent) (request : StateCall) (used : Nat) :
      SessionEvent.served request used ∈ events
        ↔ SessionEvent.served request used ∈ dispatches events := by
    rw [dispatches, List.mem_filter]
    exact (and_iff_left rfl).symm
  intro request used hserved
  rw [hcalled] at hserved
  rcases runPacket_calls host call payload run with hdispatches | ⟨_, _, middle, hreceive, honce⟩
  · rw [hdispatches, ← hcalled] at hserved
    exact hfresh request used hserved
  · rw [honce, List.mem_append, List.mem_singleton, ← hcalled] at hserved
    rcases hserved with hmem | hnow
    · exact hfresh request used hmem
    -- A packet starts with unused scratch memory, and receiving its call uses none.
    · have hunused : middle.scratch.used = 0 := by
        rw [((collects_receive _).of_ok hreceive).rest]
        rfl
      rw [hunused] at hnow
      unfold dispatchEvent at hnow
      split at hnow
      · cases hnow
        rfl
      · cases hnow

/-! ### Replies -/

/-- The bytes that a packet is answered with where nothing is in the writer. What lies in the sink
is a row of such replies. -/
def produced (host : Collaborators σ) (call : CallDescriptor) (payload : Bytes) (run : Run σ) :
    Bytes :=
  writeback host call payload { run with writer := {} }

/-- In an idle session, a packet is answered with nothing but what it produces. -/
theorem writeback_of_idle (hidle : run.toSession.Idle) :
    writeback host call payload run = produced host call payload run := by
  have hblank : run = { run with writer := {} } := by
    obtain ⟨⟨state, table, scratch, ⟨bytes⟩, config, awaits⟩, sink, events⟩ := run
    cases hidle.writer
    rfl
  rw [produced, ← hblank]

end Execution

namespace Session

open Execution

variable {host : Collaborators σ}

/-! ### Packets one behind the other -/

namespace CarriedOut

variable {packets : List Packet} {replies : List Bytes} {before after : Run σ}

/-- A session is idle behind packets that were carried out, if it was in front of them. -/
theorem idle (h : CarriedOut host packets replies before after) (hidle : before.toSession.Idle) :
    after.toSession.Idle := by
  induction h with
  | nil run => exact hidle
  | cons hopcode hpacket hcarriedOut ih => exact ih (idle_runPacket hpacket)

/-- Packets that are carried out leave no queue. -/
theorem unqueued (h : CarriedOut host packets replies before after)
    (hpending : before.table.pending = []) : after.table.pending = [] := by
  induction h with
  | nil run => exact hpending
  | cons hopcode hpacket hcarriedOut ih => exact ih (idle_runPacket hpacket).pending

/-- Whenever the global state was called on the way, the scratch memory was unused. -/
theorem freshScratch (h : CarriedOut host packets replies before after)
    (hfresh : FreshScratch before.events) : FreshScratch after.events := by
  induction h with
  | nil run => exact hfresh
  | cons hopcode hpacket hcarriedOut ih => exact ih (freshScratch_runPacket hfresh hpacket)

/-- Each reply is what its packet produces behind the packets before it. -/
theorem reply_produced (h : CarriedOut host packets replies before after)
    (hidle : before.toSession.Idle) {i : Nat} {packet : Packet}
    (hget : packets[i]? = some packet) :
    ∃ call run, CarriedOut host (packets.take i) (replies.take i) before run ∧
      run.toSession.Idle ∧ CallDescriptor.ofOpcode? packet.opcode = some call ∧
      replies[i]? = some (produced host call packet.payload run) := by
  induction h generalizing i with
  | nil run => cases hget
  | @cons first call packets replies run middle after hopcode hpacket hcarriedOut ih =>
      cases i with
      | zero =>
          cases hget
          exact ⟨call, run, .nil run, hidle, hopcode, congrArg some (writeback_of_idle hidle)⟩
      | succ i =>
          obtain ⟨later, last, hcarried, hidleRest, hknownRest, hreply⟩ :=
            ih (idle_runPacket hpacket) hget
          exact ⟨later, last, .cons hopcode hpacket hcarried, hidleRest, hknownRest, hreply⟩

end CarriedOut

/-- What becomes of the sink behind the packets that were carried out: it is left alone, or it fails
to take the reply of the packet that comes next. -/
def SinkEnds (host : Collaborators σ) (reached : Run σ)
    (next? : Option (Except FrameError Packet)) (after : Sink) : Prop :=
  after = reached.sink ∨ ∃ packet call, next? = some (.ok packet) ∧
    CallDescriptor.ofOpcode? packet.opcode = some call ∧
    reached.sink.fails? (produced host call packet.payload reached) ≠ none ∧
    after = reached.sink.offer (produced host call packet.payload reached)

/-- An atomic sink holds the same in either case. -/
theorem SinkEnds.received_eq {reached : Run σ} {next? : Option (Except FrameError Packet)}
    {after : Sink} (h : SinkEnds host reached next? after) (hatomic : reached.sink.Atomic) :
    after.received = reached.sink.received := by
  rcases h with rfl | ⟨packet, call, -, -, hfails, rfl⟩
  · rfl
  · exact hatomic.offer hfails

/-- A run ends idle, and its sink has what the packets that were carried out replied. -/
theorem Ends.residue {reached : Run σ} {consumed : Nat} {next? : Option (Except FrameError Packet)}
    {result : EStateM.Result SessionError (Run σ) Progress}
    (h : Ends host reached consumed next? result) (hidle : reached.toSession.Idle)
    (hfresh : FreshScratch reached.events) :
    (stateOf result).toSession.Idle ∧ FreshScratch (stateOf result).events ∧
      SinkEnds host reached next? (stateOf result).sink := by
  cases h with
  | drained | unframed | unknown => exact ⟨hidle, hfresh, Or.inl rfl⟩
  | refused hopcode hpacket =>
      exact ⟨idle_runPacket hpacket, freshScratch_runPacket hfresh hpacket,
        Or.inl (sink_of_runPacket_malformed hpacket)⟩
  | failed hopcode hpacket =>
      refine ⟨idle_runPacket hpacket, freshScratch_runPacket hfresh hpacket, ?_⟩
      rcases sink_of_runPacket_error hpacket with hsink | ⟨-, hfails, hsink⟩
      · exact Or.inl hsink
      · rw [writeback_of_idle hidle] at hfails hsink
        exact Or.inr ⟨_, _, rfl, hopcode, hfails, hsink⟩

/-! ### Where the packets of a buffer start -/

/-- The handles of a snapshot only reserve ids, and the surroundings may keep what they like. -/
def OnlyReserves (before after : Run σ) : Prop :=
  ∃ state awaitsHandles reserved,
    after = { before with state, awaitsHandles, table := { before.table with reserved } }

/-- The place in a buffer where its packets start, and the run that carries them out. There is none
if the handles of a snapshot come first and cannot be loaded. -/
def packetsStart (host : Collaborators σ) (buffer : Bytes) (run : Run σ) : Option (Nat × Run σ) :=
  if run.awaitsHandles && Packet.headerSize ≤ buffer.length then
    match host.loadHandles buffer run.state with
    | .error _ _ => none
    | .ok (consumed, ids) state => some (min consumed buffer.length, loadedRun run ids state)
  else some (0, run)

variable {buffer : Bytes} {run first : Run σ} {start : Nat}

/-- Where there are no packets, the handles of a snapshot could not be loaded. -/
theorem runBuffer_of_start_none (h : packetsStart host buffer run = none) :
    ∃ cause after, runBuffer host buffer run = .error (.snapshotLoad cause) after ∧
      OnlyReserves run after := by
  unfold packetsStart at h
  split at h
  · next hloads =>
      split at h
      · next cause state hloadHandles =>
          rw [runBuffer, if_pos hloads, runSnapshot, hloadHandles]
          exact ⟨cause, _, rfl, _, _, _, rfl⟩
      · cases h
  · cases h

/-- What precedes the packets does nothing but to reserve ids. -/
theorem onlyReserves_of_start (h : packetsStart host buffer run = some (start, first)) :
    OnlyReserves run first := by
  unfold packetsStart at h
  split at h
  · split at h
    · cases h
    · cases h
      exact ⟨_, _, _, rfl⟩
  · cases h
    exact ⟨_, _, _, rfl⟩

/-- A buffer does what its packets do. -/
theorem runBuffer_of_start (h : packetsStart host buffer run = some (start, first)) :
    ∃ close : Run σ → Run σ, (∀ last, OnlyReserves last (close last)) ∧
      runBuffer host buffer run
        = mapState close (runPackets host start (buffer.drop start) first) := by
  unfold packetsStart at h
  split at h
  · next hloads =>
      split at h
      · cases h
      · next consumed ids state hloadHandles =>
          cases h
          refine ⟨closedRun host, fun last => ⟨_, _, _, rfl⟩, ?_⟩
          rw [runBuffer, if_pos hloads, runSnapshot_of_loaded hloadHandles]
  · next hne =>
      cases h
      refine ⟨id, fun last => ⟨_, _, _, rfl⟩, ?_⟩
      rw [runBuffer, if_neg hne, List.drop_zero]
      cases runPackets host 0 buffer run <;> rfl

/-- So it leaves an idle session idle. -/
theorem OnlyReserves.idle {before after : Run σ} (h : OnlyReserves before after)
    (hidle : before.toSession.Idle) : after.toSession.Idle := by
  obtain ⟨state, awaitsHandles, reserved, rfl⟩ := h
  exact ⟨hidle.writer, hidle.scratch, hidle.pending, hidle.preserved⟩

/-! ### Sessions -/

/-- Among the packets of a buffer, the first ones are carried out, and the sink takes the reply of
each of them, whole and in order. Each reply is what its packet produces in an idle session, behind
the packets before it. Nothing else is handed to the sink but, if it is the sink that fails, what
the next packet produces; an atomic sink then takes nothing of it. -/
def RepliesWhole (host : Collaborators σ) (start : Nat) (rest : Bytes) (first : Run σ)
    (before after : Sink) : Prop :=
  ∃ packets replies reached behind,
    PacketWalk.items rest start = packets.map .ok ++ behind ∧
    CarriedOut host packets replies first reached ∧
    reached.sink = before.taking replies ∧ SinkEnds host reached behind.head? after ∧
    (before.Atomic → after.received = before.received ++ replies.flatten) ∧
    ∀ i packet, packets[i]? = some packet → ∃ call run,
      CarriedOut host (packets.take i) (replies.take i) first run ∧ run.toSession.Idle ∧
      CallDescriptor.ofOpcode? packet.opcode = some call ∧
      replies[i]? = some (produced host call packet.payload run)

/-- What is left, called and replied behind the packets of a buffer. -/
theorem runPackets_residue (hidle : first.toSession.Idle) (hfresh : FreshScratch first.events)
    (host : Collaborators σ) (start : Nat) (rest : Bytes) :
    let after := stateOf (runPackets host start rest first)
    after.toSession.Idle ∧ FreshScratch after.events ∧
      RepliesWhole host start rest first first.sink after.sink := by
  obtain ⟨packets, replies, reached, behind, hcarriedOut, hitems, -, hends⟩ :=
    runPackets_ends host start rest first
  obtain ⟨hleft, hfreshScratch, hsink⟩ := hends.residue (hcarriedOut.idle hidle)
    (hcarriedOut.freshScratch hfresh)
  refine ⟨hleft, hfreshScratch, packets, replies, reached, behind, hitems, hcarriedOut,
    hcarriedOut.sink_eq, hsink, fun hatomic => ?_, fun i packet hget =>
    hcarriedOut.reply_produced hidle hget⟩
  have hreached : reached.sink.Atomic := by
    rw [hcarriedOut.sink_eq]
    exact hatomic
  rw [hsink.received_eq hreached, hcarriedOut.sink_eq]
  rfl

/-- What is left, called and replied behind a buffer. -/
theorem runBuffer_residue (hidle : run.toSession.Idle) (hfresh : FreshScratch run.events)
    (host : Collaborators σ) (buffer : Bytes) :
    let after := stateOf (runBuffer host buffer run)
    after.toSession.Idle ∧ FreshScratch after.events ∧
      (packetsStart host buffer run = none → after.sink = run.sink) ∧
      ∀ start first, packetsStart host buffer run = some (start, first) →
        RepliesWhole host start (buffer.drop start) first run.sink after.sink := by
  intro after
  cases hpacketsStart : packetsStart host buffer run with
  | none =>
      obtain ⟨cause, last, hrunBuffer, hkept⟩ := runBuffer_of_start_none hpacketsStart
      obtain rfl : after = last := congrArg stateOf hrunBuffer
      obtain ⟨state, awaitsHandles, reserved, hsame⟩ := id hkept
      refine ⟨hkept.idle hidle, ?_, fun _ => ?_, fun start first hother => by cases hother⟩
      · rw [hsame]
        exact hfresh
      · rw [hsame]
  | some place =>
      obtain ⟨start, first⟩ := place
      have honlyReserves := onlyReserves_of_start hpacketsStart
      obtain ⟨state, awaitsHandles, reserved, hsame⟩ := id honlyReserves
      have hfreshFirst : FreshScratch first.events := by
        rw [hsame]
        exact hfresh
      -- What precedes the packets only reserves ids, and so does what follows them. The packets in
      -- between leave nothing.
      obtain ⟨hleft, hkept, hrepliesWhole⟩ :=
        runPackets_residue (honlyReserves.idle hidle) hfreshFirst host start (buffer.drop start)
      obtain ⟨close, hcloses, hran⟩ := runBuffer_of_start hpacketsStart
      have hclosed : OnlyReserves (stateOf (runPackets host start (buffer.drop start) first))
          after := by
        have hlast := hcloses (stateOf (runPackets host start (buffer.drop start) first))
        have heq : after = close (stateOf (runPackets host start (buffer.drop start) first)) := by
          rw [show after = stateOf (runBuffer host buffer run) from rfl, hran]
          cases runPackets host start (buffer.drop start) first <;> rfl
        rwa [heq]
      obtain ⟨_, _, _, hsameLast⟩ := id hclosed
      refine ⟨hclosed.idle hleft, ?_, (fun hother => by cases hother), fun _ _ hsome => ?_⟩
      · rw [hsameLast]
        exact hkept
      · cases hsome
        rw [hsameLast]
        rw [hsame] at hrepliesWhole ⊢
        exact hrepliesWhole

/-- The session behind inputs, each with surroundings of its own. Surroundings that change between
inputs are the general case: a script, a device that is lost, another global state. -/
def feedAll (session : Session σ) (inputs : List (Collaborators σ × SessionInput)) : Session σ :=
  inputs.foldl (fun session (host, input) => session.feed host input) session

/-- A session is idle behind every input. -/
theorem idle_feed {session : Session σ} (hidle : session.Idle) (host : Collaborators σ)
    (input : SessionInput) : (session.feed host input).Idle := by
  cases input with
  | buffer bytes sink =>
      rw [feed, (decode_left host session bytes sink).1]
      exact (runBuffer_residue hidle (fun _ _ hmem => absurd hmem List.not_mem_nil) host bytes).1
  | awaitHandles flag => exact ⟨hidle.writer, hidle.scratch, hidle.pending, hidle.preserved⟩

/-- An idle session is idle behind whatever inputs. -/
theorem idle_feedAll {session : Session σ} (hidle : session.Idle)
    (inputs : List (Collaborators σ × SessionInput)) : (session.feedAll inputs).Idle := by
  induction inputs generalizing session with
  | nil => exact hidle
  | cons input inputs ih => exact ih (idle_feed hidle input.1 input.2)

/-- Whatever a session has been through, nothing is left behind the next buffer: no part of a reply,
no scratch memory, no queue and no list of destroyed objects, whether the buffer is carried out or
fails. Whenever the global state is called, the scratch memory is unused. The sink takes the replies
of the packets that are carried out, whole and in order; each is what its packet produces with an
empty writer. A sink that takes each write whole or refuses it whole takes nothing else. Where the
handles of a snapshot cannot be loaded, it takes nothing. -/
theorem decode_leaves_idle (state : σ) (config : SessionConfig)
    (inputs : List (Collaborators σ × SessionInput)) (host : Collaborators σ) (buffer : Bytes)
    (sink : Sink) :
    let session := (Session.start state config).feedAll inputs
    let decoded := decode host session buffer sink
    session.Idle ∧ decoded.session.Idle ∧
      (∀ request used, SessionEvent.served request used ∈ decoded.events → used = 0) ∧
      (packetsStart host buffer { session with sink } = none → decoded.sink = sink) ∧
      ∀ start first, packetsStart host buffer { session with sink } = some (start, first) →
        RepliesWhole host start (buffer.drop start) first sink decoded.sink := by
  intro session decoded
  have hidle : session.Idle := idle_feedAll (idle_start state config) inputs
  have hidleRun : ({ session with sink } : Run σ).toSession.Idle := hidle
  obtain ⟨hleft, hfresh, hunsent, hwhole⟩ := runBuffer_residue hidleRun
    (fun _ _ hmem => absurd hmem List.not_mem_nil) host buffer
  obtain ⟨hsameSession, hsameSink, hsameEvents⟩ := decode_left host session buffer sink
  rw [← hsameSession] at hleft
  rw [← hsameEvents] at hfresh
  rw [← hsameSink] at hunsent hwhole
  exact ⟨hidle, hleft, hfresh, hunsent, hwhole⟩

end Session

end CallStream
