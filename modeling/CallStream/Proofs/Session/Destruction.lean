import CallStream.Proofs.Boxing.Queue
import CallStream.Proofs.Session.Residue

/-!
# What a packet destroys

A call that names objects to destroy is carried out when all of them have left the table, and as
long as it can be refused all of them are there. So a packet destroys every object that it names, or
none, with one exception: where it names an object twice, the second time it is gone already. Then
the session ends with the objects in front of that destroyed, and the call is not carried out.

## Main results

* `receive_eq_ok_destroys`, `receive_eq_error_destroys`: what leaves the table while a call is
  received.
* `runPacket_destroys`: a packet calls with all of its objects destroyed, or it does not call.
* `decode_failed`: a session that fails does so with a packet.
* `resolve_of_unknownHandle`: what still resolves where a session ends for an unknown handle.
* `unresolved_freeTwicePacket`: a packet that names an object twice takes others along.
-/

namespace CallStream

open BoxTable

/-- The objects that a call destroys, in order. Null handles stand for none. The ids are those of
the payload, before anything is looked up. -/
def CallDescriptor.doomed (call : CallDescriptor) (payload : Bytes) : List BoxedId :=
  (call.condemned payload).filter (· != 0)

namespace Execution

variable {σ : Type} {host : Collaborators σ} {call : CallDescriptor} {payload : Bytes}
  {run after : Run σ}

/-- The null handle is not destroyed. -/
theorem zero_notMem_doomed (call : CallDescriptor) (payload : Bytes) : 0 ∉ call.doomed payload := by
  simp [CallDescriptor.doomed]

/-! ### Receiving -/

/-- A call that was read has queued its objects. -/
theorem pending_of_readCall (hmem : call ∈ CallDescriptor.catalog)
    (hpending : run.table.pending = [])
    {read : Request × Cursor} {middle : Run σ} (h : readCall call payload run = .ok read middle) :
    middle.table.pending = call.doomed payload := by
  rw [(condemned_of_readCall hmem h).1, enqueue, hpending, List.nil_append]
  rfl

/-- When the objects of a call that was read are destroyed, all of them are live. -/
theorem commitDestroys_of_readCall (hmem : call ∈ CallDescriptor.catalog)
    (hpending : run.table.pending = []) {read : Request × Cursor} {middle : Run σ}
    (h : readCall call payload run = .ok read middle) :
    ((call.doomed payload).Nodup ∧ ∃ last, commitDestroys middle.table = .ok () last ∧
        Without (call.doomed payload) run.table last) ∨
      ∃ again last, commitDestroys middle.table = .error (.unknownHandle again) last ∧
        Interrupted (call.doomed payload) again run.table last := by
  obtain ⟨htable, hknown⟩ := condemned_of_readCall hmem h
  have hpending' := pending_of_readCall hmem hpending h
  -- What is to be destroyed was looked up while the call was read, so it is there.
  have hlive (id : BoxedId) (hdoomed : id ∈ call.doomed payload) :
      middle.table.isLive id = true := by
    obtain ⟨hcondemned, hbne⟩ := List.mem_filter.mp hdoomed
    rw [htable]
    exact (hknown id hcondemned).resolve_left (by simpa using hbne)
  have hdone := commitDestroys_cases (hpending' ▸ zero_notMem_doomed call payload)
    (by rw [hpending']; exact hlive)
  rw [hpending'] at hdone
  have hsame (id : BoxedId) : middle.table.find? id = run.table.find? id := by
    rw [htable]
    rfl
  unfold Interrupted Without at hdone ⊢
  simpa only [hsame] using hdone

/-- A call is received when all of its objects are destroyed, and only they are gone. -/
theorem receive_eq_ok_destroys (hmem : call ∈ CallDescriptor.catalog)
    (hpending : run.table.pending = []) {transfers : Bool} {received : Request × Nat}
    (h : receive host call payload transfers run = .ok received after) :
    (call.doomed payload).Nodup ∧ Without (call.doomed payload) run.table after.table := by
  obtain ⟨read, middle, hreadCall, hcommitDestroys⟩ := commitDestroys_of_receive h
  rcases commitDestroys_of_readCall hmem hpending hreadCall with
    ⟨hnodup, table, hran, hwithout⟩ | ⟨again, table, hran, -⟩
  · cases hran.symm.trans hcommitDestroys
    exact ⟨hnodup, hwithout⟩
  · cases hran.symm.trans hcommitDestroys

/-- A call that is not received destroys nothing, unless it names an object twice. -/
theorem receive_eq_error_destroys (hmem : call ∈ CallDescriptor.catalog)
    (hpending : run.table.pending = []) {transfers : Bool} {cause : PacketError}
    (h : receive host call payload transfers run = .error cause after) :
    Without [] run.table after.table ∨
      ∃ again, cause = .fatal (.boxing (.unknownHandle again)) ∧
        Interrupted (call.doomed payload) again run.table after.table := by
  rw [receive_eq] at h
  rcases bind_eq_error_iff.mp h with hfailed | ⟨⟨request, cursor⟩, middle, hreadCall, h⟩
  · exact Or.inl
      ((Without.refl run.table).congr (collects_readCall.of_error hfailed).table.entries_eq)
  -- Reading and flushing leave all objects alone, so only destroying them can have begun.
  have hentries := (collects_readCall.of_ok hreadCall).table.entries_eq
  rcases bind_eq_error_iff.mp h with hfailed | ⟨last, flushed, hreceiveFlushed, h⟩
  · have htable := ((fills_receiveFlushed transfers request cursor).of_error hfailed).table
    rw [htable] at hentries
    exact Or.inl ((Without.refl run.table).congr hentries)
  have htable := ((fills_receiveFlushed transfers request cursor).of_ok hreceiveFlushed).table
  rcases bind_eq_error_iff.mp h with hfailed | ⟨_, _, -, hpure⟩
  · unfold onTable at hfailed
    rw [← htable] at hfailed
    rcases commitDestroys_of_readCall hmem hpending hreadCall with
      ⟨hnodup, table, hcommitDestroys, hwithout⟩ | ⟨again, table, hcommitDestroys, hinterrupted⟩
    · rw [hcommitDestroys] at hfailed
      cases hfailed
    · rw [hcommitDestroys] at hfailed
      cases hfailed
      exact Or.inr ⟨again, rfl, hinterrupted⟩
  · cases hpure

/-! ### Packets -/

/-- A packet that was not received is over. -/
theorem runPacket_of_receive_error {cause : PacketError} {middle : Run σ}
    (h : receive host call payload (!host.sharesMemory run.state) (started run)
      = .error cause middle) :
    runPacket host call payload run
      = .error cause { settle middle with writer := middle.writer.clear } := by
  have hperform : perform host call payload (started run) = .error cause middle :=
    (perform_eq host call payload (started run)).trans (bind_of_error (answer_of_error h))
  unfold runPacket
  rw [← started, hperform]

/-- A packet calls with all of its objects destroyed and no other one, or it does not call. Then
none is destroyed, unless it names one twice. -/
theorem runPacket_destroys (host : Collaborators σ) (hmem : call ∈ CallDescriptor.catalog)
    (payload : Bytes) (hpending : run.table.pending = []) :
    (∃ request size middle, receive host call payload (!host.sharesMemory run.state) (started run)
          = .ok (request, size) middle ∧
        (call.doomed payload).Nodup ∧ Without (call.doomed payload) run.table middle.table ∧
        dispatches (stateOf (runPacket host call payload run)).events
          = dispatches run.events ++
              [dispatchEvent call (adapted host call request middle) middle.scratch.used]) ∨
      ∃ cause after, runPacket host call payload run = .error cause after ∧
        dispatches after.events = dispatches run.events ∧
        (Without [] run.table after.table ∨
          ∃ again, cause = .fatal (.boxing (.unknownHandle again)) ∧
            Interrupted (call.doomed payload) again run.table after.table) := by
  have hfresh : (started run).table.pending = [] := hpending
  cases hreceive : receive host call payload (!host.sharesMemory run.state) (started run) with
  | ok read middle =>
      obtain ⟨request, size⟩ := read
      obtain ⟨hnodup, hwithout⟩ := receive_eq_ok_destroys hmem hfresh hreceive
      refine Or.inl ⟨request, size, middle, rfl, hnodup, hwithout, ?_⟩
      rw [runPacket_events, (delivers_perform (started run)).dispatches]
      exact (calls_answer hreceive).dispatches
  | error cause middle =>
      have hkept := receive_eq_error_destroys hmem hfresh hreceive
      exact Or.inr ⟨cause, _, runPacket_of_receive_error hreceive,
        ((receives_receive _).of_error hreceive).dispatches, hkept⟩

end Execution

namespace Session

open Execution

variable {σ : Type} {host : Collaborators σ}

/-- A session that fails behind the handles of a snapshot, or without any, fails with a packet. What
it leaves is what the packet left, but for reservations. -/
theorem decode_failed {session : Session σ} {buffer : Bytes} {sink : Sink} {cause : SessionError}
    (h : (decode host session buffer sink).outcome = .error cause)
    (hloaded : ∀ fault, cause ≠ .snapshotLoad fault) :
    ∃ start first packets replies reached packet call behind after last,
      packetsStart host buffer { session with sink } = some (start, first) ∧
      PacketWalk.items (buffer.drop start) start = packets.map .ok ++ .ok packet :: behind ∧
      CarriedOut host packets replies first reached ∧
      CallDescriptor.ofOpcode? packet.opcode = some call ∧
      runPacket host call packet.payload reached = .error (.fatal cause) after ∧
      OnlyReserves after last ∧ (decode host session buffer sink).session = last.toSession ∧
      (decode host session buffer sink).events = last.events := by
  obtain ⟨hsameSession, -, hsameEvents⟩ := decode_left host session buffer sink
  rw [decode_eq] at h
  cases hpacketsStart : packetsStart host buffer { session with sink } with
  | none =>
      obtain ⟨fault, last, hfailed, -⟩ := runBuffer_of_start_none hpacketsStart
      rw [hfailed] at h
      cases h
      exact absurd rfl (hloaded fault)
  | some place =>
      obtain ⟨start, first⟩ := place
      obtain ⟨packets, replies, reached, behind, hcarriedOut, hitems, -, hends⟩ :=
        runPackets_ends host start (buffer.drop start) first
      obtain ⟨close, hcloses, hrunBuffer⟩ := runBuffer_of_start hpacketsStart
      rw [hrunBuffer] at h hsameSession hsameEvents
      -- What follows the packets does not change whether they failed.
      generalize runPackets host start (buffer.drop start) first =
        result at hends h hsameSession hsameEvents
      cases result with
      | ok progress after => cases h
      | error failure after =>
          cases h
          obtain ⟨packet, call, hhead, hopcode, hfailed⟩ := hends.failed_of_error
          obtain ⟨later, rfl⟩ := List.head?_eq_some_iff.mp hhead
          exact ⟨start, first, packets, replies, reached, packet, call, later, after, close after,
            rfl, hitems, hcarriedOut, hopcode, hfailed, hcloses after, hsameSession, hsameEvents⟩

/-- Where a session ends for an unknown handle and the last packet has not called, every id resolves
as it did in front of that packet. The exception is a packet that names the unknown handle twice
among the objects to destroy: those that it names before the second time are gone. -/
theorem resolve_of_unknownHandle {session : Session σ} (hpending : session.table.pending = [])
    {buffer : Bytes} {sink : Sink} {id : BoxedId}
    (h : (decode host session buffer sink).outcome = .error (.boxing (.unknownHandle id))) :
    let decoded := decode host session buffer sink
    ∃ start first packets replies reached packet call behind,
      packetsStart host buffer { session with sink } = some (start, first) ∧
      PacketWalk.items (buffer.drop start) start = packets.map .ok ++ .ok packet :: behind ∧
      CarriedOut host packets replies first reached ∧
      CallDescriptor.ofOpcode? packet.opcode = some call ∧
      (dispatches decoded.events = dispatches reached.events →
        (∀ other, decoded.session.table.resolve other = reached.table.resolve other) ∨
        Interrupted (call.doomed packet.payload) id reached.table decoded.session.table) := by
  intro decoded
  obtain ⟨start, first, packets, replies, reached, packet, call, behind, after, last, hpacketsStart,
    hitems, hcarriedOut, hopcode, hpacket, hreserved, hsameSession, hsameEvents⟩ :=
    decode_failed h (fun _ => SessionError.noConfusion)
  refine ⟨start, first, packets, replies, reached, packet, call, behind, hpacketsStart, hitems,
    hcarriedOut, hopcode, fun huncalled => ?_⟩
  obtain ⟨hmem, -⟩ := CallDescriptor.ofOpcode?_eq_some hopcode
  have hunqueuedFirst : first.table.pending = [] := by
    obtain ⟨_, _, _, rfl⟩ := onlyReserves_of_start hpacketsStart
    exact hpending
  obtain ⟨_, _, _, rfl⟩ := hreserved
  rw [show decoded.events = _ from hsameEvents] at huncalled
  rw [show decoded.session = _ from hsameSession]
  -- The packet has destroyed what it names and called, or it has destroyed nothing but what
  -- precedes a repetition.
  rcases runPacket_destroys host hmem packet.payload (hcarriedOut.unqueued hunqueuedFirst) with
    ⟨_, _, _, _, _, _, hdispatches⟩ | ⟨cause, _, hsame, _, hspared⟩
  · rw [hpacket] at hdispatches
    exact absurd (hdispatches.symm.trans huncalled) (by simp)
  · cases hpacket.symm.trans hsame
    rcases hspared with hwithout | ⟨again, hfatal, hinterrupted⟩
    · exact Or.inl fun other => hwithout.resolve_eq List.not_mem_nil other
    · cases hfatal
      exact Or.inr hinterrupted

/-- The guest destroys the fence 12, which nobody knows. -/
def strayFencePacket : Packet :=
  ⟨20036, [7, 0, 0, 0, 0, 0, 0, 0, 12, 0, 0, 0, 0, 0, 0, 0, 0, 0, 0, 0, 0, 0, 0, 0]⟩

/-- The session is over, and the objects that it knows live on. -/
theorem resolve_of_unknownHandle_strayFence :
    let buffer := strayFencePacket.encode
    let decoded := decode readyHost fenceSession buffer .unbounded
    fenceSession.table.pending = [] ∧ decoded.outcome = .error (.boxing (.unknownHandle 12)) ∧
      ∃ start first packets replies reached packet call behind,
        packetsStart readyHost buffer { fenceSession with sink := .unbounded } =
        some (start, first) ∧
        PacketWalk.items (buffer.drop start) start = packets.map .ok ++ .ok packet :: behind ∧
        CarriedOut readyHost packets replies first reached ∧
        CallDescriptor.ofOpcode? packet.opcode = some call ∧
        (dispatches decoded.events = dispatches reached.events →
          (∀ other, decoded.session.table.resolve other = reached.table.resolve other) ∨
          Interrupted (call.doomed packet.payload) 12 reached.table decoded.session.table) := by
  intro buffer decoded
  have hfailed : decoded.outcome = .error (.boxing (.unknownHandle 12)) := by
    obtain ⟨last, hfailed⟩ : ∃ last, runPacket readyHost .destroyFence strayFencePacket.payload
        { fenceSession with sink := .unbounded }
          = .error (.fatal (.boxing (.unknownHandle 12))) last := ⟨_, rfl⟩
    have hframe : Packet.frame buffer 0 = .ok strayFencePacket := rfl
    have hopcode : CallDescriptor.ofOpcode? strayFencePacket.opcode = some .destroyFence := rfl
    rw [show decoded = _ from decode_of_not_awaits rfl buffer .unbounded,
      runPackets_of_known hframe hopcode, hfailed]
    rfl
  exact ⟨rfl, hfailed, resolve_of_unknownHandle rfl hfailed⟩

/-- The guest frees the command buffers that it knows as 13 and 15, and the first one once more. -/
def freeTwicePacket : Packet :=
  ⟨20089, [7, 0, 0, 0, 0, 0, 0, 0, 11, 0, 0, 0, 0, 0, 0, 0, 3, 0, 0, 0, 0, 0, 0, 0, 0, 0, 0, 1,
    13, 0, 0, 0, 0, 0, 0, 0, 15, 0, 0, 0, 0, 0, 0, 0, 13, 0, 0, 0, 0, 0, 0, 0]⟩

/-- The device, the pool and the command buffers are 5, 8, 9 and 10 for the driver. -/
def bufferSession : Session Unit where
  state := ()
  table :=
    { entries := [⟨7, 5, .device⟩, ⟨11, 8, .commandPool⟩, ⟨13, 9, .commandBuffer⟩,
        ⟨15, 10, .commandBuffer⟩] }

/-- The packet ends the session. -/
theorem decode_freeTwicePacket : ∃ last,
    decode readyHost bufferSession freeTwicePacket.encode .unbounded
      = Decoded.ofResult (.error (.boxing (.unknownHandle 13)) last) ∧
      last.events = [] ∧ last.table.entries = [⟨7, 5, .device⟩, ⟨11, 8, .commandPool⟩] := by
  obtain ⟨last, hpacket, hunseen, hentries⟩ : ∃ last,
      runPacket readyHost .freeCommandBuffers freeTwicePacket.payload
          { bufferSession with sink := .unbounded }
        = .error (.fatal (.boxing (.unknownHandle 13))) last ∧
      last.events = [] ∧ last.table.entries = [⟨7, 5, .device⟩, ⟨11, 8, .commandPool⟩] :=
    ⟨_, rfl, rfl, rfl⟩
  have hframe : Packet.frame freeTwicePacket.encode 0 = .ok freeTwicePacket := rfl
  have hopcode : CallDescriptor.ofOpcode? freeTwicePacket.opcode = some .freeCommandBuffers := rfl
  refine ⟨last, ?_, hunseen, hentries⟩
  rw [decode_of_not_awaits rfl, runPackets_of_known hframe hopcode, hpacket]

/-- Nobody was called, and both command buffers are gone. -/
theorem unresolved_freeTwicePacket :
    let decoded := decode readyHost bufferSession freeTwicePacket.encode .unbounded
    bufferSession.table.pending = [] ∧
      decoded.outcome = .error (.boxing (.unknownHandle 13)) ∧ decoded.events = [] ∧
      bufferSession.table.resolve 13 = .ok 9 ∧ bufferSession.table.resolve 15 = .ok 10 ∧
      decoded.session.table.resolve 13 = .error (.unknownHandle 13) ∧
      decoded.session.table.resolve 15 = .error (.unknownHandle 15) := by
  intro decoded
  obtain ⟨last, hdecode, hunseen, hentries⟩ := decode_freeTwicePacket
  rw [show decoded = _ from hdecode]
  refine ⟨rfl, rfl, hunseen, rfl, rfl, ?_, ?_⟩
  · rw [Decoded.ofResult, resolve, find?, hentries]
    rfl
  · rw [Decoded.ofResult, resolve, find?, hentries]
    rfl

end Session

end CallStream
