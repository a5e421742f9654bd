import CallStream.Proofs.Session.Residue

/-!
# A packet that is refused

A session stops before a packet whose bytes do not spell its call. By then handles may have been
looked up and queued, and flushed bytes may have been copied into mapped memory. The memory stays as
it is; everything else is as if the buffer had ended in front of the packet: nobody was called, the
sink took nothing, and the table is that of the packets before. So a session goes on with a better
packet as it would have without the bad one.

This holds as long as nobody changes the ranges of a call that invalidates memory. Those are looked
up once more when the call is over, and if they are gone the packet is refused too late.

## Main results

* `decode_refused`: what a session is behind a packet that it refused.
* `drove_emptyInvalidatePacket`: it is refused too late where the ranges are changed.
-/

namespace CallStream

namespace Session

open Execution

variable {σ : Type} {host : Collaborators σ}

/-- A packet that is refused has no effect. Behind it, a session is what it was behind the bytes in
front of the packet, and nothing was called, logged, recorded or replied since. At most a call that
flushes memory has filled some of it. Unless something was left of an earlier packet, there was
nothing to clean up either, and the session differs in that memory only. -/
theorem decode_refused {session : Session σ} (hunarmed : session.awaitsHandles = false)
    (hpending : session.table.pending = []) {buffer : Bytes} {sink : Sink} {consumed : Nat}
    {name : String} {cause : WireError Empty}
    (h : (decode host session buffer sink).outcome = .ok ⟨consumed, .malformedCall name cause⟩)
    (hkeeps : name = CallDescriptor.invalidateMappedMemoryRanges.name → KeepsRanges host) :
    let good := decode host session (buffer.take consumed) sink
    let decoded := decode host session buffer sink
    good.outcome = .ok ⟨consumed, .drained⟩ ∧
      (∃ packet call, Packet.frame (buffer.drop consumed) consumed = .ok packet ∧
        CallDescriptor.ofOpcode? packet.opcode = some call ∧ call.name = name ∧
        (call.route ≠ .flushMappedRanges → decoded.session.state = good.session.state)) ∧
      decoded.events = good.events ∧ decoded.sink = good.sink ∧
      decoded.session = { good.session with
        state := decoded.session.state
        table := good.session.table.releasePreserved
        scratch := good.session.scratch.reset
        writer := good.session.writer.clear } ∧
      decoded.session.table.pending = [] ∧ decoded.session.table.preserved = [] ∧
      Refilled host good.session.state decoded.session.state ∧
      (session.Idle → decoded.session = { good.session with state := decoded.session.state }) := by
  intro good decoded
  have hran : decoded = Decoded.ofResult (runPackets host 0 buffer { session with sink }) :=
    decode_of_not_awaits hunarmed buffer sink
  have houtcome : decoded.outcome = .ok ⟨consumed, .malformedCall name cause⟩ := h
  -- The run is the packets that it carried out and the way it ended, and the good bytes are these
  -- packets.
  obtain ⟨packets, replies, reached, behind, hcarriedOut, hitems, -, hends⟩ :=
    runPackets_ends host 0 buffer { session with sink }
  generalize runPackets host 0 buffer { session with sink } = result at hran hends
  cases result with
  | error failure after =>
      rw [hran] at houtcome
      cases houtcome
  | ok progress after =>
      rw [hran] at houtcome
      obtain rfl : progress = _ := Except.ok.inj houtcome
      obtain ⟨hconsumed, packet, call, hhead, hopcode, rfl, hsame, hrefilled, hunfilled⟩ :=
        hends.refused_of_stop rfl hkeeps
      obtain ⟨later, rfl⟩ := List.head?_eq_some_iff.mp hhead
      -- Packets that are carried out leave no queue, so taking the queue back changes nothing.
      have hnone : reached.table.pending = [] := hcarriedOut.unqueued hpending
      have hdropped : reached.table.discardDestroys = reached.table := by
        rw [BoxTable.discardDestroys, ← hnone]
      rw [hdropped] at hsame
      rw [Nat.zero_add] at hconsumed
      obtain rfl : consumed = (packets.map Packet.length).sum := hconsumed
      obtain ⟨hframe, -⟩ := PacketWalk.frame_of_items (PacketWalk.items_drop hitems)
      rw [Nat.zero_add] at hframe
      have htoSession : after.toSession = { reached.toSession with
          state := after.state
          table := reached.table.releasePreserved
          scratch := reached.scratch.reset
          writer := reached.writer.clear } := congrArg Run.toSession hsame
      rw [hran, show good = _ from hcarriedOut.decode_take hunarmed hitems]
      refine ⟨rfl, ⟨packet, call, hframe, hopcode, rfl, hunfilled⟩, ?_, ?_, htoSession, ?_,
        ?_, hrefilled, fun hidle => ?_⟩
      · exact (congrArg Run.events hsame :)
      · exact (congrArg Run.sink hsame :)
      · exact (congrArg (·.table.pending) htoSession).trans hnone
      · exact congrArg (·.table.preserved) htoSession
      · have hclean : reached.toSession = _ := (hcarriedOut.idle hidle).eq
        exact htoSession.trans
          (congrArg (fun session : Session σ => { session with state := after.state })
          hclean).symm

/-- The guest destroys the fence that it knows as 9, and does not get to the allocator. -/
def cutDestroyPacket : Packet := ⟨20036, [7, 0, 0, 0, 0, 0, 0, 0, 9, 0, 0, 0, 0, 0, 0, 0]⟩

/-- It is refused where the device and the fence are known. -/
theorem runPacket_cutDestroyPacket {run : Run Unit} (htable : run.table = fenceSession.table) :
    ∃ last, runPacket readyHost .destroyFence cutDestroyPacket.payload run
      = .error (.malformed (.unexpectedEnd 16 8 0)) last := by
  obtain ⟨⟨⟩⟩ := run
  cases htable
  exact ⟨_, rfl⟩

/-- By then the fence is queued, and it lives on. -/
theorem decode_refused_cutDestroyPacket :
    let buffer := waitPacket ++ cutDestroyPacket.encode
    let good := decode readyHost fenceSession (buffer.take 16) .unbounded
    let decoded := decode readyHost fenceSession buffer .unbounded
    fenceSession.awaitsHandles = false ∧ fenceSession.table.pending = [] ∧
      decoded.outcome = .ok ⟨16, .malformedCall "vkDestroyFence" (.unexpectedEnd 16 8 0)⟩ ∧
      KeepsRanges readyHost ∧ fenceSession.Idle ∧ good.outcome = .ok ⟨16, .drained⟩ ∧
      decoded.events = good.events ∧ decoded.sink = good.sink ∧ decoded.session = good.session := by
  intro buffer good decoded
  have houtcome : decoded.outcome
      = .ok ⟨16, .malformedCall "vkDestroyFence" (.unexpectedEnd 16 8 0)⟩ := by
    obtain ⟨middle, hwaited, htable⟩ : ∃ middle,
        runPacket readyHost .deviceWaitIdle [7, 0, 0, 0, 0, 0, 0, 0]
            { fenceSession with sink := .unbounded } = .ok () middle ∧
          middle.table = fenceSession.table := ⟨_, rfl, rfl⟩
    obtain ⟨last, hpacket⟩ := runPacket_cutDestroyPacket htable
    have hframe : Packet.frame buffer 0 = .ok ⟨20020, [7, 0, 0, 0, 0, 0, 0, 0]⟩ := rfl
    have hsecond : Packet.frame cutDestroyPacket.encode 16 = .ok cutDestroyPacket := rfl
    have hwaits : CallDescriptor.ofOpcode? 20020 = some .deviceWaitIdle := rfl
    have hdestroys : CallDescriptor.ofOpcode? cutDestroyPacket.opcode = some .destroyFence := rfl
    have hresumed : runPackets readyHost 16 cutDestroyPacket.encode middle
        = .ok ⟨16, .malformedCall "vkDestroyFence" (.unexpectedEnd 16 8 0)⟩ last := by
      rw [runPackets_of_known hsecond hdestroys, hpacket]
      rfl
    have hpackets : runPackets readyHost 0 buffer { fenceSession with sink := .unbounded }
        = .ok ⟨16, .malformedCall "vkDestroyFence" (.unexpectedEnd 16 8 0)⟩ last := by
      rw [runPackets_of_known hframe hwaits, hwaited]
      exact hresumed
    rw [show decoded = _ from decode_of_not_awaits rfl buffer .unbounded, hpackets]
    rfl
  have hidle : fenceSession.Idle := ⟨rfl, rfl, rfl, rfl⟩
  obtain ⟨hdrained, -, hevents, hsink, -, -, -, -, hsame⟩ :=
    decode_refused rfl rfl houtcome fun _ => keepsRanges_readyHost
  exact ⟨rfl, rfl, houtcome, keepsRanges_readyHost, hidle, hdrained, hevents, hsink, hsame hidle⟩

/-- It does not do that the driver leaves the ranges as it gets them: where the global state has
changed them, a packet calls the driver and is refused behind the call. -/
theorem drove_emptyInvalidatePacket :
    let buffer := emptyInvalidatePacket.encode
    let decoded := decode rangeHidingHost deviceSession buffer .unbounded
    (∀ request state after outcome, rangeHidingHost.drive request state = .ok outcome after →
        Record.get? outcome.args MappedRange.paramName
          = Record.get? request.args MappedRange.paramName) ∧
      deviceSession.awaitsHandles = false ∧ deviceSession.table.pending = [] ∧
      decoded.outcome = .ok ⟨0, .malformedCall "vkInvalidateMappedMemoryRanges"
        (.valueMismatch MappedRange.paramName)⟩ ∧
      (decode rangeHidingHost deviceSession (buffer.take 0) .unbounded).events = [] ∧
      (dispatches decoded.events).map (·.call?) = [some .invalidateMappedMemoryRanges] := by
  intro buffer decoded
  obtain ⟨last, hdecode, hmap⟩ := decode_emptyInvalidatePacket
  rw [show decoded = _ from hdecode]
  refine ⟨fun request state after outcome hdrive => ?_, rfl, rfl, rfl, ?_, hmap⟩
  · cases hdrive
    rfl
  · rw [List.take_zero, decode_of_not_awaits rfl, runPackets_nil]
    rfl

end Session

end CallStream
