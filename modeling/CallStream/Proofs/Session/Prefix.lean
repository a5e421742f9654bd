import CallStream.Proofs.Framing
import CallStream.Proofs.Session.Packet
import CallStream.Proofs.Session.Splitting
import Mathlib.Algebra.GroupWithZero.Nat

/-!
# Which packets are carried out

A session carries out packets as long as a walk over the buffer meets some, and it stops where the
walk ends, or before a packet that it does not know or cannot read. So what it carries out is a
prefix of what the walk meets: each packet once, in order, with its reply.

## Main results

* `CarriedOut`: packets that are carried out one behind the other, each with its reply.
* `Ends`, `runPackets_ends`: the packets of a run are the first ones of the walk, and how it ends.
* `decode_prefix`: what is consumed, called, replied and reported of a buffer.
-/

namespace CallStream

/-! ### The walk -/

namespace PacketWalk

/-- What a walk meets from a place on: packets, and the failure that ends it, if one does. A walk
knows nothing of calls, so it goes on where a session stops. -/
def items (bytes : Bytes) (offset : Nat) : List (Except FrameError Packet) :=
  (run { rest := bytes, consumed := offset }).1.map (·.1)

/-- A walk that met all bytes is over. -/
theorem items_nil (offset : Nat) : items [] offset = [] := by
  rw [items, run_of_over (next?_nil offset false), List.map_nil]

/-- A walk ends with the first failure. -/
theorem items_of_frame_error {rest : Bytes} {offset : Nat} {cause : FrameError}
    (hisEmpty : rest.isEmpty = false) (hframe : Packet.frame rest offset = .error cause) :
    items rest offset = [.error cause] := by
  rw [items, run_of_step (next?_of_frame_error hisEmpty hframe),
    run_of_over (next?_failed rest offset), List.map_singleton]

/-- A walk goes on behind a packet. -/
theorem items_of_frame {rest : Bytes} {offset : Nat} {packet : Packet}
    (hframe : Packet.frame rest offset = .ok packet) :
    items rest offset
      = .ok packet :: items (rest.drop packet.length) (offset + packet.length) := by
  rw [items, run_of_step (next?_of_frame hframe), List.map_cons, items]

/-- What a walk meets first is framed, and the walk goes on behind it. -/
theorem frame_of_items {rest : Bytes} {offset : Nat} {packet : Packet}
    {behind : List (Except FrameError Packet)} (h : items rest offset = .ok packet :: behind) :
    Packet.frame rest offset = .ok packet ∧
      items (rest.drop packet.length) (offset + packet.length) = behind := by
  cases hisEmpty : rest.isEmpty with
  | true =>
      rw [List.isEmpty_iff.mp hisEmpty, items_nil] at h
      cases h
  | false =>
      cases hframe : Packet.frame rest offset with
      | error cause =>
          rw [items_of_frame_error hisEmpty hframe] at h
          cases h
      | ok first =>
          rw [items_of_frame hframe] at h
          cases h
          exact ⟨rfl, rfl⟩

/-- Behind some packets, a walk goes on as if it had started there. -/
theorem items_drop {packets : List Packet} {rest : Bytes} {offset : Nat}
    {behind : List (Except FrameError Packet)} (h : items rest offset = packets.map .ok ++ behind) :
    items (rest.drop (packets.map Packet.length).sum) (offset + (packets.map Packet.length).sum)
      = behind := by
  induction packets generalizing rest offset with
  | nil => exact h
  | cons packet packets ih =>
      obtain ⟨-, hitems⟩ := frame_of_items h
      rw [List.map_cons, List.sum_cons, ← List.drop_drop, ← Nat.add_assoc]
      exact ih hitems

end PacketWalk

namespace Session

open Execution

variable {σ : Type} {host : Collaborators σ}

/-! ### Packets one behind the other -/

/-- The packets are carried out one behind the other, each as the call of its opcode, and each is
answered with its reply. -/
inductive CarriedOut (host : Collaborators σ) :
    (packets : List Packet) → (replies : List Bytes) → (before after : Run σ) → Prop
  | nil (run : Run σ) : CarriedOut host [] [] run run
  | cons {packet : Packet} {call : CallDescriptor} {packets : List Packet} {replies : List Bytes}
      {run middle after : Run σ} (hopcode : CallDescriptor.ofOpcode? packet.opcode = some call)
      (hpacket : runPacket host call packet.payload run = .ok () middle)
      (hrest : CarriedOut host packets replies middle after) :
      CarriedOut host (packet :: packets) (writeback host call packet.payload run :: replies)
        run after

namespace CarriedOut

variable {packets : List Packet} {replies : List Bytes} {before after : Run σ}

/-- Each packet calls once, in order. -/
theorem dispatches_eq (h : CarriedOut host packets replies before after) :
    (dispatches after.events).map (·.call?)
      = (dispatches before.events).map (·.call?)
        ++ packets.map fun packet => CallDescriptor.ofOpcode? packet.opcode := by
  induction h with
  | nil run => rw [List.map_nil, List.append_nil]
  | cons hopcode hpacket hcarriedOut ih =>
      obtain ⟨event, hcall, hdispatches⟩ := runPacket_calls_once hpacket
      rw [ih, hdispatches, List.map_append, List.map_cons, List.map_nil, hcall,
        List.map_cons, hopcode, List.append_assoc, List.singleton_append]

/-- Each packet replies once, in order. -/
theorem sink_eq (h : CarriedOut host packets replies before after) :
    after.sink = before.sink.taking replies := by
  induction h with
  | nil run => exact (Sink.taking_nil _).symm
  | cons hopcode hpacket hcarriedOut ih =>
      rw [ih, (runPacket_replies hpacket).2, Sink.taking_taking, List.singleton_append]

/-- The bytes of the packets are enough to carry them out. -/
theorem runPackets_take (h : CarriedOut host packets replies before after) {rest : Bytes}
    {offset : Nat} {behind : List (Except FrameError Packet)}
    (hitems : PacketWalk.items rest offset = packets.map .ok ++ behind) :
    runPackets host offset (rest.take (packets.map Packet.length).sum) before
      = .ok ⟨offset + (packets.map Packet.length).sum, .drained⟩ after := by
  induction h generalizing rest offset with
  | nil run => rw [List.map_nil, List.sum_nil, List.take_zero, runPackets_nil, Nat.add_zero]
  | @cons packet call packets replies run middle after hopcode hpacket hcarriedOut ih =>
      rw [List.map_cons, List.cons_append] at hitems
      obtain ⟨hframe, hmetLater⟩ := PacketWalk.frame_of_items hitems
      rw [List.map_cons, List.sum_cons]
      rw [runPackets_of_known (Packet.frame_take hframe (Nat.le_add_right ..)) hopcode, hpacket]
      dsimp only
      rw [List.drop_take, Nat.add_sub_cancel_left, ih hmetLater, Nat.add_assoc]

end CarriedOut

/-- A session that gets the bytes of the packets only carries them out, and uses them up. -/
theorem CarriedOut.decode_take {packets : List Packet} {replies : List Bytes} {session : Session σ}
    {sink : Sink} {reached : Run σ}
    (h : CarriedOut host packets replies { session with sink } reached)
    (hunarmed : session.awaitsHandles = false) {buffer : Bytes}
    {behind : List (Except FrameError Packet)}
    (hitems : PacketWalk.items buffer 0 = packets.map .ok ++ behind) :
    decode host session (buffer.take (packets.map Packet.length).sum) sink
      = Decoded.ofResult (.ok ⟨(packets.map Packet.length).sum, .drained⟩ reached) := by
  rw [decode_of_not_awaits hunarmed, h.runPackets_take hitems, Nat.zero_add]

/-! ### Stops -/

/-- Whether a session that met `next?` behind the packets that it carried out has reason to stop.
Each reason is read off the bytes, without the session. -/
def Stops (next? : Option (Except FrameError Packet)) : StopReason → Prop
  | .drained => next? = none
  | .needMoreData => ∃ cause, next? = some (.error cause) ∧ cause.isIncomplete = true
  | .malformedPacket cause => next? = some (.error cause) ∧ cause.isIncomplete = false
  | .unknownOpcode opcode => ∃ packet, next? = some (.ok packet) ∧ packet.opcode = opcode ∧
      CallDescriptor.ofOpcode? opcode = none
  | .malformedCall name _ => ∃ packet call, next? = some (.ok packet) ∧
      CallDescriptor.ofOpcode? packet.opcode = some call ∧ call.name = name

namespace Stops

variable {next? : Option (Except FrameError Packet)} {stop : StopReason}

/-- A run ends for want of packets exactly if the walk is over. -/
theorem drained_iff (h : Stops next? stop) : stop = .drained ↔ next? = none := by
  constructor
  · rintro rfl
    exact h
  · rintro rfl
    cases stop with
    | drained => rfl
    | _ => simp [Stops] at h

/-- It waits for more exactly if the walk meets a packet that is not there to its end. -/
theorem needMoreData_iff (h : Stops next? stop) :
    stop = .needMoreData ↔
      ∃ offset needed available, next? = some (.error (.incomplete offset needed available)) := by
  constructor
  · rintro rfl
    obtain ⟨cause, hsome, hincomplete⟩ := h
    cases cause with
    | incomplete offset needed available => exact ⟨offset, needed, available, hsome⟩
    | badLength offset length => cases hincomplete
  · rintro ⟨offset, needed, available, rfl⟩
    cases stop with
    | needMoreData => rfl
    | malformedPacket cause =>
        obtain ⟨hsome, hisIncomplete⟩ := h
        cases hsome
        cases hisIncomplete
    | _ => simp [Stops] at h

/-- It stops before a packet of bad length exactly if the walk does. -/
theorem malformedPacket_iff (h : Stops next? stop) (cause : FrameError) :
    stop = .malformedPacket cause ↔
      ∃ offset length, cause = .badLength offset length ∧ next? = some (.error cause) := by
  constructor
  · rintro rfl
    obtain ⟨hsome, hisIncomplete⟩ := h
    cases cause with
    | incomplete offset needed available => cases hisIncomplete
    | badLength offset length => exact ⟨offset, length, rfl, hsome⟩
  · rintro ⟨offset, length, rfl, rfl⟩
    cases stop with
    | malformedPacket cause =>
        obtain ⟨hsome, -⟩ := h
        cases hsome
        rfl
    | needMoreData =>
        obtain ⟨cause, hsome, hincomplete⟩ := h
        cases hsome
        cases hincomplete
    | _ => simp [Stops] at h

/-- It stops before a packet that is not known exactly if the walk meets it. -/
theorem unknownOpcode_iff (h : Stops next? stop) (opcode : UInt32) :
    stop = .unknownOpcode opcode ↔
      ∃ packet, next? = some (.ok packet) ∧ packet.opcode = opcode ∧
        CallDescriptor.ofOpcode? opcode = none := by
  constructor
  · rintro rfl
    exact h
  · rintro ⟨packet, rfl, rfl, hopcode⟩
    cases stop with
    | unknownOpcode opcode =>
        obtain ⟨met, hsome, rfl, -⟩ := h
        cases hsome
        rfl
    | malformedCall name cause =>
        obtain ⟨met, call, hsome, hknown, -⟩ := h
        cases hsome
        cases hknown.symm.trans hopcode
    | _ => simp [Stops] at h

end Stops

/-- Where bytes are left, the walk has not met all of them. -/
theorem unmet {rest : Bytes} {item : Except FrameError Packet}
    {behind : List (Except FrameError Packet)} (hne : ¬rest.isEmpty = true) :
    (([] : List Packet).map Packet.length).sum = rest.length ↔ item :: behind = [] := by
  have hsome : rest.length ≠ 0 := by simpa using hne
  simpa using hsome.symm

/-- How a run ends behind the packets that it carried out, by what the walk meets next. Where that
is a packet that cannot be carried out, the run ends with what the packet left. -/
inductive Ends (host : Collaborators σ) (reached : Run σ) (consumed : Nat) :
    (next? : Option (Except FrameError Packet)) →
      (result : EStateM.Result SessionError (Run σ) Progress) → Prop
  | drained : Ends host reached consumed none (.ok ⟨consumed, .drained⟩ reached)
  | unframed (cause : FrameError) :
      Ends host reached consumed (some (.error cause)) (.ok ⟨consumed,
        if cause.isIncomplete then .needMoreData else .malformedPacket cause⟩ reached)
  | unknown {packet : Packet} (hopcode : CallDescriptor.ofOpcode? packet.opcode = none) :
      Ends host reached consumed (some (.ok packet))
        (.ok ⟨consumed, .unknownOpcode packet.opcode⟩ reached)
  | refused {packet : Packet} {call : CallDescriptor} {cause : WireError Empty} {after : Run σ}
      (hknown : CallDescriptor.ofOpcode? packet.opcode = some call)
      (hpacket : runPacket host call packet.payload reached = .error (.malformed cause) after) :
      Ends host reached consumed (some (.ok packet))
        (.ok ⟨consumed, .malformedCall call.name cause⟩ after)
  | failed {packet : Packet} {call : CallDescriptor} {cause : SessionError} {after : Run σ}
      (hknown : CallDescriptor.ofOpcode? packet.opcode = some call)
      (hfailed : runPacket host call packet.payload reached = .error (.fatal cause) after) :
      Ends host reached consumed (some (.ok packet)) (.error cause after)

/-- The packets that a run carries out are the first ones of the walk, and it ends for what the walk
meets next. -/
theorem runPackets_ends (host : Collaborators σ) (offset : Nat) (rest : Bytes) (run : Run σ) :
    ∃ packets replies reached behind, CarriedOut host packets replies run reached ∧
      PacketWalk.items rest offset = packets.map .ok ++ behind ∧
      ((packets.map Packet.length).sum = rest.length ↔ behind = []) ∧
      Ends host reached (offset + (packets.map Packet.length).sum) behind.head?
        (runPackets host offset rest run) := by
  -- The packets are carried out up to the one that ends the run; in every case but one that is the
  -- first that is left.
  fun_induction runPackets host offset rest run with
  | case1 offset rest run hisEmpty =>
      rw [List.isEmpty_iff.mp hisEmpty]
      exact ⟨[], [], _, [], .nil _, PacketWalk.items_nil offset, by simp, .drained⟩
  | case2 offset rest run hne cause hframe =>
      exact ⟨[], [], _, _, .nil _, PacketWalk.items_of_frame_error (by simpa using hne) hframe,
        unmet hne, .unframed cause⟩
  | case3 offset rest run hne packet hframe hopcode =>
      exact ⟨[], [], _, _, .nil _, PacketWalk.items_of_frame hframe, unmet hne, .unknown hopcode⟩
  | case4 offset rest run hne packet hframe call hknown middle hpacket ih =>
      obtain ⟨packets, replies, reached, behind, hcarriedOut, hitems, hiff, hends⟩ := ih
      have hinside := Packet.frame_length_le hframe
      refine ⟨packet :: packets, _, reached, behind, .cons hknown hpacket hcarriedOut, ?_, ?_, ?_⟩
      · rw [PacketWalk.items_of_frame hframe, hitems, List.map_cons, List.cons_append]
      · rw [← hiff, List.map_cons, List.sum_cons, List.length_drop]
        omega
      · rw [List.map_cons, List.sum_cons, ← Nat.add_assoc]
        exact hends
  | case5 offset rest run hne packet hframe call hknown cause middle hrefused =>
      exact ⟨[], [], _, _, .nil _, PacketWalk.items_of_frame hframe, unmet hne,
        .refused hknown hrefused⟩
  | case6 offset rest run hne packet hframe call hknown cause middle hfailed =>
      exact ⟨[], [], _, _, .nil _, PacketWalk.items_of_frame hframe, unmet hne,
        .failed hknown hfailed⟩

/-- A run that stops has reason to, and nothing behind the packets that it carried out shows in the
calls or in the sink. -/
theorem Ends.stops {reached after : Run σ} {consumed : Nat}
    {next? : Option (Except FrameError Packet)} {progress : Progress}
    (h : Ends host reached consumed next? (.ok progress after))
    (hkeeps : (∃ cause, progress.stop
      = .malformedCall CallDescriptor.invalidateMappedMemoryRanges.name cause) → KeepsRanges host) :
    progress.consumed = consumed ∧ Stops next? progress.stop ∧
      after.sink = reached.sink ∧ dispatches after.events = dispatches reached.events := by
  cases h with
  | drained => exact ⟨rfl, rfl, rfl, rfl⟩
  | unframed cause =>
      refine ⟨rfl, ?_, rfl, rfl⟩
      cases hincomplete : cause.isIncomplete with
      | true => exact ⟨cause, rfl, hincomplete⟩
      | false => exact ⟨rfl, hincomplete⟩
  | unknown hopcode => exact ⟨rfl, ⟨_, rfl, rfl, hopcode⟩, rfl, rfl⟩
  | @refused packet call cause _ hknown hpacket =>
      obtain ⟨hmem, -⟩ := CallDescriptor.ofOpcode?_eq_some hknown
      have hkept (hname : call.name = CallDescriptor.invalidateMappedMemoryRanges.name) :
          KeepsRanges host := hkeeps ⟨cause, by rw [hname]⟩
      obtain ⟨hsame, -⟩ := runPacket_malformed hmem hkept hpacket
      exact ⟨rfl, ⟨packet, call, rfl, hknown, rfl⟩, by rw [hsame], by rw [hsame]⟩

/-- A run that stops before a call that cannot be read is left as its packet found it, but for
mapped memory and what was cleaned up. -/
theorem Ends.refused_of_stop {reached after : Run σ} {consumed : Nat}
    {next? : Option (Except FrameError Packet)} {progress : Progress} {name : String}
    {cause : WireError Empty} (h : Ends host reached consumed next? (.ok progress after))
    (hstop : progress.stop = .malformedCall name cause)
    (hkeeps : name = CallDescriptor.invalidateMappedMemoryRanges.name → KeepsRanges host) :
    progress.consumed = consumed ∧ ∃ packet call, next? = some (.ok packet) ∧
      CallDescriptor.ofOpcode? packet.opcode = some call ∧ call.name = name ∧
      after = { reached with
        state := after.state
        table := reached.table.discardDestroys.releasePreserved
        scratch := reached.scratch.reset
        writer := reached.writer.clear } ∧
      Refilled host reached.state after.state ∧
      (call.route ≠ .flushMappedRanges → after.state = reached.state) := by
  cases h with
  | drained => cases hstop
  | unframed cause =>
      dsimp only at hstop
      split at hstop <;> cases hstop
  | unknown hopcode => cases hstop
  | @refused packet call cause _ hknown hpacket =>
      cases hstop
      obtain ⟨hmem, -⟩ := CallDescriptor.ofOpcode?_eq_some hknown
      exact ⟨rfl, packet, call, rfl, hknown, rfl, runPacket_malformed hmem hkeeps hpacket⟩

/-- A run that fails has left it to its packet to end the session. -/
theorem Ends.failed_of_error {reached after : Run σ} {consumed : Nat}
    {next? : Option (Except FrameError Packet)} {cause : SessionError}
    (h : Ends host reached consumed next? (.error cause after)) :
    ∃ packet call, next? = some (.ok packet) ∧ CallDescriptor.ofOpcode? packet.opcode = some call ∧
      runPacket host call packet.payload reached = .error (.fatal cause) after := by
  cases h with
  | failed hopcode hpacket => exact ⟨_, _, rfl, hopcode, hpacket⟩

/-- What a session carries out of a buffer is a prefix of the packets in it: it is done with their
bytes, they call once each and in order, and the sink has taken their replies, one behind the other.
Why it stops is told by what the walk meets next.

A call that invalidates memory looks its ranges up only when it is over. If it can be stopped for
bytes, the ranges that were read have to get to the driver and back. -/
theorem decode_prefix {session : Session σ} (hunarmed : session.awaitsHandles = false)
    {buffer : Bytes} {sink : Sink} {progress : Progress}
    (h : (decode host session buffer sink).outcome = .ok progress)
    (hkeeps : (∃ cause, progress.stop
      = .malformedCall CallDescriptor.invalidateMappedMemoryRanges.name cause) → KeepsRanges host) :
    ∃ packets replies reached behind,
      PacketWalk.items buffer 0 = packets.map .ok ++ behind ∧
      progress.consumed = (packets.map Packet.length).sum ∧
      CarriedOut host packets replies { session with sink } reached ∧
      (dispatches (decode host session buffer sink).events).map (·.call?)
        = packets.map (fun packet => CallDescriptor.ofOpcode? packet.opcode) ∧
      (decode host session buffer sink).sink = sink.taking replies ∧
      (progress.stop = .drained ↔ progress.consumed = buffer.length) ∧
      (progress.stop = .needMoreData ↔ ∃ offset needed available,
        behind.head? = some (.error (.incomplete offset needed available))) ∧
      (∀ cause, progress.stop = .malformedPacket cause ↔ ∃ offset length,
        cause = .badLength offset length ∧ behind.head? = some (.error cause)) ∧
      (∀ opcode, progress.stop = .unknownOpcode opcode ↔ ∃ packet,
        behind.head? = some (.ok packet) ∧ packet.opcode = opcode ∧
          CallDescriptor.ofOpcode? opcode = none) ∧
      (∀ name cause, progress.stop = .malformedCall name cause → ∃ packet call,
        behind.head? = some (.ok packet) ∧ CallDescriptor.ofOpcode? packet.opcode = some call ∧
          call.name = name) := by
  rw [decode_of_not_awaits hunarmed] at h ⊢
  cases hpackets : runPackets host 0 buffer { session with sink } with
  | error cause after =>
      rw [hpackets] at h
      cases h
  | ok made after =>
      rw [hpackets] at h
      obtain rfl : made = progress := Except.ok.inj h
      obtain ⟨packets, replies, reached, behind, hcarriedOut, hitems, hiff, hends⟩ :=
        runPackets_ends host 0 buffer { session with sink }
      rw [hpackets] at hends
      -- All that the clauses say about the end follows from how the run ends.
      obtain ⟨hconsumed, hstops, hsink, hcalls⟩ := hends.stops hkeeps
      rw [Nat.zero_add] at hconsumed
      refine ⟨packets, replies, reached, behind, hitems, hconsumed, hcarriedOut, ?_, ?_, ?_,
        hstops.needMoreData_iff, hstops.malformedPacket_iff, hstops.unknownOpcode_iff, ?_⟩
      · exact (congrArg (List.map (·.call?)) hcalls).trans hcarriedOut.dispatches_eq
      · exact hsink.trans hcarriedOut.sink_eq
      · rw [hstops.drained_iff, List.head?_eq_none_iff, ← hiff, hconsumed]
      · intro name cause hstop
        rw [hstop] at hstops
        exact hstops

/-- The guest lists one range to invalidate and sends none. -/
def cutInvalidatePacket : Packet := ⟨20026, [7, 0, 0, 0, 0, 0, 0, 0, 1, 0, 0, 0]⟩

/-- It is refused where the device is known. -/
theorem runPacket_cutInvalidatePacket {run : Run Unit} (htable : run.table = deviceSession.table) :
    ∃ last, runPacket readyHost .invalidateMappedMemoryRanges cutInvalidatePacket.payload run
      = .error (.malformed (.unexpectedEnd 12 1 0)) last := by
  obtain ⟨⟨⟩⟩ := run
  cases htable
  exact ⟨_, rfl⟩

/-- The surroundings of the example leave ranges alone, as all parameters. -/
theorem keepsRanges_readyHost : KeepsRanges readyHost where
  adapted _ dispatch _ hnames := get?_withDispatch dispatch hnames
  driven _ _ _ _ _ hdrive := by
    cases hdrive
    rfl

/-- The session waits, and stops before the ranges that are missing. -/
theorem decode_prefix_cutInvalidatePacket :
    let buffer := waitPacket ++ cutInvalidatePacket.encode
    let stop := StopReason.malformedCall "vkInvalidateMappedMemoryRanges" (.unexpectedEnd 12 1 0)
    deviceSession.awaitsHandles = false ∧
      (decode readyHost deviceSession buffer .unbounded).outcome = .ok ⟨16, stop⟩ ∧
      KeepsRanges readyHost ∧
      ∃ packets replies reached behind,
        PacketWalk.items buffer 0 = packets.map .ok ++ behind ∧
        16 = (packets.map Packet.length).sum ∧
        CarriedOut readyHost packets replies { deviceSession with sink := .unbounded } reached ∧
        (dispatches (decode readyHost deviceSession buffer .unbounded).events).map (·.call?)
          = packets.map (fun packet => CallDescriptor.ofOpcode? packet.opcode) ∧
        ∃ packet call, behind.head? = some (.ok packet) ∧
          CallDescriptor.ofOpcode? packet.opcode = some call ∧
            call.name = "vkInvalidateMappedMemoryRanges" := by
  intro buffer stop
  have houtcome : (decode readyHost deviceSession buffer .unbounded).outcome = .ok ⟨16, stop⟩ := by
    obtain ⟨middle, hwaited, htable⟩ : ∃ middle,
        runPacket readyHost .deviceWaitIdle [7, 0, 0, 0, 0, 0, 0, 0]
            { deviceSession with sink := .unbounded } = .ok () middle ∧
          middle.table = deviceSession.table := ⟨_, rfl, rfl⟩
    -- The second packet lists one range and ends in the middle of it.
    obtain ⟨last, hrefused⟩ := runPacket_cutInvalidatePacket htable
    have hframe : Packet.frame buffer 0 = .ok ⟨20020, [7, 0, 0, 0, 0, 0, 0, 0]⟩ := rfl
    have hsecond : Packet.frame cutInvalidatePacket.encode 16 = .ok cutInvalidatePacket := rfl
    have hwaits : CallDescriptor.ofOpcode? 20020 = some .deviceWaitIdle := rfl
    have hinvalidates : CallDescriptor.ofOpcode? cutInvalidatePacket.opcode
        = some .invalidateMappedMemoryRanges := rfl
    have hresumed : runPackets readyHost 16 cutInvalidatePacket.encode middle
        = .ok ⟨16, stop⟩ last := by
      rw [runPackets_of_known hsecond hinvalidates, hrefused]
      rfl
    have hpackets : runPackets readyHost 0 buffer { deviceSession with sink := .unbounded }
        = .ok ⟨16, stop⟩ last := by
      rw [runPackets_of_known hframe hwaits, hwaited]
      exact hresumed
    rw [decode_of_not_awaits rfl, hpackets]
    rfl
  obtain ⟨packets, replies, reached, behind, hitems, hconsumed, hcarriedOut, hcalls, -, -, -, -, -,
    hrefused⟩ :=
    decode_prefix rfl houtcome fun _ => keepsRanges_readyHost
  exact ⟨rfl, houtcome, keepsRanges_readyHost, packets, replies, reached, behind, hitems, hconsumed,
    hcarriedOut, hcalls, hrefused _ _ rfl⟩

/-- A global state that puts a number in the place of the ranges. -/
def rangeHidingHost : Collaborators Unit :=
  { readyHost with
    toHost := fun _ params => pure (params.map fun (name, value) =>
      (name, if name = MappedRange.paramName then .uint 0 else value)) }

/-- The guest invalidates no ranges at all. -/
def emptyInvalidatePacket : Packet := ⟨20026, [7, 0, 0, 0, 0, 0, 0, 0, 0, 0, 0, 0]⟩

/-- Where the global state has hidden the ranges, the packet is refused when its call is over. -/
theorem decode_emptyInvalidatePacket : ∃ last,
    decode rangeHidingHost deviceSession emptyInvalidatePacket.encode .unbounded
      = Decoded.ofResult (.ok ⟨0, .malformedCall "vkInvalidateMappedMemoryRanges"
          (.valueMismatch MappedRange.paramName)⟩ last) ∧
      (dispatches last.events).map (·.call?) = [some .invalidateMappedMemoryRanges] := by
  obtain ⟨last, hpacket, hmap⟩ : ∃ last,
      runPacket rangeHidingHost .invalidateMappedMemoryRanges emptyInvalidatePacket.payload
          { deviceSession with sink := .unbounded }
        = .error (.malformed (.valueMismatch MappedRange.paramName)) last ∧
      (dispatches last.events).map (·.call?) = [some .invalidateMappedMemoryRanges] := ⟨_, rfl, rfl⟩
  have hframe : Packet.frame emptyInvalidatePacket.encode 0 = .ok emptyInvalidatePacket := rfl
  have hopcode : CallDescriptor.ofOpcode? emptyInvalidatePacket.opcode
      = some .invalidateMappedMemoryRanges := rfl
  refine ⟨last, ?_, hmap⟩
  rw [decode_of_not_awaits rfl, runPackets_of_known hframe hopcode, hpacket]
  rfl

/-- It does not do that the driver leaves the ranges as it gets them: where the global state has
changed them, a packet calls the driver and is not carried out to its end. -/
theorem not_prefix_emptyInvalidatePacket :
    let buffer := emptyInvalidatePacket.encode
    let decoded := decode rangeHidingHost deviceSession buffer .unbounded
    (∀ request state after outcome, rangeHidingHost.drive request state = .ok outcome after →
        Record.get? outcome.args MappedRange.paramName
          = Record.get? request.args MappedRange.paramName) ∧
      deviceSession.awaitsHandles = false ∧
      decoded.outcome = .ok ⟨0, .malformedCall "vkInvalidateMappedMemoryRanges"
        (.valueMismatch MappedRange.paramName)⟩ ∧
      ¬ ∃ (packets : List Packet) (behind : List (Except FrameError Packet)),
        PacketWalk.items buffer 0 = packets.map .ok ++ behind ∧
        0 = (packets.map Packet.length).sum ∧
        (dispatches decoded.events).map (·.call?)
          = packets.map (fun packet => CallDescriptor.ofOpcode? packet.opcode) := by
  intro buffer decoded
  obtain ⟨last, hdecode, hmap⟩ := decode_emptyInvalidatePacket
  rw [show decoded = _ from hdecode]
  refine ⟨fun request state after outcome hdrive => ?_, rfl, rfl, ?_⟩
  · cases hdrive
    rfl
  · rintro ⟨packets, behind, -, hconsumed, hcalls⟩
    cases packets with
    | nil => cases hmap.symm.trans hcalls
    | cons packet packets =>
        rw [List.map_cons, List.sum_cons] at hconsumed
        have := packet.length_pos
        omega

end Session

end CallStream
