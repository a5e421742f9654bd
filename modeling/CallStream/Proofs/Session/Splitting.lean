import CallStream.Proofs.Session.History

/-!
# Cutting a stream into buffers

A session that used up a buffer, or that stopped before a packet which is not complete, goes on with
the next buffer as if both had been one. A packet that is framed stays the same when more bytes
arrive, a run goes on where it stopped, and what it did before does not show: a packet does not see
the history (`Indifferent`), and places are counted from the start of each buffer.

## Main results

* `frame_append`: a framed packet is not changed by more bytes.
* `alike_runPackets`: packets are carried out alike over surroundings that are alike; so they are
  behind any history (`indifferent_runPackets`), and whatever clearing handles does
  (`runPackets_clearHandles`).
* `runPackets_append`: a run that stopped for want of bytes goes on where it stopped.
* `decode_append`: two buffers, the second with the rest of the first in front, give what one gives.
-/

namespace CallStream

/-! ### Places -/

/-- The same failure `count` bytes further on. -/
def FrameError.shift (count : Nat) : FrameError → FrameError
  | incomplete offset needed available => incomplete (count + offset) needed available
  | badLength offset length => badLength (count + offset) length

/-- The same reason `count` bytes further on. Only a malformed packet tells where it lies. -/
def StopReason.shift (count : Nat) : StopReason → StopReason
  | malformedPacket cause => malformedPacket (cause.shift count)
  | reason => reason

/-- The same progress `count` bytes further on. -/
def Progress.shift (count : Nat) (progress : Progress) : Progress :=
  ⟨count + progress.consumed, progress.stop.shift count⟩

/-- More bytes would let the session go on. Only behind such a stop does it make sense to send the
rest with more bytes behind it. -/
def StopReason.wantsBytes : StopReason → Bool
  | drained | needMoreData => true
  | _ => false

namespace Packet

/-- A header that is there is there in a longer buffer. -/
theorem header?_append {bytes : Bytes} {header : PacketHeader} (h : header? bytes = some header)
    (suffix : Bytes) : header? (bytes ++ suffix) = some header := by
  unfold header? at h ⊢
  split at h
  · cases h
  · next hnlt =>
      have hle : 8 ≤ bytes.length := Nat.not_lt.mp hnlt
      have hsize : 4 ≤ (bytes.drop 4).length := by
        rw [List.length_drop]
        omega
      rw [← h, if_neg (by rw [List.length_append]; omega),
        List.take_append_of_le_length (by omega), List.drop_append_of_le_length (by omega),
        List.take_append_of_le_length hsize]

/-- A packet that is framed stays the same when more bytes arrive. -/
theorem frame_append {bytes : Bytes} {offset : Nat} {packet : Packet}
    (h : frame bytes offset = .ok packet) (suffix : Bytes) :
    frame (bytes ++ suffix) offset = .ok packet := by
  unfold frame at h ⊢
  cases hheader : header? bytes with
  | none =>
      rw [hheader] at h
      cases h
  | some header =>
      rw [hheader] at h
      rw [header?_append hheader suffix]
      dsimp only at h ⊢
      split at h
      · cases h
      · next hcovers =>
          split at h
          · cases h
          · next hnlt =>
              rw [← h, if_neg hcovers, if_neg (by rw [List.length_append]; omega),
                List.take_append_of_le_length (Nat.not_lt.mp hnlt)]

/-- A header does not need the bytes behind it. -/
theorem header?_take (bytes : Bytes) {count : Nat} (hcovers : headerSize ≤ count) :
    header? (bytes.take count) = header? bytes := by
  have hwide : 8 ≤ count := hcovers
  unfold header?
  by_cases hlt : bytes.length < headerSize
  · rw [if_pos (by rw [List.length_take]; omega), if_pos hlt]
  · rw [if_neg (by rw [List.length_take]; omega), if_neg hlt, List.take_take,
      List.drop_take, List.take_take, Nat.min_eq_left (by omega), Nat.min_eq_left (by omega)]

/-- A framed packet does not need the bytes behind it. -/
theorem frame_take {bytes : Bytes} {offset : Nat} {packet : Packet}
    (h : frame bytes offset = .ok packet) {count : Nat} (hcovers : packet.length ≤ count) :
    frame (bytes.take count) offset = .ok packet := by
  rw [frame, header?_take bytes (Nat.le_trans (Nat.le_add_right ..) hcovers)]
  unfold frame at h
  cases hheader : header? bytes with
  | none =>
      rw [hheader] at h
      cases h
  | some header =>
      rw [hheader] at h
      dsimp only at h ⊢
      split at h
      · cases h
      · next hnlt =>
          split at h
          · cases h
          · next henough =>
              cases h
              -- The packet lies within the bytes that are kept, and with it all that its header
              -- speaks of.
              have hle : header.length.toInt.toNat ≤ count := by
                simp only [length, headerSize, List.length_drop, List.length_take] at hcovers hnlt
                omega
              rw [if_neg hnlt, if_neg (by rw [List.length_take]; omega), List.take_take,
                Nat.min_eq_left hle]

/-- A packet further on is framed alike, and a failure is placed further on. -/
theorem frame_shift (bytes : Bytes) (count offset : Nat) :
    frame bytes (count + offset) = (frame bytes offset).mapError (FrameError.shift count) := by
  unfold frame
  cases header? bytes with
  | none => rfl
  | some header =>
      dsimp only
      split
      · rfl
      · split <;> rfl

/-- So the place does not decide whether a packet is framed. -/
theorem frame_of_shift {bytes : Bytes} {offset : Nat} {packet : Packet}
    (h : frame bytes offset = .ok packet) (count : Nat) :
    frame bytes (count + offset) = .ok packet := by
  rw [frame_shift, h]
  rfl

end Packet

namespace Session

variable {σ : Type} {host : Collaborators σ} {offset : Nat} {rest : Bytes} {run : Run σ}

/-! ### One packet -/

/-- A run stops before what cannot be framed. -/
theorem runPackets_of_frame_error (hne : rest ≠ []) {cause : FrameError}
    (hframe : Packet.frame rest offset = .error cause) :
    runPackets host offset rest run
      = .ok ⟨offset, if cause.isIncomplete then .needMoreData else .malformedPacket cause⟩ run := by
  unfold runPackets
  rw [if_neg (by simpa using hne)]
  split
  · next hfailed =>
      cases hfailed.symm.trans hframe
      rfl
  · next hfound => cases hfound.symm.trans hframe

/-- A run carries a framed packet out and goes on behind it, or stops before it. -/
theorem runPackets_of_frame {packet : Packet} (hframe : Packet.frame rest offset = .ok packet) :
    runPackets host offset rest run
      = match CallDescriptor.ofOpcode? packet.opcode with
        | none => .ok ⟨offset, .unknownOpcode packet.opcode⟩ run
        | some call =>
          match Execution.runPacket host call packet.payload run with
          | .ok () run => runPackets host (offset + packet.length) (rest.drop packet.length) run
          | .error (.malformed cause) run => .ok ⟨offset, .malformedCall call.name cause⟩ run
          | .error (.fatal cause) run => .error cause run := by
  have hne : ¬ rest.isEmpty = true := by
    intro hisEmpty
    rw [List.isEmpty_iff.mp hisEmpty] at hframe
    cases hframe
  rw [runPackets, if_neg hne]
  split
  · next hfailed => cases hfailed.symm.trans hframe
  · next hfound =>
      cases hfound.symm.trans hframe
      rfl

/-- A run ends in front of a packet that is not known. -/
theorem runPackets_of_unknown {packet : Packet} (hframe : Packet.frame rest offset = .ok packet)
    (hopcode : CallDescriptor.ofOpcode? packet.opcode = none) :
    runPackets host offset rest run = .ok ⟨offset, .unknownOpcode packet.opcode⟩ run := by
  rw [runPackets_of_frame hframe, hopcode]

/-- A packet that is known is carried out, and the run goes on behind it if that did not end the
session. -/
theorem runPackets_of_known {packet : Packet} (hframe : Packet.frame rest offset = .ok packet)
    {call : CallDescriptor} (hopcode : CallDescriptor.ofOpcode? packet.opcode = some call) :
    runPackets host offset rest run
      = match Execution.runPacket host call packet.payload run with
        | .ok () run => runPackets host (offset + packet.length) (rest.drop packet.length) run
        | .error (.malformed cause) run => .ok ⟨offset, .malformedCall call.name cause⟩ run
        | .error (.fatal cause) run => .error cause run := by
  rw [runPackets_of_frame hframe, hopcode]

/-! ### Places do not matter -/

/-- The result with its progress changed. -/
def mapProgress (f : Progress → Progress) :
    EStateM.Result SessionError (Run σ) Progress → EStateM.Result SessionError (Run σ) Progress
  | .ok progress after => .ok (f progress) after
  | .error cause after => .error cause after

/-- Packets further on are carried out alike. -/
theorem runPackets_shift (count : Nat) :
    runPackets host (count + offset) rest run
      = mapProgress (Progress.shift count) (runPackets host offset rest run) := by
  -- Where a buffer starts matters to the places that a failure names, and to nothing else.
  fun_induction runPackets host offset rest run with
  | case1 offset rest run hisEmpty =>
      rw [List.isEmpty_iff.mp hisEmpty, runPackets_nil]
      rfl
  | case2 offset rest run hne cause hframe =>
      have hlater := Packet.frame_shift rest count offset
      rw [hframe] at hlater
      rw [runPackets_of_frame_error (by simpa using hne) hlater]
      cases cause <;> rfl
  | case3 offset rest run hne packet hframe hopcode =>
      rw [runPackets_of_unknown (Packet.frame_of_shift hframe count) hopcode]
      rfl
  | case4 offset rest run hne packet hframe call hknown after hpacket ih =>
      rw [runPackets_of_known (Packet.frame_of_shift hframe count) hknown, hpacket, ← ih,
        ← Nat.add_assoc]
  | case5 offset rest run hne packet hframe call hknown cause after hfailed =>
      rw [runPackets_of_known (Packet.frame_of_shift hframe count) hknown, hfailed]
      rfl
  | case6 offset rest run hne packet hframe call hknown cause after hfailed =>
      rw [runPackets_of_known (Packet.frame_of_shift hframe count) hknown, hfailed]
      rfl

/-! ### History does not matter -/

/-- Packets are carried out alike over surroundings that are alike. -/
theorem alike_runPackets {τ : Type} {like : Likeness σ τ} {other : Collaborators τ}
    (hfits : like.Fits host other) (offset : Nat) (rest : Bytes) :
    Alike like.Holds (runPackets host offset rest) (runPackets other offset rest) := by
  intro run twin hlike
  -- Both runs walk over the same bytes, so the cases of the first are those of the second; wherever
  -- a packet is carried out, it ends alike.
  fun_induction runPackets host offset rest run generalizing twin with
  | case1 offset rest run hnone =>
      rw [List.isEmpty_iff.mp hnone, runPackets_nil]
      exact .ok _ hlike
  | case2 offset rest run hsome cause hframe =>
      rw [runPackets_of_frame_error (by simpa using hsome) hframe]
      exact .ok _ hlike
  | case3 offset rest run hsome packet hframe hcall =>
      rw [runPackets_of_unknown hframe hcall]
      exact .ok _ hlike
  | case4 offset rest run hsome packet hframe call hcall after hpacket ih =>
      have hends := Execution.alike_runPacket hfits call packet.payload hlike
      rw [runPackets_of_known hframe hcall]
      rw [hpacket] at hends
      generalize Execution.runPacket other call packet.payload twin = answer at hends ⊢
      cases hends with
      | ok _ hafter => exact ih hafter
  | case5 offset rest run hsome packet hframe call hcall cause after hpacket =>
      have hends := Execution.alike_runPacket hfits call packet.payload hlike
      rw [runPackets_of_known hframe hcall]
      rw [hpacket] at hends
      generalize Execution.runPacket other call packet.payload twin = answer at hends ⊢
      cases hends with
      | error _ hafter => exact .ok _ hafter
  | case6 offset rest run hsome packet hframe call hcall cause after hpacket =>
      have hends := Execution.alike_runPacket hfits call packet.payload hlike
      rw [runPackets_of_known hframe hcall]
      rw [hpacket] at hends
      generalize Execution.runPacket other call packet.payload twin = answer at hends ⊢
      cases hends with
      | error _ hafter => exact .error cause hafter

/-- Packets are carried out alike behind any history. -/
theorem indifferent_runPackets (host : Collaborators σ) (offset : Nat) (rest : Bytes) :
    Indifferent (runPackets host offset rest) := fun history awaits run =>
  (alike_runPackets (fits_behind host history awaits) offset rest
    (holds_behind history awaits run)).eq_of_behind

/-- Carrying out packets never clears the handles of a snapshot. -/
theorem runPackets_clearHandles (clear : σ → σ) (offset : Nat) (rest : Bytes) (run : Run σ) :
    runPackets { host with clearHandles := clear } offset rest run
      = runPackets host offset rest run :=
  (alike_runPackets (fits_same host clear) offset rest (holds_same run)).eq_of_same

/-! ### Buffers -/

/-- A run that stopped for want of bytes goes on where it stopped. -/
theorem runPackets_append {progress : Progress} {after : Run σ}
    (h : runPackets host offset rest run = .ok progress after)
    (hwants : progress.stop.wantsBytes = true) (suffix : Bytes) :
    ∃ count, progress.consumed = offset + count ∧
      runPackets host offset (rest ++ suffix) run
        = runPackets host progress.consumed (rest.drop count ++ suffix) after := by
  fun_induction runPackets host offset rest run with
  | case1 offset rest run hisEmpty =>
      cases h
      exact ⟨0, rfl, rfl⟩
  | case2 offset rest run hne cause hframe =>
      cases h
      exact ⟨0, rfl, rfl⟩
  | case3 offset rest run hne packet hframe hopcode =>
      cases h
      cases hwants
  -- What is left is looked at only behind packets that were carried out, and these lie in the first
  -- part.
  | case4 offset rest run hne packet hframe call hknown middle hpacket ih =>
      obtain ⟨count, hconsumed, hpackets⟩ := ih h
      refine ⟨packet.length + count, by rw [hconsumed, Nat.add_assoc], ?_⟩
      rw [runPackets_of_known (Packet.frame_append hframe suffix) hknown, hpacket,
        ← List.drop_drop, ← hpackets, List.drop_append_of_le_length (Packet.frame_length_le hframe)]
  | case5 offset rest run hne packet hframe call hknown cause middle hfailed =>
      cases h
      cases hwants
  | case6 offset rest run hne packet hframe call hknown cause middle hfailed => cases h

/-- What a session made of a buffer, by the result of the run. -/
def Decoded.ofResult : EStateM.Result SessionError (Run σ) Progress → Decoded σ
  | .ok progress run => ⟨run.toSession, run.sink, run.events, .ok progress⟩
  | .error cause run => ⟨run.toSession, run.sink, run.events, .error cause⟩

/-- A buffer gives what its run gives. -/
theorem decode_eq (session : Session σ) (buffer : Bytes) (sink : Sink) :
    decode host session buffer sink
      = Decoded.ofResult (runBuffer host buffer { session with sink }) := by
  unfold decode
  cases runBuffer host buffer { session with sink } <;> rfl

/-- A buffer leaves what its run leaves. -/
theorem decode_left (host : Collaborators σ) (session : Session σ) (buffer : Bytes) (sink : Sink) :
    let after := stateOf (runBuffer host buffer { session with sink })
    (decode host session buffer sink).session = after.toSession ∧
      (decode host session buffer sink).sink = after.sink ∧
      (decode host session buffer sink).events = after.events := by
  rw [decode_eq]
  cases runBuffer host buffer { session with sink } <;> exact ⟨rfl, rfl, rfl⟩

/-- A session that awaits no handles takes a buffer for packets. -/
theorem decode_of_not_awaits {session : Session σ} (hunarmed : session.awaitsHandles = false)
    (buffer : Bytes) (sink : Sink) :
    decode host session buffer sink
      = Decoded.ofResult (runPackets host 0 buffer { session with sink }) := by
  rw [decode_eq, runBuffer, hunarmed, Bool.false_and, if_neg Bool.false_ne_true]

/-- A run behind a history, further on, gives what it gives behind none, with the history in
front. -/
theorem ofResult_behind {result : EStateM.Result SessionError (Run σ) Progress}
    (hunarmed : (stateOf result).awaitsHandles = false) (history : List SessionEvent)
    (count : Nat) :
    Decoded.ofResult
      (mapProgress (Progress.shift count) (mapState (Run.behind history false) result))
      = { Decoded.ofResult result with
          events := history ++ (Decoded.ofResult result).events
          outcome := (Decoded.ofResult result).outcome.map (Progress.shift count) } := by
  cases result with
  | ok progress after =>
      obtain ⟨session, sink, events⟩ := after
      cases session
      cases hunarmed
      rfl
  | error cause after =>
      obtain ⟨session, sink, events⟩ := after
      cases session
      cases hunarmed
      rfl

/-- A buffer whose end was not reached, or was just reached, may be followed by another one: the
second starts with the bytes that the first left, and both together do what one buffer does. -/
theorem decode_append (host : Collaborators σ) {session : Session σ}
    (hunarmed : session.awaitsHandles = false) {front : Bytes} {sink : Sink} {progress : Progress}
    (h : (decode host session front sink).outcome = .ok progress)
    (hwants : progress.stop.wantsBytes = true) (back : Bytes) :
    let first := decode host session front sink
    let second := decode host first.session (front.drop progress.consumed ++ back) first.sink
    decode host session (front ++ back) sink
      = { session := second.session
          sink := second.sink
          events := first.events ++ second.events
          outcome := second.outcome.map (Progress.shift progress.consumed) } := by
  have hquiet (buffer : Bytes) (run : Run σ) :=
    (indifferent_runPackets host 0 buffer).awaitsHandles_eq run
  rw [decode_of_not_awaits hunarmed] at h ⊢
  rw [decode_of_not_awaits hunarmed]
  cases hpackets : runPackets host 0 front { session with sink } with
  | error cause after =>
      rw [hpackets] at h
      cases h
  | ok reached after =>
      rw [hpackets] at h
      obtain rfl : reached = progress := Except.ok.inj h
      have hstillUnarmed : after.awaitsHandles = false := by
        have hawaitsHandles := hquiet front { session with sink }
        rw [hpackets] at hawaitsHandles
        exact hawaitsHandles.trans hunarmed
      obtain ⟨count, hconsumed, hresumed⟩ := runPackets_append hpackets hwants back
      obtain rfl : reached.consumed = count := by rw [hconsumed, Nat.zero_add]
      -- The second run starts from the same state without the history of the first.
      have hstarted : after
          = Run.behind after.events false { after.toSession with sink := after.sink } := by
        rw [← hstillUnarmed, Run.behind, List.append_nil]
      dsimp only [Decoded.ofResult]
      rw [decode_of_not_awaits hstillUnarmed, hresumed]
      generalize front.drop reached.consumed ++ back = buffer
      -- Going on behind the first buffer is starting anew with the rest, but for the offset and for
      -- the history that lies behind.
      calc Decoded.ofResult (runPackets host reached.consumed buffer after)
        _ = Decoded.ofResult (mapProgress (Progress.shift reached.consumed)
              (runPackets host 0 buffer after)) := by
            rw [← runPackets_shift, Nat.add_zero]
        _ = Decoded.ofResult (mapProgress (Progress.shift reached.consumed)
              (mapState (Run.behind after.events false)
                (runPackets host 0 buffer { after.toSession with sink := after.sink }))) := by
            rw [← indifferent_runPackets, ← hstarted]
        _ = _ := by
            have hunarmed := hquiet buffer { after.toSession with sink := after.sink }
            exact ofResult_behind (hunarmed.trans hstillUnarmed) after.events reached.consumed

/-- A driver that finishes every call at once. -/
def readyHost : Collaborators Unit :=
  Collaborators.ofDriver fun request => pure { args := request.args, result := some (.sint 0) }

/-- A session that knows device 5 as 7. -/
def deviceSession : Session Unit where
  state := ()
  table := { entries := [⟨7, 5, .device⟩] }

/-- The guest waits for the device that it knows as 7. -/
def waitPacket : Bytes := Packet.encode ⟨20020, [7, 0, 0, 0, 0, 0, 0, 0]⟩

/-- The first buffer ends in the header of the second packet. -/
theorem decode_append_waitPacket :
    let front := waitPacket ++ waitPacket.take 4
    let back := waitPacket.drop 4
    let first := decode readyHost deviceSession front .unbounded
    let second := decode readyHost first.session (front.drop 16 ++ back) first.sink
    deviceSession.awaitsHandles = false ∧ first.outcome = .ok ⟨16, .needMoreData⟩ ∧
      StopReason.needMoreData.wantsBytes = true ∧
      decode readyHost deviceSession (front ++ back) .unbounded
        = { session := second.session
            sink := second.sink
            events := first.events ++ second.events
            outcome := second.outcome.map (Progress.shift 16) } := by
  intro front back first second
  have houtcome : first.outcome = .ok ⟨16, .needMoreData⟩ := by
    obtain ⟨after, hpacket⟩ : ∃ after, Execution.runPacket readyHost .deviceWaitIdle
        [7, 0, 0, 0, 0, 0, 0, 0] { deviceSession with sink := .unbounded } = .ok () after :=
      ⟨_, rfl⟩
    have hframe : Packet.frame front 0 = .ok ⟨20020, [7, 0, 0, 0, 0, 0, 0, 0]⟩ := rfl
    have hopcode : CallDescriptor.ofOpcode? 20020 = some .deviceWaitIdle := rfl
    -- Four bytes of eight.
    have hcut : Packet.frame (waitPacket.take 4) 16 = .error (.incomplete 16 8 4) := rfl
    have hpackets : runPackets readyHost 0 front { deviceSession with sink := .unbounded }
        = .ok ⟨16, .needMoreData⟩ after := by
      rw [runPackets_of_known hframe hopcode, hpacket]
      exact runPackets_of_frame_error (by decide) hcut
    rw [show first = _ from decode_of_not_awaits rfl _ _, hpackets]
    rfl
  exact ⟨rfl, houtcome, rfl, decode_append readyHost rfl houtcome rfl back⟩

end Session

end CallStream
