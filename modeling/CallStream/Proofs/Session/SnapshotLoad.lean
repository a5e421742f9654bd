import CallStream.Proofs.Session.Lifetime

/-!
# Loading a snapshot

A session that awaits the handles of a snapshot finds their ids in front of the packets of its first
buffer. Loading them comes to reserving the ids, carrying out the packets as any session does, and
giving up the ids that are left: the packets are carried out alike wherever they lie in the buffer.
However they end, the surroundings are told once that the handles are no longer needed, and carrying
out packets never tells them.

A buffer that ends before all the ids that it announces leaves the session as it was.

## Main results

* `runBuffer_of_block`, `runBuffer_of_tooShort`: a buffer with all of its ids, and one without.
* `decode_loads_snapshot`: both, for every session that awaits handles.
-/

namespace CallStream

namespace Session

variable {σ : Type} {host : Collaborators σ}

/-- The session with ids reserved for the next objects, behind those reserved before; it awaits no
others. -/
def reserving (session : Session σ) (ids : List BoxedId) : Session σ :=
  { session with awaitsHandles := false, table := session.table.reserve ids }

/-- A buffer that starts with ids is carried out behind them. -/
theorem runBuffer_of_block (hloads : host.loadHandles = CreatedHandles.load) {run : Run σ}
    (harmed : run.awaitsHandles = true) {ids : List BoxedId} (hfew : ids.length < UInt32.size)
    {rest : Bytes} (hle : Packet.headerSize ≤ (CreatedHandles.encode ids ++ rest).length) :
    runBuffer host (CreatedHandles.encode ids ++ rest) run
      = mapProgress (Progress.shift (CreatedHandles.encode ids).length)
          (mapState (closedRun host)
            (runPackets host 0 rest { run with toSession := run.toSession.reserving ids })) := by
  have hloadHandles : host.loadHandles (CreatedHandles.encode ids ++ rest) run.state
      = .ok ((CreatedHandles.encode ids).length, ids) run.state := by
    rw [hloads, CreatedHandles.load, CreatedHandles.parse_encode ids rest hfew]
    rfl
  -- The block is no longer than the buffer that it stands in.
  have hinside : min (CreatedHandles.encode ids).length (CreatedHandles.encode ids ++ rest).length
      = (CreatedHandles.encode ids).length := by
    rw [List.length_append]
    exact Nat.min_eq_left (Nat.le_add_right _ _)
  have hshifted (run : Run σ) :
      runPackets host ((CreatedHandles.encode ids).length + 0) rest run
        = mapProgress (Progress.shift (CreatedHandles.encode ids).length)
            (runPackets host 0 rest run) :=
    runPackets_shift (CreatedHandles.encode ids).length
  simp only [Nat.add_zero] at hshifted
  have hloadedRun : loadedRun run ids run.state =
      { run with toSession := run.toSession.reserving ids } :=
    rfl
  rw [runBuffer, harmed, Bool.true_and, if_pos (decide_eq_true hle),
    runSnapshot_of_loaded hloadHandles, hinside, List.drop_left, hloadedRun, hshifted]
  cases runPackets host 0 rest { run with toSession := run.toSession.reserving ids } <;> rfl

/-- A buffer that ends before its last id is not carried out. -/
theorem runBuffer_of_tooShort (hloads : host.loadHandles = CreatedHandles.load) {run : Run σ}
    (harmed : run.awaitsHandles = true) {buffer : Bytes}
    (hle : Packet.headerSize ≤ buffer.length)
    (hlt : buffer.length < 4 + 8 * Bytes.toNatLE (buffer.take 4)) :
    runBuffer host buffer run
      = .error (.snapshotLoad (.malformedBlock
          (.tooShort (Bytes.toNatLE (buffer.take 4)) buffer.length))) (forgetHandles host run) := by
  have hcounted : 4 ≤ buffer.length := Nat.le_trans (by decide) hle
  have hloadHandles : host.loadHandles buffer run.state
      = .error (.malformedBlock (.tooShort (Bytes.toNatLE (buffer.take 4)) buffer.length))
          run.state := by
    rw [hloads, CreatedHandles.load, CreatedHandles.parse_of_tooShort hcounted hlt]
    rfl
  rw [runBuffer, harmed, Bool.true_and, if_pos (decide_eq_true hle), runSnapshot, hloadHandles]

/-! ### Buffers -/

/-- A session that awaits the handles of a snapshot makes of a buffer that starts with them what one
that has reserved their ids makes of the rest of it. All that differs is that the reservations are
given up and that the surroundings are told, once and at the end, to clear the handles. A buffer
that is too short for its handles has no effect but that. -/
theorem decode_loads_snapshot (hloads : host.loadHandles = CreatedHandles.load)
    {session : Session σ} (harmed : session.awaitsHandles = true) (sink : Sink) :
    (∀ (ids : List BoxedId) (rest : Bytes), ids.length < UInt32.size →
      Packet.headerSize ≤ (CreatedHandles.encode ids ++ rest).length → ∀ clear : σ → σ,
        let block := CreatedHandles.encode ids
        let loaded := decode host session (block ++ rest) sink
        let plainly := decode { host with clearHandles := clear } (session.reserving ids) rest sink
        loaded
            = { session :=
                  { plainly.session with
                    state := host.clearHandles plainly.session.state
                    table := plainly.session.table.clearReservations }
                sink := plainly.sink
                events := plainly.events
                outcome := plainly.outcome.map (Progress.shift block.length) } ∧
          loaded.session.awaitsHandles = false ∧ loaded.session.table.reserved = [] ∧
          ((∀ memory state,
              host.mapped? memory (host.clearHandles state) = host.mapped? memory state) →
            ∀ memory, host.mapped? memory loaded.session.state
              = host.mapped? memory plainly.session.state)) ∧
      ∀ buffer : Bytes, Packet.headerSize ≤ buffer.length →
        buffer.length < 4 + 8 * Bytes.toNatLE (buffer.take 4) →
        decode host session buffer sink
          = { session := { session with state := host.clearHandles session.state }
              sink
              events := []
              outcome := .error (.snapshotLoad (.malformedBlock
                (.tooShort (Bytes.toNatLE (buffer.take 4)) buffer.length))) } := by
  refine ⟨fun ids rest hfew hle clear => ?_, fun buffer hle hlt => ?_⟩
  · intro block loaded plainly
    have hunarmed := (indifferent_runPackets host 0 rest).awaitsHandles_eq
      { session.reserving ids with sink }
    -- Without awaiting ids a session never clears handles, so it does not matter how that would be
    -- done.
    have hplain : plainly
        = Decoded.ofResult (runPackets host 0 rest { session.reserving ids with sink }) := by
      rw [show plainly = _ from decode_of_not_awaits rfl rest sink, runPackets_clearHandles]
    have hsame : loaded = Decoded.ofResult (mapProgress (Progress.shift block.length)
        (mapState (closedRun host)
          (runPackets host 0 rest { session.reserving ids with sink }))) := by
      rw [show loaded = _ from decode_eq session _ sink, runBuffer_of_block hloads harmed hfew hle]
    rw [hplain, hsame]
    cases hpackets : runPackets host 0 rest { session.reserving ids with sink } with
    | ok progress after =>
        rw [hpackets] at hunarmed
        exact ⟨rfl, hunarmed, rfl, fun hkeeps memory => hkeeps memory _⟩
    | error cause after =>
        rw [hpackets] at hunarmed
        exact ⟨rfl, hunarmed, rfl, fun hkeeps memory => hkeeps memory _⟩
  · rw [decode_eq, runBuffer_of_tooShort hloads harmed hle hlt]
    rfl

/-- A driver that finishes every call at once, in surroundings that count how often handles are
cleared. -/
def clearingHost : Collaborators Nat :=
  { Collaborators.ofDriver fun request =>
      pure { args := request.args, result := some (.sint 0) } with
    clearHandles := (· + 1) }

/-- A session that awaits the handles of a snapshot and knows device 5 as 7. -/
def awaitingSession : Session Nat where
  state := 0
  table := deviceSession.table
  awaitsHandles := true

/-- One id in front of a packet, and two ids of which the second is missing. -/
theorem decode_loads_snapshot_waitPacket :
    let loaded := decode clearingHost awaitingSession
      (CreatedHandles.encode [11] ++ waitPacket) .unbounded
    clearingHost.loadHandles = CreatedHandles.load ∧ awaitingSession.awaitsHandles = true ∧
      loaded.outcome = .ok ⟨28, .drained⟩ ∧ loaded.session.state = 1 ∧
      loaded.session.awaitsHandles = false ∧ loaded.session.table.reserved = [] ∧
      decode clearingHost awaitingSession ((CreatedHandles.encode [11, 13]).take 12) .unbounded
        = { session := { awaitingSession with state := 1 }
            sink := .unbounded
            events := []
            outcome := .error (.snapshotLoad (.malformedBlock (.tooShort 2 12))) } := by
  intro loaded
  have hloads : clearingHost.loadHandles = CreatedHandles.load := rfl
  have harmed : awaitingSession.awaitsHandles = true := rfl
  obtain ⟨hwhole, hcut⟩ := decode_loads_snapshot hloads harmed .unbounded
  obtain ⟨hdecode, hdisarmed, hreleased, -⟩ := hwhole [11] waitPacket (by decide) (by decide) id
  -- Behind the block, the packet is carried out as it would be in a buffer of its own.
  have hplainly : ∃ after : Run Nat, after.state = 0 ∧
      decode { clearingHost with clearHandles := id } (awaitingSession.reserving [11]) waitPacket
        .unbounded = ⟨after.toSession, after.sink, after.events, .ok ⟨16, .drained⟩⟩ := by
    obtain ⟨after, hpacket, huntouched⟩ : ∃ after, Execution.runPacket clearingHost .deviceWaitIdle
        [7, 0, 0, 0, 0, 0, 0, 0] { awaitingSession.reserving [11] with sink := .unbounded }
          = .ok () after ∧ after.state = 0 :=
      ⟨_, rfl, rfl⟩
    have hframe : Packet.frame waitPacket 0 = .ok ⟨20020, [7, 0, 0, 0, 0, 0, 0, 0]⟩ := rfl
    have hopcode : CallDescriptor.ofOpcode? 20020 = some .deviceWaitIdle := rfl
    refine ⟨after, huntouched, ?_⟩
    rw [decode_of_not_awaits rfl, runPackets_clearHandles, runPackets_of_known hframe hopcode,
      hpacket]
    exact congrArg Decoded.ofResult (runPackets_nil clearingHost 16 after)
  obtain ⟨after, huntouched, hplainly⟩ := hplainly
  rw [hplainly] at hdecode
  refine ⟨hloads, harmed, ?_, ?_, hdisarmed, hreleased, hcut _ (by decide) (by decide)⟩
  · rw [show loaded = _ from hdecode]
    rfl
  · rw [show loaded = _ from hdecode]
    exact congrArg (· + 1) huntouched

end Session

end CallStream
