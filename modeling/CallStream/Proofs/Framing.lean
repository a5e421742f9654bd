import CallStream.Packet

/-!
# Framing, both ways

Packets that are written one behind the other are met again, one by one and nothing else. Whatever
the bytes are, a walk covers a prefix of them that is made of packets and stops for good at the
first place where there is none: the packets that it met spell what it covered.

## Main results

* `Packet.encode_of_frame`: a framed packet spells the bytes that it was framed from.
* `PacketWalk.covered`: the steps of a walk that meets some packets.
* `PacketWalk.run_encode`: a walk over encoded packets meets these packets.
* `PacketWalk.run_eq`: every walk meets packets that spell what it covers, then fails at most once.
* `PacketWalk.walk_meets_encoded`: both, from the start of the bytes.
-/

namespace CallStream

namespace Packet

variable {bytes : Bytes} {offset : Nat} {packet : Packet}

/-- A packet takes at least its header. -/
theorem headerSize_le (packet : Packet) : headerSize ≤ packet.length :=
  Nat.le_add_right headerSize packet.payload.length

/-- The header is there, and the length that it tells is the packet's. -/
theorem header?_of_frame (h : frame bytes offset = .ok packet) :
    ∃ header, header? bytes = some header ∧ header.opcode = packet.opcode ∧
      header.length.toInt = packet.length ∧ packet.payload = (bytes.take packet.length).drop 8 := by
  have hcovered := frame_length_le h
  unfold frame at h
  split at h
  · cases h
  · next header hheader =>
      dsimp only at h
      split at h
      · cases h
      · split at h
        · cases h
        · next hnlt hlong =>
            cases h
            -- The bytes are there, so as many were taken as the header tells.
            have htoInt : header.length.toInt
                = length ⟨header.opcode, (bytes.take header.length.toInt.toNat).drop
                headerSize⟩ := by
              simp only [length, headerSize, List.length_drop, List.length_take] at hnlt hlong ⊢
              omega
            refine ⟨header, hheader, rfl, htoInt, ?_⟩
            rw [← Int.toNat_natCast (length _), ← htoInt]
            rfl

/-- A number that is told by a signed word without being negative is the word. -/
theorem toNat_of_toInt_toInt32 {word : UInt32} {number : Nat} (h : word.toInt32.toInt = number) :
    word.toNat = number ∧ number ≤ maxLength := by
  rw [Int32.toInt, UInt32.toBitVec_toInt32, BitVec.toInt_eq_toNat_cond, UInt32.toNat_toBitVec] at h
  have hlt := word.toNat_lt
  simp only [maxLength]
  split at h <;> omega

/-- A framed packet is of a length that fits its field. -/
theorem length_le_maxLength_of_frame (h : frame bytes offset = .ok packet) :
    packet.length ≤ maxLength := by
  obtain ⟨header, hheader, -, htoInt, -⟩ := header?_of_frame h
  unfold header? at hheader
  split at hheader
  · cases hheader
  · cases hheader
    exact (toNat_of_toInt_toInt32 htoInt).2

/-- A framed packet spells the bytes that it was framed from. -/
theorem encode_of_frame (h : frame bytes offset = .ok packet) :
    packet.encode = bytes.take packet.length := by
  have hinside := frame_length_le h
  have hheader : 8 ≤ packet.length := packet.headerSize_le
  obtain ⟨_, hfound, hopcode, htoInt, hpayload⟩ := header?_of_frame h
  unfold header? at hfound
  split at hfound
  · cases hfound
  · cases hfound
    have hlength : (bytes.take 4).length = 4 := by
      rw [List.length_take]
      omega
    have hsecond : ((bytes.drop 4).take 4).length = 4 := by
      rw [List.length_take, List.length_drop]
      omega
    -- Four bytes are spelled by the word that they are read as.
    have hspelled {word : Bytes} (hsize : word.length = 4) :
        Bytes.ofNatLE 4 (UInt32.ofNat (Bytes.toNatLE word)).toNat = word := by
      have hlt := Bytes.toNatLE_lt word
      rw [hsize] at hlt
      rw [UInt32.toNat_ofNat_of_lt' hlt, ← hsize, Bytes.ofNatLE_toNatLE]
    have hofNatLE : Bytes.ofNatLE 4 packet.length = (bytes.drop 4).take 4 := by
      rw [← (toNat_of_toInt_toInt32 htoInt).1, hspelled hsecond]
    rw [encode, ← hopcode, hspelled hlength, hofNatLE, hpayload]
    calc bytes.take 4 ++ (bytes.drop 4).take 4 ++ (bytes.take packet.length).drop 8
        = (bytes.take packet.length).take 8 ++ (bytes.take packet.length).drop 8 := by
          rw [← List.take_add, List.take_take, Nat.min_eq_left hheader]
      _ = bytes.take packet.length := List.take_append_drop _ _

end Packet

namespace PacketWalk

/-- The number of bytes that some packets take. -/
def total : (packets : List Packet) → Nat
  | [] => 0
  | packet :: rest => packet.length + total rest

/-- The steps of a walk that meets the packets from `offset` on: each is met whole, and is covered
when it is met. -/
def covered (offset : Nat) : (packets : List Packet) → List (Except FrameError Packet × Nat)
  | [] => []
  | packet :: packets =>
    (.ok packet, offset + packet.length) :: covered (offset + packet.length) packets

/-- Packets one behind the other take their lengths. -/
theorem length_flatMap_encode (packets : List Packet) :
    (packets.flatMap Packet.encode).length = total packets := by
  induction packets with
  | nil => rfl
  | cons packet packets ih =>
      have hlength : packet.encode.length = packet.length := by
        simp [Packet.encode, Packet.length, Packet.headerSize]
        omega
      rw [List.flatMap_cons, List.length_append, ih, hlength, total]

/-! ### One step -/

/-- A walk that is over meets nothing more. -/
theorem run_of_over {walk : PacketWalk} (h : walk.next? = none) : walk.run = ([], walk) := by
  rw [run]
  split
  · rfl
  · next hnext => cases hnext.symm.trans h

/-- A walk meets its next item, and then what the walk behind it meets. -/
theorem run_of_step {walk after : PacketWalk} {item : Except FrameError Packet}
    (h : walk.next? = some (item, after)) :
    walk.run = ((item, after.consumed) :: after.run.1, after.run.2) := by
  rw [run]
  split
  · next hnext => cases hnext.symm.trans h
  · next hfound =>
      cases hfound.symm.trans h
      rfl

variable {rest : Bytes} {offset : Nat}

/-- A walk that met all bytes is over. -/
theorem next?_nil (offset : Nat) (failed : Bool) :
    next? { rest := [], consumed := offset, failed } = none := by
  simp only [next?, List.isEmpty_nil, Bool.or_true, if_true]

/-- A walk that failed is over. -/
theorem next?_failed (rest : Bytes) (offset : Nat) :
    next? { rest, consumed := offset, failed := true } = none := by
  simp only [next?, Bool.true_or, if_true]

/-- Where a packet starts, a walk meets it and goes on behind it. -/
theorem next?_of_frame {packet : Packet} (hframe : Packet.frame rest offset = .ok packet) :
    next? { rest, consumed := offset }
      = some (.ok packet,
          { rest := rest.drop packet.length, consumed := offset + packet.length }) := by
  have hisEmpty : rest.isEmpty = false := by
    cases rest with
    | nil => cases hframe
    | cons byte rest => rfl
  simp only [next?, hisEmpty, hframe, Bool.or_self, Bool.false_eq_true, if_false]

/-- Where none does although there are bytes, it meets the failure and is over. -/
theorem next?_of_frame_error {cause : FrameError} (hisEmpty : rest.isEmpty = false)
    (hframe : Packet.frame rest offset = .error cause) :
    next? { rest, consumed := offset }
      = some (.error cause, { rest, consumed := offset, failed := true }) := by
  simp only [next?, hisEmpty, hframe, Bool.or_self, Bool.false_eq_true, if_false]

/-! ### A whole walk -/

/-- A walk over encoded packets meets them one by one, and covers them all. -/
theorem run_encode {packets : List Packet}
    (hfits : ∀ packet ∈ packets, packet.length ≤ Packet.maxLength) (offset : Nat) :
    run { rest := packets.flatMap Packet.encode, consumed := offset }
      = (covered offset packets, { rest := [], consumed := offset + total packets }) := by
  induction packets generalizing offset with
  | nil => exact run_of_over (next?_nil offset false)
  | cons packet packets ih =>
      obtain ⟨hfit, hfits⟩ := List.forall_mem_cons.mp hfits
      have hframe :
          Packet.frame ((packet :: packets).flatMap Packet.encode) offset = .ok packet := by
        rw [List.flatMap_cons]
        exact Packet.frame_encode packet _ offset hfit
      have hlength : packet.encode.length = packet.length := by
        have halone := length_flatMap_encode [packet]
        rwa [List.flatMap_singleton, total] at halone
      have hdrop : ((packet :: packets).flatMap Packet.encode).drop packet.length
          = packets.flatMap Packet.encode := by
        rw [List.flatMap_cons, ← hlength, List.drop_left]
      rw [run_of_step (next?_of_frame hframe), hdrop, ih hfits, covered, total, Nat.add_assoc]

/-- A walk meets packets, and then nothing or one failure. The packets spell the bytes that it
covers, and there is no failure exactly if these are all bytes. -/
theorem run_eq (rest : Bytes) (offset : Nat) :
    ∃ (packets : List Packet) (failure? : Option FrameError),
      run { rest, consumed := offset }
        = (covered offset packets
            ++ failure?.toList.map fun cause => (.error cause, offset + total packets),
          { rest := rest.drop (total packets)
            consumed := offset + total packets
            failed := failure?.isSome }) ∧
      packets.flatMap Packet.encode = rest.take (total packets) ∧
      (∀ packet ∈ packets, packet.length ≤ Packet.maxLength) ∧
      (failure? = none ↔ total packets = rest.length) := by
  -- Every packet takes bytes, so the walk behind it is over fewer of them.
  induction hlength : rest.length using Nat.strongRecOn generalizing rest offset with
  | ind size ih =>
  cases hisEmpty : rest.isEmpty with
  | true =>
      obtain rfl := List.isEmpty_iff.mp hisEmpty
      exact ⟨[], none, run_of_over (next?_nil offset false), rfl, List.forall_mem_nil _,
        iff_of_true rfl hlength⟩
  | false =>
      cases hframe : Packet.frame rest offset with
      | error cause =>
          refine ⟨[], some cause, ?_, rfl, List.forall_mem_nil _, ?_⟩
          · rw [run_of_step (next?_of_frame_error hisEmpty hframe),
              run_of_over (next?_failed rest offset)]
            rfl
          · refine iff_of_false (fun hsome => nomatch hsome) fun hall => ?_
            rw [← hlength] at hall
            rw [List.isEmpty_eq_false_iff] at hisEmpty
            exact hisEmpty (List.eq_nil_of_length_eq_zero hall.symm)
      | ok packet =>
          have hinside := Packet.frame_length_le hframe
          have hlt := packet.length_pos
          have hfewer : (rest.drop packet.length).length < size := by
            rw [List.length_drop]
            omega
          obtain ⟨packets, failure?, hrun, hflatMap, hfits, hall⟩ :=
            ih _ hfewer (rest.drop packet.length) (offset + packet.length) rfl
          refine ⟨packet :: packets, failure?, ?_, ?_,
            List.forall_mem_cons.mpr ⟨Packet.length_le_maxLength_of_frame hframe, hfits⟩, ?_⟩
          · rw [run_of_step (next?_of_frame hframe), hrun, covered, total, List.drop_drop,
              ← Nat.add_assoc, List.cons_append]
          · rw [List.flatMap_cons, hflatMap, Packet.encode_of_frame hframe, total, List.take_add]
          · rw [hall, total, List.length_drop]
            omega

/-- A walk that is over stays so. -/
theorem next?_last (bytes : Bytes) : (run (start bytes)).2.next? = none := by
  obtain ⟨packets, failure?, hrun, -, -, hiff⟩ := run_eq bytes 0
  rw [start, hrun]
  cases failure? with
  | none =>
      rw [hiff.mp rfl, List.drop_length]
      exact next?_nil _ _
  | some cause => exact next?_failed _ _

/-- Packets that fit their length field are met again where they were written one behind the other:
these and nothing else, up to the end of the bytes. And whatever the bytes are, the packets that a
walk meets spell exactly what it covers, header by header; it fails at most once, nothing follows
the failure, and it ends without one exactly if it has covered all bytes. -/
theorem walk_meets_encoded :
    (∀ packets : List Packet, (∀ packet ∈ packets, packet.length ≤ Packet.maxLength) →
      ∃ last, run (start (packets.flatMap Packet.encode)) = (covered 0 packets, last) ∧
        last.consumed = (packets.flatMap Packet.encode).length ∧ last.next? = none) ∧
    ∀ bytes : Bytes, ∃ (packets : List Packet) (failure? : Option FrameError) (last : PacketWalk),
      run (start bytes)
        = (covered 0 packets ++ failure?.toList.map fun cause => (.error cause, last.consumed),
          last) ∧
      last.next? = none ∧
      packets.flatMap Packet.encode = bytes.take last.consumed ∧
      last.consumed = total packets ∧
      (∀ packet ∈ packets, Packet.headerSize ≤ packet.length ∧ packet.length ≤ Packet.maxLength) ∧
      (failure? = none ↔ last.consumed = bytes.length) := by
  refine ⟨fun packets hfits => ?_, fun bytes => ?_⟩
  · have hnext := next?_last (packets.flatMap Packet.encode)
    rw [start, run_encode hfits] at hnext ⊢
    exact ⟨_, rfl, by rw [length_flatMap_encode, Nat.zero_add], hnext⟩
  · have hnext := next?_last bytes
    obtain ⟨packets, failure?, hrun, hflatMap, hfits, hiff⟩ := run_eq bytes 0
    rw [start, hrun] at hnext ⊢
    rw [Nat.zero_add] at hnext ⊢
    exact ⟨packets, failure?, _, rfl, hnext, hflatMap, rfl,
      fun packet hmem => ⟨packet.headerSize_le, hfits packet hmem⟩, hiff⟩

/-- A packet with a payload and one without are met one behind the other. -/
theorem walk_meets_encoded_pair :
    let packets : List Packet := [⟨20020, [7, 0, 0, 0, 0, 0, 0, 0]⟩, ⟨20001, []⟩]
    (∀ packet ∈ packets, packet.length ≤ Packet.maxLength) ∧
      ∃ last, run (start (packets.flatMap Packet.encode))
          = ([(.ok ⟨20020, [7, 0, 0, 0, 0, 0, 0, 0]⟩, 16), (.ok ⟨20001, []⟩, 24)], last) ∧
        last.consumed = 24 ∧ last.next? = none := by
  intro packets
  have hfits : ∀ packet ∈ packets, packet.length ≤ Packet.maxLength := by decide
  exact ⟨hfits, walk_meets_encoded.1 packets hfits⟩

end PacketWalk

end CallStream
