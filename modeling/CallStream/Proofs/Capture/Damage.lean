import CallStream.Capture.Stream

/-!
# Damaged captures

Whatever bytes a capture holds, the commands that are read from it spell the bytes that they were
read from. Written again, they give the capture's data up to the first command that cannot be read,
or all of it if there is none. So nothing in front of the damage is left out, a command that is cut
short is not kept in part, and nothing behind it is made up.

The place that a failure names is the number of bytes that the commands in front of it take.

## Main results

* `Command.encode_of_decode`: a command that was read spells the bytes that it took.
* `Command.decodeAll_spells`: commands that were read spell the bytes in front of the failure.
* `CapturedStream.parse_spells`: so do the commands that are kept of a capture, wherever it stands.
-/

namespace CallStream

/-! ### Failures at a command -/

/-- Where the command that a failure is about starts among a capture's commands; the other failures
come before any command is looked at. -/
def CaptureError.commandOffset? : CaptureError → Option Nat
  | badCommandSize offset _ | commandOverrun offset _ _ | missingTrailer offset => some offset
  | truncatedHeader _ _ | unsupportedVersion _ | dataTooLarge _ | dataOutOfBounds _ _ => none

/-- The failure names that place. -/
theorem CaptureError.message_of_commandOffset? {cause : CaptureError} {offset : Nat}
    (h : cause.commandOffset? = some offset) :
    ∃ reason, cause.message = "command at data offset " ++ Text.decimal offset ++ reason := by
  cases cause with
  | badCommandSize place size =>
      cases h
      exact ⟨s!" has invalid size {Text.decimal size.toNat}", String.append_assoc ..⟩
  | commandOverrun place size remaining =>
      cases h
      have hwording :
          s!"command at data offset {Text.decimal offset} needs {Text.decimal size.toNat} bytes "
            ++ s!"but only {Text.decimal remaining} remain"
          = "command at data offset " ++ Text.decimal offset ++
          s!" needs {Text.decimal size.toNat} bytes but only {Text.decimal remaining} remain" := by
        simp only [String.append_assoc]
        rfl
      exact ⟨_, hwording⟩
  | missingTrailer place =>
      cases h
      exact ⟨" is missing its original size", rfl⟩
  | _ => cases h

namespace Command

variable {version : UInt32} {bytes : Bytes}

/-- If a command cannot be read, the failure names the place where it starts. -/
theorem commandOffset?_of_decode {offset : Nat} {cause : CaptureError}
    (h : decode version offset bytes = .error cause) : cause.commandOffset? = some offset := by
  simp only [decode] at h
  split at h
  · cases h
    rfl
  · split at h
    · cases h
      rfl
    · split at h
      · cases h
        rfl
      · split at h
        · split at h
          · cases h
            rfl
          · cases h
        · cases h

/-! ### What was read is written back -/

/-- A word spells the bytes that it was read from. -/
theorem ofNatLE_wordAt {offset : Nat} (hinside : offset + 4 ≤ bytes.length) :
    Bytes.ofNatLE 4 (wordAt bytes offset).toNat = bytes.slice offset 4 := by
  have hwidth : (bytes.slice offset 4).length = 4 := by
    rw [Bytes.slice, List.length_take, List.length_drop]
    omega
  have hlt := Bytes.toNatLE_lt (bytes.slice offset 4)
  rw [hwidth] at hlt
  have hofNatLE := Bytes.ofNatLE_toNatLE (bytes.slice offset 4)
  rw [hwidth] at hofNatLE
  rw [wordAt, UInt32.toNat_ofNat_of_lt' hlt, hofNatLE]

/-- A command that was read spells the bytes that it took. -/
theorem encode_of_decode {offset : Nat} {command : Command} {taken : Nat}
    (h : decode version offset bytes = .ok (command, taken)) :
    command.encode version = bytes.take taken := by
  have hinside := size_of_decode h
  have height : Packet.headerSize = 8 := rfl
  simp only [decode] at h
  split at h
  · cases h
  split at h
  · cases h
  split at h
  · cases h
  rw [height] at *
  have hbody : ((bytes.take (wordAt bytes 4).toNat).drop 8).length =
      (wordAt bytes 4).toNat - 8 := by
    rw [List.length_drop, List.length_take]
    omega
  -- Opcode, size and payload are the bytes that the size covers.
  have happend : Bytes.ofNatLE 4 (wordAt bytes 0).toNat ++ Bytes.ofNatLE 4 (wordAt bytes 4).toNat
      ++ (bytes.take (wordAt bytes 4).toNat).drop 8 = bytes.take (wordAt bytes 4).toNat := by
    have hheader : bytes.slice 0 4 ++ bytes.slice 4 4 =
        (bytes.take (wordAt bytes 4).toNat).take 8 := by
      rw [List.take_take, Nat.min_eq_left (by omega)]
      exact (List.take_add (i := 4) (j := 4)).symm
    rw [ofNatLE_wordAt (by omega), ofNatLE_wordAt (by omega), hheader, List.take_append_drop]
  have hsize (opcode fullSize : UInt32) :
      Command.size ⟨opcode, fullSize, (bytes.take (wordAt bytes 4).toNat).drop 8⟩
        = (wordAt bytes 4).toNat := by
    rw [Command.size, hbody, Packet.headerSize]
    omega
  split at h
  · next hnewer =>
    split at h
    · cases h
    · cases h
      rw [encode, if_pos hnewer, hsize, happend, ofNatLE_wordAt (by omega)]
      exact List.take_add.symm
  · next holder =>
    cases h
    rw [encode, if_neg holder, hsize, happend, List.append_nil]

/-- Commands that were read one behind the other spell the bytes up to where reading ended: at the
end of the bytes, or at a command that cannot be read, which the failure places behind them. -/
theorem decodeAll_spells (version : UInt32) (offset : Nat) (bytes : Bytes) :
    let spelled := (decodeAll version offset bytes).1.flatMap (encode version)
    ∃ behind, bytes = spelled ++ behind ∧
      match (decodeAll version offset bytes).2 with
      | none => behind = []
      | some cause =>
        behind ≠ [] ∧ decode version (offset + spelled.length) behind = .error cause := by
  fun_induction decodeAll version offset bytes with
  | case1 offset bytes hisEmpty =>
      exact ⟨[], by simpa using hisEmpty, rfl⟩
  | case2 offset bytes hne cause hdecode =>
      exact ⟨bytes, rfl, by simpa using hne, hdecode⟩
  | case3 offset bytes hne command size hread commands failure hdecodeAll ih =>
      have hencode := encode_of_decode hread
      have hinside := size_of_decode hread
      have hlength : (command.encode version).length = size := by
        rw [hencode, List.length_take, Nat.min_eq_left hinside.2]
      obtain ⟨behind, hdrop, hends⟩ := ih
      simp only [hdecodeAll] at hdrop hends
      refine ⟨behind, ?_, ?_⟩
      · rw [List.flatMap_cons, List.append_assoc, ← hdrop, hencode, List.take_append_drop]
      · rwa [List.flatMap_cons, List.length_append, hlength, ← Nat.add_assoc]

end Command

namespace CapturedStream

/-! ### What is kept of a capture -/

/-- The commands lie behind the header, all of them. -/
theorem dataOf_eq_ok {header : CaptureHeader} {bytes data : Bytes}
    (h : dataOf header bytes = .ok data) :
    header.dataSize.toNat ≤ bytes.length - CaptureHeader.size ∧
      data = bytes.slice CaptureHeader.size header.dataSize.toNat := by
  simp only [dataOf] at h
  split at h
  · cases h
  split at h
  · cases h
  split at h
  · cases h
  · cases h
    exact ⟨by omega, rfl⟩

/-- If the data of a capture cannot be found, the failure is about no command. -/
theorem commandOffset?_of_dataOf {header : CaptureHeader} {bytes : Bytes} {cause : CaptureError}
    (h : dataOf header bytes = .error cause) : cause.commandOffset? = none := by
  simp only [dataOf] at h
  split at h
  · cases h
    rfl
  split at h
  · cases h
    rfl
  split at h
  · cases h
    rfl
  · cases h

/-- Nor is it if the header cannot be read. -/
theorem commandOffset?_of_parseHeader {bytes : Bytes} {offset : Nat} {cause : CaptureError}
    (h : CaptureHeader.parse bytes offset = .error cause) : cause.commandOffset? = none := by
  unfold CaptureHeader.parse at h
  split at h
  · cases h
    rfl
  · cases h

/-- Either nothing is kept of a capture, for a reason that lies in its header, or its commands are
read from the data behind the header. -/
theorem parse_cases (dump : Bytes) (position : Nat) :
    (∃ cause, (parse dump position).failure = some cause ∧ cause.commandOffset? = none ∧
      (parse dump position).commands = []) ∨
    ∃ header, CaptureHeader.parse (dump.drop position) position = .ok header ∧
      (parse dump position).version = header.version ∧
      header.dataSize.toNat ≤ (dump.drop (position + CaptureHeader.size)).length ∧
      ((parse dump position).commands, (parse dump position).failure)
        = Command.decodeAll header.version 0
            ((dump.drop (position + CaptureHeader.size)).take header.dataSize.toNat) := by
  dsimp only [parse]
  cases hheaded : CaptureHeader.parse (dump.drop position) position with
  | error cause => exact .inl ⟨cause, rfl, commandOffset?_of_parseHeader hheaded, rfl⟩
  | ok header =>
      dsimp only
      cases hdataOf : dataOf header (dump.drop position) with
      | error cause => exact .inl ⟨cause, rfl, commandOffset?_of_dataOf hdataOf, rfl⟩
      | ok data =>
          obtain ⟨hle, rfl⟩ := dataOf_eq_ok hdataOf
          refine .inr ⟨header, rfl, rfl, ?_, ?_⟩
          · rwa [← List.drop_drop, List.length_drop]
          · rw [Bytes.slice, List.drop_drop]

/-- The commands that are kept of a capture spell the start of the bytes behind its header, wherever
it stands and whatever it holds. Without a failure they spell all of its data. If reading ended at a
command, they spell the data in front of the place that the failure names, and that place is where a
command that cannot be read starts. With any other failure no command is kept. -/
theorem parse_spells (dump : Bytes) (position : Nat) :
    let found := parse dump position
    let behind := dump.drop (position + CaptureHeader.size)
    let spelled := found.commands.flatMap (Command.encode found.version)
    spelled <+: behind ∧
    (found.failure = none →
      ∃ header, CaptureHeader.parse (dump.drop position) position = .ok header ∧
        header.dataSize.toNat ≤ behind.length ∧ spelled = behind.take header.dataSize.toNat) ∧
    (∀ cause offset, found.failure = some cause → cause.commandOffset? = some offset →
      (∃ reason, cause.message = "command at data offset " ++ Text.decimal offset ++ reason) ∧
      spelled = behind.take offset ∧
      ∃ header, CaptureHeader.parse (dump.drop position) position = .ok header ∧
        offset < header.dataSize.toNat ∧ header.dataSize.toNat ≤ behind.length ∧
        Command.decode found.version offset ((behind.take header.dataSize.toNat).drop offset)
          = .error cause) ∧
    (∀ cause, found.failure = some cause → cause.commandOffset? = none → found.commands = []) := by
  intro found behind spelled
  rcases parse_cases dump position with ⟨cause, hfailure, hheaded, hcommands⟩ |
    ⟨header, hparse, hversion, hle, hpair⟩
  -- The header is bad, so there are no commands to spell anything.
  · have hblank : spelled = [] := by
      change (parse dump position).commands.flatMap _ = []
      rw [hcommands]
      rfl
    refine ⟨hblank ▸ List.nil_prefix, fun hclean => ?_,
      fun other offset hisCause hcommandOffset => ?_, fun _ _ _ => hcommands⟩
    · cases hfailure.symm.trans hclean
    · cases hfailure.symm.trans hisCause
      cases hheaded.symm.trans hcommandOffset
  · have hlocated := Command.decodeAll_spells header.version 0
      ((dump.drop (position + CaptureHeader.size)).take header.dataSize.toNat)
    rw [← hpair] at hlocated
    -- The commands spell a part of the data, and what is left of it is nothing, or the command that
    -- failed.
    obtain ⟨rest, hcovered, hends⟩ := hlocated
    rw [← hversion, Nat.zero_add] at hends
    rw [← hversion] at hcovered
    replace hcovered : behind.take header.dataSize.toNat = spelled ++ rest := hcovered
    have hisPrefix : spelled <+: behind :=
      (hcovered ▸ List.prefix_append spelled rest).trans (List.take_prefix _ _)
    refine ⟨hisPrefix, fun hclean => ⟨header, hparse, hle, ?_⟩,
      fun cause offset hfailure hcommandOffset => ?_, fun cause hfailure hheaded => ?_⟩
    · simp only [found, hclean] at hends
      rw [hcovered, hends, List.append_nil]
    · simp only [found, hfailure] at hends
      obtain ⟨hne, hbroken⟩ := hends
      obtain rfl : spelled.length = offset :=
        Option.some.inj ((Command.commandOffset?_of_decode hbroken).symm.trans hcommandOffset)
      have hlength := congrArg List.length hcovered
      rw [List.length_take, Nat.min_eq_left hle, List.length_append] at hlength
      have hlt : 0 < rest.length := List.length_pos_iff.mpr hne
      refine ⟨CaptureError.message_of_commandOffset? hcommandOffset, List.prefix_iff_eq_take.mp
        hisPrefix, header, hparse, by omega, hle, ?_⟩
      rw [hcovered, List.drop_left]
      exact hbroken
    · simp only [found, hfailure] at hends
      cases hheaded.symm.trans (Command.commandOffset?_of_decode hends.2)

/-- A stray byte, and behind it a capture whose second command does not cover its own header. -/
def damagedDump : Bytes :=
  [0x47] ++ CaptureHeader.encode { version := 2, dataSize := 21 }
    ++ Command.encode 2 ⟨20020, 20, [7]⟩ ++ Bytes.ofNatLE 4 20020 ++ Bytes.ofNatLE 4 3

/-- The first command is kept, and the failure names the place behind its 13 bytes. -/
theorem parse_spells_damagedDump :
    let found := parse damagedDump 1
    found.failure = some (.badCommandSize 13 3) ∧
      found.commands.flatMap (Command.encode found.version) = (damagedDump.drop 57).take 13 := by
  intro found
  have hfailure : found.failure = some (.badCommandSize 13 3) := by decide +kernel
  obtain ⟨-, -, hlocated, -⟩ := parse_spells damagedDump 1
  obtain ⟨-, hflatMap, -⟩ := hlocated _ 13 hfailure rfl
  exact ⟨hfailure, hflatMap⟩

end CapturedStream

end CallStream
