import CallStream.Listing.Command
import CallStream.Proofs.Codec.Typing
import CallStream.Proofs.Listing.Follows

/-!
# The listing and the codec accept the same payloads

The listing reads a payload by itself: it looks a count up before it reads the sentinel, it does not
compare a count with the bytes ahead, it takes handles for words, and it has its own code for the
headers of structures. It still accepts exactly what the codec accepts and sees the same values.

The induction runs over the layout. It carries what is known of the fields read so far: each has
its name in the scope, and one that counts others is absent or holds a word. So the count of an
optional array, which lies at its own level, is always there (`Scoped.elementCount`), and looking it
up early does no harm.

## Main results

* `follows_fields`: the listing of fields follows their reading.
* `command_agrees_with_codec`: a command is listed to its end exactly if the codec reads all of its
  payload, and then both see the same parameters.
-/

namespace CallStream

open Decoding

/-! ### What counts in a scope -/

/-- The value counts something: nothing if it is absent, and else a word. -/
def Value.IsCount (value : Value) : Prop := value = .absent ∨ ∃ word, value.toWord? = some word

/-- What is known of the values read for the fields in `earlier`. The listing looks up counts before
it reads on, and this is why they are there. -/
structure Scoped (earlier : List FieldSpec) (scope : Record) : Prop where
  names : scope.map (·.1) = earlier.map (·.name)
  /-- A field that counts others holds a count. -/
  isCount {name : String} {counter : FieldSpec} {divisor : Nat}
    (hnamed : FieldSpec.named? earlier name = some counter)
    (hcounts : counter.counts divisor = true) :
    ∃ value, Record.get? scope name = some value ∧ value.IsCount

/-- Where nothing was read, nothing counts. -/
theorem scoped_nil : Scoped [] [] where
  names := rfl
  isCount hnamed := by cases hnamed

/-- A value that was read for a further field is added. -/
theorem Scoped.concat {earlier : List FieldSpec} {scope : Record} (h : Scoped earlier scope)
    {spec : FieldSpec} (hfresh : FieldSpec.named? earlier spec.name = none) {value : Value}
    (hcount : ∀ {divisor}, spec.counts divisor = true → value.IsCount) :
    Scoped (earlier ++ [spec]) (scope ++ [(spec.name, value)]) where
  names := by simp [h.names]
  isCount {name counter divisor} hnamed hcounts := by
    unfold FieldSpec.named? at hnamed
    rw [List.find?_append, Option.or_eq_some_iff] at hnamed
    rcases hnamed with hnamed | ⟨-, hnamed⟩
    · obtain ⟨other, hget, hisCount⟩ := h.isCount hnamed hcounts
      refine ⟨other, ?_, hisCount⟩
      rw [Record.get?, List.lookup_append, show List.lookup name scope = some other from hget,
        Option.some_or]
    · have hbeq := List.find?_some hnamed
      obtain rfl := List.mem_singleton.mp (List.mem_of_find?_eq_some hnamed)
      obtain rfl := beq_iff_eq.mp hbeq
      refine ⟨value, ?_, hcount hcounts⟩
      rw [Record.get?_append_of_fresh h.names hfresh, Record.get?, List.lookup_cons_self]

/-- The count of an optional array can always be told. -/
theorem Scoped.elementCount {earlier : List FieldSpec} {scope : Record} (h : Scoped earlier scope)
    {spec : FieldSpec} (hplaced : spec.Placed earlier) (hoptional : spec.isOptional = true) :
    ∃ count, spec.elementCount (ε := Empty) scope = .ok count := by
  cases hcount : spec.count with
  | one => exact ⟨none, FieldSpec.elementCount_eq_none_iff.mpr hcount⟩
  | fixed n => exact ⟨some n, by rw [FieldSpec.elementCount, hcount]⟩
  | field path divisor =>
      obtain ⟨name, rfl⟩ := hplaced.near hcount hoptional
      obtain ⟨counter, hcounter, hcounts⟩ := hplaced.counter hcount
      obtain ⟨value, hget, rfl | ⟨word, hisWord⟩⟩ := h.isCount hcounter hcounts
      · exact ⟨some 0, (FieldSpec.elementCount_eq_some_iff hcount).mpr
          ⟨.absent, hget, Or.inl ⟨rfl, rfl⟩⟩⟩
      · exact ⟨some _, (FieldSpec.elementCount_eq_some_iff hcount).mpr
          ⟨value, hget, Or.inr ⟨word, hisWord, rfl⟩⟩⟩

section Counters

variable {mapping : HandleMapping} {cursor after : Cursor} {value : Value}

/-- An element of a field that counts others is a word. -/
theorem toWord?_of_decodeElement {spec : FieldSpec} {divisor : Nat}
    (hcounts : spec.counts divisor = true)
    (h : decodeElement (HandleMapper.identity (σ := Unit) (ε := Empty)) mapping spec.name spec.type
      (cursor, ()) = .ok value (after, ())) : ∃ word, value.toWord? = some word := by
  obtain ⟨name, type, isOptional, count⟩ := spec
  simp only [FieldSpec.counts, Bool.and_eq_true] at hcounts
  cases type with
  | int type =>
      have hunsigned : type.signed = false := by
        have hunsigned := (Bool.and_eq_true_iff.mp hcounts.2).1
        rwa [Bool.not_eq_true'] at hunsigned
      simp only [decodeElement, hunsigned, Bool.false_eq_true, if_false] at h
      obtain ⟨word, _, -, hpure⟩ := bind_eq_ok_iff.mp h
      obtain ⟨rfl, -⟩ := pure_eq_ok_iff.mp hpure
      exact ⟨word, rfl⟩
  | enum table | flags table =>
      obtain ⟨word, _, -, hpure⟩ := bind_eq_ok_iff.mp h
      obtain ⟨rfl, -⟩ := pure_eq_ok_iff.mp hpure
      exact ⟨word.toUInt64, rfl⟩
  | handle type =>
      obtain ⟨_, _, -, hbind⟩ := bind_eq_ok_iff.mp h
      obtain ⟨word, _, -, hpure⟩ := bind_eq_ok_iff.mp hbind
      obtain ⟨rfl, -⟩ := pure_eq_ok_iff.mp hpure
      exact ⟨word, rfl⟩
  -- Such fields count nothing.
  | float32 | text encoding | struct schema => cases hcounts.2

/-- A field that counts others holds a count. -/
theorem isCount_of_decodeField {spec : FieldSpec} {divisor : Nat}
    (hcounts : spec.counts divisor = true) {scope : Record}
    (h : decodeField (HandleMapper.identity (σ := Unit) (ε := Empty)) mapping spec scope
      (cursor, ())
      = .ok value (after, ())) : value.IsCount := by
  have hsingle : spec.count = .one := by
    simp only [FieldSpec.counts, Bool.and_eq_true, beq_iff_eq] at hcounts
    exact hcounts.1
  have hcontent : decodeContent (HandleMapper.identity (σ := Unit) (ε := Empty)) mapping spec scope
      = decodeElement HandleMapper.identity mapping spec.name spec.type := by
    rw [decodeContent_eq, FieldSpec.elementCount_eq_none_iff.mpr hsingle]
  cases hoptional : spec.isOptional with
  | false =>
      rw [decodeField_of_required hoptional, hcontent] at h
      exact Or.inr (toWord?_of_decodeElement hcounts h)
  | true =>
      rw [decodeField_of_optional hoptional, hcontent] at h
      obtain ⟨present, ⟨middle, _⟩, -, hbranch⟩ := bind_eq_ok_iff.mp h
      cases present with
      | false => exact Or.inl (pure_eq_ok_iff.mp hbranch).1.symm
      | true => exact Or.inr (toWord?_of_decodeElement hcounts hbranch)

end Counters

namespace Listing

variable (mapping : HandleMapping)

/-- A single value and an array of them are listed as they are read, spelled in any two ways. -/
theorem follows_leaf {α : Type} {read : Read Empty α} (wrap : α → Value) {wrap' : α → Value}
    {type : FieldType} {name : String} {count : Option Nat}
    (hdecodes : decodeElement (HandleMapper.identity (σ := Unit)) mapping name type
      = onCursor read >>= fun value => pure (wrap value))
    (hsame : ∀ value, (wrap value).plain = wrap' value)
    (hroom : count ≠ none → type.hasSize = true → 0 < type.minSize) (spell spell' : α → String)
    (level : Nat) {listing : Listing Value}
    (hone : count = none → listing = single read spell wrap' name level)
    (hmany : ∀ n, count = some n → listing = array read spell' wrap' name n level) :
    Follows listing (decodeElements HandleMapper.identity mapping name type count)
      Value.plain := by
  obtain rfl : (fun value => (wrap value).plain) = wrap' := funext hsame
  cases count with
  | none =>
      rw [hone rfl]
      exact follows_one mapping hdecodes (follows_single read spell _ name level)
  | some n =>
      rw [hmany n rfl]
      exact follows_many mapping (hroom (by simp)) hdecodes
        (follows_array read spell' _ name n level)

/-- So are values that are spelled alike in both. -/
theorem follows_values {α : Type} {read : Read Empty α} (wrap : α → Value) {wrap' : α → Value}
    {type : FieldType} {name : String} {count : Option Nat}
    (hdecodes : decodeElement (HandleMapper.identity (σ := Unit)) mapping name type
      = onCursor read >>= fun value => pure (wrap value))
    (hsame : ∀ value, (wrap value).plain = wrap' value)
    (hroom : count ≠ none → type.hasSize = true → 0 < type.minSize) (spell : α → String)
    (level : Nat) :
    Follows (values read spell wrap' name count level)
      (decodeElements HandleMapper.identity mapping name type count) Value.plain := by
  refine follows_leaf mapping wrap hdecodes hsame hroom spell spell level ?_ ?_
  · rintro rfl
    rfl
  · rintro n rfl
    rfl

/-- The sentinel of an optional field is listed as it is read, and so is its value if it has one. -/
theorem follows_absence (name : String) (level : Nat) :
    Follows (absence name level) (onCursor Cursor.readSentinel : Decoding Unit Empty Bool)
      (fun present => !present) := by
  refine (follows_readValue _).andThen fun present => ?_
  cases present with
  | false => exact (follows_pure false fun present => !present).write _
  | true => exact follows_pure true fun present => !present

/-- What lies behind a sentinel is listed as it is read, once its count was told. -/
theorem follows_decodeContent {spec : FieldSpec} {earlier : List FieldSpec} {level : Nat}
    (hplaced : spec.Placed earlier)
    (helement : ∀ count, (count ≠ none → spec.type.hasSize = true → 0 < spec.type.minSize) →
      Follows (elements spec.name count level spec.type)
        (decodeElements (HandleMapper.identity (σ := Unit)) mapping spec.name spec.type count)
        Value.plain)
    {scope : Record} {count : Option Nat}
    (helementCount : spec.elementCount (ε := Empty) scope = .ok count) :
    Follows (elements spec.name count level spec.type)
      (decodeContent (HandleMapper.identity (σ := Unit)) mapping spec scope) Value.plain := by
  rw [decodeContent, helementCount]
  refine helement count fun harray => hplaced.takesRoom fun hcount => harray ?_
  rw [FieldSpec.elementCount_eq_none_iff.mpr hcount] at helementCount
  cases helementCount
  rfl

mutual

/-- The elements of a field are listed as they are read. -/
theorem follows_elements (name : String) (level : Nat) : (type : FieldType) →
    type.wellLaid = true → (count : Option Nat) →
    (count ≠ none → type.hasSize = true → 0 < type.minSize) →
    Follows (elements name count level type)
      (decodeElements (HandleMapper.identity (σ := Unit)) mapping name type count) Value.plain
  | .int type, _, count, hroom => by
      by_cases hsigned : type.signed = true
      · refine follows_leaf mapping Value.sint (by rw [decodeElement, if_pos hsigned])
          (fun _ => rfl) hroom (fun value => intText value.toInt)
          (fun value => Text.signedMarkedHex value.toInt) level ?_ ?_
        · rintro rfl
          rw [elements, int, if_pos hsigned]
          rfl
        · rintro n rfl
          rw [elements, ints, if_pos hsigned]
          rfl
      · refine follows_leaf mapping Value.uint (by rw [decodeElement, if_neg hsigned])
          (fun _ => rfl) hroom (fun value => intText value.toNat)
          (fun value => Text.markedHex value.toNat) level ?_ ?_
        · rintro rfl
          rw [elements, int, if_neg hsigned]
          rfl
        · rintro n rfl
          rw [elements, ints, if_neg hsigned]
          rfl
  -- Handles are listed as numbers.
  | .handle type, _, count, hroom => by
      refine follows_leaf mapping Value.handle rfl (fun _ => rfl) hroom
        (fun value => intText value.toNat) (fun value => Text.markedHex value.toNat) level ?_ ?_
      · rintro rfl
        rfl
      · rintro n rfl
        rfl
  | .float32, _, count, hroom =>
      follows_values mapping Value.float rfl (fun _ => rfl) hroom floatText level
  | .enum table, _, count, hroom =>
      follows_values mapping Value.enum rfl (fun _ => rfl) hroom (enumText table) level
  | .flags table, _, count, hroom =>
      follows_values mapping Value.flags rfl (fun _ => rfl) hroom (flagsText table) level
  | .text encoding, _, count, hroom =>
      follows_values mapping Value.text rfl (fun _ => rfl) hroom textText level
  | .struct schema, hlaid, none, _ => by
      have hinside := follows_struct (level + 1) schema hlaid
      exact follows_one mapping rfl ((hinside.andThen fun fields =>
        follows_pure fields fun fields => Value.struct fields.plain).write _)
  | .struct schema, hlaid, some n, hroom => by
      have hinside := follows_struct (level + 1) schema hlaid
      -- Each structure gets a line with its number in front.
      have hturn (index : Nat) : Follows
          (writeLine level s!"{name} #{Text.decimal index}:" >>= fun _ => struct (level + 1) schema)
          (decodeStruct HandleMapper.identity mapping schema) Record.plain := hinside.write _
      refine follows_many mapping (hroom (by simp)) rfl ?_
      refine (Follows.numbered hturn 0 n).andThen fun records => ?_
      rw [List.map_map]
      exact follows_pure records fun records => Value.array (records.map fun fields =>
        Value.struct fields.plain)
termination_by structural type => type

/-- A structure is listed as it is read. -/
theorem follows_struct (level : Nat) : (schema : StructSchema) → schema.wellLaid = true →
    Follows (struct level schema)
      (decodeStruct (HandleMapper.identity (σ := Unit)) mapping schema) Record.plain
  | ⟨name, tag, members⟩, hlaid =>
      (follows_header name tag level).bind fun _ =>
        follows_fields level members [] hlaid [] scoped_nil
termination_by structural schema => schema

/-- A field is listed as it is read, although its count is looked up first. -/
theorem follows_field (level : Nat) : (spec : FieldSpec) → (earlier : List FieldSpec) →
    spec.Placed earlier → (scope : Record) → Scoped earlier scope →
    Follows (field level spec scope.plain)
      (decodeField (HandleMapper.identity (σ := Unit)) mapping spec scope) Value.plain
  | ⟨name, type, isOptional, count⟩, earlier, hplaced, scope, hscoped => by
      have helements := follows_elements name level type hplaced.type_wellLaid
      rw [field, FieldSpec.elementCount_plain]
      cases isOptional with
      | false =>
          rw [decodeField_of_required rfl]
          cases helementCount : FieldSpec.elementCount (ε := Empty) ⟨name, type, false, count⟩
            scope with
          | error failure =>
              rw [decodeContent, helementCount]
              exact follows_throw _ failure Value.plain
          | ok found => exact follows_decodeContent mapping hplaced helements helementCount
      | true =>
          -- The listing counts before it looks at the mark; in a scope that was read this cannot
          -- fail.
          obtain ⟨found, helementCount⟩ := hscoped.elementCount hplaced rfl
          rw [decodeField_of_optional rfl, helementCount]
          refine (follows_absence name level).bind fun {_ _ present} _ => ?_
          cases present with
          | false => exact follows_pure .absent Value.plain
          | true => exact follows_decodeContent mapping hplaced helements helementCount
termination_by structural spec => spec

/-- The listing of fields follows their decoding, and each leaves behind the values that the other
does, as far as a listing needs them. -/
theorem follows_fields (level : Nat) : (specs earlier : List FieldSpec) →
    FieldSpec.allWellLaid specs earlier = true → (scope : Record) → Scoped earlier scope →
    Follows (fields level specs scope.plain)
      (decodeFields (HandleMapper.identity (σ := Unit)) mapping specs scope) Record.plain
  | [], _, _, scope, _ => follows_pure scope Record.plain
  | spec :: rest, earlier, hlaid, scope, hscoped => by
      simp only [FieldSpec.allWellLaid, Bool.and_eq_true] at hlaid
      have hplaced := FieldSpec.placed_of_wellLaid hlaid.1
      refine (follows_field level spec earlier hplaced scope hscoped).bind
        fun {_ _ value} hdecodeField => ?_
      have hfollows :=
        follows_fields level rest (earlier ++ [spec]) hlaid.2 (scope ++ [(spec.name, value)])
          (hscoped.concat hplaced.fresh fun hcounts => isCount_of_decodeField hcounts hdecodeField)
      rwa [Record.plain_append] at hfollows
termination_by structural specs => specs

end

end Listing

/-! ### Captured calls -/

namespace CallDescriptor

/-- Reads the parameters of a call as a capture records them: behind a sequence number, unless the
call is recorded into a command buffer. -/
def decodeCaptured (call : CallDescriptor) (mapping : HandleMapping) :
    Decoding Unit Empty Record := do
  if !call.isRecorded then
    let _ ← onCursor Cursor.readU32
  decodeFields HandleMapper.identity mapping (call.capturedParams.map (·.field)) []

/-- The codec reads all of a captured payload, and there is nothing behind the parameters. The
listing shows the parameters of exactly these commands. -/
def AcceptsCaptured (call : CallDescriptor) (mapping : HandleMapping) (payload : Bytes) : Prop :=
  ∃ record after, call.decodeCaptured mapping (Cursor.start payload, ()) = .ok record (after, ()) ∧
    after.rest = []

end CallDescriptor

namespace Listing

variable {mapping : HandleMapping} {call : CallDescriptor}

/-- The parameters of a captured call are listed as they are read. -/
theorem follows_params (hmem : call ∈ CallDescriptor.catalog) (level : Nat) :
    Follows (params call level) (call.decodeCaptured mapping) Record.plain := by
  have hfollows := follows_fields mapping level (call.capturedParams.map (·.field)) []
    (CallDescriptor.capturedFields_wellLaid call hmem) [] scoped_nil
  unfold params CallDescriptor.decodeCaptured
  cases call.isRecorded with
  | true => exact hfollows
  | false =>
      have hword : Follows (int "seqno" .u32 level) (onCursor (Cursor.readUInt .u32)) Value.uint :=
        follows_single _ _ _ "seqno" level
      simp only [Bool.not_false, if_true, Cursor.readU32, onCursor_bind, bind_assoc]
      exact hword.bind fun _ => hfollows

/-- A payload is listed to its end only if the codec reads all of it. -/
theorem accepts_of_payload (hmem : call ∈ CallDescriptor.catalog) {bytes : Bytes}
    {sink : TextSink} {last : Cursor × TextSink}
    (h : payload call (Cursor.start bytes, sink) = .ok () last) :
    call.AcceptsCaptured mapping bytes := by
  obtain ⟨record, ⟨after, final⟩, hparams, hexpectEnd⟩ := bind_eq_ok_iff.mp h
  obtain ⟨value, hdecodeCaptured, -⟩ := (follows_params hmem Command.paramLevel).of_ok hparams
  refine ⟨value, after, hdecodeCaptured, ?_⟩
  simp only [expectEnd] at hexpectEnd
  split at hexpectEnd
  · next hatEnd => exact List.isEmpty_iff.mp hatEnd
  · cases hexpectEnd

/-- A payload that the codec reads to its end is listed to its end, if the sink takes all text. -/
theorem payload_of_accepts (hmem : call ∈ CallDescriptor.catalog) {bytes : Bytes}
    (h : call.AcceptsCaptured mapping bytes) {sink : TextSink} (hisOpen : sink.isOpen) :
    ∃ last, payload call (Cursor.start bytes, sink) = .ok () last := by
  obtain ⟨value, after, hdecodeCaptured, hrest⟩ := h
  obtain ⟨last, hparams, -⟩ :=
    (follows_params hmem Command.paramLevel).ok_of_isOpen hdecodeCaptured hisOpen
  refine ⟨(after, last), (bind_of_ok hparams).trans ?_⟩
  simp only [expectEnd, Cursor.atEnd, hrest, List.isEmpty_nil, if_true]

/-- The reason and the bytes do not make a success of a failure. -/
theorem payload_of_payloadOrDump {command : Command} {state last : Cursor × TextSink}
    (h : payloadOrDump command call state = .ok () last) : payload call state = .ok () last := by
  unfold payloadOrDump at h
  cases hpayload : payload call state with
  | ok value reached =>
      rw [hpayload] at h
      exact h
  | error cause reached =>
      rw [hpayload] at h
      obtain ⟨_, _, -, h⟩ := bind_eq_ok_iff.mp h
      obtain ⟨_, _, -, h⟩ := bind_eq_ok_iff.mp h
      obtain ⟨_, _, -, h⟩ := bind_eq_ok_iff.mp h
      cases h

/-- Behind the title, listing a known call is listing its payload. -/
theorem command_of_known {command : Command}
    (hopcode : CallDescriptor.ofOpcode? command.opcode = some call) (hcaptured : command.data ≠ [])
    (stream index : Nat) (cursor : Cursor) (sink : TextSink) :
    Listing.command command stream index (cursor, sink)
      = (write (command.title stream index) >>= fun _ => payloadOrDump command call)
          (Cursor.start command.data, sink) := by
  have hnonempty : command.data.isEmpty = false := by simpa using hcaptured
  simp only [Listing.command, hnonempty, hopcode, Bool.not_false, if_true]
  rfl

/-- A captured call is listed without a failure exactly if the codec reads its payload to the end,
and the parameters listed are the plain form of those read. A sink that refuses text can only add
failures. -/
theorem command_agrees_with_codec {command : Command}
    (hopcode : CallDescriptor.ofOpcode? command.opcode = some call) (hcaptured : command.data ≠ [])
    (mapping : HandleMapping) (stream index level : Nat) (cursor : Cursor) (sink : TextSink) :
    (sink.isOpen → ((∃ last, Listing.command command stream index (cursor, sink) = .ok () last) ↔
        call.AcceptsCaptured mapping command.data)) ∧
      ((∃ last, Listing.command command stream index (cursor, sink) = .ok () last) →
        call.AcceptsCaptured mapping command.data) ∧
      ∀ listed record after reached,
        params call level (Cursor.start command.data, sink) = .ok listed after →
        call.decodeCaptured mapping (Cursor.start command.data, ()) = .ok record reached →
        listed = record.plain := by
  have hcataloged := (CallDescriptor.ofOpcode?_eq_some hopcode).1
  rw [command_of_known hopcode hcaptured]
  have haccepts : (∃ last, (write (command.title stream index) >>= fun _ =>
        payloadOrDump command call) (Cursor.start command.data, sink) = .ok () last) →
      call.AcceptsCaptured mapping command.data := by
    rintro ⟨last, hlisted⟩
    obtain ⟨_, ⟨start, titled⟩, hwrite, hlisted⟩ := bind_eq_ok_iff.mp hlisted
    obtain ⟨_, hunmoved, -⟩ := (follows_write _).of_ok hwrite
    cases hunmoved
    exact accepts_of_payload hcataloged (payload_of_payloadOrDump hlisted)
  refine ⟨fun hisOpen => ⟨haccepts, fun haccepted => ?_⟩, haccepts, ?_⟩
  · have hunmoved : (pure () : Decoding Unit Empty Unit) (Cursor.start command.data, ())
        = .ok () (Cursor.start command.data, ()) := rfl
    obtain ⟨titled, hwrite, hstays⟩ := (follows_write _).ok_of_isOpen hunmoved hisOpen
    obtain ⟨last, hlisted⟩ := payload_of_accepts hcataloged haccepted hstays
    -- The bytes need no dump, because they are listed to their end.
    refine ⟨last, (bind_of_ok hwrite).trans ?_⟩
    simp only [payloadOrDump, hlisted]
  · rintro listed record ⟨after, last⟩ reached haccepted hdecodeCaptured
    obtain ⟨value, hfound, rfl⟩ := (follows_params hcataloged level).of_ok haccepted
    cases hfound.symm.trans hdecodeCaptured
    rfl

/-- The status of fence 9 of device 8, asked for by the call that was numbered 1. -/
def fenceStatusCommand : Command where
  opcode := 20038
  fullSize := 28
  data := [1, 0, 0, 0, 8, 0, 0, 0, 0, 0, 0, 0, 9, 0, 0, 0, 0, 0, 0, 0]

/-- Its data spell the call, so it is listed. -/
theorem fenceStatusCommand_agrees :
    CallDescriptor.ofOpcode? fenceStatusCommand.opcode = some CallDescriptor.getFenceStatus ∧
      fenceStatusCommand.data ≠ [] ∧
      ∃ last, Listing.command fenceStatusCommand 0 0 (Cursor.start [], {}) = .ok () last := by
  have hopcode : CallDescriptor.ofOpcode? fenceStatusCommand.opcode
      = some CallDescriptor.getFenceStatus := rfl
  have hcaptured : fenceStatusCommand.data ≠ [] := by decide
  have hacceptsCaptured : CallDescriptor.getFenceStatus.AcceptsCaptured .normal
      fenceStatusCommand.data :=
    ⟨_, _, rfl, rfl⟩
  exact ⟨hopcode, hcaptured, ((command_agrees_with_codec hopcode hcaptured .normal 0 0 0 _ {}).1
    ⟨rfl, rfl⟩).mpr hacceptsCaptured⟩

end Listing

end CallStream
