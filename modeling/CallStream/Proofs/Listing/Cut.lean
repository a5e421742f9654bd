import CallStream.Listing.Command
import CallStream.Proofs.Codec.Truncation

/-!
# Listings of payloads that are cut short

A listing writes only what it has read, so that the listing of a payload which is cut short is the
start of the listing of the whole payload. It ends where the bytes end: up to there both see the
same bytes and write the same text, and behind it the longer one can only add to its text.

If the whole payload is listed, and the cut lies in what was read of it, the shorter listing fails
because its payload ends there. It can neither find anything else wrong, because the longer listing
would find it, too, nor come to its end, because the longer one would end at the same place.

Both hold of any layout; what a layout counts and where it has structures is the same for both
listings as long as they have read the same.

## Main results

* `Continues.bind`: a chain is continued in a longer payload if its parts are.
* `continues_fields`: the listing of fields is continued.
* `params_of_prefix`: the listing of a call whose payload is cut short.
-/

namespace CallStream

/-- The cursor at the same place of a payload that has `suffix` behind it. A cut payload and the
whole one are compared in this way. -/
def Cursor.extend (cursor : Cursor) (suffix : Bytes) : Cursor :=
  ⟨cursor.position, cursor.rest ++ suffix⟩

/-- The failure is that the payload ends before the bytes that a value needs. -/
def ListingError.IsEnd : ListingError → Prop
  | .wire cause => cause.IsEnd
  | _ => False

namespace Listing

variable {α β : Type}

/-! ### What a listing leaves -/

/-- Text was added, and the cursor moved in its payload. Nothing that was printed is taken back,
also when the listing fails. -/
structure Adds (before after : Cursor × TextSink) : Prop where
  text : ∃ more, after.2.text = before.2.text ++ more
  length : after.1.length = before.1.length

/-- What was added can be added to. -/
instance : IsPreorder (Cursor × TextSink) Adds where
  refl state := ⟨⟨"", String.append_empty.symm⟩, rfl⟩
  trans _ _ _ hadds hsecond := by
    obtain ⟨more, hadded⟩ := hadds.text
    obtain ⟨further, haddedRest⟩ := hsecond.text
    exact ⟨⟨more ++ further, by rw [haddedRest, hadded, String.append_assoc]⟩,
      hsecond.length.trans hadds.length⟩

/-- What a listing makes of a payload is continued by what it makes of a longer one. If it succeeds,
it does the same there. If it fails because the payload ends, the text is the start of what it
writes there. If it fails for anything else, it fails alike. -/
structure Continues (listing : Listing α) : Prop where
  adds (state : Cursor × TextSink) : Adds state (stateOf (listing state))
  ok {cursor after : Cursor} {sink last : TextSink} {value : α}
    (h : listing (cursor, sink) = .ok value (after, last)) (suffix : Bytes) :
    listing (cursor.extend suffix, sink) = .ok value (after.extend suffix, last)
  error {cursor after : Cursor} {sink last : TextSink} {cause : ListingError}
    (h : listing (cursor, sink) = .error cause (after, last)) (suffix : Bytes) :
    (cause.IsEnd ∧
      ∃ more, (stateOf (listing (cursor.extend suffix, sink))).2.text = last.text ++ more) ∨
    listing (cursor.extend suffix, sink) = .error cause (after.extend suffix, last)

/-! ### Chains -/

/-- A listing that reads nothing is continued by itself. -/
theorem continues_pure (value : α) : Continues (pure value) where
  adds state := refl_of Adds state
  ok h suffix := by
    obtain ⟨rfl, hpair⟩ := pure_eq_ok_iff.mp h
    cases hpair
    rfl
  error h := by cases h

/-- A listing that fails without reading does so with any payload. -/
theorem continues_throw (cause : ListingError) : Continues (throw cause : Listing α) where
  adds state := refl_of Adds state
  ok h := by cases h
  error h suffix := by
    cases h
    exact .inr rfl

/-- The text of a chain starts with that of its first part. -/
theorem adds_bind {listing : Listing α} {next : α → Listing β}
    (htail : ∀ value, Continues (next value)) (state : Cursor × TextSink) :
    Adds (stateOf (listing state)) (stateOf ((listing >>= next) state)) := by
  cases h : listing state with
  | ok value middle =>
      rw [bind_of_ok h]
      exact (htail value).adds middle
  | error cause middle =>
      rw [bind_of_error h]
      exact refl_of Adds middle

/-- Listings one after the other are continued, if each of them is for whatever the first one
gives. -/
theorem Continues.bind {listing : Listing α} {next : α → Listing β} (hcontinues : Continues listing)
    (htail : ∀ value, Continues (next value)) : Continues (listing >>= next) where
  adds state := trans_of Adds (hcontinues.adds state) (adds_bind htail state)
  ok h suffix := by
    obtain ⟨value, ⟨reached, middle⟩, hfirst, hsecond⟩ := bind_eq_ok_iff.mp h
    exact (bind_of_ok (hcontinues.ok hfirst suffix)).trans ((htail value).ok hsecond suffix)
  error {cursor _ sink _ _} h suffix := by
    rcases bind_eq_error_iff.mp h with hfirst | ⟨value, ⟨reached, middle⟩, hfirst, hsecond⟩
    · rcases hcontinues.error hfirst suffix with ⟨hisEnd, more, hstarted⟩ | herror
      · have hgoesOn : Adds _ (stateOf ((listing >>= next) (cursor.extend suffix, sink))) :=
          adds_bind htail (cursor.extend suffix, sink)
        obtain ⟨further, hadded⟩ := hgoesOn.text
        exact .inl ⟨hisEnd, more ++ further, by rw [hadded, hstarted, String.append_assoc]⟩
      · exact .inr (bind_of_error herror)
    · have hlonger : (listing >>= next) (cursor.extend suffix, sink) = _ :=
        bind_of_ok (hcontinues.ok hfirst suffix)
      rcases (htail value).error hsecond suffix with ⟨hisEnd, hstarted⟩ | herror
      · exact .inl ⟨hisEnd, by rwa [hlonger]⟩
      · exact .inr (hlonger.trans herror)

/-- Repeated listings are continued, each in its turn. -/
theorem Continues.readMany {listing : Listing α} (hcontinues : Continues listing) (count : Nat) :
    Continues (readMany listing count) := by
  induction count with
  | zero => exact continues_pure []
  | succ count ih =>
    exact hcontinues.bind fun first => ih.bind fun others => continues_pure (first :: others)

/-- So it is for the elements of an array, each listed under its number. -/
theorem Continues.numbered {step : Nat → Listing α} (heach : ∀ index, Continues (step index))
    (index count : Nat) : Continues (numbered step index count) := by
  induction count generalizing index with
  | zero => exact continues_pure []
  | succ count ih =>
      exact (heach index).bind fun first => (ih (index + 1)).bind fun others =>
        continues_pure (first :: others)

/-! ### Text -/

/-- What is written does not depend on the bytes ahead. -/
theorem continues_write (text : String) : Continues (write text) where
  adds := by
    rintro ⟨cursor, sink⟩
    simp only [write, TextSink.write]
    split
    · next hbranch =>
        split at hbranch
        · cases hbranch
          -- The sink took the piece whole.
          exact ⟨⟨text, rfl⟩, rfl⟩
        · cases hbranch
    · next hrefused =>
        split at hrefused
        · cases hrefused
        · cases hrefused
          exact ⟨⟨"", String.append_empty.symm⟩, rfl⟩
  ok {cursor after sink last value} h suffix := by
    simp only [write] at h ⊢
    split at h
    · cases h
      rfl
    · cases h
  error {cursor after sink last cause} h suffix := by
    simp only [write] at h ⊢
    split at h
    · cases h
    · cases h
      -- A sink that is full refuses whatever bytes lie ahead.
      exact .inr rfl

/-! ### Reads -/

/-- Reads one after the other are listings one after the other that write nothing. -/
theorem readValue_bind (read : Read Empty α) (next : α → Read Empty β) :
    readValue (read >>= next) = readValue read >>= fun value => readValue (next value) := by
  funext ⟨cursor, sink⟩
  simp only [readValue, bind, EStateM.bind]
  cases read cursor <;> rfl

/-- So are reads of many values. -/
theorem readValue_readMany (read : Read Empty α) (count : Nat) :
    readValue (readMany read count) = readMany (readValue read) count := by
  induction count with
  | zero => rfl
  | succ count ih =>
      simp only [readMany, readValue_bind, ih]
      rfl

/-- A read is continued if it finds the same in a longer payload, and fails for nothing but the end
of the payload. -/
theorem continues_of_ends {read : Read Empty α}
    (hfinds : ∀ {cursor after : Cursor} {value : α}, read cursor = .ok value after →
      after.length = cursor.length ∧ ∀ suffix, read (cursor.extend suffix) =
        .ok value (after.extend suffix))
    (hends : ∀ {cursor after : Cursor} {cause : WireError Empty}, read cursor = .error cause after →
      cause.IsEnd ∧ after = cursor) : Continues (readValue read) := by
  have hadds (state : Cursor × TextSink) : Adds state (stateOf (readValue read state)) := by
    obtain ⟨cursor, sink⟩ := state
    simp only [readValue]
    cases hok : read cursor with
    | ok value after => exact ⟨⟨"", String.append_empty.symm⟩, (hfinds hok).1⟩
    | error cause after =>
        obtain ⟨-, rfl⟩ := hends hok
        exact refl_of Adds _
  refine ⟨hadds, ?_, ?_⟩
  · intro cursor after sink last value h suffix
    obtain ⟨hok, rfl⟩ := readValue_ok_iff.mp h
    exact readValue_ok_iff.mpr ⟨(hfinds hok).2 suffix, rfl⟩
  · intro cursor after sink last cause h suffix
    obtain ⟨more, htext⟩ := (hadds (cursor.extend suffix, sink)).text
    simp only [readValue] at h
    split at h
    · cases h
    · next herror =>
        cases h
        exact .inl ⟨(hends herror).1, more, htext⟩

/-- Where a payload ends does not change while it is read. -/
theorem length_advance {cursor : Cursor} {count : Nat} (hinside : count ≤ cursor.rest.length) :
    (cursor.advance count).length = cursor.length := by
  simp only [Cursor.advance, Cursor.length, List.length_drop]
  omega

/-- Bytes behind a payload are still behind it when some of it has been read. -/
theorem extend_advance {cursor : Cursor} {count : Nat} (hinside : count ≤ cursor.rest.length)
    (suffix : Bytes) : (cursor.extend suffix).advance count = (cursor.advance count).extend
      suffix := by
  simp only [Cursor.advance, Cursor.extend, List.drop_append_of_le_length hinside]

/-- Bytes that lie in a payload lie at the same place in a longer one; that they are missing means
that the payload ends. -/
theorem continues_readBytes (count : Nat) : Continues (readValue (Cursor.readBytes count)) := by
  apply continues_of_ends
  · intro cursor after bytes hreadBytes
    simp only [Cursor.readBytes] at hreadBytes
    split at hreadBytes
    · next hlength =>
        cases hreadBytes
        have hinside : count ≤ cursor.rest.length := by
          rw [← hlength, List.length_take]
          exact Nat.min_le_right _ _
        refine ⟨length_advance hinside, fun suffix => ?_⟩
        have htake : (cursor.extend suffix).rest.take count = cursor.rest.take count :=
          List.take_append_of_le_length hinside
        simp only [Cursor.readBytes, htake, hlength, if_true, extend_advance hinside]
    · cases hreadBytes
  · intro cursor after cause hfailed
    simp only [Cursor.readBytes] at hfailed
    split at hfailed
    · cases hfailed
    · cases hfailed
      exact ⟨trivial, rfl⟩

/-- A zero byte that ends a text ends it in a longer payload, too. -/
theorem continues_readTerminated : Continues (readValue Cursor.readTerminated) := by
  apply continues_of_ends
  · intro cursor after bytes hreadTerminated
    simp only [Cursor.readTerminated] at hreadTerminated
    split at hreadTerminated
    · next hshorter =>
        cases hreadTerminated
        refine ⟨length_advance hshorter, fun suffix => ?_⟩
        -- The text ends in front of its zero, wherever the payload goes on.
        have hstops : (cursor.rest.takeWhile (· != 0)).length ≠ cursor.rest.length :=
          Nat.ne_of_lt hshorter
        have htakeWhile : (cursor.extend suffix).rest.takeWhile (· != 0) =
            cursor.rest.takeWhile (· != 0) := by
          rw [Cursor.extend, List.takeWhile_append, if_neg hstops]
        have hstillShorter : (cursor.rest.takeWhile (· != 0)).length <
            (cursor.extend suffix).remaining := by
          rw [Cursor.remaining, Cursor.extend, List.length_append]
          exact Nat.lt_add_right _ hshorter
        simp only [Cursor.readTerminated, htakeWhile, hstillShorter, if_true,
          extend_advance hshorter]
    · cases hreadTerminated
  · intro cursor after cause hfailed
    simp only [Cursor.readTerminated] at hfailed
    split at hfailed
    · cases hfailed
    · cases hfailed
      exact ⟨trivial, rfl⟩

/-- Numbers are read of bytes. -/
theorem continues_readUInt (type : IntType) : Continues (readValue (Cursor.readUInt type)) := by
  rw [Cursor.readUInt, readValue_bind]
  exact (continues_readBytes _).bind fun bytes => continues_pure (type.decode bytes)

/-- So are numbers with a sign. -/
theorem continues_readSInt (type : IntType) : Continues (readValue (Cursor.readSInt type)) := by
  rw [Cursor.readSInt, readValue_bind]
  exact (continues_readUInt type).bind fun word => continues_pure _

/-- So are words. -/
theorem continues_readU32 : Continues (readValue Cursor.readU32) := by
  rw [Cursor.readU32, readValue_bind]
  exact (continues_readUInt .u32).bind fun word => continues_pure _

/-- So are sentinels, which are double words. -/
theorem continues_readSentinel : Continues (readValue Cursor.readSentinel) := by
  rw [Cursor.readSentinel, readValue_bind]
  exact (continues_readUInt _).bind fun word => continues_pure _

/-- Whether bytes are a text is not looked at before all of them are there. -/
theorem continues_readText (encoding : TextEncoding) (field : String) :
    Continues (readValue (Cursor.readText encoding field)) := by
  have hbytes : Continues (readValue (Cursor.readTextBytes encoding)) := by
    cases encoding with
    | fixed size =>
        rw [Cursor.readTextBytes, readValue_bind]
        exact (continues_readBytes size).bind fun bytes => continues_pure _
    | terminated => exact continues_readTerminated
    | lengthPrefixed =>
        rw [Cursor.readTextBytes, Cursor.readLengthPrefixed, readValue_bind]
        exact (continues_readUInt _).bind fun length => continues_readBytes _
  rw [Cursor.readText, readValue_bind]
  refine hbytes.bind fun bytes => ?_
  cases Bytes.toText? bytes with
  | none => exact continues_throw _
  | some text => exact continues_pure text

/-! ### Values and arrays -/

/-- A value is read and then written on a line. -/
theorem continues_single {read : Read Empty α} (h : Continues (readValue read)) (spell : α → String)
    (wrap : α → Value) (name : String) (level : Nat) :
    Continues (single read spell wrap name level) :=
  h.bind fun _ => (continues_write _).bind fun _ => continues_pure _

/-- An array is written after all of it was read. -/
theorem continues_array {read : Read Empty α} (h : Continues (readValue read)) (spell : α → String)
    (wrap : α → Value) (name : String) (count level : Nat) :
    Continues (array read spell wrap name count level) := by
  have hcontinues : Continues (readValue (readMany read count)) := by
    rw [readValue_readMany]
    exact h.readMany count
  exact hcontinues.bind fun _ => (continues_write _).bind fun _ => continues_pure _

/-- One value or an array of them is listed, by what the field counts. -/
theorem continues_values {read : Read Empty α} (h : Continues (readValue read)) (spell : α → String)
    (wrap : α → Value) (name : String) (count : Option Nat) (level : Nat) :
    Continues (values read spell wrap name count level) := by
  cases count with
  | none => exact continues_single h spell wrap name level
  | some count => exact continues_array h spell wrap name count level

/-- An integer is listed with its sign or without. -/
theorem continues_int (name : String) (type : IntType) (level : Nat) :
    Continues (int name type level) := by
  unfold int
  split
  · exact continues_single (continues_readSInt type) _ _ name level
  · exact continues_single (continues_readUInt type) _ _ name level

/-- So are integers in an array. -/
theorem continues_ints (name : String) (type : IntType) (count level : Nat) :
    Continues (ints name type count level) := by
  unfold ints
  split
  · exact continues_array (continues_readSInt type) _ _ name count level
  · exact continues_array (continues_readUInt type) _ _ name count level

/-! ### Fields -/

/-- What is absent is listed without reading. -/
theorem continues_absence (name : String) (level : Nat) : Continues (absence name level) := by
  refine continues_readSentinel.bind fun present => ?_
  cases present with
  | true => exact continues_pure false
  | false => exact (continues_write _).bind fun _ => continues_pure true

/-- A wrong tag and an extension are found in bytes that are there. -/
theorem continues_header (tag : Option UInt32) (level : Nat) : Continues (header tag level) := by
  cases tag with
  | none => exact continues_pure ()
  | some expected =>
      refine continues_readU32.bind fun found => (continues_write _).bind fun _ => ?_
      split
      · exact continues_throw _
      · refine (continues_readUInt _).bind fun length => (continues_write _).bind fun _ => ?_
        split
        · exact continues_readU32.bind fun _ => (continues_write _).bind fun _ => continues_throw _
        · exact continues_pure ()

mutual

/-- The elements of a field are continued. -/
theorem continues_elements (name : String) (count : Option Nat) (level : Nat) :
    (type : FieldType) → Continues (elements name count level type)
  | .int type => by
      cases count with
      | none => exact continues_int name type level
      | some count => exact continues_ints name type count level
  | .handle _ => by
      cases count with
      | none => exact continues_int name .u64 level
      | some count => exact continues_ints name .u64 count level
  | .float32 => continues_values continues_readU32 _ _ name count level
  | .enum _ => continues_values continues_readU32 _ _ name count level
  | .flags _ => continues_values continues_readU32 _ _ name count level
  | .text encoding => continues_values (continues_readText encoding name) _ _ name count level
  | .struct schema => by
      -- The lines between structures read nothing.
      have hinside := continues_struct (level + 1) schema
      cases count with
      | none =>
          exact (continues_write _).bind fun _ => hinside.bind fun fields => continues_pure _
      | some count =>
          refine .bind (.numbered (fun index => ?_) 0 count) fun structs => continues_pure _
          exact (continues_write _).bind fun _ => hinside
termination_by structural type => type

/-- So is the inside of a structure. -/
theorem continues_struct (level : Nat) :
    (schema : StructSchema) → Continues (struct level schema)
  | ⟨_, tag, members⟩ =>
      (continues_header tag level).bind fun _ => continues_fields level members []
termination_by structural schema => schema

/-- So is a field: its count is the same, because it is looked up among the values read before. -/
theorem continues_field (level : Nat) :
    (spec : FieldSpec) → (scope : Record) → Continues (field level spec scope)
  | ⟨name, type, isOptional, count⟩, scope => by
      have hinside (count : Option Nat) := continues_elements name count level type
      rw [field]
      cases FieldSpec.elementCount ⟨name, type, isOptional, count⟩ scope with
      | error cause => exact continues_throw _
      | ok count =>
          cases isOptional with
          | false => exact hinside count
          | true =>
              refine (continues_absence name level).bind fun absent => ?_
              cases absent with
              | true => exact continues_pure Value.absent
              | false => exact hinside count
termination_by structural spec => spec

/-- So are fields, one behind the other. -/
theorem continues_fields (level : Nat) :
    (specs : List FieldSpec) → (listed : Record) → Continues (fields level specs listed)
  | [], listed => continues_pure listed
  | spec :: rest, listed =>
      (continues_field level spec listed).bind fun _ => continues_fields level rest _
termination_by structural specs => specs

end

/-! ### Calls -/

/-- The listing of a call is continued in a longer payload. -/
theorem continues_params (call : CallDescriptor) (level : Nat) : Continues (params call level) := by
  have hcontinues := continues_fields level (call.capturedParams.map (·.field)) []
  unfold params
  cases call.isRecorded with
  | true => exact hcontinues
  | false => exact (continues_int "seqno" .u32 level).bind fun _ => hcontinues

/-- If a payload is cut short, the text that is written for it is the start of the text that is
written for the whole payload, whether or not either of them is listed to its end. If the whole
payload is listed, and the cut lies in front of the place that the listing reached, the shorter
listing fails because the payload ends. -/
theorem params_of_prefix (call : CallDescriptor) (level : Nat) (sink : TextSink)
    {payload cut : Bytes} (hshorter : cut <+: payload) :
    let whole := params call level (.start payload, sink)
    let part := params call level (.start cut, sink)
    (∃ more, (stateOf whole).2.text = (stateOf part).2.text ++ more) ∧
    ∀ record cursor last, whole = .ok record (cursor, last) → cut.length < cursor.position →
      ∃ offset needed remaining reached,
        part = .error (.wire (.unexpectedEnd offset needed remaining)) reached := by
  obtain ⟨missing, rfl⟩ := hshorter
  intro whole part
  have hcontinued := continues_params call level
  cases hok : part with
  -- The shorter payload is listed to its end. Then the longer one is listed likewise, and nothing
  -- of it is missed.
  | ok value state =>
      obtain ⟨after, last⟩ := state
      have hsame : whole = .ok value (after.extend missing, last) := hcontinued.ok hok missing
      refine ⟨⟨"", by rw [hsame]; exact String.append_empty.symm⟩,
        fun record cursor final hok' hinside => ?_⟩
      cases hsame.symm.trans hok'
      have hlength := (hcontinued.adds (.start cut, sink)).length
      rw [show params call level (.start cut, sink) = _ from hok] at hlength
      simp only [stateOf, Cursor.length, Cursor.start, Cursor.extend] at hlength hinside
      omega
  | error cause state =>
      obtain ⟨after, last⟩ := state
      rcases hcontinued.error hok missing with ⟨hisEnd, more, htext⟩ | hsame
      · refine ⟨⟨more, htext⟩, fun record cursor final hok' hinside => ?_⟩
        cases cause with
        | wire cause =>
            obtain ⟨offset, needed, remaining, rfl⟩ := WireError.IsEnd.exists_eq hisEnd
            exact ⟨offset, needed, remaining, _, rfl⟩
        | _ => cases hisEnd
      · have herror : whole = .error cause (after.extend missing, last) := hsame
        refine ⟨⟨"", by rw [herror]; exact String.append_empty.symm⟩,
          fun record cursor final hok' _ => ?_⟩
        cases herror.symm.trans hok'

/-- The guest flushes two bytes of the memory object 8 of its device 7; the call was numbered 1. -/
def flushedRangeData : Bytes :=
  [1, 0, 0, 0] ++ [7, 0, 0, 0, 0, 0, 0, 0] ++ [1, 0, 0, 0] ++ [6, 0, 0, 0] ++ [0, 0, 0, 0]
    ++ [8, 0, 0, 0, 0, 0, 0, 0] ++ [0, 0, 0, 0, 0, 0, 0, 0] ++ [2, 0, 0, 0, 0, 0, 0, 0]

/-- Cut inside the handle of the memory object, the range is listed up to there. -/
theorem params_of_prefix_flushedRangeData :
    let call := CallDescriptor.flushMappedMemoryRanges
    let whole := params call 4 (.start flushedRangeData, {})
    let part := params call 4 (.start (flushedRangeData.take 30), {})
    flushedRangeData.take 30 <+: flushedRangeData ∧
      (∃ record last, whole = .ok record (⟨48, []⟩, last)) ∧
      (∃ more, (stateOf whole).2.text = (stateOf part).2.text ++ more) ∧
      ∃ offset needed remaining reached,
        part = .error (.wire (.unexpectedEnd offset needed remaining)) reached := by
  intro call whole part
  have hshorter : flushedRangeData.take 30 <+: flushedRangeData := List.take_prefix 30 _
  obtain ⟨record, last, hok⟩ : ∃ record last, whole = .ok record (⟨48, []⟩, last) := ⟨_, _, rfl⟩
  obtain ⟨hstarted, hfails⟩ := params_of_prefix call 4 {} hshorter
  exact ⟨hshorter, ⟨record, last, hok⟩, hstarted, hfails record _ last hok (by decide)⟩

end Listing

end CallStream
