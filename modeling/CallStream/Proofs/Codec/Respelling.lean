import CallStream.Proofs.Codec.Decoded
import CallStream.Proofs.Codec.RoundTrip
import Mathlib.Algebra.GroupWithZero.Nat

/-!
# Writing back what was read

Whatever payload a reader accepts, the record it gives can be written, and the bytes are those that
were read, with one exception: a guest may announce an optional value by any sentinel but zero, and
the writer always uses one. The layout and the record tell where the sentinels lie, so they cut
the payload into *stretches*, and `respell` does to each stretch what writing back does to it.

The induction runs over the layout and follows the reader. A read took some bytes off the payload,
and these bytes, respelt, are what the writer gives and what the same read takes again. The scope of
a field is a prefix of the whole record, so the writer finds the counts that the reader found.

## Main results

* `takesRespelt_decodeFields`: fields that were read are written back respelt and read alike.
* `encodeParams_decodeParams`: the same for the parameters of a call.
-/

namespace CallStream

/-! ### Stretches of a payload -/

/-- A stretch of a payload: the sentinel of an optional value, or bytes that have one spelling. A
payload that was read is a row of stretches, and only sentinels can have been spelt otherwise. -/
inductive Stretch where
  | kept (size : Nat)
  | sentinel

namespace Stretch

/-- The number of bytes of a stretch. -/
def size : Stretch → Nat
  | kept size => size
  | sentinel => 8

/-- The number of bytes of some stretches together. -/
def total (stretches : List Stretch) : Nat := (stretches.map size).sum

/-- The bytes of a stretch as a writer spells them: a sentinel that is not zero becomes one. -/
def respell : Stretch → Bytes → Bytes
  | kept _, bytes => bytes
  | sentinel, bytes => Cursor.encodeSentinel (bytes.any (· != 0))

/-- Respells the stretches that a payload starts with. -/
def respellAll : List Stretch → Bytes → Bytes
  | [], _ => []
  | stretch :: rest, payload =>
    stretch.respell (payload.take stretch.size) ++ respellAll rest (payload.drop stretch.size)

/-- Stretches one behind the other cover as many bytes as they do apart. -/
theorem total_append (front back : List Stretch) : total (front ++ back) =
      total front + total back := by
  simp only [total, List.map_append, List.sum_append]

/-- Stretches one behind the other are respelt one behind the other. -/
theorem respellAll_append {front : List Stretch} {taken : Bytes} (h : taken.length = total front)
    (back : List Stretch) (more : Bytes) :
    respellAll (front ++ back) (taken ++ more) = respellAll front taken ++ respellAll
      back more := by
  induction front generalizing taken with
  | nil =>
      obtain rfl := List.eq_nil_of_length_eq_zero h
      rfl
  | cons stretch rest ih =>
      simp only [total, List.map_cons, List.sum_cons] at h
      have hle : stretch.size ≤ taken.length := by omega
      have hlength : (taken.drop stretch.size).length = total rest := by
        rw [List.length_drop, total]
        omega
      rw [List.cons_append, respellAll, List.take_append_of_le_length hle,
        List.drop_append_of_le_length hle, ih hlength, respellAll, List.append_assoc]

/-- Bytes that are kept are spelled as they were. -/
theorem respellAll_kept (bytes : Bytes) : respellAll [.kept bytes.length] bytes = bytes := by
  simp only [respellAll, respell, size, List.take_length, List.append_nil]

/-- A respelt payload is as long as its stretches. -/
theorem length_respellAll {stretches : List Stretch} {payload : Bytes}
    (h : total stretches ≤ payload.length) :
    (respellAll stretches payload).length = total stretches := by
  induction stretches generalizing payload with
  | nil => rfl
  | cons stretch rest ih =>
      simp only [total, List.map_cons, List.sum_cons] at h
      have hle : total rest ≤ (payload.drop stretch.size).length := by
        rw [List.length_drop, total]
        omega
      have hwithin : stretch.size ≤ payload.length := by omega
      have hlength : (stretch.respell (payload.take stretch.size)).length = stretch.size := by
        cases stretch with
        | kept bytes => exact List.length_take_of_le hwithin
        | sentinel => exact IntType.length_encode Cursor.sentinel _
      rw [respellAll, List.length_append, hlength, ih hle]
      rfl

end Stretch

mutual

/-- The stretches of one element. -/
def FieldType.stretches : FieldType → Value → List Stretch
  | .int type, _ => [.kept type.width.bytes]
  | .float32, _ | .enum _, _ | .flags _, _ => [.kept 4]
  | .handle _, _ => [.kept 8]
  | .text encoding, .text content => [.kept (encoding.encode content).length]
  | .struct schema, .struct fields => schema.stretches fields
  | _, _ => []
termination_by structural type => type

/-- The stretches of a structure: those of its header, then those of its fields. -/
def StructSchema.stretches : StructSchema → Record → List Stretch
  | ⟨_, tag, fields⟩, record =>
    .kept (encodeStructHeader tag).length :: FieldSpec.allStretches fields record
termination_by structural schema => schema

/-- The stretches of a field: its sentinel if it is optional, then its elements if it is there. -/
def FieldSpec.stretches : FieldSpec → Value → List Stretch
  | ⟨_, type, isOptional, count⟩, value =>
    (if isOptional then [.sentinel] else []) ++
      match count, value with
      | _, .absent => []
      | .one, value => type.stretches value
      | _, .array elements => elements.flatMap type.stretches
      | _, _ => []
termination_by structural spec => spec

/-- The stretches of the fields of a record, one field behind the other. -/
def FieldSpec.allStretches : List FieldSpec → Record → List Stretch
  | spec :: rest, (_, value) :: record => spec.stretches value ++ FieldSpec.allStretches rest record
  | _, _ => []
termination_by structural fields => fields

end

open Decoding Cursor Emission

/-! ### What a read took -/

namespace Cursor

variable {ε : Type}

/-- The cursor is moved over exactly `taken`. -/
structure Passes (cursor : Cursor) (taken : Bytes) (after : Cursor) : Prop where
  rest : cursor.rest = taken ++ after.rest
  position : after.position = cursor.position + taken.length

/-- A cursor that stays where it is passes nothing. -/
theorem Passes.refl (cursor : Cursor) : cursor.Passes [] cursor := ⟨rfl, rfl⟩

/-- What is passed in two steps is passed in one. -/
theorem Passes.trans {cursor middle after : Cursor} {first second : Bytes}
    (hpasses : cursor.Passes first middle) (htail : middle.Passes second after) :
    cursor.Passes (first ++ second) after where
  rest := by rw [hpasses.rest, htail.rest, List.append_assoc]
  position := by rw [htail.position, hpasses.position, List.length_append, Nat.add_assoc]

/-- Reading bytes passes these bytes. -/
theorem passes_of_readBytes {count : Nat} {cursor after : Cursor} {bytes : Bytes}
    (h : readBytes (ε := ε) count cursor = .ok bytes after) :
    bytes.length = count ∧ cursor.Passes bytes after := by
  simp only [readBytes] at h
  split at h
  · next hlength =>
      cases h
      refine ⟨hlength, (List.take_append_drop count cursor.rest).symm, ?_⟩
      rw [hlength]
      rfl
  · cases h

/-- An integer was written from the word that is read. -/
theorem passes_of_readUInt {type : IntType} {cursor after : Cursor} {word : UInt64}
    (h : readUInt (ε := ε) type cursor = .ok word after) :
    cursor.Passes (type.encode word) after := by
  obtain ⟨bytes, middle, hreadBytes, hpure⟩ := bind_eq_ok_iff.mp h
  obtain ⟨rfl, rfl⟩ := pure_eq_ok_iff.mp hpure
  obtain ⟨hlength, hpasses⟩ := passes_of_readBytes hreadBytes
  rwa [type.encode_decode bytes hlength]

/-- Reading a word passes the bytes that it is written in. -/
theorem passes_of_readU32 {cursor after : Cursor} {word : UInt32}
    (h : readU32 (ε := ε) cursor = .ok word after) :
    cursor.Passes (IntType.u32.encode word.toUInt64) after := by
  obtain ⟨long, middle, hreadUInt, hpure⟩ := bind_eq_ok_iff.mp h
  obtain ⟨rfl, rfl⟩ := pure_eq_ok_iff.mp hpure
  have hlt : long.toNat < IntType.u32.width.capacity := yields_readUInt .u32 hreadUInt
  have htoUInt64 : long.toUInt32.toUInt64 = long := by
    apply UInt64.toNat_inj.mp
    rw [UInt32.toNat_toUInt64, UInt64.toNat_toUInt32]
    exact Nat.mod_eq_of_lt hlt
  rw [htoUInt64]
  exact passes_of_readUInt hreadUInt

/-- A text lies behind its length, which has 32 bits. -/
theorem passes_of_readText {field : String} {cursor after : Cursor} {text : String}
    (h : readText (ε := ε) .lengthPrefixed field cursor = .ok text after) :
    (Bytes.ofText text).length < UInt32.size ∧
      cursor.Passes (TextEncoding.lengthPrefixed.encode text) after := by
  obtain ⟨bytes, middle, hreadTextBytes, hrest⟩ := bind_eq_ok_iff.mp h
  obtain ⟨length, start, hlengthRead, hcontentRead⟩ := bind_eq_ok_iff.mp hreadTextBytes
  obtain ⟨hlength, hcontent⟩ := passes_of_readBytes hcontentRead
  have hlt : length.toNat < UInt32.size := yields_readUInt .length32 hlengthRead
  cases htoText : Bytes.toText? bytes with
  | none =>
      rw [htoText] at hrest
      cases hrest
  | some found =>
      rw [htoText] at hrest
      obtain ⟨rfl, rfl⟩ := pure_eq_ok_iff.mp hrest
      have hofText : Bytes.ofText found = bytes := Bytes.ofText_of_toText? htoText
      refine ⟨by rw [hofText, hlength]; exact hlt, ?_⟩
      rw [TextEncoding.encode, hofText, hlength, UInt64.ofNat_toNat]
      exact (passes_of_readUInt hlengthRead).trans hcontent

/-- A header is that of the structure that was expected. -/
theorem passes_of_readStructHeader {schema : String} {tag : Option UInt32} {cursor after : Cursor}
    (h : readStructHeader (ε := ε) schema tag cursor = .ok () after) :
    cursor.Passes (encodeStructHeader tag) after := by
  cases tag with
  | none =>
      obtain ⟨-, rfl⟩ := pure_eq_ok_iff.mp h
      exact .refl cursor
  | some expected =>
      obtain ⟨found, afterTag, htagRead, h⟩ := bind_eq_ok_iff.mp h
      split at h
      · cases h
      · next hne =>
          obtain ⟨length, afterLength, hlengthRead, h⟩ := bind_eq_ok_iff.mp h
          split at h
          · obtain ⟨_, _, -, himpossible⟩ := bind_eq_ok_iff.mp h
            cases himpossible
          · next hnoExtensions =>
              obtain ⟨-, rfl⟩ := pure_eq_ok_iff.mp h
              have hpasses := (passes_of_readU32 htagRead).trans (passes_of_readUInt hlengthRead)
              rwa [show found = expected by simpa using hne,
                show length = 0 by simpa using hnoExtensions] at hpasses

/-- A word has a byte that is not zero exactly if it is not zero itself. -/
theorem any_encode_sentinel (word : UInt64) :
    (sentinel.encode word).any (· != 0) = (word != 0) := by
  by_cases heq : word = 0
  · subst heq
    decide
  · rw [bne_iff_ne.mpr heq, ← Bool.not_eq_false]
    intro hblank
    have hzeros : sentinel.encode word = List.replicate 8 0 := by
      rw [List.eq_replicate_iff]
      exact ⟨IntType.length_encode sentinel word, by simpa using hblank⟩
    have hword_eq : sentinel.decode (sentinel.encode word) = word :=
      IntType.decode_encode_of_lt word.toNat_lt
    rw [hzeros] at hword_eq
    exact heq (hword_eq.symm.trans (by decide))

/-- A value is announced by any sentinel but zero. -/
theorem passes_of_readSentinel {cursor after : Cursor} {present : Bool}
    (h : readSentinel (ε := ε) cursor = .ok present after) :
    ∃ taken, cursor.Passes taken after ∧ taken.length = 8 ∧ present = taken.any (· != 0) := by
  obtain ⟨word, middle, hreadUInt, hpure⟩ := bind_eq_ok_iff.mp h
  obtain ⟨rfl, rfl⟩ := pure_eq_ok_iff.mp hpure
  refine ⟨_, passes_of_readUInt hreadUInt, IntType.length_encode sentinel word, ?_⟩
  exact (any_encode_sentinel word).symm

end Cursor

variable {σ ε α β : Type}

/-- The bytes that a read took lie in `stretches`; respelt, they are what `write` gives, and the
same read takes them again. -/
structure Respells (read : Decoding σ ε α) (value : α) (stretches : List Stretch) (write : Emission)
    (taken : Bytes) : Prop where
  size : taken.length = Stretch.total stretches
  written : write = done (Stretch.respellAll stretches taken)
  readBack : Reads read (Stretch.respellAll stretches taken) value

/-- A successful read took bytes that it respells, and left the mapper alone. The bytes behind the
cursor play no part. -/
def TakesRespelt (read : Decoding σ ε α) (value : α) (stretches : List Stretch) (write : Emission)
    (before after : Cursor × σ) : Prop :=
  ∃ taken, before.1.Passes taken after.1 ∧ after.2 = before.2 ∧
    Respells read value stretches write taken

/-- Whatever the read gives is written back: to the bytes that were read, but for the sentinels in
them. -/
def WritesBack (read : Decoding σ ε α) (stretches : α → List Stretch)
    (write : α → Emission) : Prop :=
  ∀ ⦃before after : Cursor × σ⦄ ⦃value : α⦄, read before = .ok value after →
    TakesRespelt read value (stretches value) (write value) before after

/-- What is made of a value takes no bytes. -/
theorem Respells.map {read : Decoding σ ε α} {value : α} {stretches : List Stretch}
    {write : Emission} {taken : Bytes} (h : Respells read value stretches write taken) (f : α → β) :
    Respells (read >>= fun value => pure (f value)) (f value) stretches write taken :=
  ⟨h.size, h.written, h.readBack.map f⟩

/-- Reads one behind the other are written back one behind the other. -/
theorem Respells.bind {read : Decoding σ ε α} {next : α → Decoding σ ε β} {value : α} {result : β}
    {front back : List Stretch} {first second : Emission} {taken more : Bytes}
    (hrespells : Respells read value front first taken)
    (htail : Respells (next value) result back second more) :
    Respells (read >>= next) result (front ++ back) (first.andThen second) (taken ++ more) where
  size := by rw [List.length_append, hrespells.size, htail.size, Stretch.total_append]
  written := by
    rw [Stretch.respellAll_append hrespells.size, hrespells.written, htail.written]
    rfl
  readBack := by
    rw [Stretch.respellAll_append hrespells.size]
    exact hrespells.readBack.bind htail.readBack

/-- Bytes that are read and written alike are kept. -/
theorem respells_kept {read : Decoding σ ε α} {value : α} {bytes : Bytes}
    (hreadBack : Reads read bytes value) :
    Respells read value [.kept bytes.length] (done bytes) bytes where
  size := rfl
  written := by rw [Stretch.respellAll_kept]
  readBack := by rwa [Stretch.respellAll_kept]

/-- What is made of a value is written back if the value is. -/
theorem TakesRespelt.map {read : Decoding σ ε α} {value : α} {stretches : List Stretch}
    {write : Emission} {before after : Cursor × σ}
    (h : TakesRespelt read value stretches write before after) (f : α → β) :
    TakesRespelt (read >>= fun value => pure (f value)) (f value) stretches write before after := by
  obtain ⟨taken, hpasses, hsnd, hrespells⟩ := h
  exact ⟨taken, hpasses, hsnd, hrespells.map f⟩

/-- Reads one after the other are written back one after the other. -/
theorem TakesRespelt.bind {read : Decoding σ ε α} {next : α → Decoding σ ε β} {value : α}
    {result : β} {front back : List Stretch} {first second : Emission}
    {before middle after : Cursor × σ}
    (htakesRespelt : TakesRespelt read value front first before middle)
    (htail : TakesRespelt (next value) result back second middle after) :
    TakesRespelt (read >>= next) result (front ++ back) (first.andThen second) before after := by
  obtain ⟨taken, hpasses, hsnd, hrespells⟩ := htakesRespelt
  obtain ⟨more, hgoesOn, halike, hothers⟩ := htail
  exact ⟨taken ++ more, hpasses.trans hgoesOn, halike.trans hsnd, hrespells.bind hothers⟩

/-- A value that is not read is not written either. -/
theorem takesRespelt_pure (value : α) (before : Cursor × σ) :
    TakesRespelt (pure value : Decoding σ ε α) value [] (done []) before before :=
  ⟨[], .refl before.1, rfl, rfl, rfl, reads_pure value⟩

/-- A read of the payload that takes a value off its only spelling. -/
theorem takesRespelt_onCursor {read : Read ε α} {bytes : Bytes} {value : α} {cursor after : Cursor}
    (hpasses : cursor.Passes bytes after)
    (hreadBack : Reads (onCursor read : Decoding σ ε α) bytes value) (state : σ) :
    TakesRespelt (onCursor read : Decoding σ ε α) value [.kept bytes.length] (done bytes)
      (cursor, state) (after, state) :=
  ⟨bytes, hpasses, rfl, respells_kept hreadBack⟩

/-! ### Leaves -/

/-- A sentinel is written back as one or as zero. -/
theorem takesRespelt_readSentinel {cursor after : Cursor} {present : Bool}
    (h : readSentinel (ε := ε) cursor = .ok present after) (state : σ) :
    TakesRespelt (onCursor readSentinel : Decoding σ ε Bool) present [.sentinel]
      (done (encodeSentinel present)) (cursor, state) (after, state) := by
  obtain ⟨taken, hpasses, hlength, rfl⟩ := passes_of_readSentinel h
  have htake : taken.take 8 = taken := List.take_of_length_le (Nat.le_of_eq hlength)
  have hspelling : Stretch.respellAll [.sentinel] taken = encodeSentinel (taken.any (· != 0)) := by
    simp only [Stretch.respellAll, Stretch.respell, Stretch.size, htake, List.append_nil]
  refine ⟨taken, hpasses, rfl, hlength, ?_, ?_⟩
  · rw [hspelling]
  · rw [hspelling]
    exact reads_readSentinel _

/-- What is made of a leaf that is read is written back as it lay in the payload. -/
theorem takesRespelt_leaf {read : Read ε α} {wrap : α → Value} {bytes : α → Bytes}
    (heach : ∀ {cursor after : Cursor} {value : α}, read cursor = .ok value after →
      cursor.Passes (bytes value) after ∧
        Reads (onCursor read : Decoding σ ε α) (bytes value) value)
    {before after : Cursor × σ} {result : Value}
    (h : (onCursor read >>= fun value => pure (wrap value)) before = .ok result after) :
    ∃ value, result = wrap value ∧
      TakesRespelt (onCursor read >>= fun value => pure (wrap value)) result
        [.kept (bytes value).length] (done (bytes value)) before after := by
  obtain ⟨value, ⟨reached, state⟩, honCursor, hpure⟩ := bind_eq_ok_iff.mp h
  obtain ⟨rfl, rfl⟩ := pure_eq_ok_iff.mp hpure
  obtain ⟨hok, rfl⟩ := onCursor_eq_ok_iff.mp honCursor
  obtain ⟨hpasses, hreadBack⟩ := heach hok
  exact ⟨value, rfl, (takesRespelt_onCursor hpasses hreadBack _).map wrap⟩

/-- A word is kept as it is spelled. -/
theorem leaf_readU32 {cursor after : Cursor} {word : UInt32}
    (h : readU32 (ε := ε) cursor = .ok word after) :
    cursor.Passes (IntType.u32.encode word.toUInt64) after ∧
      Reads (onCursor readU32 : Decoding σ ε UInt32) (IntType.u32.encode word.toUInt64) word :=
  ⟨passes_of_readU32 h, reads_readU32 word⟩

/-- A word that is read lies in the range of its width, so it is read back. -/
theorem leaf_readUInt {type : IntType} {cursor after : Cursor} {word : UInt64}
    (h : readUInt (ε := ε) type cursor = .ok word after) :
    cursor.Passes (type.encode word) after ∧
      Reads (onCursor (readUInt type) : Decoding σ ε UInt64) (type.encode word) word := by
  have hreadBack := reads_readUInt (σ := σ) (ε := ε) type word
  rw [IntType.decode_encode_of_lt (yields_readUInt type h)] at hreadBack
  exact ⟨passes_of_readUInt h, hreadBack⟩

/-- So does a signed number. -/
theorem leaf_readSInt {type : IntType} {cursor after : Cursor} {value : Int64}
    (h : readSInt (ε := ε) type cursor = .ok value after) :
    cursor.Passes (type.encode value.toUInt64) after ∧
      Reads (onCursor (readSInt type) : Decoding σ ε Int64) (type.encode value.toUInt64) value := by
  obtain ⟨hle, hlt⟩ := yields_readSInt type h
  have hreadBack := reads_readSInt (σ := σ) (ε := ε) type value.toUInt64
  rw [IntType.signExtend_decode_encode hle hlt] at hreadBack
  refine ⟨?_, hreadBack⟩
  obtain ⟨word, middle, hreadUInt, hpure⟩ := bind_eq_ok_iff.mp h
  obtain ⟨rfl, rfl⟩ := pure_eq_ok_iff.mp hpure
  rw [IntType.encode_signExtend]
  exact passes_of_readUInt hreadUInt

/-- So is a text, with the number of its bytes in front. -/
theorem leaf_readText {field : String} {cursor after : Cursor} {text : String}
    (h : readText (ε := ε) .lengthPrefixed field cursor = .ok text after) :
    cursor.Passes (TextEncoding.lengthPrefixed.encode text) after ∧
      Reads (onCursor (readText .lengthPrefixed field) : Decoding σ ε String)
        (TextEncoding.lengthPrefixed.encode text) text := by
  obtain ⟨hlt, hpasses⟩ := passes_of_readText h
  exact ⟨hpasses, reads_readText hlt field⟩

/-- A handle that stands for itself is read like an integer. -/
theorem decodeElement_handle (mapping : HandleMapping) (field : String) (type : HandleType) :
    decodeElement (HandleMapper.identity (σ := σ) (ε := ε)) mapping field (.handle type)
      = onCursor readU64 >>= fun word => pure (.handle word) := by
  unfold decodeElement
  rfl

/-! ### Arrays -/

/-- A repeated read of what is written back is written back. -/
theorem takesRespelt_readMany {step : Decoding σ ε α} {stretches : α → List Stretch}
    {write : α → Emission}
    (hwritesBack : WritesBack step stretches write)
    {count : Nat} {before after : Cursor × σ} {values : List α}
    (h : readMany step count before = .ok values after) :
    values.length = count ∧
      TakesRespelt (readMany step count) values (values.flatMap stretches)
        (sequence (values.map write)) before after := by
  induction count generalizing before values with
  | zero =>
      obtain ⟨rfl, rfl⟩ := pure_eq_ok_iff.mp h
      exact ⟨rfl, takesRespelt_pure [] before⟩
  | succ count ih =>
      obtain ⟨first, middle, hok, h⟩ := bind_eq_ok_iff.mp h
      obtain ⟨others, last, hreadMany, hpure⟩ := bind_eq_ok_iff.mp h
      obtain ⟨rfl, rfl⟩ := pure_eq_ok_iff.mp hpure
      obtain ⟨hlength, htakesRespelt⟩ := ih hreadMany
      exact ⟨congrArg (· + 1) hlength, (hwritesBack hok).bind (htakesRespelt.map (first :: ·))⟩

/-! ### Counts -/

/-- What a path leads to, it leads to in any longer record. -/
theorem Record.resolve?_append {scope : Record} {path : List String} {value : Value}
    (h : scope.resolve? path = some value) (later : Record) :
    Record.resolve? (scope ++ later) path = some value := by
  have hfirst {name : String} {found : Value} (h : Record.get? scope name = some found) :
      Record.get? (scope ++ later) name = some found := by
    simp only [Record.get?] at h ⊢
    rw [List.lookup_append, h, Option.some_or]
  match path with
  | [] => cases h
  | [name] => exact hfirst h
  | name :: inner :: path =>
      simp only [Record.resolve?] at h ⊢
      split at h
      · next fields hget => rw [hfirst hget]; exact h
      · cases h

/-- An array is as long in the whole record as among the fields before it. -/
theorem FieldSpec.elementCount_append {δ : Type} {spec : FieldSpec} {scope : Record}
    {count : Option Nat} (h : spec.elementCount (ε := ε) scope = .ok count) (later : Record) :
    spec.elementCount (ε := δ) (scope ++ later) = .ok count := by
  cases hcount : spec.count with
  | one =>
      rw [elementCount_eq_none_iff.mpr hcount] at h
      cases h
      exact elementCount_eq_none_iff.mpr hcount
  | fixed n =>
      simp only [elementCount, hcount] at h ⊢
      cases h
      rfl
  | field path divisor =>
      cases count with
      | none =>
          rw [elementCount_eq_none_iff, hcount] at h
          cases h
      | some n =>
          obtain ⟨value, hresolve, hmeaning⟩ := (elementCount_eq_some_iff hcount).mp h
          exact (elementCount_eq_some_iff hcount).mpr
            ⟨value, Record.resolve?_append hresolve later, hmeaning⟩

/-! ### Fields -/

section Fields

variable (mapping : HandleMapping)

/-- A field that may be absent lies behind its sentinel. -/
theorem FieldSpec.stretches_of_optional {spec : FieldSpec} (h : spec.isOptional = true)
    (value : Value) :
    spec.stretches value = .sentinel :: FieldSpec.stretches { spec with isOptional := false }
    value := by
  obtain ⟨name, type, isOptional, count⟩ := spec
  cases h
  rfl

/-- A single value is spelled as its type is. -/
theorem FieldSpec.stretches_of_one {spec : FieldSpec} (hcount : spec.count = .one) {value : Value}
    (h : value ≠ .absent) :
    FieldSpec.stretches { spec with isOptional := false } value = spec.type.stretches value := by
  obtain ⟨name, type, isOptional, count⟩ := spec
  cases hcount
  cases value with
  | absent => exact absurd rfl h
  | _ => rfl

/-- An array is spelled element by element, its count being spelled in another field. -/
theorem FieldSpec.stretches_of_array {spec : FieldSpec} (harray : spec.count ≠ .one)
    (elements : List Value) :
    FieldSpec.stretches { spec with isOptional := false } (.array elements)
      = elements.flatMap spec.type.stretches := by
  obtain ⟨name, type, isOptional, count⟩ := spec
  cases count with
  | one => exact absurd rfl harray
  | _ => rfl

/-- What lies behind a sentinel is a value. -/
theorem ne_absent_of_decodeContent {mapper : HandleMapper σ ε} {spec : FieldSpec} {scope : Record}
    {before after : Cursor × σ} {value : Value}
    (h : decodeContent mapper mapping spec scope before = .ok value after) : value ≠ .absent := by
  rintro rfl
  have htyped := admits_decodeContent { spec with isOptional := false }
    (admits_decodeElement spec.name spec.type) scope h
  cases htyped

/-- The content of a field is written back, if its elements are. -/
theorem writesBack_decodeContent {spec : FieldSpec} {earlier : List FieldSpec}
    (hplaced : spec.Placed earlier)
    (helement : WritesBack
      (decodeElement (HandleMapper.identity (σ := σ) (ε := ε)) mapping spec.name spec.type)
      spec.type.stretches (encodeElement spec.name spec.type))
    (scope later : Record) :
    WritesBack (decodeContent (HandleMapper.identity (σ := σ) (ε := ε)) mapping spec scope)
      (FieldSpec.stretches { spec with isOptional := false })
      fun value => encodeContent spec value (scope ++ later) := by
  intro before after value h
  have hne := ne_absent_of_decodeContent mapping h
  unfold decodeContent encodeContent at *
  cases helementCount : spec.elementCount (ε := ε) scope with
  | error cause =>
      rw [helementCount] at h
      cases h
  | ok count =>
      rw [helementCount] at h
      rw [FieldSpec.elementCount_append helementCount later]
      cases count with
      | none =>
          have hcount := FieldSpec.elementCount_eq_none_iff.mp helementCount
          rw [FieldSpec.stretches_of_one hcount hne]
          exact helement h
      | some count =>
          obtain ⟨_, ⟨reached, state⟩, hroom, h⟩ := bind_eq_ok_iff.mp h
          obtain ⟨elements, middle, hmany, hpure⟩ := bind_eq_ok_iff.mp h
          obtain ⟨rfl, rfl⟩ := pure_eq_ok_iff.mp hpure
          obtain ⟨hrequireRoom, rfl⟩ := onCursor_eq_ok_iff.mp hroom
          obtain rfl := remaining_of_requireRoom hrequireRoom
          -- The count was checked against the room that is left, which takes no bytes. What follows
          -- are the elements.
          have harray : spec.count ≠ .one := FieldSpec.count_ne_one helementCount
          obtain ⟨hlength, taken, hpasses, hsnd, hsize, hsequence, hreadBack⟩ :=
            takesRespelt_readMany helement hmany
          rw [FieldSpec.stretches_of_array harray]
          refine ⟨taken, hpasses, hsnd, hsize, ?_, ?_⟩
          · simp only [hlength, if_true]
            exact hsequence
          · exact reads_decodeElements mapping (takes_decodeElement _ mapping spec.name spec.type)
              (hplaced.takesRoom harray) hreadBack

mutual

/-- An element is written back. -/
theorem writesBack_decodeElement (field : String) : (type : FieldType) → type.wellLaid = true →
    WritesBack (decodeElement (HandleMapper.identity (σ := σ) (ε := ε)) mapping field type)
      type.stretches (encodeElement field type)
  -- A leaf takes its own bytes and spells them again.
  | .int type, _ => by
      intro before after value h
      unfold decodeElement at h ⊢
      split at h
      · next hsigned =>
          obtain ⟨number, rfl, htakesRespelt⟩ := takesRespelt_leaf leaf_readSInt h
          rw [IntType.length_encode] at htakesRespelt
          rw [if_pos hsigned]
          exact htakesRespelt
      · next hunsigned =>
          obtain ⟨word, rfl, htakesRespelt⟩ := takesRespelt_leaf leaf_readUInt h
          rw [IntType.length_encode] at htakesRespelt
          rw [if_neg hunsigned]
          exact htakesRespelt
  | .float32, _ => by
      intro before after value h
      obtain ⟨bits, rfl, htakesRespelt⟩ := takesRespelt_leaf leaf_readU32 h
      exact htakesRespelt
  | .enum _, _ => by
      intro before after value h
      obtain ⟨word, rfl, htakesRespelt⟩ := takesRespelt_leaf leaf_readU32 h
      exact htakesRespelt
  | .flags _, _ => by
      intro before after value h
      obtain ⟨mask, rfl, htakesRespelt⟩ := takesRespelt_leaf leaf_readU32 h
      exact htakesRespelt
  | .handle type, _ => by
      intro before after value h
      rw [decodeElement_handle] at h ⊢
      obtain ⟨word, rfl, htakesRespelt⟩ := takesRespelt_leaf leaf_readUInt h
      exact htakesRespelt
  | .text encoding, hlaid => by
      intro before after value h
      -- The other encodings of texts drop bytes; a well laid layout has none of them.
      simp only [FieldType.wellLaid, beq_iff_eq] at hlaid
      subst hlaid
      obtain ⟨content, rfl, htakesRespelt⟩ := takesRespelt_leaf leaf_readText h
      exact htakesRespelt
  | .struct schema, hlaid => by
      intro before after value h
      obtain ⟨fields, middle, hdecodeStruct, hpure⟩ := bind_eq_ok_iff.mp h
      obtain ⟨rfl, rfl⟩ := pure_eq_ok_iff.mp hpure
      exact (writesBack_decodeStruct schema hlaid hdecodeStruct).map Value.struct
termination_by structural type => type

/-- A structure is written back. -/
theorem writesBack_decodeStruct : (schema : StructSchema) → schema.wellLaid = true →
    WritesBack (decodeStruct (HandleMapper.identity (σ := σ) (ε := ε)) mapping schema)
      schema.stretches (encodeStruct schema)
  | ⟨name, tag, fields⟩, hlaid => by
      intro before after record h
      obtain ⟨_, ⟨reached, state⟩, hheader, h⟩ := bind_eq_ok_iff.mp h
      obtain ⟨hok, rfl⟩ := onCursor_eq_ok_iff.mp hheader
      obtain ⟨back, rfl, htakesRespelt⟩ := takesRespelt_decodeFields fields [] hlaid rfl h
      exact (takesRespelt_onCursor (passes_of_readStructHeader hok)
        (reads_readStructHeader name tag) _).bind htakesRespelt
termination_by structural schema => schema

/-- A field is written back, in any record that starts with the fields before it. -/
theorem writesBack_decodeField : (spec : FieldSpec) → (earlier : List FieldSpec) →
    spec.Placed earlier → (scope later : Record) →
    WritesBack (decodeField (HandleMapper.identity (σ := σ) (ε := ε)) mapping spec scope)
      spec.stretches fun value => encodeField spec value (scope ++ later)
  | ⟨name, type, isOptional, count⟩, earlier, hplaced, scope, later => by
      have hcontent := writesBack_decodeContent mapping hplaced
        (writesBack_decodeElement name type hplaced.type_wellLaid) scope later
      intro before after value h
      cases isOptional with
      | false =>
          rw [decodeField_of_required rfl] at h ⊢
          show TakesRespelt _ value _ (encodeField _ value (scope ++ later)) before after
          rw [encodeField_of_ne_absent (ne_absent_of_decodeContent mapping h)]
          exact hcontent h
      | true =>
          rw [decodeField_of_optional rfl] at h ⊢
          rw [FieldSpec.stretches_of_optional rfl]
          obtain ⟨present, ⟨reached, state⟩, hmark, h⟩ := bind_eq_ok_iff.mp h
          obtain ⟨hok, rfl⟩ := onCursor_eq_ok_iff.mp hmark
          -- The mark is the one place where other bytes may be written than were read.
          have hsentinel := takesRespelt_readSentinel hok before.2
          cases present with
          | true =>
              show TakesRespelt _ value _ (encodeField _ value (scope ++ later)) before after
              rw [encodeField_of_ne_absent (ne_absent_of_decodeContent mapping h)]
              exact hsentinel.bind (hcontent h)
          | false =>
              obtain ⟨rfl, rfl⟩ := pure_eq_ok_iff.mp h
              show TakesRespelt _ _ ([.sentinel] ++ [])
                ((done (encodeSentinel false)).andThen (done [])) before (reached, before.2)
              exact hsentinel.bind (takesRespelt_pure _ _)
termination_by structural spec => spec

/-- Fields are written back, as the last of a record that starts with the fields before them. -/
theorem takesRespelt_decodeFields : (fields earlier : List FieldSpec) →
    FieldSpec.allWellLaid fields earlier = true → {scope : Record} →
    scope.map (·.1) = earlier.map (·.name) → {before after : Cursor × σ} → {record : Record} →
    decodeFields (HandleMapper.identity (σ := σ) (ε := ε)) mapping fields scope before
      = .ok record after →
    ∃ back, record = scope ++ back ∧
      TakesRespelt (decodeFields (HandleMapper.identity (σ := σ) (ε := ε)) mapping fields scope)
        record (FieldSpec.allStretches fields back) (encodeFields fields record) before after
  | [], _, _, scope, _, before, after, record, h => by
      obtain ⟨rfl, rfl⟩ := pure_eq_ok_iff.mp h
      exact ⟨[], (List.append_nil _).symm, takesRespelt_pure _ before⟩
  | spec :: rest, earlier, hlaid, scope, hnames, before, after, record, h => by
      simp only [FieldSpec.allWellLaid, Bool.and_eq_true] at hlaid
      have hplaced := FieldSpec.placed_of_wellLaid hlaid.1
      obtain ⟨value, middle, hdecodeField, hdecodeFields⟩ := bind_eq_ok_iff.mp h
      obtain ⟨back, rfl, hothers⟩ := takesRespelt_decodeFields rest (earlier ++ [spec]) hlaid.2
        (by simp [hnames]) hdecodeFields
      have hfirst := writesBack_decodeField spec earlier hplaced scope ((spec.name, value) :: back)
        hdecodeField
      -- The names are different, so the writer finds the value of this field in the whole record.
      have hget : Record.get? (scope ++ (spec.name, value) :: back) spec.name = some value := by
        rw [Record.get?_append_of_fresh hnames hplaced.fresh, Record.get?, List.lookup_cons_self]
      refine ⟨(spec.name, value) :: back, List.append_assoc .., ?_⟩
      rw [List.append_assoc, List.singleton_append] at hothers ⊢
      rw [encodeFields, hget]
      show TakesRespelt _ _ _ ((encodeField spec value _).andThen _) before after
      exact hfirst.bind hothers
termination_by structural fields => fields

end

end Fields

/-! ### The parameters of a call -/

namespace CallDescriptor

/-- The parameters of a call that are read can be written. The bytes are those that were read,
sentinels that are not zero respelt as one, and the same parameters are read from them. -/
theorem encodeParams_decodeParams {opcode : UInt32} {call : CallDescriptor}
    (hopcode : ofOpcode? opcode = some call) {mapping : HandleMapping} {payload : Bytes}
    {record : Record} {cursor : Cursor} {state last : σ}
    (hdecodeParams : call.decodeParams (HandleMapper.identity (σ := σ) (ε := ε)) mapping
      (start payload, state) = .ok record (cursor, last)) :
    Stretch.total (FieldSpec.allStretches call.fields record) = cursor.position ∧
      ∃ bytes, call.encodeParams record = done bytes ∧ bytes.length = cursor.position ∧
        bytes = Stretch.respellAll (FieldSpec.allStretches call.fields record)
          (payload.take cursor.position) ∧
        ∀ (suffix : Bytes) (state : σ),
          call.decodeParams (HandleMapper.identity (σ := σ) (ε := ε)) mapping
            (start (bytes ++ suffix), state) = .ok record (⟨bytes.length, suffix⟩, state) := by
  have hallWellLaid := fields_wellLaid call (ofOpcode?_eq_some hopcode).1
  obtain ⟨back, rfl, taken, hpasses, -, hlength, hencodeFields, hreadBack⟩ :=
    takesRespelt_decodeFields mapping call.fields [] hallWellLaid rfl hdecodeParams
  have hposition : cursor.position = taken.length := hpasses.position.trans (Nat.zero_add _)
  have htake : payload.take cursor.position = taken := by
    rw [show payload = taken ++ cursor.rest from hpasses.rest, hposition, List.take_left]
  have hlength' := Stretch.length_respellAll (Nat.le_of_eq hlength.symm)
  refine ⟨hlength.symm.trans hposition.symm, _, hencodeFields, ?_, ?_, ?_⟩
  · rw [hlength', hposition, hlength]
  · rw [htake]
  · intro suffix state
    have hdecodeFields := hreadBack 0 suffix state
    rwa [Nat.zero_add] at hdecodeFields

/-- Two optional parameters: one behind a sentinel of the guest's own, one absent. -/
def enumeratePayload : Bytes :=
  IntType.u64.encode 3 ++ [0, 0, 0, 2, 0, 0, 0, 0] ++ IntType.u32.encode 5 ++ encodeSentinel false

/-- The guest asks how many physical devices there are and leaves no room for them. -/
def enumerateRequest : Record :=
  [("instance", .handle 3), ("pPhysicalDeviceCount", .uint 5), ("pPhysicalDevices", .absent)]

/-- The guest's own sentinel is written as every sentinel is, and all other bytes are kept. -/
theorem encodeParams_decodeParams_enumeratePayload :
    ofOpcode? 20002 = some enumeratePhysicalDevices ∧
      enumeratePhysicalDevices.decodeParams (HandleMapper.identity (σ := Unit) (ε := Empty))
          .normal (start (enumeratePayload ++ [7]), ()) = .ok enumerateRequest (⟨28, [7]⟩, ()) ∧
      Stretch.total (FieldSpec.allStretches enumeratePhysicalDevices.fields enumerateRequest) = 28 ∧
        ∃ bytes, enumeratePhysicalDevices.encodeParams enumerateRequest = done bytes ∧
          bytes.length = 28 ∧
          bytes = Stretch.respellAll
            (FieldSpec.allStretches enumeratePhysicalDevices.fields enumerateRequest)
            ((enumeratePayload ++ [7]).take 28) ∧
          ∀ (suffix : Bytes) (state : Unit),
            enumeratePhysicalDevices.decodeParams (HandleMapper.identity (σ := Unit) (ε := Empty))
              .normal (start (bytes ++ suffix), state)
                = .ok enumerateRequest (⟨bytes.length, suffix⟩, state) := by
  have hopcode : ofOpcode? 20002 = some enumeratePhysicalDevices := rfl
  have hdecodeParams : enumeratePhysicalDevices.decodeParams
      (HandleMapper.identity (σ := Unit) (ε := Empty))
      .normal (start (enumeratePayload ++ [7]), ()) = .ok enumerateRequest (⟨28, [7]⟩, ()) := rfl
  exact ⟨hopcode, hdecodeParams, encodeParams_decodeParams hopcode hdecodeParams⟩

end CallDescriptor

end CallStream
