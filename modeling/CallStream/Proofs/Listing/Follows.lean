import CallStream.Listing.Field
import CallStream.Proofs.Codec.Size
import CallStream.Proofs.Value.Plain

/-!
# Listings that follow a read

A listing and a read of the codec go over the same payload in their own ways. The listing *follows*
the read if it accepts what the read accepts, goes as far and returns a given function of the same
value, and refuses what the read refuses. That is all that can be asked if the sink takes all text;
one that does not can only make the listing fail.

The relation is closed under everything that both sides are built with. Writing text moves nothing,
so it may stand anywhere on the side of the listing.

## Main results

* `Follows.bind`: a chain follows a chain, if the second parts do for every value that the first
  read can yield.
* `Follows.write`: text may be written first.
* `Follows.numbered`, `follows_array`: a repeated listing follows a repeated read.
-/

namespace CallStream

/-- A sink that takes all text that it is offered. -/
def TextSink.isOpen (sink : TextSink) : Prop := sink.limit = none ∧ sink.broken = false

/-- An open sink takes a piece of text and stays open. -/
theorem TextSink.write_of_isOpen {sink : TextSink} (h : sink.isOpen) (piece : String) :
    ∃ after, sink.write piece = (after, true) ∧ after.isOpen := by
  obtain ⟨hunlimited, hbroken⟩ := h
  refine ⟨{ sink with text := sink.text ++ piece }, ?_, hunlimited, hbroken⟩
  simp [write, hasRoom, hunlimited, hbroken]

namespace Listing

open Decoding

variable {α β γ δ : Type}

/-- The listing fails. -/
def Fails (listing : Listing α) (cursor : Cursor) (sink : TextSink) : Prop :=
  ∃ cause state, listing (cursor, sink) = .error cause state

/-- The listing accepts what the read accepts, leaves the same bytes and returns `f` of the value
read. It fails where the read does, and else only if its sink is not open. -/
structure Follows (listing : Listing α) (read : Decoding Unit Empty β) (f : β → α) : Prop where
  ok {cursor after : Cursor} {value : β} (h : read (cursor, ()) = .ok value (after, ()))
    (sink : TextSink) :
    (∃ last, listing (cursor, sink) = .ok (f value) (after, last) ∧ (sink.isOpen → last.isOpen)) ∨
      (¬ sink.isOpen ∧ Fails listing cursor sink)
  error {cursor : Cursor} {cause : WireError Empty} {state : Cursor × Unit}
    (h : read (cursor, ()) = .error cause state) (sink : TextSink) : Fails listing cursor sink

/-- What the listing accepts was read. -/
theorem Follows.of_ok {listing : Listing α} {read : Decoding Unit Empty β} {f : β → α}
    (h : Follows listing read f) {cursor after : Cursor} {sink last : TextSink} {listed : α}
    (hok : listing (cursor, sink) = .ok listed (after, last)) :
    ∃ value, read (cursor, ()) = .ok value (after, ()) ∧ listed = f value := by
  cases herror : read (cursor, ()) with
  | error cause state =>
      obtain ⟨_, _, hfailed⟩ := h.error herror sink
      cases hfailed.symm.trans hok
  | ok value reached =>
      rcases h.ok herror sink with ⟨_, haccepted, -⟩ | ⟨-, _, _, hfailed⟩
      · cases haccepted.symm.trans hok
        exact ⟨value, rfl, rfl⟩
      · cases hfailed.symm.trans hok

/-- What is read is accepted, if the sink is open. -/
theorem Follows.ok_of_isOpen {listing : Listing α} {read : Decoding Unit Empty β} {f : β → α}
    (h : Follows listing read f) {cursor after : Cursor} {sink : TextSink} {value : β}
    (hok : read (cursor, ()) = .ok value (after, ())) (hisOpen : sink.isOpen) :
    ∃ last, listing (cursor, sink) = .ok (f value) (after, last) ∧ last.isOpen := by
  rcases h.ok hok sink with ⟨last, haccepted, hstays⟩ | ⟨hshut, -⟩
  · exact ⟨last, haccepted, hstays hisOpen⟩
  · exact absurd hisOpen hshut

/-- A chain fails if its first step does. -/
theorem Fails.bind {listing : Listing α} {cursor : Cursor} {sink : TextSink}
    (h : Fails listing cursor sink) (next : α → Listing β) :
    Fails (listing >>= next) cursor sink := by
  obtain ⟨cause, state, h⟩ := h
  exact ⟨cause, state, bind_of_error h⟩

/-- A chain fails if its second step does, whatever the first one does. -/
theorem fails_bind (listing : Listing α) {next : α → Listing β}
    (h : ∀ value cursor sink, Fails (next value) cursor sink) (cursor : Cursor) (sink : TextSink) :
    Fails (listing >>= next) cursor sink := by
  cases herror : listing (cursor, sink) with
  | error cause state => exact ⟨cause, state, bind_of_error herror⟩
  | ok value state =>
      obtain ⟨cause, last, hfailed⟩ := h value state.1 state.2
      exact ⟨cause, last, (bind_of_ok herror).trans hfailed⟩

/-- What never succeeds is followed by what never succeeds. -/
theorem follows_of_fails {listing : Listing α} {read : Decoding Unit Empty β}
    (h : ∀ cursor sink, Fails listing cursor sink)
    (hnever : ∀ {cursor after value}, read (cursor, ()) ≠ .ok value (after, ())) (f : β → α) :
    Follows listing read f where
  ok hok := absurd hok hnever
  error _ := h _

/-! ### Chains -/

/-- A listing that writes nothing follows a read that takes nothing. -/
theorem follows_pure (value : β) (f : β → α) : Follows (pure (f value)) (pure value) f where
  ok h sink := by
    obtain ⟨rfl, hpair⟩ := pure_eq_ok_iff.mp h
    cases hpair
    exact Or.inl ⟨sink, rfl, id⟩
  error h := by cases h

/-- A listing that fails follows a read that fails; the two may name different causes. -/
theorem follows_throw (failure : ListingError) (cause : WireError Empty) (f : β → α) :
    Follows (throw failure) (throw cause) f where
  ok h := by cases h
  error h sink := ⟨failure, _, rfl⟩

/-- Listings follow reads one after the other, if the second follows for the value that was read
first. -/
theorem Follows.bind {listing : Listing α} {read : Decoding Unit Empty β} {f : β → α}
    {next : α → Listing γ} {rest : β → Decoding Unit Empty δ} {g : δ → γ}
    (hfollows : Follows listing read f)
    (htail : ∀ {cursor after value}, read (cursor, ()) = .ok value (after, ()) →
      Follows (next (f value)) (rest value) g) :
    Follows (listing >>= next) (read >>= rest) g where
  ok h sink := by
    obtain ⟨value, middle, hfirst, hok⟩ := bind_eq_ok_iff.mp h
    rcases hfollows.ok hfirst sink with ⟨last, hlisted, hstays⟩ | ⟨hshut, hfailed⟩
    · rcases (htail hfirst).ok hok last with ⟨final, hdone, hstillOpen⟩ | ⟨hshut, hfailed⟩
      · exact Or.inl ⟨final, (bind_of_ok hlisted).trans hdone, hstillOpen ∘ hstays⟩
      · obtain ⟨cause, state, hfailed⟩ := hfailed
        exact Or.inr ⟨hshut ∘ hstays, cause, state, (bind_of_ok hlisted).trans hfailed⟩
    · exact Or.inr ⟨hshut, hfailed.bind next⟩
  error {cursor cause state} h sink := by
    cases hfirst : read (cursor, ()) with
    | error cause state => exact (hfollows.error hfirst sink).bind next
    | ok value middle =>
        rw [bind_of_ok hfirst] at h
        rcases hfollows.ok hfirst sink with ⟨last, hlisted, -⟩ | ⟨-, hfailed⟩
        · obtain ⟨cause, state, hfailed⟩ := (htail hfirst).error h last
          exact ⟨cause, state, (bind_of_ok hlisted).trans hfailed⟩
        · exact hfailed.bind next

/-- What is made of a value may be made on either side. -/
theorem Follows.map {listing : Listing α} {read : Decoding Unit Empty β} {f : β → α}
    (hfollows : Follows listing read f) {wrap : α → γ} {wrap' : β → δ} {g : δ → γ}
    (hsame : ∀ value, g (wrap' value) = wrap (f value)) :
    Follows (listing >>= fun value => pure (wrap value)) (read >>= fun value => pure (wrap' value))
      g :=
  hfollows.bind fun {_ _ value} _ => by
    rw [← hsame value]
    exact follows_pure (wrap' value) g

/-- What is done on the side of the listing alone, once a value was read, moves nothing. -/
theorem Follows.andThen {listing : Listing α} {read : Decoding Unit Empty β} {f : β → α}
    {next : α → Listing γ} {g : β → γ} (hfollows : Follows listing read f)
    (htail : ∀ value, Follows (next (f value)) (pure value) g) :
    Follows (listing >>= next) read g := by
  have hchained : Follows (listing >>= next) (read >>= pure) g := hfollows.bind fun _ => htail _
  rwa [bind_pure] at hchained

/-! ### Leaves -/

/-- Writing follows a read that takes nothing. -/
theorem follows_write (text : String) : Follows (write text) (pure ()) id where
  ok {cursor after value} h sink := by
    obtain ⟨-, hpair⟩ := pure_eq_ok_iff.mp h
    cases hpair
    rcases hoffered : sink.write text with ⟨last, took⟩
    cases took with
    | true =>
        refine Or.inl ⟨last, by simp only [Listing.write, hoffered, id], fun hisOpen => ?_⟩
        obtain ⟨_, hwrite, hstays⟩ := TextSink.write_of_isOpen hisOpen text
        cases hoffered.symm.trans hwrite
        exact hstays
    | false =>
        refine Or.inr ⟨fun hisOpen => ?_, .sinkBroken, (cursor, last), ?_⟩
        · obtain ⟨_, hwrite, -⟩ := TextSink.write_of_isOpen hisOpen text
          cases hoffered.symm.trans hwrite
        · simp only [Listing.write, hoffered]
  error h := by cases h

/-- Text may be written first. -/
theorem Follows.write {listing : Listing α} {read : Decoding Unit Empty β} {f : β → α}
    (h : Follows listing read f) (text : String) :
    Follows (Listing.write text >>= fun _ => listing) read f := by
  have hfollows : Follows (Listing.write text >>= fun _ => listing) (pure () >>= fun _ => read) f :=
    (follows_write text).bind fun _ => h
  rwa [pure_bind] at hfollows

/-- A read of the payload follows itself. -/
theorem follows_readValue (read : Read Empty α) :
    Follows (readValue read) (onCursor read : Decoding Unit Empty α) id where
  ok {cursor after value} h sink := by
    simp only [onCursor] at h
    split at h
    · next hreads =>
        cases h
        exact Or.inl ⟨sink, readValue_ok_iff.mpr ⟨hreads, rfl⟩, id⟩
    · cases h
  error {cursor cause state} h sink := by
    simp only [onCursor] at h
    split at h
    · cases h
    · next failure reached hreads =>
        exact ⟨.wire failure, (reached, sink), by simp only [readValue, hreads]⟩

/-! ### Repetition -/

/-- A numbered repetition follows a repeated read, if each turn does. -/
theorem Follows.numbered {step : Nat → Listing α} {read : Decoding Unit Empty β} {f : β → α}
    (heach : ∀ index, Follows (step index) read f) (index count : Nat) :
    Follows (numbered step index count) (readMany read count) (List.map f) := by
  induction count generalizing index with
  | zero => exact follows_pure [] (List.map f)
  | succ count ih =>
      exact (heach index).bind fun _ => (ih (index + 1)).map fun _ => rfl

/-- A count that the bytes ahead cannot satisfy may be refused at once, if every element takes a
byte: the repetition fails in any case. -/
theorem Follows.requireRoom {listing : Listing α} {type : FieldType} {count size : Nat}
    {read : Decoding Unit Empty β} {f : List β → α} (h : Follows listing (readMany read count) f)
    (hleast : Takes read size) (hroom : type.hasSize = true → 0 < size) :
    Follows listing (onCursor (Cursor.requireRoom type count) >>= fun _ => readMany read count) f
    where
  ok {cursor after value} hbind sink := by
    obtain ⟨_, ⟨middle, _⟩, honCursor, hreadMany⟩ := bind_eq_ok_iff.mp hbind
    obtain rfl := Cursor.remaining_of_requireRoom (onCursor_eq_ok_iff.mp honCursor).1
    exact h.ok hreadMany sink
  error {cursor cause state} herror sink := by
    by_cases henough : type.hasSize = true → count ≤ cursor.remaining
    · rw [bind_of_ok (onCursor_of_ok (Cursor.requireRoom_of_le henough) ())] at herror
      exact h.error herror sink
    · cases hreadMany : readMany read count (cursor, ()) with
      | error cause state => exact h.error hreadMany sink
      | ok elements reached =>
          refine absurd (fun hsized => ?_) henough
          have hle := hleast.readMany count hreadMany
          have hcounted := Nat.le_mul_of_pos_right count (hroom hsized)
          omega

/-! ### Values and arrays -/

/-- What is made of a value on the side of the read alone may be made afterwards. -/
theorem Follows.wrap {listing : Listing α} {read : Decoding Unit Empty β} {f : δ → α}
    {wrap : β → δ} (h : Follows listing read fun value => f (wrap value)) :
    Follows listing (read >>= fun value => pure (wrap value)) f := by
  have hfollows : Follows (listing >>= pure) (read >>= fun value => pure (wrap value)) f :=
    h.bind fun {_ _ value} _ => follows_pure (wrap value) f
  rwa [bind_pure] at hfollows

/-- A value that is spelled after it was read follows the read. -/
theorem follows_single (read : Read Empty α) (spell : α → String) (wrap : α → Value)
    (name : String) (level : Nat) :
    Follows (single read spell wrap name level) (onCursor read) wrap :=
  (follows_readValue read).andThen fun value => (follows_pure value wrap).write _

/-- An array that is spelled after all of it was read follows the repeated read. -/
theorem follows_array (read : Read Empty α) (spell : α → String) (wrap : α → Value)
    (name : String) (count level : Nat) :
    Follows (array read spell wrap name count level) (readMany (onCursor read) count)
      (fun values => .array (values.map wrap)) := by
  rw [readMany_onCursor]
  exact (follows_readValue _).andThen fun values =>
    (follows_pure values fun values => Value.array (values.map wrap)).write _

variable (mapping : HandleMapping)

/-- One element is followed by what follows the read that it is made of. -/
theorem follows_one {listing : Listing Value} {field : String} {type : FieldType}
    {read : Decoding Unit Empty β} {wrap : β → Value}
    (hdecodes : decodeElement HandleMapper.identity mapping field type
      = read >>= fun value => pure (wrap value))
    (h : Follows listing read fun value => (wrap value).plain) :
    Follows listing (decodeElements HandleMapper.identity mapping field type none)
      Value.plain := by
  rw [decodeElements, hdecodes]
  exact h.wrap

/-- An array is followed by what follows the repetition, whether or not there is room for it. -/
theorem follows_many {listing : Listing Value} {field : String} {type : FieldType}
    {read : Decoding Unit Empty β} {wrap : β → Value} {count : Nat}
    (hroom : type.hasSize = true → 0 < type.minSize)
    (hdecodes : decodeElement HandleMapper.identity mapping field type
      = read >>= fun value => pure (wrap value))
    (h : Follows listing (readMany read count) fun values =>
      .array (values.map fun value => (wrap value).plain)) :
    Follows listing (decodeElements HandleMapper.identity mapping field type (some count))
      Value.plain := by
  have hleast := takes_decodeElement (HandleMapper.identity (σ := Unit) (ε := Empty)) mapping field
    type
  rw [hdecodes] at hleast
  simp only [decodeElements, hdecodes, readMany_map, ← bind_assoc]
  refine (Follows.wrap ?_).wrap
  simpa only [Value.plain_array, List.map_map, Function.comp_def] using
    h.requireRoom hleast.of_map hroom

/-- A header is listed as it is read, and both refuse extensions and the tags of others. -/
theorem follows_header (schema : String) (tag : Option UInt32) (level : Nat) :
    Follows (header tag level)
      (onCursor (Cursor.readStructHeader schema tag) : Decoding Unit Empty Unit) id := by
  cases tag with
  | none => exact follows_pure () id
  | some expected =>
      rw [Cursor.readStructHeader, onCursor_bind]
      refine (follows_readValue _).bind fun {_ _ found} _ => ?_
      refine Follows.write ?_ _
      by_cases heq : found = expected
      · subst heq
        simp only [id, ne_eq, not_true_eq_false, bne_self_eq_false, Bool.false_eq_true, if_false,
          onCursor_bind]
        refine (follows_readValue _).bind fun {_ _ length} _ => ?_
        refine Follows.write ?_ _
        by_cases hnone : length = 0
        · subst hnone
          exact follows_pure () id
        · have hbne : (length != 0) = true := by simpa using hnone
          simp only [id, hnone, hbne, not_false_eq_true, if_true]
          -- Neither goes on behind an extension.
          refine follows_of_fails (fails_bind _ fun _ => fails_bind _ fun _ cursor sink => ?_) ?_ id
          · exact ⟨_, _, rfl⟩
          · intro cursor after value honCursor
            obtain ⟨_, _, -, hthrown⟩ := bind_eq_ok_iff.mp (onCursor_eq_ok_iff.mp honCursor).1
            cases hthrown
      · have hother : (found != expected) = true := by simpa using heq
        simp only [id, heq, hother, ne_eq, not_false_eq_true, if_true]
        exact follows_throw _ _ id

end Listing

end CallStream
