import CallStream.Proofs.Boxing.Entering
import CallStream.Proofs.Codec.Counting
import CallStream.Proofs.Codec.Writing
import CallStream.Proofs.Session.History

/-!
# What outputs are written as

The outputs of a call are written one after another. Each is taken out of the record, gets ids for
the objects in it if the call succeeded in creating them, is encoded beside the other parameters,
and goes back into the record. So every output is encoded among the outputs in front of it as they
were written and those behind it as the driver left them, and the objects of all outputs enter the
table in order.

## Main results

* `boxHandles_eq_ok`: the objects in a value get ids, and nothing else in it changes.
* `writeOutput_eq_ok`: what is written for one output, and what it becomes.
* `writeOutputs_eq_ok`: what is written for outputs in order, and what they become.
-/

namespace CallStream

open BoxTable

/-! ### Values that get ids -/

/-- `boxed` is `raw` with what a guest gets for it in the place of every handle. -/
structure Value.BoxedAs (type : HandleType) (before after : BoxTable) (raw boxed : Value) :
    Prop where
  blank : boxed.blank = raw.blank
  handles : List.Forall₂ (StandsFor type before after) raw.handles boxed.handles

/-- The objects in a value get ids, and nothing else in it changes. -/
theorem boxHandles_eq_ok {type : HandleType} {raw boxed : Value} {table after : BoxTable}
    (h : boxHandles type raw table = .ok boxed after) :
    raw.BoxedAs type table after boxed ∧ Enters table after (nonnull boxed.handles) := by
  obtain ⟨hmapM, hmapHandles⟩ := raw.mapM_of_traverseHandles h
  obtain ⟨hstands, henters⟩ := standsFor_of_mapM hmapM
  exact ⟨⟨hmapHandles, hstands⟩, henters⟩

namespace ParamSpec

/-- Whether the objects in a parameter get ids; `box` tells whether any do. -/
def isBoxed (box : Bool) (param : ParamSpec) : Bool := box && param.createsNonDispatchable

/-- What the value of an output is written as. -/
def WrittenAs (box : Bool) (param : ParamSpec) (before after : BoxTable)
    (raw value : Value) : Prop :=
  if param.isBoxed box then
    ∃ type, param.field.handleType? = some type ∧ raw.BoxedAs type before after value
  else value = raw

/-- The ids in the value that an output is written as. -/
def newIds (box : Bool) (param : ParamSpec) (value : Value) : List BoxedId :=
  if param.isBoxed box then nonnull value.handles else []

/-- An output in which objects get ids is one of handles. -/
theorem handleType?_of_isBoxed {box : Bool} {param : ParamSpec} (h : param.isBoxed box = true) :
    ∃ type, param.field.handleType? = some type := by
  simp only [isBoxed, createsNonDispatchable, Bool.and_eq_true] at h
  obtain ⟨type, hhandleType, -⟩ := (Option.any_eq_true _ _).mp h.2.2
  exact ⟨type, hhandleType⟩

/-- Other objects may enter before and behind. -/
theorem WrittenAs.widen {box : Bool} {param : ParamSpec} {first second third fourth : BoxTable}
    {raw value : Value} {front back : List BoxedId}
    (h : param.WrittenAs box second third raw value) (henters : Enters first second front)
    (hlater : Enters third fourth back) : param.WrittenAs box first fourth raw value := by
  unfold WrittenAs at h ⊢
  split at h
  · next hboxed =>
      obtain ⟨type, hhandleType, hblank, hhandles⟩ := h
      rw [if_pos hboxed]
      exact ⟨type, hhandleType, hblank, hhandles.imp fun _ _ hstandsFor => hstandsFor.widen
        henters hlater⟩
  · next hunboxed => rwa [if_neg hunboxed]

end ParamSpec

namespace Execution

variable {σ : Type} {host : Collaborators σ} {call : CallDescriptor} {box : Bool}
  {param : ParamSpec} {place : Nat} {name : String} {args written : Record} {raw value : Value}
  {run after : Run σ}

/-! ### One output -/

/-- A value that is written goes into the draft and into its place. -/
theorem writeReceived_eq_ok
    (h : writeReceived call param place name args value run = .ok written after) :
    ∃ part, encodeField param.field value (args.set place (name, .absent)) = .done part ∧
      written = args.set place (name, value) ∧
      after = { run with writer := run.writer.append part } := by
  obtain ⟨_, middle, hemit, h⟩ := bind_eq_ok_iff.mp h
  obtain ⟨-, rfl⟩ := emit_eq_ok_iff.mp hemit
  cases hcomplete : (encodeField param.field value (args.set place (name, .absent))).failure with
  | some cause =>
      rw [hcomplete] at h
      cases h
  | none =>
      rw [hcomplete] at h
      obtain ⟨rfl, rfl⟩ := pure_eq_ok_iff.mp h
      exact ⟨_, Emission.eq_done_iff.mpr ⟨hcomplete, rfl⟩, rfl, rfl⟩

/-- An output stays what it is, or gets ids for the objects in it. -/
theorem boxOutput_eq_ok (h : boxOutput box param raw run = .ok value after) :
    ∃ table, after = { run with table } ∧ param.WrittenAs box run.table table raw value ∧
      Enters run.table table (param.newIds box value) ∧
      (param.isBoxed box = false → table = run.table) := by
  unfold boxOutput at h
  unfold ParamSpec.WrittenAs ParamSpec.newIds
  by_cases hboxed : param.isBoxed box = true
  · obtain ⟨type, htype⟩ := ParamSpec.handleType?_of_isBoxed hboxed
    rw [htype] at h
    dsimp only at h
    rw [if_pos (show (box && param.createsNonDispatchable) = true from hboxed)] at h
    obtain ⟨table, hstep, rfl⟩ := onTable_ok_iff.mp h
    obtain ⟨hbecomes, henters⟩ := boxHandles_eq_ok hstep
    refine ⟨table, rfl, ?_, ?_, fun hplain => ?_⟩
    · rw [if_pos hboxed]
      exact ⟨type, htype, hbecomes⟩
    · rwa [if_pos hboxed]
    · exact absurd (hboxed.symm.trans hplain) (by decide)
  -- Outputs that get no ids are handed on, whether or not they are handles.
  · have hpure : (pure raw : Execution σ Value) run = .ok value after := by
      cases htype : param.field.handleType? with
      | none =>
          rw [htype] at h
          exact h
      | some type =>
          rw [htype] at h
          dsimp only at h
          rwa [if_neg (show ¬ (box && param.createsNonDispatchable) = true from hboxed)] at h
    obtain ⟨rfl, rfl⟩ := pure_eq_ok_iff.mp hpure
    refine ⟨run.table, rfl, ?_, ?_, fun _ => rfl⟩
    · rw [if_neg hboxed]
    · rw [if_neg hboxed]
      exact .refl run.table

/-- An output is written as what it is, or with ids for the objects in it. -/
theorem writeOutput_eq_ok (hinert : ∀ call param value, host.fromHost call param value = pure value)
    (hget : args[place]? = some (name, raw))
    (h : writeOutput host call box param place args run = .ok written after) :
    ∃ value part table,
      encodeField param.field value (args.set place (name, .absent)) = .done part ∧
      written = args.set place (name, value) ∧
      after = { run with table, writer := run.writer.append part } ∧
      param.WrittenAs box run.table table raw value ∧
      Enters run.table table (param.newIds box value) ∧
      (param.isBoxed box = false → table = run.table) := by
  unfold writeOutput at h
  rw [hget] at h
  obtain ⟨adapted, _, hadapt, h⟩ := bind_eq_ok_iff.mp h
  rw [hinert] at hadapt
  cases hadapt
  obtain ⟨value, _, hbox, h⟩ := bind_eq_ok_iff.mp h
  obtain ⟨table, rfl, hwritten, henters, hplain⟩ := boxOutput_eq_ok hbox
  obtain ⟨part, hencode, rfl, rfl⟩ := writeReceived_eq_ok h
  exact ⟨value, part, table, hencode, rfl, rfl, hwritten, henters, hplain⟩

/-! ### Outputs in order -/

/-- The bytes of an output: it is encoded among the outputs in front of it as they were written, and
those behind it as they were received. -/
def EncodesOutput (args written : Record) (output : ParamSpec × Nat) (part : Bytes) : Prop :=
  ∃ name value, written[output.2]? = some (name, value) ∧
    encodeField output.1.field value
      (written.take output.2 ++ (name, .absent) :: args.drop (output.2 + 1)) = .done part

/-- The ids in outputs that were written, in order. -/
def newIds (box : Bool) (outputs : List (ParamSpec × Nat)) (written : Record) : List BoxedId :=
  outputs.flatMap fun (param, place) =>
    written[place]?.elim [] fun (_, value) => param.newIds box value

/-- What becomes of outputs that are written in order, as `parts`. -/
structure WritesOutputs (box : Bool) (outputs : List (ParamSpec × Nat)) (args written : Record)
    (parts : List Bytes) (before after : BoxTable) : Prop where
  encoded : List.Forall₂ (EncodesOutput args written) outputs parts
  becomes : ∀ output ∈ outputs, ∃ name raw value, args[output.2]? = some (name, raw) ∧
    written[output.2]? = some (name, value) ∧ output.1.WrittenAs box before after raw value
  enters : Enters before after (newIds box outputs written)
  /-- No other parameter changes. -/
  others : ∀ place, (∀ output ∈ outputs, output.2 ≠ place) → written[place]? = args[place]?
  /-- Where no objects get ids, the table stays as it is. -/
  untouched : (∀ output ∈ outputs, output.1.isBoxed box = false) → after = before

/-- It only matters which of the outputs get ids. -/
theorem WritesOutputs.congr {box' : Bool} {outputs : List (ParamSpec × Nat)} {parts : List Bytes}
    {before after : BoxTable} (h : WritesOutputs box outputs args written parts before after)
    (hagree : ∀ output ∈ outputs, output.1.isBoxed box' = output.1.isBoxed box) :
    WritesOutputs box' outputs args written parts before after where
  encoded := h.encoded
  becomes output hmem := by
    obtain ⟨name, raw, value, hget, hthere, hwrittenAs⟩ := h.becomes output hmem
    refine ⟨name, raw, value, hget, hthere, ?_⟩
    rwa [ParamSpec.WrittenAs, hagree output hmem]
  enters := by
    have hnewIds : newIds box' outputs written = newIds box outputs written := by
      refine List.flatMap_congr fun output hmem => ?_
      simp only [ParamSpec.newIds, hagree output hmem]
    exact hnewIds ▸ h.enters
  others := h.others
  untouched hplain := h.untouched fun output hmem => hagree output hmem ▸ hplain output hmem

/-- Where no objects get ids, the parameters stay as they are. -/
theorem WritesOutputs.eq_of_plain {outputs : List (ParamSpec × Nat)} {parts : List Bytes}
    {before after : BoxTable} (h : WritesOutputs box outputs args written parts before after)
    (hplain : ∀ output ∈ outputs, output.1.isBoxed box = false) : written = args := by
  refine List.ext_getElem? fun place => ?_
  by_cases hunwritten : ∀ output ∈ outputs, output.2 ≠ place
  · exact h.others place hunwritten
  · obtain ⟨output, hmem, rfl⟩ : ∃ output ∈ outputs, output.2 = place := by simpa using hunwritten
    obtain ⟨name, raw, value, hget, hthere, hwrittenAs⟩ := h.becomes output hmem
    rw [ParamSpec.WrittenAs, hplain output hmem] at hwrittenAs
    obtain rfl : value = raw := hwrittenAs
    exact hthere.trans hget.symm

/-- Outputs are written in their places. -/
theorem WritesOutputs.length_eq {outputs : List (ParamSpec × Nat)} {parts : List Bytes}
    {before after : BoxTable} (h : WritesOutputs box outputs args written parts before after) :
    written.length = args.length := by
  have hsame (place : Nat) : written.length ≤ place ↔ args.length ≤ place := by
    rw [← List.getElem?_eq_none_iff, ← List.getElem?_eq_none_iff]
    by_cases hunwritten : ∀ output ∈ outputs, output.2 ≠ place
    · rw [h.others place hunwritten]
    · obtain ⟨output, hmem, rfl⟩ : ∃ output ∈ outputs, output.2 = place := by simpa using hunwritten
      obtain ⟨name, raw, value, hget, hthere, -⟩ := h.becomes output hmem
      simp only [hget, hthere, reduceCtorEq]
  exact Nat.le_antisymm ((hsame _).mpr (Nat.le_refl _)) ((hsame _).mp (Nat.le_refl _))

/-- Without outputs, nothing is written and nothing enters. -/
theorem WritesOutputs.nil (box : Bool) (args : Record) (table : BoxTable) :
    WritesOutputs box [] args args [] table table where
  encoded := .nil
  becomes _ hmem := absurd hmem List.not_mem_nil
  enters := .refl table
  others _ _ := rfl
  untouched _ := rfl

/-- One output is written in front of the others, which lie behind it. -/
theorem WritesOutputs.cons {rest : List (ParamSpec × Nat)} {parts : List Bytes} {part : Bytes}
    {before middle after : BoxTable} (hbehind : ∀ output ∈ rest, place < output.2)
    (hget : args[place]? = some (name, raw))
    (hencodeField : encodeField param.field value (args.set place (name, .absent)) = .done part)
    (hwrittenAs : param.WrittenAs box before middle raw value)
    (henters : Enters before middle (param.newIds box value))
    (huntouched : param.isBoxed box = false → middle = before)
    (h : WritesOutputs box rest (args.set place (name, value)) written parts middle after) :
    WritesOutputs box ((param, place) :: rest) args written (part :: parts) before after := by
  obtain ⟨hinside, -⟩ := List.getElem?_eq_some_iff.mp hget
  -- The other outputs lie behind this one, so up to its place the record is as this one left it.
  have hkept (other : Nat) (hfront : other ≤ place) :
      written[other]? = (args.set place (name, value))[other]? :=
    h.others other fun output hmem => by have := hbehind output hmem; omega
  have hhere : written[place]? = some (name, value) :=
    (hkept place (Nat.le_refl _)).trans (List.getElem?_set_self hinside)
  -- The output itself was encoded before the later ones were written, in a record that agrees with
  -- the final one up to its place.
  have hfront : written.take place = args.take place := by
    refine List.ext_getElem? fun other => ?_
    simp only [List.getElem?_take]
    split
    · next hlt => rw [hkept other (Nat.le_of_lt hlt), List.getElem?_set_ne (Nat.ne_of_gt hlt)]
    · rfl
  constructor
  case encoded =>
    refine .cons ⟨name, value, hhere, ?_⟩ ?_
    · rw [hfront]
      rwa [List.set_eq_take_append_cons_drop, if_pos hinside] at hencodeField
    · refine ((List.forall₂_and_left _ _).mpr ⟨hbehind, h.encoded⟩).imp ?_
      rintro output part ⟨hlater, name, value, hthere, hencodeField⟩
      rw [List.drop_set_of_lt (Nat.lt_succ_of_lt hlater)] at hencodeField
      exact ⟨name, value, hthere, hencodeField⟩
  case becomes =>
    refine List.forall_mem_cons.mpr ⟨⟨name, raw, value, hget, hhere, ?_⟩, fun output hmem => ?_⟩
    · exact hwrittenAs.widen (.refl before) h.enters
    · obtain ⟨name, raw, value, hreceived, hthere, hbecomes⟩ := h.becomes output hmem
      rw [List.getElem?_set_ne (Nat.ne_of_lt (hbehind output hmem))] at hreceived
      exact ⟨name, raw, value, hreceived, hthere, hbecomes.widen henters (.refl after)⟩
  case enters =>
    have hfirst : newIds box ((param, place) :: rest) written
        = param.newIds box value ++ newIds box rest written := by
      simp only [newIds, List.flatMap_cons, hhere, Option.elim_some]
    exact hfirst ▸ henters.trans h.enters
  case others =>
    intro other habsent
    obtain ⟨hfirst, hlater⟩ := List.forall_mem_cons.mp habsent
    rw [h.others other hlater, List.getElem?_set_ne hfirst]
  case untouched =>
    intro hplain
    obtain ⟨hfirst, hlater⟩ := List.forall_mem_cons.mp hplain
    exact (h.untouched hlater).trans (huntouched hfirst)

/-- What is written for outputs in order, and what they become. -/
theorem writeOutputs_eq_ok {outputs : List (ParamSpec × Nat)}
    (hinert : ∀ call param value, host.fromHost call param value = pure value)
    (hordered : outputs.Pairwise (·.2 < ·.2)) (hinside : ∀ output ∈ outputs, output.2 < args.length)
    (h : writeOutputs host call box outputs args run = .ok written after) :
    ∃ parts table, WritesOutputs box outputs args written parts run.table table ∧
      after = { run with table, writer := run.writer.append parts.flatten } := by
  induction outputs generalizing args run with
  | nil =>
      obtain ⟨rfl, rfl⟩ := pure_eq_ok_iff.mp h
      refine ⟨[], run.table, .nil box args run.table, ?_⟩
      rw [List.flatten_nil, Writer.append, List.append_nil]
  | cons output rest ih =>
      obtain ⟨param, place⟩ := output
      obtain ⟨hbehind, horderedRest⟩ := List.pairwise_cons.mp hordered
      obtain ⟨hlt, hothers⟩ := List.forall_mem_cons.mp hinside
      obtain ⟨⟨name, raw⟩, hget⟩ : ∃ entry, args[place]? = some entry :=
        ⟨_, List.getElem?_eq_getElem hlt⟩
      obtain ⟨middle, reached, hwriteOutput, hwriteOutputs⟩ := bind_eq_ok_iff.mp h
      obtain ⟨value, part, table, hencodeField, rfl, rfl, hwrittenAs, henters, huntouched⟩ :=
        writeOutput_eq_ok hinert hget hwriteOutput
      -- Later outputs lie behind this one, so they are untouched so far.
      obtain ⟨parts, last, hwrites, rfl⟩ := ih horderedRest (by simpa using hothers) hwriteOutputs
      refine ⟨part :: parts, last,
        .cons hbehind hget hencodeField hwrittenAs henters huntouched hwrites, ?_⟩
      simp only [Writer.append, List.flatten_cons, List.append_assoc]

end Execution

end CallStream
