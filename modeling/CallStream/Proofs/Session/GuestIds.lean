import CallStream.Proofs.Session.Destruction
import CallStream.Proofs.Session.Recording
import CallStream.Proofs.Session.Writeback

/-!
# Recorded calls speak of the guest's ids

When a call is recorded, the objects that it destroyed are gone from the table and their parameters
hold the driver's values. What is left of the ids is a list, in the order in which the objects were
destroyed. That is the order of the handles on the wire, without those that are null. So whoever
walks over the parameters once more, and takes an id off the list for each handle that is not null,
puts every id where it came from.

This rests on null handles being the only ones that the driver knows as zero: were there an object
with that value, its id would be left over, and go to the next handle.

## Main results

* `run_restoreDestroyed`: the ids on the list go back to the places where they were sent.
* `preserved_of_receive`: receiving a call lists the ids of the objects that it destroys.
* `recorded_in_guest_ids`: a recorded call names objects as the guest does.
-/

namespace CallStream

open BoxTable

/-! ### Values of the driver -/

/-- Where no object has the value zero, the driver's value for a handle is zero for null alone. -/
theorem BoxTable.Knows.rawOf_eq_zero_iff {table : BoxTable} {id : BoxedId} (hknows : table.Knows id)
    (hnonzero : ∀ entry ∈ table.entries, entry.raw ≠ 0) : table.rawOf id = 0 ↔ id = 0 := by
  constructor
  · intro hvanishes
    by_contra hobject
    obtain ⟨entry, hfind⟩ := Option.isSome_iff_exists.mp (hknows.resolve_left hobject)
    have hvalue := rawOf_of_resolve ((resolve_eq_ok_iff hobject).mpr ⟨entry, hfind, rfl⟩)
    exact hnonzero entry (List.mem_of_find?_eq_some hfind) (hvalue.symm.trans hvanishes)
  · rintro rfl
    rfl

/-! ### Ids in their places -/

section Restoring

variable {raw : BoxedId → UInt64}

/-- A chain goes on from what its first step gives. -/
theorem run_bind_of_eq {σ α β : Type} {step : StateM σ α} {next : α → StateM σ β}
    {before middle : σ} {value : α} (h : step.run before = (value, middle)) :
    (step >>= next).run before = (next value).run middle := by
  rw [StateT.run_bind, h]
  rfl

/-- The handles of two lists that are not null are those of one and then those of the other. -/
theorem nonnull_append (front back : List UInt64) :
    nonnull (front ++ back) = nonnull front ++ nonnull back :=
  List.filter_append ..

/-- A handle takes its id off the list, unless it is null. -/
theorem run_restoreHandle {id : BoxedId} (hfaithful : raw id = 0 ↔ id = 0) (rest : List BoxedId) :
    (restoreHandle (raw id)).run (nonnull [id] ++ rest) = (id, rest) := by
  unfold restoreHandle
  by_cases heq : id = 0
  · subst heq
    rw [if_pos (hfaithful.mpr rfl)]
    rfl
  · have hnonnull : nonnull [id] = [id] := List.filter_cons_of_pos (bne_iff_ne.mpr heq)
    rw [if_neg (fun hvanishes => heq (hfaithful.mp hvanishes)), hnonnull]
    rfl

mutual

/-- The handles of a value take their ids off the list, and the value is as it was sent. -/
theorem run_traverse_restoreHandle : (value : Value) →
    (∀ id ∈ value.handles, raw id = 0 ↔ id = 0) → (rest : List BoxedId) →
    ((value.mapHandles raw).traverseHandles restoreHandle).run (nonnull value.handles ++ rest)
      = (value, rest)
  | .handle word, hfaithful, rest => by
      have hrestored := run_restoreHandle (hfaithful word (List.mem_singleton_self word)) rest
      exact run_bind_of_eq hrestored
  | .array elements, hfaithful, rest => by
      rw [Value.mapHandles_array]
      exact run_bind_of_eq (run_traverseElements_restoreHandle elements hfaithful rest)
  | .struct fields, hfaithful, rest => by
      rw [Value.mapHandles_struct]
      exact run_bind_of_eq (run_traverseFields_restoreHandle fields hfaithful rest)
  | .uint _, _, _ | .sint _, _, _ | .float _, _, _ | .enum _, _, _ | .flags _, _, _ | .text _, _, _
  | .absent, _, _ => rfl
termination_by structural value => value

/-- Elements get back as many ids as they have handles that are not null. -/
theorem run_traverseElements_restoreHandle : (elements : List Value) →
    (∀ id ∈ Value.elementHandles elements, raw id = 0 ↔ id = 0) → (rest : List BoxedId) →
    (Value.traverseElements restoreHandle (elements.map (Value.mapHandles raw))).run
      (nonnull (Value.elementHandles elements) ++ rest) = (elements, rest)
  | [], _, _ => rfl
  | value :: others, hfaithful, rest => by
      obtain ⟨hfirst, hbehind⟩ := List.forall_mem_append.mp hfaithful
      rw [Value.elementHandles, nonnull_append, List.append_assoc, List.map_cons,
        Value.traverseElements, run_bind_of_eq (run_traverse_restoreHandle value hfirst _),
        run_bind_of_eq (run_traverseElements_restoreHandle others hbehind rest)]
      rfl
termination_by structural elements => elements

/-- So do fields. -/
theorem run_traverseFields_restoreHandle : (fields : List (String × Value)) →
    (∀ id ∈ Value.fieldHandles fields, raw id = 0 ↔ id = 0) → (rest : List BoxedId) →
    (Value.traverseFields restoreHandle (Record.mapHandles raw fields)).run
      (nonnull (Value.fieldHandles fields) ++ rest) = (fields, rest)
  | [], _, _ => rfl
  | (name, value) :: others, hfaithful, rest => by
      obtain ⟨hfirst, hbehind⟩ := List.forall_mem_append.mp hfaithful
      have hmapHandles : Record.mapHandles raw ((name, value) :: others)
          = (name, value.mapHandles raw) :: Record.mapHandles raw others := rfl
      rw [Value.fieldHandles, nonnull_append, List.append_assoc, hmapHandles, Value.traverseFields,
        run_bind_of_eq (run_traverse_restoreHandle value hfirst _),
        run_bind_of_eq (run_traverseFields_restoreHandle others hbehind rest)]
      rfl
termination_by structural fields => fields

end

/-- A parameter that destroys gets its ids back, before those behind it do. -/
theorem restoreDestroyed_cons (param : ParamSpec) (params : List ParamSpec) (name : String)
    (value : Value) (args : Record) :
    restoreDestroyed (param :: params) ((name, value) :: args)
      = (if param.destroys then value.traverseHandles restoreHandle else pure value) >>=
        fun value =>
          restoreDestroyed params args >>= fun rest => pure ((name, value) :: rest) := by
  rw [restoreDestroyed]
  split <;> rfl

/-- A parameter takes ids off the list if it names objects to destroy, and stays as it is if not. -/
theorem run_restoreParam {param : ParamSpec} {value held : Value}
    (hfaithful : ∀ id ∈ (if param.destroys then value.handles else []), raw id = 0 ↔ id = 0)
    (hleft : param.destroys = true → held = value.mapHandles raw) (rest : List BoxedId) :
    (if param.destroys then held.traverseHandles restoreHandle else pure held).run
        (nonnull (if param.destroys then value.handles else []) ++ rest)
      = (if param.destroys then value else held, rest) := by
  cases hdestroys : param.destroys with
  | true =>
      rw [hdestroys] at hfaithful
      rw [hleft hdestroys]
      exact run_traverse_restoreHandle value hfaithful rest
  | false => rfl

/-- The ids on the list go back to the places where they were sent, and nothing else changes. -/
theorem run_restoreDestroyed {params : List ParamSpec} {sent args : Record}
    (hcomplete : sent.length = params.length) (harity : args.length = params.length)
    (hfaithful : ∀ id ∈ destroyedHandles params sent, raw id = 0 ↔ id = 0)
    (hleft : ∀ (place : Nat) (param : ParamSpec), params[place]? = some param →
      param.destroys = true → args[place]? = (Record.mapHandles raw sent)[place]?)
    (rest : List BoxedId) :
    ∃ restored, (restoreDestroyed params args).run (nonnull (destroyedHandles params sent) ++ rest)
        = (restored, rest) ∧
      ∀ (place : Nat) (param : ParamSpec), params[place]? = some param →
        restored[place]? = if param.destroys then sent[place]? else args[place]? := by
  induction params generalizing sent args with
  | nil =>
      obtain rfl := List.length_eq_zero_iff.mp harity
      exact ⟨[], rfl, fun _ _ hget => nomatch hget⟩
  | cons param params ih =>
      obtain ⟨⟨name, value⟩, sent, rfl⟩ := List.exists_cons_of_length_eq_add_one hcomplete
      obtain ⟨⟨given, held⟩, args, rfl⟩ := List.exists_cons_of_length_eq_add_one harity
      rw [destroyedHandles] at hfaithful ⊢
      obtain ⟨hfirst, hbehind⟩ := List.forall_mem_append.mp hfaithful
      have hsame (hdestroys : param.destroys = true) : given = name ∧
          held = value.mapHandles raw := by
        simpa [Record.mapHandles] using hleft 0 param rfl hdestroys
      -- What the first parameter leaves on the list is what the others take.
      obtain ⟨others, hrun, hplaces⟩ := ih (Nat.succ.inj hcomplete) (Nat.succ.inj harity) hbehind
        fun place => hleft (place + 1)
      refine ⟨(given, if param.destroys then value else held) :: others, ?_,
        fun place other hget => ?_⟩
      · rw [nonnull_append, List.append_assoc, restoreDestroyed_cons,
          run_bind_of_eq (run_restoreParam hfirst (fun hdestroys => (hsame hdestroys).2) _),
          run_bind_of_eq hrun]
        rfl
      -- In the first place stands the first parameter, and the others are those of the shorter
      -- lists.
      · cases place with
        | zero =>
            cases hget
            cases hdestroys : param.destroys with
            | true =>
                rw [(hsame hdestroys).1]
                rfl
            | false => rfl
        | succ place => exact hplaces place other hget

end Restoring

/-! ### Parameters in their places -/

/-- The handle that a call is issued on takes the place of another value, if it takes any. -/
theorem length_withDispatch (handle : Option UInt64) (args : Record) :
    (withDispatch handle args).length = args.length := by
  cases args with
  | nil => rfl
  | cons entry rest => cases handle <;> rfl

/-- Without such a handle, nothing gives way. -/
theorem withDispatch_none (args : Record) : withDispatch none args = args := by
  cases args <;> rfl

/-- Only the first parameter gives way to the handle that a call is issued on. -/
theorem getElem?_withDispatch_of_ne {place : Nat} (hne : place ≠ 0) (handle : Option UInt64)
    (args : Record) : (withDispatch handle args)[place]? = args[place]? := by
  obtain ⟨place, rfl⟩ := Nat.exists_eq_succ_of_ne_zero hne
  cases args with
  | nil => rfl
  | cons entry rest => cases handle <;> rfl

/-- An input is handed on with its handles replaced. -/
theorem getElem?_translateParams {params : List ParamSpec} {place : Nat} {param : ParamSpec}
    (hget : params[place]? = some param) (hisOutput : param.isOutput = false)
    (raw : BoxedId → UInt64) (sent : Record) :
    (translateParams raw params sent)[place]? = (Record.mapHandles raw sent)[place]? := by
  induction params generalizing place sent with
  | nil => cases hget
  | cons first params ih =>
      cases sent with
      | nil => rfl
      | cons entry sent =>
          cases place with
          | zero =>
              cases hget
              simp [translateParams, Record.mapHandles, ParamSpec.translate, hisOutput]
          | succ place => exact ih hget sent

namespace CallDescriptor

variable {call : CallDescriptor} {place : Nat} {param : ParamSpec}

/-- What a call is issued on is no output. -/
theorem inward_of_dispatchType? (call : CallDescriptor) (hmem : call ∈ catalog) {type : HandleType}
    (hdispatchType : call.dispatchType? = some type) {first : ParamSpec}
    (hget : call.params[0]? = some first) : first.isOutput = false := by
  have hinward : ∀ call ∈ catalog, call.dispatchType?.isSome = true →
      ∀ first ∈ call.params[0]?, first.isOutput = false := by
    decide +kernel
  exact hinward call hmem (hdispatchType ▸ rfl) first hget

/-- No call destroys what it is issued on. -/
theorem ne_zero_of_destroys (hmem : call ∈ catalog) (hget : call.params[place]? = some param)
    (hdestroys : param.destroys = true) : place ≠ 0 := by
  rintro rfl
  cases hparams : call.params with
  | nil =>
      rw [hparams] at hget
      cases hget
  | cons first rest =>
      rw [hparams] at hget
      cases hget
      exact Bool.false_ne_true ((destroys_behind_first call hmem hparams).symm.trans hdestroys)

/-- An object to destroy is handed on as the driver's value for it. -/
theorem getElem?_translate (hmem : call ∈ catalog) (hget : call.params[place]? = some param)
    (hdestroys : param.destroys = true) (raw : BoxedId → UInt64) (sent : Record) :
    (call.translate raw sent)[place]? = (Record.mapHandles raw sent)[place]? := by
  have hisOutput := destroys_inward call hmem param (List.mem_of_getElem? hget) hdestroys
  unfold translate
  split
  · -- The parameter in front stays, and it is not this one.
    obtain ⟨place, rfl⟩ := Nat.exists_eq_succ_of_ne_zero (ne_zero_of_destroys hmem hget hdestroys)
    cases hparams : call.params with
    | nil =>
        rw [hparams] at hget
        cases hget
    | cons first others =>
        rw [hparams] at hget
        cases sent with
        | nil => cases others <;> rfl
        | cons entry rest =>
            have hbehind : others[place]? = some param := hget
            exact getElem?_translateParams hbehind hisOutput raw rest
  · exact getElem?_translateParams hget hisOutput raw sent

/-- Outputs are written where nothing is destroyed. -/
theorem spares_of_mem_outputs (hmem : call ∈ catalog) (hwritten : (param, place) ∈ call.outputs) :
    param.destroys = false := by
  have hfound := List.mem_of_getElem? (getElem?_of_mem_outputs hwritten)
  have hisOutput : param.isOutput = true := (List.mem_filter.mp hwritten).2
  refine Bool.eq_false_iff.mpr fun hdestroys => ?_
  exact Bool.false_ne_true ((destroys_inward call hmem param hfound hdestroys).symm.trans hisOutput)

/-- A well typed record has a value for every parameter. -/
theorem length_of_allAdmit {record : Record}
    (hallAdmit : FieldSpec.allAdmit call.fields record = true) :
    record.length = call.params.length := by
  simpa [fields] using congrArg List.length (FieldSpec.names_of_allAdmit hallAdmit)

/-- What was sent for a call is well typed. -/
theorem allAdmit_of_decodeSent {payload : Bytes} {sent : Record} {cursor : Cursor}
    (h : call.decodeSent payload = .ok sent (cursor, ())) :
    FieldSpec.allAdmit call.fields sent = true := by
  obtain ⟨back, rfl, hallAdmit⟩ := allAdmit_decodeFields call.fields [] h
  exact hallAdmit

/-- The object that a call is issued on is sent in front. -/
theorem sentDispatch?_eq_some {type : HandleType} (hdispatchType : call.dispatchType? = some type)
    {sent : Record} (hallAdmit : FieldSpec.allAdmit call.fields sent = true)
    (raw : BoxedId → UInt64) :
    ∃ first name id rest, call.params[0]? = some first ∧ sent = (name, .handle id) :: rest ∧
      call.sentDispatch? raw sent = some { type, boxed := id, raw := raw id } := by
  cases hparams : call.params with
  | nil =>
      rw [dispatchType?, hparams] at hdispatchType
      cases hdispatchType
  | cons first others =>
      rw [fields, hparams] at hallAdmit
      cases sent with
      | nil => cases hallAdmit
      | cons entry rest =>
          obtain ⟨name, value⟩ := entry
          simp only [List.map_cons, FieldSpec.allAdmit, Bool.and_eq_true] at hallAdmit
          -- What a call is issued on is a single handle.
          obtain ⟨id, rfl⟩ := Reading.eq_handle_of_dispatchType? hdispatchType hparams hallAdmit.1.2
          refine ⟨first, name, id, rest, rfl, rfl, ?_⟩
          unfold sentDispatch?
          rw [hdispatchType]

/-- The handle that a call is issued on takes the place of no output. -/
theorem getElem?_withDispatch_of_mem_outputs (hmem : call ∈ catalog)
    (hwritten : (param, place) ∈ call.outputs) (raw : BoxedId → UInt64)
    (name : DispatchHandle → UInt64) (sent args : Record) :
    (withDispatch ((call.sentDispatch? raw sent).map name) args)[place]? = args[place]? := by
  cases hdispatchType : call.dispatchType? with
  | none =>
      have hunissued : call.sentDispatch? raw sent = none := by
        unfold sentDispatch?
        rw [hdispatchType]
      rw [hunissued, Option.map_none, withDispatch_none]
  | some type =>
      have hisOutput : param.isOutput = true := (List.mem_filter.mp hwritten).2
      refine getElem?_withDispatch_of_ne ?_ ..
      rintro rfl
      have hinward :=
        inward_of_dispatchType? call hmem hdispatchType (getElem?_of_mem_outputs hwritten)
      exact Bool.false_ne_true (hinward.symm.trans hisOutput)

end CallDescriptor

/-! ### Recorded calls -/

/-- A recorded call speaks of objects as the guest does that sent `sent` for it and got the outputs
in `written` back. -/
structure SnapshotCall.InGuestIds (snapshot : SnapshotCall) (sent written : Record) : Prop where
  /-- The object that it was issued on goes by the id that was sent. -/
  issuedOn : ∀ type, snapshot.call.dispatchType? = some type → ∃ id,
    sent[0]?.map (·.2) = some (.handle id) ∧ snapshot.params[0]?.map (·.2) = some (.handle id)
  /-- So do the objects that it destroyed, and null handles are null. -/
  destroyed : ∀ (place : Nat) (param : ParamSpec), snapshot.call.params[place]? = some param →
    param.destroys = true →
      ∃ entry, sent[place]? = some entry ∧ snapshot.params[place]? = some entry
  /-- Outputs are what the guest got. -/
  outputs : ∀ output ∈ snapshot.call.outputs,
    ∃ entry, written[output.2]? = some entry ∧ snapshot.params[output.2]? = some entry

/-- The list of what a call destroyed puts its parameters into the ids of the guest. -/
theorem SnapshotCall.inGuestIds_ofCall {call : CallDescriptor}
    (hmem : call ∈ CallDescriptor.catalog) {raw : BoxedId → UInt64} {sent : Record}
    (hallAdmit : FieldSpec.allAdmit call.fields sent = true)
    (hfaithful : ∀ id ∈ destroyedHandles call.params sent, raw id = 0 ↔ id = 0)
    {args : Record} (harity : args.length = call.params.length)
    (hleft : ∀ (place : Nat) (param : ParamSpec), call.params[place]? = some param →
      param.destroys = true → args[place]? = (Record.mapHandles raw sent)[place]?)
    (trace : Bytes) (result : Option Value) :
    (SnapshotCall.ofCall call trace (call.sentDispatch? raw sent)
      (nonnull (destroyedHandles call.params sent)) { args, result }).InGuestIds sent args := by
  have hcomplete := CallDescriptor.length_of_allAdmit hallAdmit
  let boxed := (call.sentDispatch? raw sent).map (·.boxed)
  -- Putting the handle of the call in front does not disturb the walk that restores destroyed ids,
  -- because no call destroys what it is issued on.
  obtain ⟨restored, hrun, hplaces⟩ := run_restoreDestroyed hcomplete
    ((length_withDispatch boxed args).trans harity) hfaithful
    (fun place param hget hdestroys =>
      (getElem?_withDispatch_of_ne (CallDescriptor.ne_zero_of_destroys hmem hget hdestroys)
        ..).trans
        (hleft place param hget hdestroys)) []
  rw [List.append_nil] at hrun
  have hparams : (SnapshotCall.ofCall call trace (call.sentDispatch? raw sent)
      (nonnull (destroyedHandles call.params sent)) { args, result }).params = restored :=
    congrArg Prod.fst hrun
  constructor
  case issuedOn =>
    intro type (hdispatchType : call.dispatchType? = some type)
    obtain ⟨first, name, id, rest, hfront, rfl, hhandle⟩ :=
      CallDescriptor.sentDispatch?_eq_some hdispatchType hallAdmit raw
    -- The object in front is never one to destroy, so the handle that is put there stays.
    have hspared : first.destroys = false := Bool.eq_false_iff.mpr fun hdestroys =>
      CallDescriptor.ne_zero_of_destroys hmem hfront hdestroys rfl
    obtain ⟨hinside, -⟩ := List.getElem?_eq_some_iff.mp hfront
    obtain ⟨⟨given, value⟩, others, hheld⟩ := List.exists_cons_of_length_pos (harity ▸ hinside)
    have hsome : boxed = some id := congrArg (Option.map (·.boxed)) hhandle
    refine ⟨id, rfl, ?_⟩
    rw [hparams, hplaces 0 first hfront, if_neg (by simp [hspared]), hsome, hheld]
    rfl
  case destroyed =>
    intro place param hget hdestroys
    obtain ⟨hinside, -⟩ := List.getElem?_eq_some_iff.mp hget
    rw [hparams, hplaces place param hget, if_pos hdestroys]
    exact ⟨_, List.getElem?_eq_getElem (hcomplete ▸ hinside), List.getElem?_eq_getElem _⟩
  case outputs =>
    rintro ⟨param, place⟩ hmem_outputs
    have hget := CallDescriptor.getElem?_of_mem_outputs hmem_outputs
    have hspared := CallDescriptor.spares_of_mem_outputs hmem hmem_outputs
    obtain ⟨hinside, -⟩ := List.getElem?_eq_some_iff.mp hget
    rw [hparams, hplaces place param hget, if_neg (by simp [hspared]),
      CallDescriptor.getElem?_withDispatch_of_mem_outputs hmem hmem_outputs]
    exact ⟨_, List.getElem?_eq_getElem (harity ▸ hinside), List.getElem?_eq_getElem _⟩

namespace Execution

variable {σ : Type} {host : Collaborators σ} {call : CallDescriptor} {payload : Bytes}
  {run after : Run σ}

/-! ### Packets -/

/-- Receiving a call lists the ids of the objects that it destroys, in the order on the wire. -/
theorem preserved_of_receive (hmem : call ∈ CallDescriptor.catalog)
    (hpending : run.table.pending = []) {transfers : Bool} {received : Request × Nat}
    (h : receive host call payload transfers run = .ok received after) :
    after.table.preserved = run.table.preserved ++ call.doomed payload := by
  obtain ⟨read, middle, hreadCall, hcommitDestroys⟩ := commitDestroys_of_receive h
  have hdestroyAll : destroyAll (call.doomed payload) { middle.table with pending := [] }
      = .ok () after.table := pending_of_readCall hmem hpending hreadCall ▸ hcommitDestroys
  rw [preserved_destroyAll (zero_notMem_doomed call payload) hdestroyAll,
    (condemned_of_readCall hmem hreadCall).1]
  rfl

/-- Carrying a call out touches neither the draft nor the sink. -/
theorem dispatch_eq_ok {request : Request} {outcome : CallOutcome}
    (h : dispatch host call request run = .ok outcome after) : ∃ state table scratch event,
      after = { run with state, table, scratch, events := run.events ++ [event] } := by
  by_cases hroute : call.route = .globalState
  · unfold dispatch at h
    rw [if_pos hroute, callState_eq] at h
    split at h
    · next state table scratch _ =>
        cases h
        exact ⟨state, table, scratch, _, rfl⟩
    · cases h
  · obtain ⟨state, -, rfl⟩ := drive_of_dispatch hroute h
    exact ⟨state, run.table, run.scratch, _, rfl⟩

/-- The parameters of a call as whoever carries it out gets them: the global state with the guest's
id for the handle that the call is issued on, the driver with its own value. -/
def handedOver (call : CallDescriptor) (request : Request) : Record :=
  if call.route = .globalState then request.args
  else withDispatch (request.dispatch.map (·.raw)) request.args

/-- Whoever carried a call out left something for every parameter and the objects to destroy as they
were handed over, and has destroyed none itself. -/
structure HandsBack (call : CallDescriptor) (given args : Record) (before after : BoxTable) :
    Prop where
  arity : args.length = call.params.length
  destroyed : ∀ (place : Nat) (param : ParamSpec), call.params[place]? = some param →
    param.destroys = true → args[place]? = given[place]?
  /-- No id was added to the list of those that were destroyed. -/
  preserved : after.preserved = before.preserved

/-- Whoever carries a call out gets the driver's values for the objects to destroy. -/
theorem getElem?_handedOver (hmem : call ∈ CallDescriptor.catalog) {place : Nat} {param : ParamSpec}
    (hget : call.params[place]? = some param) (hdestroys : param.destroys = true)
    {raw : BoxedId → UInt64} {sent : Record} {request : Request}
    (hargs : request.args = call.translate raw sent) :
    (handedOver call request)[place]? = (Record.mapHandles raw sent)[place]? := by
  rw [← CallDescriptor.getElem?_translate hmem hget hdestroys, ← hargs]
  unfold handedOver
  split
  · rfl
  · exact getElem?_withDispatch_of_ne (CallDescriptor.ne_zero_of_destroys hmem hget hdestroys) ..

/-- What is read for a call is its parameters and, behind them, the ranges that it flushes. -/
theorem take_size_of_receive (hmem : call ∈ CallDescriptor.catalog) {transfers : Bool}
    {request : Request} {size : Nat}
    (h : receive host call payload transfers run = .ok (request, size) after)
    {sent : Record} {cursor : Cursor} (hsent : call.decodeSent payload = .ok sent (cursor, ())) :
    ∃ contents : List Bytes, contents.length = (flushedRanges call transfers request).length ∧
      payload.take size = payload.take cursor.position ++ contents.flatMap flushedChunk := by
  obtain ⟨_, _, contents, behind, hsent', hlength, hpasses, rfl⟩ := passes_of_receive hmem h
  cases hsent.symm.trans hsent'
  obtain ⟨taken, _, hfront, -⟩ := CallDescriptor.reads_decodeCaptured hmem hsent 0 .normal
  exact ⟨contents, hlength, by rw [(hfront.trans hpasses).take_position, hfront.take_position]⟩

/-- A call that was received is recorded in the ids of the guest, whatever its outputs become. -/
theorem inGuestIds_of_receive (hmem : call ∈ CallDescriptor.catalog)
    (hpending : run.table.pending = []) (hundestroyed : run.table.preserved = [])
    (hnonzero : ∀ entry ∈ run.table.entries, entry.raw ≠ 0) {transfers : Bool} {request : Request}
    {size : Nat} {received : Run σ}
    (h : receive host call payload transfers run = .ok (request, size) received)
    {args written : Record} {handed : BoxTable}
    (hhandsBack : HandsBack call (handedOver call request) args received.table handed)
    {box : Bool} {parts : List Bytes} {before behind : BoxTable}
    (hwrites : WritesOutputs box call.outputs args written parts before behind)
    (trace : Bytes) (result : Option Value) :
    ∃ sent cursor, call.decodeSent payload = .ok sent (cursor, ()) ∧
      (SnapshotCall.ofCall call trace request.dispatch handed.preserved
        { args := written, result }).InGuestIds sent written := by
  obtain ⟨cursor, table, hreadRequest⟩ := readRequest_of_receive h
  obtain ⟨sent, hsent, hargs, hdispatch, hknown, -⟩ := Reading.readRequest_eq_ok hmem hreadRequest
  -- Whoever carried the call out added nothing to the list that the walk goes through.
  have hpreserved : handed.preserved = nonnull (destroyedHandles call.params sent) := by
    rw [hhandsBack.preserved, preserved_of_receive hmem hpending h, hundestroyed, List.nil_append,
      CallDescriptor.doomed, CallDescriptor.condemned, hsent]
    rfl
  have hfaithful (id : BoxedId) (hdestroyed : id ∈ destroyedHandles call.params sent) :
      run.table.rawOf id = 0 ↔ id = 0 :=
    (hknown id (call.destroyedHandles_subset hmem sent hdestroyed)).rawOf_eq_zero_iff hnonzero
  have hleft (place : Nat) (param : ParamSpec) (hget : call.params[place]? = some param)
      (hdestroys : param.destroys = true) :
      written[place]? = (Record.mapHandles run.table.rawOf sent)[place]? := by
    have hisOutput :=
      CallDescriptor.destroys_inward call hmem param (List.mem_of_getElem? hget) hdestroys
    rw [hwrites.others place (CallDescriptor.ne_of_mem_outputs hget hisOutput),
      hhandsBack.destroyed place param hget hdestroys]
    exact getElem?_handedOver hmem hget hdestroys hargs
  rw [hpreserved, hdispatch]
  exact ⟨sent, cursor, hsent,
    SnapshotCall.inGuestIds_ofCall hmem (CallDescriptor.allAdmit_of_decodeSent hsent) hfaithful
      (hwrites.length_eq.trans hhandsBack.arity) hleft trace result⟩

/-- What is drafted for a call begins with its outputs. -/
theorem writer_of_appends {transfers : Bool} {request : Request} {size : Nat} {received : Run σ}
    (hreceive : receive host call payload transfers run = .ok (request, size) received)
    {outcome : CallOutcome} {driven : Run σ}
    (hdispatch : dispatch host call request (prepared host call request received) =
      .ok outcome driven)
    {table : BoxTable} {bytes : Bytes}
    (happends : Appends { driven with table, writer := driven.writer.append bytes } after) :
    ∃ behind, after.writer.bytes = run.writer.bytes ++ (bytes ++ behind) := by
  obtain ⟨behind, happended⟩ := happends.writer
  obtain ⟨_, _, _, _, hsame⟩ := dispatch_eq_ok hdispatch
  have hunwritten : driven.writer = run.writer := by
    rw [hsame]
    exact congrArg (·.writer) ((collects_receive transfers).of_ok hreceive).rest
  refine ⟨behind, ?_⟩
  rw [happended]
  dsimp only
  rw [hunwritten]
  simp only [Writer.append, List.append_assoc]

/-- A call that is recorded names objects as the guest does, if whoever carried it out handed it
back. Its trace is made of the parameters that were sent and the ranges that it flushes, and its
outputs are those that the guest was answered with. -/
theorem recorded_in_guest_ids {opcode : UInt32}
    (hopcode : CallDescriptor.ofOpcode? opcode = some call)
    (hhands : ∀ params, host.toHost call params = pure params)
    (hinert : ∀ call param value, host.fromHost call param value = pure value)
    (hpending : run.table.pending = []) (hundestroyed : run.table.preserved = [])
    (hnonzero : ∀ entry ∈ run.table.entries, entry.raw ≠ 0)
    (h : runPacket host call payload run = .ok () after)
    (hoffers : offersFor host call payload run = true) :
    ∃ request size received outcome driven,
      receive host call payload (!host.sharesMemory run.state) (started run)
        = .ok (request, size) received ∧
      dispatch host call request (prepared host call request received) = .ok outcome driven ∧
      (HandsBack call (handedOver call request) outcome.args received.table driven.table →
        ∃ sent cursor, ∃ contents : List Bytes, ∃ snapshot written parts behind,
          call.decodeSent payload = .ok sent (cursor, ()) ∧
          contents.length = (flushedRanges call (!host.sharesMemory run.state) request).length ∧
          after.events.getLast? = some (.recorded snapshot) ∧ snapshot.call = call ∧
          snapshot.trace <+: payload ∧
          snapshot.trace = payload.take cursor.position ++ contents.flatMap flushedChunk ∧
          snapshot.InGuestIds sent written ∧
          List.Forall₂ (EncodesOutput outcome.args written) call.outputs parts ∧
          after.sink.received
            = run.sink.received ++ (run.writer.bytes ++ (parts.flatten ++ behind))) := by
  obtain ⟨hmem, -⟩ := CallDescriptor.ofOpcode?_eq_some hopcode
  have hreplied : after.sink.received = run.sink.received ++ writeback host call payload run := by
    rw [(runPacket_replies h).2]
    simp [Sink.taking]
  obtain ⟨request, size, received, answered, _, finished, hreceive, hanswer, hfinish, rfl⟩ :=
    answer_of_runPacket h
  rw [writeback, hanswer] at hreplied
  obtain ⟨answer, drafted, hexecuted, hpure⟩ :=
    bind_eq_ok_iff.mp ((bind_of_ok hreceive).symm.trans hanswer)
  obtain ⟨rfl, rfl⟩ := pure_eq_ok_iff.mp hpure
  rw [execute_eq, adapted_of_inert hhands] at hexecuted
  obtain ⟨outcome, driven, hdispatch, hdrafts⟩ := bind_eq_ok_iff.mp hexecuted
  refine ⟨request, size, received, outcome, driven, hreceive, hdispatch, fun hhandsBack => ?_⟩
  obtain ⟨written, parts, code, _, hwrites, -, rfl, happends, -⟩ :=
    draft_eq_ok_of_arity hinert hhandsBack.arity hdrafts
  have hfresh : (started run).table.pending = [] := hpending
  -- The list of destroyed ids is still the one that receiving the call left behind: drafting a
  -- reply only adds objects.
  have hgrown : Grown driven.table drafted.table :=
    ((receives_draft grown_create host call _ outcome).of_ok hdrafts).table
  have hlast := recorded_of_finish hfinish ((offersFor_of_answer hanswer).symm.trans hoffers)
  rw [hgrown.preserved_eq] at hlast
  obtain ⟨sent, cursor, hsent, hinGuestIds⟩ :=
    inGuestIds_of_receive hmem hfresh hundestroyed hnonzero hreceive hhandsBack
      hwrites (payload.take size) outcome.result
  obtain ⟨contents, hlength, htraced⟩ := take_size_of_receive hmem hreceive hsent
  obtain ⟨more, hbytes⟩ := writer_of_appends hreceive hdispatch happends
  rw [List.append_assoc] at hbytes
  refine ⟨sent, cursor, contents, _, written, parts, code ++ more, hsent, hlength, hlast, rfl,
    List.take_prefix _ _, htraced, hinGuestIds, hwrites.encoded, ?_⟩
  exact hreplied.trans (congrArg (run.sink.received ++ ·) hbytes)

/-- Surroundings that hand every call back as it came, and record it. -/
def echoingHost : Collaborators Unit where
  drive request := pure { args := request.args, result := some (.sint 0) }
  serve request := pure { args := request.args, result := some (.sint 0) }
  offersRecorder := pure true

/-- They hand back whatever call they carry out. -/
theorem handsBack_echoing {call : CallDescriptor} {request : Request} {run driven : Run Unit}
    {outcome : CallOutcome} (harity : request.args.length = call.params.length)
    (h : dispatch echoingHost call request run = .ok outcome driven) :
    HandsBack call (handedOver call request) outcome.args run.table driven.table := by
  have hechoed : outcome.args = handedOver call request ∧ driven.table = run.table := by
    unfold dispatch at h
    unfold handedOver
    -- The driver and the global state echo alike, but only the latter sees the handle's id.
    split at h
    · next hroute =>
        cases h
        rw [if_pos hroute]
        exact ⟨rfl, rfl⟩
    · next hroute =>
        cases h
        rw [if_neg hroute]
        exact ⟨rfl, rfl⟩
  rw [hechoed.1, hechoed.2]
  refine ⟨?_, fun _ _ _ _ => rfl, rfl⟩
  unfold handedOver
  split
  · exact harity
  · rw [length_withDispatch, harity]

/-- The guest frees the command buffers that it knows as 13 and 15, with a null handle between
them. -/
def freeBuffersPayload : Bytes :=
  [7, 0, 0, 0, 0, 0, 0, 0, 11, 0, 0, 0, 0, 0, 0, 0, 3, 0, 0, 0, 0, 0, 0, 0, 0, 0, 0, 1,
    13, 0, 0, 0, 0, 0, 0, 0, 0, 0, 0, 0, 0, 0, 0, 0, 15, 0, 0, 0, 0, 0, 0, 0]

/-- Each of them is recorded in its place. -/
theorem recorded_in_guest_ids_freeBuffers :
    let run : Run Unit := { Session.bufferSession with sink := .unbounded }
    CallDescriptor.ofOpcode? 20089 = some .freeCommandBuffers ∧
      (∀ params, echoingHost.toHost .freeCommandBuffers params = pure params) ∧
      (∀ call param value, echoingHost.fromHost call param value = pure value) ∧
      run.table.pending = [] ∧ run.table.preserved = [] ∧
      (∀ entry ∈ run.table.entries, entry.raw ≠ 0) ∧
      ∃ after snapshot, runPacket echoingHost .freeCommandBuffers freeBuffersPayload run
          = .ok () after ∧
        offersFor echoingHost .freeCommandBuffers freeBuffersPayload run = true ∧
        after.events.getLast? = some (.recorded snapshot) ∧
        snapshot.trace = freeBuffersPayload ∧
        snapshot.params[0]?.map (·.2) = some (.handle 7) ∧
        snapshot.params[3]?
          = some ("pCommandBuffers", .array [.handle 13, .handle 0, .handle 15]) := by
  intro run
  have hopcode : CallDescriptor.ofOpcode? 20089 = some .freeCommandBuffers := rfl
  have hhands (params : Record) : echoingHost.toHost .freeCommandBuffers params = pure params := rfl
  have hinert (call : CallDescriptor) (param : ParamSpec) (value : Value) :
      echoingHost.fromHost call param value = pure value := rfl
  have hnonzero : ∀ entry ∈ run.table.entries, entry.raw ≠ 0 := by decide
  have hcompletes :
      isOk (runPacket echoingHost .freeCommandBuffers freeBuffersPayload run) = true := by
    decide +kernel
  obtain ⟨⟨⟩, after, hpacket⟩ := exists_of_isOk hcompletes
  have hoffers : offersFor echoingHost .freeCommandBuffers freeBuffersPayload run = true := rfl
  obtain ⟨request, size, received, outcome, driven, hreceive, hdispatch, hrecorded⟩ :=
    recorded_in_guest_ids hopcode hhands hinert rfl rfl hnonzero hpacket hoffers
  obtain ⟨_, _, hreadRequest⟩ := readRequest_of_receive hreceive
  have harity := CallDescriptor.length_of_allAdmit (Reading.yields_readRequest _ hreadRequest)
  -- The driver of these surroundings echoes its parameters, so it hands the handles back.
  have hhandsBack := handsBack_echoing harity hdispatch
  obtain ⟨sent, cursor, contents, snapshot, written, parts, behind, hsent, hlength, hlast, hcall, -,
    htraced, hinIds, -, -⟩ := hrecorded hhandsBack
  have hsent' : CallDescriptor.freeCommandBuffers.decodeSent freeBuffersPayload
      = .ok [("device", .handle 7), ("commandPool", .handle 11), ("commandBufferCount", .uint 3),
          ("pCommandBuffers", .array [.handle 13, .handle 0, .handle 15])]
        (⟨52, []⟩, ()) := rfl
  cases hsent.symm.trans hsent'
  obtain rfl : contents = [] := List.length_eq_zero_iff.mp hlength
  rw [List.flatMap_nil, List.append_nil] at htraced
  refine ⟨hopcode, hhands, hinert, rfl, rfl, hnonzero, after, snapshot, hpacket, hoffers, hlast,
    htraced, ?_, ?_⟩
  · obtain ⟨id, hsentId, hissuedOn⟩ := hinIds.issuedOn .device (by rw [hcall]; rfl)
    cases hsentId
    exact hissuedOn
  · obtain ⟨entry, hsentEntry, hget⟩ := hinIds.destroyed 3 _ (by rw [hcall]; rfl) rfl
    cases hsentEntry
    exact hget

end Execution

end CallStream
