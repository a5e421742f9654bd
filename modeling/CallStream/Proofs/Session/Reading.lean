import CallStream.Codec.Params
import CallStream.Proofs.Boxing.LiveIds
import CallStream.Proofs.Codec.MapperState
import CallStream.Proofs.Codec.Mapping
import CallStream.Session.Request

/-!
# What a session reads

A call that is read is the call that was sent, seen through the table: the handles of its inputs are
the driver's values for them. Reading changes nothing about the table but the queue of objects to
destroy: the handles of the parameters that are marked for it get behind the queue, in wire order.
So a handle that is queued early still resolves later, and a read that fails has done nothing but
queue.

## Main results

* `onlyQueues_readRequest`: reading a call only queues, whether it succeeds or fails.
* `readRequest_eq_ok`: a call that is read is the translation of what was sent, every handle that
  was looked up is known, and what the call destroys is queued.
-/

namespace CallStream

namespace BoxTable

/-! ### Looking handles up -/

/-- A handle that is not null resolves to the value of its object. -/
theorem resolve_eq_ok_iff {table : BoxTable} {id : BoxedId} {raw : UInt64} (hne : id ≠ 0) :
    table.resolve id = .ok raw ↔ ∃ entry, table.find? id = some entry ∧ entry.raw = raw := by
  rw [resolve, if_neg hne]
  cases table.find? id <;> simp

/-- The driver's value for a guest's handle; zero for a null handle and for one without. -/
def rawOf (table : BoxTable) (id : BoxedId) : UInt64 :=
  match table.resolve id with
  | .ok raw => raw
  | .error _ => 0

/-- The handle is null, or an object is live under it. -/
def Knows (table : BoxTable) (id : BoxedId) : Prop := id = 0 ∨ table.isLive id = true

/-- A handle that resolves stands for what it resolves to. -/
theorem rawOf_of_resolve {table : BoxTable} {id : BoxedId} {raw : UInt64}
    (h : table.resolve id = .ok raw) : table.rawOf id = raw := by
  rw [rawOf, h]

/-- It is known. -/
theorem knows_of_resolve {table : BoxTable} {id : BoxedId} {raw : UInt64}
    (h : table.resolve id = .ok raw) : table.Knows id := by
  by_cases heq : id = 0
  · exact Or.inl heq
  · obtain ⟨entry, hfind, -⟩ := (resolve_eq_ok_iff heq).mp h
    exact Or.inr (Option.isSome_iff_exists.mpr ⟨entry, hfind⟩)

/-- A known handle is looked up. -/
theorem Knows.resolve_eq {table : BoxTable} {id : BoxedId} (h : table.Knows id) :
    table.resolve id = .ok (table.rawOf id) := by
  by_cases heq : id = 0
  · subst heq
    rfl
  · obtain ⟨entry, hfind⟩ := Option.isSome_iff_exists.mp (h.resolve_left heq)
    have hresolve := (resolve_eq_ok_iff heq).mpr ⟨entry, hfind, rfl⟩
    rw [hresolve, rawOf_of_resolve hresolve]

/-! ### Queues -/

/-- The second table is the first one with another queue. Reading a call does no more than that, so
a failed read loses no object. -/
def Queues (before after : BoxTable) : Prop := { after with pending := before.pending } = before

namespace Queues

variable {before after : BoxTable}

/-- Queueing leaves the objects alone. -/
theorem entries_eq (h : Queues before after) : after.entries = before.entries := by
  have hentries := congrArg BoxTable.entries h
  exact hentries

/-- So every handle stands for what it stood for before. -/
theorem resolve_eq (h : Queues before after) (id : BoxedId) :
    after.resolve id = before.resolve id :=
  resolve_congr (by rw [find?, find?, h.entries_eq])

/-- Where the queue is dropped, nothing is left of it. -/
theorem settled (h : Queues before after) :
    after.discardDestroys.releasePreserved = before.discardDestroys.releasePreserved := by
  have hreleasePreserved := congrArg (fun table => table.discardDestroys.releasePreserved) h
  exact hreleasePreserved

end Queues

/-- What is queued in two steps is queued. -/
instance : IsPreorder BoxTable Queues where
  refl _ := rfl
  trans first second third h h' := by
    unfold Queues at h h' ⊢
    rw [← h, ← h']

/-- Mapping a handle at most queues it. -/
theorem queues_mapHandle (type : HandleType) (mapping : HandleMapping) (id : BoxedId)
    (table : BoxTable) : Queues table (stateOf (mapHandle type mapping id table)) := by
  cases mapping with
  | disabled => exact refl_of Queues table
  | normal =>
      rw [mapHandle, stateOf_unwrap]
      exact refl_of Queues table
  | preserveForTrace =>
      rw [mapHandle, defer_eq]
      cases table.resolve id <;> exact refl_of Queues table

/-- The table with ids behind its queue. Null handles are not queued. Ids may be queued twice, and
that is found out only when the queue is carried out. -/
def enqueue (table : BoxTable) (ids : List BoxedId) : BoxTable :=
  { table with pending := table.pending ++ ids.filter (· != 0) }

/-- Without objects, nothing is queued. -/
theorem enqueue_nil (table : BoxTable) : table.enqueue [] = table := by
  rw [enqueue, List.filter_nil, List.append_nil]

/-- Objects that are queued one after another are queued together. -/
theorem enqueue_enqueue (table : BoxTable) (front back : List BoxedId) :
    (table.enqueue front).enqueue back = table.enqueue (front ++ back) := by
  simp only [enqueue, List.filter_append, List.append_assoc]

/-- Queueing a handle looks it up first. -/
theorem defer_eq_enqueue (id : BoxedId) (table : BoxTable) :
    defer id table
      = match table.resolve id with
        | .ok raw => .ok raw (table.enqueue [id])
        | .error cause => .error cause table := by
  have hqueue : (if id = 0 then table.pending else table.pending ++ [id])
      = table.pending ++ [id].filter (· != 0) := by
    by_cases heq : id = 0 <;> simp [heq]
  rw [defer_eq, hqueue]
  rfl

end BoxTable

/-- The handles that are queued when they are mapped. -/
def HandleMapping.queued : HandleMapping → List UInt64 → List BoxedId
  | .preserveForTrace, handles => handles
  | .normal, _ | .disabled, _ => []

namespace BoxTable

/-- A handle that is looked up while a call is read, with or without being queued, is known and
gives the driver's value in the table before the call. -/
theorem mapHandle_eq_ok {table after : BoxTable} {mapping : HandleMapping} {type : HandleType}
    {seen : List UInt64} {id : BoxedId} {raw : UInt64} (hne : mapping ≠ .disabled)
    (h : mapHandle type mapping id (table.enqueue (mapping.queued seen)) = .ok raw after) :
    after = table.enqueue (mapping.queued (seen ++ [id])) ∧ raw = table.rawOf id ∧
      table.Knows id := by
  have hanswer (hresolve : table.resolve id = .ok raw) : raw = table.rawOf id ∧ table.Knows id :=
    ⟨(rawOf_of_resolve hresolve).symm, knows_of_resolve hresolve⟩
  cases mapping with
  | disabled => exact absurd rfl hne
  | normal =>
      rw [mapHandle, unwrap] at h
      split at h
      · next hresolve =>
          cases h
          exact ⟨rfl, hanswer hresolve⟩
      · cases h
  | preserveForTrace =>
      rw [mapHandle, defer_eq_enqueue] at h
      split at h
      · next hresolve =>
          cases h
          refine ⟨?_, hanswer hresolve⟩
          rw [enqueue_enqueue]
          rfl
      · cases h

end BoxTable

/-! ### What is read of what was sent -/

open BoxTable

/-- A parameter as a call is to see it: an output as it was sent, any other one with its handles
replaced. -/
def ParamSpec.translate (raw : BoxedId → UInt64) (param : ParamSpec) (value : Value) : Value :=
  if param.isOutput then value else value.mapHandles raw

/-- Parameters as a call is to see them: outputs untouched, and every other handle as the driver's
value. -/
def translateParams (raw : BoxedId → UInt64) : List ParamSpec → Record → Record
  | param :: params, (name, value) :: rest =>
    (name, param.translate raw value) :: translateParams raw params rest
  | _, rest => rest

/-- The handles in the parameters that are no outputs. -/
def inputHandles : List ParamSpec → Record → List UInt64
  | param :: params, (_, value) :: rest =>
    (if param.isOutput then [] else value.handles) ++ inputHandles params rest
  | _, _ => []

/-- The handles in the parameters that name objects to destroy, in the order in which they lie in
the payload. Null handles are among them. -/
def destroyedHandles : List ParamSpec → Record → List UInt64
  | param :: params, (_, value) :: rest =>
    (if param.destroys then value.handles else []) ++ destroyedHandles params rest
  | _, _ => []

/-- Where objects to destroy are inputs, their handles are among those of the inputs. -/
theorem destroyedHandles_subset_inputHandles {params : List ParamSpec}
    (hinward : ∀ param ∈ params, param.destroys = true → param.isOutput = false) (sent : Record) :
    destroyedHandles params sent ⊆ inputHandles params sent := by
  induction params generalizing sent with
  | nil => exact List.nil_subset _
  | cons param params ih =>
      cases sent with
      | nil => exact List.nil_subset _
      | cons entry rest =>
          obtain ⟨hhere, hbehind⟩ := List.forall_mem_cons.mp hinward
          intro id hmem
          rcases List.mem_append.mp hmem with hfirst | hlater
          · split at hfirst
            · next hdestroys =>
                refine List.mem_append_left _ ?_
                rwa [if_neg (by simp [hhere hdestroys])]
            · cases hfirst
          · exact List.mem_append_right _ (ih hbehind rest hlater)

namespace CallDescriptor

/-- The parameters in a payload as they were sent, and the cursor behind them. No table is needed
for it, so it says what the guest wrote. -/
def decodeSent (call : CallDescriptor) (payload : Bytes) :
    EStateM.Result (WireError BoxingError) (Cursor × Unit) Record :=
  call.decodeParams .identity .disabled (.start payload, ())

/-- The parameters of a call as it is to see them. The handle that it is issued on stays. -/
def translate (call : CallDescriptor) (raw : BoxedId → UInt64) (sent : Record) : Record :=
  match call.dispatchType? with
  | some _ => sent.take 1 ++ translateParams raw (call.params.drop 1) (sent.drop 1)
  | none => translateParams raw call.params sent

/-- The object that a call is issued on, as the guest and as the driver knows it. -/
def sentDispatch? (call : CallDescriptor) (raw : BoxedId → UInt64) (sent : Record) :
    Option DispatchHandle :=
  match call.dispatchType?, sent with
  | some type, (_, .handle boxed) :: _ => some { type, boxed, raw := raw boxed }
  | _, _ => none

/-- The handles of a call that the table has to know: those of its inputs, and the one that it is
issued on. -/
def mappedHandles (call : CallDescriptor) (sent : Record) : List UInt64 :=
  match call.dispatchType? with
  | some _ => Record.handles (sent.take 1) ++ inputHandles (call.params.drop 1) (sent.drop 1)
  | none => inputHandles call.params sent

/-- Objects to destroy are inputs. -/
theorem destroys_inward : ∀ call ∈ catalog, ∀ param ∈ call.params,
    param.destroys = true → param.isOutput = false := by
  decide +kernel

/-- No call destroys the object in front, which it may be issued on. -/
theorem destroys_behind_first (call : CallDescriptor) (hmem : call ∈ catalog) {first : ParamSpec}
    {rest : List ParamSpec} (hparams : call.params = first :: rest) : first.destroys = false := by
  have hspared : ∀ call ∈ catalog, ∀ first ∈ call.params.head?, first.destroys = false := by
    decide +kernel
  exact hspared call hmem first (by rw [hparams]; rfl)

/-- So the objects to destroy are among the handles that the table has to know. -/
theorem destroyedHandles_subset (call : CallDescriptor) (hmem : call ∈ catalog) (sent : Record) :
    destroyedHandles call.params sent ⊆ call.mappedHandles sent := by
  have hinward := destroys_inward call hmem
  unfold mappedHandles
  cases hdispatchType : call.dispatchType? with
  | none => exact destroyedHandles_subset_inputHandles hinward sent
  | some type =>
      cases hparams : call.params with
      | nil => exact List.nil_subset _
      | cons first rest =>
          cases sent with
          | nil => exact List.nil_subset _
          | cons entry back =>
              rw [hparams] at hinward
              rw [destroyedHandles, if_neg (by simp [destroys_behind_first call hmem hparams]),
                List.nil_append]
              exact List.subset_append_of_subset_right _
                (destroyedHandles_subset_inputHandles (List.forall_mem_cons.mp hinward).2 back)

/-- What was sent is read from the start of the payload, parameter by parameter. -/
theorem decodeSent_eq (call : CallDescriptor) (payload : Bytes) :
    call.decodeSent payload
      = decodeBehind .identity .disabled (call.params.map (·.field)) [] (.start payload, ()) := by
  rw [decodeSent, decodeParams, fields, decodeFields_nil]

end CallDescriptor

/-! ### Values -/

namespace Value

variable {table before after : BoxTable} {value mapped : Value}

/-- Handles that are to stay are not looked up. -/
theorem traverse_disabled (type : HandleType) (value : Value) :
    value.traverseHandles (mapHandle type .disabled) = pure value :=
  traverseHandles_pure value

/-- Handles that are looked up while a call is read are known, and those to destroy are queued in
wire order. -/
theorem traverse_mapHandle {mapping : HandleMapping} {type : HandleType} (hne : mapping ≠ .disabled)
    (h : value.traverseHandles (mapHandle type mapping) before = .ok mapped after) :
    after = before.enqueue (mapping.queued value.handles) ∧ mapped = value.mapHandles before.rawOf ∧
      ∀ word ∈ value.handles, before.Knows word := by
  have heach (word : UInt64) (_ : word ∈ value.handles) :
      Answers (fun seen table => table = before.enqueue (mapping.queued seen)) before.rawOf
        before.Knows (mapHandle type mapping) word := by
    rintro seen middle last raw rfl hmapHandle
    exact mapHandle_eq_ok hne hmapHandle
  have hunqueued : before = before.enqueue (mapping.queued []) := by
    cases mapping <;> exact (enqueue_nil before).symm
  exact traverseHandles_eq_ok value heach hunqueued h

end Value

namespace Reading

open Decoding

variable {α : Type}

/-! ### How far reading goes -/

/-- What reading does to the table, wherever it stops: it queues. -/
abbrev OnlyQueues (read : Reading α) : Prop :=
  Within (OfMapper Queues) (fun _ => True) read

/-- Reading a parameter does nothing to a table but to queue what it destroys. -/
theorem onlyQueues_readParam (mapping : HandleMapping) (param : ParamSpec) (scope : Record) :
    OnlyQueues (readParam mapping param scope) where
  moves start := by
    have hwithin : Within (OfMapper Queues) (fun _ => True)
        (decodeField mapHandle mapping param.field scope) :=
      within_decodeField (fun type => queues_mapHandle type mapping) param.field scope
    have hofMapper := hwithin.moves start
    unfold readParam EStateM.adaptExcept
    cases h : decodeField mapHandle mapping param.field scope start <;>
      (rw [h] at hofMapper; exact hofMapper)
  fails _ := trivial

/-- Nor does reading all of them. -/
theorem onlyQueues_readParams (params : List ParamSpec) (scope : Record) :
    OnlyQueues (readParams params scope) := by
  induction params generalizing scope with
  | nil => exact within_pure scope
  | cons param params ih => exact (onlyQueues_readParam _ param scope).bind fun _ => ih _

/-- Nor does looking up the handle that a call is issued on. -/
theorem onlyQueues_resolveDispatch (type : HandleType) (field : String) (value : Value) :
    OnlyQueues (resolveDispatch type field value) := by
  unfold resolveDispatch
  cases value with
  | handle boxed =>
      refine ⟨fun ⟨cursor, table⟩ => ?_, fun _ => trivial⟩
      dsimp only
      split <;> exact refl_of Queues table
  | _ => exact within_throw trivial

/-- A call is read with the object that it is issued on in front, or it has none. -/
theorem readRequest_cases (call : CallDescriptor) :
    (call.dispatchType? = none ∧
      readRequest call = readParams call.params [] >>= fun args =>
        pure { dispatch := none, args }) ∨
    (∃ type first rest, call.dispatchType? = some type ∧ call.params = first :: rest ∧
      readRequest call = readParam .disabled first [] >>= fun value =>
        resolveDispatch type first.name value >>= fun dispatch =>
          readParams rest [(first.name, value)] >>= fun args =>
            pure { dispatch := some dispatch, args }) := by
  cases hdispatchType : call.dispatchType? with
  | none =>
      refine Or.inl ⟨rfl, ?_⟩
      simp only [readRequest, hdispatchType]
  | some type =>
      cases hparams : call.params with
      | nil =>
          rw [CallDescriptor.dispatchType?, hparams] at hdispatchType
          cases hdispatchType
      | cons first rest =>
          refine Or.inr ⟨type, first, rest, rfl, rfl, ?_⟩
          simp only [readRequest, hdispatchType, hparams]

/-- Reading a call only queues, whether it succeeds or fails. -/
theorem onlyQueues_readRequest (call : CallDescriptor) : OnlyQueues (readRequest call) := by
  rcases readRequest_cases call with ⟨-, hreadRequest⟩ | ⟨type, first, rest, -, -, hreadRequest⟩
  · rw [hreadRequest]
    exact (onlyQueues_readParams _ _).bind fun _ => within_pure _
  · rw [hreadRequest]
    refine (onlyQueues_readParam _ _ _).bind fun value => ?_
    refine (onlyQueues_resolveDispatch _ _ value).bind fun dispatch => ?_
    exact (onlyQueues_readParams _ _).bind fun _ => within_pure _

/-! ### What is read -/

/-- A parameter that was read is a field that was decoded, over the table as mapper. -/
theorem decodeField_of_readParam {mapping : HandleMapping} {param : ParamSpec} {scope : Record}
    {before after : Cursor × BoxTable} {value : Value}
    (h : readParam mapping param scope before = .ok value after) :
    decodeField mapHandle mapping param.field scope before = .ok value after := by
  unfold readParam EStateM.adaptExcept at h
  split at h
  · cases h
  · next hdecodeField =>
      cases h
      exact hdecodeField

variable {earlier : List FieldSpec} {sent scope args : Record} {cursor after : Cursor}
  {table last : BoxTable}

/-- A parameter that was sent is visited in wire order. -/
theorem visit_of_sent (mapping : HandleMapping) {param : ParamSpec} {held : Value}
    (hdecodeField : decodeField (.identity : HandleMapper Unit BoxingError) .disabled
      param.field sent
      (cursor, ()) = .ok held (after, ())) :
    param.field.visit (fun type => mapHandle type mapping) held
      = held.traverseHandles (mapHandle .device mapping) :=
  visitField_eq_traverseHandles _ param.field (admits_decodeField param.field sent hdecodeField)

/-- A parameter is read exactly if it was sent and its handles can be looked up, in wire order. -/
theorem readParam_eq_ok_iff {mapping : HandleMapping} {param : ParamSpec} {value : Value}
    (hplainlyCounted : param.field.plainlyCounted earlier = true)
    (haligned : Aligned earlier sent scope) :
    readParam mapping param scope (cursor, table) = .ok value (after, last) ↔
      ∃ held, decodeField (.identity : HandleMapper Unit BoxingError) .disabled param.field sent
          (cursor, ()) = .ok held (after, ()) ∧
        held.traverseHandles (mapHandle .device mapping) table = .ok value last := by
  have hmaps : Maps (decodeField mapHandle mapping param.field scope)
      (decodeField .identity .disabled param.field sent)
      (param.field.visit fun type => mapHandle type mapping) :=
    maps_decodeField param.field earlier hplainlyCounted haligned
  constructor
  · intro h
    obtain ⟨held, hdecodeField, hvisited⟩ := hmaps.mp (decodeField_of_readParam h)
    rw [visit_of_sent mapping hdecodeField] at hvisited
    exact ⟨held, hdecodeField, hvisited⟩
  · rintro ⟨held, hdecodeField, hvisited⟩
    rw [← visit_of_sent mapping hdecodeField] at hvisited
    rw [readParam, EStateM.adaptExcept, hmaps.mpr ⟨held, hdecodeField, hvisited⟩]

/-- Behind a parameter, what was read still differs from what was sent in handles only. -/
theorem aligned_of_visited {mapping : HandleMapping} {param : ParamSpec} {held value : Value}
    (haligned : Aligned earlier sent scope)
    (hdecodeField : decodeField (.identity : HandleMapper Unit BoxingError) .disabled
      param.field sent
      (cursor, ()) = .ok held (after, ()))
    (htraverseHandles : held.traverseHandles (mapHandle .device mapping) table = .ok value last) :
    Aligned (earlier ++ [param.field]) (sent ++ [(param.name, held)])
      (scope ++ [(param.name, value)]) := by
  rw [← visit_of_sent mapping hdecodeField] at htraverseHandles
  exact haligned.concat (admits_decodeField param.field sent hdecodeField)
    (blank_visitField param.field held htraverseHandles)

/-- The handles of a parameter are mapped as its part in the call asks for. -/
theorem traverse_mappingOf {param : ParamSpec} {held value : Value}
    (hinward : param.destroys = true → param.isOutput = false)
    (h : held.traverseHandles (mapHandle .device (mappingOf param)) table = .ok value last) :
    last = table.enqueue (if param.destroys then held.handles else []) ∧
      value = param.translate table.rawOf held ∧
      (param.isOutput = false → ∀ word ∈ held.handles, table.Knows word) := by
  by_cases houtput : param.isOutput = true
  -- Handles in outputs are left alone, and a parameter that destroys is no output.
  · have hdestroys : param.destroys = false := by
      cases hdestroys' : param.destroys with
      | false => rfl
      | true => cases houtput.symm.trans (hinward hdestroys')
    simp only [mappingOf, houtput, if_true, Value.traverse_disabled] at h
    cases h
    refine ⟨?_, ?_, fun hinput => ?_⟩
    · rw [if_neg (by simp [hdestroys]), enqueue_nil]
    · rw [ParamSpec.translate, if_pos houtput]
    · cases houtput.symm.trans hinput
  · have hne : mappingOf param ≠ .disabled := by
      rw [mappingOf, if_neg houtput]
      split <;> exact HandleMapping.noConfusion
    have hqueued : (mappingOf param).queued held.handles
        = if param.destroys then held.handles else [] := by
      rw [mappingOf, if_neg houtput]
      split <;> rfl
    obtain ⟨hqueues, htranslated, hknown⟩ := Value.traverse_mapHandle hne h
    rw [hqueued] at hqueues
    refine ⟨hqueues, ?_, fun _ => hknown⟩
    rw [ParamSpec.translate, if_neg houtput, htranslated]

/-- Parameters that are read are the translation of what was sent. -/
theorem readParams_eq_ok (params : List ParamSpec)
    (hallPlainlyCounted : FieldSpec.allPlainlyCounted (params.map (·.field)) earlier = true)
    (hinward : ∀ param ∈ params, param.destroys = true → param.isOutput = false)
    (haligned : Aligned earlier sent scope)
    (h : readParams params scope (cursor, table) = .ok args (after, last)) :
    ∃ back, decodeBehind (.identity : HandleMapper Unit BoxingError) .disabled
        (params.map (·.field)) sent (cursor, ()) = .ok back (after, ()) ∧
      args = scope ++ translateParams table.rawOf params back ∧
      (∀ word ∈ inputHandles params back, table.Knows word) ∧
      last = table.enqueue (destroyedHandles params back) := by
  -- The parameters read so far may count those that follow, and they differ from the ones sent in
  -- their handles only (`Aligned`).
  induction params generalizing earlier sent scope cursor table with
  | nil =>
      obtain ⟨rfl, hpair⟩ := pure_eq_ok_iff.mp h
      cases hpair
      exact ⟨[], rfl, (List.append_nil scope).symm, fun _ hmem => absurd hmem List.not_mem_nil,
        (enqueue_nil _).symm⟩
  | cons param params ih =>
      obtain ⟨hplainlyCounted, hothers⟩ := Bool.and_eq_true_iff.mp hallPlainlyCounted
      obtain ⟨hfirstInward, hothersInward⟩ := List.forall_mem_cons.mp hinward
      obtain ⟨value, ⟨middle, reached⟩, hreadParam, hreadParams⟩ := bind_eq_ok_iff.mp h
      obtain ⟨held, hdecodeField, htraverseHandles⟩ :=
        (readParam_eq_ok_iff hplainlyCounted haligned).mp hreadParam
      have hbehind := aligned_of_visited haligned hdecodeField htraverseHandles
      obtain ⟨rfl, rfl, hknown⟩ := traverse_mappingOf hfirstInward htraverseHandles
      obtain ⟨back, hplainlyRest, rfl, hknownRest, rfl⟩ :=
        ih hothers hothersInward hbehind hreadParams
      refine ⟨(param.name, held) :: back, ?_, ?_, fun word hmem => ?_, ?_⟩
      · rw [List.map_cons, decodeBehind]
        exact (bind_of_ok hdecodeField).trans (bind_of_ok hplainlyRest)
      · rw [List.append_assoc]
        rfl
      · rcases List.mem_append.mp hmem with hhere | hlater
        · split at hhere
          · cases hhere
          · next hinput => exact hknown (by simpa using hinput) word hhere
        · exact hknownRest word hlater
      · exact enqueue_enqueue _ _ _

/-- Only a handle that the table knows is one to issue a call on. -/
theorem resolveDispatch_eq_ok {type : HandleType} {field : String} {value : Value}
    {dispatch : DispatchHandle} {before after : Cursor × BoxTable}
    (h : resolveDispatch type field value before = .ok dispatch after) :
    ∃ boxed, value = .handle boxed ∧ dispatch = { type, boxed, raw := before.2.rawOf boxed } ∧
      before.2.Knows boxed ∧ after = before := by
  unfold resolveDispatch at h
  cases value with
  | handle boxed =>
      dsimp only at h
      split at h
      · next raw hresolve =>
          cases h
          exact ⟨boxed, rfl, by rw [rawOf_of_resolve hresolve], knows_of_resolve hresolve, rfl⟩
      · cases h
  | _ => cases h

/-- A call that is read is the translation of what was sent. -/
theorem readRequest_eq_ok {call : CallDescriptor} (hmem : call ∈ CallDescriptor.catalog)
    {payload : Bytes} {request : Request}
    (h : readRequest call (.start payload, table) = .ok request (after, last)) :
    ∃ sent, call.decodeSent payload = .ok sent (after, ()) ∧
      request.args = call.translate table.rawOf sent ∧
      request.dispatch = call.sentDispatch? table.rawOf sent ∧
      (∀ word ∈ call.mappedHandles sent, table.Knows word) ∧
      last = table.enqueue (destroyedHandles call.params sent) := by
  have hallPlainlyCounted : FieldSpec.allPlainlyCounted (call.params.map (·.field)) [] = true :=
    CallDescriptor.fields_plainlyCounted call hmem
  have hinward := CallDescriptor.destroys_inward call hmem
  rw [CallDescriptor.decodeSent_eq]
  -- Either the call is issued on no object, and its parameters are read one like the other, or the
  -- object in front is read by itself.
  rcases readRequest_cases call with ⟨hdispatchType, hreadRequest⟩ |
    ⟨type, first, rest, hdispatchType, hparams, hreadRequest⟩
  · rw [hreadRequest] at h
    obtain ⟨args, _, hfound, hpure⟩ := bind_eq_ok_iff.mp h
    cases hpure
    obtain ⟨back, hplainly, rfl, hknown, hqueues⟩ :=
      readParams_eq_ok call.params hallPlainlyCounted hinward .nil hfound
    refine ⟨back, hplainly, ?_, ?_, ?_, hqueues⟩
    · simp only [CallDescriptor.translate, hdispatchType, List.nil_append]
    · simp only [CallDescriptor.sentDispatch?, hdispatchType]
    · simpa only [CallDescriptor.mappedHandles, hdispatchType] using hknown
  · have hdestroys := CallDescriptor.destroys_behind_first call hmem hparams
    rw [hparams] at hallPlainlyCounted hinward ⊢
    obtain ⟨hfirstPlain, hrestPlain⟩ := Bool.and_eq_true_iff.mp hallPlainlyCounted
    rw [hreadRequest] at h
    obtain ⟨value, ⟨middle, reached⟩, hfound, hbind⟩ := bind_eq_ok_iff.mp h
    obtain ⟨dispatch, _, hresolveDispatch, hbind⟩ := bind_eq_ok_iff.mp hbind
    obtain ⟨args, _, hreadParams, hpure⟩ := bind_eq_ok_iff.mp hbind
    cases hpure
    obtain ⟨held, hplainly, htraverseHandles⟩ := (readParam_eq_ok_iff hfirstPlain .nil).mp hfound
    have haligned := aligned_of_visited .nil hplainly htraverseHandles
    -- The handle in front is read as it was sent, and looked up only afterwards. It is never
    -- queued.
    rw [Value.traverse_disabled] at htraverseHandles
    cases htraverseHandles
    obtain ⟨boxed, rfl, rfl, hknown, rfl⟩ := resolveDispatch_eq_ok hresolveDispatch
    obtain ⟨back, hplainlyRest, rfl, hknownRest, hqueues⟩ :=
      readParams_eq_ok rest hrestPlain (List.forall_mem_cons.mp hinward).2 haligned hreadParams
    refine ⟨(first.name, .handle boxed) :: back, ?_, ?_, ?_, ?_, ?_⟩
    · rw [List.map_cons, decodeBehind]
      exact (bind_of_ok hplainly).trans (bind_of_ok hplainlyRest)
    · simp only [CallDescriptor.translate, hdispatchType, hparams]
      rfl
    · simp only [CallDescriptor.sentDispatch?, hdispatchType]
    · simp only [CallDescriptor.mappedHandles, hdispatchType, hparams]
      exact List.forall_mem_cons.mpr ⟨hknown, hknownRest⟩
    · rw [destroyedHandles, if_neg (by simp [hdestroys]), List.nil_append, hqueues]

/-! ### Types -/

/-- The value of a parameter is one that its field admits. -/
theorem yields_readParam (mapping : HandleMapping) (param : ParamSpec) (scope : Record) :
    Yields (readParam mapping param scope) fun value => param.field.admits value = true :=
  fun _ _ _ hreadParam => admits_decodeField param.field scope (decodeField_of_readParam hreadParam)

/-- So are the values of all parameters. -/
theorem yields_readParams (params : List ParamSpec) (scope : Record) :
    Yields (readParams params scope) fun args => ∃ back, args = scope ++ back ∧
      FieldSpec.allAdmit (params.map (·.field)) back = true := by
  induction params generalizing scope with
  | nil => exact yields_pure ⟨[], (List.append_nil scope).symm, rfl⟩
  | cons param params ih =>
      refine (yields_readParam _ param scope).bind fun value hadmits => ?_
      intro before after args hreadParams
      obtain ⟨back, rfl, hallAdmit⟩ := ih _ hreadParams
      refine ⟨(param.name, value) :: back, List.append_assoc .., ?_⟩
      exact Bool.and_eq_true_iff.mpr
        ⟨Bool.and_eq_true_iff.mpr ⟨beq_self_eq_true param.name, hadmits⟩, hallAdmit⟩

/-- The parameters of a call that is read are well typed. -/
theorem yields_readRequest (call : CallDescriptor) :
    Yields (readRequest call) fun request =>
      FieldSpec.allAdmit call.fields request.args = true := by
  intro before after request hreadRequest
  rw [CallDescriptor.fields]
  rcases readRequest_cases call with ⟨-, hreads⟩ | ⟨type, first, rest, -, hparams, hreads⟩
  · rw [hreads] at hreadRequest
    obtain ⟨args, _, hfound, hpure⟩ := bind_eq_ok_iff.mp hreadRequest
    cases hpure
    obtain ⟨back, rfl, hallAdmit⟩ := yields_readParams _ _ hfound
    exact hallAdmit
  · rw [hreads] at hreadRequest
    obtain ⟨value, _, hfound, hbind⟩ := bind_eq_ok_iff.mp hreadRequest
    obtain ⟨dispatch, _, hresolveDispatch, hbind⟩ := bind_eq_ok_iff.mp hbind
    obtain ⟨args, _, hreadParams, hpure⟩ := bind_eq_ok_iff.mp hbind
    cases hpure
    obtain ⟨back, rfl, hallAdmit⟩ := yields_readParams _ _ hreadParams
    have hfirstTyped := yields_readParam _ _ _ hfound
    rw [hparams]
    exact Bool.and_eq_true_iff.mpr
      ⟨Bool.and_eq_true_iff.mpr ⟨beq_self_eq_true first.name, hfirstTyped⟩, hallAdmit⟩

end Reading

end CallStream
