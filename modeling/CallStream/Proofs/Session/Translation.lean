import CallStream.Proofs.Session.Packet
import CallStream.Proofs.Session.Splitting

/-!
# What a call sees

The driver and the global state never see a guest's handle where they look for an object: every
handle of an input is the driver's value for it in the table before the packet. Outputs are handed
on as they were sent. The handle that a call is issued on is the driver's value for the driver,
while the global state gets the guest's one, and the object behind it beside the parameters.

A handle that the table does not know stops a packet before anybody is called, and nothing else
about handles does: to be queued for destruction does not keep a handle from being looked up further
on.

## Main results

* `readRequest_of_decodeSent`: a call is read if it was sent and the table knows its handles.
* `runPacket_sees_translation`: whoever is called sees the translation of what was sent.
-/

namespace CallStream

namespace BoxTable

/-- A known handle is mapped, whatever was queued before. -/
theorem succeeds_mapHandle {table : BoxTable} {mapping : HandleMapping} {id : BoxedId}
    (hknown : mapping ≠ .disabled → table.Knows id) (type : HandleType) :
    Succeeds (Queues table) (mapHandle type mapping id) := by
  intro before hqueues
  have hmoved : Queues before (stateOf (mapHandle type mapping id before)) :=
    queues_mapHandle type mapping id before
  have hresolved (hne : mapping ≠ .disabled) : before.resolve id = .ok (table.rawOf id) :=
    (hqueues.resolve_eq id).trans (hknown hne).resolve_eq
  obtain ⟨raw, after, hmapHandle⟩ :
      ∃ raw after, mapHandle type mapping id before = .ok raw after := by
    cases mapping with
    | disabled => exact ⟨id, before, rfl⟩
    | normal =>
        refine ⟨table.rawOf id, before, ?_⟩
        rw [mapHandle, unwrap, hresolved HandleMapping.noConfusion]
    | preserveForTrace =>
        rw [mapHandle, defer_eq, hresolved HandleMapping.noConfusion]
        exact ⟨_, _, rfl⟩
  rw [hmapHandle] at hmoved
  exact ⟨raw, after, hmapHandle, trans_of Queues hqueues hmoved⟩

end BoxTable

namespace Reading

open BoxTable Decoding

/-! ### Calls that can be read -/

section Success

variable {earlier : List FieldSpec} {sent scope : Record} {cursor after : Cursor}
  {start table : BoxTable}

/-- Parameters that were sent are read if the handles of the inputs are known. -/
theorem readParams_of_sent (params : List ParamSpec)
    (hallPlainlyCounted : FieldSpec.allPlainlyCounted (params.map (·.field)) earlier = true)
    (haligned : Aligned earlier sent scope) {back : Record}
    (hdecodeBehind : decodeBehind (.identity : HandleMapper Unit BoxingError) .disabled
      (params.map (·.field)) sent (cursor, ()) = .ok back (after, ()))
    (hknown : ∀ word ∈ inputHandles params back, start.Knows word)
    (hqueues : Queues start table) :
    ∃ args last, readParams params scope (cursor, table) = .ok args (after, last) := by
  induction params generalizing earlier sent scope cursor table back with
  | nil =>
      cases hdecodeBehind
      exact ⟨scope, table, rfl⟩
  | cons param params ih =>
      obtain ⟨hplainlyCounted, hothers⟩ := Bool.and_eq_true_iff.mp hallPlainlyCounted
      obtain ⟨held, ⟨middle, _⟩, hdecodeField, hbind⟩ := bind_eq_ok_iff.mp hdecodeBehind
      obtain ⟨behind, _, hlater, hpure⟩ := bind_eq_ok_iff.mp hbind
      cases hpure
      have hlooked (word : UInt64) (hmem : word ∈ held.handles)
          (hmaps : mappingOf param ≠ .disabled) :
          start.Knows word := by
        refine hknown word (List.mem_append_left _ ?_)
        rwa [if_neg fun houtput => hmaps (if_pos houtput)]
      -- Every handle in the parameter is known, so visiting it does not fail, and only queues
      -- objects.
      have hvisits : Succeeds (Queues start)
          (held.traverseHandles (mapHandle .device (mappingOf param))) :=
        inherited_succeeds.traverseHandles held fun word hmem =>
          succeeds_mapHandle (hlooked word hmem) .device
      obtain ⟨value, reached, htraverseHandles, hkept⟩ := hvisits hqueues
      have hreadParam :=
        (readParam_eq_ok_iff hplainlyCounted haligned).mpr ⟨held, hdecodeField, htraverseHandles⟩
      obtain ⟨args, last, hreadRest⟩ :=
        ih hothers (aligned_of_visited haligned hdecodeField htraverseHandles) hlater
          (fun word hmem => hknown word (List.mem_append_right _ hmem)) hkept
      exact ⟨args, last, (bind_of_ok hreadParam).trans hreadRest⟩

end Success

/-- The parameter that a call is issued on holds a handle. -/
theorem eq_handle_of_dispatchType? {call : CallDescriptor} {type : HandleType}
    (hdispatchType : call.dispatchType? = some type) {first : ParamSpec} {rest : List ParamSpec}
    (hparams : call.params = first :: rest) {value : Value}
    (hadmits : first.field.admits value = true) : ∃ word, value = .handle word := by
  obtain ⟨⟨name, fieldType, isOptional, count⟩, creates, destroys, isOutput⟩ := first
  simp only [CallDescriptor.dispatchType?, hparams, FieldSpec.handleType?] at hdispatchType
  cases fieldType with
  | handle type =>
      simp only [FieldSpec.isArray, Option.ite_none_right_eq_some, Bool.and_eq_true,
        Bool.not_eq_true'] at hdispatchType
      obtain ⟨⟨⟨-, hsingle⟩, hrequired⟩, -⟩ := hdispatchType
      obtain rfl : count = .one := by simpa using hsingle
      subst hrequired
      cases value with
      | handle word => exact ⟨word, rfl⟩
      | _ => cases hadmits
  | _ => cases hdispatchType

/-- A call is issued on any handle that is known. -/
theorem resolveDispatch_of_knows {type : HandleType} {field : String} {word : BoxedId}
    {table : BoxTable} (hknows : table.Knows word) {cursor : Cursor} :
    resolveDispatch type field (.handle word) (cursor, table)
      = .ok { type, boxed := word, raw := table.rawOf word } (cursor, table) := by
  unfold resolveDispatch
  dsimp only
  rw [hknows.resolve_eq]

/-- A call is read if it was sent and the table knows its handles, also those that it destroys. -/
theorem readRequest_of_decodeSent {call : CallDescriptor} (hmem : call ∈ CallDescriptor.catalog)
    {payload : Bytes} {table : BoxTable} {sent : Record} {cursor : Cursor}
    (hsent : call.decodeSent payload = .ok sent (cursor, ()))
    (hknown : ∀ word ∈ call.mappedHandles sent, table.Knows word) :
    ∃ request last, readRequest call (.start payload, table) = .ok request (cursor, last) := by
  have hallPlainlyCounted : FieldSpec.allPlainlyCounted (call.params.map (·.field)) [] = true :=
    CallDescriptor.fields_plainlyCounted call hmem
  rw [CallDescriptor.decodeSent_eq] at hsent
  have hqueues : Queues table table := refl_of Queues table
  rcases readRequest_cases call with ⟨hdispatchType, hreadRequest⟩ |
    ⟨type, first, rest, hdispatchType, hparams, hreadRequest⟩
  · simp only [CallDescriptor.mappedHandles, hdispatchType] at hknown
    obtain ⟨args, last, hread⟩ :=
      readParams_of_sent call.params hallPlainlyCounted .nil hsent hknown hqueues
    rw [hreadRequest, bind_of_ok hread]
    exact ⟨_, _, rfl⟩
  · simp only [CallDescriptor.mappedHandles, hdispatchType, hparams] at hknown
    rw [hparams] at hallPlainlyCounted hsent
    obtain ⟨hfirstPlain, hrestPlain⟩ := Bool.and_eq_true_iff.mp hallPlainlyCounted
    obtain ⟨held, ⟨middle, _⟩, hdecodeField, hbind⟩ := bind_eq_ok_iff.mp hsent
    obtain ⟨back, _, hdecodeBehind, hpure⟩ := bind_eq_ok_iff.mp hbind
    cases hpure
    obtain ⟨word, rfl⟩ :=
      eq_handle_of_dispatchType? hdispatchType hparams (admits_decodeField _ _ hdecodeField)
    obtain ⟨hdispatchKnown, hinputsKnown⟩ :
        table.Knows word ∧ ∀ other ∈ inputHandles rest back, table.Knows other :=
      List.forall_mem_cons.mp hknown
    -- The handle in front is left alone when it is read, and then it has to be known.
    have huntouched : (Value.handle word).traverseHandles (mapHandle .device .disabled) table
        = .ok (.handle word) table := rfl
    have hread :=
      (readParam_eq_ok_iff hfirstPlain .nil).mpr ⟨.handle word, hdecodeField, huntouched⟩
    have haligned := aligned_of_visited .nil hdecodeField huntouched
    obtain ⟨args, last, hreadRest⟩ :=
      readParams_of_sent rest hrestPlain haligned hdecodeBehind hinputsKnown hqueues
    rw [List.nil_append] at hreadRest
    rw [hreadRequest, bind_of_ok hread, bind_of_ok (resolveDispatch_of_knows hdispatchKnown),
      bind_of_ok hreadRest]
    exact ⟨_, _, rfl⟩

end Reading

namespace Execution

open BoxTable

variable {σ : Type} {host : Collaborators σ} {call : CallDescriptor}

/-! ### Calls that are carried out -/

/-- A global state that adapts nothing leaves a call as it was read. -/
theorem adapted_of_inert (hinert : ∀ params, host.toHost call params = pure params)
    (request : Request) (run : Run σ) : adapted host call request run = request := by
  rw [adapted, hinert]
  rfl

/-- What is carried out was received, and what was received was read from the table before the
packet; so it is the translation of what was sent. -/
theorem runPacket_calls_translation (hmem : call ∈ CallDescriptor.catalog)
    (hinert : ∀ params, host.toHost call params = pure params) (payload : Bytes) (run : Run σ) :
    let after := stateOf (runPacket host call payload run)
    let raw := run.table.rawOf
    dispatches after.events = dispatches run.events ∨
      ∃ sent cursor scratchUsed,
        call.decodeSent payload = .ok sent (cursor, ()) ∧
        (∀ word ∈ call.mappedHandles sent, run.table.Knows word) ∧
        dispatches after.events = dispatches run.events ++
          [dispatchEvent call
            { dispatch := call.sentDispatch? raw sent, args := call.translate raw sent }
            scratchUsed] := by
  intro after raw
  rcases runPacket_calls host call payload run with hquiet |
    ⟨request, size, middle, hreceive, hdispatches⟩
  · exact Or.inl hquiet
  · obtain ⟨cursor, table, hreadRequest⟩ := readRequest_of_receive hreceive
    obtain ⟨sent, hsent, hargs, hdispatch, hall, -⟩ := Reading.readRequest_eq_ok hmem hreadRequest
    have hseen : request =
        { dispatch := call.sentDispatch? raw sent, args := call.translate raw sent } :=
      congrArg₂ Request.mk hdispatch hargs
    refine Or.inr ⟨sent, cursor, middle.scratch.used, hsent, hall, ?_⟩
    rw [hdispatches, adapted_of_inert hinert, hseen]

/-- Whoever is called sees the translation of what was sent, by the table before the packet.

Either nobody is called, or one call is carried out, on its route, and its request is what was sent
with the handles of the inputs replaced, all of which the table finds. If it does not find one,
nobody is called. If it finds them all, the call is read, also where a handle that is to be
destroyed comes back further on. -/
theorem runPacket_sees_translation {opcode : UInt32}
    (hopcode : CallDescriptor.ofOpcode? opcode = some call)
    (hinert : ∀ params, host.toHost call params = pure params) (payload : Bytes) (run : Run σ) :
    let after := stateOf (runPacket host call payload run)
    let raw := run.table.rawOf
    (dispatches after.events = dispatches run.events ∨
      ∃ sent cursor scratchUsed,
        call.decodeSent payload = .ok sent (cursor, ()) ∧
        (∀ word ∈ call.mappedHandles sent, run.table.resolve word = .ok (raw word)) ∧
        dispatches after.events = dispatches run.events ++
          [dispatchEvent call
            { dispatch := call.sentDispatch? raw sent, args := call.translate raw sent }
            scratchUsed]) ∧
    (∀ sent cursor, call.decodeSent payload = .ok sent (cursor, ()) →
      (∃ word ∈ call.mappedHandles sent, word ≠ 0 ∧ run.table.isLive word = false) →
        dispatches after.events = dispatches run.events) ∧
    (∀ sent cursor, call.decodeSent payload = .ok sent (cursor, ()) →
      (∀ word ∈ call.mappedHandles sent, word = 0 ∨ run.table.isLive word = true) →
        ∃ table, Reading.readRequest call (.start payload, run.table)
          = .ok { dispatch := call.sentDispatch? raw sent, args := call.translate raw sent }
              (cursor, table)) := by
  intro after raw
  obtain ⟨hmem, -⟩ := CallDescriptor.ofOpcode?_eq_some hopcode
  have hcalled := runPacket_calls_translation hmem hinert payload run
  refine ⟨hcalled.imp_right ?_, ?_, ?_⟩
  · rintro ⟨sent, cursor, scratchUsed, hsent, hall, hdispatches⟩
    exact ⟨sent, cursor, scratchUsed, hsent, fun word hmem => (hall word hmem).resolve_eq,
      hdispatches⟩
  -- If somebody was called, all handles were known; but one of them is not.
  · rintro sent cursor hsent ⟨word, hmem, hne, hisLive⟩
    refine hcalled.resolve_right ?_
    rintro ⟨other, _, _, hsent', hall, -⟩
    cases hsent.symm.trans hsent'
    rcases hall word hmem with heq | hlive
    · exact hne heq
    · exact Bool.false_ne_true (hisLive.symm.trans hlive)
  · intro sent cursor hsent hall
    obtain ⟨request, table, hreadRequest⟩ := Reading.readRequest_of_decodeSent hmem hsent hall
    obtain ⟨other, hsent', hargs, hdispatch, -, -⟩ :=
      Reading.readRequest_eq_ok hmem hreadRequest
    cases hsent.symm.trans hsent'
    refine ⟨table, ?_⟩
    rw [hreadRequest, ← hargs, ← hdispatch]

/-- The guest destroys the fence that it knows as 9, of the device that it knows as 7. -/
def destroyFencePacket : Packet :=
  ⟨20036, [7, 0, 0, 0, 0, 0, 0, 0, 9, 0, 0, 0, 0, 0, 0, 0, 0, 0, 0, 0, 0, 0, 0, 0]⟩

/-- The device and the fence are 5 and 6 for the driver. -/
def fenceSession : Session Unit where
  state := ()
  table := { entries := [⟨7, 5, .device⟩, ⟨9, 6, .fence⟩] }

/-- The driver sees its own values for both. -/
theorem runPacket_sees_translation_destroyFence :
    let payload := destroyFencePacket.payload
    let after := stateOf (runPacket Session.readyHost .destroyFence payload
      { fenceSession with sink := .unbounded })
    CallDescriptor.ofOpcode? 20036 = some .destroyFence ∧
      (∀ params, Session.readyHost.toHost .destroyFence params = pure params) ∧
      dispatches after.events
        = [.drove
            { call := .destroyFence
              dispatch := some 5
              lockHeld := false
              args := [("device", .handle 5), ("fence", .handle 6), ("pAllocator", .absent)]
                }] := by
  intro payload after
  have hopcode : CallDescriptor.ofOpcode? 20036 = some .destroyFence := rfl
  have hinert (params : Record) : Session.readyHost.toHost .destroyFence params = pure params := rfl
  refine ⟨hopcode, hinert, ?_⟩
  obtain ⟨hcalled, -, -⟩ := runPacket_sees_translation hopcode hinert payload
    { fenceSession with sink := .unbounded }
  have hlength : (dispatches (stateOf (runPacket Session.readyHost .destroyFence
      destroyFencePacket.payload { fenceSession with sink := .unbounded })).events).length = 1 :=
      rfl
  obtain ⟨_, hsent⟩ : ∃ cursor, CallDescriptor.destroyFence.decodeSent payload
      = .ok [("device", .handle 7), ("fence", .handle 9), ("pAllocator", .absent)] (cursor, ()) :=
    ⟨_, rfl⟩
  -- The driver was called, so it was called with what the payload spells.
  rcases hcalled with hdispatches | ⟨sent, cursor, scratchUsed, hsent', -, hseen⟩
  · rw [hdispatches] at hlength
    cases hlength
  · cases hsent.symm.trans hsent'
    exact hseen

end Execution

end CallStream
