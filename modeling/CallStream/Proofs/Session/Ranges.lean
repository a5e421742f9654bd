import CallStream.Call.Catalog
import CallStream.Proofs.Codec.Counting
import CallStream.Session.Execute

/-!
# The ranges of a call

Invalidated ranges are looked up when the call is over, among the parameters that the driver left. A
call that was read spells its ranges, so the look-up can only fail if the ranges were changed on the
way: by the global state that adapts the parameters, or by the driver.

## Main results

* `ofArgs?_isSome`: a call that is well typed spells its ranges.
* `KeepsRanges.ofArgs?_isSome`: surroundings that keep the ranges leave some to look up.
-/

namespace CallStream

/-! ### Ranges that were read -/

/-- A double word has a word. -/
theorem FieldSpec.toWord?_of_admits_u64 {name : String} {value : Value}
    (hadmits : (FieldSpec.u64 name).admits value = true) : ∃ word, value.toWord? = some word := by
  cases value with
  | uint word => exact ⟨word, rfl⟩
  | _ => cases hadmits

/-- So has a handle. -/
theorem FieldSpec.toWord?_of_admits_handle {name : String} {type : HandleType} {value : Value}
    (hadmits : (FieldSpec.handle name type).admits value = true) :
    ∃ word, value.toWord? = some word := by
  cases value with
  | handle word => exact ⟨word, rfl⟩
  | _ => cases hadmits

namespace MappedRange

/-- A well typed structure is a range. -/
theorem ofValue?_of_admits {value : Value}
    (hadmits : FieldType.admits (.struct .mappedMemoryRange) value = true) :
    ∃ range, ofValue? value = some range := by
  cases value with
  | struct fields =>
      obtain ⟨memory, hfoundMemory, hisHandle⟩ := FieldSpec.get?_of_allAdmit hadmits
        (rfl : FieldSpec.named? _ "memory" = some (.handle "memory" .deviceMemory))
      obtain ⟨offset, hfoundOffset, hisOffset⟩ := FieldSpec.get?_of_allAdmit hadmits
        (rfl : FieldSpec.named? _ "offset" = some (.u64 "offset"))
      obtain ⟨size, hfoundSize, hisSize⟩ := FieldSpec.get?_of_allAdmit hadmits
        (rfl : FieldSpec.named? _ "size" = some (.u64 "size"))
      obtain ⟨memoryWord, hisMemory⟩ := FieldSpec.toWord?_of_admits_handle hisHandle
      obtain ⟨offsetWord, hisOffset⟩ := FieldSpec.toWord?_of_admits_u64 hisOffset
      obtain ⟨sizeWord, hisSize⟩ := FieldSpec.toWord?_of_admits_u64 hisSize
      refine ⟨⟨memoryWord, offsetWord, sizeWord⟩, ?_⟩
      simp only [ofValue?, Value.record?, hfoundMemory, hfoundOffset, hfoundSize, hisMemory,
        hisOffset, hisSize, Option.bind_eq_bind, Option.bind_some]
  | _ => cases hadmits

/-- A call that is well typed spells its ranges. -/
theorem ofArgs?_isSome {args : Record}
    (hallAdmit : FieldSpec.allAdmit CallDescriptor.invalidateMappedMemoryRanges.fields args =
      true) :
    (ofArgs? args).isSome = true := by
  obtain ⟨value, hget, hadmits⟩ := FieldSpec.get?_of_allAdmit hallAdmit
    (rfl : FieldSpec.named? _ paramName
      = some ((FieldSpec.struct paramName .mappedMemoryRange).countedBy "memoryRangeCount"))
  cases value with
  | array elements =>
      have heach := List.all_eq_true.mp hadmits
      simp only [ofArgs?, hget, Value.elements?, Option.bind_eq_bind, Option.bind_some]
      clear hget hadmits hallAdmit
      induction elements with
      | nil => rfl
      | cons value rest ih =>
          obtain ⟨hfirst, hothers⟩ := List.forall_mem_cons.mp heach
          obtain ⟨range, hisRange⟩ := ofValue?_of_admits hfirst
          obtain ⟨ranges, hareRanges⟩ := Option.isSome_iff_exists.mp (ih hothers)
          rw [List.mapM_cons, hisRange, hareRanges]
          rfl
  | _ => cases hadmits

/-- The ranges of a call are those of one parameter. -/
theorem ofArgs?_congr {args other : Record}
    (hget : Record.get? args paramName = Record.get? other paramName) :
    ofArgs? args = ofArgs? other := by
  rw [ofArgs?, ofArgs?, hget]

end MappedRange

/-! ### Surroundings that keep ranges -/

/-- Whatever call reads ranges back is the one that invalidates them. -/
theorem CallDescriptor.eq_invalidateMappedMemoryRanges {call : CallDescriptor}
    (hmem : call ∈ catalog) (hroute : call.route = .invalidateMappedRanges) :
    call = invalidateMappedMemoryRanges := by
  have hfilter : catalog.filter (·.route = .invalidateMappedRanges) =
      [invalidateMappedMemoryRanges] :=
    rfl
  have hamong : call ∈ catalog.filter (·.route = .invalidateMappedRanges) :=
    List.mem_filter.mpr ⟨hmem, decide_eq_true hroute⟩
  rw [hfilter] at hamong
  exact List.mem_singleton.mp hamong

/-- The driver gets the ranges to invalidate as they were read, and it leaves them. They are looked
up only behind the call, in what the driver left. -/
structure KeepsRanges {σ : Type} (host : Collaborators σ) : Prop where
  /-- Adapting the parameters of the call does not change the ranges that the driver gets. -/
  adapted : ∀ (args : Record) (dispatch : Option UInt64) (state : σ),
    args.map (·.1) = CallDescriptor.invalidateMappedMemoryRanges.params.map (·.name) →
      Record.get?
          (withDispatch dispatch (host.toHost .invalidateMappedMemoryRanges args state).1)
          MappedRange.paramName
        = Record.get? args MappedRange.paramName
  /-- The driver leaves the ranges as it gets them. -/
  driven : ∀ (request : DriverCall) (state after : σ) (outcome : CallOutcome),
    request.call = .invalidateMappedMemoryRanges → host.drive request state = .ok outcome after →
      Record.get? outcome.args MappedRange.paramName
        = Record.get? request.args MappedRange.paramName

/-- The ranges lie behind the handle that the call is issued on. -/
theorem get?_withDispatch {args : Record} (dispatch : Option UInt64)
    (hnames : args.map (·.1) = CallDescriptor.invalidateMappedMemoryRanges.params.map (·.name)) :
    Record.get? (withDispatch dispatch args) MappedRange.paramName
      = Record.get? args MappedRange.paramName := by
  cases args with
  | nil => rfl
  | cons entry rest =>
      obtain ⟨name, value⟩ := entry
      obtain rfl : name = "device" := (List.cons.inj hnames).1
      cases dispatch <;> rfl

/-- Surroundings that keep the ranges leave those that were read. -/
theorem KeepsRanges.ofArgs?_isSome {σ : Type} {host : Collaborators σ} (hkeeps : KeepsRanges host)
    {args : Record}
    (hallAdmit : FieldSpec.allAdmit CallDescriptor.invalidateMappedMemoryRanges.fields args = true)
    {handle : Option UInt64} {before : σ} {request : DriverCall} {state after : σ}
    {outcome : CallOutcome} (hcall : request.call = .invalidateMappedMemoryRanges)
    (hadapted : request.args
      = withDispatch handle (host.toHost .invalidateMappedMemoryRanges args before).1)
    (hdrive : host.drive request state = .ok outcome after) :
    (MappedRange.ofArgs? outcome.args).isSome = true := by
  have hnames := FieldSpec.names_of_allAdmit hallAdmit
  have hget : Record.get? outcome.args MappedRange.paramName
      = Record.get? args MappedRange.paramName := by
    rw [hkeeps.driven request state after outcome hcall hdrive, hadapted,
      hkeeps.adapted args handle before hnames]
  rw [MappedRange.ofArgs?_congr hget]
  exact MappedRange.ofArgs?_isSome hallAdmit

end CallStream
