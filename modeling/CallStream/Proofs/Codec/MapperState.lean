import CallStream.Proofs.Codec.Reading
import CallStream.Proofs.Within

/-!
# The state of a mapper while fields are read

Only the mapper moves its state, once for every handle. So whatever a relation allows the mapper, it
allows a read, also one that fails halfway: the failure does not undo what the mapper did before it.

## Main results

* `within_decodeField`: reading a field moves the mapper's state no further than the mapper does.
-/

namespace CallStream

namespace Decoding

variable {σ ε α : Type}

/-- The relation between the states of the mapper, wherever the cursor is. -/
def OfMapper (moves : σ → σ → Prop) (before after : Cursor × σ) : Prop := moves before.2 after.2

variable {moves : σ → σ → Prop} [IsPreorder σ moves]

/-- Moves of the mapper's state follow one another, whatever is read between them. -/
instance : IsPreorder (Cursor × σ) (OfMapper moves) where
  refl before := refl_of moves before.2
  trans _ _ _ hofMapper hsecond := trans_of moves hofMapper hsecond

/-- A read that does not concern the mapper. -/
theorem within_onCursor (read : Read ε α) :
    Within (OfMapper moves) (fun _ => True) (onCursor read : Decoding σ ε α) where
  moves := by
    rintro ⟨cursor, state⟩
    cases h : read cursor with
    | ok value after =>
        rw [onCursor_of_ok h]
        exact refl_of moves state
    | error cause after =>
        rw [onCursor_of_error h]
        exact refl_of moves state
  fails _ := trivial

omit [IsPreorder σ moves] in
/-- Asking the mapper moves its state as it moves it. -/
theorem within_onMapper {step : EStateM ε σ UInt64} (field : String) (handle : UInt64)
    (h : ∀ state, moves state (stateOf (step state))) :
    Within (OfMapper moves) (fun _ => True) (onMapper field handle step) where
  moves := by
    rintro ⟨cursor, state⟩
    have hmoved := h state
    cases hok : step state with
    | ok value last =>
        rw [hok] at hmoved
        simp only [onMapper, hok]
        exact hmoved
    | error cause last =>
        rw [hok] at hmoved
        simp only [onMapper, hok]
        exact hmoved
  fails _ := trivial

end Decoding

open Decoding

variable {σ ε : Type} {moves : σ → σ → Prop} [IsPreorder σ moves] {mapper : HandleMapper σ ε}
  {mapping : HandleMapping}

/-- Content moves the mapper's state no further than its elements do. -/
theorem within_decodeContent (spec : FieldSpec)
    (helement : Within (OfMapper moves) (fun _ => True)
      (decodeElement mapper mapping spec.name spec.type)) (scope : Record) :
    Within (OfMapper moves) (fun _ => True) (decodeContent mapper mapping spec scope) := by
  unfold decodeContent
  cases FieldSpec.elementCount (ε := ε) spec scope with
  | error cause => exact within_throw trivial
  | ok number =>
      cases number with
      | none => exact helement
      | some number =>
          exact (within_onCursor _).bind fun _ => (helement.readMany number).bind fun _ =>
            within_pure _

mutual

/-- Reading an element asks the mapper for nothing but its handles. -/
theorem within_decodeElement
    (h : ∀ type handle state, moves state (stateOf (mapper type mapping handle state)))
    (field : String) : (type : FieldType) →
    Within (OfMapper moves) (fun _ => True) (decodeElement mapper mapping field type)
  | .int type => by
      unfold decodeElement
      split
      · exact (within_onCursor _).bind fun _ => within_pure _
      · exact (within_onCursor _).bind fun _ => within_pure _
  | .float32 | .enum _ | .flags _ | .text _ => (within_onCursor _).bind fun _ => within_pure _
  | .handle type => (within_onCursor _).bind fun handle =>
      (within_onMapper field handle (h type handle)).bind fun _ => within_pure _
  | .struct schema => (within_decodeStruct h schema).bind fun _ => within_pure _
termination_by structural type => type

/-- So does reading a structure. -/
theorem within_decodeStruct
    (h : ∀ type handle state, moves state (stateOf (mapper type mapping handle state))) :
    (schema : StructSchema) →
    Within (OfMapper moves) (fun _ => True) (decodeStruct mapper mapping schema)
  | ⟨_, _, fields⟩ => (within_onCursor _).bind fun _ => within_decodeFields h fields []
termination_by structural schema => schema

/-- Reading a field moves the mapper's state no further than the mapper does. -/
theorem within_decodeField
    (h : ∀ type handle state, moves state (stateOf (mapper type mapping handle state))) :
    (spec : FieldSpec) → (scope : Record) →
    Within (OfMapper moves) (fun _ => True) (decodeField mapper mapping spec scope)
  | ⟨name, type, isOptional, count⟩, scope => by
      have hcontent := within_decodeContent ⟨name, type, isOptional, count⟩
        (within_decodeElement h name type) scope
      cases isOptional with
      | false =>
          rw [decodeField_of_required rfl]
          exact hcontent
      | true =>
          rw [decodeField_of_optional rfl]
          refine (within_onCursor _).bind fun present => ?_
          cases present with
          | true => exact hcontent
          | false => exact within_pure _
termination_by structural spec => spec

/-- So does reading fields one after another. -/
theorem within_decodeFields
    (h : ∀ type handle state, moves state (stateOf (mapper type mapping handle state))) :
    (fields : List FieldSpec) → (scope : Record) →
    Within (OfMapper moves) (fun _ => True) (decodeFields mapper mapping fields scope)
  | [], _ => within_pure _
  | spec :: rest, scope => (within_decodeField h spec scope).bind fun _ =>
      within_decodeFields h rest _
termination_by structural fields => fields

end

end CallStream
