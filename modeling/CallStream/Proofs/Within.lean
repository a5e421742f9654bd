import CallStream.Proofs.Step
import Mathlib.Order.Defs.Unbundled

/-!
# What a step may do

Three properties of a step, all closed under everything steps are built with.

A step stays *within* a relation if, whether it succeeds or fails, it leaves a state that the
relation allows behind the one it found, and if it fails only for causes of a given kind. Relations
of interest say what is left alone, so they are reflexive and transitive, and a chain stays within a
relation if its parts do. A step *yields* a property if every value that it succeeds with has it. A
step *succeeds* under an invariant if it cannot fail where the invariant holds, and keeps it.

## Main results

* `Within.bind`, `Within.readMany`: a chain of steps that stay within a relation stays within it.
* `Yields.bind`, `Yields.readMany`: what the steps of a chain yield, one may rely on behind them.
* `Succeeds.bind`: a chain of steps that cannot fail cannot fail.
-/

namespace CallStream

variable {ε σ α β : Type}

/-- A property of steps that a chain has if its parts have it. -/
structure Inherited {m : Type → Type} [Monad m] (property : (α : Type) → m α → Prop) : Prop where
  pure {α : Type} (value : α) : property α (pure value)
  bind {α β : Type} {step : m α} {next : α → m β} (hhead : property α step)
    (htail : ∀ value, property β (next value)) : property β (step >>= next)

/-- Whatever state the step finds, it leaves one that `moves` allows behind it, and it fails only
for causes that `fails` allows. -/
structure Within (moves : σ → σ → Prop) (fails : ε → Prop) (step : EStateM ε σ α) : Prop where
  moves (before : σ) : moves before (stateOf (step before))
  fails {before after : σ} {cause : ε} (h : step before = .error cause after) : fails cause

namespace Within

variable {moves : σ → σ → Prop} {fails : ε → Prop} {step : EStateM ε σ α}

/-- When the step succeeds, the state has moved as it may. -/
theorem of_ok (h : Within moves fails step) {before after : σ} {value : α}
    (hok : step before = .ok value after) : moves before after := by
  have hmoved := h.moves before
  rwa [hok] at hmoved

/-- When it fails, too. -/
theorem of_error (h : Within moves fails step) {before after : σ} {cause : ε}
    (herror : step before = .error cause after) : moves before after := by
  have hmoved := h.moves before
  rwa [herror] at hmoved

/-- A step may be allowed more. -/
theorem mono {moves' : σ → σ → Prop} {fails' : ε → Prop} (h : Within moves fails step)
    (hfurther : ∀ {before after}, moves before after → moves' before after)
    (hmore : ∀ {cause}, fails cause → fails' cause) : Within moves' fails' step where
  moves before := hfurther (h.moves before)
  fails herror := hmore (h.fails herror)

/-- A chain stays within the relation of its first step if what follows does not lead out of it. -/
theorem andThen {further : σ → σ → Prop} {next : α → EStateM ε σ β}
    (hwithin : Within moves fails step) (htail : ∀ value, Within further fails (next value))
    (habsorb : ∀ {before middle after}, moves before middle → further middle after →
      moves before after) :
    Within moves fails (step >>= next) where
  moves before := by
    cases h : step before with
    | ok value middle =>
        rw [bind_of_ok h]
        exact habsorb (hwithin.of_ok h) ((htail value).moves middle)
    | error cause middle =>
        rw [bind_of_error h]
        exact hwithin.of_error h
  fails h := by
    rcases bind_eq_error_iff.mp h with herror | ⟨value, middle, -, herror⟩
    · exact hwithin.fails herror
    · exact (htail value).fails herror

end Within

section Chains

variable {moves : σ → σ → Prop} [IsPreorder σ moves] {fails : ε → Prop}

/-- A step that does nothing moves nothing. -/
theorem within_pure (value : α) : Within moves fails (pure value : EStateM ε σ α) where
  moves before := refl_of moves before
  fails h := by cases h

/-- Failing moves nothing, and is allowed for the causes that are. -/
theorem within_throw {cause : ε} (h : fails cause) :
    Within moves fails (throw cause : EStateM ε σ α) where
  moves before := refl_of moves before
  fails hthrow := by
    cases hthrow
    exact h

/-- Steps one after the other stay within what each of them may do. -/
theorem Within.bind {step : EStateM ε σ α} {next : α → EStateM ε σ β}
    (hwithin : Within moves fails step) (htail : ∀ value, Within moves fails (next value)) :
    Within moves fails (step >>= next) :=
  hwithin.andThen htail fun hfirst hsecond => trans_of moves hfirst hsecond

/-- Staying within a relation is inherited. -/
theorem inherited_within :
    Inherited fun (α : Type) (step : EStateM ε σ α) => Within moves fails step where
  pure := within_pure
  bind := .bind

omit [IsPreorder σ moves] in
/-- A step may look at the state. -/
theorem within_get_bind {next : σ → EStateM ε σ β}
    (htail : ∀ state, Within moves fails (next state)) :
    Within moves fails (get >>= next) where
  moves before := (htail before).moves before
  fails {before _ _} h := (htail before).fails h

omit [IsPreorder σ moves] in
/-- A change of the state that is a move stays within. -/
theorem within_modify {f : σ → σ} (h : ∀ before, moves before (f before)) :
    Within moves fails (modify f : EStateM ε σ PUnit) where
  moves := h
  fails hmodify := by cases hmodify

/-- So does a step that is repeated. -/
theorem Within.readMany {step : EStateM ε σ α} (hwithin : Within moves fails step) (count : Nat) :
    Within moves fails (readMany step count) := by
  induction count with
  | zero => exact within_pure []
  | succ count ih => exact hwithin.bind fun _ => ih.bind fun _ => within_pure _

end Chains

/-! ### What a step yields -/

/-- Whatever the step succeeds with has the property. -/
def Yields (step : EStateM ε σ α) (property : α → Prop) : Prop :=
  ∀ ⦃before after : σ⦄ ⦃value : α⦄, step before = .ok value after → property value

/-- A value with the property is yielded. -/
theorem yields_pure {property : α → Prop} {value : α} (h : property value) :
    Yields (pure value : EStateM ε σ α) property := by
  intro before after result hpure
  cases hpure
  exact h

/-- A step that fails yields nothing. -/
theorem yields_throw (cause : ε) (property : α → Prop) :
    Yields (throw cause : EStateM ε σ α) property := by
  intro before after result hthrow
  cases hthrow

/-- Whatever a step yields, it is so without a property. -/
theorem yields_true (step : EStateM ε σ α) : Yields step fun _ => True :=
  fun _ _ _ _ => trivial

/-- What the first step yields is what the second one may assume. -/
theorem Yields.bind {step : EStateM ε σ α} {next : α → EStateM ε σ β} {first : α → Prop}
    {second : β → Prop} (hyields : Yields step first)
    (htail : ∀ value, first value → Yields (next value) second) :
    Yields (step >>= next) second := by
  intro before after result hbind
  obtain ⟨value, middle, hok, hrest⟩ := bind_eq_ok_iff.mp hbind
  exact htail value (hyields hok) hrest

/-- What is made of a value has what follows from the value's property. -/
theorem Yields.map {step : EStateM ε σ α} {first : α → Prop} {second : β → Prop} {f : α → β}
    (hyields : Yields step first) (hmade : ∀ value, first value → second (f value)) :
    Yields (step >>= fun value => pure (f value)) second :=
  hyields.bind fun value h => yields_pure (hmade value h)

/-- A step that is repeated yields values that all have the property. -/
theorem Yields.readMany {step : EStateM ε σ α} {property : α → Prop}
    (hyields : Yields step property) (count : Nat) : Yields (readMany step count) fun values =>
      ∀ value ∈ values, property value := by
  induction count with
  | zero => exact yields_pure fun _ hmem => absurd hmem List.not_mem_nil
  | succ count ih =>
      exact hyields.bind fun first h => ih.map fun others hrest =>
        List.forall_mem_cons.mpr ⟨h, hrest⟩

/-! ### Where a step succeeds -/

/-- Wherever the invariant holds, the step succeeds and keeps it. -/
def Succeeds (holds : σ → Prop) (step : EStateM ε σ α) : Prop :=
  ∀ ⦃before : σ⦄, holds before → ∃ value after, step before = .ok value after ∧ holds after

section Invariants

variable {holds : σ → Prop}

/-- A step that does nothing succeeds. -/
theorem succeeds_pure (value : α) : Succeeds holds (pure value : EStateM ε σ α) :=
  fun before h => ⟨value, before, rfl, h⟩

/-- Steps that succeed do so one after the other. -/
theorem Succeeds.bind {step : EStateM ε σ α} {next : α → EStateM ε σ β}
    (hsucceeds : Succeeds holds step)
    (htail : ∀ value, Succeeds holds (next value)) : Succeeds holds (step >>= next) := by
  intro before h
  obtain ⟨value, middle, hok, hkept⟩ := hsucceeds h
  obtain ⟨result, after, hrest, hkept⟩ := htail value hkept
  exact ⟨result, after, (bind_of_ok hok).trans hrest, hkept⟩

/-- That a step cannot fail is inherited. -/
theorem inherited_succeeds : Inherited fun (α : Type) (step : EStateM ε σ α) =>
      Succeeds holds step where
  pure := succeeds_pure
  bind := .bind

end Invariants

end CallStream
