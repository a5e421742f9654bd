import CallStream.Proofs.Step

/-!
# Steps that come to the same

Two steps over states of different kinds are compared along a relation between the states. They are
alike if, from related states, both succeed with one value or both fail for one cause, and leave
related states again. Chains are alike if their links are, so two programs that are built alike are
compared link by link.

## Main results

* `Alike.bind`: chains of steps that are alike are alike.
* `EndsAlike.stateOf`: steps that are alike leave related states, however they end.
-/

namespace CallStream

variable {ε σ τ α β : Type} {related : σ → τ → Prop}

/-- Two results that come to the same: one value or one cause, and states that are related. The
states may be of different types, so that a session can be compared with one over other
surroundings. -/
inductive EndsAlike (related : σ → τ → Prop) :
    EStateM.Result ε σ α → EStateM.Result ε τ α → Prop
  | ok {after : σ} {twin : τ} (value : α) (h : related after twin) :
      EndsAlike related (.ok value after) (.ok value twin)
  | error {after : σ} {twin : τ} (cause : ε) (h : related after twin) :
      EndsAlike related (.error cause after) (.error cause twin)

/-- From related states, the two steps come to the same. This is what every step of a packet is
shown to have, and what composing steps keeps. -/
def Alike (related : σ → τ → Prop) (step : EStateM ε σ α) (other : EStateM ε τ α) : Prop :=
  ∀ ⦃before : σ⦄ ⦃twin : τ⦄, related before twin → EndsAlike related (step before) (other twin)

/-- From related states, two steps that cannot fail give one answer and leave related states. -/
def AnswerAlike (related : σ → τ → Prop) (step : StateM σ α) (other : StateM τ α) : Prop :=
  ∀ ⦃before : σ⦄ ⦃twin : τ⦄, related before twin →
    (other.run twin).1 = (step.run before).1 ∧ related (step.run before).2 (other.run twin).2

/-- Results that come to the same leave related states. -/
theorem EndsAlike.stateOf {result : EStateM.Result ε σ α} {other : EStateM.Result ε τ α}
    (h : EndsAlike related result other) :
    related (CallStream.stateOf result) (CallStream.stateOf other) := by
  cases h with
  | ok value h => exact h
  | error cause h => exact h

/-- Along equality, results that come to the same are the same. -/
theorem EndsAlike.eq {result other : EStateM.Result ε σ α} (h : EndsAlike Eq result other) :
    other = result := by
  cases h with
  | ok value h => rw [h]
  | error cause h => rw [h]

/-- Every step is like itself along equality. -/
theorem alike_refl (step : EStateM ε σ α) : Alike Eq step step := by
  rintro before _ rfl
  cases step before with
  | ok value after => exact .ok value rfl
  | error cause after => exact .error cause rfl

/-- Every step that cannot fail is like itself along equality. -/
theorem answerAlike_refl (step : StateM σ α) : AnswerAlike Eq step step := by
  rintro before _ rfl
  exact ⟨rfl, rfl⟩

/-- Steps that do nothing with one value are alike. -/
theorem alike_pure (value : α) :
    Alike related (pure value : EStateM ε σ α) (pure value : EStateM ε τ α) :=
  fun _ _ h => .ok value h

/-- Steps that fail for one cause are alike. -/
theorem alike_throw (cause : ε) :
    Alike related (throw cause : EStateM ε σ α) (throw cause : EStateM ε τ α) :=
  fun _ _ h => .error cause h

/-- Chains are alike if their links are. -/
theorem Alike.bind {step : EStateM ε σ α} {other : EStateM ε τ α} {next : α → EStateM ε σ β}
    {further : α → EStateM ε τ β} (hhead : Alike related step other)
    (htail : ∀ value, Alike related (next value) (further value)) :
    Alike related (step >>= next) (other >>= further) := by
  intro before twin h
  have hends := hhead h
  simp only [Bind.bind, EStateM.bind]
  generalize step before = result, other twin = answer at hends ⊢
  cases hends with
  | ok value hafter => exact htail value hafter
  | error cause hafter => exact .error cause hafter

/-- Steps may look at the states they find, if they go on alike from related ones. -/
theorem alike_get_bind {next : σ → EStateM ε σ β} {further : τ → EStateM ε τ β}
    (htail : ∀ state twin, related state twin → Alike related (next state) (further twin)) :
    Alike related (get >>= next) (get >>= further) :=
  fun before twin h => htail before twin h h

/-- Steps may change the states they find, if related ones stay related. -/
theorem alike_modify {f : σ → σ} {g : τ → τ}
    (hkeeps : ∀ state twin, related state twin → related (f state) (g twin)) :
    Alike related (modify f : EStateM ε σ PUnit) (modify g : EStateM ε τ PUnit) :=
  fun before twin h => .ok PUnit.unit (hkeeps before twin h)

end CallStream
