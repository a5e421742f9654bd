import CallStream.Wire.Cursor

/-!
# Steps that may fail

A step takes a state and either succeeds with a value or fails with a cause, and in both cases
leaves a state. The readers, the table and the session are all built from such steps, one behind
the other; the lemmas here take a successful chain apart again.

## Main results

* `bind_eq_ok_iff`, `bind_eq_error_iff`: a chain succeeds exactly if its first step does and the
  rest succeeds on what the first step left, and fails exactly if one of them fails.
* `bind_of_ok`, `bind_of_error`: a chain goes on behind a success and stops at a failure.
-/

namespace CallStream

variable {ε σ α β : Type}

/-- The state that a result leaves. -/
def stateOf : EStateM.Result ε σ α → σ
  | .ok _ after => after
  | .error _ after => after

/-- Whether a result is a success. -/
def isOk : EStateM.Result ε σ α → Bool
  | .ok _ _ => true
  | .error _ _ => false

/-- A result that is no failure has a value and a state. -/
theorem exists_of_isOk {result : EStateM.Result ε σ α} (h : isOk result = true) :
    ∃ value after, result = .ok value after := by
  cases result with
  | ok value after => exact ⟨value, after, rfl⟩
  | error cause after => cases h

/-- A chain of two steps succeeds exactly if both do, the second on what the first left. -/
theorem bind_eq_ok_iff {step : EStateM ε σ α} {next : α → EStateM ε σ β} {before after : σ}
    {result : β} :
    (step >>= next) before = .ok result after
      ↔ ∃ value middle, step before = .ok value middle ∧ next value middle = .ok result after := by
  simp only [bind, EStateM.bind]
  cases step before with
  | ok value middle =>
      constructor
      · exact fun h => ⟨value, middle, rfl, h⟩
      · rintro ⟨_, _, hok, h⟩
        cases hok
        exact h
  | error cause middle => simp

/-- A chain fails if its first step does, or if the second does on what the first left. -/
theorem bind_eq_error_iff {step : EStateM ε σ α} {next : α → EStateM ε σ β} {before after : σ}
    {cause : ε} :
    (step >>= next) before = .error cause after
      ↔ step before = .error cause after ∨
        ∃ value middle, step before = .ok value middle ∧
          next value middle = .error cause after := by
  simp only [bind, EStateM.bind]
  cases step before with
  | ok value middle =>
      constructor
      · exact fun h => Or.inr ⟨value, middle, rfl, h⟩
      · rintro (himpossible | ⟨_, _, hok, h⟩)
        · cases himpossible
        · cases hok
          exact h
  | error cause middle => simp

/-- A chain goes on from the value of its first step. -/
theorem bind_of_ok {step : EStateM ε σ α} {next : α → EStateM ε σ β} {before middle : σ} {value : α}
    (h : step before = .ok value middle) : (step >>= next) before = next value middle := by
  simp only [bind, EStateM.bind, h]

/-- A chain whose first step fails goes no further. -/
theorem bind_of_error {step : EStateM ε σ α} {next : α → EStateM ε σ β} {before middle : σ}
    {cause : ε} (h : step before = .error cause middle) :
    (step >>= next) before = .error cause middle := by
  simp only [bind, EStateM.bind, h]

/-- A chain that looks at the state first goes on with it, from the same state. -/
theorem get_bind_eq (next : σ → EStateM ε σ β) (before : σ) :
    (get >>= next) before = next before before :=
  rfl

/-- Chains go on alike behind first steps that end alike. -/
theorem bind_eq_bind {step other : EStateM ε σ α} {next : α → EStateM ε σ β} {before middle : σ}
    (h : step before = other middle) : (step >>= next) before = (other >>= next) middle := by
  simp only [bind, EStateM.bind, h]

/-- A step that does nothing succeeds with its value. -/
theorem pure_eq_ok_iff {value result : α} {before after : σ} :
    (pure value : EStateM ε σ α) before = .ok result after ↔ value = result ∧ before = after := by
  simp only [pure, EStateM.pure, EStateM.Result.ok.injEq]

/-- What is made of a value does not show in the state. -/
theorem stateOf_bind_pure (step : EStateM ε σ α) (f : α → β) (before : σ) :
    stateOf ((step >>= fun value => pure (f value)) before) = stateOf (step before) := by
  cases h : step before with
  | ok value after =>
      rw [bind_of_ok h]
      rfl
  | error cause after =>
      rw [bind_of_error h]
      rfl

/-- Making something of each result is making it of all of them afterwards. -/
theorem readMany_map (step : EStateM ε σ α) (f : α → β) (count : Nat) :
    readMany (step >>= fun value => pure (f value)) count
      = readMany step count >>= fun values => pure (values.map f) := by
  induction count with
  | zero => rfl
  | succ count ih => simp only [readMany, ih, bind_assoc, pure_bind, List.map_cons]

end CallStream
