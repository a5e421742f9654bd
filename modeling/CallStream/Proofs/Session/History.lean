import CallStream.Proofs.Session.Likeness

/-!
# Behind a history

A session adds to its history and never looks at it, and only the handles of a snapshot concern the
question whether a session awaits them. So a step is the same behind any history: it does there what
it does without, and what it notes comes behind (`Indifferent`). This is one way in which two runs
can be alike; that the handles of a snapshot are cleared in another way is the other one used here.

## Main results

* `fits_behind`: a run is like the one behind an earlier history.
* `Indifferent.awaitsHandles_eq`: a step that is the same behind any history does not change what
  the session awaits.
-/

namespace CallStream

variable {σ ε α : Type}

/-- The run behind an earlier history, in a session that awaits the handles of a snapshot or not.
Neither is read while packets are carried out. -/
def Run.behind (history : List SessionEvent) (awaits : Bool) (run : Run σ) : Run σ :=
  { run with awaitsHandles := awaits, events := history ++ run.events }

/-- The result with another state left behind. -/
def mapState (f : σ → σ) : EStateM.Result ε σ α → EStateM.Result ε σ α
  | .ok value after => .ok value (f after)
  | .error cause after => .error cause (f after)

/-- The step does the same behind any history. A session that goes on with the next buffer is one
that carries a history, so this is what makes buffers add up. -/
def Indifferent (step : EStateM ε (Run σ) α) : Prop :=
  ∀ (history : List SessionEvent) (awaits : Bool) (run : Run σ),
    step (run.behind history awaits) = mapState (Run.behind history awaits) (step run)

/-- A session awaits after such a step what it awaited before. -/
theorem Indifferent.awaitsHandles_eq {step : EStateM ε (Run σ) α} (h : Indifferent step)
    (run : Run σ) : (stateOf (step run)).awaitsHandles = run.awaitsHandles := by
  have hunmoved : run.behind [] run.awaitsHandles = run := rfl
  have hstep := h [] run.awaitsHandles run
  rw [hunmoved] at hstep
  rw [hstep]
  cases step run <;> rfl

/-! ### The same run -/

/-- Two runs that do not differ at all. -/
def Likeness.same : Likeness σ σ where
  state := Eq

/-- Packets do not concern what clearing the handles of a snapshot does. -/
theorem fits_same (host : Collaborators σ) (clear : σ → σ) :
    Likeness.same.Fits host { host with clearHandles := clear } where
  toHooksAlike := hooksAlike_refl host clear
  drove request events _ h := by
    obtain rfl : events = _ := h
    rfl
  served request used events _ h := by
    obtain rfl : events = _ := h
    rfl
  logged call params config _ hconfig events _ hevents := by
    obtain rfl : config = _ := hconfig
    obtain rfl : events = _ := hevents
    rfl
  recorded snapshot state _ hstate events _ hevents := by
    obtain rfl : state = _ := hstate
    obtain rfl : events = _ := hevents
    exact ⟨rfl, rfl⟩

/-- A run does not differ from itself. -/
theorem holds_same (run : Run σ) : Likeness.same.Holds run run :=
  .intro rfl rfl rfl rfl

/-- Results of runs that do not differ are the same. -/
theorem EndsAlike.eq_of_same {result other : EStateM.Result ε (Run σ) α}
    (h : EndsAlike Likeness.same.Holds result other) : other = result := by
  cases h with
  | ok value h =>
      obtain ⟨rfl, rfl, rfl, rfl⟩ := h
      rfl
  | error cause h =>
      obtain ⟨rfl, rfl, rfl, rfl⟩ := h
      rfl

/-! ### Behind a history -/

/-- The second run has a history in front of that of the first, and awaits what it awaits. -/
def Likeness.behind (history : List SessionEvent) (awaits : Bool) : Likeness σ σ where
  state := Eq
  awaitsHandles _ other := other = awaits
  events events told := told = history ++ events

/-- What is noted comes behind an earlier history. -/
theorem append_noteIf (history events : List SessionEvent) (observed : Bool)
    (event : SessionEvent) :
    history ++ noteIf observed event events = noteIf observed event (history ++ events) := by
  cases observed with
  | true => exact (List.append_assoc ..).symm
  | false => rfl

/-- An earlier history is kept in front of whatever is noted. -/
theorem fits_behind (host : Collaborators σ) (history : List SessionEvent) (awaits : Bool) :
    (Likeness.behind history awaits).Fits host host where
  toHooksAlike := hooksAlike_refl host host.clearHandles
  drove request events told h := by
    obtain rfl : told = history ++ events := h
    exact List.append_assoc ..
  served request used events told h := by
    obtain rfl : told = history ++ events := h
    exact List.append_assoc ..
  logged call params config _ hconfig events told hevents := by
    obtain rfl : config = _ := hconfig
    obtain rfl : told = history ++ events := hevents
    exact (append_noteIf ..).symm
  recorded snapshot state _ hstate events told hevents := by
    obtain rfl : state = _ := hstate
    obtain rfl : told = history ++ events := hevents
    exact ⟨rfl, (append_noteIf ..).symm⟩

/-- A run is like the one behind a history. -/
theorem holds_behind (history : List SessionEvent) (awaits : Bool) (run : Run σ) :
    (Likeness.behind history awaits).Holds run (run.behind history awaits) :=
  .intro rfl rfl rfl rfl

/-- The result behind an earlier history is the result without it, with the history in front. -/
theorem EndsAlike.eq_of_behind {history : List SessionEvent} {awaits : Bool}
    {result other : EStateM.Result ε (Run σ) α}
    (h : EndsAlike (Likeness.behind history awaits).Holds result other) :
    other = mapState (Run.behind history awaits) result := by
  cases h with
  | ok value h =>
      obtain ⟨rfl, rfl, rfl, rfl⟩ := h
      rfl
  | error cause h =>
      obtain ⟨rfl, rfl, rfl, rfl⟩ := h
      rfl

end CallStream
