/-!
# What sessions share

The numbers of the sessions of a process, and the lock that serializes the driver calls which some
drivers cannot run at the same time.

## Main results

- `tryLock?_unlock`: a lock that is given back can be taken again.
- `tryLock?_eq_none_iff`: taking the lock fails exactly while somebody holds it.
-/

namespace CallStream

/-- The state that the sessions of a process share. -/
structure SharedState where
  /-- The number of the next session. -/
  nextId : UInt64 := 0
  /-- Somebody holds the lock. -/
  lockHeld : Bool := false
deriving DecidableEq, Repr

namespace SharedState

/-- Numbers a new session. -/
def takeId (shared : SharedState) : UInt64 × SharedState :=
  (shared.nextId, { shared with nextId := shared.nextId + 1 })

/-- Takes the lock unless somebody holds it. -/
def tryLock? (shared : SharedState) : Option SharedState :=
  if shared.lockHeld then none else some { shared with lockHeld := true }

/-- Gives the lock back. -/
def unlock (shared : SharedState) : SharedState := { shared with lockHeld := false }

/-- The state cannot be locked exactly while somebody holds the lock. -/
theorem tryLock?_eq_none_iff {shared : SharedState} :
    shared.tryLock? = none ↔ shared.lockHeld = true := by
  simp [tryLock?]

/-- When the lock has been released, the state can be locked. -/
theorem tryLock?_unlock (shared : SharedState) : shared.unlock.tryLock?.isSome = true := rfl

end SharedState

end CallStream
