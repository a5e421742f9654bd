import CallStream.Proofs.Boxing.Restored
import Mathlib.Data.List.Infix
import Mathlib.Data.List.TakeWhile

/-!
# The queue of reserved ids

A new object takes the first reserved id that it can take, and what stands in front of that is given
up, also for objects that could have taken it. So the queue of reservations only loses ids, from its
front, whatever becomes of the objects in the meantime, and an object gets a fresh id only where
nothing is left of it. If every reserved id can be taken by every object that comes, none is given
up.

## Main results

* `GivesInOrder`, `givesInOrder`: how a new object is given an id.
* `reserved_foldl_suffix`: the queue loses ids only from its front.
* `restored_in_order_of_run`: the ids that objects are given while others come and go.
-/

namespace CallStream

namespace BoxTable

/-- An object can take an id that is not null, not its own value, and not in use. -/
def CanTake (table : BoxTable) (raw : UInt64) (id : BoxedId) : Prop :=
  id ≠ 0 ∧ id ≠ raw ∧ table.find? id = none

/-- How a new object is given an id. It takes the first reserved id that it can take, and this id
and those in front of it leave the queue. Only if it can take none, a fresh id is looked for, and
whether or not there is one, the queue is empty behind that. -/
inductive GivesInOrder (table : BoxTable) (raw : UInt64) (type : HandleType) : Prop
  | restored {skipped rest : List BoxedId} {id : BoxedId}
    (hreserved : table.reserved = skipped ++ id :: rest)
    (hunusable : ∀ other ∈ skipped, ¬ CanTake table raw other) (husable : CanTake table raw id)
    (hcreate : create raw type table =
      .ok id ({ table with reserved := rest }.insert ⟨id, raw, type⟩))
  | fresh
    (hunusable : ∀ other ∈ table.reserved, ¬ CanTake table raw other)
    (hcreate : create raw type table
      = match freshId raw type { table with reserved := [] } with
        | .ok id after => .ok id (after.insert ⟨id, raw, type⟩)
        | .error cause after => .error cause after)
    (hemptied : (stateOf (create raw type table)).reserved = [])

section Queue

variable {table : BoxTable} {raw : UInt64} {type : HandleType} {id : BoxedId} {rest : List BoxedId}

/-- The first reserved id that can be taken has only others in front of it. -/
theorem reserved_of_usableFrom (h : table.usableFrom raw = id :: rest) :
    ∃ skipped, table.reserved = skipped ++ id :: rest ∧
      (∀ other ∈ skipped, table.isUsable raw other = false) ∧ table.isUsable raw id = true := by
  have happend := List.takeWhile_append_dropWhile
    (p := fun id => !table.isUsable raw id) (l := table.reserved)
  have hfirst := List.head?_dropWhile_not (fun id => !table.isUsable raw id) table.reserved
  rw [usableFrom] at h
  rw [h] at happend hfirst
  exact ⟨_, happend.symm,
    fun other hmem => by simpa using List.mem_takeWhile_imp hmem, by simpa using hfirst⟩

/-- Whatever the state of a table, a new object is given an id in the order of the queue. -/
theorem givesInOrder (table : BoxTable) (raw : UInt64) (type : HandleType) :
    GivesInOrder table raw type := by
  rcases create_cases raw type table with ⟨id, rest, husableFrom, hcreate⟩ | ⟨husableFrom, hcreate⟩
  · obtain ⟨skipped, hreserved, hunusable, husable⟩ := reserved_of_usableFrom husableFrom
    refine .restored hreserved (fun other hmem hcan => ?_) (isUsable_iff.mp husable) hcreate
    exact Bool.false_ne_true ((hunusable other hmem).symm.trans (isUsable_iff.mpr hcan))
  · refine .fresh (fun other hmem hcan => ?_) hcreate (reserved_create_of_unusable husableFrom)
    have hnot := List.dropWhile_eq_nil_iff.mp husableFrom other hmem
    rw [isUsable_iff.mpr hcan] at hnot
    cases hnot

end Queue

end BoxTable

namespace TableOp

open BoxTable

/-- Whether an operation enters or destroys objects, or looks at them, and leaves the queue of
reservations to the objects that are entered. -/
def leavesQueue : TableOp → Bool
  | reserve _ | clearReservations => false
  | _ => true

/-- Whether an operation is to enter an object. -/
def creates : TableOp → Bool
  | create _ _ => true
  | _ => false

/-- What becomes of the object that an operation is to enter: the id it is given, or none if there
is none. -/
def answer (table : BoxTable) : TableOp → List (Option BoxedId)
  | create raw type =>
    match BoxTable.create raw type table with
    | .ok id _ => [some id]
    | .error _ _ => [none]
  | _ => []

/-- What becomes of the objects that operations are to enter, in order. -/
def answersFrom (table : BoxTable) : List TableOp → List (Option BoxedId)
  | [] => []
  | op :: rest => op.answer table ++ answersFrom (op.apply table) rest

section Queue

variable {table : BoxTable} {op : TableOp} {ops : List TableOp}

/-- An operation that enters nothing leaves the queue alone, and makes nothing live. -/
theorem queue_apply_of_not_creates (hquiet : op.leavesQueue = true) (henters : op.creates = false)
    (table : BoxTable) :
    (op.apply table).reserved = table.reserved ∧ (op.apply table).entries ⊆ table.entries := by
  cases op with
  | create raw type => cases henters
  | unwrap id =>
      rw [apply, stateOf_unwrap]
      exact ⟨rfl, List.Subset.refl _⟩
  | destroy id preserve =>
      exact ⟨reserved_destroy id preserve table, entries_destroy_subset id preserve table⟩
  | defer id =>
      rw [apply, defer_eq]
      cases table.resolve id <;> exact ⟨rfl, List.Subset.refl _⟩
  | commit =>
      refine ⟨?_, entries_destroyAll_subset table.pending { table with pending := [] }⟩
      exact destroyAll_induction (P := fun after => after.reserved = table.reserved)
        (fun after id hreserved => (reserved_destroy id true after).trans hreserved)
        table.pending rfl
  | discard | release => exact ⟨rfl, List.Subset.refl _⟩
  | reserve ids | clearReservations => cases hquiet

/-- The queue loses ids only from its front. -/
theorem reserved_apply_suffix (hquiet : op.leavesQueue = true) (table : BoxTable) :
    (op.apply table).reserved <:+ table.reserved := by
  cases op with
  | create raw type =>
      rw [apply]
      cases givesInOrder table raw type with
      | @restored skipped rest id hreserved _ _ hcreate =>
          rw [hcreate, hreserved]
          exact ⟨skipped ++ [id], by rw [List.append_assoc]; rfl⟩
      | fresh _ _ hemptied =>
          rw [hemptied]
          exact List.nil_suffix
  | _ => rw [(queue_apply_of_not_creates hquiet rfl table).1]

/-- So it does along a run. -/
theorem reserved_foldl_suffix (hquiet : ∀ op ∈ ops, op.leavesQueue = true) (table : BoxTable) :
    (ops.foldl apply table).reserved <:+ table.reserved := by
  induction ops generalizing table with
  | nil => exact List.suffix_rfl
  | cons op rest ih =>
      obtain ⟨hleavesQueue, hlater⟩ := List.forall_mem_cons.mp hquiet
      exact (ih hlater (op.apply table)).trans (reserved_apply_suffix hleavesQueue table)

/-- Operations that leave the queue alone reserve nothing. -/
theorem reservations_of_leavesQueue (hquiet : ∀ op ∈ ops, op.leavesQueue = true) :
    reservations ops = [] := by
  refine List.flatMap_eq_nil_iff.mpr fun op hmem => ?_
  cases op with
  | reserve ids => exact absurd (hquiet _ hmem) Bool.false_ne_true
  | _ => rfl

/-- A restored id is what its object is given. -/
theorem restored_sublist_answer (op : TableOp) (table : BoxTable) :
    ((op.restored table).toList.map some).Sublist (op.answer table) := by
  cases op with
  | create raw type =>
      rw [restored, answer]
      cases husableFrom : table.usableFrom raw with
      | cons id rest =>
          rw [create_of_usable husableFrom]
          exact List.Sublist.refl _
      | nil => exact List.nil_sublist _
  | _ => exact List.nil_sublist _

/-- So it is along a run. -/
theorem restoredFrom_sublist_answersFrom (table : BoxTable) (ops : List TableOp) :
    ((restoredFrom table ops).map some).Sublist (answersFrom table ops) := by
  induction ops generalizing table with
  | nil => exact List.Sublist.refl _
  | cons op rest ih =>
      rw [restoredFrom, answersFrom, List.map_append]
      exact (restored_sublist_answer op table).append (ih (op.apply table))

/-! ### Reservations that can all be taken -/

/-- Every reserved id can be taken by every object that operations are to enter. Then no reservation
is dropped, and each object gets the next one. -/
structure AllUsable (table : BoxTable) (ops : List TableOp) : Prop where
  nodup : table.reserved.Nodup
  nonnull : 0 ∉ table.reserved
  dead : ∀ id ∈ table.reserved, table.find? id = none
  apart : ∀ raw type, create raw type ∈ ops → raw ∉ table.reserved

/-- The next object then takes the id in front. -/
theorem AllUsable.create {raw : UInt64} {type : HandleType} {id : BoxedId} {others : List BoxedId}
    (h : AllUsable table (create raw type :: ops)) (hreserved : table.reserved = id :: others) :
    let after := { table with reserved := others }.insert ⟨id, raw, type⟩
    BoxTable.create raw type table = .ok id after ∧ AllUsable after ops := by
  have hmem : id ∈ table.reserved := hreserved ▸ List.mem_cons_self
  have hbehind {other : BoxedId} (hmem' : other ∈ others) : other ∈ table.reserved :=
    hreserved ▸ List.mem_cons_of_mem id hmem'
  have halone := List.nodup_cons.mp (hreserved ▸ h.nodup)
  have husable : table.isUsable raw id = true := by
    refine isUsable_iff.mpr ⟨fun heq => h.nonnull (heq ▸ hmem), fun hown => ?_, h.dead id hmem⟩
    exact h.apart raw type List.mem_cons_self (hown ▸ hmem)
  have husableFrom : table.usableFrom raw = id :: others := by
    rw [usableFrom, hreserved, List.dropWhile_cons_of_neg (by simpa using husable)]
  refine ⟨create_of_usable husableFrom, halone.2, fun hmem' => h.nonnull (hbehind hmem'),
    fun other hmem' => ?_, fun raw type hmem' hinside =>
    h.apart raw type (List.mem_cons_of_mem _ hmem') (hbehind hinside)⟩
  have hne : other ≠ id := fun hsame => halone.1 (hsame ▸ hmem')
  exact (find?_insert_of_ne hne).trans (h.dead other (hbehind hmem'))

/-- What enters nothing changes nothing about it. -/
theorem AllUsable.apply (h : AllUsable table (op :: ops)) (hquiet : op.leavesQueue = true)
    (henters : op.creates = false) :
    (op.apply table).reserved = table.reserved ∧ AllUsable (op.apply table) ops := by
  obtain ⟨hreserved, hfewer⟩ := queue_apply_of_not_creates hquiet henters table
  refine ⟨hreserved, hreserved.symm ▸ h.nodup, hreserved.symm ▸ h.nonnull, fun id hmem => ?_,
    fun raw type hmem => ?_⟩
  · have hdead := find?_eq_none_iff.mp (h.dead id (hreserved ▸ hmem))
    exact find?_eq_none_iff.mpr fun entry hlisted => hdead entry (hfewer hlisted)
  · rw [hreserved]
    exact h.apart raw type (List.mem_cons_of_mem op hmem)

/-- Along a run, objects are given the reserved ids one after another, as far as these go. -/
theorem AllUsable.take_answersFrom (h : AllUsable table ops)
    (hquiet : ∀ op ∈ ops, op.leavesQueue = true) :
    (answersFrom table ops).take table.reserved.length
      = (table.reserved.take (ops.countP creates)).map some := by
  induction ops generalizing table with
  | nil => rw [answersFrom, List.take_nil, List.countP_nil, List.take_zero, List.map_nil]
  | cons op rest ih =>
      obtain ⟨hleavesQueue, hlater⟩ := List.forall_mem_cons.mp hquiet
      cases henters : op.creates with
      -- Nothing enters, so the queue and what it is good for stay the same.
      | false =>
          obtain ⟨hreserved, hstillUsable⟩ := h.apply hleavesQueue henters
          have htake := ih hstillUsable hlater
          have hanswer : op.answer table = [] := by
            cases op with
            | create raw type => cases henters
            | _ => rfl
          rw [answersFrom, hanswer, List.nil_append, ← hreserved,
            List.countP_cons_of_neg (Bool.not_eq_true _ ▸ henters)]
          exact htake
      -- An object enters and takes the first reserved id, as this one can be used.
      | true =>
          obtain ⟨raw, type, rfl⟩ : ∃ raw type, op = .create raw type := by
            cases op with
            | create raw type => exact ⟨raw, type, rfl⟩
            | _ => cases henters
          rw [List.countP_cons_of_pos henters]
          cases hqueued : table.reserved with
          | nil => rw [List.length_nil, List.take_zero, List.take_nil, List.map_nil]
          | cons id others =>
              obtain ⟨hcreate, hstillUsable⟩ := h.create hqueued
              have htake := ih hstillUsable hlater
              have hfirst : answer table (.create raw type) = [some id] := by rw [answer, hcreate]
              rw [answersFrom, hfirst, TableOp.apply, hcreate, List.singleton_append,
                List.length_cons, List.take_succ_cons, List.take_succ_cons, List.map_cons]
              exact congrArg (some id :: ·) htake

end Queue

/-- While objects come and go, each new one is given the first reserved id that it can take, and a
fresh one only if there is none; what it passes over is given up. The queue only loses ids, from its
front, so that the restored ids are given in the order in which they were reserved. If all reserved
ids can be taken, the first objects get exactly these. -/
theorem restored_in_order_of_run {ops : List TableOp} (hquiet : ∀ op ∈ ops, op.leavesQueue = true)
    (table : BoxTable) :
    (∀ front raw type back, ops = front ++ create raw type :: back →
        GivesInOrder (front.foldl apply table) raw type) ∧
      (∀ front back, ops = front ++ back →
        (ops.foldl apply table).reserved <:+ (front.foldl apply table).reserved) ∧
      ((restoredFrom table ops).map some).Sublist (answersFrom table ops) ∧
      (restoredFrom table ops ++ (ops.foldl apply table).reserved).Sublist table.reserved ∧
      (AllUsable table ops → (answersFrom table ops).take table.reserved.length
        = (table.reserved.take (ops.countP creates)).map some) := by
  refine ⟨fun front raw type back _ => givesInOrder _ raw type, fun front back hsplit => ?_,
    restoredFrom_sublist_answersFrom table ops, ?_, fun husable => husable.take_answersFrom hquiet⟩
  · rw [hsplit, List.foldl_append]
    exact reserved_foldl_suffix
      (fun op hmem => hquiet op (hsplit ▸ List.mem_append_right front hmem)) _
  · have horder := restored_append_reserved_foldl ops table
    rwa [reservations_of_leavesQueue hquiet, List.append_nil] at horder

/-- Null, a live device and three fences are reserved. -/
def crowdedQueue : BoxTable where
  entries := [⟨7, 5, .device⟩]
  reserved := [0, 7, 11, 13, 17]

/-- A fence enters whose own value is reserved. The device is destroyed, too late for its id, and
another fence enters. -/
def enteringFences : List TableOp := [create 11 .fence, destroy 7 false, create 19 .fence]

/-- The second fence does not get the id that the first one could not take. Where both can take all
reserved ids, they get the first two. -/
theorem restored_in_order_of_enteringFences :
    (∀ op ∈ enteringFences, op.leavesQueue = true) ∧
      GivesInOrder crowdedQueue 11 .fence ∧
      restoredFrom crowdedQueue enteringFences = [13, 17] ∧
      ([13, 17] : List BoxedId).Sublist crowdedQueue.reserved ∧
      AllUsable { crowdedQueue with reserved := [21, 23, 25] } enteringFences ∧
      (answersFrom { crowdedQueue with reserved := [21, 23, 25] } enteringFences).take 3
        = [some 21, some 23] := by
  have hquiet : ∀ op ∈ enteringFences, op.leavesQueue = true := by decide
  obtain ⟨hgiven, -, -, horder, -⟩ := restored_in_order_of_run hquiet crowdedQueue
  have hrestoredFrom : restoredFrom crowdedQueue enteringFences = [13, 17] := rfl
  rw [hrestoredFrom] at horder
  have husable : AllUsable { crowdedQueue with reserved := [21, 23, 25] } enteringFences := by
    refine ⟨by decide, by decide, fun id hmem => ?_, fun raw type hmem => ?_⟩
    · refine find?_eq_none_iff.mpr fun entry hlisted hboxed => ?_
      obtain rfl := List.mem_singleton.mp hlisted
      subst hboxed
      exact absurd hmem (by decide)
    · have heither : raw = 11 ∨ raw = 19 := by
        have hlisted : (raw = 11 ∧ type = .fence) ∨ raw = 19 ∧ type = .fence := by
          simpa [enteringFences] using hmem
        exact hlisted.imp And.left And.left
      rcases heither with rfl | rfl <;> decide
  obtain ⟨-, -, -, -, hall⟩ :=
    restored_in_order_of_run hquiet { crowdedQueue with reserved := [21, 23, 25] }
  exact ⟨hquiet, hgiven [] 11 .fence _ rfl, hrestoredFrom,
    (List.sublist_append_left _ _).trans horder, husable, hall husable⟩

end TableOp

end CallStream
