import CallStream.Proofs.Boxing.Expiry

/-!
# Ids restored from a snapshot

Reserved ids are given to new objects in the order in which they were reserved; those that cannot be
used are given up. So an id that is reserved once is given away once as a reserved id
(`restored_append_reserved_foldl`). Whether it is given again as a fresh one is up to its slot: if
the slot was past the id once, it stays so along a run (`expired_apply`).

## Main results

* `restored`, `removed`: the reserved id that an operation gives away, and the objects that it
  destroys, each with the table that it is taken from.
* `not_mem_reserved_of_restored`: without repetitions, an id given away is not reserved again.
* `ne_of_mem_enteredFrom`: an id that no slot gives is not given along a run, unless it is reserved.
* `gone_of_removed`: destroying an object uses its id up, if its slot has come to its generation.
-/

namespace CallStream

/-! ### Runs -/

namespace TableOp

open BoxTable

/-- The ids that an operation reserves. -/
def reservedIds : TableOp → List BoxedId
  | reserve ids => ids
  | _ => []

/-- The ids that operations reserve, in order. -/
def reservations (ops : List TableOp) : List BoxedId := ops.flatMap reservedIds

/-- The reserved id that an operation gives to an object, if it gives one: the first one that the
object can take. -/
def restored (table : BoxTable) : TableOp → Option BoxedId
  | create raw _ => (table.usableFrom raw).head?
  | _ => none

/-- The reserved ids that operations give to objects, in order. -/
def restoredFrom (table : BoxTable) : List TableOp → List BoxedId
  | [] => []
  | op :: rest => (op.restored table).toList ++ restoredFrom (op.apply table) rest

/-- The objects that destroying the objects of `ids` removes, each with the table that it is removed
from. -/
def removedFrom (table : BoxTable) : List BoxedId → List (BoxedId × BoxTable)
  | [] => []
  | id :: rest =>
    match BoxTable.destroy id true table with
    | .ok _ after => (id, table) :: removedFrom after rest
    | .error _ _ => []

/-- The objects that an operation removes, each with the table that it is removed from. The tables
differ where one operation removes several objects. -/
def removed (table : BoxTable) : TableOp → List (BoxedId × BoxTable)
  | destroy id preserve =>
    match BoxTable.destroy id preserve table with
    | .ok _ _ => [(id, table)]
    | .error _ _ => []
  | commit => removedFrom { table with pending := [] } table.pending
  | _ => []

/-- Ids are restored along a run as they are along its parts. -/
theorem restoredFrom_append (table : BoxTable) (front back : List TableOp) :
    restoredFrom table (front ++ back)
      = restoredFrom table front ++ restoredFrom (front.foldl apply table) back := by
  induction front generalizing table with
  | nil => rfl
  | cons op rest ih =>
      simp only [List.cons_append, restoredFrom, ih, List.append_assoc, List.foldl_cons]

/-- What is reserved in two runs of operations is reserved in order. -/
theorem reservations_append (front back : List TableOp) :
    reservations (front ++ back) = reservations front ++ reservations back :=
  List.flatMap_append

section Reservations

variable {table : BoxTable} {id : BoxedId}

/-- Reserved ids are given away in order, and none is given away twice. -/
theorem restored_append_reserved_apply (op : TableOp) (table : BoxTable) :
    ((op.restored table).toList ++ (op.apply table).reserved).Sublist
      (table.reserved ++ op.reservedIds) := by
  -- All operations but creating, reserving and clearing leave the reserved ids alone.
  have hkept {after : BoxTable} (hreserved : after.reserved = table.reserved) :
      ((none : Option BoxedId).toList ++ after.reserved).Sublist (table.reserved ++ []) := by
    rw [hreserved, Option.toList_none, List.nil_append, List.append_nil]
  cases op with
  | create raw type =>
      change ((table.usableFrom raw).head?.toList
        ++ (stateOf (BoxTable.create raw type table)).reserved).Sublist (table.reserved ++ [])
      rw [List.append_nil]
      cases husableFrom : table.usableFrom raw with
      | cons id rest =>
          rw [create_of_usable husableFrom]
          have hdropped : (table.usableFrom raw).Sublist table.reserved := List.dropWhile_sublist _
          rwa [husableFrom] at hdropped
      | nil =>
          rw [reserved_create_of_unusable husableFrom]
          exact List.nil_sublist _
  | unwrap id => exact hkept (congrArg BoxTable.reserved (stateOf_unwrap id table))
  | destroy id preserve => exact hkept (reserved_destroy id preserve table)
  | defer id =>
      refine hkept ?_
      rw [apply, defer_eq]
      cases table.resolve id <;> rfl
  | commit =>
      refine hkept (destroyAll_induction (P := fun after => after.reserved = table.reserved) ?_
        table.pending rfl)
      exact fun after id hreserved => (reserved_destroy id true after).trans hreserved
  | discard | release => exact hkept rfl
  | reserve ids => exact List.Sublist.refl _
  | clearReservations => exact List.nil_sublist _

/-- So it is along a run: what was given away and what is still reserved was reserved, in this
order. -/
theorem restored_append_reserved_foldl (ops : List TableOp) (table : BoxTable) :
    (restoredFrom table ops ++ (ops.foldl apply table).reserved).Sublist
      (table.reserved ++ reservations ops) := by
  induction ops generalizing table with
  | nil =>
      rw [restoredFrom, reservations, List.flatMap_nil, List.nil_append, List.append_nil]
      exact List.Sublist.refl _
  | cons op rest ih =>
      have hsublist := (restored_append_reserved_apply op table).append_right (reservations rest)
      have hothers := (ih (op.apply table)).append_left (op.restored table).toList
      rw [← List.append_assoc, ← List.append_assoc] at hothers
      rw [List.append_assoc table.reserved] at hsublist
      exact hothers.trans hsublist

/-- If no id is reserved twice, an id that was given away is not reserved any more, and is not
reserved again. -/
theorem not_mem_reserved_of_restored {front back : List TableOp}
    (hnodup : (reservations (front ++ back)).Nodup) (hmem : id ∈ restoredFrom {} front) :
    id ∉ (run front).reserved ++ reservations back := by
  have horder := (restored_append_reserved_foldl front {}).append_right (reservations back)
  have hapart : (restoredFrom {} front ++ ((run front).reserved ++ reservations back)).Nodup := by
    rw [← List.append_assoc]
    refine List.Nodup.sublist horder ?_
    rwa [List.nil_append, ← reservations_append]
  exact fun hmem' => (List.nodup_append.mp hapart).2.2 id hmem id hmem' rfl

/-- No restored id is null. -/
theorem ne_zero_of_restored {ops : List TableOp} (h : id ∈ restoredFrom table ops) : id ≠ 0 := by
  induction ops generalizing table with
  | nil => cases h
  | cons op rest ih =>
      rcases List.mem_append.mp h with hmem | hlater
      · cases op with
        | create raw type =>
            have hrestored := Option.mem_toList.mp hmem
            have husable :=
              List.head?_dropWhile_not (fun id => !table.isUsable raw id) table.reserved
            rw [restored, usableFrom] at hrestored
            rw [Option.mem_def.mp hrestored] at husable
            exact (isUsable_iff.mp (by simpa using husable)).1
        | _ => cases hmem
      · exact ih hlater

end Reservations

section Barred

variable {table : BoxTable} {id : BoxedId}

/-- A slot that is past an id stays so, whatever is done. -/
theorem expired_apply (h : Expired table id) (op : TableOp) : Expired (op.apply table) id := by
  cases op with
  | create raw type => exact h.create raw type
  | unwrap other => rwa [apply, stateOf_unwrap]
  | destroy other preserve => exact h.destroy other preserve
  | defer other =>
      rw [apply, defer_eq]
      cases table.resolve other <;> exact h.congr rfl (List.Subset.refl _)
  | commit =>
      have hemptied : Expired { table with pending := [] } id := h.congr rfl (List.Subset.refl _)
      exact hemptied.destroyAll table.pending
  | discard | release | reserve ids | clearReservations => exact h.congr rfl (List.Subset.refl _)

/-- An id that no slot gives is not given again, unless it is reserved. -/
theorem ne_of_mem_entered (h : Barred table id) (hunreserved : id ∉ table.reserved) (op : TableOp) :
    ∀ entry ∈ (op.entered table).toList, entry.boxed ≠ id := by
  intro entry hmem
  cases op with
  | create raw type =>
      rw [entered] at hmem
      cases hcreate : BoxTable.create raw type table with
      | ok fresh after =>
          rw [hcreate] at hmem
          obtain rfl := List.mem_singleton.mp hmem
          rintro rfl
          exact h.create_ne hunreserved hcreate
      | error cause after =>
          rw [hcreate] at hmem
          cases hmem
  | _ => cases hmem

/-- So it is along a run. -/
theorem ne_of_mem_enteredFrom {ops : List TableOp} (h : Barred table id)
    (hunreserved : id ∉ table.reserved ++ reservations ops) :
    ∀ entry ∈ enteredFrom table ops, entry.boxed ≠ id := by
  induction ops generalizing table with
  | nil => exact fun entry hmem => by cases hmem
  | cons op rest ih =>
      intro entry hmem
      rcases List.mem_append.mp hmem with hnow | hlater
      · exact ne_of_mem_entered h (fun hmem => hunreserved (List.mem_append_left _ hmem))
          op entry hnow
      · refine ih (fun htagged => expired_apply (h htagged) op)
          (fun hmem => hunreserved ?_) entry hlater
        have horder := (restored_append_reserved_apply op table).append_right (reservations rest)
        rw [List.append_assoc, List.append_assoc] at horder
        exact horder.subset (List.mem_append_right _ hmem)

end Barred

/-! ### Objects that are removed -/

section Removed

variable {table before : BoxTable} {id : BoxedId}

/-- Nothing is found under an id exactly if no object has it. -/
theorem find?_eq_none_iff : table.find? id = none ↔ ∀ entry ∈ table.entries, entry.boxed ≠ id := by
  simp [find?]

/-- An id that leaves the table among others does so when those before it have left. -/
theorem removedFrom_cases {ids : List BoxedId} (h : (id, before) ∈ removedFrom table ids) :
    ∃ front raw after back, before = stateOf (destroyAll front table) ∧
      BoxTable.destroy id true before = .ok raw after ∧
      stateOf (destroyAll ids table) = stateOf (destroyAll back after) := by
  induction ids generalizing table with
  | nil => cases h
  | cons other rest ih =>
      rw [removedFrom] at h
      cases hdestroy : BoxTable.destroy other true table with
      | ok raw after =>
          rw [hdestroy] at h
          have hcarried (ids : List BoxedId) :
              destroyAll (other :: ids) table = destroyAll ids after := by
            rw [destroyAll, bind_of_ok hdestroy]
          -- Either this id is the one, or it is among the rest, behind a table without this id.
          rcases List.mem_cons.mp h with hpair | hmem
          · cases hpair
            exact ⟨[], raw, after, rest, rfl, hdestroy, congrArg stateOf (hcarried rest)⟩
          · obtain ⟨front, raw, last, back, hreached, hremoved, hstateOf⟩ := ih hmem
            refine ⟨other :: front, raw, last, back, ?_, hremoved, ?_⟩
            · rw [hreached, hcarried]
            · rw [hcarried, hstateOf]
      | error cause after =>
          rw [hdestroy] at h
          cases h

/-- What an operation removes is destroyed in turn: objects are destroyed in front of it, then it
is, then others behind it. -/
theorem removed_cases {op : TableOp} (h : (id, before) ∈ op.removed table) :
    ∃ start front preserve raw after back, (start = table ∨ start = { table with pending := [] }) ∧
      before = stateOf (destroyAll front start) ∧
      BoxTable.destroy id preserve before = .ok raw after ∧
      op.apply table = stateOf (destroyAll back after) := by
  cases op with
  | destroy other preserve =>
      rw [removed] at h
      cases hdestroy : BoxTable.destroy other preserve table with
      | ok raw after =>
          rw [hdestroy] at h
          cases List.mem_singleton.mp h
          exact ⟨table, [], preserve, raw, after, [], Or.inl rfl, rfl, hdestroy,
            congrArg stateOf hdestroy⟩
      | error cause after =>
          rw [hdestroy] at h
          cases h
  | commit =>
      obtain ⟨front, raw, after, back, hreached, hdestroyed, hstateOf⟩ := removedFrom_cases h
      exact ⟨_, front, true, raw, after, back, Or.inr rfl, hreached, hdestroyed, hstateOf⟩
  | _ => cases h

/-- Removing an object uses its id up, if its slot has come to its generation. -/
theorem gone_of_removed {op : TableOp} (hne : id ≠ 0) (h : (id, before) ∈ op.removed table) :
    (Expires before id → Expired (op.apply table) id) ∧ (op.apply table).find? id = none := by
  obtain ⟨start, front, preserve, raw, after, back, -, -, hdestroy, happly⟩ := removed_cases h
  rw [happly]
  refine ⟨fun hexpires => (hexpires.destroy hne hdestroy).destroyAll back, ?_⟩
  have hfind := ((destroy_eq_ok hne hdestroy).find?_eq id).trans (find?_remove_self before id)
  exact find?_eq_none_iff.mpr fun entry hmem =>
    find?_eq_none_iff.mp hfind entry (entries_destroyAll_subset back after hmem)

end Removed

end TableOp

end CallStream
