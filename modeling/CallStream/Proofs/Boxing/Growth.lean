import CallStream.Proofs.Boxing.LiveIds
import CallStream.Proofs.Within

/-!
# Tables that only gain objects

While a call is carried out, the objects that it makes enter the table, and nothing else happens
there. An attempt to enter an object may fail, and even then it may use up reserved ids and slots;
but no object that is live is touched, whatever the state of the table.

## Main results

* `Grown`: the table after any number of attempts to enter objects.
* `Grown.find?_eq_some`: what was live is live, as the same object.
* `Grown.preserved_eq`: nothing is destroyed.
-/

namespace CallStream.BoxTable

/-- The second table comes from the first by attempts to enter objects. Attempts that fail count
too, since they may use up slots and reservations. -/
inductive Grown : BoxTable → BoxTable → Prop
  | refl (table : BoxTable) : Grown table table
  | create {before after : BoxTable} (hgrown : Grown before after) (raw : UInt64)
      (type : HandleType) : Grown before (stateOf (create raw type after))

/-- A table that grows twice has grown. -/
theorem Grown.trans {first second third : BoxTable} (h : Grown first second)
    (h' : Grown second third) : Grown first third := by
  induction h' with
  | refl => exact h
  | create _ raw type ih => exact ih.create raw type

/-- Growing is a way of moving that can be chained. -/
instance : IsPreorder BoxTable Grown where
  refl := .refl
  trans _ _ _ := .trans

/-- One attempt to enter an object. -/
theorem grown_create (raw : UInt64) (type : HandleType) (table : BoxTable) :
    Grown table (stateOf (BoxTable.create raw type table)) :=
  (Grown.refl table).create raw type

/-! ### Live objects -/

/-- An attempt to enter an object displaces no other one. -/
theorem find?_create_of_some {table : BoxTable} {id : BoxedId} {entry : BoxedEntry}
    (h : table.find? id = some entry) (raw : UInt64) (type : HandleType) :
    (stateOf (BoxTable.create raw type table)).find? id = some entry := by
  cases hcreate : BoxTable.create raw type table with
  | error cause after => exact ((create_eq_error hcreate).find?_eq id).trans h
  | ok fresh after =>
      obtain ⟨-, -, hfind⟩ := isUsable_iff.mp (create_eq_ok hcreate).1
      have hne : id ≠ fresh := by
        rintro rfl
        cases h.symm.trans hfind
      exact (find?_create_of_ne hcreate hne).trans h

/-- What was live is live, as the same object. -/
theorem Grown.find?_eq_some {before after : BoxTable} (h : Grown before after) {id : BoxedId}
    {entry : BoxedEntry} (hfind : before.find? id = some entry) : after.find? id = some entry := by
  induction h with
  | refl => exact hfind
  | create _ raw type ih => exact find?_create_of_some ih raw type

/-! ### Destroyed ids -/

/-- Claiming a slot leaves alone what is preserved. -/
theorem preserved_claimSlot (table : BoxTable) (raw : UInt64) (type : HandleType) (slot : UInt32) :
    (table.claimSlot raw type slot).2.preserved = table.preserved := by
  simp only [claimSlot]
  split <;> rfl

/-- So does looking for a fresh id. -/
theorem preserved_freshId (raw : UInt64) (type : HandleType) (table : BoxTable) :
    (stateOf (freshId raw type table)).preserved = table.preserved := by
  fun_induction freshId raw type table with
  | case1 table slot free hfree claim id hfst => exact preserved_claimSlot _ raw type slot
  | case2 table slot free hfree claim hretired ih =>
      exact ih.trans (preserved_claimSlot _ raw type slot)
  | case3 table hfree slot hroom extended claim id hfst => exact preserved_claimSlot _ raw type _
  | case4 table hfree slot hroom extended claim hretired ih =>
      exact ih.trans (preserved_claimSlot _ raw type _)
  | case5 table hfree slot hroom => rfl

/-- Entering an object, or failing to, destroys nothing. -/
theorem preserved_create (raw : UInt64) (type : HandleType) (table : BoxTable) :
    (stateOf (create raw type table)).preserved = table.preserved := by
  obtain ⟨taken, reserved, htakeReserved, hpreserved⟩ : ∃ taken reserved,
      takeReserved raw table = .ok taken reserved ∧ reserved.preserved = table.preserved := by
    unfold takeReserved
    split <;> exact ⟨_, _, rfl, rfl⟩
  -- With a reservation the table only gains an entry; without, the search touches slots only.
  unfold create
  rw [bind_of_ok htakeReserved]
  cases taken with
  | some id => exact hpreserved
  | none =>
      have hsearched := (preserved_freshId raw type reserved).trans hpreserved
      dsimp only
      cases hfreshId : freshId raw type reserved with
      | ok id last =>
          rw [hfreshId] at hsearched
          rw [bind_of_ok hfreshId]
          exact hsearched
      | error cause last =>
          rw [hfreshId] at hsearched
          rw [bind_of_error hfreshId]
          exact hsearched

/-- What was destroyed before is all that is listed. -/
theorem Grown.preserved_eq {before after : BoxTable} (h : Grown before after) :
    after.preserved = before.preserved := by
  induction h with
  | refl => rfl
  | create _ raw type ih => exact (preserved_create raw type _).trans ih

end CallStream.BoxTable
