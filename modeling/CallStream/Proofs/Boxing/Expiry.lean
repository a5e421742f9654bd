import CallStream.Proofs.Boxing.Generations

/-!
# Ids that are used up

When an object is destroyed, its slot is freed for its next generation only if its id is of the
generation that the slot is in. So the id is used up if the slot has come to its generation by then
(`Expires`): the slot gives only later ones afterwards, or none at all (`Expired`), and that is
never undone. This says nothing about where the id came from. Ids of the table's own always expire,
but a reserved one may name a slot that does not exist yet, or a generation that its slot has not
come to.

## Main results

* `recycle_cases`: when a slot is freed, and for which generation.
* `Expires.destroy`: destroying an object uses its id up if the slot has come to its generation.
* `Expired.freshId`, `Expired.destroy`: a slot that is past an id stays so and never gives it.
* `Barred.create_ne`: an id that is used up, or that no slot ever gives, is not given again.
-/

namespace CallStream

namespace BoxTable

/-! ### Slots that are past an id -/

/-- The slot of an id is past it: it gives only ids of later generations, or none any more. No
operation brings a slot back, so an expired id is never given out by a slot again. -/
structure Expired (table : BoxTable) (id : BoxedId) : Prop where
  inside : (BoxedId.slot id).toNat < table.generations.size
  past : (BoxedId.generation id).toNat < (table.generationOf (BoxedId.slot id)).toNat ∨
    table.generationOf (BoxedId.slot id) = lastGeneration ∧ BoxedId.slot id ∉ table.free

/-- The slot of an id has come to its generation, and does not offer it as its last one. If the
object is destroyed then, its slot goes past the id; without this it need not, which is how a
restored id can come back. -/
structure Expires (table : BoxTable) (id : BoxedId) : Prop where
  inside : (BoxedId.slot id).toNat < table.generations.size
  reached : (BoxedId.generation id).toNat ≤ (table.generationOf (BoxedId.slot id)).toNat
  unoffered : BoxedId.generation id = lastGeneration → BoxedId.slot id ∉ table.free

/-- No generation is beyond the last one. -/
theorem toNat_le_lastGeneration (generation : UInt16) :
    generation.toNat ≤ lastGeneration.toNat := by
  have hlt := generation.toNat_lt
  simp only [lastGeneration, UInt16.reduceToNat]
  omega

section Slots

variable {table after : BoxTable} {id other : BoxedId} {raw : UInt64} {type : HandleType}
  {slot : UInt32}

/-- Only the slots matter, and fewer of them may be free. -/
theorem Expired.congr (h : Expired table id) (hgenerations : after.generations = table.generations)
    (hsubset : after.free ⊆ table.free) : Expired after id where
  inside := by
    rw [hgenerations]
    exact h.inside
  past := by
    rw [generationOf, hgenerations]
    exact h.past.imp_right fun hclosed => ⟨hclosed.1, fun hmem => hclosed.2 (hsubset hmem)⟩

/-- A slot may be added, and it is not the id's own. -/
theorem Expired.push (h : Expired table id) (hroom : table.generations.size < slotLimit) :
    Expired { table with generations := table.generations.push 0 } id ∧
      BoxedId.slot id ≠ UInt32.ofNat table.generations.size := by
  refine ⟨⟨?_, ?_⟩, fun hslot => ?_⟩
  · rw [Array.size_push]
    exact Nat.lt_succ_of_lt h.inside
  · rw [generationOf_push h.inside]
    exact h.past
  · have hinside := h.inside
    rw [hslot, UInt32.toNat_ofNat_of_lt' hroom] at hinside
    exact Nat.lt_irrefl _ hinside

/-- The generation of a slot may rise, if the slot was past the id before. -/
theorem Expired.advance (h : Expired table id) {generation : UInt16}
    (hle : (table.generationOf slot).toNat ≤ generation.toNat)
    (hpast : BoxedId.slot id = slot →
      (BoxedId.generation id).toNat < (table.generationOf slot).toNat) :
    Expired (table.setGeneration slot generation) id where
  inside := by
    rw [setGeneration, Array.size_setIfInBounds]
    exact h.inside
  past := by
    by_cases hslot : BoxedId.slot id = slot
    · have hinside := h.inside
      rw [hslot] at hinside ⊢
      rw [generationOf_setGeneration_self hinside]
      exact Or.inl (Nat.lt_of_lt_of_le (hpast hslot) hle)
    · rw [generationOf_setGeneration_of_ne hslot]
      exact h.past

/-- A slot that is past an id, if it is the id's own, is searched without finding the id. -/
theorem Expired.claim (raw : UInt64) (type : HandleType) (h : Expired table id)
    (hpast : BoxedId.slot id = slot →
      (BoxedId.generation id).toNat < (table.generationOf slot).toNat) :
    Expired (table.claimSlot raw type slot).2 id ∧
      (table.claimSlot raw type slot).1 ≠ some id := by
  cases hfst : (table.claimSlot raw type slot).1 with
  | none =>
      refine ⟨?_, fun hfound => by cases hfound⟩
      rw [claimSlot_eq_none hfst]
      exact h.advance (toNat_le_lastGeneration _) hpast
  | some fresh =>
      obtain ⟨generation, hle, rfl, hsnd⟩ := claimSlot_eq_some hfst
      rw [hsnd]
      refine ⟨h.advance hle hpast, fun hfound => ?_⟩
      have hcompose := Option.some.inj hfound
      have hlt := hpast (by rw [← hcompose, BoxedId.slot_compose])
      rw [← hcompose, BoxedId.generation_compose] at hlt
      omega

/-- A free slot is past the id, if it is the id's own. -/
theorem Expired.pop (h : Expired table id) {free : List UInt32}
    (hfree : table.free = slot :: free) :
    Expired { table with free } id ∧ (BoxedId.slot id = slot →
      (BoxedId.generation id).toNat < (table.generationOf slot).toNat) := by
  refine ⟨h.congr rfl (hfree ▸ List.subset_cons_self slot free), fun hslot => ?_⟩
  rcases h.past with hpast | ⟨-, hclosed⟩
  · rwa [hslot] at hpast
  · rw [hslot, hfree] at hclosed
    exact absurd List.mem_cons_self hclosed

/-- The search for a fresh id leaves the slot past the id and finds another one. -/
theorem Expired.freshId (raw : UInt64) (type : HandleType) (h : Expired table id) :
    Expired (stateOf (freshId raw type table)) id ∧
      ∀ after, freshId raw type table ≠ .ok id after := by
  -- A slot that is claimed gives another id; one that is retired leaves the search as it was.
  fun_induction BoxTable.freshId raw type table with
  | case1 table slot free hfree claim fresh hfst =>
      obtain ⟨hpopped, hpast⟩ := h.pop hfree
      obtain ⟨hexpired, hne⟩ := hpopped.claim raw type hpast
      refine ⟨hexpired, fun after hsame => ?_⟩
      cases hsame
      exact hne hfst
  | case2 table slot free hfree claim hretired ih =>
      obtain ⟨hpopped, hpast⟩ := h.pop hfree
      exact ih (hpopped.claim raw type hpast).1
  | case3 table hfree slot hroom extended claim fresh hfst =>
      obtain ⟨hpushed, hother⟩ := h.push hroom
      obtain ⟨hexpired, hne⟩ := hpushed.claim raw type fun hsame => absurd hsame hother
      refine ⟨hexpired, fun after hsame => ?_⟩
      cases hsame
      exact hne hfst
  | case4 table hfree slot hroom extended claim hretired ih =>
      obtain ⟨hpushed, hother⟩ := h.push hroom
      exact ih (hpushed.claim raw type fun hsame => absurd hsame hother).1
  | case5 table hfree slot hroom => exact ⟨h, fun after hsame => by cases hsame⟩

end Slots

/-! ### Destroying objects -/

section Destroy

variable {table after : BoxTable} {id other : BoxedId} {raw : UInt64} {preserve : Bool}

/-- The slot of an id is freed for its next generation if it is in the generation of the id and has
a next one; otherwise it is left alone. -/
theorem recycle_cases (table : BoxTable) (id : BoxedId) :
    ((BoxedId.slot id).toNat < table.generations.size ∧
        table.generationOf (BoxedId.slot id) = BoxedId.generation id ∧
        (BoxedId.generation id + 1).toNat = (BoxedId.generation id).toNat + 1 ∧
        table.recycle id = { table.setGeneration (BoxedId.slot id) (BoxedId.generation id + 1) with
          free := BoxedId.slot id :: table.free }) ∨
      (table.recycle id = table ∧ ((BoxedId.slot id).toNat < table.generations.size →
        table.generationOf (BoxedId.slot id) = BoxedId.generation id →
          BoxedId.generation id = lastGeneration)) := by
  unfold recycle
  dsimp only
  split
  -- The slot does not exist.
  · next hget =>
      refine Or.inr ⟨rfl, fun hinside => ?_⟩
      rw [Array.getElem?_eq_none_iff] at hget
      omega
  · next current hused =>
      have hinside := (Array.getElem?_eq_some_iff.mp hused).1
      have hgenerationOf : table.generationOf (BoxedId.slot id) = current := by
        rw [generationOf, hused, Option.getD_some]
      split
      -- The slot is in the generation of the id, which is not the last one.
      · next hcondition =>
          obtain ⟨rfl, hroom⟩ := hcondition
          have hlt := UInt16.lt_iff_toNat_lt.mp hroom
          simp only [lastGeneration, UInt16.reduceToNat] at hlt
          refine Or.inl ⟨hinside, hgenerationOf, ?_, rfl⟩
          rw [UInt16.toNat_add, UInt16.toNat_one]
          omega
      · next hcondition =>
          refine Or.inr ⟨rfl, fun _ hsame => ?_⟩
          have hnlt : ¬ current < lastGeneration :=
            fun hroom => hcondition ⟨hgenerationOf.symm.trans hsame, hroom⟩
          rw [UInt16.lt_iff_toNat_lt] at hnlt
          rw [← hsame, hgenerationOf]
          exact UInt16.toNat_inj.mp
            (Nat.le_antisymm (toNat_le_lastGeneration current) (Nat.le_of_not_lt hnlt))

/-- A slot that is past an id stays so when an object leaves its own slot. -/
theorem Expired.recycle (h : Expired table id) (other : BoxedId) :
    Expired (table.recycle other) id := by
  rcases recycle_cases table other with ⟨hinside, hgenerationOf, htoNat, hrecycle⟩ | ⟨hleft, -⟩
  -- A slot that is released is not in its last generation, so an id that has expired there is of an
  -- earlier one.
  · have hpast (hslot : BoxedId.slot id = BoxedId.slot other) : (BoxedId.generation id).toNat
        < (table.generationOf (BoxedId.slot other)).toNat := by
      rcases h.past with hpast | ⟨hlast, -⟩
      · rwa [hslot] at hpast
      · rw [hslot, hgenerationOf] at hlast
        rw [hlast] at htoNat
        exact absurd htoNat (by decide)
    have hle : (table.generationOf (BoxedId.slot other)).toNat
        ≤ (BoxedId.generation other + 1).toNat := by
      rw [hgenerationOf, htoNat]
      exact Nat.le_succ _
    have hrisen := h.advance hle hpast
    rw [hrecycle]
    refine ⟨hrisen.inside, ?_⟩
    by_cases hslot : BoxedId.slot id = BoxedId.slot other
    · left
      rw [hslot]
      have hraised := congrArg UInt16.toNat
        (generationOf_setGeneration_self hinside (BoxedId.generation other + 1))
      exact Nat.lt_of_lt_of_le (hpast hslot) (Nat.le_trans hle (Nat.le_of_eq hraised.symm))
    · exact hrisen.past.imp_right fun hclosed =>
        ⟨hclosed.1, fun hmem => (List.mem_cons.mp hmem).elim hslot hclosed.2⟩
  · rw [hleft]
    exact h

/-- An object that is destroyed leaves the entries, and its slot is freed if it may be. -/
theorem exists_recycle_of_destroy (hne : id ≠ 0)
    (h : destroy id preserve table = .ok raw after) :
    ∃ preserved, after = { (table.remove id).recycle id with preserved } := by
  rw [destroy, if_neg hne] at h
  split at h
  · cases h
  · cases h
    cases preserve with
    | false => exact ⟨_, rfl⟩
    | true => exact ⟨_, rfl⟩

/-- Destroying an object uses its id up, if the slot has come to its generation. -/
theorem Expires.destroy (h : Expires table id) (hne : id ≠ 0)
    (hdestroy : destroy id preserve table = .ok raw after) : Expired after id := by
  obtain ⟨preserved, rfl⟩ := exists_recycle_of_destroy hne hdestroy
  suffices Expired ((table.remove id).recycle id) id from this.congr rfl (List.Subset.refl _)
  rcases recycle_cases (table.remove id) id with ⟨hinside, -, htoNat, hrecycle⟩ | ⟨hleft, hkept⟩
  · rw [hrecycle]
    refine ⟨?_, Or.inl ?_⟩
    · rw [setGeneration, Array.size_setIfInBounds]
      exact hinside
    · refine Nat.lt_of_lt_of_eq ?_
        (congrArg UInt16.toNat (generationOf_setGeneration_self hinside _)).symm
      rw [htoNat]
      exact Nat.lt_succ_self _
  · rw [hleft]
    refine ⟨h.inside, ?_⟩
    rcases Nat.lt_or_eq_of_le h.reached with hpast | hsame
    · exact Or.inl hpast
    · have hgenerationOf := (UInt16.toNat_inj.mp hsame).symm
      have hgeneration := hkept h.inside hgenerationOf
      exact Or.inr ⟨hgenerationOf.trans hgeneration, h.unoffered hgeneration⟩

/-- A slot that is past an id stays so when objects are destroyed. -/
theorem Expired.destroy (h : Expired table id) (other : BoxedId) (preserve : Bool) :
    Expired (stateOf (destroy other preserve table)) id := by
  by_cases heq : other = 0
  · subst heq
    exact h
  · cases hdestroy : BoxTable.destroy other preserve table with
    | ok raw after =>
        obtain ⟨preserved, rfl⟩ := exists_recycle_of_destroy heq hdestroy
        have hexpired : Expired (table.remove other) id := h.congr rfl (List.Subset.refl _)
        exact (hexpired.recycle other).congr rfl (List.Subset.refl _)
    | error cause after =>
        obtain rfl := destroy_eq_error hdestroy
        exact h

/-- What holds of a table whatever object is destroyed holds of it when several are. -/
theorem destroyAll_induction {P : BoxTable → Prop}
    (hstep : ∀ (table : BoxTable) (id : BoxedId), P table → P (stateOf (destroy id true table)))
    (ids : List BoxedId) {table : BoxTable} (h : P table) : P (stateOf (destroyAll ids table)) := by
  induction ids generalizing table with
  | nil => exact h
  | cons id rest ih =>
      have hfirst := hstep table id h
      rw [destroyAll]
      cases hdestroy : BoxTable.destroy id true table with
      | ok raw after =>
          rw [hdestroy] at hfirst
          rw [bind_of_ok hdestroy]
          exact ih hfirst
      | error cause after =>
          rw [hdestroy] at hfirst
          rwa [bind_of_error hdestroy]

/-- An id that has expired stays so while objects are destroyed. -/
theorem Expired.destroyAll (h : Expired table id) (ids : List BoxedId) :
    Expired (stateOf (destroyAll ids table)) id :=
  destroyAll_induction (P := (Expired · id))
    (fun _ other hexpired => hexpired.destroy other true) ids h

/-- Destroying objects leaves the reservations alone. -/
theorem reserved_destroy (other : BoxedId) (preserve : Bool) (table : BoxTable) :
    (stateOf (BoxTable.destroy other preserve table)).reserved = table.reserved := by
  by_cases heq : other = 0
  · subst heq
    rfl
  · cases hdestroy : BoxTable.destroy other preserve table with
    | ok raw after =>
        obtain ⟨preserved, rfl⟩ := exists_recycle_of_destroy heq hdestroy
        change ((table.remove other).recycle other).reserved = table.reserved
        rcases recycle_cases (table.remove other) other with ⟨-, -, -, hrecycle⟩ | ⟨hleft, -⟩
        · rw [hrecycle]
          rfl
        · rw [hleft]
          rfl
    | error cause after =>
        obtain rfl := destroy_eq_error hdestroy
        rfl

end Destroy

/-! ### Taking a reserved id -/

section Reserved

variable {table after : BoxTable} {id : BoxedId} {raw : UInt64} {type : HandleType}

/-- The reservations from the first one on that an object can take. Those in front of it are dropped
for good. -/
def usableFrom (table : BoxTable) (raw : UInt64) : List BoxedId :=
  table.reserved.dropWhile fun id => !table.isUsable raw id

/-- A new object takes the first id reserved that it can take, and those in front are given up. -/
theorem create_of_usable {rest : List BoxedId} (h : table.usableFrom raw = id :: rest) :
    create raw type table = .ok id ({ table with reserved := rest }.insert ⟨id, raw, type⟩) := by
  have htakeReserved : takeReserved raw table = .ok (some id) { table with reserved := rest } := by
    rw [usableFrom] at h
    rw [takeReserved, h]
  rw [create, bind_of_ok htakeReserved]
  rfl

/-- If there is none, all are given up. -/
theorem create_of_unusable (h : table.usableFrom raw = []) :
    create raw type table = create raw type { table with reserved := [] } := by
  have htakeReserved : takeReserved raw table = .ok none { table with reserved := [] } := by
    rw [usableFrom] at h
    rw [takeReserved, h]
  have hnone : takeReserved raw { table with reserved := [] }
      = .ok none { table with reserved := [] } := rfl
  rw [create, bind_of_ok htakeReserved, bind_of_ok hnone]

/-- Claiming a slot takes no reserved id. -/
theorem reserved_claimSlot (slot : UInt32) :
    (table.claimSlot raw type slot).2.reserved = table.reserved := by
  simp only [claimSlot]
  split <;> rfl

/-- The search for a fresh id leaves the reservations alone. -/
theorem reserved_freshId (raw : UInt64) (type : HandleType) (table : BoxTable) :
    (stateOf (freshId raw type table)).reserved = table.reserved := by
  fun_induction freshId raw type table with
  | case1 table slot free hfree claim id hfst => exact reserved_claimSlot slot
  | case2 table slot free hfree claim hretired ih => exact ih.trans (reserved_claimSlot slot)
  | case3 table hfree slot hroom extended claim id hfst => exact reserved_claimSlot _
  | case4 table hfree slot hroom extended claim hretired ih => exact ih.trans (reserved_claimSlot _)
  | case5 table hfree slot hroom => rfl

/-- A new object takes a reserved id, or else one that the search finds. -/
theorem create_cases (raw : UInt64) (type : HandleType) (table : BoxTable) :
    (∃ id rest, table.usableFrom raw = id :: rest ∧
        create raw type table = .ok id ({ table with reserved := rest }.insert ⟨id, raw, type⟩)) ∨
      (table.usableFrom raw = [] ∧
        create raw type table
          = match freshId raw type { table with reserved := [] } with
            | .ok id after => .ok id (after.insert ⟨id, raw, type⟩)
            | .error cause after => .error cause after) := by
  cases husableFrom : table.usableFrom raw with
  | cons id rest => exact Or.inl ⟨id, rest, rfl, create_of_usable husableFrom⟩
  | nil => exact Or.inr ⟨rfl, (create_of_unusable husableFrom).trans (create_of_unreserved rfl)⟩

/-- Where no reserved id can be taken, none is left behind the attempt to enter an object. -/
theorem reserved_create_of_unusable (h : table.usableFrom raw = []) :
    (stateOf (create raw type table)).reserved = [] := by
  rw [create_of_unusable h, create_of_unreserved rfl]
  have hreserved := reserved_freshId raw type { table with reserved := [] }
  cases hfreshId : freshId raw type { table with reserved := [] } <;>
    rw [hfreshId] at hreserved <;> exact hreserved

/-- Entering an object leaves a slot past the id. -/
theorem Expired.create (raw : UInt64) (type : HandleType) (h : Expired table id) :
    Expired (stateOf (create raw type table)) id := by
  rcases create_cases raw type table with ⟨other, rest, -, hcreate⟩ | ⟨-, hcreate⟩
  · rw [hcreate]
    exact h.congr rfl (List.Subset.refl _)
  · have hunreserved : Expired { table with reserved := [] } id := h.congr rfl (List.Subset.refl _)
    have hexpired := (hunreserved.freshId raw type).1
    rw [hcreate]
    cases hfreshId : BoxTable.freshId raw type { table with reserved := [] } with
    | ok fresh reached =>
        rw [hfreshId] at hexpired
        exact hexpired.congr rfl (List.Subset.refl _)
    | error cause reached =>
        rw [hfreshId] at hexpired
        exact hexpired

end Reserved

/-! ### Ids that are not given again -/

section Barred

variable {table after : BoxTable} {id : BoxedId} {raw : UInt64} {type : HandleType}

/-- No slot gives the id: it has the tag of no type, or its slot is past it. Reservations may still
give it, so a barred id comes back only if it is reserved. -/
def Barred (table : BoxTable) (id : BoxedId) : Prop :=
  (∃ type : HandleType, BoxedId.tag id = type.tag) → Expired table id

/-- A fresh id tells the type of its object. -/
theorem tag_of_freshId (h : freshId raw type table = .ok id after) :
    BoxedId.tag id = type.tag := by
  have htagged {table : BoxTable} {slot : UInt32}
      (hfst : (table.claimSlot raw type slot).1 = some id) : BoxedId.tag id = type.tag := by
    obtain ⟨generation, -, rfl, -⟩ := claimSlot_eq_some hfst
    exact BoxedId.tag_compose slot generation type
  fun_induction freshId raw type table with
  | case1 table slot free hfree claim fresh hfound =>
      cases h
      exact htagged hfound
  | case2 table slot free hfree claim hretired ih => exact ih h
  | case3 table hfree slot hroom extended claim fresh hfound =>
      cases h
      exact htagged hfound
  | case4 table hfree slot hroom extended claim hretired ih => exact ih h
  | case5 table hfree slot hroom => cases h

/-- An id that no slot gives is given to a new object only if it was reserved. -/
theorem Barred.create_ne (h : Barred table id) (hunreserved : id ∉ table.reserved) :
    create raw type table ≠ .ok id after := by
  intro hcreate
  rcases create_cases raw type table with ⟨other, rest, husableFrom, hmade⟩ | ⟨-, hmade⟩
  · cases hmade.symm.trans hcreate
    have hmem : id ∈ table.usableFrom raw := husableFrom ▸ List.mem_cons_self
    exact hunreserved (List.dropWhile_subset _ hmem)
  · rw [hmade] at hcreate
    cases hfreshId : freshId raw type { table with reserved := [] } with
    | ok fresh reached =>
        rw [hfreshId] at hcreate
        cases hcreate
        have hexpired : Expired { table with reserved := [] } id :=
          (h ⟨type, tag_of_freshId hfreshId⟩).congr rfl (List.Subset.refl _)
        exact (hexpired.freshId raw type).2 reached hfreshId
    | error cause reached =>
        rw [hfreshId] at hcreate
        cases hcreate

end Barred

end BoxTable

end CallStream
