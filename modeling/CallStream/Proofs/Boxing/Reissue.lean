import CallStream.Proofs.Boxing.Restored

/-!
# Ids that come back

A slot is never lost before its last generation: it is free, or an object is in it under its current
generation, whose destruction frees it for the next one (`Settled`). So a slot can be brought to any
later generation by entering and destroying objects. If the object of an id is destroyed before its
slot has come to the generation of the id, nothing records it, and the slot still gives the id when
it gets there.

## Main results

* `accounted_run`: every run leaves every slot settled.
* `Offers.reissued`: a dead id whose slot is free, and has not passed it, can be given again.
* `reissued_of_destroy`: so can a destroyed id, unless destroying its object used it up.
* `restored_once_of_run`: a restored id that was destroyed is given again or not, according to
  whether its slot had come to it.
-/

namespace CallStream

namespace BoxedId

/-- An id is made of its parts. -/
theorem eq_compose {id : BoxedId} {type : HandleType} (htagged : tag id = type.tag) :
    id = compose (slot id) (generation id) type := by
  apply UInt64.toNat_inj.mp
  have hlt := id.toNat_lt
  rw [toNat_compose, ← htagged]
  simp only [slot, generation, tag, UInt32.toNat_ofNat', UInt16.toNat_ofNat', UInt32.size,
    UInt16.size]
  omega

end BoxedId

namespace BoxTable

/-! ### Every slot can move on -/

/-- A slot is free, at its last generation, or in use under the generation that it is in. A settled
slot is not lost: it is given out again, now or when its object is destroyed, or it has come to its
end. -/
def Settled (table : BoxTable) (slot : UInt32) : Prop :=
  slot ∈ table.free ∨ table.generationOf slot = lastGeneration ∨
    ∃ entry ∈ table.entries,
      BoxedId.slot entry.boxed = slot ∧ BoxedId.generation entry.boxed = table.generationOf slot

/-- Every slot of a table is settled. A table stays so, hence destroying an object really frees its
slot, unless the slot is at its end. -/
def Accounted (table : BoxTable) : Prop :=
  ∀ slot : UInt32, slot.toNat < table.generations.size → table.Settled slot

section Accounted

variable {table after : BoxTable} {id : BoxedId} {raw : UInt64} {type : HandleType} {slot : UInt32}

/-- Whether a slot is settled depends on the objects, on its generation, and on whether it is
free. -/
theorem Settled.congr (h : Settled table slot) (hentries : after.entries = table.entries)
    (hgenerationOf : after.generationOf slot = table.generationOf slot)
    (hfree : slot ∈ table.free → slot ∈ after.free) : Settled after slot := by
  rw [Settled, hgenerationOf, hentries]
  exact h.imp_left hfree

/-- An object more leaves a slot settled. -/
theorem Settled.insert (h : Settled table slot) (entry : BoxedEntry) :
    Settled (table.insert entry) slot :=
  h.imp_right (Or.imp_right fun ⟨old, hmem, hsame⟩ => ⟨old, List.mem_cons_of_mem _ hmem, hsame⟩)

/-- Whether all slots are accounted for depends on the objects, the generations and the free
slots. -/
theorem Accounted.congr (h : Accounted table) (hentries : after.entries = table.entries)
    (hgenerations : after.generations = table.generations) (hfree : after.free = table.free) :
    Accounted after := by
  intro slot hinside
  rw [hgenerations] at hinside
  refine (h slot hinside).congr hentries ?_ fun hmem => hfree ▸ hmem
  rw [generationOf, generationOf, hgenerations]

/-- One slot is searched for an id while all others are settled. The search takes a slot off the
free ones before it knows whether the slot has an id left. -/
structure Sought (table : BoxTable) (slot : UInt32) : Prop where
  inside : slot.toNat < table.generations.size
  others : ∀ other : UInt32, other ≠ slot → other.toNat < table.generations.size →
    table.Settled other

/-- Taking a slot off the free ones unsettles no other. -/
theorem Accounted.pop (h : Accounted table)
    (hexist : ∀ slot ∈ table.free, slot.toNat < table.generations.size)
    {free : List UInt32} (hfree : table.free = slot :: free) : Sought { table with free } slot where
  inside := hexist slot (hfree ▸ List.mem_cons_self)
  others other hne hexist :=
    (h other hexist).congr rfl rfl fun hmem => (List.mem_cons.mp (hfree ▸ hmem)).resolve_left hne

/-- Adding a slot unsettles no other. -/
theorem Accounted.push (h : Accounted table) (hroom : table.generations.size < slotLimit) :
    Sought { table with generations := table.generations.push 0 }
      (UInt32.ofNat table.generations.size) where
  inside := by
    rw [UInt32.toNat_ofNat_of_lt' hroom, Array.size_push]
    exact Nat.lt_succ_self _
  others other hne hlt := by
    have hapart : other.toNat ≠ table.generations.size := fun htoNat => by
      rw [← htoNat, UInt32.ofNat_toNat] at hne
      exact hne rfl
    rw [Array.size_push] at hlt
    have hold : other.toNat < table.generations.size := by omega
    exact (h other hold).congr rfl (generationOf_push hold 0) fun hmem => hmem

/-- The other slots are settled whatever generation the slot comes to. -/
theorem Sought.spared (h : Sought table slot) (generation : UInt16) {other : UInt32}
    (hne : other ≠ slot)
    (hlt : other.toNat < (table.setGeneration slot generation).generations.size) :
    (table.setGeneration slot generation).Settled other := by
  rw [setGeneration, Array.size_setIfInBounds] at hlt
  exact (h.others other hne hlt).congr rfl
    (generationOf_setGeneration_of_ne hne generation) fun hmem => hmem

/-- A slot that gives an id is in use afterwards. -/
theorem Sought.claim_some (h : Sought table slot)
    (hfst : (table.claimSlot raw type slot).1 = some id) :
    Accounted ((table.claimSlot raw type slot).2.insert ⟨id, raw, type⟩) := by
  obtain ⟨generation, -, rfl, hchanged⟩ := claimSlot_eq_some hfst
  rw [hchanged]
  intro other hlt
  by_cases heq : other = slot
  · subst heq
    refine Or.inr (Or.inr ⟨_, List.mem_cons_self, BoxedId.slot_compose .., ?_⟩)
    exact (BoxedId.generation_compose ..).trans
      (generationOf_setGeneration_self h.inside generation).symm
  · exact (h.spared generation heq hlt).insert _

/-- A slot that gives no id is at its last generation afterwards. -/
theorem Sought.claim_none (h : Sought table slot)
    (hretired : (table.claimSlot raw type slot).1 = none) :
    Accounted (table.claimSlot raw type slot).2 := by
  rw [claimSlot_eq_none hretired]
  intro other hlt
  by_cases heq : other = slot
  · subst heq
    exact Or.inr (Or.inl (generationOf_setGeneration_self h.inside lastGeneration))
  · exact h.spared lastGeneration heq hlt

/-- The search for a fresh id leaves every slot settled, once the object is entered. -/
theorem Accounted.freshId (raw : UInt64) (type : HandleType) (h : Accounted table)
    (hexist : ∀ slot ∈ table.free, slot.toNat < table.generations.size) :
    match freshId raw type table with
    | .ok id after => Accounted (after.insert ⟨id, raw, type⟩)
    | .error _ after => Accounted after := by
  fun_induction BoxTable.freshId raw type table with
  | case1 table slot free hfree claim fresh hfst => exact (h.pop hexist hfree).claim_some hfst
  | case2 table slot free hfree claim hretired ih =>
      have hsameObjects : SameObjects table claim.2 :=
        (sameObjects_pop hfree).trans (sameObjects_claimSlot slot)
      exact ih ((h.pop hexist hfree).claim_none hretired) (hsameObjects.free_lt hexist)
  | case3 table hfree slot hroom extended claim fresh hfst => exact (h.push hroom).claim_some hfst
  | case4 table hfree slot hroom extended claim hretired ih =>
      have hsameObjects : SameObjects table claim.2 :=
        (sameObjects_push 0).trans (sameObjects_claimSlot _)
      exact ih ((h.push hroom).claim_none hretired) (hsameObjects.free_lt hexist)
  | case5 table hfree slot hroom => exact h

/-- Entering an object leaves every slot settled. -/
theorem Accounted.create (raw : UInt64) (type : HandleType) (h : Accounted table)
    (hsound : table.Sound) : Accounted (stateOf (create raw type table)) := by
  rcases create_cases raw type table with ⟨id, rest, -, hcreate⟩ | ⟨-, hcreate⟩
  · rw [hcreate]
    exact fun slot hinside => (h slot hinside).insert _
  · have hunreserved : Accounted { table with reserved := [] } := h.congr rfl rfl rfl
    have hsearched := hunreserved.freshId raw type hsound.free_lt
    rw [hcreate]
    cases hfreshId : BoxTable.freshId raw type { table with reserved := [] } <;>
      rw [hfreshId] at hsearched <;> exact hsearched

/-- Destroying an object leaves every slot settled: if it was in use under its current generation,
it is freed, unless that is its last one. -/
theorem Accounted.destroy (h : Accounted table) (id : BoxedId) (preserve : Bool) :
    Accounted (stateOf (destroy id preserve table)) := by
  by_cases heq : id = 0
  · subst heq
    exact h
  cases hdestroy : BoxTable.destroy id preserve table with
  | error cause after =>
      obtain rfl := destroy_eq_error hdestroy
      exact h
  | ok raw after =>
      obtain ⟨preserved, rfl⟩ := exists_recycle_of_destroy heq hdestroy
      suffices Accounted ((table.remove id).recycle id) from this.congr rfl rfl rfl
      -- An object that stays settles its slot as before.
      have hkept {slot : UInt32} (hinside : slot.toNat < table.generations.size)
          (hother : BoxedId.slot id ≠ slot ∨ BoxedId.generation id ≠ table.generationOf slot) :
          (table.remove id).Settled slot := by
        refine (h slot hinside).imp_right (Or.imp_right fun ⟨entry, hmem, hown, hcurrent⟩ =>
          ⟨entry, List.mem_filter.mpr ⟨hmem, bne_iff_ne.mpr fun hsame => ?_⟩, hown, hcurrent⟩)
        rw [hsame] at hown hcurrent
        exact hother.elim (absurd hown) (absurd hcurrent)
      rcases recycle_cases (table.remove id) id with ⟨hinside, hgenerationOf, htoNat, hrecycle⟩ |
        ⟨hleft, hlast⟩
      · rw [hrecycle]
        intro slot hlt
        rw [setGeneration, Array.size_setIfInBounds] at hlt
        -- The slot of the object becomes free, and other slots are left as they were.
        by_cases hown : slot = BoxedId.slot id
        · exact Or.inl (hown ▸ List.mem_cons_self)
        · exact (hkept hlt (Or.inl (Ne.symm hown))).congr rfl
            (generationOf_setGeneration_of_ne hown _) (List.mem_cons_of_mem _)
      · rw [hleft]
        intro slot hlt
        by_cases hsame : BoxedId.slot id = slot ∧ BoxedId.generation id = table.generationOf slot
        · obtain ⟨rfl, hcurrent⟩ := hsame
          exact Or.inr (Or.inl (hcurrent.symm.trans (hlast hlt hcurrent.symm)))
        · exact hkept hlt (not_and_or.mp hsame)

end Accounted

/-! ### Coming to a generation -/

/-- A dead id is not reserved, and its slot has not passed it. So the id lies ahead of its slot, and
entering enough objects gives it out. -/
structure Ahead (table : BoxTable) (id : BoxedId) : Prop where
  nonzero : id ≠ 0
  dead : table.find? id = none
  unreserved : table.reserved = []
  reached : (table.generationOf (BoxedId.slot id)).toNat ≤ (BoxedId.generation id).toNat

/-- Its slot is free, moreover, or yet to be added. Then the search for fresh ids comes to that
slot. -/
structure Offers (table : BoxTable) (id : BoxedId) : Prop extends Ahead table id where
  free : (BoxedId.slot id).toNat < table.generations.size → BoxedId.slot id ∈ table.free

/-- How many slots are searched before the one of an id, at most: the free ones, and the new ones up
to its own. Every slot that is searched lowers this number. -/
def distance (table : BoxTable) (id : BoxedId) : Nat :=
  (BoxedId.slot id).toNat + 1 - table.generations.size + table.free.length

/-- The slot of the id is as it was, and nearer. -/
structure Nearer (table after : BoxTable) (id : BoxedId) : Prop where
  same : after.generationOf (BoxedId.slot id) = table.generationOf (BoxedId.slot id)
  lt : distance after id < distance table id

/-- A slot is searched next, which may be the one of the id. If it is another one, the slot of the
id has come nearer. -/
structure Turn (table searched : BoxTable) (id : BoxedId) (slot : UInt32) : Prop
    extends Ahead searched id, Nearer table searched id where
  inside : slot.toNat < searched.generations.size
  other : BoxedId.slot id ≠ slot → Offers searched id

/-- What a search gives: an id in the slot of the id ahead, which is not passed by it, or an id in
another slot. -/
inductive Approached (table after : BoxTable) (id fresh : BoxedId) : Prop
  | own (hinside : (BoxedId.slot id).toNat < after.generations.size)
      (hslot : BoxedId.slot fresh = BoxedId.slot id)
      (hcurrent : after.generationOf (BoxedId.slot id) = BoxedId.generation fresh)
      (hge : (table.generationOf (BoxedId.slot id)).toNat ≤ (BoxedId.generation fresh).toNat)
      (hle : (BoxedId.generation fresh).toNat ≤ (BoxedId.generation id).toNat)
  | other (hslot : BoxedId.slot fresh ≠ BoxedId.slot id) (hoffers : Offers after id)
      (hnearer : Nearer table after id)

section Search

variable {table after : BoxTable} {id fresh : BoxedId} {raw : UInt64} {type : HandleType}
  {slot : UInt32}

/-- The first usable generation of a slot is not beyond a usable one. -/
theorem usableGeneration?_eq_some {slot : UInt32} {target : UInt16} {tries generation : Nat}
    (husable : table.isUsable raw (.compose slot target type) = true)
    (hle : generation ≤ target.toNat) (hlt : target.toNat < generation + tries) :
    ∃ found, table.usableGeneration? raw type slot tries generation = some found ∧
      found.toNat ≤ target.toNat := by
  induction tries generalizing generation with
  | zero => omega
  | succ tries ih =>
      rw [usableGeneration?]
      split
      · refine ⟨_, rfl, Nat.le_trans ?_ hle⟩
        rw [UInt16.toNat_ofNat']
        exact Nat.mod_le _ _
      · next hunusable =>
          have hne : generation ≠ target.toNat := fun hsame => by
            rw [hsame, UInt16.ofNat_toNat] at hunusable
            exact hunusable husable
          exact ih (by omega) (by omega)

/-- The slot of an id ahead gives that id or one of an earlier generation. -/
theorem Ahead.claimSlot_own (h : Ahead table id) (htagged : BoxedId.tag id = type.tag) :
    ∃ generation : UInt16,
      table.claimSlot 0 type (BoxedId.slot id)
        = (some (.compose (BoxedId.slot id) generation type),
            table.setGeneration (BoxedId.slot id) generation) ∧
      (table.generationOf (BoxedId.slot id)).toNat ≤ generation.toNat ∧
      generation.toNat ≤ (BoxedId.generation id).toNat := by
  have hle := h.reached
  have husable : table.isUsable 0
      (.compose (BoxedId.slot id) (BoxedId.generation id) type) = true := by
    rw [← BoxedId.eq_compose htagged]
    exact isUsable_iff.mpr ⟨h.nonzero, h.nonzero, h.dead⟩
  have hbound := toNat_le_lastGeneration (BoxedId.generation id)
  have hlt : (BoxedId.generation id).toNat < (table.generationOf (BoxedId.slot id)).toNat
      + (lastGeneration.toNat + 1 - (table.generationOf (BoxedId.slot id)).toNat) := by
    omega
  obtain ⟨generation, husableGeneration, hle'⟩ := usableGeneration?_eq_some husable hle hlt
  have hge := le_of_usableGeneration? husableGeneration (by
    simp only [lastGeneration, UInt16.reduceToNat, UInt16.size] at hbound ⊢
    omega)
  exact ⟨generation, by simp only [claimSlot, husableGeneration], hge, hle'⟩

/-- Searching another slot leaves the slot of the id as it is. -/
theorem Offers.claimSlot_other (raw : UInt64) (type : HandleType) (h : Offers table id)
    (hne : BoxedId.slot id ≠ slot) :
    Offers (table.claimSlot raw type slot).2 id ∧
      (table.claimSlot raw type slot).2.generationOf (BoxedId.slot id)
        = table.generationOf (BoxedId.slot id) ∧
      distance (table.claimSlot raw type slot).2 id = distance table id := by
  have hgenerationOf : (table.claimSlot raw type slot).2.generationOf (BoxedId.slot id)
      = table.generationOf (BoxedId.slot id) := by
    simp only [claimSlot]
    split <;> exact generationOf_setGeneration_of_ne hne _
  refine ⟨⟨⟨h.nonzero, ?_, ?_, ?_⟩, ?_⟩, hgenerationOf, ?_⟩
  · exact ((sameObjects_claimSlot slot).find?_eq id).trans h.dead
  · exact (reserved_claimSlot slot).trans h.unreserved
  · rw [hgenerationOf]
    exact h.reached
  · rw [size_generations_claimSlot, free_claimSlot]
    exact h.free
  · rw [distance, distance, size_generations_claimSlot, free_claimSlot]

/-- A free slot is searched. -/
theorem Offers.pop (h : Offers table id)
    (hexist : ∀ slot ∈ table.free, slot.toNat < table.generations.size)
    {free : List UInt32} (hfree : table.free = slot :: free) :
    Turn table { table with free } id slot where
  toAhead := ⟨h.nonzero, h.dead, h.unreserved, h.reached⟩
  same := rfl
  lt := by
    simp only [distance, hfree, List.length_cons]
    omega
  inside := hexist slot (hfree ▸ List.mem_cons_self)
  other hne := by
    refine ⟨⟨h.nonzero, h.dead, h.unreserved, h.reached⟩, fun hinside => ?_⟩
    have hmem := h.free hinside
    rw [hfree] at hmem
    exact (List.mem_cons.mp hmem).resolve_left hne

/-- If no slot is free, the slot of the id is yet to be added. -/
theorem Offers.beyond (h : Offers table id) (hfree : table.free = []) :
    table.generations.size ≤ (BoxedId.slot id).toNat := by
  by_contra hinside
  have hmem := h.free (Nat.lt_of_not_le hinside)
  rw [hfree] at hmem
  exact List.not_mem_nil hmem

/-- A new slot is searched. -/
theorem Offers.push (h : Offers table id) (hfree : table.free = [])
    (hroom : table.generations.size < slotLimit) :
    Turn table { table with generations := table.generations.push 0 } id
      (UInt32.ofNat table.generations.size) := by
  have hle := h.beyond hfree
  -- The slot of the id is not there yet, or just came in with the first generation.
  have hgenerationOf :
      generationOf { table with generations := table.generations.push 0 } (BoxedId.slot id)
        = table.generationOf (BoxedId.slot id) := by
    have hget : table.generations[(BoxedId.slot id).toNat]? = none :=
      Array.getElem?_eq_none_iff.mpr hle
    rw [generationOf, generationOf, Array.getElem?_push, hget]
    split <;> rfl
  have hpushed : Ahead { table with generations := table.generations.push 0 } id :=
    ⟨h.nonzero, h.dead, h.unreserved, hgenerationOf ▸ h.reached⟩
  refine ⟨hpushed, ⟨hgenerationOf, ?_⟩, ?_, fun hne => ⟨hpushed, fun hinside => ?_⟩⟩
  · simp only [distance, Array.size_push]
    omega
  · rw [UInt32.toNat_ofNat_of_lt' hroom, Array.size_push]
    exact Nat.lt_succ_self _
  · rw [Array.size_push] at hinside
    -- Were the id's slot the one that came in, the search would be at it.
    have hsize : table.generations.size = (BoxedId.slot id).toNat := by omega
    rw [hsize, UInt32.ofNat_toNat] at hne
    exact absurd rfl hne

/-- The slot gives an id. -/
theorem Turn.claim_some {searched : BoxTable} (h : Turn table searched id slot)
    (htagged : BoxedId.tag id = type.tag)
    (hfst : (searched.claimSlot 0 type slot).1 = some fresh) :
    Approached table (searched.claimSlot 0 type slot).2 id fresh := by
  by_cases hslot : BoxedId.slot id = slot
  · subst hslot
    obtain ⟨generation, hclaim, hge, hle⟩ := h.claimSlot_own htagged
    rw [hclaim] at hfst ⊢
    cases hfst
    have hinside := h.inside
    refine .own ?_ (BoxedId.slot_compose ..) ?_ ?_ ?_
    · rwa [setGeneration, Array.size_setIfInBounds]
    · rw [generationOf_setGeneration_self hinside, BoxedId.generation_compose]
    · rwa [BoxedId.generation_compose, ← h.same]
    · rwa [BoxedId.generation_compose]
  · obtain ⟨hoffers, hgenerationOf, hdistance⟩ := (h.other hslot).claimSlot_other 0 type hslot
    obtain ⟨generation, -, rfl, -⟩ := claimSlot_eq_some hfst
    refine .other ?_ hoffers ⟨hgenerationOf.trans h.same, hdistance ▸ h.lt⟩
    rw [BoxedId.slot_compose]
    exact Ne.symm hslot

/-- The slot gives no id; then it is not the one of the id. -/
theorem Turn.claim_none {searched : BoxTable} (h : Turn table searched id slot)
    (htagged : BoxedId.tag id = type.tag)
    (hretired : (searched.claimSlot 0 type slot).1 = none) :
    Offers (searched.claimSlot 0 type slot).2 id ∧
      Nearer table (searched.claimSlot 0 type slot).2 id := by
  by_cases hslot : BoxedId.slot id = slot
  · subst hslot
    obtain ⟨generation, hclaim, -⟩ := h.claimSlot_own htagged
    rw [hclaim] at hretired
    cases hretired
  · obtain ⟨hoffers, hgenerationOf, hdistance⟩ := (h.other hslot).claimSlot_other 0 type hslot
    exact ⟨hoffers, hgenerationOf.trans h.same, hdistance ▸ h.lt⟩

/-- A search may start nearer. -/
theorem Approached.widen {middle : BoxTable} (h : Approached middle after id fresh)
    (hnearer : Nearer table middle id) : Approached table after id fresh := by
  cases h with
  | own hinside hslot hcurrent hge hle => exact .own hinside hslot hcurrent (hnearer.same ▸ hge) hle
  | other hslot hoffers hrest =>
      exact .other hslot hoffers ⟨hrest.same.trans hnearer.same, Nat.lt_trans hrest.lt hnearer.lt⟩

/-- A search comes to the slot of an id ahead, or nearer to it. -/
theorem Offers.freshId (h : Offers table id)
    (hexist : ∀ slot ∈ table.free, slot.toNat < table.generations.size)
    (htagged : BoxedId.tag id = type.tag) :
    ∃ fresh after, freshId 0 type table = .ok fresh after ∧ Approached table after id fresh := by
  -- Free slots are looked at first and new ones then. The id that is looked for lies in one of
  -- them, so the search does not come to its end without one.
  fun_induction BoxTable.freshId 0 type table with
  | case1 table slot free hfree claim fresh hfound =>
      exact ⟨fresh, claim.2, rfl, (h.pop hexist hfree).claim_some htagged hfound⟩
  | case2 table slot free hfree claim hretired ih =>
      obtain ⟨hoffers, hnearer⟩ := (h.pop hexist hfree).claim_none htagged hretired
      have hsameObjects : SameObjects table claim.2 :=
        (sameObjects_pop hfree).trans (sameObjects_claimSlot slot)
      obtain ⟨fresh, after, hfreshId, hfound⟩ := ih hoffers (hsameObjects.free_lt hexist)
      exact ⟨fresh, after, hfreshId, hfound.widen hnearer⟩
  | case3 table hfree slot hroom extended claim fresh hfound =>
      exact ⟨fresh, claim.2, rfl, (h.push hfree hroom).claim_some htagged hfound⟩
  | case4 table hfree slot hroom extended claim hretired ih =>
      obtain ⟨hoffers, hnearer⟩ := (h.push hfree hroom).claim_none htagged hretired
      have hsameObjects : SameObjects table claim.2 :=
        (sameObjects_push 0).trans (sameObjects_claimSlot _)
      obtain ⟨fresh, after, hfreshId, hfound⟩ := ih hoffers (hsameObjects.free_lt hexist)
      exact ⟨fresh, after, hfreshId, hfound.widen hnearer⟩
  | case5 table hfree slot hroom =>
      have hlt := (BoxedId.slot id).toNat_lt
      have hle := h.beyond hfree
      simp only [slot, slotLimit, UInt32.size] at hroom
      omega

end Search

/-! ### Giving an id again -/

section Reissue

variable {table after : BoxTable} {id : BoxedId} {raw : UInt64} {type : HandleType}

/-- Operations that reserve nothing can give an id to a new object. -/
def Reissues (table : BoxTable) (id : BoxedId) : Prop :=
  ∃ ops : List TableOp, (∀ op ∈ ops, op.reserves = false) ∧
    ∃ entry ∈ TableOp.enteredFrom table ops, entry.boxed = id

/-- What can be issued behind an operation can be issued in front of it, if the operation reserves
nothing. -/
theorem Reissues.of_apply (op : TableOp) (hquiet : op.reserves = false)
    (h : Reissues (op.apply table) id) : Reissues table id := by
  obtain ⟨ops, hfresh, entry, hmem, hboxed⟩ := h
  exact ⟨op :: ops, List.forall_mem_cons.mpr ⟨hquiet, hfresh⟩, entry,
    List.mem_append_right _ hmem, hboxed⟩

/-- An id that the next new object gets can be issued. -/
theorem Reissues.of_create (h : create raw type table = .ok id after) : Reissues table id := by
  refine ⟨[.create raw type], by simp [TableOp.reserves], ⟨id, raw, type⟩, ?_, rfl⟩
  simp [TableOp.enteredFrom, TableOp.entered, h]

/-- Destroying the object that is in the slot of an id ahead brings the slot to its next
generation. -/
theorem Ahead.destroy (h : Ahead table id) {entry : BoxedEntry}
    (hfind : table.find? entry.boxed = some entry) (hne : entry.boxed ≠ 0)
    (hinside : (BoxedId.slot id).toNat < table.generations.size)
    (hslot : BoxedId.slot entry.boxed = BoxedId.slot id)
    (hcurrent : table.generationOf (BoxedId.slot id) = BoxedId.generation entry.boxed)
    (hlt : (BoxedId.generation entry.boxed).toNat < (BoxedId.generation id).toNat) :
    Offers (stateOf (BoxTable.destroy entry.boxed false table)) id ∧
      ((stateOf (BoxTable.destroy entry.boxed false table)).generationOf (BoxedId.slot id)).toNat
        = (BoxedId.generation entry.boxed).toNat + 1 := by
  have hstateOf : stateOf (BoxTable.destroy entry.boxed false table)
      = (table.remove entry.boxed).recycle entry.boxed := by
    rw [BoxTable.destroy, if_neg hne, hfind]
    rfl
  have hdead : (stateOf (BoxTable.destroy entry.boxed false table)).find? id = none := by
    have hdiffers : id ≠ entry.boxed := fun hsame => by
      rw [← hsame, h.dead] at hfind
      cases hfind
    exact (find?_destroy_of_ne hdiffers).trans h.dead
  have hunreserved := (reserved_destroy entry.boxed false table).trans h.unreserved
  rw [hstateOf] at hdead hunreserved ⊢
  rcases recycle_cases (table.remove entry.boxed) entry.boxed with ⟨-, -, htoNat, hrecycle⟩ |
    ⟨-, hlast⟩
  · rw [hrecycle, hslot] at hdead hunreserved ⊢
    have hgenerationOf : ((table.remove entry.boxed).setGeneration (BoxedId.slot id)
        (BoxedId.generation entry.boxed + 1)).generationOf (BoxedId.slot id)
          = BoxedId.generation entry.boxed + 1 :=
      generationOf_setGeneration_self hinside (BoxedId.generation entry.boxed + 1)
    have hnow := congrArg UInt16.toNat hgenerationOf
    rw [htoNat] at hnow
    exact ⟨⟨⟨h.nonzero, hdead, hunreserved, Nat.le_trans (Nat.le_of_eq hnow) hlt⟩,
      fun _ => List.mem_cons_self⟩, hnow⟩
  -- A slot in its last generation has no later one, and the id is of a later one.
  · rw [hslot] at hlast
    rw [hlast hinside hcurrent] at hlt
    exact absurd hlt (Nat.not_lt_of_le (toNat_le_lastGeneration _))

/-- An object under another id does not keep a slot from being offered. -/
theorem Offers.insert (h : Offers table id) {entry : BoxedEntry} (hne : id ≠ entry.boxed) :
    Offers (table.insert entry) id :=
  ⟨⟨h.nonzero, (find?_insert_of_ne hne).trans h.dead, h.unreserved, h.reached⟩, h.free⟩

/-- An id that is offered can be given again: new objects come nearer to its slot, and in its slot
they are destroyed until the slot is in the generation of the id. -/
theorem Offers.reissued {table : BoxTable} (h : Offers table id) (hsound : table.Sound)
    (htagged : BoxedId.tag id = type.tag) : Reissues table id := by
  obtain ⟨fresh, after, hfreshId, happroached⟩ := h.freshId hsound.free_lt htagged
  have hcreate : BoxTable.create 0 type table = .ok fresh (after.insert ⟨fresh, 0, type⟩) := by
    rw [create_of_unreserved h.unreserved, hfreshId]
  -- A new object gets a fresh id. If it is not the one that is looked for, either it is in the same
  -- slot and an earlier generation, and destroying it brings the slot closer, or it uses up another
  -- slot.
  by_cases hsame : fresh = id
  · exact .of_create (hsame ▸ hcreate)
  have hentered : (after.insert ⟨fresh, 0, type⟩).Sound := hsound.create hcreate
  have hstep : TableOp.apply table (.create 0 type) = after.insert ⟨fresh, 0, type⟩ := by
    rw [TableOp.apply, hcreate]
    rfl
  refine .of_apply (.create 0 type) rfl ?_
  rw [hstep]
  cases happroached with
  | own hinside hslot hcurrent hge hle =>
      have hlt : (BoxedId.generation fresh).toNat < (BoxedId.generation id).toNat := by
        refine Nat.lt_of_le_of_ne hle fun htoNat => hsame ?_
        rw [BoxedId.eq_compose htagged, BoxedId.eq_compose (tag_of_freshId hfreshId), hslot,
          UInt16.toNat_inj.mp htoNat]
      have hfind := find?_create_self hcreate
      have hahead : Ahead (after.insert ⟨fresh, 0, type⟩) id := by
        refine ⟨h.nonzero, (find?_create_of_ne hcreate (Ne.symm hsame)).trans h.dead, ?_, ?_⟩
        · have hreserved := reserved_freshId 0 type table
          rw [hfreshId] at hreserved
          exact hreserved.trans h.unreserved
        · change (after.generationOf _).toNat ≤ _
          rw [hcurrent]
          exact hle
      obtain ⟨hoffers, hnext⟩ :=
        hahead.destroy hfind (hentered.ne_zero _ List.mem_cons_self) hinside hslot
          hcurrent hlt
      refine .of_apply (.destroy fresh false) rfl ?_
      exact hoffers.reissued (TableOp.sound_apply hentered (.destroy fresh false)) htagged
  | other hslot hoffers hnearer =>
      exact (hoffers.insert (Ne.symm hsame)).reissued hentered htagged
termination_by ((BoxedId.generation id).toNat - (table.generationOf (BoxedId.slot id)).toNat,
  distance table id)
decreasing_by
  · have hrisen : ((stateOf (BoxTable.destroy fresh false
        (after.insert ⟨fresh, 0, type⟩))).generationOf (BoxedId.slot id)).toNat
          = (BoxedId.generation fresh).toNat + 1 := hnext
    exact Prod.Lex.left _ _ (by omega)
  · have hsame : (after.insert ⟨fresh, 0, type⟩).generationOf (BoxedId.slot id)
        = table.generationOf (BoxedId.slot id) := hnearer.same
    rw [hsame]
    exact Prod.Lex.right _ hnearer.lt

/-- So can an id whose slot is ahead of it: if the slot is in use, its object is destroyed first. -/
theorem Ahead.reissued (h : Ahead table id) (haccounted : Accounted table) (hsound : table.Sound)
    (htagged : BoxedId.tag id = type.tag)
    (hopen : (BoxedId.slot id).toNat < table.generations.size → BoxedId.slot id ∉ table.free →
      (table.generationOf (BoxedId.slot id)).toNat < (BoxedId.generation id).toNat) :
    Reissues table id := by
  by_cases hoffered : (BoxedId.slot id).toNat < table.generations.size →
      BoxedId.slot id ∈ table.free
  · exact Offers.reissued ⟨h, hoffered⟩ hsound htagged
  · obtain ⟨hinside, hunfree⟩ := Classical.not_imp.mp hoffered
    have hlt := hopen hinside hunfree
    rcases haccounted _ hinside with hmem | hgenerationOf | ⟨entry, hmem', hslot, hcurrent⟩
    · exact absurd hmem hunfree
    · rw [hgenerationOf] at hlt
      exact absurd hlt (Nat.not_lt_of_le (toNat_le_lastGeneration _))
    · rw [← hcurrent] at hlt
      obtain ⟨hoffers, -⟩ := h.destroy (hsound.find?_boxed hmem')
        (hsound.ne_zero entry hmem') hinside hslot
        hcurrent.symm hlt
      exact .of_apply (.destroy entry.boxed false) rfl
        (hoffers.reissued (TableOp.sound_apply hsound (.destroy entry.boxed false)) htagged)

/-- Whether an object can be destroyed does not depend on what is kept of it. -/
theorem exists_destroy_eq_ok {preserve : Bool} (h : destroy id preserve table = .ok raw after)
    (other : Bool) : ∃ after, destroy id other table = .ok raw after := by
  unfold destroy at h ⊢
  split
  · next heq =>
      rw [if_pos heq] at h
      cases h
      exact ⟨_, rfl⟩
  · next hne =>
      rw [if_neg hne] at h
      cases hfind : table.find? id with
      | none =>
          rw [hfind] at h
          cases h
      | some entry =>
          rw [hfind] at h
          cases h
          exact ⟨_, rfl⟩

/-- An id that destroying its object does not use up can be given again. -/
theorem reissued_of_destroy {preserve : Bool} (haccounted : Accounted table) (hsound : table.Sound)
    (hne : id ≠ 0) (htagged : BoxedId.tag id = type.tag) (hnotExpires : ¬ Expires table id)
    (hdestroy : destroy id preserve table = .ok raw after) : Reissues after id := by
  have haccounted' := haccounted.destroy id preserve
  have hsound' := (destroy_spec hsound id preserve).1
  have hfind := ((destroy_eq_ok hne hdestroy).find?_eq id).trans (find?_remove_self table id)
  rw [hdestroy] at haccounted' hsound'
  obtain ⟨preserved, rfl⟩ := exists_recycle_of_destroy hne hdestroy
  rcases recycle_cases (table.remove id) id with ⟨hinside, hgenerationOf, htoNat, -⟩ | ⟨hrecycle, -⟩
  · -- The slot is in the generation of the id, which is not the last one.
    refine absurd ⟨hinside, ?_, fun hgeneration => ?_⟩ hnotExpires
    · exact Nat.le_of_eq (congrArg UInt16.toNat hgenerationOf.symm)
    · rw [hgeneration] at htoNat
      exact absurd htoNat (by decide)
  · rw [hrecycle] at haccounted' hsound' hfind ⊢
    -- The slot does not exist, or its generation is still to come, or it is free in its last one:
    -- this is what it means not to expire.
    have hlate (hinside : (BoxedId.slot id).toNat < table.generations.size) :
        (table.generationOf (BoxedId.slot id)).toNat < (BoxedId.generation id).toNat ∨
          BoxedId.generation id = lastGeneration ∧ BoxedId.slot id ∈ table.free := by
      by_contra hpast
      obtain ⟨hnlt, hunoffered⟩ := not_or.mp hpast
      exact hnotExpires ⟨hinside, Nat.le_of_not_lt hnlt,
        fun hgeneration hmem => hunoffered ⟨hgeneration, hmem⟩⟩
    have hahead : Ahead { table.remove id with preserved, reserved := [] } id := by
      refine ⟨hne, hfind, rfl, ?_⟩
      change (table.generationOf (BoxedId.slot id)).toNat ≤ _
      by_cases hinside : (BoxedId.slot id).toNat < table.generations.size
      · rcases hlate hinside with hlt | ⟨hgeneration, -⟩
        · exact Nat.le_of_lt hlt
        · rw [hgeneration]
          exact toNat_le_lastGeneration _
      · rw [generationOf, Array.getElem?_eq_none_iff.mpr (Nat.le_of_not_lt hinside)]
        exact Nat.zero_le _
    refine .of_apply .clearReservations rfl (hahead.reissued (haccounted'.congr rfl rfl rfl)
      (TableOp.sound_apply hsound' .clearReservations) htagged fun hinside hunfree => ?_)
    exact (hlate hinside).resolve_right fun hoffered => hunfree hoffered.2

end Reissue

end BoxTable

/-! ### Runs -/

namespace TableOp

open BoxTable

section Accounted

variable {table before : BoxTable} {id : BoxedId}

/-- Every operation leaves every slot settled. -/
theorem accounted_apply (h : Accounted table) (hsound : table.Sound) (op : TableOp) :
    Accounted (op.apply table) := by
  cases op with
  | create raw type => exact h.create raw type hsound
  | unwrap other => rwa [apply, stateOf_unwrap]
  | destroy other preserve => exact h.destroy other preserve
  | defer other =>
      rw [apply, defer_eq]
      cases table.resolve other <;> exact h.congr rfl rfl rfl
  | commit =>
      have hemptied : Accounted { table with pending := [] } := h.congr rfl rfl rfl
      exact destroyAll_induction (P := Accounted)
        (fun _ other haccounted => haccounted.destroy other true)
        table.pending hemptied
  | discard | release | reserve ids | clearReservations => exact h.congr rfl rfl rfl

/-- Every run leaves every slot settled. -/
theorem accounted_run (ops : List TableOp) : Accounted (run ops) := by
  have hkept (table : BoxTable) (h : Accounted table) (hsound : table.Sound) :
      Accounted (ops.foldl apply table) := by
    induction ops generalizing table with
    | nil => exact h
    | cons op rest ih => exact ih _ (accounted_apply h hsound op) (sound_apply hsound op)
  exact hkept {} (fun slot hinside => absurd hinside (Nat.not_lt_zero _)) sound_empty

/-- Every slot is settled when an object is removed. -/
theorem accounted_of_removed {op : TableOp} (h : Accounted table) (hsound : table.Sound)
    (hmem : (id, before) ∈ op.removed table) : Accounted before ∧ before.Sound := by
  obtain ⟨start, front, preserve, raw, after, back, hsame, rfl, -, -⟩ := removed_cases hmem
  have hkept : Accounted start ∧ start.Sound := by
    rcases hsame with rfl | rfl
    · exact ⟨h, hsound⟩
    · exact ⟨h.congr rfl rfl rfl, sound_apply hsound .discard⟩
  refine destroyAll_induction (P := fun table => Accounted table ∧ table.Sound) ?_ front hkept
  exact fun table other hkept =>
    ⟨hkept.1.destroy other true, (destroy_spec hkept.2 other true).1⟩

end Accounted

/-- An id that was restored from a snapshot and whose object is destroyed is not given to another
object, and does not resolve, whatever is done next, if its slot had come to its generation when the
object was destroyed, or if it has the tag of no type. If its slot had not, operations that reserve
nothing can give it to another object. -/
theorem restored_once_of_run {front : List TableOp} {op : TableOp} {id : BoxedId}
    {before : BoxTable} (hmem : id ∈ restoredFrom {} front)
    (hgone : (id, before) ∈ op.removed (run front)) :
    (((∃ type : HandleType, BoxedId.tag id = type.tag) → Expires before id) →
      ∀ back, (reservations (front ++ op :: back)).Nodup →
        (∀ entry ∈ enteredFrom (run (front ++ [op])) back, entry.boxed ≠ id) ∧
          (run (front ++ op :: back)).resolve id = .error (.unknownHandle id)) ∧
      ∀ type : HandleType, BoxedId.tag id = type.tag → ¬ Expires before id →
        ∀ preserve, Reissues (stateOf (BoxTable.destroy id preserve before)) id := by
  have hne := ne_zero_of_restored hmem
  have happlied : run (front ++ [op]) = op.apply (run front) := by
    rw [run, List.foldl_append, List.foldl_cons, List.foldl_nil, run]
  refine ⟨fun hexpires back honce => ?stays, fun type htagged hnotExpires preserve => ?again⟩
  case stays =>
    obtain ⟨hused, hfind⟩ := gone_of_removed hne hgone
    rw [← happlied] at hused hfind
    have happend : front ++ op :: back = (front ++ [op]) ++ back := by
      rw [List.append_assoc, List.singleton_append]
    rw [happend] at honce ⊢
    have hgiven : id ∈ restoredFrom {} (front ++ [op]) := by
      rw [restoredFrom_append]
      exact List.mem_append_left _ hmem
    have hothers := ne_of_mem_enteredFrom (fun htagged => hused (hexpires htagged))
      (not_mem_reserved_of_restored honce hgiven)
    refine ⟨hothers, ?_⟩
    -- What is live under the id now was live when it had left, or has entered since. It is neither.
    have hdead : (run (front ++ [op] ++ back)).find? id = none := by
      refine find?_eq_none_iff.mpr fun entry hmem' => ?_
      rw [run, List.foldl_append] at hmem'
      rcases mem_entries_foldl hmem' with hstill | hentered
      · exact find?_eq_none_iff.mp hfind entry hstill
      · exact hothers entry hentered
    rw [resolve, if_neg hne, hdead]
  case again =>
    obtain ⟨haccounted, hsound⟩ := accounted_of_removed (accounted_run front)
      (sound_run front) hgone
    obtain ⟨_, _, _, raw, _, _, -, -, honce, -⟩ := removed_cases hgone
    obtain ⟨after, hdestroy⟩ := exists_destroy_eq_ok honce preserve
    rw [hdestroy]
    exact reissued_of_destroy haccounted hsound hne htagged hnotExpires hdestroy

/-- A buffer is restored into the slot of a fence, under the generation that the slot is in. -/
def restoredBuffer : List TableOp :=
  [create 7 .fence, reserve [BoxedId.compose 0 0 .buffer], create 8 .buffer]

/-- The restored buffer is destroyed when its slot exists, and the next buffer gets another id. -/
theorem restored_once_of_restoredBuffer :
    BoxedId.compose 0 0 .buffer ∈ restoredFrom {} restoredBuffer ∧
      (BoxedId.compose 0 0 .buffer, run restoredBuffer)
        ∈ (destroy (BoxedId.compose 0 0 .buffer) false).removed (run restoredBuffer) ∧
      Expires (run restoredBuffer) (BoxedId.compose 0 0 .buffer) ∧
      (reservations (restoredBuffer
        ++ [destroy (BoxedId.compose 0 0 .buffer) false, create 9 .buffer])).Nodup ∧
      (run (restoredBuffer
        ++ [destroy (BoxedId.compose 0 0 .buffer) false, create 9 .buffer])).resolve
          (BoxedId.compose 0 0 .buffer)
        = .error (.unknownHandle (BoxedId.compose 0 0 .buffer)) := by
  have hnew : BoxTable.claimSlot { generations := #[0] } 7 .fence 0
      = (some (BoxedId.compose 0 0 .fence), { generations := #[0] }) := rfl
  -- The fence makes the slot that the restored id names.
  have hfirst : BoxTable.create 7 .fence {} = .ok (BoxedId.compose 0 0 .fence)
      (BoxTable.insert { generations := #[0] } ⟨BoxedId.compose 0 0 .fence, 7, .fence⟩) :=
    create_of_no_free rfl rfl (by decide) hnew
  let fence : BoxTable :=
    { entries := [⟨BoxedId.compose 0 0 .fence, 7, .fence⟩], generations := #[0] }
  have hqueue : usableFrom (fence.reserve [BoxedId.compose 0 0 .buffer]) 8
      = [BoxedId.compose 0 0 .buffer] := rfl
  have hsecond : BoxTable.create 8 .buffer (fence.reserve [BoxedId.compose 0 0 .buffer])
      = .ok (BoxedId.compose 0 0 .buffer)
          (fence.insert ⟨BoxedId.compose 0 0 .buffer, 8, .buffer⟩) := create_of_usable hqueue
  have hrun : run restoredBuffer = fence.insert ⟨BoxedId.compose 0 0 .buffer, 8, .buffer⟩ := by
    simp only [run, restoredBuffer, List.foldl_cons, List.foldl_nil, apply, hfirst, stateOf]
    exact congrArg stateOf hsecond
  have hmem : BoxedId.compose 0 0 .buffer ∈ restoredFrom {} restoredBuffer := by
    simp only [restoredBuffer, restoredFrom, restored, apply, hfirst, stateOf]
    exact List.mem_cons_self
  have hgone : (BoxedId.compose 0 0 .buffer, run restoredBuffer)
      ∈ (destroy (BoxedId.compose 0 0 .buffer) false).removed (run restoredBuffer) := by
    rw [hrun]
    exact List.mem_cons_self
  -- The slot is there and at the id's generation, so it is past the id once the buffer is gone.
  have hexpires : Expires (run restoredBuffer) (BoxedId.compose 0 0 .buffer) := by
    rw [hrun]
    exact ⟨by decide, by decide, fun hgeneration => absurd hgeneration (by decide)⟩
  have hnodup : (reservations (restoredBuffer
      ++ [destroy (BoxedId.compose 0 0 .buffer) false, create 9 .buffer])).Nodup := by decide
  exact ⟨hmem, hgone, hexpires, hnodup,
    ((restored_once_of_run hmem hgone).1 (fun _ => hexpires) [create 9 .buffer] hnodup).2⟩

/-- A fence is restored into a slot that the table does not have yet. -/
def restoredFence : List TableOp := [reserve [BoxedId.compose 0 0 .fence], create 1 .fence]

/-- No id is reserved that an object was given before. A snapshot that is loaded into a table of its
own is of this kind. -/
def ReservesUnissued (ops : List TableOp) : Prop :=
  ∀ front ids back, ops = front ++ reserve ids :: back →
    ∀ entry ∈ issued front, entry.boxed ∉ ids

/-- Once the fence is destroyed, the first slot that the table adds gives its id to the next fence,
which its old id then stands for. -/
theorem reissued_restoredFence :
    (¬ ∀ (front back : List TableOp) (op : TableOp) (id : BoxedId) (before : BoxTable),
      (reservations (front ++ op :: back)).Nodup → ReservesUnissued (front ++ op :: back) →
        id ∈ restoredFrom {} front → (id, before) ∈ op.removed (run front) →
          ∀ entry ∈ enteredFrom (run (front ++ [op])) back, entry.boxed ≠ id) ∧
      (run (restoredFence
        ++ [destroy (BoxedId.compose 0 0 .fence) false, create 2 .fence])).resolve
          (BoxedId.compose 0 0 .fence) = .ok 2 := by
  -- The slot of the restored fence does not exist, so destroying it leaves an empty table.
  have hempty : run (restoredFence ++ [destroy (BoxedId.compose 0 0 .fence) false]) = {} := rfl
  have hnew : BoxTable.claimSlot { generations := #[0] } 2 .fence 0
      = (some (BoxedId.compose 0 0 .fence), { generations := #[0] }) := rfl
  have hcreate : BoxTable.create 2 .fence {} = .ok (BoxedId.compose 0 0 .fence)
      (BoxTable.insert { generations := #[0] } ⟨BoxedId.compose 0 0 .fence, 2, .fence⟩) :=
    create_of_no_free rfl rfl (by decide) hnew
  have hrun : run (restoredFence
      ++ ([destroy (BoxedId.compose 0 0 .fence) false] ++ [create 2 .fence]))
      = stateOf (BoxTable.create 2 .fence {}) := by
    rw [← List.append_assoc, run, List.foldl_append, ← run, hempty]
    rfl
  have hresolve : (run (restoredFence
      ++ [destroy (BoxedId.compose 0 0 .fence) false, create 2 .fence])).resolve
        (BoxedId.compose 0 0 .fence) = .ok 2 := by
    rw [← List.singleton_append, hrun, hcreate]
    rfl
  refine ⟨fun hnever => ?_, hresolve⟩
  have hunissued : ReservesUnissued
      (restoredFence ++ [destroy (BoxedId.compose 0 0 .fence) false, create 2 .fence]) := by
    intro front ids back happend entry hmem
    cases front with
    | nil => cases hmem
    | cons op rest =>
        have hcons : [create 1 .fence, destroy (BoxedId.compose 0 0 .fence) false, create 2 .fence]
            = rest ++ reserve ids :: back := (List.cons.inj happend).2
        have hlater : reserve ids ∈ rest ++ reserve ids :: back := by simp
        rw [← hcons] at hlater
        simp at hlater
  refine hnever restoredFence [create 2 .fence] (destroy (BoxedId.compose 0 0 .fence) false)
    (BoxedId.compose 0 0 .fence) (run restoredFence) (by decide) hunissued ?_ ?_
    ⟨BoxedId.compose 0 0 .fence, 2, .fence⟩ ?_ rfl
  · exact List.mem_cons_self
  · exact List.mem_cons_self
  · rw [hempty, enteredFrom, entered, hcreate]
    exact List.mem_cons_self

end TableOp

end CallStream
