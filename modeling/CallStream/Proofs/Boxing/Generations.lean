import CallStream.Proofs.Boxing.LiveIds
import Mathlib.Data.List.Pairwise

/-!
# Ids that are never used again

As long as no id is reserved, every id comes from a slot in its current generation, and a slot's
generation only rises. So the ids that were issued for a slot lie below its generation, except for
the one in use, and the next id of the slot differs from all of them. This holds until the
generations of the slot are used up, and then the slot is never free again.

The history of a run is the list of the objects that it entered. The invariant ties it to the slots
(`Generational`); it is kept by each operation, and what holds of a run follows from it.

## Main results

* `Vacant`, `Offered.enter`: a slot that is not in use gives an id that was never issued.
* `Generational.destroy`: a destroyed object leaves its slot for the next generation.
* `mem_entries_foldl`: what is live was live before or was entered since.
* `issued_once_of_run`: no id is issued twice, and a dead id stays dead.
-/

namespace CallStream

namespace BoxTable

/-! ### The generation of a slot -/

/-- A slot has the generation that it was set to. -/
theorem generationOf_setGeneration_self {table : BoxTable} {slot : UInt32}
    (h : slot.toNat < table.generations.size) (generation : UInt16) :
    (table.setGeneration slot generation).generationOf slot = generation := by
  simp [generationOf, setGeneration, h]

/-- Other slots have the generations that they had. -/
theorem generationOf_setGeneration_of_ne {table : BoxTable} {slot other : UInt32} (h : other ≠ slot)
    (generation : UInt16) :
    (table.setGeneration slot generation).generationOf other = table.generationOf other := by
  have hne : slot.toNat ≠ other.toNat := fun htoNat => h (UInt32.toNat_inj.mp htoNat).symm
  simp [generationOf, setGeneration, Array.getElem?_setIfInBounds_ne hne]

/-- A slot that exists keeps its generation when slots are added. -/
theorem generationOf_push {table : BoxTable} {slot : UInt32}
    (h : slot.toNat < table.generations.size) (generation : UInt16) :
    generationOf { table with generations := table.generations.push generation } slot
      = table.generationOf slot := by
  have hget : (table.generations.push generation)[slot.toNat]? =
      table.generations[slot.toNat]? := by
    rw [Array.getElem?_push, if_neg (Nat.ne_of_lt h)]
  rw [generationOf, generationOf, hget]

/-- Generations are tried upwards. -/
theorem le_of_usableGeneration? {table : BoxTable} {raw : UInt64} {type : HandleType}
    {slot : UInt32} {tries generation : Nat} {found : UInt16}
    (h : table.usableGeneration? raw type slot tries generation = some found)
    (hle : generation + tries ≤ UInt16.size) : generation ≤ found.toNat := by
  induction tries generalizing generation with
  | zero => cases h
  | succ tries ih =>
      rw [usableGeneration?] at h
      split at h
      · cases h
        exact Nat.le_of_eq (UInt16.toNat_ofNat_of_lt' (Nat.lt_of_lt_of_le (by omega) hle)).symm
      · have hlater := ih h (by omega)
        omega

/-! ### The invariant -/

/-- No object is in a slot, and every id that was issued for it belongs to an earlier generation. So
whatever the slot gives next was not issued before. -/
structure Vacant (issued : List BoxedEntry) (table : BoxTable) (slot : UInt32) : Prop where
  inside : slot.toNat < table.generations.size
  unused : ∀ entry ∈ table.entries, BoxedId.slot entry.boxed ≠ slot
  earlier : ∀ entry ∈ issued, BoxedId.slot entry.boxed = slot →
    (BoxedId.generation entry.boxed).toNat < (table.generationOf slot).toNat

/-- A table without reserved ids that has entered the objects in `issued`. -/
structure Generational (issued : List BoxedEntry) (table : BoxTable) : Prop where
  unreserved : table.reserved = []
  /-- No id was issued twice. -/
  nodup : (issued.map (·.boxed)).Nodup
  tagged : ∀ entry ∈ issued, BoxedId.tag entry.boxed = entry.type.tag
  /-- No issued id is ahead of its slot. -/
  reached : ∀ entry ∈ issued, (BoxedId.slot entry.boxed).toNat < table.generations.size ∧
    (BoxedId.generation entry.boxed).toNat
      ≤ (table.generationOf (BoxedId.slot entry.boxed)).toNat
  /-- A live object is of the current generation of its slot. -/
  current : ∀ entry ∈ table.entries,
    (BoxedId.slot entry.boxed).toNat < table.generations.size ∧
      BoxedId.generation entry.boxed = table.generationOf (BoxedId.slot entry.boxed)
  /-- No two live objects share a slot. -/
  apart : table.entries.Pairwise fun entry other =>
    BoxedId.slot entry.boxed ≠ BoxedId.slot other.boxed
  free_nodup : table.free.Nodup
  vacant : ∀ slot ∈ table.free, Vacant issued table slot

/-- A slot that is about to be used: it is vacant, and it was taken off the free ones. The search
for a fresh id stands in such a state between two attempts. -/
structure Offered (issued : List BoxedEntry) (table : BoxTable) (slot : UInt32) : Prop where
  generational : Generational issued table
  vacant : Vacant issued table slot
  taken : slot ∉ table.free

section Invariant

variable {issued : List BoxedEntry} {table after : BoxTable} {slot : UInt32}

/-- A new table has issued nothing. -/
theorem generational_empty : Generational [] {} where
  unreserved := rfl
  nodup := List.nodup_nil
  tagged _ hmem := absurd hmem List.not_mem_nil
  reached _ hmem := absurd hmem List.not_mem_nil
  current _ hmem := absurd hmem List.not_mem_nil
  apart := List.Pairwise.nil
  free_nodup := List.nodup_nil
  vacant _ hmem := absurd hmem List.not_mem_nil

/-- Only the objects, the slots and the reservations matter. -/
theorem Generational.congr (h : Generational issued table)
    (hentries : after.entries = table.entries)
    (hgenerations : after.generations = table.generations) (hfree : after.free = table.free)
    (hreserved : after.reserved = table.reserved) : Generational issued after := by
  obtain ⟨_, _, _, _, _, _⟩ := table
  obtain ⟨_, _, _, _, _, _⟩ := after
  cases hentries
  cases hgenerations
  cases hfree
  cases hreserved
  exact ⟨h.unreserved, h.nodup, h.tagged, h.reached, h.current, h.apart, h.free_nodup,
    fun slot hmem =>
    ⟨(h.vacant slot hmem).inside, (h.vacant slot hmem).unused, (h.vacant slot hmem).earlier⟩⟩

/-! ### Taking a slot -/

/-- A free slot can be used. -/
theorem Generational.pop (h : Generational issued table) {free : List UInt32}
    (hfree : table.free = slot :: free) : Offered issued { table with free } slot := by
  have hnodup := h.free_nodup
  have hvacant := h.vacant
  rw [hfree] at hnodup hvacant
  have hsame (other : UInt32) (hmem : other ∈ slot :: free) :
      Vacant issued { table with free } other :=
    ⟨(hvacant other hmem).inside, (hvacant other hmem).unused, (hvacant other hmem).earlier⟩
  obtain ⟨hnotMem, hothers⟩ := List.nodup_cons.mp hnodup
  refine ⟨?_, hsame slot List.mem_cons_self, hnotMem⟩
  exact ⟨h.unreserved, h.nodup, h.tagged, h.reached, h.current, h.apart, hothers,
    fun other hmem => hsame other (List.mem_cons_of_mem slot hmem)⟩

/-- So can a new slot. -/
theorem Generational.push (h : Generational issued table)
    (hroom : table.generations.size < slotLimit) :
    Offered issued { table with generations := table.generations.push 0 }
      (UInt32.ofNat table.generations.size) := by
  have hplace : (UInt32.ofNat table.generations.size).toNat = table.generations.size :=
    UInt32.toNat_ofNat_of_lt' hroom
  have hlarger : table.generations.size < (table.generations.push 0).size := by
    rw [Array.size_push]
    exact Nat.lt_succ_self _
  -- No id can have been issued for a slot that did not exist.
  have hbeyond {id : BoxedId} (hinside : (BoxedId.slot id).toNat < table.generations.size) :
      BoxedId.slot id ≠ UInt32.ofNat table.generations.size := by
    intro hsame
    rw [hsame, hplace] at hinside
    exact Nat.lt_irrefl _ hinside
  refine ⟨⟨h.unreserved, h.nodup, h.tagged, ?reached, ?current, h.apart, h.free_nodup, ?vacant⟩,
    ⟨by rw [hplace]; exact hlarger, ?unused, ?earlier⟩, ?taken⟩
  case reached =>
    intro entry hmem
    obtain ⟨hinside, hle⟩ := h.reached entry hmem
    exact ⟨Nat.lt_trans hinside hlarger, by rwa [generationOf_push hinside]⟩
  case current =>
    intro entry hmem
    obtain ⟨hinside, hsame⟩ := h.current entry hmem
    exact ⟨Nat.lt_trans hinside hlarger, by rwa [generationOf_push hinside]⟩
  case vacant =>
    intro other hmem
    obtain ⟨hinside, hunused, hearlier⟩ := h.vacant other hmem
    exact ⟨Nat.lt_trans hinside hlarger, hunused, by rwa [generationOf_push hinside]⟩
  case unused => exact fun entry hmem => hbeyond (h.current entry hmem).1
  case earlier => exact fun entry hmem hsame => absurd hsame (hbeyond (h.reached entry hmem).1)
  case taken =>
    intro hmem
    have hinside := (h.vacant _ hmem).inside
    rw [hplace] at hinside
    exact Nat.lt_irrefl _ hinside

/-- The generation of a slot that is not in use may rise. -/
theorem Generational.advance (h : Generational issued table)
    (hinside : slot.toNat < table.generations.size)
    (hunused : ∀ entry ∈ table.entries, BoxedId.slot entry.boxed ≠ slot)
    (hunfree : slot ∉ table.free)
    {generation : UInt16} (hle : (table.generationOf slot).toNat ≤ generation.toNat) :
    Generational issued (table.setGeneration slot generation) := by
  have hsize : (table.setGeneration slot generation).generations.size = table.generations.size :=
    Array.size_setIfInBounds
  have hgenerationOf := generationOf_setGeneration_self hinside generation
  have hothers {other : UInt32} (hne : other ≠ slot) :
      (table.setGeneration slot generation).generationOf other = table.generationOf other :=
    generationOf_setGeneration_of_ne hne generation
  refine ⟨h.unreserved, h.nodup, h.tagged, ?reached, ?current, h.apart, h.free_nodup, ?vacant⟩
  case reached =>
    intro entry hmem
    obtain ⟨hinside, hreached⟩ := h.reached entry hmem
    refine ⟨by rwa [hsize], ?_⟩
    -- Raising the generation of the slot itself only puts more distance to the ids issued for it.
    by_cases hsame : BoxedId.slot entry.boxed = slot
    · rw [hsame] at hreached ⊢
      rw [hgenerationOf]
      exact Nat.le_trans hreached hle
    · rwa [hothers hsame]
  case current =>
    intro entry hmem
    obtain ⟨hinside, hcurrent⟩ := h.current entry hmem
    exact ⟨by rwa [hsize], by rwa [hothers (hunused entry hmem)]⟩
  case vacant =>
    intro other hmem
    have hne : other ≠ slot := fun hsame => hunfree (hsame ▸ hmem)
    obtain ⟨hinside, hunused, hearlier⟩ := h.vacant other hmem
    exact ⟨by rwa [hsize], hunused, by rwa [hothers hne]⟩

/-- The generation of an offered slot may rise. -/
theorem Offered.advance (h : Offered issued table slot) {generation : UInt16}
    (hle : (table.generationOf slot).toNat ≤ generation.toNat) :
    Generational issued (table.setGeneration slot generation) :=
  h.generational.advance h.vacant.inside h.vacant.unused h.taken hle

/-- An object that takes an offered slot has an id that was never issued. -/
theorem Offered.enter (h : Offered issued table slot) {generation : UInt16}
    (hle : (table.generationOf slot).toNat ≤ generation.toNat) (raw : UInt64) (type : HandleType) :
    Generational (issued ++ [⟨.compose slot generation type, raw, type⟩])
      ((table.setGeneration slot generation).insert
        ⟨.compose slot generation type, raw, type⟩) := by
  -- First the slot takes the generation of the new id, then the object enters. Only the second step
  -- issues an id.
  have hinv := h.advance hle
  have hgenerationOf := generationOf_setGeneration_self h.vacant.inside generation
  have hsize : (table.setGeneration slot generation).generations.size = table.generations.size :=
    Array.size_setIfInBounds
  have hinside : slot.toNat < (table.setGeneration slot generation).generations.size := by
    rw [hsize]
    exact h.vacant.inside
  have hgenerationOf_insert (entry : BoxedEntry) (other : UInt32) :
      ((table.setGeneration slot generation).insert entry).generationOf other
        = (table.setGeneration slot generation).generationOf other := rfl
  have hmem_snoc {P : BoxedEntry → Prop} (hold : ∀ entry ∈ issued, P entry)
      (hnew : P ⟨.compose slot generation type, raw, type⟩) :
      ∀ entry ∈ issued ++ [⟨.compose slot generation type, raw, type⟩], P entry := by
    intro entry hmem
    rcases List.mem_append.mp hmem with hmem | hmem
    · exact hold entry hmem
    · obtain rfl := List.mem_singleton.mp hmem
      exact hnew
  refine ⟨hinv.unreserved, ?nodup, ?tagged, ?reached, ?current, ?apart, hinv.free_nodup, ?vacant⟩
  case nodup =>
    rw [List.map_append, List.nodup_append]
    refine ⟨hinv.nodup, List.nodup_singleton _, ?_⟩
    rintro _ hold _ hnew heq
    obtain ⟨entry, hmem, rfl⟩ := List.mem_map.mp hold
    obtain rfl := List.mem_singleton.mp hnew
    -- An issued id of the same slot belongs to an earlier generation.
    have hlt := h.vacant.earlier entry hmem (by rw [heq, BoxedId.slot_compose])
    rw [heq, BoxedId.generation_compose] at hlt
    omega
  case tagged => exact hmem_snoc hinv.tagged (BoxedId.tag_compose slot generation type)
  case reached =>
    refine hmem_snoc hinv.reached ?_
    rw [BoxedId.slot_compose, BoxedId.generation_compose, hgenerationOf_insert, hgenerationOf]
    exact ⟨hinside, Nat.le_refl _⟩
  case current =>
    refine List.forall_mem_cons.mpr ⟨?_, hinv.current⟩
    rw [BoxedId.slot_compose, BoxedId.generation_compose, hgenerationOf_insert, hgenerationOf]
    exact ⟨hinside, rfl⟩
  case apart =>
    refine List.pairwise_cons.mpr ⟨fun entry hmem => ?_, hinv.apart⟩
    rw [BoxedId.slot_compose]
    exact (h.vacant.unused entry hmem).symm
  case vacant =>
    intro other hmem
    -- The slots that stay free are other ones, so the new id is not among theirs.
    have hne : slot ≠ other := fun heq => h.taken (heq ▸ hmem)
    obtain ⟨hexists, hunused, hearlier⟩ := hinv.vacant other hmem
    refine ⟨hexists, List.forall_mem_cons.mpr ⟨?_, hunused⟩, hmem_snoc hearlier ?_⟩
    · rwa [BoxedId.slot_compose]
    · rw [BoxedId.slot_compose]
      exact fun heq => absurd heq hne

end Invariant

/-! ### Entering an object -/

section Create

variable {issued : List BoxedEntry} {table : BoxTable} {raw : UInt64} {type : HandleType}
  {slot : UInt32}

/-- The id that a slot gives is of the generation that the slot is then in. -/
theorem claimSlot_eq_some {id : BoxedId} (h : (table.claimSlot raw type slot).1 = some id) :
    ∃ generation : UInt16, (table.generationOf slot).toNat ≤ generation.toNat ∧
      id = .compose slot generation type ∧
      (table.claimSlot raw type slot).2 = table.setGeneration slot generation := by
  simp only [claimSlot] at h ⊢
  split at h
  · next generation husableGeneration =>
      cases h
      have hlt := (table.generationOf slot).toNat_lt
      refine ⟨generation, le_of_usableGeneration? husableGeneration ?_, rfl, rfl⟩
      simp only [lastGeneration, UInt16.size, UInt16.reduceToNat] at hlt ⊢
      omega
  · cases h

/-- A slot that gives no id is left at its last generation. -/
theorem claimSlot_eq_none (h : (table.claimSlot raw type slot).1 = none) :
    (table.claimSlot raw type slot).2 = table.setGeneration slot lastGeneration := by
  simp only [claimSlot] at h ⊢
  split at h
  · cases h
  · rfl

/-- The id of an offered slot was never issued. -/
theorem Offered.claim_some (h : Offered issued table slot) {id : BoxedId}
    (hfst : (table.claimSlot raw type slot).1 = some id) :
    Generational (issued ++ [⟨id, raw, type⟩])
      ((table.claimSlot raw type slot).2.insert ⟨id, raw, type⟩) := by
  obtain ⟨generation, hle, rfl, hsnd⟩ := claimSlot_eq_some hfst
  rw [hsnd]
  exact h.enter hle raw type

/-- An offered slot that gives no id is not offered again. -/
theorem Offered.claim_none (h : Offered issued table slot)
    (hretired : (table.claimSlot raw type slot).1 = none) :
    Generational issued (table.claimSlot raw type slot).2 := by
  rw [claimSlot_eq_none hretired]
  refine h.advance ?_
  have hlt := (table.generationOf slot).toNat_lt
  simp only [lastGeneration, UInt16.reduceToNat]
  omega

/-- The search for a fresh id ends with one that was never issued, or without one. -/
theorem freshId_generational (raw : UInt64) (type : HandleType) (h : Generational issued table) :
    match freshId raw type table with
    | .ok id after =>
      Generational (issued ++ [⟨id, raw, type⟩]) (after.insert ⟨id, raw, type⟩)
    | .error _ after => Generational issued after := by
  fun_induction freshId raw type table with
  | case1 table slot free hfree claim id hfst => exact (h.pop hfree).claim_some hfst
  | case2 table slot free hfree claim hretired ih => exact ih ((h.pop hfree).claim_none hretired)
  | case3 table hfree slot hroom extended claim id hfst => exact (h.push hroom).claim_some hfst
  | case4 table hfree slot hroom extended claim hretired ih =>
      exact ih ((h.push hroom).claim_none hretired)
  | case5 table hfree slot hroom => exact h

/-- Without reservations, a new object gets a fresh id. -/
theorem create_of_unreserved (hunreserved : table.reserved = []) :
    create raw type table
      = match freshId raw type table with
        | .ok id after => .ok id (after.insert ⟨id, raw, type⟩)
        | .error cause after => .error cause after := by
  have htakeReserved : takeReserved raw table = .ok none table := by
    obtain ⟨_, _, _, _, _, _⟩ := table
    cases hunreserved
    rfl
  unfold create
  rw [bind_of_ok htakeReserved]
  simp only [bind, EStateM.bind]
  cases freshId raw type table <;> rfl

variable {id : BoxedId} {after : BoxTable}

/-- An object gets an id of the first free slot, if that has one for it. -/
theorem create_of_free {slot : UInt32} {free : List UInt32} (hreserved : table.reserved = [])
    (hfree : table.free = slot :: free)
    (hclaim : { table with free }.claimSlot raw type slot = (some id, after)) :
    create raw type table = .ok id (after.insert ⟨id, raw, type⟩) := by
  have hfresh : freshId raw type table = .ok id after := by
    unfold freshId
    split
    · next hother =>
        cases hother.symm.trans hfree
        simp only [hclaim]
    · next hnone => cases hnone.symm.trans hfree
  rw [create_of_unreserved hreserved, hfresh]

/-- Where no slot is free, it gets an id of a new one. -/
theorem create_of_no_free (hreserved : table.reserved = []) (hfree : table.free = [])
    (hroom : table.generations.size < slotLimit)
    (hclaim : { table with generations := table.generations.push 0 }.claimSlot raw type
      (UInt32.ofNat table.generations.size) = (some id, after)) :
    create raw type table = .ok id (after.insert ⟨id, raw, type⟩) := by
  have hfresh : freshId raw type table = .ok id after := by
    unfold freshId
    split
    · next hsome => cases hsome.symm.trans hfree
    · rw [dif_pos hroom]
      simp only [hclaim]
  rw [create_of_unreserved hreserved, hfresh]

end Create

/-! ### Removing an object -/

section Destroy

variable {issued : List BoxedEntry} {table : BoxTable}

/-- A vacant slot may be freed. -/
theorem Generational.release (h : Generational issued table) {slot : UInt32}
    (hvacant : Vacant issued table slot) (hunfree : slot ∉ table.free) :
    Generational issued { table with free := slot :: table.free } := by
  have hsame (other : UInt32) (hempty : Vacant issued table other) :
      Vacant issued { table with free := slot :: table.free } other :=
    ⟨hempty.inside, hempty.unused, hempty.earlier⟩
  exact ⟨h.unreserved, h.nodup, h.tagged, h.reached, h.current, h.apart,
    List.nodup_cons.mpr ⟨hunfree, h.free_nodup⟩,
    List.forall_mem_cons.mpr
      ⟨hsame slot hvacant, fun other hmem => hsame other (h.vacant other hmem)⟩⟩

/-- A slot that is not in use is freed for its next generation. -/
theorem Generational.recycle (h : Generational issued table) {id : BoxedId}
    (hunused : ∀ entry ∈ table.entries, BoxedId.slot entry.boxed ≠ BoxedId.slot id)
    (hunfree : BoxedId.slot id ∉ table.free) : Generational issued (table.recycle id) := by
  unfold BoxTable.recycle
  dsimp only
  split
  · exact h
  · next current hget =>
      split
      · next hcondition =>
          have hinside := (Array.getElem?_eq_some_iff.mp hget).1
          have hgenerationOf : table.generationOf (BoxedId.slot id) = current := by
            rw [generationOf, hget, Option.getD_some]
          -- The last generation is never left, so counting up does not start over.
          have htoNat : (current + 1).toNat = current.toNat + 1 := by
            have hlt := UInt16.lt_iff_toNat_lt.mp hcondition.2
            simp only [lastGeneration, UInt16.reduceToNat] at hlt
            rw [UInt16.toNat_add, UInt16.toNat_one]
            omega
          have hrisen : Generational issued (table.setGeneration (BoxedId.slot id) (current + 1)) :=
            h.advance hinside hunused hunfree (by rw [hgenerationOf, htoNat]; exact Nat.le_succ _)
          refine hrisen.release ⟨?_, hunused, fun entry hmem hslot => ?_⟩ hunfree
          · rwa [setGeneration, Array.size_setIfInBounds]
          · have hle := (h.reached entry hmem).2
            rw [hslot, hgenerationOf] at hle
            rw [generationOf_setGeneration_self hinside, htoNat]
            exact Nat.lt_succ_of_le hle
      · exact h

/-- Once an object is gone, no object is left in its slot. -/
theorem Generational.remove (h : Generational issued table) {entry : BoxedEntry}
    (hmem : entry ∈ table.entries) :
    Generational issued (table.remove entry.boxed) ∧
      ∀ other ∈ (table.remove entry.boxed).entries,
        BoxedId.slot other.boxed ≠ BoxedId.slot entry.boxed := by
  have hinside {other : BoxedEntry} (hkept : other ∈ (table.remove entry.boxed).entries) :
      other ∈ table.entries := List.mem_of_mem_filter hkept
  refine ⟨⟨h.unreserved, h.nodup, h.tagged, h.reached,
    fun other hkept => h.current other (hinside hkept), h.apart.sublist List.filter_sublist,
    h.free_nodup, fun slot hfree => ?_⟩, fun other hkept => ?_⟩
  · obtain ⟨hexists, hunused, hearlier⟩ := h.vacant slot hfree
    exact ⟨hexists, fun other hkept => hunused other (hinside hkept), hearlier⟩
  · have hne : other.boxed ≠ entry.boxed := by simpa using (List.mem_filter.mp hkept).2
    have hdiffers : other ≠ entry := fun heq => hne (congrArg BoxedEntry.boxed heq)
    have hsymm : Std.Symm fun entry other : BoxedEntry =>
        BoxedId.slot entry.boxed ≠ BoxedId.slot other.boxed := ⟨fun _ _ => Ne.symm⟩
    exact h.apart.forall (hinside hkept) hmem hdiffers

/-- A destroyed object leaves its slot for the next generation, if there is one. -/
theorem Generational.destroy (h : Generational issued table) (id : BoxedId) (preserve : Bool) :
    Generational issued (stateOf (destroy id preserve table)) := by
  unfold BoxTable.destroy
  split
  · exact h
  · split
    · exact h
    · next entry hfind =>
        obtain rfl : entry.boxed = id := by simpa using List.find?_some hfind
        have hmem := List.mem_of_find?_eq_some hfind
        obtain ⟨hgenerational, hunused⟩ := h.remove hmem
        have hunfree : BoxedId.slot entry.boxed ∉ (table.remove entry.boxed).free := fun hfree =>
          (h.vacant _ hfree).unused entry hmem rfl
        have hrecycled := hgenerational.recycle hunused hunfree
        cases preserve with
        | false => exact hrecycled
        | true => exact hrecycled.congr rfl rfl rfl rfl

/-- Destroying objects issues nothing, so what is known of the issued ids still holds. -/
theorem Generational.destroyAll (ids : List BoxedId) {table : BoxTable}
    (h : Generational issued table) : Generational issued (stateOf (destroyAll ids table)) := by
  induction ids generalizing table with
  | nil => exact h
  | cons id rest ih =>
      have hgenerational := h.destroy id true
      rw [BoxTable.destroyAll]
      cases hdestroy : BoxTable.destroy id true table with
      | ok raw after =>
          rw [hdestroy] at hgenerational
          rw [bind_of_ok hdestroy]
          exact ih hgenerational
      | error cause after =>
          rw [hdestroy] at hgenerational
          rwa [bind_of_error hdestroy]

/-- Destroying adds no object. -/
theorem entries_destroy_subset (id : BoxedId) (preserve : Bool) (table : BoxTable) :
    (stateOf (destroy id preserve table)).entries ⊆ table.entries := by
  by_cases heq : id = 0
  · subst heq
    exact fun _ hmem => hmem
  · cases hdestroy : BoxTable.destroy id preserve table with
    | ok raw after =>
        have hsameObjects := destroy_eq_ok heq hdestroy
        intro entry hmem
        rw [stateOf, hsameObjects.entries] at hmem
        exact List.mem_of_mem_filter hmem
    | error cause after =>
        obtain rfl := destroy_eq_error hdestroy
        exact fun _ hmem => hmem

/-- Nor does destroying several. -/
theorem entries_destroyAll_subset (ids : List BoxedId) (table : BoxTable) :
    (stateOf (destroyAll ids table)).entries ⊆ table.entries := by
  induction ids generalizing table with
  | nil => exact fun _ hmem => hmem
  | cons id rest ih =>
      have hsubset := entries_destroy_subset id true table
      rw [BoxTable.destroyAll]
      cases hdestroy : BoxTable.destroy id true table with
      | ok raw after =>
          rw [hdestroy] at hsubset
          rw [bind_of_ok hdestroy]
          exact fun _ hmem => hsubset (ih after hmem)
      | error cause after =>
          rw [hdestroy] at hsubset
          rwa [bind_of_error hdestroy]

end Destroy

end BoxTable

/-! ### Runs without reservations -/

namespace TableOp

open BoxTable

/-- Whether an operation reserves ids. -/
def reserves : TableOp → Bool
  | reserve _ => true
  | _ => false

/-- The object that an operation enters, if it enters one. Operations leave no trace of their own,
so what they issued is read off the table in front of them. -/
def entered (table : BoxTable) : TableOp → Option BoxedEntry
  | create raw type =>
    match BoxTable.create raw type table with
    | .ok id _ => some ⟨id, raw, type⟩
    | .error _ _ => none
  | _ => none

/-- The objects that operations enter, in order, each from the table that the ones before it
left. -/
def enteredFrom (table : BoxTable) : List TableOp → List BoxedEntry
  | [] => []
  | op :: rest => (op.entered table).toList ++ enteredFrom (op.apply table) rest

/-- The objects that a run of operations on an empty table enters, each under the id it was
given. -/
def issued (ops : List TableOp) : List BoxedEntry := enteredFrom {} ops

/-- What enters in two runs of operations enters in order. -/
theorem enteredFrom_append (table : BoxTable) (front back : List TableOp) :
    enteredFrom table (front ++ back)
      = enteredFrom table front ++ enteredFrom (front.foldl apply table) back := by
  induction front generalizing table with
  | nil => rfl
  | cons op rest ih =>
    simp only [List.cons_append, enteredFrom, ih, List.append_assoc, List.foldl_cons]

/-- Every operation keeps the ids apart that were issued, unless it reserves ids. -/
theorem generational_apply {past : List BoxedEntry} {table : BoxTable}
    (h : Generational past table) {op : TableOp} (hfresh : op.reserves = false) :
    Generational (past ++ (op.entered table).toList) (op.apply table) := by
  -- All operations but creating issue nothing.
  have hquiet {after : BoxTable} (hgenerational : Generational past after) :
      Generational (past ++ (none : Option BoxedEntry).toList) after := by
    rwa [Option.toList_none, List.append_nil]
  cases op with
  | create raw type =>
      have hsearched := freshId_generational raw type h
      rw [entered, apply, create_of_unreserved h.unreserved]
      cases hfreshId : freshId raw type table with
      | ok id after =>
          rw [hfreshId] at hsearched
          exact hsearched
      | error cause after =>
          rw [hfreshId] at hsearched
          exact hquiet hsearched
  | unwrap id =>
      rw [apply, stateOf_unwrap]
      exact hquiet h
  | destroy id preserve => exact hquiet (h.destroy id preserve)
  | defer id =>
      rw [apply, defer_eq]
      cases table.resolve id with
      | ok raw => exact hquiet (h.congr rfl rfl rfl rfl)
      | error cause => exact hquiet h
  | commit => exact hquiet (Generational.destroyAll table.pending (h.congr rfl rfl rfl rfl))
  | discard | release => exact hquiet (h.congr rfl rfl rfl rfl)
  | clearReservations => exact hquiet (h.congr rfl rfl rfl h.unreserved.symm)
  | reserve ids => cases hfresh

/-- A run of operations keeps track of all ids it issued, in front of which stand those issued
before. -/
theorem generational_foldl {past : List BoxedEntry} {table : BoxTable} (h : Generational past table)
    {ops : List TableOp} (hfresh : ∀ op ∈ ops, op.reserves = false) :
    Generational (past ++ enteredFrom table ops) (ops.foldl apply table) := by
  induction ops generalizing past table with
  | nil => rwa [enteredFrom, List.append_nil]
  | cons op rest ih =>
      obtain ⟨hreserves, hothers⟩ := List.forall_mem_cons.mp hfresh
      have hgenerational := ih (generational_apply h hreserves) hothers
      rwa [List.append_assoc] at hgenerational

/-! ### What is live -/

/-- An id is live if some object goes by it. -/
theorem isLive_iff {table : BoxTable} {id : BoxedId} :
    table.isLive id = true ↔ ∃ entry ∈ table.entries, entry.boxed = id := by
  simp [isLive, find?]

/-- An object that is live after an operation was live before it, or the operation entered it. -/
theorem mem_entries_apply {table : BoxTable} {op : TableOp} {entry : BoxedEntry}
    (hmem : entry ∈ (op.apply table).entries) :
    entry ∈ table.entries ∨ entry ∈ (op.entered table).toList := by
  -- Most operations leave the objects alone; what is left are creating and the two ways of
  -- destroying.
  by_cases hchanges : op.changesObjects = false
  · rw [(sameObjects_apply hchanges table).entries] at hmem
    exact Or.inl hmem
  · cases op with
    | create raw type =>
        rw [apply] at hmem
        rw [entered]
        cases hcreate : BoxTable.create raw type table with
        | ok id after =>
            rw [hcreate] at hmem
            obtain ⟨-, searched, hsameObjects, rfl⟩ := create_eq_ok hcreate
            rcases List.mem_cons.mp hmem with rfl | hold
            · exact Or.inr List.mem_cons_self
            · rw [hsameObjects.entries] at hold
              exact Or.inl hold
        | error cause after =>
            rw [hcreate] at hmem
            rw [show (stateOf _) = after from rfl, (create_eq_error hcreate).entries] at hmem
            exact Or.inl hmem
    | destroy id preserve => exact Or.inl (entries_destroy_subset id preserve table hmem)
    | commit =>
      exact Or.inl (entries_destroyAll_subset table.pending { table with pending := [] } hmem)
    | unwrap id | defer id | discard | release | reserve ids | clearReservations =>
        exact absurd rfl hchanges

/-- An object that is live after a run was live before it, or was entered since. -/
theorem mem_entries_foldl {table : BoxTable} {ops : List TableOp} {entry : BoxedEntry}
    (hmem : entry ∈ (ops.foldl apply table).entries) :
    entry ∈ table.entries ∨ entry ∈ enteredFrom table ops := by
  induction ops generalizing table with
  | nil => exact Or.inl hmem
  | cons op rest ih =>
      rw [enteredFrom, List.mem_append]
      rcases ih hmem with hlive | hlater
      · exact (mem_entries_apply hlive).imp id Or.inl
      · exact Or.inr (Or.inr hlater)

/-- In a run that reserves no ids, no id is issued twice, each tells the type of its object, no two
live objects share a slot, and a slot is free at most once and never while it is in use. So an id
whose object is gone never resolves again, however often its slot is used afterwards. -/
theorem issued_once_of_run {ops : List TableOp} (hfresh : ∀ op ∈ ops, op.reserves = false) :
    ((issued ops).map (·.boxed)).Nodup ∧
      (∀ entry ∈ issued ops, BoxedId.tag entry.boxed = entry.type.tag) ∧
      (∀ entry ∈ (run ops).entries, ∀ other ∈ (run ops).entries,
        BoxedId.slot entry.boxed = BoxedId.slot other.boxed → entry = other) ∧
      (run ops).free.Nodup ∧
      (∀ entry ∈ (run ops).entries, BoxedId.slot entry.boxed ∉ (run ops).free) ∧
      ∀ front middle back, ops = front ++ middle ++ back → ∀ id, (run front).isLive id = true →
        (run (front ++ middle)).isLive id = false →
          (run ops).resolve id = .error (.unknownHandle id) := by
  have hinv : Generational (issued ops) (run ops) := generational_foldl generational_empty hfresh
  refine ⟨hinv.nodup, hinv.tagged, fun entry hmem other halso hsame => ?apart, hinv.free_nodup,
    fun entry hmem hfree => (hinv.vacant _ hfree).unused entry hmem rfl, ?dead⟩
  case apart =>
    by_contra hne
    have hsymm : Std.Symm fun entry other : BoxedEntry =>
        BoxedId.slot entry.boxed ≠ BoxedId.slot other.boxed := ⟨fun _ _ => Ne.symm⟩
    exact hinv.apart.forall hmem halso hne hsame
  case dead =>
    rintro front middle back rfl id hisLive hdead
    -- The ids issued in the whole run are those issued up to the object's death and those issued
    -- afterwards.
    have hissued : issued (front ++ middle ++ back)
        = issued (front ++ middle) ++ enteredFrom (run (front ++ middle)) back :=
      enteredFrom_append {} (front ++ middle) back
    obtain ⟨old, holdLive, rfl⟩ := isLive_iff.mp hisLive
    have holdIssued : old ∈ issued (front ++ middle) := by
      rw [issued, enteredFrom_append]
      rcases mem_entries_foldl holdLive with hnone | hentered
      · cases hnone
      · exact List.mem_append_left _ hentered
    cases hfind : (run (front ++ middle ++ back)).find? old.boxed with
    | none => rw [resolve, if_neg ((sound_run front).ne_zero old holdLive), hfind]
    | some new =>
        have hsame : new.boxed = old.boxed := by simpa using List.find?_some hfind
        have hnewLive := List.mem_of_find?_eq_some hfind
        rw [run, List.foldl_append] at hnewLive
        -- If the id stood for something again, that had survived, or it entered afterwards.
        rcases mem_entries_foldl hnewLive with hstill | hentered
        · have halive : (run (front ++ middle)).isLive old.boxed = true :=
            isLive_iff.mpr ⟨new, hstill, hsame⟩
          cases hdead.symm.trans halive
        · -- The id would have been issued a second time.
          have hnodup := hinv.nodup
          rw [hissued, List.map_append, List.nodup_append] at hnodup
          exact absurd hsame.symm (hnodup.2.2 _ (List.mem_map_of_mem holdIssued) _
            (List.mem_map_of_mem hentered))

/-- A fence is destroyed, and the next fence has for its own value the id that its slot would give
it first. -/
def fenceReuse : List TableOp :=
  [create 7 .fence, destroy (BoxedId.compose 0 0 .fence) false,
    create (BoxedId.compose 0 1 .fence) .fence]

/-- The second fence passes over the id that is its own value, and the first id stays unknown. -/
theorem issued_once_of_fenceReuse :
    (∀ op ∈ fenceReuse, op.reserves = false) ∧
      (issued fenceReuse).map (·.boxed)
        = [BoxedId.compose 0 0 .fence, BoxedId.compose 0 2 .fence] ∧
      ((issued fenceReuse).map (·.boxed)).Nodup ∧
      (run fenceReuse).resolve (BoxedId.compose 0 0 .fence)
        = .error (.unknownHandle (BoxedId.compose 0 0 .fence)) := by
  have hfresh : ∀ op ∈ fenceReuse, op.reserves = false := by decide
  obtain ⟨hnodup, -, -, -, -, hdead'⟩ := issued_once_of_run hfresh
  -- The tables behind the first two operations, spelled out.
  let first : BoxTable :=
    BoxTable.insert { generations := #[0] } ⟨BoxedId.compose 0 0 .fence, 7, .fence⟩
  let second : BoxTable := { generations := #[1], free := [0] }
  have hnew : BoxTable.claimSlot { generations := #[0] } 7 .fence 0
      = (some (BoxedId.compose 0 0 .fence), { generations := #[0] }) := rfl
  have hfirst : BoxTable.create 7 .fence {} = .ok (BoxedId.compose 0 0 .fence) first :=
    create_of_no_free rfl rfl (by decide) hnew
  have hdestroy : BoxTable.destroy (BoxedId.compose 0 0 .fence) false first = .ok 7 second := rfl
  -- The next generation would be the value itself, so the one behind it is taken.
  have hagain : BoxTable.claimSlot { generations := #[1] } (BoxedId.compose 0 1 .fence) .fence 0
      = (some (BoxedId.compose 0 2 .fence), { generations := #[2] }) := rfl
  have hsecond : BoxTable.create (BoxedId.compose 0 1 .fence) .fence second
      = .ok (BoxedId.compose 0 2 .fence) (BoxTable.insert { generations := #[2] }
          ⟨BoxedId.compose 0 2 .fence, BoxedId.compose 0 1 .fence, .fence⟩) :=
    create_of_free rfl rfl hagain
  have hlive : run [create 7 .fence] = first := by
    simp only [run, List.foldl_cons, List.foldl_nil, apply, hfirst, stateOf]
  have hdead :
      run ([create 7 .fence] ++ [destroy (BoxedId.compose 0 0 .fence) false]) = second := by
    rw [run, List.foldl_append, ← run, hlive]
    exact congrArg stateOf hdestroy
  refine ⟨hfresh, ?_, hnodup, ?_⟩
  · simp only [issued, fenceReuse, enteredFrom, entered, apply, hfirst, stateOf, hdestroy, hsecond]
    rfl
  · exact hdead' [create 7 .fence] [destroy (BoxedId.compose 0 0 .fence) false]
      [create (BoxedId.compose 0 1 .fence) .fence] rfl _ (by rw [hlive]; rfl) (by rw [hdead]; rfl)

end TableOp

end CallStream
