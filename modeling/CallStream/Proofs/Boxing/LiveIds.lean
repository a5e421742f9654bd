import CallStream.Boxing.Table
import CallStream.Proofs.Step
import Mathlib.Data.List.Nodup

/-!
# Live ids

Ids come from two sources, the generations of slots and the reservations of a snapshot, which know
nothing of each other: a reserved id may lie in a slot that is free, that is in use, or that was
never handed out. So which slots are in use says nothing about which ids are live. What holds is
that each source is asked again until it gives an id that is not zero, not the object's own value
and not live (`isUsable`), and that nothing else is ever entered.

## Main results

* `BoxTable.Sound`: what every table that can be reached satisfies.
* `SameObjects`: what a step that neither enters nor removes an object leaves alone.
* `create_eq_ok`, `destroy_eq_ok`: the effect of the two steps that do.
* `sound_run`, `live_ids_of_run`: what holds of every table that operations can lead to.
-/

namespace CallStream

namespace BoxTable

/-- A table whose entries can be told apart and whose free slots exist. -/
structure Sound (table : BoxTable) : Prop where
  /-- No two entries share an id. -/
  nodup : (table.entries.map (·.boxed)).Nodup
  ne_zero : ∀ entry ∈ table.entries, entry.boxed ≠ 0
  /-- No object goes by its own value. -/
  ne_raw : ∀ entry ∈ table.entries, entry.boxed ≠ entry.raw
  free_lt : ∀ slot ∈ table.free, slot.toNat < table.generations.size

/-- A new table is sound: it has no object and no slot. -/
theorem sound_empty : Sound {} where
  nodup := List.nodup_nil
  ne_zero _ hmem := absurd hmem List.not_mem_nil
  ne_raw _ hmem := absurd hmem List.not_mem_nil
  free_lt _ hmem := absurd hmem List.not_mem_nil

/-- An entry is found under its own id. -/
theorem Sound.find?_boxed {table : BoxTable} (h : table.Sound) {entry : BoxedEntry}
    (hmem : entry ∈ table.entries) : table.find? entry.boxed = some entry := by
  cases hfind : table.find? entry.boxed with
  | none => exact absurd (beq_self_eq_true entry.boxed) (List.find?_eq_none.mp hfind entry hmem)
  | some other =>
      have hboxed : other.boxed = entry.boxed := by simpa using List.find?_some hfind
      have hpresent := List.mem_of_find?_eq_some hfind
      rw [List.inj_on_of_nodup_map h.nodup hpresent hmem hboxed]

/-- An id resolves alike in tables that find the same entry for it. -/
theorem resolve_congr {table other : BoxTable} {id : BoxedId}
    (h : table.find? id = other.find? id) :
    table.resolve id = other.resolve id := by
  rw [resolve, resolve, h]

/-! ### Steps that leave the objects alone -/

/-- The entries are the same, and free slots still exist. Most operations leave a table so; what
they change is the lists beside its entries. -/
structure SameObjects (before after : BoxTable) : Prop where
  entries : after.entries = before.entries
  free_lt (h : ∀ slot ∈ before.free, slot.toNat < before.generations.size) :
    ∀ slot ∈ after.free, slot.toNat < after.generations.size

namespace SameObjects

/-- A table has the objects that it has. -/
theorem refl (table : BoxTable) : SameObjects table table := ⟨rfl, id⟩

/-- Having the same objects carries over from table to table. -/
theorem trans {first second third : BoxTable} (h : SameObjects first second)
    (h' : SameObjects second third) : SameObjects first third :=
  ⟨h'.entries.trans h.entries, fun hfree => h'.free_lt (h.free_lt hfree)⟩

/-- A table with the objects of a sound one is sound. -/
theorem sound {before after : BoxTable} (h : SameObjects before after) (hsound : before.Sound) :
    after.Sound where
  nodup := by
    rw [h.entries]
    exact hsound.nodup
  ne_zero := by
    rw [h.entries]
    exact hsound.ne_zero
  ne_raw := by
    rw [h.entries]
    exact hsound.ne_raw
  free_lt := h.free_lt hsound.free_lt

/-- The same objects are found in both. -/
theorem find?_eq {before after : BoxTable} (h : SameObjects before after) (id : BoxedId) :
    after.find? id = before.find? id := by
  rw [find?, find?, h.entries]

/-- An id is usable before such a step if it is usable after it. -/
theorem isUsable_eq {before after : BoxTable} (h : SameObjects before after) (raw : UInt64)
    (id : BoxedId) : after.isUsable raw id = before.isUsable raw id := by
  rw [isUsable, isUsable, isLive, isLive, h.find?_eq]

end SameObjects

/-! ### Looking for an id -/

/-- An id can be used for an object if it is not null, not the driver's own value, and stands for
nothing. -/
theorem isUsable_iff {table : BoxTable} {raw : UInt64} {id : BoxedId} :
    table.isUsable raw id = true ↔ id ≠ 0 ∧ id ≠ raw ∧ table.find? id = none := by
  simp [isUsable, isLive, and_assoc]

/-- Taking a reserved id cannot fail, and the id is usable. -/
theorem takeReserved_eq_ok (raw : UInt64) (table : BoxTable) :
    ∃ taken after, takeReserved raw table = .ok taken after ∧ SameObjects table after ∧
      ∀ id ∈ taken, table.isUsable raw id = true := by
  unfold takeReserved
  have hfirst := List.head?_dropWhile_not (fun id => !table.isUsable raw id) table.reserved
  cases hdropWhile : table.reserved.dropWhile fun id => !table.isUsable raw id with
  | nil => exact ⟨none, _, rfl, ⟨rfl, id⟩, fun _ hmem => by cases hmem⟩
  | cons id rest =>
      rw [hdropWhile] at hfirst
      refine ⟨some id, _, rfl, ⟨rfl, fun h => h⟩, fun _ hmem => ?_⟩
      cases hmem
      simpa using hfirst

/-- The generation that a slot offers makes up an id that can be used. -/
theorem isUsable_of_usableGeneration? {table : BoxTable} {raw : UInt64} {type : HandleType}
    {slot : UInt32} {tries generation : Nat} {found : UInt16}
    (h : table.usableGeneration? raw type slot tries generation = some found) :
    table.isUsable raw (.compose slot found type) = true := by
  induction tries generalizing generation with
  | zero => cases h
  | succ tries ih =>
      rw [usableGeneration?] at h
      split at h
      · next husable =>
          cases h
          exact husable
      · exact ih h

section Slots

variable {table : BoxTable} {raw : UInt64} {type : HandleType}

/-- A slot is searched without touching the entries. -/
theorem sameObjects_claimSlot (slot : UInt32) :
    SameObjects table (table.claimSlot raw type slot).2 where
  entries := by
    simp only [claimSlot]
    split <;> rfl
  free_lt h := by rwa [free_claimSlot, size_generations_claimSlot]

/-- So the id that a slot gives can be used. -/
theorem isUsable_of_claimSlot {slot : UInt32} {id : BoxedId}
    (h : (table.claimSlot raw type slot).1 = some id) : table.isUsable raw id = true := by
  simp only [claimSlot] at h
  split at h
  · next husableGeneration =>
      cases h
      exact isUsable_of_usableGeneration? husableGeneration
  · cases h

/-- A slot may be taken off the free ones. -/
theorem sameObjects_pop {slot : UInt32} {free : List UInt32} (h : table.free = slot :: free) :
    SameObjects table { table with free } where
  entries := rfl
  free_lt hexist other hmem := hexist other (by rw [h]; exact List.mem_cons_of_mem slot hmem)

/-- A slot may be added. -/
theorem sameObjects_push (generation : UInt16) :
    SameObjects table { table with generations := table.generations.push generation } where
  entries := rfl
  free_lt hexist other hmem := by
    rw [Array.size_push]
    exact Nat.lt_succ_of_lt (hexist other hmem)

/-- The search for a fresh id touches no entry, and what it finds is usable. -/
theorem freshId_spec (raw : UInt64) (type : HandleType) (table : BoxTable) :
    SameObjects table (stateOf (freshId raw type table)) ∧
      ∀ id after, freshId raw type table = .ok id after → table.isUsable raw id = true := by
  -- Looking for an id moves slots and generations, never objects, so whether an id can be used does
  -- not change on the way.
  fun_induction freshId raw type table with
  | case1 table slot free hfree claim id hfst =>
      have hpopped := sameObjects_pop hfree
      refine ⟨hpopped.trans (sameObjects_claimSlot slot), fun id after h => ?_⟩
      cases h
      rw [← hpopped.isUsable_eq]
      exact isUsable_of_claimSlot hfst
  | case2 table slot free hfree claim hretired ih =>
      have hsameObjects : SameObjects table claim.2 :=
        (sameObjects_pop hfree).trans (sameObjects_claimSlot slot)
      refine ⟨hsameObjects.trans ih.1, fun id after h => ?_⟩
      rw [← hsameObjects.isUsable_eq]
      exact ih.2 id after h
  | case3 table hfree slot hroom extended claim id hfst =>
      have hpushed : SameObjects table extended := sameObjects_push 0
      refine ⟨hpushed.trans (sameObjects_claimSlot _), fun id after h => ?_⟩
      cases h
      rw [← hpushed.isUsable_eq]
      exact isUsable_of_claimSlot hfst
  | case4 table hfree slot hroom extended claim hretired ih =>
      have hsameObjects : SameObjects table claim.2 :=
        (sameObjects_push 0).trans (sameObjects_claimSlot _)
      refine ⟨hsameObjects.trans ih.1, fun id after h => ?_⟩
      rw [← hsameObjects.isUsable_eq]
      exact ih.2 id after h
  | case5 table hfree slot hroom => exact ⟨.refl table, fun id after h => by cases h⟩

end Slots

/-! ### Entering an object -/

section Create

variable {table after : BoxTable} {raw : UInt64} {type : HandleType} {id : BoxedId}

/-- A new object is entered under a usable id, and nothing else changes about the objects. -/
theorem create_eq_ok (h : create raw type table = .ok id after) :
    table.isUsable raw id = true ∧
      ∃ searched, SameObjects table searched ∧ after = searched.insert ⟨id, raw, type⟩ := by
  obtain ⟨taken, reserved, htakeReserved, hsameObjects, husable⟩ := takeReserved_eq_ok raw table
  unfold create at h
  rw [bind_of_ok htakeReserved] at h
  cases taken with
  | some reservedId =>
      cases h
      exact ⟨husable _ rfl, reserved, hsameObjects, rfl⟩
  | none =>
      have hsearch := freshId_spec raw type reserved
      obtain ⟨fresh, middle, hfreshId, h⟩ := bind_eq_ok_iff.mp h
      cases h
      rw [hfreshId] at hsearch
      refine ⟨?_, middle, hsameObjects.trans hsearch.1, rfl⟩
      rw [← hsameObjects.isUsable_eq]
      exact hsearch.2 id middle rfl

/-- A failed attempt to enter an object changes nothing about the objects. -/
theorem create_eq_error {cause : BoxingError} (h : create raw type table = .error cause after) :
    SameObjects table after := by
  obtain ⟨taken, reserved, htakeReserved, hsameObjects, -⟩ := takeReserved_eq_ok raw table
  unfold create at h
  rw [bind_of_ok htakeReserved] at h
  cases taken with
  | some reservedId => cases h
  | none =>
      have hsearch := freshId_spec raw type reserved
      rcases bind_eq_error_iff.mp h with hfreshId | ⟨_, _, -, hentered⟩
      · rw [hfreshId] at hsearch
        exact hsameObjects.trans hsearch.1
      · cases hentered

/-- A new object is found under its id. -/
theorem find?_create_self (h : create raw type table = .ok id after) :
    after.find? id = some ⟨id, raw, type⟩ := by
  obtain ⟨-, searched, -, rfl⟩ := create_eq_ok h
  exact find?_insert_self searched ⟨id, raw, type⟩

/-- Under other ids is found what was found before. -/
theorem find?_create_of_ne (h : create raw type table = .ok id after) {other : BoxedId}
    (hne : other ≠ id) : after.find? other = table.find? other := by
  obtain ⟨-, searched, hsameObjects, rfl⟩ := create_eq_ok h
  rw [find?_insert_of_ne hne, hsameObjects.find?_eq]

/-- An object under a usable id can be told from all others. -/
theorem Sound.create (hsound : table.Sound) (h : create raw type table = .ok id after) :
    after.Sound := by
  obtain ⟨husable, searched, hsameObjects, rfl⟩ := create_eq_ok h
  obtain ⟨hne, hnotRaw, hfind⟩ := isUsable_iff.mp husable
  have hkept := hsameObjects.sound hsound
  refine ⟨?_, ?_, ?_, hkept.free_lt⟩
  · refine List.nodup_cons.mpr ⟨fun hmem => ?_, hkept.nodup⟩
    obtain ⟨entry, hpresent, hboxed⟩ := List.mem_map.mp hmem
    have hfound := hkept.find?_boxed hpresent
    rw [hboxed, hsameObjects.find?_eq, hfind] at hfound
    cases hfound
  · exact List.forall_mem_cons.mpr ⟨hne, hkept.ne_zero⟩
  · exact List.forall_mem_cons.mpr ⟨hnotRaw, hkept.ne_raw⟩

end Create

/-! ### Removing an object -/

section Destroy

variable {table after : BoxTable} {raw : UInt64} {id : BoxedId} {preserve : Bool}

/-- Only a slot of the table is freed. -/
theorem sameObjects_recycle (table : BoxTable) (id : BoxedId) :
    SameObjects table (table.recycle id) := by
  unfold recycle
  dsimp only
  split
  · exact .refl table
  · next current hget =>
      split
      · have hinside := (Array.getElem?_eq_some_iff.mp hget).1
        have hsize (generation : UInt16) :
            (table.setGeneration (BoxedId.slot id) generation).generations.size
              = table.generations.size := Array.size_setIfInBounds
        refine ⟨rfl, fun hexist => List.forall_mem_cons.mpr ⟨?_, fun slot hmem => ?_⟩⟩
        · rw [hsize]
          exact hinside
        · rw [hsize]
          exact hexist slot hmem
      · exact .refl table

/-- A destroyed object leaves the entries, and nothing else changes about the objects. -/
theorem destroy_eq_ok (hne : id ≠ 0) (h : destroy id preserve table = .ok raw after) :
    SameObjects (table.remove id) after := by
  simp only [destroy, if_neg hne] at h
  split at h
  · cases h
  · cases h
    have hrecycled := sameObjects_recycle (table.remove id) id
    cases preserve with
    | false => exact hrecycled
    | true => exact ⟨hrecycled.entries, hrecycled.free_lt⟩

/-- An attempt to destroy an object fails only if there is none. -/
theorem destroy_eq_error {cause : BoxingError}
    (h : destroy id preserve table = .error cause after) : after = table := by
  unfold destroy at h
  split at h
  · cases h
  · split at h
    · cases h
      rfl
    · cases h

/-- A table stays sound when an object leaves it. -/
theorem Sound.remove (hsound : table.Sound) (id : BoxedId) : (table.remove id).Sound where
  nodup := hsound.nodup.sublist (List.filter_sublist.map _)
  ne_zero entry hmem := hsound.ne_zero entry (List.mem_of_mem_filter hmem)
  ne_raw entry hmem := hsound.ne_raw entry (List.mem_of_mem_filter hmem)
  free_lt := hsound.free_lt

/-- An attempt to destroy an object concerns no other one. -/
theorem find?_destroy_of_ne {other : BoxedId} (hne : other ≠ id) :
    (stateOf (destroy id preserve table)).find? other = table.find? other := by
  by_cases heq : id = 0
  · subst heq
    rfl
  · cases h : destroy id preserve table with
    | ok raw after => exact ((destroy_eq_ok heq h).find?_eq other).trans (find?_remove_of_ne hne)
    | error cause after =>
        obtain rfl := destroy_eq_error h
        rfl

/-- An attempt to destroy an object leaves the table sound, and at most that object is gone. -/
theorem destroy_spec (hsound : table.Sound) (id : BoxedId) (preserve : Bool) :
    (stateOf (destroy id preserve table)).Sound ∧
      ∀ other, other ≠ id →
        (stateOf (destroy id preserve table)).find? other = table.find? other := by
  refine ⟨?_, fun other => find?_destroy_of_ne⟩
  by_cases heq : id = 0
  · subst heq
    exact hsound
  · cases h : destroy id preserve table with
    | ok raw after => exact (destroy_eq_ok heq h).sound (hsound.remove id)
    | error cause after =>
        obtain rfl := destroy_eq_error h
        exact hsound

/-- Destroying one object after another concerns only those that are listed, wherever it ends. -/
theorem find?_destroyAll_of_not_mem {ids : List BoxedId} {other : BoxedId} (hnotMem : other ∉ ids)
    (table : BoxTable) : (stateOf (destroyAll ids table)).find? other = table.find? other := by
  induction ids generalizing table with
  | nil => rfl
  | cons id rest ih =>
      have hfind : (stateOf (destroy id true table)).find? other = table.find? other :=
        find?_destroy_of_ne (List.ne_of_not_mem_cons hnotMem)
      rw [destroyAll]
      cases h : destroy id true table with
      | ok raw middle =>
          rw [h] at hfind
          rw [bind_of_ok h]
          exact (ih (List.not_mem_of_not_mem_cons hnotMem) middle).trans hfind
      | error cause middle =>
          rw [h] at hfind
          rw [bind_of_error h]
          exact hfind

/-- So does destroying one object after another, and only those are gone. -/
theorem destroyAll_spec (ids : List BoxedId) {table : BoxTable} (hsound : table.Sound) :
    (stateOf (destroyAll ids table)).Sound ∧
      ∀ other, other ∉ ids → (stateOf (destroyAll ids table)).find? other = table.find? other := by
  refine ⟨?_, fun other hnotMem => find?_destroyAll_of_not_mem hnotMem table⟩
  induction ids generalizing table with
  | nil => exact hsound
  | cons id rest ih =>
      have hfirst := (destroy_spec hsound id true).1
      rw [destroyAll]
      cases h : destroy id true table with
      | ok raw middle =>
          rw [h] at hfirst
          rw [bind_of_ok h]
          exact ih hfirst
      | error cause middle =>
          rw [h] at hfirst
          rw [bind_of_error h]
          exact hfirst

end Destroy

/-! ### Looking an id up -/

/-- Looking an object up changes nothing. -/
theorem stateOf_unwrap (id : BoxedId) (table : BoxTable) : stateOf (unwrap id table) = table := by
  unfold unwrap
  split <;> rfl

/-- Queueing an object looks its id up, and leaves everything but the queue alone. -/
theorem defer_eq (id : BoxedId) (table : BoxTable) :
    defer id table
      = match table.resolve id with
        | .ok raw =>
          .ok raw { table with pending := if id = 0 then table.pending else table.pending ++ [id] }
        | .error cause => .error cause table := by
  unfold defer unwrap
  simp only [bind, EStateM.bind]
  cases table.resolve id with
  | ok raw =>
      by_cases heq : id = 0
      · subst heq
        rfl
      · have hbne : (id != 0) = true := by simpa using heq
        simp only [hbne, if_true, if_neg heq]
        rfl
  | error cause => rfl

/-- An object that is queued for destruction stays what it is. -/
theorem sameObjects_defer (table : BoxTable) (id : BoxedId) :
    SameObjects table (stateOf (defer id table)) := by
  rw [defer_eq]
  cases table.resolve id with
  | ok raw => exact ⟨rfl, fun hexist => hexist⟩
  | error cause => exact .refl table

end BoxTable

/-! ### Runs -/

/-- An operation on a table, as it is open to whoever holds the table. What is proved of all lists
of operations holds for every use of a table. -/
inductive TableOp where
  | create (raw : UInt64) (type : HandleType)
  | unwrap (id : BoxedId)
  | destroy (id : BoxedId) (preserve : Bool)
  | defer (id : BoxedId)
  | commit
  | discard
  | release
  | reserve (ids : List BoxedId)
  | clearReservations

namespace TableOp

open BoxTable

/-- The table that an operation leaves, whether it succeeds or not. An operation that fails may have
changed the table before. -/
def apply (table : BoxTable) : TableOp → BoxTable
  | create raw type => stateOf (BoxTable.create raw type table)
  | unwrap id => stateOf (BoxTable.unwrap id table)
  | destroy id preserve => stateOf (BoxTable.destroy id preserve table)
  | defer id => stateOf (BoxTable.defer id table)
  | commit => stateOf (commitDestroys table)
  | discard => table.discardDestroys
  | release => table.releasePreserved
  | reserve ids => table.reserve ids
  | clearReservations => table.clearReservations

/-- Whether an operation may enter or remove objects. -/
def changesObjects : TableOp → Bool
  | create _ _ | destroy _ _ | commit => true
  | _ => false

/-- An operation that neither creates nor destroys leaves the objects alone. -/
theorem sameObjects_apply {op : TableOp} (h : op.changesObjects = false) (table : BoxTable) :
    SameObjects table (op.apply table) := by
  cases op with
  | create raw type | destroy id preserve | commit => cases h
  | unwrap id =>
      rw [apply, stateOf_unwrap]
      exact .refl table
  | defer id => exact sameObjects_defer table id
  | discard | release | reserve ids | clearReservations => exact ⟨rfl, fun hexist => hexist⟩

/-- Every operation keeps a table sound. -/
theorem sound_apply {table : BoxTable} (hsound : table.Sound) (op : TableOp) :
    (op.apply table).Sound := by
  by_cases h : op.changesObjects = false
  · exact (sameObjects_apply h table).sound hsound
  · cases op with
    | create raw type =>
        cases hcreate : BoxTable.create raw type table with
        | ok id after =>
            rw [apply, hcreate]
            exact hsound.create hcreate
        | error cause after =>
            rw [apply, hcreate]
            exact (create_eq_error hcreate).sound hsound
    | destroy id preserve => exact (destroy_spec hsound id preserve).1
    | commit =>
        have hemptied : SameObjects table { table with pending := [] } :=
          ⟨rfl, fun hexist => hexist⟩
        exact (destroyAll_spec table.pending (hemptied.sound hsound)).1
    | unwrap id | defer id | discard | release | reserve ids | clearReservations =>
        exact absurd rfl h

/-- The table that a run of operations makes of an empty one. -/
def run (ops : List TableOp) : BoxTable := ops.foldl apply {}

/-- Every run leaves a sound table. -/
theorem sound_run (ops : List TableOp) : (run ops).Sound := by
  have hkept (table : BoxTable) (hsound : table.Sound) : (ops.foldl apply table).Sound := by
    induction ops generalizing table with
    | nil => exact hsound
    | cons op rest ih => exact ih (apply table op) (sound_apply hsound op)
  exact hkept {} sound_empty

/-- Whatever was done to a table, its ids are told apart from each other, from zero and from the
objects' own values, and its free slots exist. A new object then takes an id that was not live, a
destroyed one gives up its own id and no other, and no other operation changes what any id resolves
to. Operations that fail are no exception, and carrying out the queue concerns only what is
queued. -/
theorem live_ids_of_run (ops : List TableOp) :
    (∀ entry ∈ (run ops).entries, (run ops).find? entry.boxed = some entry ∧
        entry.boxed ≠ 0 ∧ entry.boxed ≠ entry.raw) ∧
      (∀ slot ∈ (run ops).free, slot.toNat < (run ops).generations.size) ∧
      (∀ raw type id after, BoxTable.create raw type (run ops) = .ok id after →
        (run ops).isLive id = false ∧ after.resolve id = .ok raw ∧
          ∀ other, other ≠ id → after.resolve other = (run ops).resolve other) ∧
      (∀ id preserve raw after, id ≠ 0 → BoxTable.destroy id preserve (run ops) = .ok raw after →
        after.resolve id = .error (.unknownHandle id) ∧
          ∀ other, other ≠ id → after.resolve other = (run ops).resolve other) ∧
      ((run ops).resolve 0 = .ok 0 ∧
        ∀ preserve, BoxTable.destroy 0 preserve (run ops) = .ok 0 (run ops)) ∧
      (∀ op : TableOp, op.changesObjects = false →
        ∀ id, (op.apply (run ops)).resolve id = (run ops).resolve id) ∧
      (∀ raw type cause after, BoxTable.create raw type (run ops) = .error cause after →
        ∀ id, after.resolve id = (run ops).resolve id) ∧
      (∀ id preserve cause after, BoxTable.destroy id preserve (run ops) = .error cause after →
        after = run ops) ∧
      ∀ id, id ∉ (run ops).pending →
        (commit.apply (run ops)).resolve id = (run ops).resolve id := by
  -- All that the clauses need is that the table is sound; what led to it does not matter.
  have hsound := sound_run ops
  generalize run ops = table at hsound
  refine ⟨fun entry hmem => ⟨hsound.find?_boxed hmem, hsound.ne_zero entry hmem,
    hsound.ne_raw entry hmem⟩, hsound.free_lt, ?created, ?destroyed, ⟨rfl, fun _ => rfl⟩, ?others,
    ?failed, ?refused, ?committed⟩
  case created =>
    intro raw type id after h
    obtain ⟨hne, -, hfind⟩ := isUsable_iff.mp (create_eq_ok h).1
    refine ⟨?_, ?_, fun other hdiffers => resolve_congr (find?_create_of_ne h hdiffers)⟩
    · rw [isLive, hfind, Option.isSome_none]
    · rw [resolve, if_neg hne, find?_create_self h]
  case destroyed =>
    intro id preserve raw after hne h
    have hsameObjects := destroy_eq_ok hne h
    refine ⟨?_, fun other hdiffers => ?_⟩
    · rw [resolve, if_neg hne, hsameObjects.find?_eq, find?_remove_self]
    · exact resolve_congr ((hsameObjects.find?_eq other).trans (find?_remove_of_ne hdiffers))
  case others =>
    intro op h id
    exact resolve_congr ((sameObjects_apply h table).find?_eq id)
  case failed =>
    intro raw type cause after h id
    exact resolve_congr ((create_eq_error h).find?_eq id)
  case refused =>
    intro id preserve cause after h
    exact destroy_eq_error h
  case committed =>
    intro id hnotMem
    have hemptied : SameObjects table { table with pending := [] } := ⟨rfl, fun hexist => hexist⟩
    exact resolve_congr ((destroyAll_spec table.pending (hemptied.sound hsound)).2 id hnotMem)

end TableOp

end CallStream
