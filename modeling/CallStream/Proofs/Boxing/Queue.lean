import CallStream.Proofs.Boxing.LiveIds
import Mathlib.Data.List.Induction

/-!
# Carrying out the queue

While a call is read, the objects that it destroys are queued, and each of them is live at that
time. When the queue is carried out, the ids are looked up again, one after another. An id that was
queued once is still live then. One that was queued twice is gone when it comes up again, and that
ends the queue: the objects in front of it are destroyed, and those behind it live on.

## Main results

* `destroyAll_of_nodup`: a queue without repetitions destroys all of its objects.
* `preserved_destroyAll`: the ids of these are listed in the order of the queue.
* `destroyAll_of_repeats`: a queue with a repetition destroys what stands in front of the first one.
* `commitDestroys_cases`: so the queue of a table is carried out to its end, or to its first
  repetition.
-/

namespace CallStream

/-- A list has no repetitions, or there is a first one. -/
theorem nodup_or_repeats {α : Type} (list : List α) :
    list.Nodup ∨ ∃ front again back, list = front ++ again :: back ∧ front.Nodup ∧
      again ∈ front := by
  induction list using List.reverseRecOn with
  | nil => exact Or.inl List.nodup_nil
  | append_singleton list last ih =>
      rcases ih with hnodup | ⟨front, again, back, rfl, hnodup, hrepeats⟩
      · by_cases hmem : last ∈ list
        · exact Or.inr ⟨list, last, [], rfl, hnodup, hmem⟩
        · refine Or.inl (hnodup.append (List.nodup_singleton last) ?_)
          rwa [List.disjoint_singleton]
      · refine Or.inr ⟨front, again, back ++ [last], ?_, hnodup, hrepeats⟩
        rw [List.append_assoc, List.cons_append]

namespace BoxTable

variable {table before after : BoxTable} {ids front back : List BoxedId} {id : BoxedId}

/-- The objects of the ids are gone, and every other one lives on. Ids that were unknown before are
allowed in the list. -/
def Without (ids : List BoxedId) (before after : BoxTable) : Prop :=
  ∀ id, after.find? id = if id ∈ ids then none else before.find? id

/-- A table is without none of its objects. -/
theorem Without.refl (table : BoxTable) : Without [] table table := fun _ => rfl

/-- Only the objects matter. -/
theorem Without.congr {middle : BoxTable} (h : Without ids before middle)
    (hentries : after.entries = middle.entries) : Without ids before after := by
  intro id
  rw [find?, hentries]
  exact h id

/-- The ids that a table is without are unknown, and all others stand for what they stood for. -/
theorem Without.resolve_eq (h : Without ids before after) (hnotMem : 0 ∉ ids) (id : BoxedId) :
    after.resolve id = if id ∈ ids then .error (.unknownHandle id) else before.resolve id := by
  have hfind := h id
  split at hfind
  · next hmem =>
      have hne : id ≠ 0 := fun heq => hnotMem (heq ▸ hmem)
      rw [if_pos hmem, resolve, if_neg hne, hfind]
  · next hspared => rw [if_neg hspared, resolve_congr hfind]

/-- Destroying the objects of a list ended at `again`, which had been listed before: those in front
of it are gone, and those behind it live on. -/
def Interrupted (ids : List BoxedId) (again : BoxedId) (before after : BoxTable) : Prop :=
  ∃ front back, ids = front ++ again :: back ∧ front.Nodup ∧ again ∈ front ∧
    Without front before after

/-- A live object can be destroyed, and only it is gone. -/
theorem destroy_of_live (hne : id ≠ 0) (hisLive : table.isLive id = true) :
    ∃ raw after, destroy id true table = .ok raw after ∧ Without [id] table after := by
  obtain ⟨entry, hfind⟩ := Option.isSome_iff_exists.mp hisLive
  cases hdestroy : destroy id true table with
  | error cause after =>
      rw [destroy, if_neg hne, hfind] at hdestroy
      cases hdestroy
  | ok raw after =>
      refine ⟨raw, after, rfl, fun other => ?_⟩
      rw [(destroy_eq_ok hne hdestroy).find?_eq other]
      by_cases heq : other = id
      · rw [if_pos (List.mem_singleton.mpr heq), heq, find?_remove_self]
      · rw [if_neg (fun hmem => heq (List.mem_singleton.mp hmem)), find?_remove_of_ne heq]

/-- Live objects that are listed once each are destroyed, and only they are gone. -/
theorem destroyAll_of_nodup (hnodup : ids.Nodup) (hnotMem : 0 ∉ ids)
    (hlive : ∀ id ∈ ids, table.isLive id = true) :
    ∃ after, destroyAll ids table = .ok () after ∧ Without ids table after := by
  induction ids generalizing table with
  | nil => exact ⟨table, rfl, fun id => rfl⟩
  | cons id rest ih =>
      obtain ⟨honce, hothers⟩ := List.nodup_cons.mp hnodup
      obtain ⟨hisLive, hrestLive⟩ := List.forall_mem_cons.mp hlive
      obtain ⟨raw, middle, hdestroy, hwithout⟩ :=
        destroy_of_live (List.ne_of_not_mem_cons hnotMem).symm hisLive
      -- The others are still there, as the first object is none of them.
      have hstillLive (other : BoxedId) (hmem : other ∈ rest) : middle.isLive other = true := by
        have hdiffers : other ∉ [id] := fun hsame => honce (List.mem_singleton.mp hsame ▸ hmem)
        rw [isLive, hwithout other, if_neg hdiffers]
        exact hrestLive other hmem
      obtain ⟨after, hdestroyAll, hgoneRest⟩ :=
        ih hothers (List.not_mem_of_not_mem_cons hnotMem) hstillLive
      refine ⟨after, (bind_of_ok hdestroy).trans hdestroyAll, fun other => ?_⟩
      rw [hgoneRest other, hwithout other]
      by_cases hlater : other ∈ rest
      · rw [if_pos hlater, if_pos (List.mem_cons_of_mem id hlater)]
      · by_cases heq : other = id
        · rw [if_neg hlater, if_pos (List.mem_singleton.mpr heq), if_pos (heq ▸ List.mem_cons_self)]
        · rw [if_neg hlater, if_neg (fun hmem => heq (List.mem_singleton.mp hmem)),
            if_neg (fun hmem => (List.mem_cons.mp hmem).elim heq hlater)]

/-- Two queues, one behind the other, are carried out one behind the other. -/
theorem destroyAll_append (front back : List BoxedId) :
    destroyAll (front ++ back) = destroyAll front >>= fun _ => destroyAll back := by
  induction front with
  | nil => rfl
  | cons id front ih => simp only [List.cons_append, destroyAll, ih, bind_assoc]

/-- Recycling a slot leaves alone what is preserved. -/
theorem preserved_recycle (table : BoxTable) (id : BoxedId) :
    (table.recycle id).preserved = table.preserved := by
  simp only [recycle]
  split
  · rfl
  · split <;> rfl

/-- Objects that are destroyed are listed one behind the other. -/
theorem preserved_destroyAll (hnotMem : 0 ∉ ids) (h : destroyAll ids table = .ok () after) :
    after.preserved = table.preserved ++ ids := by
  induction ids generalizing table with
  | nil =>
      cases h
      rw [List.append_nil]
  | cons id rest ih =>
      obtain ⟨raw, middle, hdestroy, hdestroyAll⟩ := bind_eq_ok_iff.mp h
      have hpreserved : middle.preserved = table.preserved ++ [id] := by
        rw [destroy, if_neg (List.ne_of_not_mem_cons hnotMem).symm] at hdestroy
        split at hdestroy
        · cases hdestroy
        · cases hdestroy
          exact congrArg (· ++ [id]) (preserved_recycle (table.remove id) id)
      rw [ih (List.not_mem_of_not_mem_cons hnotMem) hdestroyAll, hpreserved, List.append_assoc,
        List.singleton_append]

/-- An object that is listed again is not there any more. Those in front of it are gone, and those
behind it live on. -/
theorem destroyAll_of_repeats (hnodup : front.Nodup) (hnotMem : 0 ∉ front)
    (hlive : ∀ id ∈ front, table.isLive id = true) (hmem : id ∈ front) (back : List BoxedId) :
    ∃ after, destroyAll (front ++ id :: back) table = .error (.unknownHandle id) after ∧
      Without front table after := by
  obtain ⟨after, hdestroyAll, hwithout⟩ := destroyAll_of_nodup hnodup hnotMem hlive
  have hne : id ≠ 0 := fun heq => hnotMem (heq ▸ hmem)
  have hfind : after.find? id = none := by rw [hwithout id, if_pos hmem]
  have hdestroy : destroy id true after = .error (.unknownHandle id) after := by
    rw [destroy, if_neg hne, hfind]
  refine ⟨after, ?_, hwithout⟩
  rw [destroyAll_append, bind_of_ok hdestroyAll, destroyAll, bind_of_error hdestroy]

/-- A queue of live objects is carried out to its end, or to the first id that repeats. -/
theorem commitDestroys_cases (hnotMem : 0 ∉ table.pending)
    (hlive : ∀ id ∈ table.pending, table.isLive id = true) :
    (table.pending.Nodup ∧
      ∃ after, commitDestroys table = .ok () after ∧ Without table.pending table after) ∨
    ∃ again after, commitDestroys table = .error (.unknownHandle again) after ∧
      Interrupted table.pending again table after := by
  have hstillLive : ∀ id ∈ table.pending, isLive { table with pending := [] } id = true := hlive
  rcases nodup_or_repeats table.pending with hnodup |
    ⟨front, again, back, hpending, hnodup, hrepeats⟩
  · exact Or.inl ⟨hnodup, destroyAll_of_nodup hnodup hnotMem hstillLive⟩
  · have hinside : front ⊆ table.pending := hpending ▸ List.subset_append_left front (again :: back)
    obtain ⟨after, hdestroyAll, hwithout⟩ :=
      destroyAll_of_repeats hnodup (fun hmem => hnotMem (hinside hmem))
        (fun id hmem' => hstillLive id (hinside hmem')) hrepeats back
    rw [← hpending] at hdestroyAll
    exact Or.inr ⟨again, after, hdestroyAll, front, back, hpending, hnodup, hrepeats, hwithout⟩

end BoxTable

end CallStream
