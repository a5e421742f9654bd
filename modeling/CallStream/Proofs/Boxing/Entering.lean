import CallStream.Proofs.Boxing.LiveIds
import Mathlib.Data.List.Forall2

/-!
# Objects that enter one after another

Each object that enters takes an id that stands for nothing at that time, and no other object is
touched. So the ids of objects that enter one after another are distinct and stood for nothing
before the first of them entered, and behind the last one each of them still stands for its object.

## Main results

* `Enters`, `Enters.trans`: the ids of the objects that entered, one group behind another.
* `StandsFor`: what a guest gets for a handle of the driver.
* `standsFor_of_mapM`: what it gets for the handles of a list.
-/

namespace CallStream.BoxTable

/-- The objects of `ids` entered the table, and the others are as they were. The ids are new and
differ from one another, which is what lets replies be read as lists of new objects. -/
structure Enters (before after : BoxTable) (ids : List BoxedId) : Prop where
  nodup : ids.Nodup
  fresh : ∀ id ∈ ids, before.find? id = none
  live : ∀ id ∈ ids, after.isLive id = true
  others : ∀ id, id ∉ ids → after.find? id = before.find? id

/-- Nothing enters where the entries stay as they are. -/
theorem enters_nil {before after : BoxTable} (hentries : after.entries = before.entries) :
    Enters before after [] where
  nodup := List.nodup_nil
  fresh _ hmem := absurd hmem List.not_mem_nil
  live _ hmem := absurd hmem List.not_mem_nil
  others _ _ := by rw [find?, find?, hentries]

/-- A table is entered by nobody when nothing is done. -/
theorem Enters.refl (table : BoxTable) : Enters table table [] := enters_nil rfl

namespace Enters

variable {before middle after : BoxTable} {ids front back : List BoxedId} {id : BoxedId}

/-- What was live is live, as the same object. -/
theorem find?_eq_some (h : Enters before after ids) {entry : BoxedEntry}
    (hfind : before.find? id = some entry) : after.find? id = some entry := by
  have hnotMem : id ∉ ids := fun hmem => nomatch (h.fresh id hmem).symm.trans hfind
  rw [h.others id hnotMem, hfind]

/-- What is not live was not live. -/
theorem find?_eq_none (h : Enters before after ids) (hfind : after.find? id = none) :
    before.find? id = none := by
  cases hfound : before.find? id with
  | none => rfl
  | some entry => exact nomatch (h.find?_eq_some hfound).symm.trans hfind

/-- Objects enter one after another. -/
theorem trans (h : Enters before middle front) (h' : Enters middle after back) :
    Enters before after (front ++ back) where
  nodup := by
    -- In the middle, the ids of the first group are live and those of the second are free.
    refine h.nodup.append h'.nodup fun id hmem hsecond => ?_
    obtain ⟨entry, hfind⟩ := Option.isSome_iff_exists.mp (h.live id hmem)
    exact nomatch (h'.fresh id hsecond).symm.trans hfind
  fresh id hmem' := by
    rcases List.mem_append.mp hmem' with hmem | hsecond
    · exact h.fresh id hmem
    · exact h.find?_eq_none (h'.fresh id hsecond)
  live id hmem' := by
    rcases List.mem_append.mp hmem' with hmem | hsecond
    · obtain ⟨entry, hfind⟩ := Option.isSome_iff_exists.mp (h.live id hmem)
      exact Option.isSome_iff_exists.mpr ⟨entry, h'.find?_eq_some hfind⟩
    · exact h'.live id hsecond
  others id hnotMem := by
    rw [h'.others id fun hsecond => hnotMem (List.mem_append_right front hsecond),
      h.others id fun hmem => hnotMem (List.mem_append_left back hmem)]

end Enters

variable {table after : BoxTable} {raw id : UInt64} {type : HandleType}

/-- An object enters under its id. -/
theorem enters_create (h : create raw type table = .ok id after) : Enters table after [id] where
  nodup := List.nodup_singleton id
  fresh := List.forall_mem_singleton.mpr (isUsable_iff.mp (create_eq_ok h).1).2.2
  live := List.forall_mem_singleton.mpr (congrArg Option.isSome (find?_create_self h))
  others _ hnotMem := find?_create_of_ne h fun heq => hnotMem (List.mem_singleton.mpr heq)

/-! ### Handles of the driver -/

/-- What a guest gets for the driver's handle `raw`: null for null, and otherwise an id that stood
for nothing before and stands for the handle now. -/
def StandsFor (type : HandleType) (before after : BoxTable) (raw id : UInt64) : Prop :=
  if raw = 0 then id = 0
  else id ≠ 0 ∧ before.find? id = none ∧ after.find? id = some ⟨id, raw, type⟩

/-- An id goes on standing for its handle while other objects enter, and stood for nothing before
others entered. -/
theorem StandsFor.widen {first second third fourth : BoxTable} {front back : List BoxedId}
    (h : StandsFor type second third raw id) (henters : Enters first second front)
    (hlater : Enters third fourth back) : StandsFor type first fourth raw id := by
  unfold StandsFor at h ⊢
  split at h
  · next heq => rwa [if_pos heq]
  · next hobject =>
      obtain ⟨hne, hfind, hfound⟩ := h
      rw [if_neg hobject]
      exact ⟨hne, henters.find?_eq_none hfind, hlater.find?_eq_some hfound⟩

/-- The ids in a list that are not null. -/
def nonnull (ids : List UInt64) : List BoxedId := ids.filter (· != 0)

/-- One handle gets an id, unless it is null. -/
theorem standsFor_of_step
    (h : (if raw = 0 then pure 0 else create raw type : Boxing UInt64) table = .ok id after) :
    StandsFor type table after raw id ∧ Enters table after (nonnull [id]) := by
  unfold StandsFor
  split at h
  · next heq =>
      cases h
      rw [if_pos heq]
      exact ⟨rfl, .refl table⟩
  · next hobject =>
      obtain ⟨hne, -, hfind⟩ := isUsable_iff.mp (create_eq_ok h).1
      have hnonnull : nonnull [id] = [id] := List.filter_cons_of_pos (bne_iff_ne.mpr hne)
      rw [if_neg hobject, hnonnull]
      exact ⟨⟨hne, hfind, find?_create_self h⟩, enters_create h⟩

/-- The handles of a list get ids one after another. -/
theorem standsFor_of_mapM {raws ids : List UInt64}
    (h : raws.mapM (fun raw => (if raw = 0 then pure 0 else create raw type : Boxing UInt64)) table
      = .ok ids after) :
    List.Forall₂ (StandsFor type table after) raws ids ∧ Enters table after (nonnull ids) := by
  induction raws generalizing table ids with
  | nil =>
      cases h
      exact ⟨.nil, .refl _⟩
  | cons raw rest ih =>
      rw [List.mapM_cons] at h
      obtain ⟨id, middle, hbranch, h⟩ := bind_eq_ok_iff.mp h
      obtain ⟨others, last, hsteppedRest, hpure⟩ := bind_eq_ok_iff.mp h
      cases hpure
      obtain ⟨hstandsFor, henters⟩ := standsFor_of_step hbranch
      obtain ⟨hbehind, henteredRest⟩ := ih hsteppedRest
      refine ⟨.cons (hstandsFor.widen (.refl table) henteredRest) ?_, ?_⟩
      · exact hbehind.imp fun raw id hstands => hstands.widen henters (.refl _)
      · have hnonnull : nonnull ([id] ++ others) = nonnull [id] ++ nonnull others :=
          List.filter_append ..
        exact hnonnull ▸ henters.trans henteredRest

end CallStream.BoxTable
