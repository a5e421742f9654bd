import CallStream.Scratch
import Mathlib.Data.List.Induction
import Mathlib.Data.List.Infix
import Mathlib.Order.Bounds.Defs

/-!
# Parts of the scratch memory

Parts are handed out behind what is in use, so those that are out lie one behind the other, and
nothing that is done to one is seen in another. The history of a pool keeps the parts that are out,
each with the bytes that were last put into it (`ScratchHistory`); that they lie apart and hold
these bytes is the invariant of a run (`Intact`).

## Main results

* `isLeast_alloc`: a part lies at the least possible offset, behind what is in use.
* `alloc_eq_addressOverflow_iff`, `alloc_eq_capacityOverflow_iff`: a part is refused only if an
  address is too large, and the process ends only if the pool would be longer than a buffer can be.
* `Intact.append`, `Intact.write`: what handing out a part, and writing into one, does to those that
  are out.
* `intact_run`: after any operations, the parts that are out lie apart and hold what was put into
  them.
* `isGreatest_highWater`: the high-water mark is the most that was ever in use.
* `parts_of_run`: all of it, of the pool and the parts after any operations.
-/

namespace CallStream

namespace Bytes

/-- Bytes outside of what was put into a string are as before. -/
theorem slice_splice_of_apart {bytes content : Bytes} {offset other length : Nat}
    (hinside : offset + content.length ≤ bytes.length)
    (hapart : other + length ≤ offset ∨ offset + content.length ≤ other) :
    slice (splice bytes offset content) other length = slice bytes other length := by
  have hlength : (bytes.take offset).length = offset := List.length_take_of_le (by omega)
  have hsame (index : Nat) (houtside : index < offset ∨ offset + content.length ≤ index) :
      (splice bytes offset content)[index]? = bytes[index]? := by
    rw [splice, List.append_assoc]
    rcases houtside with hlt | hle
    · rw [List.getElem?_append_left (by omega), List.getElem?_take_of_lt hlt]
    · rw [List.getElem?_append_right (by omega), List.getElem?_append_right (by omega), hlength,
        List.getElem?_drop]
      congr 1
      omega
  refine List.ext_getElem? fun index => ?_
  simp only [slice, List.getElem?_take, List.getElem?_drop]
  split
  · exact hsame _ (by omega)
  · rfl

end Bytes

namespace ScratchPool

/-! ### Handing out a part -/

section Alloc

variable {pool after : ScratchPool} {slice other : ScratchSlice} {size alignment : Nat}

/-- Rounding up gives the least multiple. -/
theorem isLeast_alignUp? {value aligned : Nat} (hlt : 0 < alignment)
    (h : alignUp? value alignment = some aligned) :
    IsLeast {multiple | value ≤ multiple ∧ alignment ∣ multiple} aligned := by
  refine ⟨⟨used_le_alignUp? hlt h, alignUp?_dvd h⟩, fun multiple ⟨hle, hdivides⟩ => ?_⟩
  simp only [alignUp?] at h
  split at h
  · cases h
    obtain ⟨factor, rfl⟩ := hdivides
    rw [Nat.mul_comm alignment]
    refine Nat.mul_le_mul_right _ (Nat.le_of_lt_succ ((Nat.div_lt_iff_lt_mul hlt).mpr ?_))
    rw [Nat.succ_mul, Nat.mul_comm factor]
    omega
  · cases h

/-- A part lies at the least multiple of its alignment behind what is in use. -/
theorem isLeast_alloc (h : pool.alloc size alignment = .ok (slice, after)) :
    IsLeast {offset | pool.used ≤ offset ∧ max alignment 1 ∣ offset} slice.offset :=
  isLeast_alignUp? (Nat.lt_of_lt_of_le Nat.one_pos (Nat.le_max_right _ _)) (alloc_eq_ok h).1

/-- A part is refused only if its offset or its end cannot be computed in an address. -/
theorem alloc_eq_addressOverflow_iff : pool.alloc size alignment = .error .addressOverflow ↔
    addressLimit ≤ pool.used + (max alignment 1 - 1) ∨
      ∃ offset, alignUp? pool.used (max alignment 1) = some offset ∧
        addressLimit ≤ offset + size := by
  have hnone : alignUp? pool.used (max alignment 1) = none
      ↔ addressLimit ≤ pool.used + (max alignment 1 - 1) := by
    simp [alignUp?]
  rw [← hnone, alloc]
  cases alignUp? pool.used (max alignment 1) with
  | none => simp
  | some offset =>
      by_cases haddress : addressLimit ≤ offset + size
      · simp [haddress]
      · by_cases hcapacity : Bytes.maxLength < offset + size <;> simp [haddress, hcapacity]

/-- The process ends only if there are addresses, and the part would end behind the last byte that a
buffer can have. -/
theorem alloc_eq_capacityOverflow_iff : pool.alloc size alignment = .error .capacityOverflow ↔
    ∃ offset, alignUp? pool.used (max alignment 1) = some offset ∧
      offset + size < addressLimit ∧ Bytes.maxLength < offset + size := by
  rw [alloc]
  cases alignUp? pool.used (max alignment 1) with
  | none => simp
  | some offset =>
      by_cases haddress : addressLimit ≤ offset + size
      · simp [haddress, Nat.not_lt.mpr haddress]
      · by_cases hcapacity : Bytes.maxLength < offset + size <;>
          simp [haddress, hcapacity, Nat.lt_of_not_le haddress]

/-- What is in use afterwards ends with the part. -/
theorem used_alloc (h : pool.alloc size alignment = .ok (slice, after)) :
    pool.used ≤ slice.offset ∧ after.used = slice.offset + slice.length := by
  obtain ⟨⟨hbehind, -⟩, -⟩ := isLeast_alloc h
  obtain ⟨-, rfl, -, -, rfl⟩ := alloc_eq_ok h
  refine ⟨hbehind, ?_⟩
  simp only [used, List.length_append, List.length_replicate] at hbehind ⊢
  omega

/-- Bytes that were in use before are as they were. -/
theorem get_alloc_of_le (h : pool.alloc size alignment = .ok (slice, after))
    (hinside : other.offset + other.length ≤ pool.used) : after.get other = pool.get other := by
  obtain ⟨-, -, -, -, rfl⟩ := alloc_eq_ok h
  simp only [used] at hinside
  rw [get, get, Bytes.slice, Bytes.slice, List.drop_append_of_le_length (by omega),
    List.take_append_of_le_length (by rw [List.length_drop]; omega)]

end Alloc

/-! ### Writing into a part -/

section Write

variable {pool : ScratchPool} {slice other : ScratchSlice} {content : Bytes}

/-- Writing into memory that is in use takes no more of it. -/
theorem used_write (hlength : content.length = slice.length)
    (hinside : slice.offset + slice.length ≤ pool.used) :
    (pool.write slice content).used = pool.used :=
  Bytes.length_splice (by rwa [hlength])

/-- Bytes outside of the part are as they were. -/
theorem get_write_of_apart (hlength : content.length = slice.length)
    (hinside : slice.offset + slice.length ≤ pool.used)
    (hapart : other.offset + other.length ≤ slice.offset ∨
      slice.offset + slice.length ≤ other.offset) :
    (pool.write slice content).get other = pool.get other :=
  Bytes.slice_splice_of_apart (by rwa [hlength]) (by rwa [hlength])

/-- Staging bytes hands a part out and writes them into it. -/
theorem stage_eq_ok {after : ScratchPool} (h : pool.stage content = .ok (slice, after)) :
    ∃ middle, pool.alloc content.length 1 = .ok (slice, middle) ∧
      content.length = slice.length ∧ after = middle.write slice content := by
  unfold stage at h
  cases halloc : pool.alloc content.length 1 with
  | error fault =>
      rw [halloc] at h
      cases h
  | ok allocated =>
      rw [halloc] at h
      cases h
      exact ⟨_, rfl, (alloc_eq_ok halloc).2.1.symm, rfl⟩

end Write

end ScratchPool

/-! ### Runs -/

/-- A pool and the parts that it handed out since it was last given up, in order, each with the
bytes that were last put into it. -/
structure ScratchHistory where
  pool : ScratchPool := {}
  parts : List (ScratchSlice × Bytes) := []

/-- An operation on a pool. A part that is out is written as a whole; it is named by its place in
the order of handing out. -/
inductive ScratchOp where
  | alloc (size alignment : Nat)
  | stage (content : Bytes)
  | write (place : Nat) (content : Bytes)
  | reset

namespace ScratchHistory

variable {history : ScratchHistory}

/-- The history after an operation. One that hands nothing out, or that writes another number of
bytes than the part has, changes nothing. -/
def apply (history : ScratchHistory) : ScratchOp → ScratchHistory
  | .alloc size alignment =>
    match history.pool.alloc size alignment with
    | .ok (slice, pool) => ⟨pool, history.parts ++ [(slice, List.replicate size 0)]⟩
    | .error _ => history
  | .stage content =>
    match history.pool.stage content with
    | .ok (slice, pool) => ⟨pool, history.parts ++ [(slice, content)]⟩
    | .error _ => history
  | .write place content =>
    match history.parts[place]? with
    | some (slice, _) =>
      if content.length = slice.length then
        ⟨history.pool.write slice content, history.parts.set place (slice, content)⟩
      else
        history
    | none => history
  | .reset => ⟨history.pool.reset, []⟩

/-- The history of operations on a new pool. -/
def run (ops : List ScratchOp) : ScratchHistory := ops.foldl apply {}

/-- One part ends before another starts. -/
def Before (slice other : ScratchSlice) : Prop := slice.offset + slice.length ≤ other.offset

/-- The parts that are out lie one behind the other within what is in use, and hold the bytes that
were last put into them. -/
structure Intact (history : ScratchHistory) : Prop where
  within : ∀ slice ∈ history.parts.map (·.1), slice.offset + slice.length ≤ history.pool.used
  apart : (history.parts.map (·.1)).Pairwise Before
  holds : ∀ (place : Nat) (slice : ScratchSlice) (content : Bytes),
    history.parts[place]? = some (slice, content) → history.pool.get slice = content

/-- Where no part is out, all parts are intact. -/
theorem intact_nil (pool : ScratchPool) : Intact ⟨pool, []⟩ where
  within slice hmem := absurd hmem List.not_mem_nil
  apart := List.Pairwise.nil
  holds place slice content hget := by cases hget

/-- A part that is out lies within what is in use. -/
theorem Intact.inside (h : Intact history) {place : Nat} {slice : ScratchSlice} {content : Bytes}
    (hget : history.parts[place]? = some (slice, content)) :
    slice.offset + slice.length ≤ history.pool.used :=
  h.within slice (List.mem_map_of_mem (List.mem_of_getElem? hget))

/-- A part is added behind the others, if these are left alone. -/
theorem Intact.append (h : Intact history) {pool : ScratchPool} {slice : ScratchSlice}
    {content : Bytes} (hle : history.pool.used ≤ slice.offset)
    (hused : pool.used = slice.offset + slice.length) (hget : pool.get slice = content)
    (hkept : ∀ other : ScratchSlice, other.offset + other.length ≤ history.pool.used →
      pool.get other = history.pool.get other) :
    Intact ⟨pool, history.parts ++ [(slice, content)]⟩ where
  within other hmem := by
    rw [List.map_append, List.mem_append] at hmem
    change other.offset + other.length ≤ pool.used
    rcases hmem with hold | hnew
    · have hinside := h.within other hold
      omega
    -- The new part ends where the pool ends.
    · obtain rfl := List.mem_singleton.mp hnew
      exact Nat.le_of_eq hused.symm
  apart := by
    rw [List.map_append, List.pairwise_append]
    refine ⟨h.apart, List.pairwise_singleton _ _, fun other hold new hmem => ?_⟩
    obtain rfl := List.mem_singleton.mp hmem
    -- Old parts lie before what was in use, and the new one behind it.
    exact Nat.le_trans (h.within other hold) hle
  holds place other bytes hfound := by
    rw [List.getElem?_append] at hfound
    split at hfound
    · exact (hkept other (h.inside hfound)).trans (h.holds place other bytes hfound)
    · obtain ⟨rfl, rfl⟩ : slice = other ∧ content = bytes := by
        have hpair := List.mem_singleton.mp (List.mem_of_getElem? hfound)
        exact ⟨(congrArg Prod.fst hpair).symm, (congrArg Prod.snd hpair).symm⟩
      exact hget

/-- What is written into a part is seen in no other. -/
theorem Intact.write (h : Intact history) {place : Nat} {slice : ScratchSlice} {old content : Bytes}
    (hget : history.parts[place]? = some (slice, old)) (hlength : content.length = slice.length) :
    Intact ⟨history.pool.write slice content, history.parts.set place (slice, content)⟩ := by
  have hinside := h.inside hget
  obtain ⟨hlt, his⟩ := List.getElem?_eq_some_iff.mp hget
  -- Writing changes the bytes of a part, not where it lies.
  have hmap : (history.parts.set place (slice, content)).map (·.1) = history.parts.map (·.1) := by
    have hslices : place < (history.parts.map (·.1)).length := by rwa [List.length_map]
    have his' : (history.parts.map (·.1))[place] = slice := by rw [List.getElem_map, his]
    calc (history.parts.set place (slice, content)).map (·.1)
        = (history.parts.map (·.1)).set place (history.parts.map (·.1))[place] := by
          rw [List.map_set, his']
      _ = history.parts.map (·.1) := List.set_getElem_self hslices
  refine ⟨fun other hmem => ?_, hmap ▸ h.apart, fun other part bytes hnow => ?_⟩
  · rw [hmap] at hmem
    exact (h.within other hmem).trans_eq (ScratchPool.used_write hlength hinside).symm
  · rw [List.getElem?_set] at hnow
    split at hnow
    · cases hnow
      exact ScratchPool.get_write hlength hinside
    · next hne =>
        obtain ⟨hpresent, hplace⟩ := List.getElem?_eq_some_iff.mp hnow
        have horder {left right : Nat} (hlt' : left < right)
            (hbound : right < history.parts.length) :
            Before history.parts[left].1 history.parts[right].1 := by
          have hsorted := List.pairwise_iff_getElem.mp h.apart left right
            (by rw [List.length_map]; omega) (by rwa [List.length_map]) hlt'
          simpa using hsorted
        -- Every other part lies wholly in front of this one or wholly behind it.
        have hapart : part.offset + part.length ≤ slice.offset ∨
            slice.offset + slice.length ≤ part.offset := by
          rcases Nat.lt_or_gt_of_ne hne with hbehind | hgt
          · have hsorted := horder hbehind hpresent
            rw [his, hplace] at hsorted
            exact Or.inr hsorted
          · have hsorted := horder hgt hlt
            rw [his, hplace] at hsorted
            exact Or.inl hsorted
        exact (ScratchPool.get_write_of_apart hlength hinside hapart).trans
          (h.holds other part bytes hnow)

/-- Every operation leaves the parts that are out intact. -/
theorem Intact.apply (h : Intact history) (op : ScratchOp) : Intact (history.apply op) := by
  cases op with
  | alloc size alignment =>
      rw [ScratchHistory.apply]
      split
      · next slice pool hfound =>
          obtain ⟨hle, hused⟩ := ScratchPool.used_alloc hfound
          exact h.append hle hused (ScratchPool.get_alloc hfound)
            fun other hinside => ScratchPool.get_alloc_of_le hfound hinside
      · exact h
  | stage content =>
      rw [ScratchHistory.apply]
      split
      · next slice pool hfound =>
          obtain ⟨middle, hallocated, hlength, rfl⟩ := ScratchPool.stage_eq_ok hfound
          obtain ⟨hle, hused⟩ := ScratchPool.used_alloc hallocated
          have hinside := Nat.le_of_eq hused.symm
          -- Staging is handing out a part and writing into it, and the part lies behind all others.
          refine h.append hle ((ScratchPool.used_write hlength hinside).trans hused)
            (ScratchPool.get_write hlength hinside) fun other hold => ?_
          rw [ScratchPool.get_write_of_apart hlength hinside (Or.inl (Nat.le_trans hold hle)),
            ScratchPool.get_alloc_of_le hallocated hold]
      · exact h
  | write place content =>
      rw [ScratchHistory.apply]
      split
      · next slice old hfound =>
          split
          · next hlength => exact h.write hfound hlength
          · exact h
      · exact h
  | reset => exact intact_nil history.pool.reset

/-- After any operations, the parts that are out are intact. -/
theorem intact_run (ops : List ScratchOp) : Intact (run ops) := by
  have hkept (history : ScratchHistory) (h : Intact history) :
      Intact (ops.foldl apply history) := by
    induction ops generalizing history with
    | nil => exact h
    | cons op rest ih => exact ih _ (h.apply op)
  exact hkept {} (intact_nil {})

/-! ### The high-water mark -/

/-- The last operation is applied to what the others leave. -/
theorem run_concat (ops : List ScratchOp) (op : ScratchOp) :
    run (ops ++ [op]) = (run ops).apply op := by
  rw [run, List.foldl_append, List.foldl_cons, List.foldl_nil, run]

/-- Only handing out a part moves the mark, to the end of the part if that is beyond it. -/
theorem highWater_apply (h : Intact history) (hle : history.pool.used ≤ history.pool.highWater)
    (op : ScratchOp) : (history.apply op).pool.highWater
      = max history.pool.highWater (history.apply op).pool.used := by
  cases op with
  | alloc size alignment =>
      rw [apply]
      split
      · next slice pool hfound =>
          obtain ⟨-, hused⟩ := ScratchPool.used_alloc hfound
          obtain ⟨-, rfl, -, -, hafter⟩ := ScratchPool.alloc_eq_ok hfound
          change pool.highWater = max history.pool.highWater pool.used
          rw [hused, hafter]
      · exact (Nat.max_eq_left hle).symm
  | stage content =>
      rw [apply]
      split
      · next slice pool hfound =>
          obtain ⟨middle, hallocated, hlength, rfl⟩ := ScratchPool.stage_eq_ok hfound
          obtain ⟨-, hused⟩ := ScratchPool.used_alloc hallocated
          obtain ⟨-, -, -, -, hafter⟩ := ScratchPool.alloc_eq_ok hallocated
          change middle.highWater = max history.pool.highWater (middle.write slice content).used
          rw [ScratchPool.used_write hlength (Nat.le_of_eq hused.symm), hused, hafter, ← hlength]
      · exact (Nat.max_eq_left hle).symm
  -- Writing into a part that is out does not change how much is in use.
  | write place content =>
      rw [apply]
      split
      · next slice old hfound =>
          have hinside := h.inside hfound
          split
          · next hlength =>
              change history.pool.highWater
                = max history.pool.highWater (history.pool.write slice content).used
              rw [ScratchPool.used_write hlength hinside, Nat.max_eq_left hle]
          · exact (Nat.max_eq_left hle).symm
      · exact (Nat.max_eq_left hle).symm
  | reset => exact (Nat.max_eq_left (Nat.zero_le _)).symm

/-- The high-water mark is the most that was in use at any time, whatever was given up since. -/
theorem isGreatest_highWater (ops : List ScratchOp) :
    IsGreatest {used | ∃ front, front <+: ops ∧ (run front).pool.used = used}
      (run ops).pool.highWater := by
  induction ops using List.reverseRecOn with
  | nil =>
      refine ⟨⟨[], List.prefix_rfl, rfl⟩, fun used ⟨front, hisPrefix, hused⟩ => ?_⟩
      obtain rfl := List.prefix_nil.mp hisPrefix
      exact Nat.le_of_eq hused.symm
  | append_singleton ops op ih =>
      obtain ⟨⟨front, hisPrefix, hreached⟩, hgreatest⟩ := ih
      have hhighWater := highWater_apply (intact_run ops) (hgreatest ⟨ops, List.prefix_rfl, rfl⟩) op
      rw [← run_concat] at hhighWater
      refine ⟨?_, fun used ⟨middle, hwithin, hused⟩ => ?_⟩
      -- Either the last operation goes higher than ever, or the highest point was reached before.
      · rcases Nat.le_total (run ops).pool.highWater (run (ops ++ [op])).pool.used with hle | hold
        · exact ⟨ops ++ [op], List.prefix_rfl, (hhighWater.trans (Nat.max_eq_right hle)).symm⟩
        · refine ⟨front, hisPrefix.trans (List.prefix_append ops [op]), ?_⟩
          rw [hreached, hhighWater, Nat.max_eq_left hold]
      · rw [hhighWater]
        rcases List.prefix_concat_iff.mp hwithin with rfl | hearlier
        · exact Nat.le_trans (Nat.le_of_eq hused.symm) (Nat.le_max_right _ _)
        · exact Nat.le_trans (hgreatest ⟨middle, hearlier, hused⟩) (Nat.le_max_left _ _)

/-- The parts that a pool hands out never overlap or disturb each other, whatever operations are
done on it. Those that are out lie within what is in use, each behind the ones before it, and each
reads back what was last put into it. The next part lies at the least multiple of its alignment that
is not in use and reads as zeros. If none is handed out nothing changes, and it is refused exactly
if an address would be too large. The high-water mark is the most that was ever in use. -/
theorem parts_of_run (ops : List ScratchOp) :
    (∀ part ∈ (run ops).parts, part.1.offset + part.1.length ≤ (run ops).pool.used ∧
        (run ops).pool.get part.1 = part.2) ∧
      (run ops).parts.Pairwise (fun part other => Before part.1 other.1) ∧
      (∀ size alignment slice after,
        (run ops).pool.alloc size alignment = .ok (slice, after) →
          IsLeast {offset | (run ops).pool.used ≤ offset ∧ max alignment 1 ∣ offset} slice.offset ∧
            slice.length = size ∧ after.used = slice.offset + size ∧
            after.get slice = List.replicate size 0) ∧
      (∀ size alignment fault, (run ops).pool.alloc size alignment = .error fault →
        run (ops ++ [.alloc size alignment]) = run ops ∧
          (fault = .addressOverflow ↔
            ScratchPool.addressLimit ≤ (run ops).pool.used + (max alignment 1 - 1) ∨
              ∃ offset, ScratchPool.alignUp? (run ops).pool.used (max alignment 1) = some offset ∧
                ScratchPool.addressLimit ≤ offset + size)) ∧
      IsGreatest {used | ∃ front, front <+: ops ∧ (run front).pool.used = used}
        (run ops).pool.highWater := by
  have hintact := intact_run ops
  refine ⟨fun part hpart => ?parts, List.pairwise_map.mp hintact.apart,
    fun size alignment slice after halloc => ?next, fun size alignment fault halloc => ?none,
    isGreatest_highWater ops⟩
  case parts =>
    obtain ⟨place, hplace⟩ := List.mem_iff_getElem?.mp hpart
    exact ⟨hintact.within part.1 (List.mem_map_of_mem hpart),
      hintact.holds place part.1 part.2 hplace⟩
  case next =>
    have hsize := (ScratchPool.alloc_eq_ok halloc).2.1
    refine ⟨ScratchPool.isLeast_alloc halloc, hsize, ?_, ScratchPool.get_alloc halloc⟩
    rw [(ScratchPool.used_alloc halloc).2, hsize]
  case none =>
    refine ⟨by rw [run_concat, apply, halloc], ?_⟩
    rw [← ScratchPool.alloc_eq_addressOverflow_iff, halloc, Except.error.injEq]

end ScratchHistory

end CallStream
