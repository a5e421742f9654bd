import CallStream.Handle

/-!
# Ids handed to guests

A guest never sees a driver object. It sees an id made of the slot that the object occupies, how
often that slot was used before, and the tag of the object's type:

    bits  0..32  slot
    bits 32..48  generation
    bits 48..64  tag

## Main results

- `slot_compose`, `generation_compose`, `tag_compose`: an id tells its three parts.
- `compose_ne_zero`: no id is zero, because no tag is; so zero is free for the null handle.
-/

namespace CallStream

/-- An id that stands for a driver object. -/
abbrev BoxedId := UInt64

namespace BoxedId

/-- The id of an object in one generation of a slot. -/
def compose (slot : UInt32) (generation : UInt16) (type : HandleType) : BoxedId :=
  UInt64.ofNat (slot.toNat + UInt32.size * (generation.toNat + UInt16.size * type.tag.toNat))

/-- The slot of an id. -/
def slot (id : BoxedId) : UInt32 := UInt32.ofNat id.toNat

/-- The generation of an id's slot. -/
def generation (id : BoxedId) : UInt16 := UInt16.ofNat (id.toNat / UInt32.size)

/-- The tag of an id's type. -/
def tag (id : BoxedId) : UInt16 := UInt16.ofNat (id.toNat / UInt32.size / UInt16.size)

/-- The parts do not overflow a word. -/
theorem toNat_compose (slot : UInt32) (generation : UInt16) (type : HandleType) :
    (compose slot generation type).toNat
      = slot.toNat + UInt32.size * (generation.toNat + UInt16.size * type.tag.toNat) := by
  have hlt := slot.toNat_lt
  have hmiddle := generation.toNat_lt
  have hhigh := type.tag.toNat_lt
  exact UInt64.toNat_ofNat_of_lt' (by simp only [UInt64.size, UInt32.size, UInt16.size]; omega)

/-- An id has the slot it was made of. -/
theorem slot_compose (index : UInt32) (generation : UInt16) (type : HandleType) :
    slot (compose index generation type) = index := by
  apply UInt32.toNat_inj.mp
  have hlt := index.toNat_lt
  simp only [slot, toNat_compose, UInt32.toNat_ofNat', UInt32.size, UInt16.size]
  omega

/-- An id has the generation it was made of. -/
theorem generation_compose (index : UInt32) (count : UInt16) (type : HandleType) :
    generation (compose index count type) = count := by
  apply UInt16.toNat_inj.mp
  have hlt := index.toNat_lt
  have hmiddle := count.toNat_lt
  simp only [generation, toNat_compose, UInt16.toNat_ofNat', UInt32.size, UInt16.size]
  omega

/-- An id has the tag of the type it was made for. -/
theorem tag_compose (index : UInt32) (generation : UInt16) (type : HandleType) :
    tag (compose index generation type) = type.tag := by
  apply UInt16.toNat_inj.mp
  have hlt := index.toNat_lt
  have hmiddle := generation.toNat_lt
  have hhigh := type.tag.toNat_lt
  simp only [tag, toNat_compose, UInt16.toNat_ofNat', UInt32.size, UInt16.size]
  omega

/-- No id is null, because no tag is zero. -/
theorem compose_ne_zero (index : UInt32) (generation : UInt16) (type : HandleType) :
    compose index generation type ≠ 0 := by
  intro hcompose
  have htagged := tag_compose index generation type
  rw [hcompose] at htagged
  exact type.tag_ne_zero (htagged.symm.trans (by decide))

end BoxedId

end CallStream
