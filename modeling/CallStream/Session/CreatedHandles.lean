import CallStream.Session.Error

/-!
# The handles of a snapshot

A snapshot is replayed behind a list of the ids that its objects had: their number in four bytes,
then eight bytes for each, all little-endian.

## Main results

- `parse_encode`: ids that were written are read back, whatever follows them.
- `parse_of_tooShort`: bytes that end before the last id are not read.
-/

namespace CallStream.CreatedHandles

/-- The bytes of a list of ids. -/
def encode (ids : List BoxedId) : Bytes :=
  Bytes.ofNatLE 4 ids.length ++ ids.flatMap fun id => Bytes.ofNatLE 8 id.toNat

/-- Reads `count` ids. -/
def readIds : Nat → Bytes → List BoxedId
  | 0, _ => []
  | count + 1, bytes =>
    UInt64.ofNat (Bytes.toNatLE (bytes.take 8)) :: readIds count (bytes.drop 8)

/-- Reads the ids at the start of the bytes and says how many bytes they take. -/
def parse (bytes : Bytes) : Except HandleBlockFault (Nat × List BoxedId) :=
  if bytes.length < 4 then .error .missingCount
  else
    let count := Bytes.toNatLE (bytes.take 4)
    let size := 4 + 8 * count
    if bytes.length < size then .error (.tooShort count bytes.length)
    else .ok (size, readIds count (bytes.drop 4))

/-- Reads the ids as a step of the surroundings, which it leaves as they are. -/
def load {σ : Type} (bytes : Bytes) : EStateM DriverError σ (Nat × List BoxedId) :=
  match parse bytes with
  | .ok block => pure block
  | .error fault => throw (.malformedBlock fault)

/-- Bytes that end before the last of the ids they announce are not read. -/
theorem parse_of_tooShort {bytes : Bytes} (hcount : 4 ≤ bytes.length)
    (hshort : bytes.length < 4 + 8 * Bytes.toNatLE (bytes.take 4)) :
    parse bytes = .error (.tooShort (Bytes.toNatLE (bytes.take 4)) bytes.length) := by
  rw [parse, if_neg (Nat.not_lt.mpr hcount)]
  exact if_pos hshort

/-- As many ids as were written are read back. -/
theorem readIds_encode (ids : List BoxedId) (suffix : Bytes) :
    readIds ids.length ((ids.flatMap fun id => Bytes.ofNatLE 8 id.toNat) ++ suffix) = ids := by
  induction ids with
  | nil => rfl
  | cons id rest ih =>
    have hwidth := Bytes.length_ofNatLE 8 id.toNat
    simp only [List.flatMap_cons, List.append_assoc, List.length_cons, readIds]
    rw [List.take_left' hwidth, List.drop_left' hwidth, Bytes.long_ofNatLE, ih]

/-- Ids that were written are read back, whatever follows them. -/
theorem parse_encode (ids : List BoxedId) (suffix : Bytes) (h : ids.length < UInt32.size) :
    parse (encode ids ++ suffix) = .ok ((encode ids).length, ids) := by
  have hwidth := Bytes.length_ofNatLE 4 ids.length
  have hbody : (ids.flatMap fun id => Bytes.ofNatLE 8 id.toNat).length = 8 * ids.length := by
    induction ids with
    | nil => rfl
    | cons id rest ih =>
      simp only [List.length_cons] at h
      simp only [List.flatMap_cons, List.length_append, Bytes.length_ofNatLE,
        ih (by omega) (Bytes.length_ofNatLE _ _), List.length_cons]
      omega
  -- The count in front says how many ids follow, so what follows them does not matter.
  have htoNatLE : Bytes.toNatLE ((encode ids ++ suffix).take 4) = ids.length := by
    rw [encode, List.append_assoc, List.take_left' hwidth, Bytes.toNatLE_ofNatLE_of_lt h]
  have htotal : (encode ids).length = 4 + 8 * ids.length := by
    rw [encode, List.length_append, hwidth, hbody]
  have hdrop : (encode ids ++ suffix).drop 4
      = (ids.flatMap fun id => Bytes.ofNatLE 8 id.toNat) ++ suffix := by
    rw [encode, List.append_assoc, List.drop_left' hwidth]
  have hroom : ¬ (encode ids ++ suffix).length < 4 + 8 * ids.length := by
    rw [List.length_append, htotal]
    omega
  have hnlt : ¬ (encode ids ++ suffix).length < 4 := by omega
  simp only [parse, hnlt, if_false, htoNatLE, hroom, hdrop, readIds_encode, htotal]

end CallStream.CreatedHandles
