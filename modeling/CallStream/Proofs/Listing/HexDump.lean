import CallStream.Listing.HexDump
import Mathlib.Data.List.Chain
import Mathlib.Data.Option.Basic

/-!
# Reading a hexadecimal dump

Words are put into lines one after another, each into the line begun if it fits there. So a line
ends where the next word would pass the width, and every line is as full as its words allow. In a
dump, all words but a mark at the very end are bytes of the same length, and that fixes how many of
them a line has: sixteen, unless no byte comes behind it.

A dump loses nothing: its lines can be taken apart at their spaces, and each word tells its byte.

## Main results

* `length_lineText_of_mem_wrap`: no line is wider than the width.
* `isChain_wrap`: a line ends only where the next word does not fit.
* `read?_lines`: a dump is read back.
* `lines_spell_payload`: what the lines of a dump are.
-/

namespace CallStream.HexDump

/-! ### Reading back -/

/-- The words of a line: what stands between its spaces. -/
def wordsOf (line : String) : List String := (line.split ' ').toList.map (·.copy)

/-- The digits, by their values. -/
def digits : List Char := "0123456789abcdef".toList

/-- The byte that two digits spell. -/
def byteOf? (word : String) : Option UInt8 :=
  match word.toList with
  | [high, low] => do
    let high ← digits.idxOf? high
    let low ← digits.idxOf? low
    some (UInt8.ofNat (16 * high + low))
  | _ => none

/-- The bytes in a line. -/
def bytesIn (line : String) : Bytes := (wordsOf line).filterMap byteOf?

/-- Reads a dump: its bytes, and whether bytes are missing behind them. It knows nothing of the
width of lines, so it does not matter where they were broken. -/
def read? (lines : List String) : Option (Bytes × Bool) :=
  let words := lines.flatMap wordsOf
  if words.getLast? = some truncationMark then (words.dropLast.mapM byteOf?).map (·, true)
  else (words.mapM byteOf?).map (·, false)

/-- A digit is found among the digits at the place of its value. -/
theorem idxOf?_digitChar {value : Nat} (hlt : value < 16) :
    digits.idxOf? value.digitChar = some value := by
  revert value
  decide

/-- The word of a byte is read as that byte. -/
theorem byteOf?_hexByte (byte : UInt8) : byteOf? (Text.hexByte byte) = some byte := by
  have hlt := byte.toNat_lt
  have hidxOf : digits.idxOf? (Nat.digitChar (byte.toNat / 16)) = some (byte.toNat / 16) :=
    idxOf?_digitChar (by omega)
  have hlow : digits.idxOf? (Nat.digitChar (byte.toNat % 16)) = some (byte.toNat % 16) :=
    idxOf?_digitChar (by omega)
  have hadd : 16 * (byte.toNat / 16) + byte.toNat % 16 = byte.toNat := Nat.div_add_mod ..
  simp only [byteOf?, Text.hexByte, String.toList_ofList, hidxOf, hlow, Option.bind_eq_bind,
    Option.bind_some, hadd, UInt8.ofNat_toNat]

/-- It has two digits. -/
theorem length_hexByte (byte : UInt8) : (Text.hexByte byte).length = 2 := by
  simp only [Text.hexByte, String.length_ofList, List.length_cons, List.length_nil]

/-- A mark is no byte. -/
theorem byteOf?_truncationMark : byteOf? truncationMark = none := rfl

/-- No digit is a space. -/
theorem space_notMem_hexByte (byte : UInt8) : ' ' ∉ (Text.hexByte byte).toList := by
  have hdigit {value : Nat} (hlt : value < 16) : ' ' ≠ value.digitChar := by
    revert value
    decide
  have hbelow := byte.toNat_lt
  simp only [Text.hexByte, String.toList_ofList, List.mem_cons, List.not_mem_nil, or_false, not_or]
  exact ⟨hdigit (by omega), hdigit (by omega)⟩

/-- The words of a dump have no spaces. -/
theorem space_notMem_words {bytes : Bytes} {truncated : Bool} {word : String}
    (hmem : word ∈ words bytes truncated) : ' ' ∉ word.toList := by
  rcases List.mem_append.mp hmem with hspelled | hmarked
  · obtain ⟨byte, -, rfl⟩ := List.mem_map.mp hspelled
    exact space_notMem_hexByte byte
  · split at hmarked
    · rw [List.mem_singleton.mp hmarked]
      decide
    · cases hmarked

/-- A line is taken apart into its words. -/
theorem wordsOf_lineText {line : List String} (hne : line ≠ [])
    (hspaceless : ∀ word ∈ line, ' ' ∉ word.toList) : wordsOf (lineText line) = line := by
  have hmap := String.toList_split_intercalate hspaceless
  rw [if_neg hne] at hmap
  exact hmap

/-- The only word of an empty line is empty. -/
theorem wordsOf_empty : wordsOf "" = [""] :=
  String.toList_split_intercalate fun _ hmem => absurd hmem List.not_mem_nil

/-! ### Lines -/

section Lines

variable {width : Nat}

/-- A line that has words grows by a space and the next one. -/
theorem length_lineText_concat {line : List String} (hne : line ≠ []) (word : String) :
    (lineText (line ++ [word])).length = (lineText line).length + 1 + word.length := by
  rw [lineText, String.intercalate_append_of_ne_nil hne (List.cons_ne_nil word []),
    String.intercalate_singleton, String.length_append, String.length_append]
  rfl

/-- A line of one word is that word. -/
theorem lineText_singleton (word : String) : lineText [word] = word := String.intercalate_singleton

/-- No line is empty. -/
theorem ne_nil_of_mem_wrap {line rest : List String} {found : List String}
    (hmem : found ∈ wrap width line rest) : found ≠ [] := by
  induction rest generalizing line with
  | nil =>
      unfold wrap at hmem
      split at hmem
      · cases hmem
      · next hne =>
          rw [List.mem_singleton.mp hmem]
          simpa using hne
  | cons word rest ih =>
      unfold wrap at hmem
      split at hmem
      · exact ih hmem
      · next hfull =>
          rcases List.mem_cons.mp hmem with rfl | hlater
          · rintro rfl
            exact hfull rfl
          · exact ih hlater

/-- No line is wider than the width, if no word is. -/
theorem length_lineText_of_mem_wrap {line rest : List String}
    (hfits : (lineText line).length ≤ width)
    (hnarrow : ∀ word ∈ rest, word.length ≤ width) {found : List String}
    (hmem : found ∈ wrap width line rest) : (lineText found).length ≤ width := by
  induction rest generalizing line with
  | nil =>
      unfold wrap at hmem
      split at hmem
      · cases hmem
      · rwa [List.mem_singleton.mp hmem]
  | cons word rest ih =>
      obtain ⟨hle, hothers⟩ := List.forall_mem_cons.mp hnarrow
      have halone : (lineText [word]).length ≤ width := by rwa [lineText_singleton]
      unfold wrap at hmem
      split at hmem
      · next hroom =>
          refine ih ?_ hothers hmem
          -- The word goes on the line only if the line has room for it and the space in front.
          by_cases hnil : line = []
          · rwa [hnil]
          · rw [length_lineText_concat hnil]
            simpa [hnil] using hroom
      · rcases List.mem_cons.mp hmem with rfl | hlater
        · exact hfits
        · exact ih halone hothers hlater

/-- A line that was begun is gone on with. -/
theorem exists_wrap_eq_cons {line : List String} (hne : line ≠ []) (width : Nat)
    (rest : List String) : ∃ more others, wrap width line rest = (line ++ more) :: others := by
  induction rest generalizing line with
  | nil => exact ⟨[], [], by rw [wrap, if_neg (by simpa using hne), List.append_nil]⟩
  | cons word rest ih =>
      unfold wrap
      split
      · obtain ⟨more, others, hwrap⟩ := ih (List.append_ne_nil_of_left_ne_nil hne [word])
        exact ⟨word :: more, others, by rw [hwrap, List.append_assoc, List.singleton_append]⟩
      · exact ⟨[], _, by rw [List.append_nil]⟩

/-- The first word of the second line does not fit into the first one. So no line was ended
early. -/
def Overflows (width : Nat) (line next : List String) : Prop :=
  ∀ word ∈ next.head?, width < (lineText line).length + 1 + word.length

/-- A line ends only where the next word does not fit. -/
theorem isChain_wrap (width : Nat) (line rest : List String) :
    (wrap width line rest).IsChain (Overflows width) := by
  induction rest generalizing line with
  | nil =>
      unfold wrap
      split
      · exact List.isChain_nil
      · exact List.isChain_singleton _
  | cons word rest ih =>
      unfold wrap
      split
      · exact ih _
      · next hne =>
          obtain ⟨more, others, hwrap⟩ := exists_wrap_eq_cons (List.cons_ne_nil word []) width rest
          have hisChain := ih [word]
          rw [hwrap] at hisChain ⊢
          refine List.isChain_cons_cons.mpr ⟨?_, hisChain⟩
          rintro first ⟨⟩
          -- The word went to the next line because it did not fit behind this one.
          have hwide : ¬line = [] ∧ width < (lineText line).length + 1 + word.length := by
            simpa using hne
          exact hwide.2

end Lines

/-! ### Lines of bytes -/

/-- The words of a dump in lines. -/
abbrev wrapped (bytes : Bytes) (truncated : Bool) : List (List String) :=
  wrap lineWidth [] (words bytes truncated)

/-- A line of bytes has two digits for each, and a blank between any two. -/
theorem length_lineText_map_hexByte {bytes : Bytes} (hne : bytes ≠ []) :
    (lineText (bytes.map Text.hexByte)).length + 1 = 3 * bytes.length := by
  induction bytes using List.reverseRecOn with
  | nil => exact absurd rfl hne
  | append_singleton front byte ih =>
      rw [List.map_append, List.map_singleton, List.length_append, List.length_singleton]
      by_cases hnil : front = []
      · subst hnil
        rw [List.map_nil, List.nil_append, lineText_singleton, length_hexByte]
        rfl
      · rw [length_lineText_concat (by simpa using hnil), length_hexByte]
        have hadd := ih hnil
        omega

section Dumps

variable {bytes : Bytes} {truncated : Bool}

/-- The words of a dump up to any place are bytes, unless that is the mark at the end. -/
theorem words_eq_append_cons {front back : List String} {word : String}
    (hparts : words bytes truncated = front ++ word :: back) :
    (∃ before : Bytes, before.map Text.hexByte = front ++ [word]) ∨
      (word = truncationMark ∧ back = []) := by
  rw [words, List.append_cons] at hparts
  rcases List.append_eq_append_iff.mp hparts with ⟨marks, happend, hbranch⟩ | ⟨more, hmap, -⟩
  · rcases List.eq_nil_or_concat marks with rfl | ⟨others, last, rfl⟩
    · exact Or.inl ⟨bytes, by rw [happend, List.append_nil]⟩
    · -- A word behind all bytes is the mark, and nothing follows it.
      rw [List.concat_eq_append, ← List.append_assoc] at happend
      obtain ⟨-, hsame⟩ := List.append_inj' happend rfl
      obtain rfl := List.singleton_inj.mp hsame
      split at hbranch
      · have hlength := congrArg List.length hbranch
        simp only [List.concat_eq_append, List.length_append, List.length_singleton] at hlength
        obtain rfl : others = [] := List.eq_nil_of_length_eq_zero (by omega)
        obtain rfl : back = [] := List.eq_nil_of_length_eq_zero (by omega)
        exact Or.inr ⟨(List.singleton_inj.mp hbranch).symm, rfl⟩
      · simp at hbranch
  · obtain ⟨before, -, -, hsame, -⟩ := List.map_eq_append_iff.mp hmap
    exact Or.inl ⟨before, hsame⟩

/-- The lines hold the words in order, and no others. -/
theorem flatten_wrapped : (wrapped bytes truncated).flatten = words bytes truncated := by
  rw [flatten_wrap, List.nil_append]

/-- No word of a dump is empty or wider than a line. -/
theorem length_of_mem_words {word : String} (hmem : word ∈ words bytes truncated) :
    0 < word.length ∧ word.length ≤ lineWidth := by
  rcases List.mem_append.mp hmem with hspelled | hmarked
  · obtain ⟨byte, -, rfl⟩ := List.mem_map.mp hspelled
    rw [length_hexByte]
    decide
  · split at hmarked
    · rw [List.mem_singleton.mp hmarked]
      decide
    · cases hmarked

/-- No line is wider than it may be. -/
theorem length_lineText_le {line : List String} (hmem : line ∈ wrapped bytes truncated) :
    (lineText line).length ≤ lineWidth :=
  length_lineText_of_mem_wrap (Nat.zero_le _)
    (fun _ hlisted => (length_of_mem_words hlisted).2) hmem

/-- A line with a byte behind it consists of sixteen bytes. -/
theorem exists_bytes_of_followed {i j : Nat} (hlt : i < j)
    (hinside : j < (wrapped bytes truncated).length) {word : String}
    (hmem : word ∈ (wrapped bytes truncated)[j]) (hspells : byteOf? word ≠ none) :
    ∃ part : Bytes, (wrapped bytes truncated)[i] = part.map Text.hexByte ∧ part.length = 16 := by
  have hhere : i + 1 < (wrapped bytes truncated).length := by omega
  obtain ⟨first, others, hshape⟩ :=
    List.exists_cons_of_ne_nil (ne_nil_of_mem_wrap (List.getElem_mem hhere))
  have hparts : words bytes truncated
      = ((wrapped bytes truncated).take (i + 1)).flatten
        ++ first :: (others ++ ((wrapped bytes truncated).drop (i + 2)).flatten) := by
    rw [← List.cons_append, ← hshape, ← List.flatten_cons, ← List.drop_eq_getElem_cons hhere,
      ← List.flatten_append, List.take_append_drop, flatten_wrapped]
  -- The line after this one starts with a byte or with the mark.
  rcases words_eq_append_cons hparts with ⟨upTo, hmap⟩ | ⟨rfl, happend⟩
  · rw [List.take_add_one, List.getElem?_eq_getElem (by omega), Option.toList_some,
      List.flatten_append, List.flatten_singleton] at hmap
    obtain ⟨fore, behind, -, hforeSpelled, hfirstSpelled⟩ := List.map_eq_append_iff.mp hmap
    obtain ⟨-, part, -, -, hpartSpelled⟩ := List.map_eq_append_iff.mp hforeSpelled
    obtain ⟨byte, -, -, rfl, -⟩ := List.map_eq_cons_iff.mp hfirstSpelled
    -- That byte did not fit behind this line any more, so the line is full.
    have hnarrow := length_lineText_le (List.getElem_mem (Nat.lt_of_succ_lt hhere))
    have hwide := (isChain_wrap lineWidth [] (words bytes truncated)).getElem i hhere
      (Text.hexByte byte) (by rw [hshape]; rfl)
    have hne : part ≠ [] := by
      rintro rfl
      exact ne_nil_of_mem_wrap (List.getElem_mem (Nat.lt_of_succ_lt hhere)) hpartSpelled.symm
    have hadd := length_lineText_map_hexByte hne
    rw [← hpartSpelled] at hnarrow hwide
    rw [length_hexByte] at hwide
    simp only [lineWidth] at hnarrow hwide
    exact ⟨part, hpartSpelled.symm, by omega⟩
  · -- The mark would be the last word, and so the one that spells a byte.
    obtain ⟨rfl, hflatten⟩ := List.append_eq_nil_iff.mp happend
    have hlater : (wrapped bytes truncated)[j] ∈ (wrapped bytes truncated).drop (i + 1) := by
      rw [List.mem_drop_iff_getElem]
      exact ⟨j - (i + 1), by omega, by congr 1; omega⟩
    rw [List.drop_eq_getElem_cons hhere, hshape] at hlater
    have hlast := List.mem_flatten_of_mem hlater hmem
    rw [List.flatten_cons, hflatten] at hlast
    obtain rfl := List.mem_singleton.mp hlast
    exact absurd byteOf?_truncationMark hspells

/-! ### Dumps -/

/-- A line is split at its blanks into the words that it was made of. -/
theorem wordsOf_lineText_of_mem {line : List String} (hmem : line ∈ wrapped bytes truncated) :
    wordsOf (lineText line) = line := by
  refine wordsOf_lineText (ne_nil_of_mem_wrap hmem) fun word hinside => ?_
  have hlisted := List.mem_flatten_of_mem hmem hinside
  rw [flatten_wrapped] at hlisted
  exact space_notMem_words hlisted

/-- The lines of a dump are taken apart into the words that were put into them. -/
theorem map_wordsOf_lines : (lines bytes truncated).map wordsOf = wrapped bytes truncated := by
  rw [lines, List.map_map]
  exact (List.map_congr_left fun line hmem => wordsOf_lineText_of_mem hmem).trans (List.map_id _)

/-- So it is for the lines as they are printed. -/
theorem wordsOf_getElem_lines {k : Nat} (h : k < (lines bytes truncated).length) :
    ∃ hinside : k < (wrapped bytes truncated).length,
      wordsOf (lines bytes truncated)[k] = (wrapped bytes truncated)[k] := by
  have hinside : k < (wrapped bytes truncated).length := by rwa [lines, List.length_map] at h
  refine ⟨hinside, ?_⟩
  simp only [lines, List.getElem_map]
  exact wordsOf_lineText_of_mem (List.getElem_mem hinside)

/-- All lines together are split into the words of the dump. -/
theorem flatMap_wordsOf_lines :
    (lines bytes truncated).flatMap wordsOf = words bytes truncated := by
  rw [List.flatMap, map_wordsOf_lines, flatten_wrapped]

/-- The words of bytes are read as these bytes. -/
theorem mapM_byteOf?_hexByte (bytes : Bytes) :
    (bytes.map Text.hexByte).mapM byteOf? = some bytes := by
  induction bytes with
  | nil => rfl
  | cons byte rest ih => simp [byteOf?_hexByte, ih]

/-- A dump is read back. -/
theorem read?_lines : read? (lines bytes truncated) = some (bytes, truncated) := by
  rw [read?, flatMap_wordsOf_lines, words]
  cases truncated with
  | true =>
      simp only [if_true, List.getLast?_concat, List.dropLast_concat, mapM_byteOf?_hexByte]
      rfl
  | false =>
      have hunmarked : (bytes.map Text.hexByte).getLast? ≠ some truncationMark := by
        intro hmarked
        obtain ⟨byte, -, hhexByte⟩ := List.mem_map.mp (List.mem_of_getLast? hmarked)
        exact nomatch (byteOf?_hexByte byte).symm.trans (congrArg byteOf? hhexByte)
      simp only [Bool.false_eq_true, if_false, List.append_nil, if_neg hunmarked,
        mapM_byteOf?_hexByte]
      rfl

end Dumps

/-- The words in the lines of a dump are the payload's bytes in order, each in two digits, and
behind them a mark if bytes are missing; so the dump is read back. No line is empty or wider than 48
columns, and a line with bytes holds sixteen of them, if others come behind it. -/
theorem lines_spell_payload (bytes : Bytes) (truncated : Bool) :
    (lines bytes truncated).flatMap wordsOf
        = bytes.map Text.hexByte ++ (if truncated then ["[...]"] else []) ∧
      read? (lines bytes truncated) = some (bytes, truncated) ∧
      (∀ (i j : Nat) (hlt : i < j) (hinside : j < (lines bytes truncated).length),
        bytesIn (lines bytes truncated)[j] ≠ [] →
        (bytesIn (lines bytes truncated)[i]).length = 16) ∧
      ∀ line ∈ lines bytes truncated, line ≠ "" ∧ line.length ≤ 48 := by
  refine ⟨flatMap_wordsOf_lines, read?_lines, ?full, ?narrow⟩
  case full =>
    intro i j hlt hinside hholds
    obtain ⟨hwrappedInside, hwordsOf⟩ := wordsOf_getElem_lines hinside
    obtain ⟨_, hfirst⟩ := wordsOf_getElem_lines (Nat.lt_trans hlt hinside)
    rw [bytesIn, hwordsOf] at hholds
    rw [bytesIn, hfirst]
    obtain ⟨byte, hmem⟩ := List.exists_mem_of_ne_nil _ hholds
    obtain ⟨word, hmem', hspells⟩ := List.mem_filterMap.mp hmem
    obtain ⟨part, hsame, hlength⟩ := exists_bytes_of_followed hlt hwrappedInside hmem'
      (Option.ne_none_iff_exists'.mpr ⟨byte, hspells⟩)
    have hfilterMap : (part.map Text.hexByte).filterMap byteOf? = part := by
      rw [List.filterMap_map]
      exact (List.filterMap_congr fun byte _ => byteOf?_hexByte byte).trans List.filterMap_some
    rw [hsame, hfilterMap, hlength]
  case narrow =>
    intro line hmem'
    obtain ⟨spelled, hwrap, rfl⟩ := List.mem_map.mp hmem'
    refine ⟨fun hblank => ?_, length_lineText_le hwrap⟩
    -- An empty line would have been made of an empty word, and there is none.
    have hsame := wordsOf_lineText_of_mem hwrap
    rw [hblank, wordsOf_empty] at hsame
    have hmem := List.mem_flatten_of_mem hwrap (hsame ▸ List.mem_singleton_self "")
    rw [flatten_wrapped] at hmem
    exact absurd (length_of_mem_words hmem).1 (Nat.lt_irrefl 0)

end CallStream.HexDump
