import CallStream.Wire.Text
import Mathlib.Data.List.DropRight

/-!
# Texts that their layout can carry

Only the layout with a length carries every text. A terminated field ends at the first zero byte,
and the zero character is the one whose bytes hold one, so the reader stops in front of it. A field
of fixed size cuts a text that is too long at a byte, which need not be the end of a character, and
what is left of the character is not UTF-8. `Carries` says which texts are read back, and as what.

## Main results

* `takeWhile_ofText`, `dropPadding_ofText`: zero bytes are zero characters.
* `cutsAt_iff`: the bytes of a text can be cut where one of its characters ends, and nowhere else.
* `readText_terminated`: a terminated text is read up to its first zero character.
* `readText_fixed`: a text in a field of fixed size is read as what was left of it, if that is a
  text.
* `readText_encode_iff`: which texts are read back from exactly the bytes that were written.
-/

namespace CallStream

namespace Bytes

/-! ### The bytes of a text -/

/-- The bytes of a text are those of its characters. -/
theorem ofText_eq_flatMap (text : String) :
    ofText text = text.toList.flatMap String.utf8EncodeChar := by
  rw [ofText, ← String.utf8Encode_toList, List.utf8Encode, List.toList_data_toByteArray]

/-- Texts one behind the other have their bytes one behind the other. -/
theorem ofText_append (front back : String) :
    ofText (front ++ back) = ofText front ++ ofText back := by
  rw [ofText_eq_flatMap, ofText_eq_flatMap, ofText_eq_flatMap, String.toList_append,
    List.flatMap_append]

/-- Only the zero character has a zero byte. -/
theorem zero_mem_utf8EncodeChar {char : Char} :
    0 ∈ String.utf8EncodeChar char ↔ char = '\x00' := by
  have hzero (value : Nat) : (0 : UInt8) = UInt8.ofNat value ↔ value % 256 = 0 := by
    rw [← UInt8.toNat_inj, UInt8.toNat_ofNat', UInt8.toNat_zero, eq_comm]
  have hiff : char = '\x00' ↔ char.val.toNat = 0 := Char.toNat_inj.symm
  rw [hiff]
  fun_cases String.utf8EncodeChar char <;>
    simp only [List.mem_cons, List.not_mem_nil, or_false, hzero] <;> omega

/-- Up to the first zero byte there are the characters up to the first zero character. -/
theorem takeWhile_flatMap_utf8EncodeChar (chars : List Char) (rest : Bytes) :
    (chars.flatMap String.utf8EncodeChar ++ 0 :: rest).takeWhile (· != 0)
      = (chars.takeWhile (· != '\x00')).flatMap String.utf8EncodeChar := by
  induction chars with
  | nil => rfl
  | cons char chars ih =>
      by_cases heq : char = '\x00'
      · subst heq
        rfl
      · have hnonzero : ∀ byte ∈ String.utf8EncodeChar char, (byte != 0) = true := fun byte hmem =>
          bne_iff_ne.mpr fun hzero => heq (zero_mem_utf8EncodeChar.mp (hzero ▸ hmem))
        have hbne : (char != '\x00') = true := bne_iff_ne.mpr heq
        rw [List.flatMap_cons, List.append_assoc, List.takeWhile_append_of_pos hnonzero, ih,
          List.takeWhile_cons, if_pos hbne, List.flatMap_cons]

/-- The zero bytes at the end are the zero characters at the end. -/
theorem rdropWhile_flatMap_utf8EncodeChar (chars : List Char) :
    (chars.flatMap String.utf8EncodeChar).rdropWhile (· == 0)
      = (chars.rdropWhile (· == '\x00')).flatMap String.utf8EncodeChar := by
  induction chars using List.reverseRecOn with
  | nil => rfl
  | append_singleton chars char ih =>
      rw [List.flatMap_append, List.flatMap_singleton]
      by_cases heq : char = '\x00'
      · subst heq
        have hbyte : String.utf8EncodeChar '\x00' = [0] := by decide
        rw [hbyte, List.rdropWhile_concat_pos _ _ _ rfl, List.rdropWhile_concat_pos _ _ _ rfl, ih]
      · have happend := List.dropLast_concat_getLast (String.utf8EncodeChar_ne_nil (c := char))
        have hne : ¬ ((String.utf8EncodeChar char).getLast String.utf8EncodeChar_ne_nil == 0) :=
          fun hbeq => heq (zero_mem_utf8EncodeChar.mp
            (eq_of_beq hbeq ▸ List.getLast_mem String.utf8EncodeChar_ne_nil))
        have hkept : ¬ (char == '\x00') := fun hsame => heq (eq_of_beq hsame)
        rw [List.rdropWhile_concat_neg (· == '\x00') _ _ hkept, List.flatMap_append,
          List.flatMap_singleton, ← happend, ← List.append_assoc,
          List.rdropWhile_concat_neg (· == 0) _ _ hne]

/-- Texts with the same bytes are the same. -/
theorem ofText_injective : Function.Injective ofText := fun text other hofText => by
  have htoText := congrArg toText? hofText
  rw [toText?_ofText, toText?_ofText] at htoText
  exact Option.some.inj htoText

/-- Bytes are a text exactly if they are the bytes of one. -/
theorem toText?_eq_some_iff {bytes : Bytes} {text : String} :
    toText? bytes = some text ↔ ofText text = bytes :=
  ⟨ofText_of_toText?, fun hofText => by rw [← hofText, toText?_ofText]⟩

/-- A text that the bytes of another one start with is the front of it. -/
theorem exists_append_of_ofText_prefix {front text : String} (h : ofText front <+: ofText text) :
    ∃ back, text = front ++ back := by
  have hencoded (text : String) : (ofText text).toByteArray = text.toList.utf8Encode := by
    rw [ofText_eq_flatMap, List.utf8Encode]
  obtain ⟨rest, happend⟩ := h
  have hstarts : front.toList.utf8Encode ++ rest.toByteArray = text.toList.utf8Encode := by
    rw [← hencoded, ← hencoded, ← List.toByteArray_append, happend]
  obtain ⟨back, hchars⟩ := List.isPrefix_of_utf8Encode_append_eq_utf8Encode _ hstarts
  refine ⟨.ofList back, String.toList_inj.mp ?_⟩
  rw [String.toList_append, String.toList_ofList, hchars]

end Bytes

namespace TextEncoding

/-- The text in front of the first zero character. -/
def untilZero (text : String) : String := .ofList (text.toList.takeWhile (· != '\x00'))

/-- The text without the zero characters at its end. -/
def withoutPadding (text : String) : String := .ofList (text.toList.rdropWhile (· == '\x00'))

/-- Up to the first zero behind it, a text has the bytes of its part in front of its own first
zero. -/
theorem takeWhile_ofText (text : String) (rest : Bytes) :
    (Bytes.ofText text ++ 0 :: rest).takeWhile (· != 0) = Bytes.ofText (untilZero text) := by
  rw [Bytes.ofText_eq_flatMap, Bytes.takeWhile_flatMap_utf8EncodeChar, Bytes.ofText_eq_flatMap,
    untilZero, String.toList_ofList]

/-- Without zeros at its end, a text has the bytes of the text without them. -/
theorem dropPadding_ofText (text : String) :
    dropPadding (Bytes.ofText text) = Bytes.ofText (withoutPadding text) := by
  rw [Bytes.ofText_eq_flatMap, Bytes.ofText_eq_flatMap, withoutPadding, String.toList_ofList,
    ← Bytes.rdropWhile_flatMap_utf8EncodeChar]
  rfl

/-- What is fitted to a size has it. -/
theorem length_fit (size : Nat) (bytes : Bytes) : (fit size bytes).length = size := by
  rw [fit, List.length_append, List.length_take, List.length_replicate]
  omega

/-- What a field was padded with is dropped. -/
theorem dropPadding_fit (size : Nat) (bytes : Bytes) :
    dropPadding (fit size bytes) = dropPadding (bytes.take size) := by
  rw [dropPadding, fit, List.reverse_append, List.reverse_replicate,
    List.dropWhile_append_of_pos fun byte hmem => beq_iff_eq.mpr (List.eq_of_mem_replicate hmem),
    dropPadding]

/-- A zero character is a zero byte. -/
theorem ofText_replicate (count : Nat) :
    Bytes.ofText (.ofList (List.replicate count '\x00')) = List.replicate count 0 := by
  rw [Bytes.ofText_eq_flatMap, String.toList_ofList]
  induction count with
  | zero => rfl
  | succ count ih => rw [List.replicate_succ, List.flatMap_cons, ih, List.replicate_succ]; rfl

/-- Bytes that are a text without the zeros at their end are a text with them. -/
theorem exists_ofText_of_dropPadding {bytes : Bytes} {text : String}
    (h : Bytes.ofText text = dropPadding bytes) : ∃ padded, Bytes.ofText padded = bytes := by
  have hzeros : bytes.rtakeWhile (· == 0) = List.replicate (bytes.rtakeWhile (· == 0)).length 0 :=
    List.eq_replicate_of_mem fun byte hmem =>
      eq_of_beq (List.mem_rtakeWhile_imp (p := (· == 0)) hmem)
  refine ⟨text ++ .ofList (List.replicate (bytes.rtakeWhile (· == 0)).length '\x00'), ?_⟩
  rw [Bytes.ofText_append, ofText_replicate, ← hzeros, h]
  exact List.rdropWhile_append_rtakeWhile

/-- The first `size` bytes of a text end where a character ends, and `front` is what they spell. -/
def CutsAt (size : Nat) (text front : String) : Prop :=
  (∃ back, text = front ++ back) ∧ (Bytes.ofText front).length = min size (Bytes.ofText text).length

/-- A text is cut between characters exactly if its first bytes are those of a text. -/
theorem cutsAt_iff {size : Nat} {text front : String} :
    CutsAt size text front ↔ Bytes.ofText front = (Bytes.ofText text).take size := by
  constructor
  · rintro ⟨⟨back, rfl⟩, hlength⟩
    rw [Bytes.ofText_append, List.length_append] at hlength
    rw [Bytes.ofText_append]
    rcases Nat.lt_or_ge (Bytes.ofText front).length size with hlt | hcut
    · have hofText : Bytes.ofText back = [] := List.eq_nil_of_length_eq_zero (by omega)
      rw [hofText, List.append_nil, List.take_of_length_le (Nat.le_of_lt hlt)]
    · have hsame : (Bytes.ofText front).length = size := by omega
      rw [← hsame, List.take_left]
  · intro hcut
    refine ⟨Bytes.exists_append_of_ofText_prefix (hcut ▸ List.take_prefix _ _), ?_⟩
    rw [hcut, List.length_take]

/-- What is read from a field of fixed size, and whether anything is. -/
theorem toText?_dropPadding_take {size : Nat} {text value : String} :
    Bytes.toText? (dropPadding ((Bytes.ofText text).take size)) = some value ↔
      ∃ front, CutsAt size text front ∧ value = withoutPadding front := by
  rw [Bytes.toText?_eq_some_iff]
  constructor
  · intro hofText
    obtain ⟨front, hcut⟩ := exists_ofText_of_dropPadding hofText
    refine ⟨front, cutsAt_iff.mpr hcut, Bytes.ofText_injective ?_⟩
    rw [hofText, ← hcut, dropPadding_ofText]
  · rintro ⟨front, hcut, rfl⟩
    rw [← cutsAt_iff.mp hcut, dropPadding_ofText]

/-- When a text is read back from the bytes that were written, and what is read. -/
def Carries : TextEncoding → String → String → Prop
  | fixed size, text, value => ∃ front, CutsAt size text front ∧ value = withoutPadding front
  | terminated, text, value => '\x00' ∉ text.toList ∧ value = text
  | lengthPrefixed, text, value => value = text

end TextEncoding

namespace Cursor

open TextEncoding

variable {ε : Type}

/-- A text in a field of fixed size is read as what was left of it, if that is a text. -/
theorem readText_fixed (size : Nat) (text field : String) (suffix : Bytes) (position : Nat) :
    readText (ε := ε) (.fixed size) field
        ⟨position, (TextEncoding.fixed size).encode text ++ suffix⟩
      = match Bytes.toText? (dropPadding ((Bytes.ofText text).take size)) with
        | some value => .ok value ⟨position + size, suffix⟩
        | none => .error (.invalidText field) ⟨position + size, suffix⟩ := by
  have hreadBytes := readBytes_append (ε := ε) (fit size (Bytes.ofText text)) suffix position
  rw [length_fit] at hreadBytes
  simp only [readText, readTextBytes, TextEncoding.encode, bind, EStateM.bind, hreadBytes, pure,
    EStateM.pure, dropPadding_fit]
  cases Bytes.toText? (dropPadding ((Bytes.ofText text).take size)) <;> rfl

/-- A text goes on behind its first zero character, if it has one. -/
theorem untilZero_cases (text : String) :
    '\x00' ∉ text.toList ∧ untilZero text = text ∨
      '\x00' ∈ text.toList ∧
        (Bytes.ofText (untilZero text)).length < (Bytes.ofText text).length := by
  by_cases hmem : '\x00' ∈ text.toList
  · right
    refine ⟨hmem, ?_⟩
    have hne : text.toList.dropWhile (· != '\x00') ≠ [] := fun hdropWhile =>
      absurd (List.dropWhile_eq_nil_iff.mp hdropWhile _ hmem) (by simp)
    obtain ⟨char, rest, hfirst⟩ := List.exists_cons_of_ne_nil hne
    -- Cut at the first zero, the text has at least that character less.
    have hofText : Bytes.ofText text
        = Bytes.ofText (untilZero text) ++ Bytes.ofText (.ofList (char :: rest)) := by
      rw [← Bytes.ofText_append, untilZero, ← hfirst, ← String.ofList_append,
        List.takeWhile_append_dropWhile, String.ofList_toList]
    have hlt := List.length_pos_of_ne_nil (String.utf8EncodeChar_ne_nil (c := char))
    rw [hofText, Bytes.ofText_eq_flatMap (.ofList (char :: rest)), String.toList_ofList,
      List.flatMap_cons, List.length_append, List.length_append]
    omega
  · left
    refine ⟨hmem, ?_⟩
    rw [untilZero, List.takeWhile_eq_self_iff.mpr, String.ofList_toList]
    exact fun char hmem' => bne_iff_ne.mpr fun heq => hmem (heq ▸ hmem')

/-- A terminated text is read up to its first zero character, and what comes behind it in the text
is left to be read. -/
theorem readText_terminated (text field : String) (suffix : Bytes) (position : Nat) :
    readText (ε := ε) .terminated field ⟨position, TextEncoding.terminated.encode text ++ suffix⟩
      = .ok (untilZero text) ⟨position + ((Bytes.ofText (untilZero text)).length + 1),
          (Bytes.ofText text ++ 0 :: suffix).drop
            ((Bytes.ofText (untilZero text)).length + 1)⟩ := by
  have hlt : (Bytes.ofText (untilZero text)).length
      < (Bytes.ofText text ++ 0 :: suffix).length := by
    rw [List.length_append, List.length_cons]
    rcases untilZero_cases text with ⟨-, huntilZero⟩ | ⟨-, hless⟩
    · rw [huntilZero]
      omega
    · omega
  have hbytes : TextEncoding.terminated.encode text ++ suffix
      = Bytes.ofText text ++ 0 :: suffix := by
    rw [TextEncoding.encode, List.append_assoc, List.singleton_append]
  rw [hbytes]
  simp only [readText, readTextBytes, readTerminated, bind, EStateM.bind, takeWhile_ofText,
    remaining, if_pos hlt, advance, Bytes.toText?_ofText]
  rfl

/-- A text is read back from exactly the bytes that were written for it if and only if its layout
carries it; what follows those bytes is then left as it is. -/
theorem readText_encode_iff (encoding : TextEncoding) (text value field : String) (suffix : Bytes)
    (position : Nat) (hlt : (Bytes.ofText text).length < UInt32.size) :
    readText (ε := ε) encoding field ⟨position, encoding.encode text ++ suffix⟩
        = .ok value ⟨position + (encoding.encode text).length, suffix⟩
      ↔ encoding.Carries text value := by
  -- Each encoding loses what it cannot spell: what does not fit a fixed size, and zeros at its end;
  -- what follows a zero, if a zero ends the text; and nothing, if a length is written in front.
  cases encoding with
  | fixed size =>
      rw [readText_fixed, Carries, ← toText?_dropPadding_take, TextEncoding.encode, length_fit]
      cases Bytes.toText? (dropPadding ((Bytes.ofText text).take size)) with
      | none => simp
      | some left => simp
  | terminated =>
      rw [readText_terminated, Carries, TextEncoding.encode, List.length_append,
        List.length_singleton]
      rcases untilZero_cases text with ⟨hnotMem, huntilZero⟩ | ⟨hmem, hless⟩
      · have hdrop : (Bytes.ofText text ++ 0 :: suffix).drop ((Bytes.ofText text).length + 1)
            = suffix := by
          rw [List.drop_length_add_append, List.drop_one, List.tail_cons]
        rw [huntilZero, hdrop]
        simp only [EStateM.Result.ok.injEq, and_true]
        exact ⟨fun heq => ⟨hnotMem, heq.symm⟩, fun hcarried => hcarried.2.symm⟩
      · simp only [EStateM.Result.ok.injEq, Cursor.mk.injEq]
        constructor
        · rintro ⟨-, hadd, -⟩
          omega
        · exact fun hcarried => absurd hmem hcarried.1
  | lengthPrefixed =>
      have hlength : (TextEncoding.lengthPrefixed.encode text).length
          = 4 + (Bytes.ofText text).length := by
        rw [TextEncoding.encode, List.length_append, IntType.length_encode]
        rfl
      rw [readText_lengthPrefixed text field suffix position hlt, Carries, hlength, Nat.add_assoc]
      simp only [EStateM.Result.ok.injEq, and_true]
      exact eq_comm

/-- A field of one byte carries the first character of a text whose first character has one byte. -/
theorem readText_encode_firstLetter :
    (Bytes.ofText "né").length < UInt32.size ∧
      readText (ε := Empty) (.fixed 1) "name" ⟨0, (TextEncoding.fixed 1).encode "né" ++ [255]⟩
        = .ok "n" ⟨0 + ((TextEncoding.fixed 1).encode "né").length, [255]⟩ := by
  have hlt : (Bytes.ofText "né").length < UInt32.size := by decide
  have hcarries : (TextEncoding.fixed 1).Carries "né" "n" :=
    ⟨"n", ⟨⟨"é", by decide⟩, by decide⟩, by decide⟩
  exact ⟨hlt, (readText_encode_iff (.fixed 1) "né" "n" "name" [255] 0 hlt).mpr hcarries⟩

/-- A text may be written that is not read back: behind a zero character the rest of it is taken for
what follows, and a field that ends within a character holds no text. -/
theorem unread_text :
    (¬ ∀ (encoding : TextEncoding) (text field : String) (suffix : Bytes) (position : Nat),
      (Bytes.ofText text).length < UInt32.size →
        ∃ value, readText (ε := Empty) encoding field ⟨position, encoding.encode text ++ suffix⟩
          = .ok value ⟨position + (encoding.encode text).length, suffix⟩) ∧
      readText (ε := Empty) .terminated "name" ⟨0, TextEncoding.terminated.encode "a\x00b" ++ [255]⟩
        = .ok "a" ⟨2, [98, 0, 255]⟩ ∧
      readText (ε := Empty) (.fixed 1) "name" ⟨0, (TextEncoding.fixed 1).encode "é" ++ [255]⟩
        = .error (.invalidText "name") ⟨1, [255]⟩ := by
  have hearly : readText (ε := Empty) .terminated "name"
      ⟨0, TextEncoding.terminated.encode "a\x00b" ++ [255]⟩ = .ok "a" ⟨2, [98, 0, 255]⟩ := rfl
  refine ⟨fun halways => ?_, hearly, rfl⟩
  obtain ⟨value, hreadText⟩ := halways .terminated "a\x00b" "name" [255] 0 (by decide)
  rw [hearly] at hreadText
  cases hreadText

end Cursor

end CallStream
