import Mathlib.Data.List.Basic
import Toolsmith.Text.Digit
import Toolsmith.Text.Printable
import Toolsmith.Text.Utf8
import Toolsmith.Text.Word

/-!
# Texts and their bytes

A text without lone surrogates has an encoding, and decoding gives the text back. Words, digits and
what has a visible shape hold no surrogates. These facts let a text be followed through a file.
-/

namespace Toolsmith

/-- The number of a character is that of no surrogate and within the last plane. -/
theorem charNumber_valid (c : Char) :
    c.toNat < 0xD800 ∨ (0xDFFF < c.toNat ∧ c.toNat < 0x110000) := by
  have h := c.valid
  simp only [UInt32.isValidChar, Nat.isValidChar] at h
  exact h

namespace CodePoint

/-- A code point is the one of its number. -/
@[simp] theorem ofCode_code (point : CodePoint) : ofCode point.code = point := by
  cases point with
  | char c =>
    have hvalid := charNumber_valid c
    have hcode : (char c).code = c.toNat := rfl
    unfold ofCode
    rw [dif_neg (by omega), if_pos (by omega)]
    exact congrArg char (Char.ofNat_toNat c)
  | surrogate unit =>
    have hunit := unit.isLt
    have hcode : (surrogate unit).code = 0xD800 + unit.val := rfl
    unfold ofCode
    rw [dif_pos (by omega)]
    exact congrArg surrogate (Fin.ext (Nat.add_sub_cancel_left ..))

/-- A code point lies within the last plane. -/
theorem code_lt (point : CodePoint) : point.code < 0x110000 := by
  cases point with
  | char c =>
    have hvalid := charNumber_valid c
    simp only [code]
    omega
  | surrogate unit =>
    simp only [code]
    omega

/-- The characters are the code points outside the surrogates. -/
theorem isChar_iff {point : CodePoint} :
    point.toChar?.isSome = true ↔ ¬(0xD800 ≤ point.code ∧ point.code < 0xE000) := by
  cases point with
  | char c =>
    have hvalid := charNumber_valid c
    simp only [toChar?, code, Option.isSome_some, true_iff]
    omega
  | surrogate unit =>
    have hunit := unit.isLt
    simp only [toChar?, code, Option.isSome_none, Bool.false_eq_true, false_iff]
    omega

end CodePoint

namespace Text

/-- A small number as a byte keeps its value. -/
theorem toUInt8_toNat_of_lt {n : Nat} (h : n < 256) : n.toUInt8.toNat = n := by
  simp only [Nat.toUInt8, UInt8.toNat_ofNat']
  omega

/-- A text has an encoding exactly if all its code points are characters. -/
theorem encode_isSome_iff {t : Text} :
    t.encode.isSome = true ↔ ∀ c ∈ t, c.toChar?.isSome = true := by
  induction t with
  | nil => simp [encode]
  | cons c t ih =>
    cases c with
    | char c => simp [encode, ih, CodePoint.toChar?]
    | surrogate unit => simp [encode, CodePoint.toChar?]

/-- The encoding of a text in two parts. -/
theorem encode_isSome_append {s t : Text} :
    (s ++ t).encode.isSome = true ↔ s.encode.isSome = true ∧ t.encode.isSome = true := by
  simp only [encode_isSome_iff, List.mem_append]
  constructor
  · exact fun h => ⟨fun c hc => h c (.inl hc), fun c hc => h c (.inr hc)⟩
  · rintro ⟨hs, ht⟩ c (hc | hc)
    · exact hs c hc
    · exact ht c hc

/-- A character before a text does not matter for whether the text has an encoding. -/
@[simp] theorem encode_isSome_char (c : Char) (t : Text) :
    (encode (.char c :: t)).isSome = t.encode.isSome := by
  rw [encode, Option.isSome_map]

/-- The text of a string has an encoding. -/
@[simp] theorem encode_ofString_isSome (s : String) : (ofString s).encode.isSome = true := by
  rw [encode_isSome_iff]
  intro c hc
  obtain ⟨char, _, rfl⟩ := List.mem_map.mp hc
  rfl

/-- A byte below 128 is decoded as a character of its own. -/
theorem decode_one {n : Nat} (h : n < 0x80) (rest : Bytes) :
    decode (n.toUInt8 :: rest) = (decode rest).map (CodePoint.ofCode n :: ·) := by
  have ha : n.toUInt8.toNat = n := toUInt8_toNat_of_lt (by omega)
  rw [decode.eq_def]
  simp only [ha, if_pos h]

/-- The two bytes of a number below 2048 are decoded as that number. -/
theorem decode_two {n : Nat} (hlow : 0x80 ≤ n) (hhigh : n < 0x800) (rest : Bytes) :
    decode ((0xC0 + n / 64).toUInt8 :: (0x80 + n % 64).toUInt8 :: rest) =
      (decode rest).map (CodePoint.ofCode n :: ·) := by
  have ha : (0xC0 + n / 64).toUInt8.toNat = 0xC0 + n / 64 := toUInt8_toNat_of_lt (by omega)
  have hb : (0x80 + n % 64).toUInt8.toNat = 0x80 + n % 64 := toUInt8_toNat_of_lt (by omega)
  have hrange : (decide (0xC2 ≤ 0xC0 + n / 64) && decide (0xC0 + n / 64 < 0xE0)) = true := by
    simp only [Bool.and_eq_true, decide_eq_true_eq]
    omega
  have hcontinues : isContinuation (0x80 + n % 64).toUInt8 = true := by
    simp only [isContinuation, hb, Bool.and_eq_true, decide_eq_true_eq]
    omega
  have hvalue : (0xC0 + n / 64 - 0xC0) * 64 + (0x80 + n % 64 - 0x80) = n := by omega
  rw [decode.eq_def]
  simp only [ha, hb, if_neg (show ¬0xC0 + n / 64 < 0x80 by omega), if_pos hrange,
    if_pos hcontinues, hvalue]

/-- The three bytes of a number below 65536 are decoded as that number, unless it is a
surrogate's. -/
theorem decode_three {n : Nat} (hlow : 0x800 ≤ n) (hhigh : n < 0x10000)
    (hplain : ¬(0xD800 ≤ n ∧ n < 0xE000)) (rest : Bytes) :
    decode ((0xE0 + n / 4096).toUInt8 :: (0x80 + n / 64 % 64).toUInt8 ::
        (0x80 + n % 64).toUInt8 :: rest) = (decode rest).map (CodePoint.ofCode n :: ·) := by
  have ha : (0xE0 + n / 4096).toUInt8.toNat = 0xE0 + n / 4096 := toUInt8_toNat_of_lt (by omega)
  have hb : (0x80 + n / 64 % 64).toUInt8.toNat = 0x80 + n / 64 % 64 :=
    toUInt8_toNat_of_lt (by omega)
  have hc : (0x80 + n % 64).toUInt8.toNat = 0x80 + n % 64 := toUInt8_toNat_of_lt (by omega)
  have hvalue : (0xE0 + n / 4096 - 0xE0) * 4096 + (0x80 + n / 64 % 64 - 0x80) * 64 +
      (0x80 + n % 64 - 0x80) = n := by
    omega
  have hwide : wideChar? (0xE0 + n / 4096).toUInt8 (0x80 + n / 64 % 64).toUInt8
      (0x80 + n % 64).toUInt8 = some (.ofCode n) := by
    unfold wideChar?
    simp only [isContinuation, ha, hb, hc, hvalue]
    rw [if_pos]
    simp only [Bool.and_eq_true, decide_eq_true_eq, Bool.not_eq_true', Bool.and_eq_false_iff,
      decide_eq_false_iff_not]
    omega
  have hnarrow : ¬(decide (0xC2 ≤ 0xE0 + n / 4096) && decide (0xE0 + n / 4096 < 0xE0)) = true := by
    simp only [Bool.and_eq_true, decide_eq_true_eq]
    omega
  have hrange : (decide (0xE0 ≤ 0xE0 + n / 4096) && decide (0xE0 + n / 4096 < 0xF0)) = true := by
    simp only [Bool.and_eq_true, decide_eq_true_eq]
    omega
  rw [decode.eq_def]
  simp only [ha, if_neg (show ¬0xE0 + n / 4096 < 0x80 by omega), if_neg hnarrow, if_pos hrange,
    hwide, Option.bind_some]

/-- The four bytes of a number beyond the first plane are decoded as that number. -/
theorem decode_four {n : Nat} (hlow : 0x10000 ≤ n) (hhigh : n < 0x110000) (rest : Bytes) :
    decode ((0xF0 + n / 262144).toUInt8 :: (0x80 + n / 4096 % 64).toUInt8 ::
        (0x80 + n / 64 % 64).toUInt8 :: (0x80 + n % 64).toUInt8 :: rest) =
      (decode rest).map (CodePoint.ofCode n :: ·) := by
  have ha : (0xF0 + n / 262144).toUInt8.toNat = 0xF0 + n / 262144 :=
    toUInt8_toNat_of_lt (by omega)
  have hb : (0x80 + n / 4096 % 64).toUInt8.toNat = 0x80 + n / 4096 % 64 :=
    toUInt8_toNat_of_lt (by omega)
  have hc : (0x80 + n / 64 % 64).toUInt8.toNat = 0x80 + n / 64 % 64 :=
    toUInt8_toNat_of_lt (by omega)
  have hd : (0x80 + n % 64).toUInt8.toNat = 0x80 + n % 64 := toUInt8_toNat_of_lt (by omega)
  have hvalue : (0xF0 + n / 262144 - 0xF0) * 262144 + (0x80 + n / 4096 % 64 - 0x80) * 4096 +
      (0x80 + n / 64 % 64 - 0x80) * 64 + (0x80 + n % 64 - 0x80) = n := by
    omega
  have hastral : astralChar? (0xF0 + n / 262144).toUInt8 (0x80 + n / 4096 % 64).toUInt8
      (0x80 + n / 64 % 64).toUInt8 (0x80 + n % 64).toUInt8 = some (.ofCode n) := by
    unfold astralChar?
    simp only [isContinuation, ha, hb, hc, hd, hvalue]
    rw [if_pos]
    simp only [Bool.and_eq_true, decide_eq_true_eq]
    omega
  have hnarrow :
      ¬(decide (0xC2 ≤ 0xF0 + n / 262144) && decide (0xF0 + n / 262144 < 0xE0)) = true := by
    simp only [Bool.and_eq_true, decide_eq_true_eq]
    omega
  have hmiddle :
      ¬(decide (0xE0 ≤ 0xF0 + n / 262144) && decide (0xF0 + n / 262144 < 0xF0)) = true := by
    simp only [Bool.and_eq_true, decide_eq_true_eq]
    omega
  have hrange :
      (decide (0xF0 ≤ 0xF0 + n / 262144) && decide (0xF0 + n / 262144 < 0xF5)) = true := by
    simp only [Bool.and_eq_true, decide_eq_true_eq]
    omega
  rw [decode.eq_def]
  simp only [ha, if_neg (show ¬0xF0 + n / 262144 < 0x80 by omega), if_neg hnarrow, if_neg hmiddle,
    if_pos hrange, hastral, Option.bind_some]

/-- Decoding takes a character's bytes as that character. -/
theorem decode_charBytes_append (c : Char) (rest : Bytes) :
    decode (charBytes c ++ rest) = (decode rest).map (.char c :: ·) := by
  have hvalid := charNumber_valid c
  rw [← CodePoint.ofCode_code (.char c)]
  simp only [charBytes, CodePoint.code]
  split
  · exact decode_one ‹_› rest
  split
  · exact decode_two (by omega) ‹_› rest
  split
  · exact decode_three (by omega) ‹_› (by omega) rest
  · exact decode_four (by omega) (by omega) rest

/-- Decoding the encoding of a text gives the text back. -/
theorem decode_encode {t : Text} {bytes : Bytes} (h : t.encode = some bytes) :
    decode bytes = some t := by
  induction t generalizing bytes with
  | nil =>
    cases h
    rfl
  | cons c t ih =>
    cases c with
    | char c =>
      obtain ⟨rest, hrest, rfl⟩ := Option.map_eq_some_iff.mp h
      rw [decode_charBytes_append, ih hrest, Option.map_some]
    | surrogate unit => cases h

/-- A code point that belongs to intervals which keep clear of the surrogates is a character. -/
theorem isChar_of_has {ranges : Ranges} {c : CodePoint}
    (hranges : ∀ range ∈ ranges, range.2 < 0xD800 ∨ 0xE000 ≤ range.1)
    (h : ranges.has c.code = true) : c.toChar?.isSome = true := by
  rw [CodePoint.isChar_iff]
  induction ranges with
  | nil => cases h
  | cons range ranges ih =>
    obtain ⟨low, high⟩ := range
    obtain ⟨hfirst, hrest⟩ := List.forall_mem_cons.mp hranges
    simp only [Ranges.has, Bool.and_eq_true, Bool.or_eq_true, decide_eq_true_eq] at h
    obtain ⟨hlow, hhigh | hmore⟩ := h
    · simp only at hfirst
      omega
    · exact ih hrest hmore

/-- What has a visible shape is a character. -/
theorem isChar_of_isPrintable {c : CodePoint} (h : c.isPrintable = true) :
    c.toChar?.isSome = true :=
  isChar_of_has (by decide +kernel) h

/-- A part of a word is a character. -/
theorem isChar_of_isWord {c : CodePoint} (h : c.isWord = true) : c.toChar?.isSome = true :=
  isChar_of_has (by decide +kernel) h

/-- A decimal digit is a character. -/
theorem isChar_of_isDecimal {c : CodePoint} (h : c.isDecimal = true) : c.toChar?.isSome = true :=
  isChar_of_has (by decide +kernel) h

end Text

end Toolsmith
