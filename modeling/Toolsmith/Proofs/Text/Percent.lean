import Toolsmith.Proofs.Text.Encoding
import Toolsmith.Proofs.Text.Numeral
import Toolsmith.Text.Percent

/-!
# Percent encoding is undone

A byte stands for itself only if it is that of an ASCII character, and every other byte is written
as an escape. So the bytes of a percent-encoded text are those of the text, as long as the percent
sign is not declared safe, and the text is read back from them.
-/

namespace Toolsmith.Text

variable {safe encoded t : Text} {b : UInt8}

/-- The ASCII character of a byte. -/
theorem ofCode_of_lt {n : Nat} (h : n < 128) : CodePoint.ofCode n = .char (Char.ofNat n) := by
  unfold CodePoint.ofCode
  rw [dif_neg (by omega), if_pos (by omega)]

/-- The upper-case hexadecimal digit of a value. -/
def upperPoint (d : Nat) : CodePoint :=
  .char d.digitChar.toUpper

/-- A digit has its value when it is read, also in upper case. -/
theorem hexValue?_upperPoint {d : Nat} (h : d < 16) : (upperPoint d).hexValue? = some d := by
  revert d
  decide

/-- A byte has two upper-case digits. -/
theorem upperHex_eq (b : UInt8) :
    upperHex b = [upperPoint (b.toNat / 16), upperPoint (b.toNat % 16)] := by
  have hlt := b.toNat_lt
  rw [upperHex, ofHex_succ, ofHex_one (by omega)]
  simp [digitPoint, upperPoint]

/-- An escape is read as the byte for which it is written. -/
theorem escapedBytes_escape (b : UInt8) (rest : Text) :
    escapedBytes 0 (.char '%' :: (upperHex b ++ rest)) = b :: escapedBytes 0 rest := by
  have hlt := b.toNat_lt
  have hhigh : (upperPoint (b.toNat / 16)).hexValue? = some (b.toNat / 16) :=
    hexValue?_upperPoint (by omega)
  have hlow : (upperPoint (b.toNat % 16)).hexValue? = some (b.toNat % 16) :=
    hexValue?_upperPoint (by omega)
  have hvalue : (b.toNat / 16 * 16 + b.toNat % 16).toUInt8 = b := by
    rw [Nat.div_add_mod']
    exact UInt8.ofNat_toNat
  rw [upperHex_eq, List.cons_append, List.singleton_append, escapedBytes]
  simp only [hhigh, hlow, hvalue, escapedBytes]

/-- An ASCII character other than the percent sign is read as its byte. -/
theorem escapedBytes_plain (hlt : b.toNat < 128) (hpercent : CodePoint.ofCode b.toNat ≠ .char '%')
    (rest : Text) :
    escapedBytes 0 (CodePoint.ofCode b.toNat :: rest) = b :: escapedBytes 0 rest := by
  have hnumber : ∀ n < 128, (Char.ofNat n).toNat = n := by decide
  have hbytes : charBytes (Char.ofNat b.toNat) = [b] := by
    rw [charBytes, hnumber _ hlt, if_pos hlt, Nat.toUInt8, UInt8.ofNat_toNat]
  rw [ofCode_of_lt hlt] at hpercent ⊢
  rw [escapedBytes, hbytes, List.singleton_append]
  exact fun _ _ _ heq _ => hpercent heq

/-- A byte that stands for itself in any part of a URL is that of a letter, a digit or one of four
marks. -/
theorem point_of_isUnreserved (h : isUnreserved b = true) : b.toNat < 128 ∧
    ((CodePoint.ofCode b.toNat).isAsciiLetter = true ∨
      (CodePoint.ofCode b.toNat).isAsciiDigit = true ∨
      CodePoint.ofCode b.toNat ∈ ofString "_.-~") := by
  obtain ⟨hlt, hpoint⟩ := Bool.and_eq_true_iff.mp h
  have hlt : b.toNat < 128 := of_decide_eq_true hlt
  simp only [Char.isAlphanum, Bool.or_eq_true, beq_iff_eq] at hpoint
  rw [ofCode_of_lt hlt]
  refine ⟨hlt, ?_⟩
  obtain ((((hletter | hdigit) | heq) | heq) | heq) | heq := hpoint
  · exact .inl hletter
  · exact .inr (.inl hdigit)
  all_goals
    rw [heq]
    exact .inr (.inr (by decide))

/-- A byte stands for itself, as an ASCII character that is declared safe or safe in any part of a
URL, or it is written as an escape. -/
theorem percentByte_cases (safe : Text) (b : UInt8) :
    (percentByte safe b = [CodePoint.ofCode b.toNat] ∧ b.toNat < 128 ∧
        (isUnreserved b = true ∨ CodePoint.ofCode b.toNat ∈ safe)) ∨
      percentByte safe b = .char '%' :: upperHex b := by
  unfold percentByte
  split
  · rename_i hplain
    rcases Bool.or_eq_true_iff.mp hplain with hunreserved | hsafe
    · exact .inl ⟨rfl, (point_of_isUnreserved hunreserved).1, .inl hunreserved⟩
    · obtain ⟨point, hpoint, hcode⟩ := List.any_eq_true.mp hsafe
      obtain ⟨hascii, heq⟩ := Bool.and_eq_true_iff.mp hcode
      have hnumber : point.code = b.toNat := beq_iff_eq.mp heq
      have hlt : point.code < 128 := of_decide_eq_true hascii
      refine .inl ⟨rfl, by omega, .inr ?_⟩
      rwa [← hnumber, CodePoint.ofCode_code]
  · exact .inr rfl

/-- A byte is read back from the way it is written, as long as the percent sign is not safe. -/
theorem escapedBytes_percentByte (hsafe : CodePoint.char '%' ∉ safe) (b : UInt8) (rest : Text) :
    escapedBytes 0 (percentByte safe b ++ rest) = b :: escapedBytes 0 rest := by
  obtain ⟨hplain, hlt, hkept⟩ | hescape := percentByte_cases safe b
  · rw [hplain, List.singleton_append]
    refine escapedBytes_plain hlt (fun heq => ?_) rest
    rcases hkept with hunreserved | hmem
    · have hpoint := (point_of_isUnreserved hunreserved).2
      rw [heq] at hpoint
      revert hpoint
      decide
    · exact hsafe (heq ▸ hmem)
  · rw [hescape]
    exact escapedBytes_escape b rest

/-- The bytes of a percent-encoded text are those of the text. -/
theorem encode_of_percentEncode (hsafe : CodePoint.char '%' ∉ safe)
    (h : t.percentEncode safe = some encoded) : t.encode = some (escapedBytes 0 encoded) := by
  have hread : ∀ bytes : Bytes, escapedBytes 0 (bytes.flatMap (percentByte safe)) = bytes := by
    intro bytes
    induction bytes with
    | nil => rfl
    | cons b bytes ih => rw [List.flatMap_cons, escapedBytes_percentByte hsafe, ih]
  obtain ⟨bytes, hbytes, rfl⟩ := Option.map_eq_some_iff.mp h
  rw [hbytes, hread]

/-- A percent-encoded text is read back. -/
theorem decode_escapedBytes (hsafe : CodePoint.char '%' ∉ safe)
    (h : t.percentEncode safe = some encoded) : decode (escapedBytes 0 encoded) = some t :=
  decode_encode (encode_of_percentEncode hsafe h)

/-- A percent-encoded text is made of letters, digits, the four marks and what is declared safe, and
of percent signs. -/
theorem mem_of_percentEncode {c : CodePoint} (h : t.percentEncode safe = some encoded)
    (hc : c ∈ encoded) : c.isAsciiLetter = true ∨ c.isAsciiDigit = true ∨
      c ∈ ofString "_.-~" ∨ c ∈ safe ∨ c = .char '%' := by
  have hdigits : ∀ d < 16,
      (upperPoint d).isAsciiLetter = true ∨ (upperPoint d).isAsciiDigit = true := by
    decide
  obtain ⟨bytes, -, rfl⟩ := Option.map_eq_some_iff.mp h
  obtain ⟨b, -, hc⟩ := List.mem_flatMap.mp hc
  have hlt := b.toNat_lt
  obtain ⟨hplain, -, hkept⟩ | hescape := percentByte_cases safe b
  · rw [hplain] at hc
    obtain rfl := List.mem_singleton.mp hc
    rcases hkept with hunreserved | hmem
    · obtain hletter | hdigit | hmark := (point_of_isUnreserved hunreserved).2
      · exact .inl hletter
      · exact .inr (.inl hdigit)
      · exact .inr (.inr (.inl hmark))
    · exact .inr (.inr (.inr (.inl hmem)))
  · rw [hescape, upperHex_eq] at hc
    simp only [List.mem_cons, List.not_mem_nil, or_false] at hc
    obtain rfl | rfl | rfl := hc
    · exact .inr (.inr (.inr (.inr rfl)))
    · exact (hdigits _ (by omega)).imp_right .inl
    · exact (hdigits _ (by omega)).imp_right .inl

end Toolsmith.Text
