import Mathlib.Algebra.Group.Nat.Defs
import Mathlib.Data.List.Induction
import Toolsmith.Json.Parser

/-!
# Written numbers

Decimal and hexadecimal digits of a number, read back as that number. Readers of documents and of
unit literals both rest on these facts.
-/

namespace Toolsmith.Text

/-- The code point of a digit in a base of at most sixteen. -/
def digitPoint (d : Nat) : CodePoint :=
  .char d.digitChar

/-- A digit has its value when it is read. -/
theorem hexValue?_digitPoint {d : Nat} (h : d < 16) : (digitPoint d).hexValue? = some d := by
  revert d
  decide

/-- The digits of decimal numbers are ASCII digits. -/
theorem isAsciiDigit_digitPoint {d : Nat} (h : d < 10) : (digitPoint d).isAsciiDigit = true := by
  revert d
  decide

/-- Every digit of a number is one of its base. -/
theorem mem_toDigits {base n : Nat} {c : Char} (hbase : 1 < base) (hc : c ∈ Nat.toDigits base n) :
    ∃ d < base, c = d.digitChar := by
  induction n using Nat.strongRecOn with
  | ind n ih =>
    rw [Nat.toDigits_eq_if hbase] at hc
    split at hc
    · exact ⟨n, ‹_›, List.mem_singleton.mp hc⟩
    · rcases List.mem_append.mp hc with hc | hc
      · exact ih (n / base) (Nat.div_lt_self (by omega) hbase) hc
      · exact ⟨n % base, Nat.mod_lt _ (by omega), List.mem_singleton.mp hc⟩

/-- Every code point of a decimal number is one of its digits. -/
theorem mem_ofNat {n : Nat} {c : CodePoint} (hc : c ∈ ofNat n) : ∃ d < 10, c = digitPoint d := by
  obtain ⟨char, hchar, rfl⟩ := List.mem_map.mp hc
  obtain ⟨d, hd, rfl⟩ := mem_toDigits (by decide) hchar
  exact ⟨d, hd, rfl⟩

/-- Every code point of a hexadecimal number is a digit. -/
theorem mem_ofHex {width n : Nat} {c : CodePoint} (hc : c ∈ ofHex width n) :
    ∃ d < 16, c = digitPoint d := by
  rcases List.mem_append.mp hc with hc | hc
  · exact ⟨0, by decide, List.eq_of_mem_replicate hc⟩
  · obtain ⟨char, hchar, rfl⟩ := List.mem_map.mp hc
    obtain ⟨d, hd, rfl⟩ := mem_toDigits (by decide) hchar
    exact ⟨d, hd, rfl⟩

/-- A decimal number has a digit. -/
theorem ofNat_ne_nil (n : Nat) : ofNat n ≠ [] := by
  simp [ofNat]

/-- The digits of a number with at least two of them. -/
theorem ofNat_of_le {n : Nat} (h : 10 ≤ n) : ofNat n = ofNat (n / 10) ++ [digitPoint (n % 10)] := by
  simp [ofNat, Nat.toDigits_of_base_le (by decide : 1 < 10) h, digitPoint]

/-- The digit of a number below ten. -/
theorem ofNat_of_lt {n : Nat} (h : n < 10) : ofNat n = [digitPoint n] := by
  simp [ofNat, Nat.toDigits_of_lt_base h, digitPoint]

/-- A positive decimal number begins with no zero. -/
theorem ofNat_eq_cons {n : Nat} (hn : 0 < n) :
    ∃ d rest, 0 < d ∧ d < 10 ∧ ofNat n = digitPoint d :: rest := by
  induction n using Nat.strongRecOn with
  | ind n ih =>
    by_cases h : n < 10
    · exact ⟨n, [], hn, h, ofNat_of_lt h⟩
    · obtain ⟨d, rest, hpos, hlt, heq⟩ := ih (n / 10) (by omega) (by omega)
      refine ⟨d, rest ++ [digitPoint (n % 10)], hpos, hlt, ?_⟩
      rw [ofNat_of_le (by omega), heq, List.cons_append]

/-- The digits of a decimal number have its value. -/
theorem digitsValue_ofNat (n : Nat) : Json.digitsValue (ofNat n) = n := by
  induction n using Nat.strongRecOn with
  | ind n ih =>
    by_cases h : n < 10
    · simp [ofNat_of_lt h, Json.digitsValue, hexValue?_digitPoint (by omega : n < 16)]
    · have hvalue := ih (n / 10) (by omega)
      unfold Json.digitsValue at hvalue ⊢
      rw [ofNat_of_le (by omega), List.foldl_append, hvalue]
      simp only [List.foldl_cons, List.foldl_nil,
        hexValue?_digitPoint (by omega : n % 10 < 16), Option.getD_some]
      omega

/-- Digits in front of others count for as many places more. -/
theorem digitsValue_append (s t : Text) :
    Json.digitsValue (s ++ t) = Json.digitsValue s * 10 ^ t.length + Json.digitsValue t := by
  induction t using List.reverseRecOn with
  | nil => simp [Json.digitsValue]
  | append_singleton t c ih =>
    unfold Json.digitsValue at ih ⊢
    simp only [← List.append_assoc, List.foldl_append, List.foldl_cons, List.foldl_nil,
      List.length_append, List.length_singleton, Nat.pow_succ] at ih ⊢
    rw [ih, Nat.add_mul, Nat.add_assoc, Nat.mul_assoc]

/-- Zeros in a row have no value. -/
theorem digitsValue_zeros (n : Nat) :
    Json.digitsValue (List.replicate n (CodePoint.char '0')) = 0 := by
  induction n with
  | zero => rfl
  | succ n ih =>
    rw [List.replicate_succ', digitsValue_append, ih]
    rfl

/-- Digits in a row have a value below the power of ten that their number tells. -/
theorem digitsValue_lt {t : Text} (h : ∀ c ∈ t, c.isAsciiDigit = true) :
    Json.digitsValue t < 10 ^ t.length := by
  have hdigit : ∀ c : CodePoint, c.isAsciiDigit = true → c.hexValue?.getD 0 < 10 := by
    intro c hc
    cases c with
    | surrogate unit => cases hc
    | char c =>
      simp only [CodePoint.isAsciiDigit, Char.isDigit, Bool.and_eq_true, decide_eq_true_eq] at hc
      have hnine : c.toNat ≤ 57 := UInt32.le_iff_toNat_le.mp hc.2
      have hzero : '0' ≤ c ∧ c ≤ '9' := hc
      simp only [CodePoint.hexValue?, if_pos hzero, Option.getD_some]
      simp only [Char.reduceToNat]
      omega
  induction t using List.reverseRecOn with
  | nil => decide
  | append_singleton t c ih =>
    have ht := ih fun d hd => h d (List.mem_append_left _ hd)
    have hc := hdigit c (h c (by simp))
    unfold Json.digitsValue at ht ⊢
    simp only [List.foldl_append, List.foldl_cons, List.foldl_nil, List.length_append,
      List.length_singleton, Nat.pow_succ]
    omega

/-- A power of ten has more digits than its exponent tells. -/
theorem lt_length_ofNat_pow (k : Nat) : k < (ofNat (10 ^ k)).length := by
  have hdigits : ∀ c ∈ ofNat (10 ^ k), c.isAsciiDigit = true := by
    intro c hc
    obtain ⟨d, hd, rfl⟩ := mem_ofNat hc
    exact isAsciiDigit_digitPoint hd
  have hvalue := digitsValue_lt hdigits
  rw [digitsValue_ofNat] at hvalue
  exact (Nat.pow_lt_pow_iff_right (by decide)).mp hvalue

/-- A number below a power of ten has at most as many digits as the power tells. -/
theorem length_ofNat_le {n k : Nat} (hk : 0 < k) (h : n < 10 ^ k) : (ofNat n).length ≤ k := by
  simp only [ofNat, List.length_map]
  exact (Nat.length_toDigits_le_iff (by decide) hk).mpr h

/-- The last hexadecimal digit of a number written with at least two of them. -/
theorem ofHex_succ (width n : Nat) :
    ofHex (width + 2) n = ofHex (width + 1) (n / 16) ++ [digitPoint (n % 16)] := by
  unfold ofHex
  by_cases h : n < 16
  · have hzero : n / 16 = 0 := by omega
    have hmod : n % 16 = n := by omega
    simp only [Nat.toDigits_of_lt_base h, hzero, hmod, Nat.toDigits_zero, List.map_cons,
      List.map_nil, List.length_singleton, Nat.add_sub_cancel, digitPoint]
    rw [show width + 2 - 1 = width + 1 by omega, List.replicate_succ', List.append_assoc]
  · rw [Nat.toDigits_of_base_le (by decide) (by omega : 16 ≤ n)]
    simp only [List.map_append, List.length_append, List.map_cons, List.map_nil,
      List.length_singleton, digitPoint, ← List.append_assoc]
    rw [show width + 2 = width + 1 + 1 by omega, Nat.add_sub_add_right]

/-- A number below sixteen written with one hexadecimal digit. -/
theorem ofHex_one {n : Nat} (h : n < 16) : ofHex 1 n = [digitPoint n] := by
  simp [ofHex, Nat.toDigits_of_lt_base h, digitPoint]

/-- A number written with four hexadecimal digits. -/
theorem ofHex_four {n : Nat} (h : n < 0x10000) :
    ofHex 4 n = [digitPoint (n / 4096), digitPoint (n / 256 % 16), digitPoint (n / 16 % 16),
      digitPoint (n % 16)] := by
  rw [ofHex_succ, ofHex_succ, ofHex_succ, ofHex_one (by omega)]
  simp only [Nat.div_div_eq_div_mul, List.cons_append, List.nil_append]

end Toolsmith.Text
