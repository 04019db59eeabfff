import Mathlib.Data.Nat.Cast.Order.Field
import Toolsmith.Proofs.Number.Rounding

/-!
# Shortest decimals are rounded back

The decimal that is written for a double lies in the interval of the values that are rounded to it.
A decimal with 17 digits that does so is always there: a unit of its last digit is less than the
length of the interval on either side of the double.
-/

namespace Toolsmith

/-- The value of a decimal. -/
def Decimal.value (d : Decimal) : ℚ :=
  d.digits * 10 ^ d.exponent

/-- Zeros at the end of the digits do not count. -/
theorem Decimal.value_trimZeros (fuel : Nat) (d : Decimal) : (d.trimZeros fuel).value = d.value := by
  induction fuel generalizing d with
  | zero => rfl
  | succ fuel ih =>
    unfold trimZeros
    split
    · rename_i h
      rw [ih]
      have hdigits : (d.digits : ℚ) = 10 * (d.digits / 10 : Nat) := by
        exact_mod_cast (by omega : d.digits = 10 * (d.digits / 10))
      simp only [value]
      rw [hdigits, zpow_add_one₀ (by norm_num)]
      ring
    · rfl

/-- A decimal without the zeros at its end is no zero if it was none before. -/
theorem Decimal.trimZeros_ne_zero {d : Decimal} (h : d.digits ≠ 0) (fuel : Nat) :
    (d.trimZeros fuel).digits ≠ 0 := by
  induction fuel generalizing d with
  | zero => exact h
  | succ fuel ih =>
    unfold trimZeros
    split
    · apply ih
      show d.digits / 10 ≠ 0
      omega
    · exact h

namespace Binary64

variable {significand : Nat} {exponent : Int}

/-- The value of a fraction with numbers in between is compared without division. -/
theorem mul_le_mul_iff_ratio {a b c d : Nat} (hb : 0 < b) (hd : 0 < d) :
    a * d ≤ c * b ↔ ratio (a, b) ≤ ratio (c, d) := by
  have hb' : (0 : ℚ) < b := by exact_mod_cast hb
  have hd' : (0 : ℚ) < d := by exact_mod_cast hd
  unfold ratio
  rw [div_le_div_iff₀ hb' hd']
  exact_mod_cast Iff.rfl

/-- The strict comparison does not need division either. -/
theorem mul_lt_mul_iff_ratio {a b c d : Nat} (hb : 0 < b) (hd : 0 < d) :
    a * d < c * b ↔ ratio (a, b) < ratio (c, d) := by
  rw [← not_le, mul_le_mul_iff_ratio hd hb, not_le]

/-- A number of quarter units has its value as a fraction. -/
theorem ratio_quarters (n : Nat) (exponent : Int) :
    ratio (scaled n 1 (2 - exponent)) = n / 4 * 2 ^ exponent := by
  rw [show scaled n 1 (2 - exponent) = scaledBy 2 n 1 (2 - exponent) from rfl,
    ratio_scaledBy (by decide), Nat.cast_one, div_one, Nat.cast_ofNat,
    zpow_sub₀ (by norm_num), zpow_ofNat]
  field_simp
  norm_num

/-- A decimal has its value as a fraction. -/
theorem ratio_decimal (d : Decimal) : ratio (decimalScaled d.digits 1 (-d.exponent)) = d.value := by
  rw [show decimalScaled d.digits 1 (-d.exponent) = scaledBy 10 d.digits 1 (-d.exponent) from rfl,
    ratio_scaledBy (by decide), Nat.cast_one, div_one, Nat.cast_ofNat, zpow_neg, div_inv_eq_mul]
  rfl

/-- A decimal reads back as a double if its value is rounded to it, and only then. -/
theorem readsBack_iff (hpos : 0 < significand) (d : Decimal) :
    readsBack significand exponent d = true ↔ Rounds significand exponent d.value := by
  have hlowDen := den_scaledBy_pos (by decide : 0 < 2) Nat.one_pos
    (4 * significand - lowerGap significand exponent) (2 - exponent)
  have hhighDen := den_scaledBy_pos (by decide : 0 < 2) Nat.one_pos (4 * significand + 2)
    (2 - exponent)
  have hden := den_scaledBy_pos (by decide : 0 < 10) Nat.one_pos d.digits (-d.exponent)
  have hlow := ratio_quarters (4 * significand - lowerGap significand exponent) exponent
  have hhigh := ratio_quarters (4 * significand + 2) exponent
  have hvalue := ratio_decimal d
  have hgap : lowerGap significand exponent ≤ 4 * significand := by
    rcases lowerGap_cases significand exponent with ⟨-, -, h⟩ | ⟨-, h⟩ <;> omega
  have hlowSplit : ((4 * significand - lowerGap significand exponent : Nat) : ℚ) / 4 *
      2 ^ exponent = ((significand : ℚ) - lowerGap significand exponent / 4) * 2 ^ exponent := by
    rw [Nat.cast_sub hgap]
    push_cast
    ring
  have hhighSplit : ((4 * significand + 2 : Nat) : ℚ) / 4 * 2 ^ exponent =
      ((significand : ℚ) + 1 / 2) * 2 ^ exponent := by
    push_cast
    ring
  rw [hlowSplit] at hlow
  rw [hhighSplit] at hhigh
  unfold readsBack
  change 0 < (scaled _ 1 (2 - exponent)).2 at hlowDen
  change 0 < (scaled _ 1 (2 - exponent)).2 at hhighDen
  change 0 < (decimalScaled _ 1 (-d.exponent)).2 at hden
  generalize scaled (4 * significand - lowerGap significand exponent) 1 (2 - exponent) = low at *
  generalize scaled (4 * significand + 2) 1 (2 - exponent) = high at *
  generalize decimalScaled d.digits 1 (-d.exponent) = middle at *
  obtain ⟨low, lowDen⟩ := low
  obtain ⟨high, highDen⟩ := high
  obtain ⟨num, den⟩ := middle
  simp only at hlowDen hhighDen hden ⊢
  by_cases heven : significand % 2 = 0
  · rw [if_pos heven, Bool.and_eq_true, decide_eq_true_eq, decide_eq_true_eq,
      mul_le_mul_iff_ratio hlowDen hden, mul_le_mul_iff_ratio hden hhighDen, hlow, hhigh, hvalue]
    exact ⟨fun h => ⟨h.1, h.2, fun hodd => by omega⟩, fun h => ⟨h.low, h.high⟩⟩
  · rw [if_neg heven, Bool.and_eq_true, decide_eq_true_eq, decide_eq_true_eq,
      mul_lt_mul_iff_ratio hlowDen hden, mul_lt_mul_iff_ratio hden hhighDen, hlow, hhigh, hvalue]
    exact ⟨fun h => ⟨h.1.le, h.2.le, fun _ => h⟩, fun h => h.odd (by omega)⟩

/-- Places are only added while the value has them. -/
theorem places_le {num den : Nat} (hden : 0 < den) (fuel : Nat) {places : Int}
    (h : (10 : ℚ) ^ (places - 1) ≤ ratio (num, den)) :
    (10 : ℚ) ^ (placesFrom num den fuel places - 1) ≤ ratio (num, den) := by
  induction fuel generalizing places with
  | zero => exact h
  | succ fuel ih =>
    have hratio := ratio_scaledBy (by decide : 0 < 10) num den places
    have hpos := den_scaledBy_pos (by decide : 0 < 10) hden num places
    unfold placesFrom
    generalize heq : decimalScaled num den places = f
    rw [show scaledBy 10 num den places = f from heq] at hratio hpos
    obtain ⟨a, b⟩ := f
    simp only at hpos ⊢
    split
    · exact h
    · rename_i hle
      apply ih
      have hb : (0 : ℚ) < b := by exact_mod_cast hpos
      have hone : (1 : ℚ) ≤ ratio (a, b) := by
        unfold ratio
        rw [le_div_iff₀ hb, one_mul]
        exact_mod_cast not_lt.mp hle
      rw [hratio, Nat.cast_ofNat, le_div_iff₀ (by positivity), one_mul] at hone
      rwa [show places + 1 - 1 = places by ring]

/-- Three decimal places are fewer than ten binary ones. -/
theorem pow_thousand_le (k : Nat) : (10 : ℚ) ^ (3 * (k : Int)) ≤ 2 ^ (10 * (k : Int)) := by
  rw [zpow_mul, zpow_mul, zpow_natCast, zpow_natCast]
  exact pow_le_pow_left₀ (by norm_num) (by norm_num) k

/-- Ten binary places are three decimal ones and little more. -/
theorem pow_thousand_ge {k : Nat} (hk : k ≤ 110) :
    (2 : ℚ) ^ (10 * (k : Int)) ≤ 10 ^ (3 * (k : Int) + 2) := by
  have hnat : ∀ k ≤ 110, 2 ^ (10 * k) ≤ 10 ^ (3 * k + 2) := by decide +kernel
  exact_mod_cast hnat k hk

/-- The number of places at which the search begins is not too great. -/
theorem start_le {log : Int} (hlog : -1074 ≤ log) :
    (10 : ℚ) ^ (log * 3 / 10 - 2 - 1) ≤ 2 ^ log := by
  obtain ⟨k, r, hr, hsplit⟩ : ∃ (k : Int) (r : Nat), r < 10 ∧ log = 10 * k + r :=
    ⟨log / 10, (log % 10).toNat, by omega, by omega⟩
  have hten : (10 : ℚ) ≠ 0 := by norm_num
  have htwo : (2 : ℚ) ≠ 0 := by norm_num
  have hexponent : log * 3 / 10 - 2 - 1 = (3 * k - 3) + (3 * r / 10 : Nat) := by omega
  have hsmall : (10 : ℚ) ^ (3 * r / 10) ≤ 2 ^ r := by
    have hnat : ∀ r < 10, 10 ^ (3 * r / 10) ≤ 2 ^ r := by decide
    exact_mod_cast hnat r hr
  have hlarge : (10 : ℚ) ^ (3 * k - 3) ≤ 2 ^ (10 * k) := by
    rcases le_total 0 k with hk | hk
    · obtain ⟨n, rfl⟩ := Int.eq_ofNat_of_zero_le hk
      exact (zpow_le_zpow_right₀ (by norm_num) (by omega)).trans (pow_thousand_le n)
    · obtain ⟨n, hn⟩ := Int.eq_ofNat_of_zero_le (show 0 ≤ -k by omega)
      have hk' : k = -(n : Int) := by omega
      have hge := inv_anti₀ (by positivity) (pow_thousand_ge (show n ≤ 110 by omega))
      rw [← zpow_neg, ← zpow_neg] at hge
      rw [hk', mul_neg, mul_neg]
      exact (zpow_le_zpow_right₀ (by norm_num) (by omega)).trans hge
  rw [hexponent, hsplit, zpow_add₀ hten, zpow_add₀ htwo, zpow_natCast, zpow_natCast]
  gcongr

/-- A decimal that is found among the neighbours reads back. -/
theorem readsBack_of_withDigits? {significand : Nat} {exponent : Int} {num den : Nat}
    {places : Int} {count : Nat} {d : Decimal}
    (h : withDigits? significand exponent num den places count = some d) :
    readsBack significand exponent d = true := by
  unfold withDigits? at h
  simp only at h
  split at h
  · rename_i hboth
    rw [Bool.and_eq_true] at hboth
    split at h <;> cases h
    · exact hboth.1
    · exact hboth.2
  split at h
  · cases h
    assumption
  split at h
  · cases h
    assumption
  · cases h

/-- A double as a fraction. -/
theorem ratio_double (significand : Nat) (exponent : Int) :
    ratio (scaled significand 1 (-exponent)) = significand * 2 ^ exponent := by
  rw [show scaled significand 1 (-exponent) = scaledBy 2 significand 1 (-exponent) from rfl,
    ratio_scaledBy (by decide), Nat.cast_one, div_one, Nat.cast_ofNat, zpow_neg, div_inv_eq_mul]

/-- A value between two decimals of neighbouring digits, one of which is rounded to the double: a
unit of the last digit is too small for both to be beyond a halfway point. -/
theorem rounds_neighbour (hfits : Fits significand exponent) {step : Int} {n : Nat}
    (hstep : 10 ^ 16 * (10 : ℚ) ^ step ≤ significand * 2 ^ exponent)
    (hlow : (n : ℚ) * 10 ^ step ≤ significand * 2 ^ exponent)
    (hhigh : (significand : ℚ) * 2 ^ exponent < ((n : ℚ) + 1) * 10 ^ step) :
    Rounds significand exponent (n * 10 ^ step) ∨
      Rounds significand exponent (((n : ℚ) + 1) * 10 ^ step) := by
  have hunit : (0 : ℚ) < 2 ^ exponent := by positivity
  have hdigit : (0 : ℚ) < 10 ^ step := by positivity
  have hgapPos : (0 : ℚ) < lowerGap significand exponent := by
    rcases lowerGap_cases significand exponent with ⟨-, -, h⟩ | ⟨-, h⟩ <;> rw [h] <;> norm_num
  have hshort : (10 : ℚ) ^ step < (lowerGap significand exponent / 4 + 1 / 2) * 2 ^ exponent := by
    have hbound : (significand : ℚ) < (lowerGap significand exponent / 4 + 1 / 2) * 10 ^ 16 := by
      rcases lowerGap_cases significand exponent with ⟨heq, -, h⟩ | ⟨-, h⟩
      · rw [h, heq]
        norm_num [leastFull]
      · have hbelow : (significand : ℚ) < (2 * leastFull : Nat) := by exact_mod_cast hfits.below
        rw [h]
        norm_num [leastFull] at hbelow ⊢
        linarith
    have := mul_lt_mul_of_pos_right hbound hunit
    nlinarith
  have hhalf : (significand : ℚ) * 2 ^ exponent < (significand + 1 / 2) * 2 ^ exponent := by
    gcongr
    norm_num
  have hquarter : ((significand : ℚ) - lowerGap significand exponent / 4) * 2 ^ exponent <
      significand * 2 ^ exponent := by
    gcongr
    linarith
  by_cases hbelow : ((significand : ℚ) - lowerGap significand exponent / 4) * 2 ^ exponent <
      n * 10 ^ step
  · have hfits : (n : ℚ) * 10 ^ step < (significand + 1 / 2) * 2 ^ exponent := by linarith
    exact .inl ⟨hbelow.le, hfits.le, fun _ => ⟨hbelow, hfits⟩⟩
  · have hfits : ((n : ℚ) + 1) * 10 ^ step < (significand + 1 / 2) * 2 ^ exponent := by
      linarith
    have hlow' := hquarter.trans hhigh
    exact .inr ⟨hlow'.le, hfits.le, fun _ => ⟨hlow', hfits⟩⟩

/-- A value lies between the decimals of its quotient at a scale and of the next number. -/
theorem quotient_bounds {num den a b : Nat} (hden : 0 < den) {step : Int}
    (heq : decimalScaled num den step = (a, b)) :
    ((a / b : Nat) : ℚ) * 10 ^ step ≤ ratio (num, den) ∧
      ratio (num, den) < (((a / b : Nat) : ℚ) + 1) * 10 ^ step := by
  have hratio := ratio_scaledBy (by decide : 0 < 10) num den step
  have hpos := den_scaledBy_pos (by decide : 0 < 10) hden num step
  rw [show scaledBy 10 num den step = (a, b) from heq] at hratio hpos
  have hb : (0 : ℚ) < b := by exact_mod_cast hpos
  have hunit : (0 : ℚ) < 10 ^ step := by positivity
  have hscaled : (a : ℚ) / b * 10 ^ step = ratio (num, den) := by
    rw [show (a : ℚ) / b = ratio (a, b) from rfl, hratio, Nat.cast_ofNat]
    exact div_mul_cancel₀ _ hunit.ne'
  rw [← hscaled]
  constructor
  · gcongr
    exact Nat.cast_div_le
  · gcongr
    rw [div_lt_iff₀ hb]
    exact_mod_cast Nat.lt_mul_of_div_lt (Nat.lt_succ_self _) hpos

/-- With 17 digits there is a decimal that reads back. -/
theorem withDigits?_isSome (hfits : Fits significand exponent) (hpos : 0 < significand)
    {num den : Nat} (hden : 0 < den) {places : Int}
    (hvalue : ratio (num, den) = significand * 2 ^ exponent)
    (hplaces : (10 : ℚ) ^ (places - 1) ≤ ratio (num, den)) :
    (withDigits? significand exponent num den places 17).isSome = true := by
  unfold withDigits?
  simp only
  generalize heq : decimalScaled num den (places - (17 : Nat)) = f
  obtain ⟨a, b⟩ := f
  obtain ⟨hlow, hhigh⟩ := quotient_bounds hden heq
  have hstep : 10 ^ 16 * (10 : ℚ) ^ (places - (17 : Nat)) ≤ significand * 2 ^ exponent := by
    rw [← hvalue, ← zpow_natCast, ← zpow_add₀ (by norm_num)]
    convert hplaces using 2
    omega
  rw [hvalue] at hlow hhigh
  have hback : readsBack significand exponent ⟨a / b, places - (17 : Nat)⟩ = true ∨
      readsBack significand exponent ⟨a / b + 1, places - (17 : Nat)⟩ = true := by
    rw [readsBack_iff hpos, readsBack_iff hpos]
    have hnear := rounds_neighbour hfits hstep hlow hhigh
    simpa [Decimal.value] using hnear
  simp only
  generalize readsBack significand exponent ⟨a / b, places - (17 : Nat)⟩ = below at hback
  generalize readsBack significand exponent ⟨a / b + 1, places - (17 : Nat)⟩ = above at hback
  rcases hback with rfl | rfl
  · cases above
    · rfl
    · simp only [Bool.and_self, if_true]
      split <;> rfl
  · cases below
    · rfl
    · simp only [Bool.and_self, if_true]
      split <;> rfl

/-- The value of the shortest decimal is rounded to the double. -/
theorem rounds_shortest (hfits : Fits significand exponent) (hpos : 0 < significand) :
    Rounds significand exponent (shortest significand exponent).value := by
  have hvalue := ratio_double significand exponent
  have hden := den_scaledBy_pos (by decide : 0 < 2) Nat.one_pos significand (-exponent)
  have hlog : (2 : ℚ) ^ ((Nat.log2 significand : Int) + exponent) ≤ significand * 2 ^ exponent := by
    rw [zpow_add₀ (by norm_num), zpow_natCast]
    gcongr
    exact_mod_cast Nat.log2_self_le hpos.ne'
  have hleast := hfits.least
  have hstart := (start_le (show -1074 ≤ (Nat.log2 significand : Int) + exponent by omega)).trans
    hlog
  unfold shortest
  generalize heq : scaled significand 1 (-exponent) = f
  rw [heq] at hvalue
  rw [show scaledBy 2 significand 1 (-exponent) = f from heq] at hden
  obtain ⟨num, den⟩ := f
  simp only at hden ⊢
  rw [← hvalue] at hstart
  have hplaces := places_le hden 40 hstart
  generalize placesFrom num den 40 _ = places at hplaces
  have hsome := withDigits?_isSome hfits hpos hden hvalue hplaces
  obtain ⟨d, hd⟩ : ∃ d, (List.range 17).findSome? (fun k =>
      withDigits? significand exponent num den places (k + 1)) = some d := by
    refine Option.isSome_iff_exists.mp (List.findSome?_isSome_iff.mpr ⟨16, by simp, hsome⟩)
  obtain ⟨k, -, hk⟩ := List.exists_of_findSome?_eq_some hd
  rw [hd, Option.getD_some, Decimal.value_trimZeros]
  exact (readsBack_iff hpos d).mp (readsBack_of_withDigits? hk)

/-- Zero lies outside the interval of a double that is no zero. -/
theorem readsBack_zero (h : significand ≠ 0) (exponent step : Int) :
    readsBack significand exponent ⟨0, step⟩ = false := by
  have hpos := Nat.pos_of_ne_zero h
  rw [← Bool.not_eq_true, readsBack_iff hpos]
  intro hrounds
  have hlow := hrounds.low
  have hone : (1 : ℚ) ≤ significand := by exact_mod_cast hpos
  have hgap : (lowerGap significand exponent : ℚ) ≤ 2 := by
    rcases lowerGap_cases significand exponent with ⟨-, -, h⟩ | ⟨-, h⟩ <;> rw [h] <;> norm_num
  have hunit : (0 : ℚ) < 2 ^ exponent := by positivity
  have hvalue : (⟨0, step⟩ : Decimal).value = 0 := by simp [Decimal.value]
  rw [hvalue] at hlow
  have := mul_pos (show (0 : ℚ) < significand - lowerGap significand exponent / 4 by linarith) hunit
  linarith

/-- The decimal with the fewest digits that reads back has some, and so has the one that stands in
for it. -/
theorem firstFit_ne_zero (h : significand ≠ 0) (exponent : Int)
    (num den : Nat) (places : Int) (counts : List Nat) :
    ((counts.findSome? fun k => withDigits? significand exponent num den places (k + 1)).getD
      ⟨significand, 0⟩).digits ≠ 0 := by
  cases hfound : counts.findSome? fun k =>
      withDigits? significand exponent num den places (k + 1) with
  | none => exact h
  | some d =>
    obtain ⟨k, _, hk⟩ := List.exists_of_findSome?_eq_some hfound
    have hback := readsBack_of_withDigits? hk
    obtain ⟨digits, step⟩ := d
    rintro (rfl : digits = 0)
    rw [readsBack_zero h] at hback
    cases hback

/-- The shortest decimal of a double that is no zero has digits. -/
theorem shortest_ne_zero (h : significand ≠ 0) (exponent : Int) :
    (shortest significand exponent).digits ≠ 0 :=
  Decimal.trimZeros_ne_zero (firstFit_ne_zero h _ _ _ _ _) 20

/-- The number of a decimal's digits tells between which powers of ten they are. -/
theorem digits_bounds {digits : Nat} (h : 0 < digits) :
    (10 : ℚ) ^ ((Nat.toDigits 10 digits).length - 1 : Int) ≤ digits ∧
      (digits : ℚ) < 10 ^ ((Nat.toDigits 10 digits).length : Int) := by
  obtain ⟨k, hk⟩ : ∃ k, (Nat.toDigits 10 digits).length = k + 1 :=
    ⟨(Nat.toDigits 10 digits).length - 1, by
      have := Nat.length_toDigits_pos (b := 10) (n := digits)
      omega⟩
  have hhigh := (Nat.length_toDigits_le_iff (n := digits) (by decide : 1 < 10)
    (Nat.succ_pos k)).mp hk.le
  have hlow : 10 ^ k ≤ digits := by
    rcases Nat.eq_zero_or_pos k with rfl | hpos
    · exact h
    · by_contra hlt
      have := (Nat.length_toDigits_le_iff (n := digits) (by decide : 1 < 10) hpos).mpr
        (not_le.mp hlt)
      omega
  rw [hk, Nat.cast_succ, add_sub_cancel_right, ← Nat.cast_succ, zpow_natCast, zpow_natCast]
  exact ⟨by exact_mod_cast hlow, by exact_mod_cast hhigh⟩

/-- The least and the greatest doubles lie within the powers of ten that are computed. -/
theorem Rounds.bounds {v : ℚ} (h : Rounds significand exponent v) (hfits : Fits significand exponent)
    (hpos : 0 < significand) : (10 : ℚ) ^ (-331 : Int) < v ∧ v < 10 ^ (310 : Int) := by
  have hone : (1 : ℚ) ≤ significand := by exact_mod_cast hpos
  have hunit : (0 : ℚ) < 2 ^ exponent := by positivity
  have hgap : (lowerGap significand exponent : ℚ) ≤ 2 := by
    rcases lowerGap_cases significand exponent with ⟨-, -, h⟩ | ⟨-, h⟩ <;> rw [h] <;> norm_num
  have hleast := two_zpow_le hfits.least
  have hmost := two_zpow_le (show exponent + 53 ≤ 1024 by have := hfits.most; omega)
  constructor
  · have hsmall := inv_anti₀ (by positivity) (pow_thousand_ge (show 108 ≤ 110 by decide))
    rw [← zpow_neg, ← zpow_neg] at hsmall
    calc (10 : ℚ) ^ (-331 : Int) < 10 ^ (-(3 * ((108 : Nat) : Int) + 2)) :=
          zpow_lt_zpow_right₀ (by norm_num) (by decide)
      _ ≤ 2 ^ (-(10 * ((108 : Nat) : Int))) := hsmall
      _ ≤ 2 ^ (-1 + -1074 : Int) := two_zpow_le (by decide)
      _ = 2 ^ (-1 : Int) * 2 ^ (-1074 : Int) := zpow_add₀ (by norm_num) _ _
      _ ≤ 2 ^ (-1 : Int) * 2 ^ exponent := mul_le_mul_of_nonneg_left hleast (by positivity)
      _ ≤ ((significand : ℚ) - lowerGap significand exponent / 4) * 2 ^ exponent := by
        gcongr
        norm_num
        linarith
      _ ≤ v := h.low
  · have hlarge := pow_thousand_ge (show 102 ≤ 110 by decide)
    calc v < 2 ^ (1024 : Int) := (h.lt hfits).trans_le hmost
      _ = 2 ^ (10 * ((102 : Nat) : Int)) * 2 ^ (4 : Int) := by
        rw [← zpow_add₀ (by norm_num)]
        rfl
      _ ≤ 10 ^ (3 * ((102 : Nat) : Int) + 2) * 2 ^ (4 : Int) := by gcongr
      _ < 10 ^ (3 * ((102 : Nat) : Int) + 2) * 10 ^ (2 : Int) := by gcongr; norm_num
      _ = 10 ^ (310 : Int) := by
        rw [← zpow_add₀ (by norm_num)]
        rfl

/-- A decimal is read as the double in whose interval its value lies. -/
theorem ofDecimal_eq {d : Decimal} (hfits : Fits significand exponent) (hpos : 0 < significand)
    (hdigits : 0 < d.digits) (h : Rounds significand exponent d.value) (negative : Bool) :
    ofDecimal negative d.digits d.exponent = finite negative significand exponent := by
  obtain ⟨hlow, hhigh⟩ := digits_bounds hdigits
  obtain ⟨hleast, hmost⟩ := h.bounds hfits hpos
  have hten : (10 : ℚ) ≠ 0 := by norm_num
  have hpower : (0 : ℚ) < 10 ^ d.exponent := by positivity
  have hfew : (Nat.toDigits 10 d.digits).length + d.exponent ≤ 310 := by
    by_contra hmany
    have hle : (10 : ℚ) ^ (310 : Int) ≤ d.value := by
      calc (10 : ℚ) ^ (310 : Int)
          ≤ 10 ^ ((Nat.toDigits 10 d.digits).length - 1 + d.exponent : Int) :=
            zpow_le_zpow_right₀ (by norm_num) (by omega)
        _ = 10 ^ ((Nat.toDigits 10 d.digits).length - 1 : Int) * 10 ^ d.exponent :=
            zpow_add₀ hten _ _
        _ ≤ d.value := mul_le_mul_of_nonneg_right hlow hpower.le
    linarith
  have hmany : -330 ≤ (Nat.toDigits 10 d.digits).length + d.exponent := by
    by_contra hfew
    have hle : d.value ≤ (10 : ℚ) ^ (-331 : Int) := by
      calc d.value ≤ 10 ^ ((Nat.toDigits 10 d.digits).length : Int) * 10 ^ d.exponent :=
            mul_le_mul_of_nonneg_right hhigh.le hpower.le
        _ = 10 ^ ((Nat.toDigits 10 d.digits).length + d.exponent : Int) :=
            (zpow_add₀ hten _ _).symm
        _ ≤ 10 ^ (-331 : Int) := zpow_le_zpow_right₀ (by norm_num) (by omega)
    linarith
  have hratio := ratio_decimal d
  have hden := den_scaledBy_pos (by decide : 0 < 10) Nat.one_pos d.digits (-d.exponent)
  unfold ofDecimal
  rw [if_neg hdigits.ne']
  simp only
  rw [if_neg (not_lt.mpr hfew), if_neg (not_lt.mpr hmany)]
  generalize heq : scaledBy 10 d.digits 1 (-d.exponent) = f at hden
  rw [show decimalScaled d.digits 1 (-d.exponent) = f from heq] at hratio
  obtain ⟨num, den⟩ := f
  simp only at hden ⊢
  rw [← hratio] at h hleast
  have hnum : 0 < num := by
    rcases Nat.eq_zero_or_pos num with rfl | hnum
    · have hzero : ratio (0, den) = 0 := by simp [ratio]
      rw [hzero] at hleast
      exact absurd hleast (not_lt.mpr (by positivity))
    · exact hnum
  exact ofFraction_eq hfits hnum hden h negative

/-- A decimal is read as a double. -/
theorem isValid_ofDecimal (negative : Bool) (digits : Nat) (exponent : Int) :
    (ofDecimal negative digits exponent).IsValid := by
  have hzero : (zero negative).IsValid := ⟨by decide, .inr rfl, by decide, by decide⟩
  have hden := den_scaledBy_pos (by decide : 0 < 10) Nat.one_pos digits (-exponent)
  unfold ofDecimal
  split
  · exact hzero
  · simp only
    split
    · trivial
    · split
      · exact hzero
      · exact isValid_ofFraction hden negative _

end Binary64

end Toolsmith
