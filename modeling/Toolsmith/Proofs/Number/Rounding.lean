import Mathlib.Algebra.Order.Field.Power
import Mathlib.Data.Nat.Log
import Mathlib.Data.Rat.Cast.Order
import Mathlib.Tactic.FieldSimp
import Mathlib.Tactic.Linarith
import Mathlib.Tactic.NormNum
import Mathlib.Tactic.Positivity
import Mathlib.Tactic.Ring
import Toolsmith.Number.Shortest

/-!
# Rounding to doubles

Every double has an interval of values that are rounded to it: those that lie between the halfway
points to its neighbours, which belong to an even significand. A fraction is rounded to the double
in whose interval its value lies. Scales are compared as rational numbers, so no bit of a fraction
is lost.
-/

namespace Toolsmith.Binary64

/-- The value of a numerator and a denominator. -/
def ratio (fraction : Nat × Nat) : ℚ :=
  fraction.1 / fraction.2

/-- A scaled fraction has a denominator. -/
theorem den_scaledBy_pos {base den : Nat} (hbase : 0 < base) (hden : 0 < den) (num : Nat)
    (exponent : Int) : 0 < (scaledBy base num den exponent).2 := by
  have hpower : 0 < Nat.pow base exponent.natAbs := Nat.pow_pos hbase
  unfold scaledBy
  split
  · exact hden
  · exact Nat.mul_pos hden hpower

/-- A scaled fraction has its value divided by the power. -/
theorem ratio_scaledBy {base : Nat} (hbase : 0 < base) (num den : Nat) (exponent : Int) :
    ratio (scaledBy base num den exponent) = (num : ℚ) / den / (base : ℚ) ^ exponent := by
  have hne : (base : ℚ) ≠ 0 := by exact_mod_cast hbase.ne'
  have hpow : Nat.pow base exponent.natAbs = base ^ exponent.natAbs := rfl
  unfold scaledBy ratio
  rw [hpow]
  split
  · rename_i hneg
    obtain ⟨n, hn⟩ : ∃ n : Nat, exponent = -(n : Int) := ⟨exponent.natAbs, by omega⟩
    subst hn
    simp only [Int.natAbs_neg, Int.natAbs_natCast, Nat.cast_mul, Nat.cast_pow, zpow_neg,
      zpow_natCast]
    field_simp
  · rename_i hpos
    obtain ⟨n, hn⟩ : ∃ n : Nat, exponent = (n : Int) := ⟨exponent.natAbs, by omega⟩
    subst hn
    simp only [Int.natAbs_natCast, Nat.cast_mul, Nat.cast_pow, zpow_natCast]
    rw [div_div]

/-- The least full significand is two to the power of 52. -/
theorem leastFull_eq : ((leastFull : Nat) : ℚ) = 2 ^ (52 : Int) := by
  norm_num [leastFull]

/-- Every significand is below two to the power of 53. -/
theorem two_mul_leastFull_eq : ((2 * leastFull : Nat) : ℚ) = 2 ^ (53 : Int) := by
  norm_num [leastFull]

/-- An integer that is nearest to a value. An odd one is nearer than all others. -/
structure IsNear (q : Nat) (v : ℚ) : Prop where
  low : (q : ℚ) - 1 / 2 ≤ v
  high : v ≤ q + 1 / 2
  odd : q % 2 = 1 → (q : ℚ) - 1 / 2 < v ∧ v < q + 1 / 2

/-- What is nearest among the even and the odd integers is nearest in one way. -/
theorem IsNear.unique {q r : Nat} {v : ℚ} (h : IsNear q v) (h' : IsNear r v) : q = r := by
  have hle : ∀ {q r : Nat}, IsNear q v → IsNear r v → ¬q < r := by
    intro q r hq hr hlt
    have hnext : (q : ℚ) + 1 ≤ r := by exact_mod_cast hlt
    have hsame : (q : ℚ) + 1 = r := by linarith [hq.high, hr.low]
    have hr' : r = q + 1 := by exact_mod_cast hsame.symm
    -- The value is halfway, and one of two neighbours is odd.
    rcases Nat.mod_two_eq_zero_or_one q with heven | hodd
    · have := (hr.odd (by omega)).1
      linarith [hq.high]
    · have := (hq.odd hodd).2
      linarith [hr.low]
  exact Nat.le_antisymm (Nat.not_lt.mp (hle h' h)) (Nat.not_lt.mp (hle h h'))

/-- A fraction is its quotient and what its remainder adds. -/
theorem ratio_eq_quotient_add {den : Nat} (hden : 0 < den) (num : Nat) :
    ratio (num, den) = (num / den : Nat) + (num % den : Nat) / (den : ℚ) := by
  have hne : (den : ℚ) ≠ 0 := by exact_mod_cast hden.ne'
  have hsplit : (num : ℚ) = den * (num / den : Nat) + (num % den : Nat) := by
    exact_mod_cast (Nat.div_add_mod num den).symm
  unfold ratio
  rw [div_eq_iff hne, add_mul, div_mul_cancel₀ _ hne, mul_comm]
  exact hsplit

/-- A fraction is compared with one half without division. -/
theorem div_lt_half_iff {den : Nat} (hden : 0 < den) (r : Nat) :
    (r : ℚ) / den < 1 / 2 ↔ 2 * r < den := by
  have hpos : (0 : ℚ) < den := by exact_mod_cast hden
  rw [div_lt_div_iff₀ hpos (by norm_num), one_mul, mul_comm]
  exact_mod_cast Iff.rfl

/-- A half is compared with a fraction without division. -/
theorem half_lt_div_iff {den : Nat} (hden : 0 < den) (r : Nat) :
    1 / 2 < (r : ℚ) / den ↔ den < 2 * r := by
  have hpos : (0 : ℚ) < den := by exact_mod_cast hden
  rw [div_lt_div_iff₀ (by norm_num) hpos, one_mul, mul_comm]
  exact_mod_cast Iff.rfl

/-- A fraction is rounded to a nearest integer. -/
theorem isNear_roundDiv {den : Nat} (hden : 0 < den) (num : Nat) :
    IsNear (roundDiv num den) (ratio (num, den)) := by
  have hpos : (0 : ℚ) < den := by exact_mod_cast hden
  have hlow : (0 : ℚ) ≤ (num % den : Nat) / (den : ℚ) := by positivity
  have hhigh : (num % den : Nat) / (den : ℚ) < 1 := by
    rw [div_lt_one hpos]
    exact_mod_cast Nat.mod_lt num hden
  have hdown := div_lt_half_iff hden (num % den)
  have hup := half_lt_div_iff hden (num % den)
  rw [ratio_eq_quotient_add hden]
  unfold roundDiv
  simp only [Bool.or_eq_true, decide_eq_true_eq, Bool.and_eq_true, beq_iff_eq]
  split
  · rename_i h
    have hle := not_lt.mp (mt hup.mp (by omega))
    refine ⟨by linarith, by linarith, fun hodd => ⟨by linarith, ?_⟩⟩
    have hlt := hdown.mpr (by omega)
    linarith
  · rename_i h
    have hge := not_lt.mp (mt hdown.mp (by omega))
    refine ⟨by push_cast; linarith, by push_cast; linarith, fun hodd => ?_⟩
    have hgt := hup.mpr (by omega)
    push_cast
    exact ⟨by linarith, by linarith⟩

/-- An exponent with which a value has 53 bits before the point, or fewer with the least one. -/
structure IsScale (v : ℚ) (exponent : Int) : Prop where
  least : -1074 ≤ exponent
  below : v < 2 ^ (exponent + 53)
  full : 2 ^ (exponent + 52) ≤ v ∨ exponent = -1074

/-- Powers of two grow with the exponent. -/
theorem two_zpow_le {m n : Int} (h : m ≤ n) : (2 : ℚ) ^ m ≤ 2 ^ n :=
  zpow_le_zpow_right₀ (by norm_num) h

/-- Of two exponents for one value none is the smaller one. -/
theorem IsScale.unique {v : ℚ} {m n : Int} (h : IsScale v m) (h' : IsScale v n) : m = n := by
  have hle : ∀ {m n : Int}, IsScale v m → IsScale v n → n ≤ m := by
    intro m n hm hn
    by_contra hlt
    rcases hn.full with hfull | hleast
    · have := two_zpow_le (show m + 53 ≤ n + 52 by omega)
      linarith [hm.below]
    · have := hm.least
      omega
  exact le_antisymm (hle h' h) (hle h h')

/-- A positive number is at least the power of two of its logarithm. -/
theorem two_zpow_log2_le {n : Nat} (hn : 0 < n) : (2 : ℚ) ^ (Nat.log2 n : Int) ≤ n := by
  rw [zpow_natCast]
  exact_mod_cast Nat.log2_self_le hn.ne'

/-- A number is below the next power of two after its logarithm. -/
theorem lt_two_zpow_log2 (n : Nat) : (n : ℚ) < 2 ^ ((Nat.log2 n : Int) + 1) := by
  rw [← Nat.cast_succ, zpow_natCast]
  exact_mod_cast Nat.lt_log2_self

/-- The difference of the logarithms bounds a fraction from below. -/
theorem lt_ratio_of_log2 {num den : Nat} (hnum : 0 < num) (hden : 0 < den) :
    (2 : ℚ) ^ ((Nat.log2 num : Int) - Nat.log2 den - 1) < ratio (num, den) := by
  have hpos : (0 : ℚ) < den := by exact_mod_cast hden
  unfold ratio
  rw [lt_div_iff₀ hpos]
  calc (2 : ℚ) ^ ((Nat.log2 num : Int) - Nat.log2 den - 1) * den
      < 2 ^ ((Nat.log2 num : Int) - Nat.log2 den - 1) * 2 ^ ((Nat.log2 den : Int) + 1) := by
        gcongr
        exact lt_two_zpow_log2 den
    _ = 2 ^ (Nat.log2 num : Int) := by
        rw [← zpow_add₀ (by norm_num)]
        congr 1
        omega
    _ ≤ num := two_zpow_log2_le hnum

/-- The difference of the logarithms bounds a fraction from above. -/
theorem ratio_lt_of_log2 {den : Nat} (hden : 0 < den) (num : Nat) :
    ratio (num, den) < (2 : ℚ) ^ ((Nat.log2 num : Int) - Nat.log2 den + 1) := by
  have hpos : (0 : ℚ) < den := by exact_mod_cast hden
  unfold ratio
  rw [div_lt_iff₀ hpos]
  calc (num : ℚ) < 2 ^ ((Nat.log2 num : Int) + 1) := lt_two_zpow_log2 num
    _ = 2 ^ ((Nat.log2 num : Int) - Nat.log2 den + 1) * 2 ^ (Nat.log2 den : Int) := by
        rw [← zpow_add₀ (by norm_num)]
        congr 1
        omega
    _ ≤ 2 ^ ((Nat.log2 num : Int) - Nat.log2 den + 1) * den := by
        gcongr
        exact two_zpow_log2_le hden

/-- The quotient at a scale says whether the value has 53 bits before the point there. -/
theorem scaled_lt_leastFull_iff {num den a b : Nat} {exponent : Int} (hden : 0 < den)
    (heq : scaled num den exponent = (a, b)) :
    a / b < leastFull ↔ ratio (num, den) < (2 : ℚ) ^ (exponent + 52) := by
  have hb := den_scaledBy_pos (by decide : 0 < 2) hden num exponent
  have hratio := ratio_scaledBy (by decide : 0 < 2) num den exponent
  rw [show scaledBy 2 num den exponent = (a, b) from heq] at hb hratio
  have hb' : (0 : ℚ) < b := by exact_mod_cast hb
  have hscale : (0 : ℚ) < (2 : Nat) ^ exponent := by positivity
  rw [Nat.div_lt_iff_lt_mul hb, ← Nat.cast_lt (α := ℚ), Nat.cast_mul, ← div_lt_iff₀ hb',
    show ((a : ℚ) / b) = ratio (a, b) from rfl, hratio, leastFull_eq, div_lt_iff₀ hscale,
    Nat.cast_ofNat, ← zpow_add₀ (by norm_num), add_comm]
  rfl

/-- The exponent for a fraction is one for its value. -/
theorem isScale_exponentFor {num den : Nat} (hnum : 0 < num) (hden : 0 < den) :
    IsScale (ratio (num, den)) (exponentFor num den) := by
  -- The logarithms give the exponent up to one.
  obtain ⟨guess, hguess⟩ : ∃ guess : Int, guess = (Nat.log2 num : Int) - Nat.log2 den - 52 :=
    ⟨_, rfl⟩
  have hlow := lt_ratio_of_log2 hnum hden
  have hhigh := ratio_lt_of_log2 hden num
  rw [show (Nat.log2 num : Int) - Nat.log2 den - 1 = guess + 51 by omega] at hlow
  rw [show (Nat.log2 num : Int) - Nat.log2 den + 1 = guess + 53 by omega] at hhigh
  unfold exponentFor
  rw [← hguess]
  simp only
  generalize heq : scaled num den guess = f
  obtain ⟨a, b⟩ := f
  have hdecide := scaled_lt_leastFull_iff hden heq
  simp only
  -- Which of the two exponents is right is decided by the quotient.
  obtain ⟨exact, hexact, hbelow, hfull⟩ : ∃ exact : Int,
      (if a / b < leastFull then guess - 1 else guess) = exact ∧
      ratio (num, den) < 2 ^ (exact + 53) ∧ (2 : ℚ) ^ (exact + 52) ≤ ratio (num, den) := by
    by_cases hshort : a / b < leastFull
    · refine ⟨guess - 1, if_pos hshort, ?_, ?_⟩
      · rw [show guess - 1 + 53 = guess + 52 by ring]
        exact hdecide.mp hshort
      · rw [show guess - 1 + 52 = guess + 51 by ring]
        exact hlow.le
    · exact ⟨guess, if_neg hshort, hhigh, le_of_not_gt fun h => hshort (hdecide.mpr h)⟩
  rw [hexact]
  rcases le_total (-1074) exact with hle | hle
  · rw [max_eq_left hle]
    exact ⟨hle, hbelow, .inl hfull⟩
  · rw [max_eq_right hle]
    exact ⟨le_rfl, hbelow.trans_le (two_zpow_le (by omega)), .inr rfl⟩

/-- A significand and an exponent that are those of a double. -/
structure Fits (significand : Nat) (exponent : Int) : Prop where
  below : significand < 2 * leastFull
  full : leastFull ≤ significand ∨ exponent = -1074
  least : -1074 ≤ exponent
  most : exponent ≤ 971

/-- A finite number whose significand and exponent are those of a double, or one that is not
finite. -/
def IsValid : Binary64 → Prop
  | finite _ significand exponent => Fits significand exponent
  | _ => True

/-- A value at its scale is rounded to a significand of a double, or to the next power of two. -/
theorem IsScale.significand_bounds {v : ℚ} {exponent : Int} (h : IsScale v exponent) {q : Nat}
    (hnear : IsNear q (v / 2 ^ exponent)) :
    q ≤ 2 * leastFull ∧ (leastFull ≤ q ∨ exponent = -1074) := by
  have htwo : (2 : ℚ) ≠ 0 := by norm_num
  have hpower : (0 : ℚ) < 2 ^ exponent := by positivity
  constructor
  · have hbelow : v / 2 ^ exponent < 2 ^ (53 : Int) := by
      rw [div_lt_iff₀ hpower, ← zpow_add₀ htwo, add_comm]
      exact h.below
    have hlt : (q : ℚ) < (2 * leastFull : Nat) + 1 := by
      rw [two_mul_leastFull_eq]
      linarith [hnear.low]
    exact Nat.lt_succ_iff.mp (by exact_mod_cast hlt)
  · refine h.full.imp_left fun hfull => ?_
    have hge : (leastFull : ℚ) ≤ v / 2 ^ exponent := by
      rw [le_div_iff₀ hpower, leastFull_eq, ← zpow_add₀ htwo, add_comm]
      exact hfull
    have hlt : (leastFull : ℚ) < (q : ℚ) + 1 := by linarith [hnear.high]
    exact Nat.lt_succ_iff.mp (by exact_mod_cast hlt)

/-- A fraction that has a denominator is rounded to a double. -/
theorem isValid_ofFraction {den : Nat} (hden : 0 < den) (negative : Bool) (num : Nat) :
    (ofFraction negative num den).IsValid := by
  unfold ofFraction
  split
  · exact ⟨by decide, .inr rfl, by decide, by decide⟩
  · rename_i hnum
    have hscale := isScale_exponentFor (Nat.pos_of_ne_zero hnum) hden
    generalize exponentFor num den = exponent at hscale
    have hratio := ratio_scaledBy (by decide : 0 < 2) num den exponent
    have hpos := den_scaledBy_pos (by decide : 0 < 2) hden num exponent
    simp only
    generalize heq : scaled num den exponent = f
    rw [show scaledBy 2 num den exponent = f from heq] at hratio hpos
    obtain ⟨a, b⟩ := f
    have hnear := isNear_roundDiv hpos a
    simp only at hnear ⊢
    rw [hratio] at hnear
    generalize roundDiv a b = q at hnear
    obtain ⟨hq, hfull⟩ := hscale.significand_bounds hnear
    have hleast := hscale.least
    split
    · split
      · trivial
      · exact ⟨by simp only [leastFull]; omega, .inl le_rfl, by simp only; omega,
          by simp only; omega⟩
    · split
      · trivial
      · exact ⟨by omega, hfull, hleast, by omega⟩

/-- A value that is rounded to the double of a significand and an exponent: it lies between the
halfway points to the neighbours, which belong to an even significand. -/
structure Rounds (significand : Nat) (exponent : Int) (v : ℚ) : Prop where
  low : ((significand : ℚ) - lowerGap significand exponent / 4) * 2 ^ exponent ≤ v
  high : v ≤ ((significand : ℚ) + 1 / 2) * 2 ^ exponent
  odd : significand % 2 = 1 →
    ((significand : ℚ) - lowerGap significand exponent / 4) * 2 ^ exponent < v ∧
      v < ((significand : ℚ) + 1 / 2) * 2 ^ exponent

/-- The usual distance to the lower halfway point, unless the lower neighbour is nearer. -/
theorem lowerGap_cases (significand : Nat) (exponent : Int) :
    (significand = leastFull ∧ -1074 < exponent ∧ lowerGap significand exponent = 1) ∨
      (¬(significand = leastFull ∧ -1074 < exponent) ∧ lowerGap significand exponent = 2) := by
  unfold lowerGap
  split
  · rename_i h
    exact .inl ⟨h.1, h.2, rfl⟩
  · rename_i h
    exact .inr ⟨h, rfl⟩

/-- A value that is rounded to a double lies below all that need a greater exponent. -/
theorem Rounds.lt {significand : Nat} {exponent : Int} {v : ℚ} (h : Rounds significand exponent v)
    (hfits : Fits significand exponent) : v < 2 ^ (exponent + 53) := by
  have hpower : (0 : ℚ) < 2 ^ exponent := by positivity
  have hnext : (significand : ℚ) + 1 ≤ (2 * leastFull : Nat) := by exact_mod_cast hfits.below
  calc v ≤ ((significand : ℚ) + 1 / 2) * 2 ^ exponent := h.high
    _ < ((significand : ℚ) + 1) * 2 ^ exponent := by gcongr; norm_num
    _ ≤ 2 ^ (53 : Int) * 2 ^ exponent := by rw [← two_mul_leastFull_eq]; gcongr
    _ = 2 ^ (exponent + 53) := by rw [← zpow_add₀ (by norm_num), add_comm]

/-- Where the exponent of the double is the one for the value, the significand is the nearest
integer. -/
theorem Rounds.isNear {significand : Nat} {exponent : Int} {v : ℚ}
    (h : Rounds significand exponent v) : IsNear significand (v / 2 ^ exponent) := by
  have hpower : (0 : ℚ) < 2 ^ exponent := by positivity
  have hgap := lowerGap_cases significand exponent
  have hle : (lowerGap significand exponent : ℚ) ≤ 2 := by
    rcases hgap with ⟨-, -, hone⟩ | ⟨-, htwo⟩
    · rw [hone]; norm_num
    · rw [htwo]; norm_num
  have hlow : (significand : ℚ) - lowerGap significand exponent / 4 ≤ v / 2 ^ exponent := by
    rw [le_div_iff₀ hpower]
    exact h.low
  have hhigh : v / 2 ^ exponent ≤ significand + 1 / 2 := by
    rw [div_le_iff₀ hpower]
    exact h.high
  refine ⟨by linarith, hhigh, fun hodd => ?_⟩
  obtain ⟨hlow', hhigh'⟩ := h.odd hodd
  rw [← lt_div_iff₀ hpower] at hlow'
  rw [← div_lt_iff₀ hpower] at hhigh'
  exact ⟨by linarith, hhigh'⟩

/-- Where the exponent of the double is too great for the value, the double is the least one with
its exponent, and the value is rounded up to it. -/
theorem Rounds.isNear_below {significand : Nat} {exponent : Int} {v : ℚ}
    (h : Rounds significand exponent v) (hfits : Fits significand exponent)
    (hv : v < 2 ^ (exponent + 52)) (hne : exponent ≠ -1074) :
    significand = leastFull ∧ IsScale v (exponent - 1) ∧
      IsNear (2 * leastFull) (v / 2 ^ (exponent - 1)) := by
  have htwo : (2 : ℚ) ≠ 0 := by norm_num
  have hpower : (0 : ℚ) < 2 ^ exponent := by positivity
  have hsplit : (2 : ℚ) ^ (exponent + 52) = leastFull * 2 ^ exponent := by
    rw [leastFull_eq, ← zpow_add₀ htwo, add_comm]
  have hleast := hfits.least
  have hfull := hfits.full.resolve_right hne
  have hsmall : ((significand : ℚ) - lowerGap significand exponent / 4) < leastFull := by
    rw [hsplit] at hv
    exact lt_of_mul_lt_mul_right (h.low.trans_lt hv) hpower.le
  -- One more than the least full significand would be too much.
  have heq : significand = leastFull := by
    rcases lowerGap_cases significand exponent with ⟨heq, -, -⟩ | ⟨-, hgap⟩
    · exact heq
    · rw [hgap] at hsmall
      have hlt : (significand : ℚ) < leastFull + 1 := by
        push_cast at hsmall
        linarith
      have : significand < leastFull + 1 := by exact_mod_cast hlt
      omega
  have hgap : lowerGap significand exponent = 1 := by
    rcases lowerGap_cases significand exponent with ⟨-, -, hgap⟩ | ⟨hnot, -⟩
    · exact hgap
    · exact absurd ⟨heq, by omega⟩ hnot
  have hlow := h.low
  rw [hgap, heq] at hlow
  have hhalf : (2 : ℚ) ^ exponent = 2 * 2 ^ (exponent - 1) := by
    rw [← zpow_one_add₀ htwo]
    congr 1
    ring
  have hpower' : (0 : ℚ) < 2 ^ (exponent - 1) := by positivity
  have hlarge : (1 : ℚ) ≤ leastFull := by norm_num [leastFull]
  refine ⟨heq, ⟨by omega, ?_, .inl ?_⟩, ⟨?_, ?_, fun hodd => by omega⟩⟩
  · rwa [show exponent - 1 + 53 = exponent + 52 by ring]
  · calc (2 : ℚ) ^ (exponent - 1 + 52) = leastFull * 2 ^ (exponent - 1) := by
          rw [leastFull_eq, ← zpow_add₀ htwo, add_comm]
      _ ≤ ((leastFull : ℚ) - (1 : Nat) / 4) * 2 ^ exponent := by
          rw [hhalf, ← mul_assoc]
          gcongr
          push_cast
          linarith
      _ ≤ v := hlow
  · rw [le_div_iff₀ hpower']
    refine le_trans (le_of_eq ?_) hlow
    rw [hhalf]
    push_cast
    ring
  · rw [div_le_iff₀ hpower']
    rw [hsplit, hhalf] at hv
    push_cast
    nlinarith

/-- A fraction is rounded to the double in whose interval its value lies. -/
theorem ofFraction_eq {significand num den : Nat} {exponent : Int}
    (hfits : Fits significand exponent) (hnum : 0 < num) (hden : 0 < den)
    (h : Rounds significand exponent (ratio (num, den))) (negative : Bool) :
    ofFraction negative num den = finite negative significand exponent := by
  have hscale := isScale_exponentFor hnum hden
  -- The quotient is rounded at the scale that the value has.
  have hround : ∀ {q : Nat}, IsNear q (ratio (num, den) / 2 ^ exponentFor num den) →
      ∀ a b, scaled num den (exponentFor num den) = (a, b) → roundDiv a b = q := by
    intro q hnear a b heq
    have hratio := ratio_scaledBy (by decide : 0 < 2) num den (exponentFor num den)
    have hpos := den_scaledBy_pos (by decide : 0 < 2) hden num (exponentFor num den)
    rw [show scaledBy 2 num den (exponentFor num den) = (a, b) from heq] at hratio hpos
    refine (isNear_roundDiv hpos a).unique ?_
    rwa [hratio]
  unfold ofFraction
  rw [if_neg hnum.ne']
  simp only
  generalize heq : scaled num den (exponentFor num den) = f
  obtain ⟨a, b⟩ := f
  simp only
  have hbelow := hfits.below
  have hmost := hfits.most
  by_cases hexponent : exponentFor num den = exponent
  · rw [hexponent] at hround
    have hne : ¬significand = 2 * leastFull := by omega
    rw [hround h.isNear a b (by rw [← hexponent]; exact heq), if_neg hne, hexponent]
    exact if_neg (not_lt.mpr hmost)
  · have hnot : ¬IsScale (ratio (num, den)) exponent := fun h => hexponent (hscale.unique h)
    have hv : ratio (num, den) < 2 ^ (exponent + 52) := by
      by_contra hge
      exact hnot ⟨hfits.least, h.lt hfits, .inl (not_lt.mp hge)⟩
    have hne : exponent ≠ -1074 := fun hleast =>
      hnot ⟨hfits.least, h.lt hfits, .inr hleast⟩
    obtain ⟨rfl, hscale', hnear⟩ := h.isNear_below hfits hv hne
    have hexponent' := hscale.unique hscale'
    rw [hexponent'] at hround
    rw [hround hnear a b (by rw [← hexponent']; exact heq), if_pos rfl, hexponent']
    rw [show exponent - 1 + 1 = exponent by ring]
    exact if_neg (not_lt.mpr hmost)

end Toolsmith.Binary64
