import Toolsmith.Json.Printer
import Toolsmith.Proofs.Text.Encoding
import Toolsmith.Proofs.Text.Numeral

/-!
# Strings in documents

The escapes of a string are read back as the code points that they were written for, in files, which
keep what lies beyond ASCII, as well as on lines of ASCII, which write it in one unit or two.
-/

namespace Toolsmith.Json

/-- Four hexadecimal digits are read as the number they write. -/
theorem hexUnit?_ofHex {n : Nat} (h : n < 0x10000) (rest : Text) :
    hexUnit? (Text.ofHex 4 n ++ rest) = some (n, rest) := by
  rw [Text.ofHex_four h]
  simp only [List.cons_append, List.nil_append, hexUnit?,
    Text.hexValue?_digitPoint (by omega : n / 4096 < 16),
    Text.hexValue?_digitPoint (by omega : n / 256 % 16 < 16),
    Text.hexValue?_digitPoint (by omega : n / 16 % 16 < 16),
    Text.hexValue?_digitPoint (by omega : n % 16 < 16), bind, Option.bind_some]
  congr 2
  omega

/-- The escape of a unit that begins no surrogate pair is read as the code point of the unit. -/
theorem escaped?_unit {n : Nat} (h : n < 0x10000) (hsingle : ¬(0xD800 ≤ n ∧ n < 0xDC00))
    (rest : Text) :
    escaped? (.char 'u' :: (Text.ofHex 4 n ++ rest)) = some (.ofCode n, rest) := by
  simp only [escaped?, hexUnit?_ofHex h, joinUnit, if_neg hsingle]

/-- The escapes of the two units of a code point beyond the first plane are read as that code
point. -/
theorem escaped?_pair {n : Nat} (hlow : 0x10000 ≤ n) (hhigh : n < 0x110000) (rest : Text) :
    escaped? (.char 'u' :: (Text.ofHex 4 (0xD800 + (n - 0x10000) / 0x400) ++ .char '\\' ::
      .char 'u' :: (Text.ofHex 4 (0xDC00 + (n - 0x10000) % 0x400) ++ rest))) =
      some (.ofCode n, rest) := by
  have hfirst : 0xD800 ≤ 0xD800 + (n - 0x10000) / 0x400 ∧
      0xD800 + (n - 0x10000) / 0x400 < 0xDC00 := by
    omega
  have hsecond : 0xDC00 ≤ 0xDC00 + (n - 0x10000) % 0x400 ∧
      0xDC00 + (n - 0x10000) % 0x400 < 0xE000 := by
    omega
  have hvalue : 0x10000 + (0xD800 + (n - 0x10000) / 0x400 - 0xD800) * 0x400 +
      (0xDC00 + (n - 0x10000) % 0x400 - 0xDC00) = n := by
    omega
  simp only [escaped?,
    hexUnit?_ofHex (by omega : 0xD800 + (n - 0x10000) / 0x400 < 0x10000), joinUnit,
    if_pos hfirst, hexUnit?_ofHex (by omega : 0xDC00 + (n - 0x10000) % 0x400 < 0x10000),
    if_pos hsecond, hvalue]

/-- What stands after a backslash is read as one code point of the string. -/
theorem stringBody_escape {t rest : Text} {point : CodePoint} (h : escaped? t = some (point, rest))
    (fuel : Nat) :
    stringBody (fuel + 1) (.char '\\' :: t) =
      (stringBody fuel rest).map fun (s, after) => (point :: s, after) := by
  rw [stringBody, if_neg (by decide), if_pos rfl]
  simp only [h]

/-- A code point that needs no escape is read as itself. -/
theorem stringBody_plain {point : CodePoint} (hquote : point ≠ .char '"')
    (hslash : point ≠ .char '\\') (hcode : ¬point.code < 0x20) (fuel : Nat) (rest : Text) :
    stringBody (fuel + 1) (point :: rest) =
      (stringBody fuel rest).map fun (s, after) => (point :: s, after) := by
  rw [stringBody, if_neg hquote, if_neg hslash, if_neg hcode]

/-- The escape of a unit is a backslash, a letter and four digits. -/
theorem unitEscape_append (unit : Nat) (rest : Text) :
    unitEscape unit ++ rest = .char '\\' :: .char 'u' :: (Text.ofHex 4 unit ++ rest) :=
  rfl

/-- A short escape is a backslash and what is read as the code point. -/
theorem shortEscape?_eq_some {point : CodePoint} {escape : Text}
    (h : shortEscape? point = some escape) :
    ∃ t, escape = .char '\\' :: t ∧ ∀ rest, escaped? (t ++ rest) = some (point, rest) := by
  unfold shortEscape? at h
  split at h
  · subst point
    cases h
    exact ⟨[.char '"'], by decide, fun _ => rfl⟩
  split at h
  · subst point
    cases h
    exact ⟨[.char '\\'], by decide, fun _ => rfl⟩
  split at h
  · subst point
    cases h
    exact ⟨[.char 'n'], by decide, fun _ => rfl⟩
  split at h
  · subst point
    cases h
    exact ⟨[.char 'r'], by decide, fun _ => rfl⟩
  split at h
  · subst point
    cases h
    exact ⟨[.char 't'], by decide, fun _ => rfl⟩
  split at h
  · rename_i height
    cases h
    refine ⟨[.char 'b'], by decide, fun _ => ?_⟩
    rw [← CodePoint.ofCode_code point, height]
    rfl
  split at h
  · rename_i htwelve
    cases h
    refine ⟨[.char 'f'], by decide, fun _ => ?_⟩
    rw [← CodePoint.ofCode_code point, htwelve]
    rfl
  split at h
  · rename_i hcontrol
    cases h
    refine ⟨.char 'u' :: Text.ofHex 4 point.code, rfl, fun rest => ?_⟩
    have hread := escaped?_unit (by omega : point.code < 0x10000) (by omega) rest
    rwa [CodePoint.ofCode_code] at hread
  · cases h

/-- A code point without a short escape can stand for itself. -/
theorem shortEscape?_eq_none {point : CodePoint} (h : shortEscape? point = none) :
    point ≠ .char '"' ∧ point ≠ .char '\\' ∧ point ≠ .char '\r' ∧ ¬point.code < 0x20 := by
  unfold shortEscape? at h
  repeat' split at h
  all_goals first | contradiction | simp_all

/-- A code point is read back from the text that stands for it in a string. On a line of ASCII it
has to be a character. -/
theorem stringBody_escapePoint {plain : Bool} {point : CodePoint}
    (h : plain = true ∨ point.toChar?.isSome = true) (fuel : Nat) (rest : Text) :
    stringBody (fuel + 1) (escapePoint plain point ++ rest) =
      (stringBody fuel rest).map fun (s, after) => (point :: s, after) := by
  unfold escapePoint
  split
  · rename_i escape hescape
    obtain ⟨t, rfl, hread⟩ := shortEscape?_eq_some hescape
    exact stringBody_escape (hread rest) fuel
  rename_i hnone
  obtain ⟨hquote, hslash, -, hcode⟩ := shortEscape?_eq_none hnone
  split
  · exact stringBody_plain hquote hslash hcode fuel rest
  rename_i hwide
  simp only [Bool.or_eq_true, decide_eq_true_eq, not_or, Bool.not_eq_true] at hwide
  have hsingle := CodePoint.isChar_iff.mp (h.resolve_left (by simp [hwide.1]))
  have hbound := point.code_lt
  unfold wideEscape
  split
  · rename_i hnarrow
    have hread := escaped?_unit hnarrow (by omega) rest
    rw [CodePoint.ofCode_code] at hread
    rw [unitEscape_append]
    exact stringBody_escape hread fuel
  · have hread := escaped?_pair (by omega : 0x10000 ≤ point.code) hbound rest
    rw [CodePoint.ofCode_code] at hread
    rw [List.append_assoc, unitEscape_append, unitEscape_append]
    exact stringBody_escape hread fuel

/-- A string is read back from its text. On a line of ASCII it has to have an encoding. -/
theorem stringBody_stringText {plain : Bool} {t : Text}
    (h : plain = true ∨ (Text.encode t).isSome = true) {fuel : Nat} (hfuel : t.length < fuel)
    (after : Text) :
    stringBody fuel (t.flatMap (escapePoint plain) ++ .char '"' :: after) = some (t, after) := by
  induction t generalizing fuel with
  | nil =>
    obtain ⟨fuel, rfl⟩ : ∃ n, fuel = n + 1 := ⟨fuel - 1, by simp at hfuel; omega⟩
    rfl
  | cons point t ih =>
    obtain ⟨fuel, rfl⟩ : ∃ n, fuel = n + 1 := ⟨fuel - 1, by omega⟩
    have hlength : t.length < fuel := by simpa using hfuel
    have hpoint : plain = true ∨ point.toChar?.isSome = true :=
      h.imp_right fun h => Text.encode_isSome_iff.mp h point (by simp)
    have ht : plain = true ∨ (Text.encode t).isSome = true :=
      h.imp_right fun h => Text.encode_isSome_iff.mpr fun c hc =>
        Text.encode_isSome_iff.mp h c (List.mem_cons_of_mem _ hc)
    simp only [List.flatMap_cons, List.append_assoc]
    rw [stringBody_escapePoint hpoint, ih ht hlength]
    rfl

/-- No code point vanishes from a string. -/
theorem escapePoint_ne_nil (plain : Bool) (point : CodePoint) : escapePoint plain point ≠ [] := by
  unfold escapePoint
  split
  · rename_i hescape
    obtain ⟨_, rfl, _⟩ := shortEscape?_eq_some hescape
    exact List.cons_ne_nil _ _
  · split
    · exact List.cons_ne_nil _ _
    · unfold wideEscape
      split <;> exact List.cons_ne_nil _ _

/-- Every code point takes at least one place in a string. -/
theorem length_le_flatMap_escapePoint (plain : Bool) (t : Text) :
    t.length ≤ (t.flatMap (escapePoint plain)).length := by
  induction t with
  | nil => exact Nat.le_refl _
  | cons point t ih =>
    have hone : 0 < (escapePoint plain point).length :=
      List.length_pos_iff.mpr (escapePoint_ne_nil plain point)
    simp only [List.flatMap_cons, List.length_append, List.length_cons]
    omega

end Toolsmith.Json
