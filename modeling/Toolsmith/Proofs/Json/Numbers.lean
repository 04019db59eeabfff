import Mathlib.Data.List.TakeDrop
import Mathlib.Data.List.TakeWhile
import Toolsmith.Json.Printer
import Toolsmith.Proofs.Number.Shortest
import Toolsmith.Proofs.Text.Numeral

/-!
# Numbers in documents

An integer of at most 4300 digits is read back from its digits. A double is written as a numeral or
a word that reads as the same double. A sign with numbers that are not those of a double is read as
some double as well; what is read back is given a name, `reread`.
-/

namespace Toolsmith

namespace Json

/-- A text that cannot go on with a number before it. -/
def EndsNumber (rest : Text) : Prop :=
  ∀ c ∈ rest.head?, c.isAsciiDigit = false ∧ c ≠ .char '.' ∧ c ≠ .char 'e' ∧ c ≠ .char 'E'

/-- The digits in front of a number: a zero alone, or digits that begin with no zero. -/
inductive IsWhole : Text → Prop
  | zero : IsWhole [.char '0']
  | positive {d : Nat} {rest : Text} (hpos : 0 < d) (hlt : d < 10)
      (hrest : ∀ c ∈ rest, c.isAsciiDigit = true) : IsWhole (Text.digitPoint d :: rest)

/-- The digits in front of a number are digits. -/
theorem IsWhole.digits {whole : Text} (h : IsWhole whole) :
    ∀ c ∈ whole, c.isAsciiDigit = true := by
  cases h with
  | zero => decide
  | positive _ hlt hrest =>
    exact List.forall_mem_cons.mpr ⟨Text.isAsciiDigit_digitPoint hlt, hrest⟩

/-- The digits of a natural number can stand in front of a number. -/
theorem isWhole_ofNat (n : Nat) : IsWhole (Text.ofNat n) := by
  by_cases hn : n = 0
  · subst n
    exact .zero
  · obtain ⟨d, rest, hpos, hlt, heq⟩ := Text.ofNat_eq_cons (by omega : 0 < n)
    have hdigits : ∀ c ∈ Text.ofNat n, c.isAsciiDigit = true := by
      intro c hc
      obtain ⟨e, he, rfl⟩ := Text.mem_ofNat hc
      exact Text.isAsciiDigit_digitPoint he
    rw [heq] at hdigits ⊢
    exact .positive hpos hlt (List.forall_mem_cons.mp hdigits).2

/-- Digits are taken up to the first code point that is none. -/
theorem spanDigits_append {digits rest : Text} (hdigits : ∀ c ∈ digits, c.isAsciiDigit = true)
    (hrest : ∀ c ∈ rest.head?, c.isAsciiDigit = false) :
    spanDigits (digits ++ rest) = (digits, rest) := by
  have hstop : rest.takeWhile CodePoint.isAsciiDigit = [] ∧
      rest.dropWhile CodePoint.isAsciiDigit = rest := by
    cases rest with
    | nil => exact ⟨rfl, rfl⟩
    | cons c rest => simp [hrest c rfl]
  unfold spanDigits
  rw [List.span_eq_takeWhile_dropWhile, List.takeWhile_append_of_pos hdigits,
    List.dropWhile_append_of_pos hdigits, hstop.1, hstop.2, List.append_nil]

/-- The digits in front of a number are found up to where no digit follows. -/
theorem wholePart_append {whole rest : Text} (hwhole : IsWhole whole)
    (hrest : ∀ c ∈ rest.head?, c.isAsciiDigit = false) :
    wholePart (whole ++ rest) = (whole, rest) := by
  cases hwhole with
  | zero => rfl
  | @positive d digits hpos hlt hdigits =>
    have hne : Text.digitPoint d ≠ .char '0' := by
      intro heq
      have hvalue := Text.hexValue?_digitPoint (by omega : d < 16)
      rw [heq] at hvalue
      have hzero : d = 0 := (Option.some.inj hvalue).symm
      omega
    have hspan := spanDigits_append (IsWhole.positive hpos hlt hdigits).digits hrest
    rw [List.cons_append] at hspan ⊢
    unfold wholePart
    split
    · rename_i hzero
      exact absurd (List.cons.inj hzero).1 hne
    · exact hspan

/-- A number is read by its digits in front, its fraction and its exponent. -/
theorem numeral_whole {whole rest : Text} (hwhole : IsWhole whole)
    (hrest : ∀ c ∈ rest.head?, c.isAsciiDigit = false) (negative : Bool) :
    numeral negative (whole ++ rest) =
      match fractionPart rest, exponentPart ((fractionPart rest).elim rest Prod.snd) with
      | none, none =>
        if Text.maxDigits < whole.length then .error (.tooManyDigits whole.length)
        else .ok (.integer (if negative then -(digitsValue whole : Int) else digitsValue whole),
          rest)
      | fraction, power =>
        .ok (.number (.ofDecimal negative (digitsValue (whole ++ fraction.elim [] Prod.fst))
          (power.elim 0 Prod.fst - (fraction.elim [] Prod.fst).length)),
          power.elim (fraction.elim rest Prod.snd) Prod.snd) := by
  have hne : whole.isEmpty = false := by cases hwhole <;> rfl
  unfold numeral
  rw [wholePart_append hwhole hrest]
  exact if_neg (Bool.eq_false_iff.mp hne)

/-- Nothing that ends a number is a fraction or an exponent. -/
theorem EndsNumber.no_parts {rest : Text} (h : EndsNumber rest) :
    fractionPart rest = none ∧ exponentPart rest = none := by
  cases rest with
  | nil => exact ⟨rfl, rfl⟩
  | cons c rest =>
    obtain ⟨-, hdot, hsmall, hlarge⟩ := h c rfl
    constructor
    · unfold fractionPart
      split
      · rename_i heq
        exact absurd (List.cons.inj heq).1 hdot
      · rfl
    · unfold exponentPart
      split
      · rename_i heq
        obtain ⟨rfl, -⟩ := List.cons.inj heq
        rw [if_neg]
        rintro (rfl | rfl)
        · exact hsmall rfl
        · exact hlarge rfl
      · rfl

/-- A whole number is read as an integer, unless it has too many digits. -/
theorem numeral_ofNat (n : Nat) {rest : Text} (hrest : EndsNumber rest) (negative : Bool) :
    numeral negative (Text.ofNat n ++ rest) =
      if Text.maxDigits < (Text.ofNat n).length then .error (.tooManyDigits (Text.ofNat n).length)
      else .ok (.integer (if negative then -(n : Int) else n), rest) := by
  obtain ⟨hfraction, hexponent⟩ := hrest.no_parts
  rw [numeral_whole (isWhole_ofNat n) (fun c hc => (hrest c hc).1), hfraction]
  simp only [Option.elim_none, hexponent, Text.digitsValue_ofNat]

/-- The fraction after a point is read up to the first code point that is no digit. -/
theorem fractionPart_point {digits rest : Text} (hne : digits ≠ [])
    (hdigits : ∀ c ∈ digits, c.isAsciiDigit = true)
    (hrest : ∀ c ∈ rest.head?, c.isAsciiDigit = false) :
    fractionPart (.char '.' :: (digits ++ rest)) = some (digits, rest) := by
  have hempty : digits.isEmpty = false := by simpa using hne
  simp only [fractionPart, spanDigits_append hdigits hrest, hempty, Bool.false_eq_true, if_false]

/-- An exponent is read up to the first code point that is no digit. -/
theorem exponentPart_signed (negative : Bool) {digits rest : Text} (hne : digits ≠ [])
    (hdigits : ∀ c ∈ digits, c.isAsciiDigit = true)
    (hrest : ∀ c ∈ rest.head?, c.isAsciiDigit = false) :
    exponentPart (.char 'e' :: .char (if negative then '-' else '+') :: (digits ++ rest)) =
      some (if negative then -(digitsValue digits : Int) else digitsValue digits, rest) := by
  have hempty : digits.isEmpty = false := by simpa using hne
  cases negative <;>
    simp [exponentPart, spanDigits_append hdigits hrest, hempty]

/-- A number with a fraction and no exponent is read as a double. -/
theorem numeral_fraction {whole digits rest : Text} (hwhole : IsWhole whole) (hne : digits ≠ [])
    (hdigits : ∀ c ∈ digits, c.isAsciiDigit = true) (negative : Bool) (hrest : EndsNumber rest) :
    numeral negative (whole ++ (.char '.' :: digits) ++ rest) =
      .ok (.number (.ofDecimal negative (digitsValue (whole ++ digits)) (0 - digits.length)),
        rest) := by
  have hfraction := fractionPart_point hne hdigits (fun c hc => (hrest c hc).1)
  have hpoint : ∀ c ∈ ((.char '.' :: (digits ++ rest) : Text)).head?, c.isAsciiDigit = false := by
    rintro c ⟨⟩
    rfl
  rw [List.append_assoc, List.cons_append, numeral_whole hwhole hpoint, hfraction]
  simp only [Option.elim_some, hrest.no_parts.2, Option.elim_none]

/-- A number with an exponent is read as a double. -/
theorem numeral_exponent {whole digits power rest : Text} (hwhole : IsWhole whole)
    (hdigits : ∀ c ∈ digits, c.isAsciiDigit = true) (hpower : power ≠ [])
    (hpowerDigits : ∀ c ∈ power, c.isAsciiDigit = true) (negative below : Bool)
    (hrest : EndsNumber rest) :
    numeral negative (whole ++ (if digits.isEmpty then [] else .char '.' :: digits) ++
      (.char 'e' :: .char (if below then '-' else '+') :: power) ++ rest) =
      .ok (.number (.ofDecimal negative (digitsValue (whole ++ digits))
        ((if below then -(digitsValue power : Int) else digitsValue power) - digits.length)),
        rest) := by
  have hexponent := exponentPart_signed below hpower hpowerDigits
    (fun c hc => (hrest c hc).1)
  have hletter : ∀ c ∈ ((.char 'e' :: .char (if below then '-' else '+') ::
      (power ++ rest) : Text)).head?, c.isAsciiDigit = false := by
    rintro c ⟨⟩
    rfl
  by_cases hne : digits = []
  · subst digits
    have hnone : fractionPart (.char 'e' :: .char (if below then '-' else '+') ::
        (power ++ rest)) = none := rfl
    simp only [List.isEmpty_nil, if_true, List.append_nil, List.append_assoc, List.cons_append]
    rw [numeral_whole hwhole hletter, hnone]
    simp only [Option.elim_none, hexponent, Option.elim_some, List.append_nil]
  · have hempty : digits.isEmpty = false := by simpa using hne
    have hfraction := fractionPart_point hne hdigits hletter
    have hpoint : ∀ c ∈ ((.char '.' :: (digits ++ (.char 'e' ::
        .char (if below then '-' else '+') :: (power ++ rest))) : Text)).head?,
        c.isAsciiDigit = false := by
      rintro c ⟨⟩
      rfl
    simp only [hempty, Bool.false_eq_true, if_false, List.append_assoc, List.cons_append]
    rw [numeral_whole hwhole hpoint, hfraction]
    simp only [Option.elim_some, hexponent]

/-- A text that is read, wherever a number can end after it, as the double of a positive decimal of
this value. The sign has been read before. -/
def Denotes (negative : Bool) (t : Text) (value : ℚ) : Prop :=
  ∃ d : Decimal, 0 < d.digits ∧ d.value = value ∧ ∀ rest, EndsNumber rest →
    numeral negative (t ++ rest) = .ok (.number (.ofDecimal negative d.digits d.exponent), rest)

/-- A positive number with a fraction has the value of all its digits, scaled down. -/
theorem Denotes.of_fraction {whole digits : Text} {n : Nat} (hwhole : IsWhole whole)
    (hne : digits ≠ []) (hdigits : ∀ c ∈ digits, c.isAsciiDigit = true) (hn : 0 < n)
    (hvalue : digitsValue (whole ++ digits) = n) (negative : Bool) :
    Denotes negative (whole ++ .char '.' :: digits) (n * 10 ^ (-(digits.length : Int))) := by
  refine ⟨⟨n, 0 - digits.length⟩, hn, ?_, fun rest hrest => ?_⟩
  · rw [Decimal.value, zero_sub]
  · rw [numeral_fraction hwhole hne hdigits negative hrest, hvalue]

end Json

namespace Binary64

/-- Zeros are digits. -/
theorem isAsciiDigit_of_mem_zeros {n : Nat} {c : CodePoint}
    (h : c ∈ List.replicate n (CodePoint.char '0')) : c.isAsciiDigit = true := by
  rw [List.eq_of_mem_replicate h]
  rfl

/-- Digits behind a point and `k` zeros. -/
theorem denotes_behind_zeros {n : Nat} (hn : 0 < n) (k : Nat) (negative : Bool) :
    Json.Denotes negative
      (.char '0' :: .char '.' :: List.replicate k (.char '0') ++ Text.ofNat n)
      (n * 10 ^ (-(k : Int) - (Text.ofNat n).length)) := by
  have hdigits : ∀ c ∈ List.replicate k (CodePoint.char '0') ++ Text.ofNat n,
      c.isAsciiDigit = true := by
    intro c hc
    rcases List.mem_append.mp hc with hc | hc
    · exact isAsciiDigit_of_mem_zeros hc
    · exact (Json.isWhole_ofNat n).digits c hc
  have hvalue : Json.digitsValue ([.char '0'] ++
      (List.replicate k (CodePoint.char '0') ++ Text.ofNat n)) = n := by
    rw [← List.append_assoc, List.singleton_append, ← List.replicate_succ,
      Text.digitsValue_append, Text.digitsValue_zeros, Text.digitsValue_ofNat, Nat.zero_mul,
      Nat.zero_add]
  have hread := Json.Denotes.of_fraction .zero (by simp [Text.ofNat_ne_nil]) hdigits hn hvalue
    negative
  have hpower : -((List.replicate k (CodePoint.char '0') ++ Text.ofNat n).length : Int) =
      -(k : Int) - (Text.ofNat n).length := by
    simp only [List.length_append, List.length_replicate]
    omega
  rwa [hpower] at hread

/-- Digits and `k` zeros before a point. -/
theorem denotes_before_zeros {n : Nat} (hn : 0 < n) (k : Nat) (negative : Bool) :
    Json.Denotes negative (Text.ofNat n ++ List.replicate k (.char '0') ++ [.char '.', .char '0'])
      (n * 10 ^ (k : Int)) := by
  have hwhole : Json.IsWhole (Text.ofNat n ++ List.replicate k (.char '0')) := by
    obtain ⟨d, tail, hpos, hlt, heq⟩ := Text.ofNat_eq_cons hn
    have hdigits := (Json.isWhole_ofNat n).digits
    rw [heq] at hdigits ⊢
    refine .positive hpos hlt fun c hc => ?_
    rcases List.mem_append.mp hc with hc | hc
    · exact hdigits c (List.mem_cons_of_mem _ hc)
    · exact isAsciiDigit_of_mem_zeros hc
  have hvalue : Json.digitsValue (Text.ofNat n ++ List.replicate k (.char '0') ++ [.char '0']) =
      n * 10 ^ (k + 1) := by
    rw [List.append_assoc, ← List.replicate_succ', Text.digitsValue_append,
      Text.digitsValue_zeros, Text.digitsValue_ofNat, List.length_replicate, Nat.add_zero]
  have hread := Json.Denotes.of_fraction hwhole (List.cons_ne_nil (.char '0') []) (by decide)
    (Nat.mul_pos hn (Nat.pow_pos (by decide))) hvalue negative
  have hpower : ((n * 10 ^ (k + 1) : Nat) : ℚ) * 10 ^ (-(([.char '0'] : Text).length : Int)) =
      n * 10 ^ (k : Int) := by
    push_cast [List.length_singleton, pow_succ]
    simp [mul_assoc]
  rwa [hpower] at hread

/-- Digits with a point behind the first `k` of them. -/
theorem denotes_between {n k : Nat} (hk : 0 < k) (hlength : k < (Text.ofNat n).length)
    (negative : Bool) :
    Json.Denotes negative ((Text.ofNat n).take k ++ .char '.' :: (Text.ofNat n).drop k)
      (n * 10 ^ ((k : Int) - (Text.ofNat n).length)) := by
  have hn : 0 < n := by
    rcases Nat.eq_zero_or_pos n with rfl | hn
    · have hone : (Text.ofNat 0).length = 1 := rfl
      omega
    · exact hn
  have hdigits := (Json.isWhole_ofNat n).digits
  have hwhole : Json.IsWhole ((Text.ofNat n).take k) := by
    obtain ⟨d, tail, hpos, hlt, heq⟩ := Text.ofNat_eq_cons hn
    obtain ⟨j, rfl⟩ : ∃ j, k = j + 1 := ⟨k - 1, by omega⟩
    rw [heq] at hdigits ⊢
    rw [List.take_succ_cons]
    exact .positive hpos hlt fun c hc =>
      hdigits c (List.mem_cons_of_mem _ (List.mem_of_mem_take hc))
  have hne : (Text.ofNat n).drop k ≠ [] := by
    rw [ne_eq, List.drop_eq_nil_iff]
    omega
  have hread := Json.Denotes.of_fraction hwhole hne
    (fun c hc => hdigits c (List.mem_of_mem_drop hc)) hn
    (by rw [List.take_append_drop, Text.digitsValue_ofNat]) negative
  have hpower : -(((Text.ofNat n).drop k).length : Int) = (k : Int) - (Text.ofNat n).length := by
    rw [List.length_drop]
    omega
  rwa [hpower] at hread

/-- Digits with a point behind the first of them, if there are more, and an exponent of at least two
digits. -/
theorem denotes_scientific {n : Nat} (hn : 0 < n) (power : Int) (negative : Bool) :
    Json.Denotes negative
      ((if (Text.ofNat n).length ≤ 1 then Text.ofNat n
        else (Text.ofNat n).take 1 ++ .char '.' :: (Text.ofNat n).drop 1) ++
        [.char 'e', .char (if power < 0 then '-' else '+')] ++
        List.replicate (2 - (Text.ofNat power.natAbs).length) (.char '0') ++
        Text.ofNat power.natAbs)
      (n * 10 ^ (power + 1 - (Text.ofNat n).length)) := by
  obtain ⟨d, tail, hpos, hlt, heq⟩ := Text.ofNat_eq_cons hn
  have hdigits := (Json.isWhole_ofNat n).digits
  rw [heq] at hdigits
  have hfirst : Json.IsWhole [Text.digitPoint d] := .positive hpos hlt (by simp)
  have hvalue : Json.digitsValue ([Text.digitPoint d] ++ tail) = n := by
    rw [List.singleton_append, ← heq, Text.digitsValue_ofNat]
  have hsize : ∀ c ∈ List.replicate (2 - (Text.ofNat power.natAbs).length) (CodePoint.char '0') ++
      Text.ofNat power.natAbs, c.isAsciiDigit = true := by
    intro c hc
    rcases List.mem_append.mp hc with hc | hc
    · exact isAsciiDigit_of_mem_zeros hc
    · exact (Json.isWhole_ofNat _).digits c hc
  have hsizeNe : List.replicate (2 - (Text.ofNat power.natAbs).length) (CodePoint.char '0') ++
      Text.ofNat power.natAbs ≠ [] := by
    simp [Text.ofNat_ne_nil]
  have hsizeValue : Json.digitsValue (List.replicate (2 - (Text.ofNat power.natAbs).length)
      (CodePoint.char '0') ++ Text.ofNat power.natAbs) = power.natAbs := by
    rw [Text.digitsValue_append, Text.digitsValue_zeros, Text.digitsValue_ofNat, Nat.zero_mul,
      Nat.zero_add]
  refine ⟨⟨n, (if decide (power < 0) then -(power.natAbs : Int) else power.natAbs) - tail.length⟩,
    hn, ?_, fun rest hrest => ?_⟩
  · simp only [Decimal.value, heq, List.length_cons, decide_eq_true_eq]
    congr 2
    split <;> omega
  · have hread := Json.numeral_exponent hfirst (List.forall_mem_cons.mp hdigits).2 hsizeNe hsize
      negative (decide (power < 0)) hrest
    rw [hvalue, hsizeValue] at hread
    rw [← hread, heq]
    cases tail with
    | nil => simp
    | cons c tail => simp

/-- The digits of a number, written as a double is, are read as the double of a decimal with the
same value. -/
theorem denotes_layout {n : Nat} (hn : 0 < n) (point : Int) (negative : Bool) :
    Json.Denotes negative (layout (Text.ofNat n) point)
      (n * 10 ^ (point - (Text.ofNat n).length)) := by
  unfold layout
  simp only
  split
  · split
    · have hread := denotes_behind_zeros hn point.natAbs negative
      rwa [show -(point.natAbs : Int) = point by omega] at hread
    · have hpoint : (point.natAbs : Int) = point := by omega
      split
      · have hread := denotes_before_zeros hn (point.natAbs - (Text.ofNat n).length) negative
        rwa [show ((point.natAbs - (Text.ofNat n).length : Nat) : Int) =
          point - (Text.ofNat n).length by omega] at hread
      · have hread := denotes_between (n := n) (k := point.natAbs) (by omega) (by omega) negative
        rwa [hpoint] at hread
  · have hread := denotes_scientific hn (point - 1) negative
    rwa [sub_add_cancel] at hread

/-- The text of a positive number begins with a digit. -/
theorem layout_eq_cons {n : Nat} (hn : 0 < n) (point : Int) :
    ∃ c digits, layout (Text.ofNat n) point = c :: digits ∧ c.isAsciiDigit = true := by
  obtain ⟨d, tail, -, hlt, heq⟩ := Text.ofNat_eq_cons hn
  have hd := Text.isAsciiDigit_digitPoint hlt
  unfold layout
  simp only [heq, List.cons_append]
  split
  · split
    · exact ⟨_, _, rfl, rfl⟩
    · split
      · exact ⟨_, _, rfl, hd⟩
      · rename_i hpoint _
        obtain ⟨k, hk⟩ : ∃ k, point.natAbs = k + 1 := ⟨point.natAbs - 1, by omega⟩
        rw [hk, List.take_succ_cons]
        exact ⟨_, _, rfl, hd⟩
  · split
    · exact ⟨_, _, rfl, hd⟩
    · exact ⟨_, _, rfl, hd⟩

end Binary64

namespace Json

/-- A word is not found where its first letter is missing. -/
theorem afterWord?_eq_none (word : String) {first : CodePoint} {letters t : Text}
    (hword : Text.ofString word = first :: letters) (h : t.head? ≠ some first) :
    afterWord? word t = none := by
  have hprefix : (first :: letters).isPrefixOf t = false := by
    cases t with
    | nil => rfl
    | cons c t =>
      have hne : first ≠ c := fun heq => h (by rw [heq]; rfl)
      simp [List.isPrefixOf, hne]
  simp only [afterWord?, hword, hprefix, Bool.false_eq_true, if_false]

/-- A scalar that begins with a digit is a number. -/
theorem scalar_digit {c : CodePoint} (hc : c.isAsciiDigit = true) (rest : Text) :
    scalar (c :: rest) = numeral false (c :: rest) := by
  have hne : ∀ letter : CodePoint, letter.isAsciiDigit = false →
      (c :: rest).head? ≠ some letter := by
    rintro letter hletter heq
    cases heq
    rw [hc] at hletter
    cases hletter
  unfold scalar
  rw [afterWord?_eq_none "null" rfl (hne (.char 'n') rfl),
    afterWord?_eq_none "true" rfl (hne (.char 't') rfl),
    afterWord?_eq_none "false" rfl (hne (.char 'f') rfl),
    afterWord?_eq_none "NaN" rfl (hne (.char 'N') rfl),
    afterWord?_eq_none "Infinity" rfl (hne (.char 'I') rfl),
    afterWord?_eq_none "-Infinity" rfl (hne (.char '-') rfl)]
  simp only
  split
  · rename_i heq
    cases heq
    cases hc
  · rfl

/-- A scalar that begins with a minus sign and a digit is a negative number. -/
theorem scalar_minus {c : CodePoint} (hc : c.isAsciiDigit = true) (rest : Text) :
    scalar (.char '-' :: c :: rest) = numeral true (c :: rest) := by
  have hinfinite : afterWord? "-Infinity" (.char '-' :: c :: rest) = none := by
    have hne : CodePoint.char 'I' ≠ c := by
      rintro rfl
      cases hc
    have hprefix : (Text.ofString "-Infinity").isPrefixOf (.char '-' :: c :: rest) = false := by
      rw [show Text.ofString "-Infinity" = .char '-' :: .char 'I' :: Text.ofString "nfinity" from
        rfl]
      simp [List.isPrefixOf, hne]
    simp only [afterWord?, hprefix, Bool.false_eq_true, if_false]
  have hne : ∀ letter : CodePoint, letter ≠ .char '-' →
      (CodePoint.char '-' :: c :: rest).head? ≠ some letter := by
    rintro letter hletter heq
    exact hletter (Option.some.inj heq).symm
  unfold scalar
  rw [afterWord?_eq_none "null" rfl (hne (.char 'n') (by decide)),
    afterWord?_eq_none "true" rfl (hne (.char 't') (by decide)),
    afterWord?_eq_none "false" rfl (hne (.char 'f') (by decide)),
    afterWord?_eq_none "NaN" rfl (hne (.char 'N') (by decide)),
    afterWord?_eq_none "Infinity" rfl (hne (.char 'I') (by decide)), hinfinite]
  rfl

/-- A whole number begins with a digit. -/
theorem exists_ofNat_eq_cons (n : Nat) :
    ∃ c digits, Text.ofNat n = c :: digits ∧ c.isAsciiDigit = true := by
  obtain ⟨c, digits, heq⟩ := List.exists_cons_of_ne_nil (Text.ofNat_ne_nil n)
  exact ⟨c, digits, heq, (isWhole_ofNat n).digits c (by simp [heq])⟩

/-- An integer is read back, unless it has too many digits. -/
theorem scalar_ofInt (n : Int) {rest : Text} (hrest : EndsNumber rest) :
    scalar (Text.ofInt n ++ rest) =
      if Text.maxDigits < (Text.ofNat n.natAbs).length then
        .error (.tooManyDigits (Text.ofNat n.natAbs).length)
      else .ok (.integer n, rest) := by
  cases n with
  | ofNat m =>
    obtain ⟨c, digits, heq, hc⟩ := exists_ofNat_eq_cons m
    have hread := numeral_ofNat m hrest false
    simp only [Text.ofInt, heq, List.cons_append] at hread ⊢
    rw [scalar_digit hc, hread, ← heq]
    rfl
  | negSucc m =>
    obtain ⟨c, digits, heq, hc⟩ := exists_ofNat_eq_cons (m + 1)
    have hread := numeral_ofNat (m + 1) hrest true
    simp only [Text.ofInt, List.cons_append, heq] at hread ⊢
    rw [scalar_minus hc, hread, ← heq]
    rfl

/-- A finite double is a sign before digits, and these are read as a double: the same, if it is one
of the doubles that there are. -/
theorem exists_render_finite (negative : Bool) (significand : Nat) (exponent : Int) :
    ∃ c digits y, (Binary64.finite negative significand exponent).render documentSpelling =
        Binary64.render.sign negative ++ (c :: digits) ∧ c.isAsciiDigit = true ∧
      ((Binary64.finite negative significand exponent).IsValid →
        y = .finite negative significand exponent) ∧
      ∀ rest, EndsNumber rest →
        numeral negative (c :: digits ++ rest) = .ok (.number y, rest) := by
  by_cases hzero : significand = 0
  · refine ⟨.char '0', [.char '.', .char '0'], .zero negative, ?_, rfl, fun hvalid => ?_,
      fun rest hrest => ?_⟩
    · simp only [Binary64.render, if_pos hzero]
      rfl
    · have hleast : exponent = -1074 := by
        refine hvalid.full.resolve_left ?_
        rw [hzero]
        decide
      rw [hzero, hleast]
      rfl
    · exact numeral_fraction .zero (List.cons_ne_nil (.char '0') []) (by decide) negative hrest
  · have hpos : 0 < (Binary64.shortest significand exponent).digits :=
      Nat.pos_of_ne_zero (Binary64.shortest_ne_zero hzero exponent)
    generalize hpoint : (Binary64.shortest significand exponent).exponent +
      ((Text.ofNat (Binary64.shortest significand exponent).digits).length : Int) = point
    obtain ⟨d, hd, hvalue, hy⟩ := Binary64.denotes_layout hpos point negative
    obtain ⟨c, digits, heq, hc⟩ := Binary64.layout_eq_cons hpos point
    rw [heq] at hy
    refine ⟨c, digits, .ofDecimal negative d.digits d.exponent, ?_, hc, fun hvalid => ?_, hy⟩
    · simp only [Binary64.render, if_neg hzero, hpoint, heq]
    · have hrounds := Binary64.rounds_shortest hvalid (Nat.pos_of_ne_zero hzero)
      rw [← hpoint, add_sub_cancel_right] at hvalue
      rw [Decimal.value, ← hvalue] at hrounds
      exact Binary64.ofDecimal_eq hvalid (Nat.pos_of_ne_zero hzero) hd hrounds negative

/-- What is written for a double is read as one, whatever stands after it, and as the same if it is
one of the doubles that there are. -/
theorem exists_scalar_render (x : Binary64) :
    ∃ y, (x.IsValid → y = x) ∧ ∀ rest, EndsNumber rest →
      scalar (x.render documentSpelling ++ rest) = .ok (.number y, rest) := by
  cases x with
  | nan => exact ⟨.nan, fun _ => rfl, fun rest _ => rfl⟩
  | infinite negative =>
    refine ⟨.infinite negative, fun _ => rfl, fun rest _ => ?_⟩
    cases negative <;> rfl
  | finite negative significand exponent =>
    obtain ⟨c, digits, y, heq, hc, hsame, hy⟩ :=
      exists_render_finite negative significand exponent
    refine ⟨y, hsame, fun rest hrest => ?_⟩
    rw [heq, List.append_assoc, ← hy rest hrest]
    cases negative with
    | false => exact scalar_digit hc _
    | true => exact scalar_minus hc _

end Json

/-- The double that is read where a double has been written. -/
def Binary64.reread (x : Binary64) : Binary64 :=
  match Json.scalar (x.render Json.documentSpelling) with
  | .ok (.number y, _) => y
  | _ => x

namespace Json

/-- What is written for a double is read as its `reread`. -/
theorem scalar_render (x : Binary64) {rest : Text} (hrest : EndsNumber rest) :
    scalar (x.render documentSpelling ++ rest) = .ok (.number x.reread, rest) := by
  obtain ⟨y, -, hy⟩ := exists_scalar_render x
  have halone := hy [] (by simp [EndsNumber])
  rw [List.append_nil] at halone
  rw [hy rest hrest, Binary64.reread, halone]

/-- A double is read back as it was written. -/
theorem reread_eq_of_isValid {x : Binary64} (h : x.IsValid) : x.reread = x := by
  obtain ⟨y, hsame, hy⟩ := exists_scalar_render x
  have halone := hy [] (by simp [EndsNumber])
  rw [List.append_nil] at halone
  rw [Binary64.reread, halone]
  exact hsame h

end Json

end Toolsmith
