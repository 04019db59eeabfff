import Toolsmith.Proofs.Text.Encoding
import Toolsmith.Proofs.Text.StyleTable
import Toolsmith.Text.Composition
import Toolsmith.Text.Word

/-!
# Names without style

A name is compared in its plain form, in which every character of a style stands as the characters
that it is drawn for, and letters with their marks are put together. Not every part of a word may
stand in a name: a raised digit is a number, but no letter or digit.
-/

namespace Toolsmith

namespace CodePoint

/-- Numbers and other parts of words, and marks around letters, that may not stand in a name. -/
def oddRanges : Ranges := [
  (0xb2, 0xb3), (0xb9, 0xb9), (0xbc, 0xbe), (0x37a, 0x37a), (0x488, 0x489), (0x9f4, 0x9f9),
  (0xb72, 0xb77), (0xbf0, 0xbf2), (0xc78, 0xc7e), (0xd58, 0xd5e), (0xd70, 0xd78), (0xf2a, 0xf33),
  (0x1372, 0x137c), (0x17f0, 0x17f9), (0x1abe, 0x1abe), (0x2070, 0x2070), (0x2074, 0x2079),
  (0x2080, 0x2089), (0x20dd, 0x20e0), (0x20e2, 0x20e4), (0x2150, 0x215f), (0x2189, 0x2189),
  (0x2460, 0x249b), (0x24ea, 0x24ff), (0x2776, 0x2793), (0x2cfd, 0x2cfd), (0x2e2f, 0x2e2f),
  (0x3192, 0x3195), (0x3220, 0x3229), (0x3248, 0x324f), (0x3251, 0x325f), (0x3280, 0x3289),
  (0x32b1, 0x32bf), (0xa670, 0xa672), (0xa830, 0xa835), (0xfc5e, 0xfc63), (0xfdfa, 0xfdfb),
  (0xfe70, 0xfe70), (0xfe72, 0xfe72), (0xfe74, 0xfe74), (0xfe76, 0xfe76), (0xfe78, 0xfe78),
  (0xfe7a, 0xfe7a), (0xfe7c, 0xfe7c), (0xfe7e, 0xfe7e), (0x10107, 0x10133), (0x10175, 0x10178),
  (0x1018a, 0x1018b), (0x102e1, 0x102fb), (0x10320, 0x10323), (0x10858, 0x1085f),
  (0x10879, 0x1087f), (0x108a7, 0x108af), (0x108fb, 0x108ff), (0x10916, 0x1091b),
  (0x109bc, 0x109bd), (0x109c0, 0x109cf), (0x109d2, 0x109ff), (0x10a40, 0x10a48),
  (0x10a7d, 0x10a7e), (0x10a9d, 0x10a9f), (0x10aeb, 0x10aef), (0x10b58, 0x10b5f),
  (0x10b78, 0x10b7f), (0x10ba9, 0x10baf), (0x10cfa, 0x10cff), (0x10e60, 0x10e7e),
  (0x10f1d, 0x10f26), (0x10f51, 0x10f54), (0x10fc5, 0x10fcb), (0x11052, 0x11065),
  (0x111e1, 0x111f4), (0x1173a, 0x1173b), (0x118ea, 0x118f2), (0x11c5a, 0x11c6c),
  (0x11fc0, 0x11fd4), (0x16b5b, 0x16b61), (0x16e80, 0x16e96), (0x1d2e0, 0x1d2f3),
  (0x1d360, 0x1d378), (0x1e8c7, 0x1e8cf), (0x1ec71, 0x1ecab), (0x1ecad, 0x1ecaf),
  (0x1ecb1, 0x1ecb4), (0x1ed01, 0x1ed2d), (0x1ed2f, 0x1ed3d), (0x1f100, 0x1f10c)]

/-- Signs that join the parts of a name, and others that may stand in one. -/
def joiningRanges : Ranges := [
  (0xb7, 0xb7), (0x387, 0x387), (0x203f, 0x2040), (0x2054, 0x2054), (0x2118, 0x2118),
  (0x212e, 0x212e), (0xfe33, 0xfe34), (0xfe4d, 0xfe4f), (0xff3f, 0xff3f)]

/-- A character that may stand in a name after its first one. -/
def continuesName (c : CodePoint) : Bool :=
  (c.isWord || c.isMark || joiningRanges.has c.code) && !oddRanges.has c.code

end CodePoint

/-- The characters for which a styled one stands. -/
def plainParts (n : Nat) : List Nat :=
  match styledLetters.find? fun (low, high, _) => low ≤ n && n ≤ high with
  | some (low, _, first) => [first + (n - low)]
  | none =>
    match styledGroups.find? fun (low, high, _) => low ≤ n && n ≤ high with
    | some (_, _, parts) => parts
    | none => [n]

/-- A number below all those of a table is not found in it. -/
theorem lookup_eq_none_of_lt {α : Type} {table : List (Nat × α)} {bound n : Nat}
    (htable : ∀ entry ∈ table, bound ≤ entry.1) (hn : n < bound) : table.lookup n = none := by
  refine List.lookup_eq_none_iff.mpr fun entry hentry => bne_iff_ne.mpr ?_
  have hlow := htable entry hentry
  omega

/-- A number below all intervals of a table lies in none of them. -/
theorem find?_eq_none_of_lt {α : Type} {table : List (Nat × Nat × α)} {bound n : Nat}
    (htable : ∀ entry ∈ table, bound ≤ entry.1) (hn : n < bound) :
    (table.find? fun (low, high, _) => low ≤ n && n ≤ high) = none := by
  refine List.find?_eq_none.mpr fun entry hentry hfound => ?_
  have hlow := htable entry hentry
  have hle : entry.1 ≤ n := of_decide_eq_true (Bool.and_eq_true_iff.mp hfound).1
  omega

namespace CodePoint

/-- A character that stands for itself, is no mark and is not put together with what comes before
it. -/
structure IsSettled (c : CodePoint) : Prop where
  parts : Composition.parts c.code = [c.code]
  plain : plainParts c.code = [c.code]
  combining : c.combiningClass = 0
  second : ∀ entry ∈ composites, entry.2.2 ≠ c.code
  syllable : c.code < Composition.firstVowel ∨
    Composition.beforeTrail + Composition.syllablesPerVowel ≤ c.code

/-- The characters of ASCII are settled. -/
theorem isSettled_of_isAscii {c : CodePoint} (h : c.isAscii = true) : c.IsSettled := by
  have hcode : c.code < 0x80 := of_decide_eq_true h
  have hcomposites : ∀ entry ∈ composites, 0x80 ≤ entry.1 ∧ 0x80 ≤ entry.2.2 := by decide +kernel
  have hloose : ∀ entry ∈ looseComposites, 0x80 ≤ entry.1 := by decide +kernel
  have hforms : ∀ entry ∈ variantForms ++ ideographForms ++ farIdeographForms, 0x80 ≤ entry.1 := by
    decide +kernel
  have hletters : ∀ entry ∈ styledLetters, 0x80 ≤ entry.1 := by decide +kernel
  have hgroups : ∀ entry ∈ styledGroups, 0x80 ≤ entry.1 := by decide +kernel
  have hclasses : ∀ entry ∈ combiningClasses, 0x80 ≤ entry.1 := by decide +kernel
  rw [List.forall_mem_append, List.forall_mem_append] at hforms
  obtain ⟨⟨hvariants, hideographs⟩, hfar⟩ := hforms
  have hsyllable : Composition.syllableParts? c.code = none := by
    rw [Composition.syllableParts?, Composition.firstSyllable]
    exact if_neg (by omega)
  refine ⟨?_, ?_, ?_, fun entry hentry hsecond => ?_, ?_⟩
  · rw [Composition.parts, hsyllable,
      lookup_eq_none_of_lt (fun entry hentry => (hcomposites entry hentry).1) hcode,
      lookup_eq_none_of_lt hloose hcode, Composition.base?, lookup_eq_none_of_lt hvariants hcode,
      lookup_eq_none_of_lt hideographs hcode, lookup_eq_none_of_lt hfar hcode]
    rfl
  · rw [plainParts, find?_eq_none_of_lt hletters hcode, find?_eq_none_of_lt hgroups hcode]
  · rw [combiningClass, find?_eq_none_of_lt hclasses hcode]
    rfl
  · have hhigh := (hcomposites entry hentry).2
    omega
  · rw [Composition.firstVowel]
    omega

/-- A settled character is not put together with what comes before it. -/
theorem IsSettled.composite?_eq_none {c : CodePoint} (h : c.IsSettled) (a : CodePoint) :
    Composition.composite? a c = none := by
  have hsyllable : Composition.syllable? a.code c.code = none := by
    have hpart := h.syllable
    unfold Composition.firstVowel Composition.beforeTrail Composition.syllablesPerVowel at hpart
    unfold Composition.syllable? Composition.firstVowel Composition.beforeTrail
      Composition.syllablesPerVowel
    rw [if_neg (by omega), if_neg (by omega)]
  have hnone : (composites.find? fun (_, first, second) => first = a.code && second = c.code) =
      none := by
    refine List.find?_eq_none.mpr fun entry hentry hfound => ?_
    exact h.second entry hentry (of_decide_eq_true (Bool.and_eq_true_iff.mp hfound).2)
  rw [Composition.composite?, hsyllable, hnone]
  rfl

end CodePoint

namespace Composition

variable {c : CodePoint} {t : Text}

/-- A mark comes before a letter that stands behind the marks. -/
theorem insertMark_append_cons (h : c.combiningClass = 0) (mark : CodePoint) (s t : Text) :
    insertMark mark (s ++ c :: t) = insertMark mark s ++ c :: t := by
  induction s with
  | nil =>
    have hletter : ¬(c.combiningClass ≠ 0 ∧ c.combiningClass < mark.combiningClass) :=
      fun hmark => hmark.1 h
    simp only [List.nil_append, insertMark, if_neg hletter, List.singleton_append]
  | cons d s ih =>
    rw [List.cons_append, insertMark, insertMark, ih]
    split <;> rfl

/-- Marks on the two sides of a letter are put in order apart. -/
theorem orderMarks_append_cons (h : c.combiningClass = 0) (s t : Text) :
    orderMarks (s ++ c :: t) = orderMarks s ++ c :: orderMarks t := by
  induction s with
  | nil => simp only [List.nil_append, orderMarks, if_pos h]
  | cons d s ih =>
    rw [List.cons_append, orderMarks, orderMarks, ih]
    split
    · rfl
    · exact insertMark_append_cons h d _ _

/-- What comes before a letter that is not put together with it is put together apart. -/
theorem joinAfter_append_cons (hclass : c.combiningClass = 0) (hapart : ∀ a, composite? a c = none)
    (letter : CodePoint) (marks s t : Text) :
    joinAfter letter marks (s ++ c :: t) = joinAfter letter marks s ++ joinAfter c [] t := by
  induction s generalizing letter marks with
  | nil => simp only [List.nil_append, joinAfter, hapart, ite_self, hclass, if_true]
  | cons d s ih =>
    rw [List.cons_append, joinAfter, joinAfter]
    split
    · exact ih _ _
    · split
      · rw [ih, List.append_assoc]
      · exact ih _ _

/-- Letters before one that is not put together with them are put together apart. -/
theorem join_append_cons (hclass : c.combiningClass = 0) (hapart : ∀ a, composite? a c = none)
    (s t : Text) : join (s ++ c :: t) = join s ++ join (c :: t) := by
  induction s with
  | nil => rfl
  | cons d s ih =>
    rw [List.cons_append, join, join]
    split
    · rw [joinAfter_append_cons hclass hapart, join, if_pos hclass]
    · rw [ih]
      rfl

/-- Settled characters after others are not put in another order. -/
theorem orderMarks_append (h : ∀ c ∈ t, c.IsSettled) (s : Text) :
    orderMarks (s ++ t) = orderMarks s ++ t := by
  induction t generalizing s with
  | nil => simp only [List.append_nil]
  | cons c rest ih =>
    obtain ⟨hc, hrest⟩ := List.forall_mem_cons.mp h
    have hsame : orderMarks rest = rest := ih hrest []
    rw [orderMarks_append_cons hc.combining, hsame]

/-- Settled characters after others are not put together with anything. -/
theorem join_append (h : ∀ c ∈ t, c.IsSettled) (s : Text) : join (s ++ t) = join s ++ t := by
  induction t generalizing s with
  | nil => simp only [List.append_nil]
  | cons c rest ih =>
    obtain ⟨hc, hrest⟩ := List.forall_mem_cons.mp h
    have hsingle : join [c] = [c] := if_pos hc.combining
    have hsame : join ([c] ++ rest) = join [c] ++ rest := ih hrest [c]
    rw [join_append_cons hc.combining hc.composite?_eq_none, ← List.singleton_append, hsame,
      hsingle]

/-- Characters that stand for themselves stay as they are. -/
theorem flatMap_map_ofCode {f : Nat → List Nat} (h : ∀ c ∈ t, f c.code = [c.code]) :
    (t.flatMap fun c => (f c.code).map CodePoint.ofCode) = t := by
  have hsingle : ∀ c ∈ t, (f c.code).map CodePoint.ofCode = [c] := fun c hc => by
    rw [h c hc, List.map_singleton, CodePoint.ofCode_code]
  rw [List.flatMap_congr hsingle, List.flatMap_singleton']

/-- Texts are taken apart one after another. -/
theorem takeApart_append (s t : Text) : takeApart (s ++ t) = takeApart s ++ takeApart t := by
  unfold takeApart
  simp only [List.flatMap_append]

/-- A text without composites is not taken apart. -/
theorem takeApart_eq_self (h : ∀ c ∈ t, parts c.code = [c.code]) : takeApart t = t := by
  unfold takeApart
  simp only [flatMap_map_ofCode h]

end Composition

namespace Text

/-- What the characters of a text stand for, in order, without style. -/
def plainLetters (t : Text) : Text :=
  (Composition.takeApart t).flatMap fun c => (plainParts c.code).map .ofCode

/-- The form of a text without style. -/
def plainForm (t : Text) : Text :=
  Composition.join (Composition.orderMarks t.plainLetters)

variable {t : Text}

/-- Texts lose their style one after another. -/
theorem plainLetters_append (s t : Text) :
    (s ++ t).plainLetters = s.plainLetters ++ t.plainLetters := by
  rw [plainLetters, Composition.takeApart_append, List.flatMap_append]
  rfl

/-- Settled characters have no style. -/
theorem plainLetters_eq_self (h : ∀ c ∈ t, c.IsSettled) : t.plainLetters = t := by
  rw [plainLetters, Composition.takeApart_eq_self fun c hc => (h c hc).parts,
    Composition.flatMap_map_ofCode fun c hc => (h c hc).plain]

/-- Settled characters after others stay as they are in the plain form. -/
theorem plainForm_append (h : ∀ c ∈ t, c.IsSettled) (s : Text) :
    (s ++ t).plainForm = s.plainForm ++ t := by
  rw [plainForm, plainLetters_append, plainLetters_eq_self h, Composition.orderMarks_append h,
    Composition.join_append h]
  rfl

/-- Settled characters are their own plain form. -/
theorem plainForm_eq_self (h : ∀ c ∈ t, c.IsSettled) : t.plainForm = t :=
  plainForm_append h []

end Text

end Toolsmith
