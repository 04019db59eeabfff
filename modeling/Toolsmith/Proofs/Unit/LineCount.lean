import Toolsmith.Proofs.Unit.Bindings
import Toolsmith.Proofs.Unit.Opening

/-!
# The lines of a unit

No text of a document adds a line to a unit. Everything that is put into a line of a unit is free of
line ends of every kind, so the number of lines depends on the number of inputs only.
-/

namespace Toolsmith

namespace Text

/-- A text without line ends. -/
def IsLine (t : Text) : Prop :=
  ∀ c ∈ t, c.isLineEnd = false

instance (t : Text) : Decidable (IsLine t) :=
  inferInstanceAs (Decidable (∀ c ∈ t, _))

/-- A text of a number of lines, each ended by a line feed. -/
def HasLines (n : Nat) (t : Text) : Prop :=
  t.count (.char '\n') = n ∧ ∀ c ∈ t, c.isLineEnd = true → c = .char '\n'

/-- Two texts without line ends make one. -/
theorem IsLine.append {s t : Text} (hs : IsLine s) (ht : IsLine t) : IsLine (s ++ t) :=
  List.forall_mem_append.mpr ⟨hs, ht⟩

/-- The lines of two texts add up. -/
theorem HasLines.append {m n : Nat} {s t : Text} (hs : HasLines m s) (ht : HasLines n t) :
    HasLines (m + n) (s ++ t) :=
  ⟨by rw [List.count_append, hs.1, ht.1], List.forall_mem_append.mpr ⟨hs.2, ht.2⟩⟩

/-- Equal numbers of lines may be put for each other. -/
theorem HasLines.of_eq {m n : Nat} {t : Text} (h : HasLines m t) (heq : m = n) : HasLines n t :=
  heq ▸ h

/-- A text without line ends has no lines. -/
theorem IsLine.hasLines {t : Text} (h : IsLine t) : HasLines 0 t := by
  refine ⟨List.count_eq_zero.mpr fun hmem => ?_, fun c hc hend => ?_⟩
  · exact absurd (h _ hmem) (by decide)
  · rw [h c hc] at hend
    cases hend

/-- Pieces without line ends make one line. -/
theorem hasLines_line {pieces : List Text} (h : ∀ piece ∈ pieces, IsLine piece) :
    HasLines 1 (Source.line pieces) := by
  have hpieces : IsLine pieces.flatten := by
    intro c hc
    obtain ⟨piece, hpiece, hc⟩ := List.mem_flatten.mp hc
    exact h piece hpiece c hc
  have hfeed : HasLines 1 [.char '\n'] := ⟨rfl, by simp⟩
  have hline := hpieces.hasLines.append hfeed
  rwa [Nat.zero_add] at hline

/-- Parts with the same number of lines have them together. -/
theorem hasLines_flatMap {α : Type} {f : α → Text} {n : Nat} {parts : List α}
    (h : ∀ part ∈ parts, HasLines n (f part)) : HasLines (n * parts.length) (parts.flatMap f) := by
  induction parts with
  | nil => exact ⟨rfl, List.forall_mem_nil _⟩
  | cons part parts ih =>
    obtain ⟨hpart, hparts⟩ := List.forall_mem_cons.mp h
    have hboth := hpart.append (ih hparts)
    rw [List.flatMap_cons, List.length_cons, Nat.mul_succ, Nat.add_comm]
    exact hboth

/-- Fixed lines are lines. -/
theorem hasLines_fixed {lines : List String} (h : ∀ l ∈ lines, IsLine (ofString l)) :
    HasLines lines.length (Source.fixed lines) := by
  have hline : ∀ l ∈ lines, HasLines 1 (ofString l ++ [.char '\n']) := by
    intro l hl
    have hone := hasLines_line (List.forall_mem_singleton.mpr (h l hl))
    rwa [Source.line, List.flatten_singleton] at hone
  have hall := hasLines_flatMap hline
  rwa [Nat.one_mul] at hall

/-- A digit ends no line. -/
theorem isLine_ofNat (n : Nat) : IsLine (ofNat n) := by
  have hdigit : ∀ d < 10, (digitPoint d).isLineEnd = false := by decide
  intro c hc
  obtain ⟨d, hd, rfl⟩ := mem_ofNat hc
  exact hdigit d hd

/-- A hexadecimal number ends no line. -/
theorem isLine_ofHex (width n : Nat) : IsLine (ofHex width n) := by
  have hdigit : ∀ d < 16, (digitPoint d).isLineEnd = false := by decide
  intro c hc
  obtain ⟨d, hd, rfl⟩ := mem_ofHex hc
  exact hdigit d hd

/-- What has a visible shape ends no line. -/
theorem isLineEnd_of_isPrintable {c : CodePoint} (h : c.isPrintable = true) :
    c.isLineEnd = false := by
  have hends : ∀ n ∈ lineEnds, printableRanges.has n = false := by decide +kernel
  by_contra hend
  have hmem : c.code ∈ lineEnds := by simpa [CodePoint.isLineEnd] using hend
  rw [CodePoint.isPrintable, hends _ hmem] at h
  cases h

/-- A part of a word ends no line. -/
theorem isLineEnd_of_isWord {c : CodePoint} (h : c.isWord = true) : c.isLineEnd = false := by
  have hends : ∀ n ∈ lineEnds, wordRanges.has n = false := by decide +kernel
  by_contra hend
  have hmem : c.code ∈ lineEnds := by simpa [CodePoint.isLineEnd] using hend
  rw [CodePoint.isWord, hends _ hmem] at h
  cases h

/-- An identifier ends no line. -/
theorem isLine_identifier {t : Text} (h : IsIdentifier t) : IsLine t := by
  have hstart : IsLine (ofString "param_") := by decide
  obtain ⟨rest, rfl, hrest⟩ := h
  exact hstart.append fun c hc => isLineEnd_of_isWord (hrest c hc)

/-- Between quotes no line ends. -/
theorem isLine_quotePoint {mark : CodePoint} (hmark : Program.isMark mark = true)
    (point : CodePoint) : IsLine (quotePoint mark point) := by
  have hquote : mark.isLineEnd = false := by
    simp only [Program.isMark, Bool.or_eq_true, decide_eq_true_eq] at hmark
    rcases hmark with rfl | rfl <;> decide
  have hescapes : IsLine (ofString "\\n") ∧ IsLine (ofString "\\r") ∧ IsLine (ofString "\\t") ∧
      IsLine (ofString "\\x") ∧ IsLine (ofString "\\u") ∧ IsLine (ofString "\\U") := by
    decide
  obtain ⟨hfeed, hreturn, htab, hbyte, hshort, hlong⟩ := hescapes
  unfold quotePoint
  split
  · rename_i hself
    simp only [Bool.or_eq_true, decide_eq_true_eq] at hself
    rcases hself with rfl | rfl
    · simp only [IsLine, List.forall_mem_cons, hquote]
      decide
    · decide
  split
  · exact hfeed
  split
  · exact hreturn
  split
  · exact htab
  split
  · rename_i hprintable
    exact List.forall_mem_singleton.mpr (isLineEnd_of_isPrintable hprintable)
  split
  · exact hbyte.append (isLine_ofHex 2 _)
  split
  · exact hshort.append (isLine_ofHex 4 _)
  · exact hlong.append (isLine_ofHex 8 _)

/-- The literal of a text stands on one line. -/
theorem isLine_quoted (t : Text) : IsLine t.quoted := by
  have hmark := Program.isMark_quoteMark t
  have hquote : t.quoteMark.isLineEnd = false := by
    unfold quoteMark
    split <;> decide
  intro c hc
  simp only [quoted, List.cons_append, List.mem_cons, List.mem_append, List.mem_flatMap,
    List.not_mem_nil, or_false] at hc
  rcases hc with rfl | ⟨point, -, hc⟩ | rfl
  · exact hquote
  · exact isLine_quotePoint hmark point c hc
  · exact hquote

end Text

end Toolsmith
