import Mathlib.Data.List.Infix
import Mathlib.Data.List.TakeWhile
import Toolsmith.Proofs.Text.Pieces
import Toolsmith.Proofs.Unit.Literal
import Toolsmith.Unit.Source

/-!
# The text that opens a unit

The opening text stands between two groups of three double quotes. Nothing that comes from a
document ends it early: its lines hold no such group, no backslash and no line end.
-/

namespace Toolsmith

namespace Text

/-- The three double quotes around the opening text. -/
def triple : Text := [.char '"', .char '"', .char '"']

/-- Quotes at the beginning of a text after the replacement were there before. -/
theorem prefix_of_prefix_replaceAfter {k : Nat} {t : Text}
    (h : List.replicate k (.char '"') <+: replaceAfter triple (ofString "'''") 0 t) :
    List.replicate k (.char '"') <+: t := by
  induction k generalizing t with
  | zero => exact List.nil_prefix
  | succ k ih =>
    cases t with
    | nil => exact h
    | cons c rest =>
      rw [replaceAfter] at h
      split at h
      · rw [List.replicate_succ] at h
        exact absurd (List.cons_prefix_cons.mp h).1 (by decide)
      · rw [List.replicate_succ] at h ⊢
        obtain ⟨rfl, hrest⟩ := List.cons_prefix_cons.mp h
        exact List.cons_prefix_cons.mpr ⟨rfl, ih hrest⟩

/-- After the replacement no three double quotes stand in a row. -/
theorem not_triple_infix_replaceAfter (skip : Nat) (t : Text) :
    ¬triple <:+: replaceAfter triple (ofString "'''") skip t := by
  fun_induction replaceAfter triple (ofString "'''") skip t with
  | case1 => decide
  | case2 skip _ rest ih => exact ih
  | case3 c rest hold ih =>
    intro h
    have htail : ∀ u : Text, triple <:+: .char '\'' :: u → triple <:+: u := by
      intro u hu
      rcases List.infix_cons_iff.mp hu with hu | hu
      · exact absurd (List.cons_prefix_cons.mp hu).1 (by decide)
      · exact hu
    exact ih (htail _ (htail _ (htail _ h)))
  | case4 c rest hold ih =>
    intro h
    rcases List.infix_cons_iff.mp h with h | h
    · have hrest : triple <+: c :: rest := by
        have hsame : replaceAfter triple (ofString "'''") 0 (c :: rest) =
            c :: replaceAfter triple (ofString "'''") 0 rest := by
          rw [replaceAfter, if_neg hold]
        exact prefix_of_prefix_replaceAfter (k := 3) (hsame ▸ h)
      exact hold (List.isPrefixOf_iff_prefix.mpr hrest)
    · exact ih h

/-- What does not hold a code point and begins a text stands before it. -/
theorem prefix_of_prefix_append_cons {p s t : Text} {c : CodePoint} (hc : c ∉ p)
    (h : p <+: s ++ c :: t) : p <+: s := by
  have hmiddle : s ++ [c] <+: s ++ c :: t := (List.prefix_append_right_inj s).mpr (by simp)
  rcases List.prefix_or_prefix_of_prefix h hmiddle with hpart | hpart
  · rcases List.prefix_concat_iff.mp hpart with rfl | hpart
    · exact absurd (by simp) hc
    · exact hpart
  · exact absurd (hpart.subset (by simp)) hc

/-- What does not hold a code point stands on one side of it. -/
theorem infix_append_cons {p s t : Text} {c : CodePoint} (hc : c ∉ p) (h : p <:+: s ++ c :: t) :
    p <:+: s ∨ p <:+: t := by
  induction s with
  | nil =>
    rcases List.infix_cons_iff.mp h with h | h
    · exact .inl (prefix_of_prefix_append_cons hc h).isInfix
    · exact .inr h
  | cons d s ih =>
    rcases List.infix_cons_iff.mp h with h | h
    · exact .inl (prefix_of_prefix_append_cons hc h).isInfix
    · exact (ih h).imp_left fun h => List.infix_cons_iff.mpr (.inr h)

/-- A text that can stand in a line of an opening text. -/
def IsOpeningLine (t : Text) : Prop :=
  ¬triple <:+: t ∧ ∀ c ∈ t, c.isLineEnd = false ∧ c ≠ .char '\\'

/-- Text of a document can stand in a line of an opening text after it has been prepared. -/
theorem isOpeningLine_docLine (t : Text) : IsOpeningLine (Context.docLine t) := by
  have hapostrophes : ∀ c ∈ ofString "'''", c.isLineEnd = false ∧ c ≠ .char '\\' := by decide
  refine ⟨not_triple_infix_replaceAfter 0 _, fun c hc => ?_⟩
  rcases mem_replaceAfter hc with hc | hc
  · obtain ⟨d, hd, rfl⟩ := List.mem_map.mp hc
    split
    · decide
    · rename_i hslash
      have hline := List.mem_takeWhile_imp hd
      exact ⟨by simpa using hline, hslash⟩
  · exact hapostrophes c hc

/-- A line goes on after a space. -/
theorem IsOpeningLine.append {s t : Text} (hs : IsOpeningLine s) (ht : IsOpeningLine t) :
    IsOpeningLine (s ++ .char ' ' :: t) := by
  refine ⟨fun h => ?_, fun c hc => ?_⟩
  · rcases infix_append_cons (by decide) h with h | h
    · exact hs.1 h
    · exact ht.1 h
  · rcases List.mem_append.mp hc with hc | hc
    · exact hs.2 c hc
    · rcases List.mem_cons.mp hc with rfl | hc
      · decide
      · exact ht.2 c hc

end Text

namespace Program

/-- A block is read up to where its marks come three times, if no mark ends its
text and no backslash is in it. -/
theorem scan_block {t : Text} (hslash : CodePoint.char '\\' ∉ t) (marks : Nat)
    (htriple : ¬Text.triple <:+: List.replicate marks (.char '"') ++ t) (hmarks : marks ≤ 2)
    (raw : Text) :
    ∃ last ≤ 2, scan (.block true (.char '"') raw false marks) t =
      some ([], .block true (.char '"') (raw ++ t) false last) := by
  induction t generalizing marks raw with
  | nil => exact ⟨marks, hmarks, by rw [List.append_nil]; rfl⟩
  | cons c t ih =>
    obtain ⟨hc, ht⟩ := List.ne_and_not_mem_of_not_mem_cons hslash
    by_cases hmark : c = .char '"'
    · subst c
      have hmore : List.replicate marks (CodePoint.char '"') ++ .char '"' :: t =
          List.replicate (marks + 1) (.char '"') ++ t := by
        rw [List.replicate_succ', List.append_assoc]
        rfl
      rw [hmore] at htriple
      have hfew : marks ≠ 2 := by
        rintro rfl
        exact htriple (List.prefix_append _ _).isInfix
      obtain ⟨last, hlast, hscan⟩ := ih ht _ htriple (by omega) (raw ++ [.char '"'])
      have hstep : (Mode.block true (.char '"') raw false marks).step (.char '"') =
          some ([], .block true (.char '"') (raw ++ [.char '"']) false (marks + 1)) := by
        show blockStep true (.char '"') raw marks (.char '"') = _
        rw [blockStep, if_pos rfl, if_neg hfew]
      refine ⟨last, hlast, ?_⟩
      rw [List.append_cons]
      exact scan_append (scan_singleton hstep) hscan
    · have hrest : ¬Text.triple <:+: List.replicate 0 (CodePoint.char '"') ++ t := fun h =>
        htriple (h.trans ((List.suffix_cons c t).trans (List.suffix_append _ _)).isInfix)
      obtain ⟨last, hlast, hscan⟩ := ih ht 0 hrest (by omega) (raw ++ [c])
      have hstep : (Mode.block true (.char '"') raw false marks).step c =
          some ([], .block true (.char '"') (raw ++ [c]) false 0) := by
        show blockStep true (.char '"') raw marks c = _
        rw [blockStep, if_neg hmark]
        simp [Ne.symm hc]
      refine ⟨last, hlast, ?_⟩
      rw [List.append_cons]
      exact scan_append (scan_singleton hstep) hscan

/-- A text without backslashes stands for itself between the marks of a literal. -/
theorem unescape?_eq_self {t : Text} (h : CodePoint.char '\\' ∉ t) {fuel : Nat}
    (hfuel : t.length ≤ fuel) : unescape? fuel t = some t := by
  induction t generalizing fuel with
  | nil => cases fuel <;> rfl
  | cons c t ih =>
    obtain ⟨hc, ht⟩ := List.ne_and_not_mem_of_not_mem_cons h
    rw [List.length_cons] at hfuel
    obtain ⟨fuel, rfl⟩ : ∃ n, fuel = n + 1 := ⟨fuel - 1, by omega⟩
    rw [unescape?, if_neg hc.symm, ih ht (by omega)]
    rfl

/-- Three marks end a block. -/
theorem scan_block_close {raw t : Text} (h : content? raw = some t) :
    scan (.block true (.char '"') raw false 0) Text.triple =
      some ([.block true t], .code false) := by
  have hone : (Mode.block true (.char '"') raw false 0).step (.char '"') =
      some ([], .block true (.char '"') (raw ++ [.char '"']) false 1) := rfl
  have htwo : (Mode.block true (.char '"') (raw ++ [.char '"']) false 1).step (.char '"') =
      some ([], .block true (.char '"') (raw ++ [.char '"'] ++ [.char '"']) false 2) := rfl
  have hraw : (raw ++ [CodePoint.char '"'] ++ [CodePoint.char '"']).take
      ((raw ++ [CodePoint.char '"'] ++ [CodePoint.char '"']).length - 2) = raw := by
    simp
  have hthree : (Mode.block true (.char '"') (raw ++ [.char '"'] ++ [.char '"']) false 2).step
      (.char '"') = some ([.block true t], .code false) := by
    show blockStep true (.char '"') (raw ++ [.char '"'] ++ [.char '"']) 2 (.char '"') = _
    rw [blockStep, if_pos rfl, if_pos rfl, hraw, h]
    rfl
  exact scan_append (scan_singleton hone) (scan_append (scan_singleton htwo) (scan_singleton hthree))

/-- A text without backslashes that ends with a line end, and in which the marks do not come three
times, is read back from between the marks. -/
theorem readsAs_triple {t : Text} (hslash : CodePoint.char '\\' ∉ t)
    (htriple : ¬Text.triple <:+: t) :
    ReadsAs (Text.triple ++ (t ++ [.char '\n']) ++ Text.triple)
      [.block true (t ++ [.char '\n'])] := by
  have hopen : scan (.code false) Text.triple =
      some ([], .block true (.char '"') [] false 0) := by
    decide
  obtain ⟨last, -, hscan⟩ := scan_block hslash 0 htriple (by decide) []
  have hfeed : (Mode.block true (.char '"') t false last).step (.char '\n') =
      some ([], .block true (.char '"') (t ++ [.char '\n']) false 0) := by
    show blockStep true (.char '"') t last (.char '\n') = _
    rw [blockStep, if_neg (by decide)]
    rfl
  have hline : CodePoint.char '\\' ∉ t ++ [.char '\n'] := by
    simpa using hslash
  have hclose : scan (.block true (.char '"') (t ++ [.char '\n']) false 0) Text.triple =
      some ([.block true (t ++ [.char '\n'])], .code false) :=
    scan_block_close (unescape?_eq_self hline (Nat.le_refl _))
  exact scan_append (scan_append hopen (scan_append hscan (scan_singleton hfeed))) hclose

end Program

end Toolsmith
