import Mathlib.Data.List.Infix
import Toolsmith.Text.Basic

/-!
# Texts in pieces

A text is cut into pieces at a separator and joined from pieces. Joining and cutting undo each other
if no piece holds the separator. Replacing one code point by two is undone by replacing the two by
the one, unless the two stood next to each other in the text before.
-/

namespace Toolsmith.Text

variable {sep a b c : CodePoint} {old new rest t : Text}

/-- A text is cut into one piece more than it has separators. -/
theorem length_splitOn (sep : CodePoint) (t : Text) :
    (splitOn sep t).length = t.count sep + 1 := by
  induction t with
  | nil => rfl
  | cons c rest ih =>
    rw [splitOn]
    split
    · rename_i hc
      rw [hc, List.count_cons_self, List.length_cons, ih]
    · rename_i hc
      rw [List.count_cons_of_ne hc, ← ih]
      split
      · rename_i hnil
        rw [hnil] at ih
        cases ih
      · rename_i piece pieces hpieces
        rw [hpieces]
        rfl

/-- A text without the separator is one piece. -/
theorem splitOn_eq_singleton (h : sep ∉ t) :
    splitOn sep t = [t] := by
  induction t with
  | nil => rfl
  | cons c t ih =>
    obtain ⟨hc, ht⟩ := List.ne_and_not_mem_of_not_mem_cons h
    rw [splitOn, if_neg (Ne.symm hc), ih ht]

/-- A text is cut at the first separator. -/
theorem splitOn_append (h : sep ∉ t) : splitOn sep (t ++ sep :: rest) = t :: splitOn sep rest := by
  induction t with
  | nil => rw [List.nil_append, splitOn, if_pos rfl]
  | cons c t ih =>
    obtain ⟨hc, ht⟩ := List.ne_and_not_mem_of_not_mem_cons h
    rw [List.cons_append, splitOn, if_neg (Ne.symm hc), ih ht]

/-- Pieces without the separator are cut again after they have been joined. -/
theorem splitOn_join {pieces : List Text} (hne : pieces ≠ []) (h : ∀ piece ∈ pieces, sep ∉ piece) :
    splitOn sep (join [sep] pieces) = pieces := by
  fun_induction join [sep] pieces with
  | case1 => exact absurd rfl hne
  | case2 piece => exact splitOn_eq_singleton (h piece (List.mem_singleton_self piece))
  | case3 piece pieces hmore ih =>
    obtain ⟨hpiece, hpieces⟩ := List.forall_mem_cons.mp h
    rw [List.append_assoc, List.singleton_append, splitOn_append hpiece, ih ?_ hpieces]
    rintro rfl
    exact hmore rfl

/-- Everything in a text after a replacement was in the text or in what it was replaced by. -/
theorem mem_replaceAfter {old new : Text} {skip : Nat} {t : Text} {c : CodePoint}
    (h : c ∈ replaceAfter old new skip t) : c ∈ t ∨ c ∈ new := by
  fun_induction replaceAfter old new skip t with
  | case1 => cases h
  | case2 skip _ rest ih => exact (ih h).imp_left (List.mem_cons_of_mem _)
  | case3 c' rest hold ih =>
    rcases List.mem_append.mp h with h | h
    · exact .inr h
    · exact (ih h).imp_left (List.mem_cons_of_mem _)
  | case4 c' rest hold ih =>
    rcases List.mem_cons.mp h with rfl | h
    · exact .inl List.mem_cons_self
    · exact (ih h).imp_left (List.mem_cons_of_mem _)

/-- What does not begin with the replaced text keeps its first code point. -/
theorem replace_cons (h : ¬old <+: c :: rest) :
    replace old new (c :: rest) = c :: replace old new rest := by
  rw [replace, replaceAfter, if_neg (by rwa [List.isPrefixOf_iff_prefix])]
  rfl

/-- A code point other than the first one of the replaced text is kept. -/
theorem replace_cons_of_ne (h : c ≠ a) :
    replace (a :: old) new (c :: rest) = c :: replace (a :: old) new rest :=
  replace_cons fun hbegins => h (List.cons_prefix_cons.mp hbegins).1.symm

/-- Code points that belong to what has been replaced are passed over. -/
theorem replaceAfter_append (passed : Text) :
    replaceAfter old new passed.length (passed ++ rest) = replace old new rest := by
  induction passed with
  | nil => rfl
  | cons c passed ih => exact ih

/-- What begins with the replaced text begins with the new one instead. -/
theorem replace_append (h : old ≠ []) :
    replace old new (old ++ rest) = new ++ replace old new rest := by
  obtain ⟨c, more, rfl⟩ := List.exists_cons_of_ne_nil h
  have hprefix : (c :: more).isPrefixOf (c :: (more ++ rest)) = true :=
    List.isPrefixOf_iff_prefix.mpr (List.prefix_append (c :: more) rest)
  rw [List.cons_append, replace, replaceAfter, if_pos hprefix]
  exact congrArg _ (replaceAfter_append more)

/-- A single code point is replaced. -/
theorem replace_one : replace [a] new (a :: rest) = new ++ replace [a] new rest :=
  replace_append (List.cons_ne_nil _ _)

/-- A code point that is replaced by others is no longer in the text. -/
theorem not_mem_replace (h : a ∉ new) : a ∉ replace [a] new t := by
  induction t with
  | nil => exact List.not_mem_nil
  | cons c rest ih =>
    by_cases hc : c = a
    · rw [hc, replace_one]
      exact List.not_mem_append h ih
    · rw [replace_cons_of_ne hc]
      exact List.not_mem_cons_of_ne_of_not_mem (Ne.symm hc) ih

/-- A code point to which another one is added everywhere is not followed by a third one. -/
theorem not_infix_replace (hab : a ≠ b) (hbc : b ≠ c) :
    ¬[a, c] <:+: replace [a] [a, b] t := by
  induction t with
  | nil => exact fun h => absurd (List.infix_nil.mp h) (List.cons_ne_nil _ _)
  | cons d rest ih =>
    by_cases hd : d = a
    · rw [hd, replace_one]
      intro h
      rcases List.infix_cons_iff.mp h with hprefix | h
      · exact hbc (List.cons_prefix_cons.mp (List.cons_prefix_cons.mp hprefix).2).1.symm
      · rcases List.infix_cons_iff.mp h with hprefix | h
        · exact hab (List.cons_prefix_cons.mp hprefix).1
        · exact ih h
    · rw [replace_cons_of_ne hd]
      intro h
      rcases List.infix_cons_iff.mp h with hprefix | h
      · exact hd (List.cons_prefix_cons.mp hprefix).1.symm
      · exact ih h

/-- A code point that is replaced by two is put back, if the two did not stand together before or
the first of the two is the code point itself. -/
theorem replace_replace (hab : a ≠ b) (h : c = a ∨ ¬[a, b] <:+: t) :
    replace [a, b] [c] (replace [c] [a, b] t) = t := by
  induction t with
  | nil => rfl
  | cons d rest ih =>
    have hrest : replace [a, b] [c] (replace [c] [a, b] rest) = rest :=
      ih (h.imp_right fun hnone hwithin => hnone (hwithin.trans (List.suffix_cons _ _).isInfix))
    by_cases hd : d = c
    · rw [hd, replace_one]
      exact (replace_append (List.cons_ne_nil _ _)).trans (congrArg _ hrest)
    · rw [replace_cons_of_ne hd, replace_cons, hrest]
      -- what begins with the two begins with them already before the replacement
      intro hprefix
      obtain ⟨rfl, hnext⟩ := List.cons_prefix_cons.mp hprefix
      have hnone : ¬[a, b] <:+: a :: rest := h.resolve_left fun hca => hd hca.symm
      cases rest with
      | nil => exact absurd (List.prefix_nil.mp hnext) (List.cons_ne_nil _ _)
      | cons e rest =>
        by_cases he : e = c
        · rw [he, replace_one] at hnext
          exact hab (List.cons_prefix_cons.mp hnext).1.symm
        · rw [replace_cons_of_ne he] at hnext
          obtain ⟨rfl, -⟩ := List.cons_prefix_cons.mp hnext
          exact hnone (List.prefix_append [a, b] rest).isInfix

end Toolsmith.Text
