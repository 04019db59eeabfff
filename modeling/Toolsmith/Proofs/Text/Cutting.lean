import Mathlib.Data.List.DropRight
import Mathlib.Data.List.TakeWhile
import Toolsmith.Text.Basic

/-!
# Texts that are cut

A text is cut where its code points stop to have a property, from the front or from the end. What is
taken and what is left make up the text, and the cut lies before the first code point without the
property.
-/

namespace Toolsmith.Text

variable {p : CodePoint → Bool} {t rest : Text}

/-- What is taken while it can be is all of it, if what comes behind cannot be. -/
theorem takeWhile_append_of_head (h : ∀ c ∈ t, p c = true)
    (hrest : ∀ c ∈ rest.head?, p c = false) : (t ++ rest).takeWhile p = t := by
  rw [List.takeWhile_append_of_pos h]
  cases rest with
  | nil => exact List.append_nil t
  | cons c rest =>
    rw [List.takeWhile_cons_of_neg (by simp [hrest c rfl]), List.append_nil]

/-- What is left behind what is taken while it can be begins with what cannot. -/
theorem head_of_dropWhile (t : Text) : ∀ c ∈ (t.dropWhile p).head?, p c = false := by
  intro c hc
  have hhead := List.head?_dropWhile_not p t
  rw [Option.mem_def.mp hc] at hhead
  simpa using hhead

/-- What is left behind what is taken is what is dropped. -/
theorem drop_takeWhile (p : CodePoint → Bool) (t : Text) :
    t.drop (t.takeWhile p).length = t.dropWhile p := by
  have hsplit := List.takeWhile_append_dropWhile (p := p) (l := t)
  calc t.drop (t.takeWhile p).length
      = (t.takeWhile p ++ t.dropWhile p).drop (t.takeWhile p).length := by rw [hsplit]
    _ = t.dropWhile p := List.drop_left

/-- A text includes what stands in it. -/
theorem includes_eq_true {part t : Text} : includes part t = true ↔ part <:+: t := by
  induction t with
  | nil => rw [includes, List.isEmpty_iff, List.infix_nil]
  | cons c rest ih =>
    rw [includes, Bool.or_eq_true, List.isPrefixOf_iff_prefix, ih, List.infix_cons_iff]

/-- Dropping code points at the end leaves a beginning. -/
theorem trimEnd_prefix (p : CodePoint → Bool) (t : Text) : trimEnd p t <+: t := by
  have hsuffix := List.dropWhile_suffix (l := t.reverse) p
  unfold trimEnd
  rwa [← List.reverse_suffix, List.reverse_reverse]

/-- What is dropped at the end has the property. -/
theorem exists_trimEnd_append (p : CodePoint → Bool) (t : Text) :
    ∃ dropped, t = trimEnd p t ++ dropped ∧ ∀ c ∈ dropped, p c = true :=
  ⟨t.rtakeWhile p, List.rdropWhile_append_rtakeWhile.symm, fun _ => List.mem_rtakeWhile_imp⟩

/-- What is left after dropping code points at the end does not end with one that can be dropped. -/
theorem getLast_of_trimEnd (t : Text) : ∀ c ∈ (trimEnd p t).getLast?, p c = false := by
  intro c hc
  obtain ⟨hkept, rfl⟩ := List.mem_getLast?_eq_getLast hc
  exact Bool.eq_false_iff.mpr (List.rdropWhile_last_not p t hkept)

/-- What is left after dropping code points at the end begins as before. -/
theorem head?_trimEnd (h : trimEnd p t ≠ []) : (trimEnd p t).head? = t.head? := by
  obtain ⟨dropped, hdropped⟩ := trimEnd_prefix p t
  obtain ⟨c, rest, hcons⟩ := List.exists_cons_of_ne_nil h
  rw [hcons] at hdropped ⊢
  rw [← hdropped]
  rfl

/-- A code point that is kept keeps a text from vanishing when others are dropped at the end. -/
theorem trimEnd_ne_nil {c : CodePoint} (hc : c ∈ t) (h : p c = false) : trimEnd p t ≠ [] := by
  intro hnil
  rw [trimEnd, List.reverse_eq_nil_iff, List.dropWhile_eq_nil_iff] at hnil
  rw [hnil c (List.mem_reverse.mpr hc)] at h
  cases h

end Toolsmith.Text
