import Toolsmith.Proofs.Text.Encoding

/-!
# The order of texts

Texts are ordered by their code points, like the words of a dictionary. The order is total, so a
list of distinct texts is sorted in one way only.
-/

namespace Toolsmith.Text

/-- Texts that precede each other are the same. -/
theorem precedes_antisymm {s t : Text} (hst : precedes s t = true) (hts : precedes t s = true) :
    s = t := by
  fun_induction precedes s t with
  | case1 t =>
    cases t with
    | nil => rfl
    | cons b t => cases hts
  | case2 => cases hst
  | case3 a s b t ih =>
    simp only [precedes, Bool.or_eq_true, Bool.and_eq_true, decide_eq_true_eq, beq_iff_eq]
      at hst hts
    rcases hst with hst | ⟨hab, hst⟩
    · omega
    · have hts' : precedes t s = true := (hts.resolve_left (by omega)).2
      have hpoint : a = b := by rw [← CodePoint.ofCode_code a, hab, CodePoint.ofCode_code]
      rw [hpoint, ih hst hts']

/-- What precedes a text precedes what the text precedes. -/
theorem precedes_trans {r s t : Text} (hrs : precedes r s = true) (hst : precedes s t = true) :
    precedes r t = true := by
  induction r generalizing s t with
  | nil => rfl
  | cons a r ih =>
    cases s with
    | nil => cases hrs
    | cons b s =>
      cases t with
      | nil => cases hst
      | cons c t =>
        simp only [precedes, Bool.or_eq_true, Bool.and_eq_true, decide_eq_true_eq, beq_iff_eq]
          at hrs hst ⊢
        rcases hrs with hab | ⟨hab, hrs⟩
        · exact .inl (by rcases hst with hbc | ⟨hbc, -⟩ <;> omega)
        · rcases hst with hbc | ⟨hbc, hst⟩
          · exact .inl (by omega)
          · exact .inr ⟨hab.trans hbc, ih hrs hst⟩

/-- Of two texts one precedes the other. -/
theorem precedes_total (s t : Text) : (precedes s t || precedes t s) = true := by
  fun_induction precedes s t with
  | case1 => rfl
  | case2 => rfl
  | case3 a s b t ih =>
    rw [precedes]
    rcases Nat.lt_trichotomy a.code b.code with h | h | h
    · simp [h]
    · simpa [h] using ih
    · simp [h]

/-- Sorted texts precede each other in order. -/
theorem pairwise_mergeSort (names : List Text) :
    (names.mergeSort precedes).Pairwise fun s t => precedes s t = true := by
  apply List.pairwise_mergeSort
  · exact fun _ _ _ => precedes_trans
  · exact precedes_total

/-- Lists of distinct texts in order are the same if they have the same members. -/
theorem eq_of_pairwise {names others : List Text}
    (hnames : names.Pairwise fun s t => precedes s t = true)
    (hothers : others.Pairwise fun s t => precedes s t = true) (hnodup : names.Nodup)
    (hnodup' : others.Nodup) (h : ∀ name, name ∈ names ↔ name ∈ others) : names = others :=
  ((List.perm_ext_iff_of_nodup hnodup hnodup').mpr h).eq_of_pairwise
    (fun _ _ _ _ => precedes_antisymm) hnames hothers

/-- Lists of distinct texts with the same members are sorted alike. -/
theorem mergeSort_congr {names others : List Text} (hnodup : names.Nodup) (hnodup' : others.Nodup)
    (h : ∀ name, name ∈ names ↔ name ∈ others) :
    names.mergeSort precedes = others.mergeSort precedes := by
  refine eq_of_pairwise (pairwise_mergeSort names) (pairwise_mergeSort others)
    ((List.mergeSort_perm names precedes).nodup_iff.mpr hnodup)
    ((List.mergeSort_perm others precedes).nodup_iff.mpr hnodup') fun name => ?_
  rw [List.mem_mergeSort, List.mem_mergeSort]
  exact h name

end Toolsmith.Text
