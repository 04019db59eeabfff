import Mathlib.Data.List.TakeWhile
import Toolsmith.Document.Template

/-!
# Names between braces

The placeholders of a path are found from left to right. One begins wherever an opening brace is
followed by a name that is not empty and by the first closing brace after it; the search goes on
behind that brace. The pieces of a template are cut in exactly this way.
-/

namespace Toolsmith.Template

/-- A text that begins with the placeholder of a name, after which `rest` comes. The name is not
empty and ends at the first closing brace. -/
def Begins (t name rest : Text) : Prop :=
  t = .char '\x7b' :: (name ++ .char '\x7d' :: rest) ∧ name ≠ [] ∧ CodePoint.char '\x7d' ∉ name

/-- The names of placeholders that are found in a text from left to right. -/
inductive Finds : Text → List Text → Prop
  | nil : Finds [] []
  | pass {c : CodePoint} {rest : Text} {names : List Text}
      (hnone : ∀ name after, ¬Begins (c :: rest) name after) (hrest : Finds rest names) :
      Finds (c :: rest) names
  | take {t name rest : Text} {names : List Text} (hbegins : Begins t name rest)
      (hrest : Finds rest names) : Finds t (name :: names)

/-- A name ends at the first closing brace. -/
theorem enclosed?_eq_some {t name : Text} :
    enclosed? t = some name ↔
      ∃ rest, t = name ++ .char '\x7d' :: rest ∧ CodePoint.char '\x7d' ∉ name := by
  unfold enclosed?
  simp only [Option.ite_none_right_eq_some, Option.some.injEq]
  constructor
  · rintro ⟨hlength, rfl⟩
    have hsplit := List.takeWhile_append_dropWhile (p := fun c => c != .char '\x7d') (l := t)
    cases hrest : t.dropWhile fun c => c != .char '\x7d' with
    | nil =>
      rw [hrest, List.append_nil] at hsplit
      rw [hsplit] at hlength
      exact absurd hlength (Nat.lt_irrefl _)
    | cons c rest =>
      have hc : c = .char '\x7d' := by
        have hhead := List.head?_dropWhile_not (fun c => c != CodePoint.char '\x7d') t
        simpa [hrest] using hhead
      rw [hrest, hc] at hsplit
      exact ⟨rest, hsplit.symm, fun hmem => by simpa using List.mem_takeWhile_imp hmem⟩
  · rintro ⟨rest, rfl, hname⟩
    have hall : ∀ c ∈ name, (c != CodePoint.char '\x7d') = true := fun c hc =>
      bne_iff_ne.mpr fun heq => hname (heq ▸ hc)
    rw [List.takeWhile_append_of_pos hall]
    simp

/-- The name of a placeholder at the beginning of a text is the one that is cut out. -/
theorem begins_iff {c : CodePoint} {rest name : Text} :
    (∃ after, Begins (c :: rest) name after) ↔
      c = .char '\x7b' ∧ (enclosed? rest).filter (fun name => !name.isEmpty) = some name := by
  simp only [Begins, List.cons.injEq, Option.filter_eq_some_iff, enclosed?_eq_some,
    Bool.not_eq_true', List.isEmpty_eq_false_iff]
  constructor
  · rintro ⟨after, ⟨hc, hrest⟩, hnil, hname⟩
    exact ⟨hc, ⟨after, hrest, hname⟩, hnil⟩
  · rintro ⟨hc, ⟨after, hrest, hname⟩, hnil⟩
    exact ⟨after, ⟨hc, hrest⟩, hnil, hname⟩

/-- Code points of the last placeholder are passed over. -/
theorem scan_eq_drop (accept : Text → Bool) (skip : Nat) (t : Text) :
    scan accept skip t = scan accept 0 (t.drop skip) := by
  induction t generalizing skip with
  | nil => simp [scan]
  | cons c rest ih =>
    cases skip with
    | zero => rfl
    | succ skip =>
      rw [scan, List.drop_succ_cons]
      exact ih skip

/-- A placeholder at the beginning of a path is its first piece. -/
theorem pieces_of_begins {t name rest : Text} (h : Begins t name rest) :
    pieces t = .placeholder name :: pieces rest := by
  have hfirst := (begins_iff.mp ⟨rest, h.1 ▸ h⟩).2
  obtain ⟨rfl, -, -⟩ := h
  rw [pieces, scan, if_pos rfl, hfirst]
  simp only
  rw [scan_eq_drop, List.drop_length_add_append]
  rfl

/-- A code point that begins no placeholder is a piece of its own. -/
theorem pieces_of_not_begins {c : CodePoint} {rest : Text}
    (h : ∀ name after, ¬Begins (c :: rest) name after) :
    pieces (c :: rest) = .point c :: pieces rest := by
  rw [pieces, scan]
  split
  · rename_i hc
    cases hfirst : (enclosed? rest).filter fun name => !name.isEmpty with
    | none => rfl
    | some name =>
      obtain ⟨after, hbegins⟩ := begins_iff.mpr ⟨hc, hfirst⟩
      exact absurd hbegins (h name after)
  · rfl

/-- The name of the placeholder at the beginning of a path is the first name. -/
theorem placeholders_of_begins {t name rest : Text} (h : Begins t name rest) :
    placeholders t = name :: placeholders rest := by
  rw [placeholders, pieces_of_begins h]
  rfl

/-- A code point that begins no placeholder has no name. -/
theorem placeholders_of_not_begins {c : CodePoint} {rest : Text}
    (h : ∀ name after, ¬Begins (c :: rest) name after) :
    placeholders (c :: rest) = placeholders rest := by
  rw [placeholders, pieces_of_not_begins h]
  rfl

/-- A path is empty, or it begins with a code point that begins no placeholder, or with a
placeholder; what holds of all three, if of the rest, holds of every path. -/
theorem path_induction {P : Text → Prop} (nil : P [])
    (pass : ∀ c rest, (∀ name after, ¬Begins (c :: rest) name after) → P rest → P (c :: rest))
    (take : ∀ t name rest, Begins t name rest → P rest → P t) (path : Text) : P path := by
  induction hlength : path.length using Nat.strongRecOn generalizing path with
  | ind length ih =>
    subst hlength
    cases path with
    | nil => exact nil
    | cons c rest =>
      by_cases hbegins : ∃ name after, Begins (c :: rest) name after
      · obtain ⟨name, after, hbegins⟩ := hbegins
        refine take _ name after hbegins (ih after.length ?_ after rfl)
        rw [hbegins.1]
        simp
        omega
      · have hnone : ∀ name after, ¬Begins (c :: rest) name after := fun name after h =>
          hbegins ⟨name, after, h⟩
        exact pass c rest hnone (ih rest.length (Nat.lt_succ_self _) rest rfl)

/-- The placeholders of a path are the names that are found in it. -/
theorem finds_placeholders (path : Text) : Finds path (placeholders path) := by
  induction path using path_induction with
  | nil => exact .nil
  | pass c rest hnone ih =>
    rw [placeholders_of_not_begins hnone]
    exact .pass hnone ih
  | take t name rest hbegins ih =>
    rw [placeholders_of_begins hbegins]
    exact .take hbegins ih

/-- A piece as it stands in a path. -/
def Piece.text : Piece → Text
  | point c => [c]
  | placeholder name => .char '\x7b' :: name ++ [.char '\x7d']

/-- The pieces of a path make up the path. -/
theorem flatMap_text_pieces (path : Text) : (pieces path).flatMap Piece.text = path := by
  induction path using path_induction with
  | nil => rfl
  | pass c rest hnone ih =>
    rw [pieces_of_not_begins hnone, List.flatMap_cons, ih]
    rfl
  | take t name rest hbegins ih =>
    rw [pieces_of_begins hbegins, List.flatMap_cons, ih, hbegins.1]
    simp [Piece.text]

/-- No other names are found in a path. -/
theorem Finds.eq_placeholders {path : Text} {names : List Text} (h : Finds path names) :
    names = placeholders path := by
  induction h with
  | nil => rfl
  | pass hnone _ ih => rw [placeholders_of_not_begins hnone, ih]
  | take hbegins _ ih => rw [placeholders_of_begins hbegins, ih]

end Toolsmith.Template
