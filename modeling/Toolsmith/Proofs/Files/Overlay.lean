import Toolsmith.Proofs.Files.Contents

/-!
# What is left whatever has been there

Activities that write files leave the same at their places, whatever has stood there. What they
leave is an overlay: it says of some places what stands there afterwards, and nothing of the others.
Overlays are put one over another, and an overlay that is put on a tree for a second time changes
nothing.
-/

namespace Toolsmith

/-- What stands at some places, whatever has stood there: an entry, or nothing at all. -/
def Overlay := Path → Option (Option Entry)

namespace Overlay

/-- An overlay that says nothing of any place. -/
def empty : Overlay :=
  fun _ => none

/-- A text in the file at a path. -/
def file (path : Path) (t : Text) : Overlay := fun place =>
  if place = path then some (some (.file (t.encode.getD []))) else none

/-- A file says nothing of other places. -/
theorem file_of_ne {path place : Path} (h : place ≠ path) (t : Text) : file path t place = none :=
  if_neg h

/-- Directories on the way to a path and at its end. -/
def way (path : Path) : Overlay := fun place =>
  if place <+: path then some (some .directory) else none

/-- A way says nothing of places that are not on it. -/
theorem way_of_not_prefix {path place : Path} (h : ¬place <+: path) : way path place = none :=
  if_neg h

/-- One overlay over another, which shows where the upper one says nothing. -/
def onto (upper lower : Overlay) : Overlay :=
  fun place => (upper place).or (lower place)

/-- An overlay has been put on one tree, which has become another. -/
def Covers (overlay : Overlay) (tree tree' : Tree) : Prop :=
  ∀ place, tree'.get? place = (overlay place).getD (tree.get? place)

variable {overlay upper lower : Overlay} {tree middle tree' : Tree}

/-- Two overlays, one over the other, say nothing of a place exactly if neither does. -/
theorem onto_eq_none {place : Path} :
    upper.onto lower place = none ↔ upper place = none ∧ lower place = none :=
  Option.or_eq_none_iff

/-- An overlay that says nothing leaves a tree as it is. -/
theorem covers_empty (tree : Tree) : empty.Covers tree tree :=
  fun _ => rfl

/-- Overlays that are put on a tree one after another lie one over another. -/
theorem Covers.trans (h : lower.Covers tree middle) (h' : upper.Covers middle tree') :
    (upper.onto lower).Covers tree tree' := by
  intro place
  rw [h' place, h place, onto]
  cases upper place with
  | none => rfl
  | some entry? => rfl

/-- An overlay that is put on a tree again changes nothing. -/
theorem Covers.again (h : overlay.Covers tree middle) (h' : overlay.Covers middle tree')
    (place : Path) : tree'.get? place = middle.get? place := by
  rw [h' place, h place]
  cases overlay place with
  | none => rfl
  | some entry? => rfl

/-- Making directories puts the way to the last of them on a tree. -/
theorem covers_of_makeDirectories {path : Path} (h : path.IsDirect)
    (hmake : tree.makeDirectories path = (tree', none)) : (way path).Covers tree tree' := by
  obtain ⟨hadds, hthere⟩ := Tree.addsWay_of_makeDirectories h hmake
  obtain ⟨⟨-, hway⟩, hlast⟩ := (Tree.isDirectory_eq_true h).mp (hthere rfl)
  intro place
  unfold way
  by_cases hplace : place <+: path
  · rw [if_pos hplace, Option.getD_some]
    by_cases heq : place = path
    · rw [heq, hlast]
    · exact hway place hplace heq
  · rw [if_neg hplace, Option.getD_none]
    exact (hadds.adds place).resolve_right fun hadd => hplace hadd.1

end Overlay

/-- Writing a text puts its file on a tree. -/
theorem Action.covers_of_writeText {w w' : World} {path : Path} (h : path.IsDirect) {t : Text}
    {u : Unit} (hwrite : Action.writeText path t w = .ok u w') :
    (Overlay.file path t).Covers w.files w'.files := by
  obtain ⟨bytes, files, hencode, hfiles, rfl⟩ := Action.writeText_eq_ok.mp hwrite
  obtain ⟨-, -, rfl⟩ := (Tree.write_eq_ok h).mp hfiles
  intro place
  rw [Tree.get?_set (Tree.isAbove_eq_false h), Overlay.file, hencode]
  split <;> rfl

end Toolsmith
