import Mathlib.Data.List.Infix
import Mathlib.Data.List.Nodup
import Toolsmith.Files.Tree

/-!
# Where paths lead

A path without steps upwards leads to the place of the same names, if the directories on the way
are there. Any other path that leads to a directory may be followed by a name, which leads to the
place of the directory and the name. Where a path leads to depends on nothing but directories.
-/

namespace Toolsmith

namespace Path

/-- A path that leads downwards only: it has no step upwards and does not begin at the top. -/
def IsDirect (path : Path) : Prop :=
  ∀ name ∈ path, name ≠ up ∧ name ≠ top

/-- A path that can be handed to a file system with so much room, without a name that is too
long. -/
def IsSound (path : Path) (room : Nat) : Prop :=
  path.textFault? room = none ∧ ∀ name ∈ path, isLongName name = false

/-- A path that can be handed to a file system can be handed to one with more room. -/
theorem IsSound.mono {path : Path} {room room' : Nat} (h : path.IsSound room)
    (hroom : room ≤ room') : path.IsSound room' := by
  obtain ⟨hfault, hnames⟩ := h
  refine ⟨?_, hnames⟩
  unfold textFault? at hfault ⊢
  cases hbytes : nameBytes? path.text with
  | none =>
    rw [hbytes] at hfault
    cases hfault
  | some bytes =>
    rw [hbytes] at hfault
    simp only at hfault ⊢
    split at hfault
    · cases hfault
    · rename_i hzero
      split at hfault
      · cases hfault
      · rename_i hlong
        rw [if_neg hzero, if_neg fun h => hlong (by omega)]

/-- A beginning of a direct path is direct. -/
theorem IsDirect.of_append {path rest : Path} (h : IsDirect (path ++ rest)) : IsDirect path :=
  fun name hname => h name (List.mem_append_left _ hname)

/-- A direct path goes on downwards by a name. -/
theorem IsDirect.concat {path : Path} (h : IsDirect path) {name : Text} (hup : name ≠ up)
    (htop : name ≠ top) : IsDirect (path ++ [name]) := by
  intro other hother
  rcases List.mem_append.mp hother with hother | hother
  · exact h other hother
  · rw [List.mem_singleton.mp hother]
    exact ⟨hup, htop⟩

end Path

namespace Tree

/-- The place of a direct path is not above the working directory. -/
theorem isAbove_eq_false {place : Path} (h : place.IsDirect) : isAbove place = false := by
  unfold isAbove
  cases place with
  | nil => rfl
  | cons name rest =>
    have hname := h name List.mem_cons_self
    simp [hname.1, hname.2]

/-- No place in a directory below the working directory is above it. -/
theorem isAbove_concat {directory : Path} (h : directory.IsDirect) (hne : directory ≠ [])
    (name : Text) : isAbove (directory ++ [name]) = false := by
  unfold isAbove
  cases directory with
  | nil => exact absurd rfl hne
  | cons first rest =>
    have hfirst := (h first List.mem_cons_self).1
    simp [hfirst]

/-- After an entry is put at a place, it stands there, and all other places are as before. -/
theorem get?_set {place : Path} (hplace : isAbove place = false) (tree : Tree) {entry : Entry}
    (h : tree.Admits place entry) (other : Path) :
    (tree.set place entry h).get? other =
      if other = place then some entry else tree.get? other := by
  by_cases heq : other = place
  · rw [if_pos heq, heq]
    exact Entries.get?_set_self hplace tree.entries entry
  · rw [if_neg heq]
    exact Entries.get?_set_of_ne heq tree.entries entry

/-- After an entry is taken away, nothing stands there, and all other places are as before. -/
theorem get?_erase {place : Path} (hplace : isAbove place = false) (tree : Tree)
    (h : tree.get? place ≠ some .directory) (other : Path) :
    (tree.erase place h).get? other = if other = place then none else tree.get? other := by
  by_cases heq : other = place
  · rw [if_pos heq, heq]
    exact Entries.get?_erase_self hplace tree.entries
  · rw [if_neg heq]
    exact Entries.get?_erase_of_ne heq tree.entries

/-- No directory stands where a file can be put. -/
theorem Admits.free {tree : Tree} {place : Path} {bytes : Bytes}
    (h : tree.Admits place (.file bytes)) : tree.get? place ≠ some .directory :=
  fun hplace => Entry.noConfusion (h.keeps hplace)

/-- An entry can be put at a place to which a path leads, unless it takes the place of a
directory. -/
theorem admits_of_locate {tree : Tree} {path place : Path} {entry : Entry}
    (hlocate : tree.locate path = .ok place)
    (hplace : tree.get? place = some .directory → entry = .directory) : tree.Admits place entry :=
  ⟨get?_above_of_locate hlocate, hplace⟩

/-- The directories on the way to a path are there. -/
def HasWay (tree : Tree) (path : Path) : Prop :=
  ∀ before, before <+: path → before ≠ path → tree.get? before = some .directory

/-- Steps downwards lead to the place of their names, from directory to directory. -/
theorem walk_eq_ok {tree : Tree} {place there : Path} {names : List Text}
    (h : Path.IsDirect names) :
    tree.walk place names = .ok there ↔ there = place ++ names ∧
      (∀ name ∈ names, Path.isLongName name = false) ∧
      ∀ before, before <+: names → before ≠ names →
        tree.get? (place ++ before) = some .directory := by
  induction names generalizing place with
  | nil =>
    rw [walk, Except.ok.injEq, List.append_nil]
    constructor
    · rintro rfl
      exact ⟨rfl, by simp, fun before h hne => absurd (List.prefix_nil.mp h) hne⟩
    · exact fun h => h.1.symm
  | cons name names ih =>
    obtain ⟨hup, -⟩ := h name List.mem_cons_self
    have hnames : Path.IsDirect names := fun other hother => h other (List.mem_cons_of_mem _ hother)
    have hstep : tree.walk place (name :: names) = .ok there ↔
        (tree.get? place = some .directory ∧ Path.isLongName name = false) ∧
          tree.walk (place ++ [name]) names = .ok there := by
      rw [walk]
      unfold step
      cases tree.get? place with
      | none => simp
      | some entry =>
        cases entry with
        | file bytes => simp
        | directory => cases Path.isLongName name <;> simp [hup]
    rw [hstep, ih hnames, List.forall_mem_cons, List.append_assoc, List.singleton_append]
    constructor
    · rintro ⟨⟨hplace, hlong⟩, rfl, hnames, hway⟩
      refine ⟨rfl, ⟨hlong, hnames⟩, fun before hbefore hne => ?_⟩
      rcases List.prefix_cons_iff.mp hbefore with rfl | ⟨rest, rfl, hrest⟩
      · rwa [List.append_nil]
      · have hget := hway rest hrest (fun heq => hne (heq ▸ rfl))
        rwa [List.append_assoc, List.singleton_append] at hget
    · rintro ⟨rfl, ⟨hlong, hnames⟩, hway⟩
      have hplace := hway [] (List.nil_prefix) (List.cons_ne_nil _ _).symm
      rw [List.append_nil] at hplace
      refine ⟨⟨hplace, hlong⟩, rfl, hnames, fun before hbefore hne => ?_⟩
      rw [List.append_assoc, List.singleton_append]
      exact hway (name :: before) (List.cons_prefix_cons.mpr ⟨rfl, hbefore⟩)
        fun heq => hne (List.cons.inj heq).2

/-- Steps lead to the same place where the same entries stand on the way. -/
theorem walk_congr {tree tree' : Tree} {place : Path} {names : List Text}
    (h : ∀ before, before <+: names → tree'.get? (place ++ before) = tree.get? (place ++ before))
    (hdirect : Path.IsDirect names) : tree'.walk place names = tree.walk place names := by
  induction names generalizing place with
  | nil => rfl
  | cons name names ih =>
    have hup := (hdirect name List.mem_cons_self).1
    have hnames : Path.IsDirect names := fun other hother =>
      hdirect other (List.mem_cons_of_mem _ hother)
    have hplace := h [] List.nil_prefix
    rw [List.append_nil] at hplace
    have hrest : tree'.walk (place ++ [name]) names = tree.walk (place ++ [name]) names := by
      refine ih (fun before hbefore => ?_) hnames
      rw [List.append_assoc, List.singleton_append]
      exact h (name :: before) (List.cons_prefix_cons.mpr ⟨rfl, hbefore⟩)
    unfold walk step
    rw [hplace, if_neg hup]
    cases tree.get? place with
    | none => rfl
    | some entry =>
      cases entry with
      | file bytes => rfl
      | directory =>
        cases Path.isLongName name with
        | true => rfl
        | false => exact hrest

/-- A direct path leads to the place of the same names. -/
theorem locate_eq_ok {tree : Tree} {path place : Path} (h : path.IsDirect) :
    tree.locate path = .ok place ↔ place = path ∧ path.IsSound tree.room ∧ tree.HasWay path := by
  have hhead : path.head? ≠ some Path.top := fun hhead => by
    cases path with
    | nil => cases hhead
    | cons name rest => exact (h name List.mem_cons_self).2 (Option.some.inj hhead)
  unfold locate Path.IsSound HasWay
  cases path.textFault? tree.room with
  | some fault => simp
  | none => simp only [if_neg hhead, walk_eq_ok h, List.nil_append, true_and]

/-- A path leads to a place exactly under a condition. -/
def Locates (tree : Tree) (path place : Path) (condition : Prop) : Prop :=
  (tree.locate path = .ok place ∧ condition) ∨
    (∃ fault, tree.locate path = .error fault) ∧ ¬condition

namespace Locates

variable {tree tree' : Tree} {path place : Path} {condition : Prop} {bytes : Bytes} {entry : Entry}

/-- A file is read if a path leads to it. -/
theorem read_eq_ok (h : tree.Locates path place condition) :
    tree.read path = .ok bytes ↔ condition ∧ tree.get? place = some (.file bytes) := by
  unfold read
  rcases h with ⟨hlocate, hcondition⟩ | ⟨⟨fault, hlocate⟩, hcondition⟩
  · rw [hlocate]
    simp only [hcondition, true_and]
    cases tree.get? place with
    | none => simp
    | some entry => cases entry <;> simp
  · rw [hlocate]
    simp [hcondition]

/-- A file is written if a path leads to a place where no directory stands. -/
theorem write_eq_ok (h : tree.Locates path place condition) :
    tree.write path bytes = .ok tree' ↔
      condition ∧ ∃ hplace : tree.Admits place (.file bytes), tree.set place _ hplace = tree' := by
  unfold write
  rcases h with ⟨hlocate, hcondition⟩ | ⟨⟨fault, hlocate⟩, hcondition⟩
  · split
    · rename_i hfault
      rw [hlocate] at hfault
      cases hfault
    · rename_i there hthere
      obtain rfl := Except.ok.inj (hlocate.symm.trans hthere)
      split
      · rename_i hdirectory
        exact ⟨nofun, fun ⟨_, hplace, _⟩ => absurd hdirectory hplace.free⟩
      · rename_i hfree
        simp only [hcondition, true_and, Except.ok.injEq]
        exact ⟨fun heq => ⟨_, heq⟩, fun ⟨_, heq⟩ => heq⟩
  · split
    · simp [hcondition]
    · rename_i hthere
      rw [hlocate] at hthere
      cases hthere

/-- A file can be written exactly if a path leads to a place where no directory stands. -/
theorem write_returns_iff (h : tree.Locates path place condition) :
    (∃ tree', tree.write path bytes = .ok tree') ↔
      condition ∧ tree.get? place ≠ some .directory := by
  constructor
  · rintro ⟨tree', hwrite⟩
    obtain ⟨hcondition, hplace, -⟩ := h.write_eq_ok.mp hwrite
    exact ⟨hcondition, hplace.free⟩
  · rintro ⟨hcondition, hfree⟩
    rcases h with ⟨hlocate, -⟩ | ⟨-, hnot⟩
    · have hplace : tree.Admits place (.file bytes) :=
        admits_of_locate hlocate fun h => absurd h hfree
      exact ⟨_, write_eq_ok (.inl ⟨hlocate, hcondition⟩) |>.mpr ⟨hcondition, hplace, rfl⟩⟩
    · exact absurd hcondition hnot

/-- A file is taken away if a path leads to one. -/
theorem remove_eq_ok (h : tree.Locates path place condition) :
    tree.remove path = .ok tree' ↔ condition ∧
      (∃ bytes, tree.get? place = some (.file bytes)) ∧
        ∃ hplace, tree.erase place hplace = tree' := by
  unfold remove
  rcases h with ⟨hlocate, hcondition⟩ | ⟨⟨fault, hlocate⟩, hcondition⟩
  · rw [hlocate]
    simp only [hcondition, true_and]
    split
    · rename_i hfile
      rw [Except.ok.injEq]
      exact ⟨fun heq => ⟨⟨_, hfile⟩, _, heq⟩, fun ⟨_, _, heq⟩ => heq⟩
    · rename_i hdirectory
      exact ⟨nofun, fun ⟨_, hplace, _⟩ => absurd hdirectory hplace⟩
    · rename_i hnone
      exact ⟨nofun, fun ⟨⟨_, hfile⟩, _⟩ => by rw [hnone] at hfile; cases hfile⟩
  · rw [hlocate]
    simp [hcondition]

/-- A file can be taken away exactly if a path leads to one. -/
theorem remove_returns_iff (h : tree.Locates path place condition) :
    (∃ tree', tree.remove path = .ok tree') ↔
      condition ∧ ∃ bytes, tree.get? place = some (.file bytes) := by
  simp only [h.remove_eq_ok]
  constructor
  · rintro ⟨_, hcondition, hfile, -⟩
    exact ⟨hcondition, hfile⟩
  · rintro ⟨hcondition, bytes, hfile⟩
    exact ⟨_, hcondition, ⟨bytes, hfile⟩, ne_directory_of_file hfile, rfl⟩

/-- One directory is made if a path leads to a place where nothing stands. -/
theorem makeDirectory_eq_ok (h : tree.Locates path place condition) :
    tree.makeDirectory path = .ok tree' ↔ condition ∧ tree.get? place = none ∧
      ∃ hplace : tree.Admits place .directory, tree.set place _ hplace = tree' := by
  unfold makeDirectory
  rcases h with ⟨hlocate, hcondition⟩ | ⟨⟨fault, hlocate⟩, hcondition⟩
  · split
    · rename_i hfault
      rw [hlocate] at hfault
      cases hfault
    · rename_i there hthere
      obtain rfl := Except.ok.inj (hlocate.symm.trans hthere)
      split
      · rename_i hsome
        exact ⟨nofun, fun ⟨_, hnone, _⟩ => by rw [hnone] at hsome; cases hsome⟩
      · rename_i hnone
        simp only [hcondition, Option.not_isSome_iff_eq_none.mp hnone, true_and, Except.ok.injEq]
        exact ⟨fun heq => ⟨_, heq⟩, fun ⟨_, heq⟩ => heq⟩
  · split
    · simp [hcondition]
    · rename_i hthere
      rw [hlocate] at hthere
      cases hthere

/-- A path leads to what stands at its place. -/
theorem find?_eq_some (h : tree.Locates path place condition) :
    tree.find? path = .ok (some entry) ↔ condition ∧ tree.get? place = some entry := by
  unfold find?
  rcases h with ⟨hlocate, hcondition⟩ | ⟨⟨fault, hlocate⟩, hcondition⟩
  · rw [hlocate]
    simp [hcondition]
  · rw [hlocate]
    simp only [hcondition, false_and, iff_false]
    cases fault <;> exact nofun

/-- A path leads to a file exactly if it leads to a place where one stands. -/
theorem isFile_eq_true (h : tree.Locates path place condition) :
    tree.isFile path = true ↔ condition ∧ ∃ bytes, tree.get? place = some (.file bytes) := by
  have hfile : tree.isFile path = true ↔ ∃ bytes, tree.find? path = .ok (some (.file bytes)) := by
    unfold isFile
    split <;> simp_all
  simp only [hfile, h.find?_eq_some, exists_and_left]

/-- A path leads to a directory exactly if it leads to a place where one stands. -/
theorem isDirectory_eq_true (h : tree.Locates path place condition) :
    tree.isDirectory path = true ↔ condition ∧ tree.get? place = some .directory := by
  have hdirectory : tree.isDirectory path = true ↔ tree.find? path = .ok (some .directory) := by
    unfold isDirectory
    split <;> simp_all
  rw [hdirectory, h.find?_eq_some]

/-- A path leads to anything exactly if something stands at its place. -/
theorem exists?_eq_ok_true (h : tree.Locates path place condition) :
    tree.exists? path = .ok true ↔ condition ∧ (tree.get? place).isSome = true := by
  have hexists : tree.exists? path = .ok true ↔ ∃ entry, tree.find? path = .ok (some entry) := by
    unfold exists?
    cases tree.find? path <;> simp [Except.map, Option.isSome_iff_exists]
  simp only [hexists, h.find?_eq_some, exists_and_left, Option.isSome_iff_exists]

end Locates

/-- A direct path leads to its place, or it fails because the file system does not take it or a
directory on the way is not there. -/
theorem locate_direct (tree : Tree) {path : Path} (h : path.IsDirect) :
    tree.Locates path path (path.IsSound tree.room ∧ tree.HasWay path) := by
  unfold Locates
  cases hlocate : tree.locate path with
  | ok place =>
    obtain ⟨rfl, hway⟩ := (locate_eq_ok h).mp hlocate
    exact .inl ⟨rfl, hway⟩
  | error fault =>
    refine .inr ⟨⟨fault, rfl⟩, fun hway => ?_⟩
    rw [(locate_eq_ok h).mpr ⟨rfl, hway⟩] at hlocate
    cases hlocate

/-- A file is read where it stands. -/
theorem read_eq_ok {tree : Tree} {path : Path} {bytes : Bytes} (h : path.IsDirect) :
    tree.read path = .ok bytes ↔
      (path.IsSound tree.room ∧ tree.HasWay path) ∧ tree.get? path = some (.file bytes) :=
  (locate_direct tree h).read_eq_ok

/-- Where a file is read, no directory stands. -/
theorem ne_directory_of_read {tree : Tree} {path : Path} {bytes : Bytes} (hpath : path.IsDirect)
    (h : tree.read path = .ok bytes) : tree.get? path ≠ some .directory :=
  ne_directory_of_file ((read_eq_ok hpath).mp h).2

/-- A file is written where no directory stands. -/
theorem write_eq_ok {tree tree' : Tree} {path : Path} {bytes : Bytes} (h : path.IsDirect) :
    tree.write path bytes = .ok tree' ↔ (path.IsSound tree.room ∧ tree.HasWay path) ∧
      ∃ hplace : tree.Admits path (.file bytes), tree.set path _ hplace = tree' :=
  (locate_direct tree h).write_eq_ok

/-- A file is taken away where one stands. -/
theorem remove_eq_ok {tree tree' : Tree} {path : Path} (h : path.IsDirect) :
    tree.remove path = .ok tree' ↔ (path.IsSound tree.room ∧ tree.HasWay path) ∧
      (∃ bytes, tree.get? path = some (.file bytes)) ∧ ∃ hplace, tree.erase path hplace = tree' :=
  (locate_direct tree h).remove_eq_ok

/-- One directory is made where nothing stands. -/
theorem makeDirectory_eq_ok {tree tree' : Tree} {path : Path} (h : path.IsDirect) :
    tree.makeDirectory path = .ok tree' ↔ (path.IsSound tree.room ∧ tree.HasWay path) ∧
      tree.get? path = none ∧
        ∃ hplace : tree.Admits path .directory, tree.set path _ hplace = tree' :=
  (locate_direct tree h).makeDirectory_eq_ok

/-- A question for a direct path is answered by what stands at its place, if it has a way. -/
theorem exists?_of_hasWay {tree : Tree} {path : Path} (h : path.IsDirect)
    (hway : path.IsSound tree.room ∧ tree.HasWay path) :
    tree.exists? path = .ok (tree.get? path).isSome := by
  unfold exists? find?
  rw [(locate_eq_ok h).mpr ⟨rfl, hway⟩]
  rfl

/-- A path that has no way leads to nothing. -/
theorem exists?_eq_ok_true {tree : Tree} {path : Path} (h : path.IsDirect) :
    tree.exists? path = .ok true ↔
      (path.IsSound tree.room ∧ tree.HasWay path) ∧ (tree.get? path).isSome = true :=
  (locate_direct tree h).exists?_eq_ok_true

/-- A direct path leads to a directory exactly if one stands at its place and it has a way. -/
theorem isDirectory_eq_true {tree : Tree} {path : Path} (h : path.IsDirect) :
    tree.isDirectory path = true ↔
      (path.IsSound tree.room ∧ tree.HasWay path) ∧ tree.get? path = some .directory :=
  (locate_direct tree h).isDirectory_eq_true

/-- A step leads from a directory to the one above, or to a name in it. -/
theorem step_eq_ok {tree : Tree} {place there : Path} {name : Text} :
    tree.step place name = .ok there ↔ tree.get? place = some .directory ∧
      (if name = Path.up then .ok (above place)
        else if Path.isLongName name then .error .longName
        else .ok (place ++ [name]) : Except Fault Path) = .ok there := by
  rw [step]
  cases tree.get? place with
  | none => simp
  | some entry => cases entry <;> simp

/-- One tree keeps the directories and the room of another. -/
structure Keeps (tree tree' : Tree) : Prop where
  room : tree'.room = tree.room
  directory : ∀ place, tree.get? place = some .directory → tree'.get? place = some .directory

/-- A tree keeps what it has. -/
theorem Keeps.refl (tree : Tree) : Keeps tree tree :=
  ⟨rfl, fun _ => id⟩

/-- What is kept once and again is kept. -/
theorem Keeps.trans {tree tree' tree'' : Tree} (h : Keeps tree tree') (h' : Keeps tree' tree'') :
    Keeps tree tree'' :=
  ⟨h'.room.trans h.room, fun place hplace => h'.directory place (h.directory place hplace)⟩

/-- Putting an entry at a place keeps directories and room. -/
theorem keeps_set {tree : Tree} {place : Path} {entry : Entry} (h : tree.Admits place entry) :
    Keeps tree (tree.set place entry h) :=
  ⟨rfl, fun _ => Entries.directory_set h.keeps⟩

/-- Taking an entry away keeps directories and room. -/
theorem keeps_erase {tree : Tree} {place : Path} (h : tree.get? place ≠ some .directory) :
    Keeps tree (tree.erase place h) :=
  ⟨rfl, fun _ => Entries.directory_erase h⟩

/-- Steps lead where they led if no directory has gone. -/
theorem Keeps.walk {tree tree' : Tree} (h : Keeps tree tree') {names : List Text}
    {place there : Path} (hwalk : tree.walk place names = .ok there) :
    tree'.walk place names = .ok there := by
  induction names generalizing place with
  | nil => exact hwalk
  | cons name names ih =>
    rw [Tree.walk] at hwalk ⊢
    cases hstep : tree.step place name with
    | error fault =>
      rw [hstep] at hwalk
      cases hwalk
    | ok middle =>
      obtain ⟨hplace, hname⟩ := step_eq_ok.mp hstep
      rw [hstep] at hwalk
      rw [step_eq_ok.mpr ⟨h.directory place hplace, hname⟩]
      exact ih hwalk

/-- A path leads where it led if no directory has gone. -/
theorem Keeps.locate {tree tree' : Tree} (h : Keeps tree tree') {path place : Path}
    (hlocate : tree.locate path = .ok place) : tree'.locate path = .ok place := by
  unfold Tree.locate at hlocate ⊢
  rw [h.room]
  cases hfault : path.textFault? tree.room with
  | some fault =>
    rw [hfault] at hlocate
    cases hlocate
  | none =>
    rw [hfault] at hlocate
    by_cases hhead : path.head? = some Path.top
    · simp only [if_pos hhead] at hlocate ⊢
      exact h.walk hlocate
    · simp only [if_neg hhead] at hlocate ⊢
      exact h.walk hlocate

/-- A path that leads to a directory leads to a place where it stands. -/
theorem isDirectory_iff {tree : Tree} {path : Path} :
    tree.isDirectory path = true ↔
      ∃ place, tree.locate path = .ok place ∧ tree.get? place = some .directory := by
  unfold isDirectory find?
  cases tree.locate path with
  | ok place =>
    simp only [Except.ok.injEq, exists_eq_left']
    cases tree.get? place with
    | none => simp
    | some entry => cases entry <;> simp
  | error fault => cases fault <;> simp

/-- A path leads to a directory as before if no directory has gone. -/
theorem Keeps.isDirectory {tree tree' : Tree} (h : Keeps tree tree') {path : Path}
    (hpath : tree.isDirectory path = true) : tree'.isDirectory path = true := by
  obtain ⟨place, hlocate, hplace⟩ := isDirectory_iff.mp hpath
  exact isDirectory_iff.mpr ⟨place, h.locate hlocate, h.directory place hplace⟩

/-- Whether a path leads to a directory depends on nothing but directories. -/
theorem isDirectory_congr {tree tree' : Tree} (h : Keeps tree tree') (h' : Keeps tree' tree)
    (path : Path) : tree'.isDirectory path = tree.isDirectory path :=
  Bool.eq_iff_iff.mpr ⟨h'.isDirectory, h.isDirectory⟩

/-- A place whose last name is not the mark of the top is not the top. -/
theorem concat_ne_top {name : Text} (h : name ≠ Path.top) (place : Path) :
    place ++ [name] ≠ [Path.top] := by
  intro heq
  have hlast := congrArg List.getLast? heq
  rw [List.getLast?_concat] at hlast
  exact h (Option.some.inj hlast)

/-- No place is above the working directory whose last name leads downwards. -/
theorem isAbove_concat_of_ne {name : Text} (h : name ≠ Path.up ∧ name ≠ Path.top) (place : Path) :
    isAbove (place ++ [name]) = false := by
  simp [isAbove, concat_ne_top h.2, h.1]

/-- Steps are taken one after another. -/
theorem walk_append (tree : Tree) (place : Path) (names more : List Text) :
    tree.walk place (names ++ more) =
      (tree.walk place names).bind fun there => tree.walk there more := by
  induction names generalizing place with
  | nil => rfl
  | cons name names ih =>
    rw [List.cons_append, walk, walk]
    cases tree.step place name with
    | ok there => exact ih there
    | error fault => rfl

/-- No name on a way that can be walked is too long. -/
theorem isLongName_of_walk {tree : Tree} {place there : Path} {names : List Text}
    (h : tree.walk place names = .ok there) : ∀ name ∈ names, Path.isLongName name = false := by
  induction names generalizing place with
  | nil => exact List.forall_mem_nil _
  | cons name names ih =>
    rw [walk] at h
    cases hstep : tree.step place name with
    | error fault =>
      rw [hstep] at h
      cases h
    | ok middle =>
      rw [hstep] at h
      refine List.forall_mem_cons.mpr ⟨?_, ih h⟩
      have hname := (step_eq_ok.mp hstep).2
      by_cases hup : name = Path.up
      · rw [hup]
        decide
      · rw [if_neg hup] at hname
        cases hlong : Path.isLongName name with
        | false => rfl
        | true =>
          rw [hlong] at hname
          cases hname

/-- The file system takes a path that leads somewhere. -/
theorem isSound_of_locate {tree : Tree} {path place : Path} (h : tree.locate path = .ok place) :
    path.IsSound tree.room := by
  unfold locate at h
  cases hfault : path.textFault? tree.room with
  | some fault =>
    rw [hfault] at h
    cases h
  | none =>
    refine ⟨hfault, ?_⟩
    rw [hfault] at h
    simp only at h
    by_cases hhead : path.head? = some Path.top
    · rw [if_pos hhead] at h
      obtain ⟨rest, rfl⟩ := List.head?_eq_some_iff.mp hhead
      exact List.forall_mem_cons.mpr ⟨by decide, isLongName_of_walk h⟩
    · rw [if_neg hhead] at h
      exact isLongName_of_walk h

/-- The file system takes the path of a file that can be read. -/
theorem isSound_of_read {tree : Tree} {path : Path} {bytes : Bytes}
    (h : tree.read path = .ok bytes) : path.IsSound tree.room := by
  unfold read at h
  cases hlocate : tree.locate path with
  | ok place => exact isSound_of_locate hlocate
  | error fault =>
    rw [hlocate] at h
    cases h

/-- A path leads to a directory that stands at a place. -/
structure Leads (tree : Tree) (path here : Path) : Prop where
  located : tree.locate path = .ok here
  there : tree.get? here = some .directory

/-- A path that leads to a directory leads to a place of it. -/
theorem exists_leads {tree : Tree} {path : Path} (hthere : tree.isDirectory path = true) :
    ∃ here, tree.Leads path here := by
  obtain ⟨here, hlocate, hget⟩ := isDirectory_iff.mp hthere
  exact ⟨here, hlocate, hget⟩

namespace Leads

variable {tree tree' : Tree} {path here : Path} {name : Text}

/-- A direct path leads to a directory at the place of its names. -/
theorem of_isDirect (h : path.IsDirect) (hthere : tree.isDirectory path = true) :
    tree.Leads path path := by
  obtain ⟨hway, hget⟩ := (isDirectory_eq_true h).mp hthere
  exact ⟨(locate_eq_ok h).mpr ⟨rfl, hway⟩, hget⟩

/-- What leads to a directory can be seen to do so. -/
theorem isDirectory (h : tree.Leads path here) : tree.isDirectory path = true :=
  isDirectory_iff.mpr ⟨here, h.located, h.there⟩

/-- A path leads to the same directory if no directory has gone. -/
theorem mono (h : tree.Leads path here) (hkeeps : Keeps tree tree') : tree'.Leads path here :=
  ⟨hkeeps.locate h.located, hkeeps.directory here h.there⟩

/-- A name behind a path is looked for in the directory to which the path leads. -/
theorem locate_concat (h : tree.Leads path here) (htop : name ≠ Path.top)
    (hfault : (path ++ [name]).textFault? tree.room = none) :
    tree.locate (path ++ [name]) = tree.walk here [name] := by
  have hlocated := h.located
  have hpath := (isSound_of_locate h.located).1
  unfold locate at hlocated ⊢
  rw [hpath] at hlocated
  rw [hfault]
  cases path with
  | nil =>
    have hhead : ([name] : Path).head? ≠ some Path.top := fun hhead => htop (Option.some.inj hhead)
    obtain rfl : [] = here := Except.ok.inj hlocated
    exact if_neg hhead
  | cons first rest =>
    by_cases hfirst : first = Path.top
    · subst hfirst
      have hwalk : tree.walk [Path.top] rest = .ok here := hlocated
      have hdrop : tree.walk [Path.top] (rest ++ [name]) = tree.walk here [name] := by
        rw [walk_append, hwalk]
        rfl
      exact hdrop
    · have hhead : (first :: rest).head? ≠ some Path.top := fun hhead =>
        hfirst (Option.some.inj hhead)
      have hhead' : (first :: rest ++ [name]).head? ≠ some Path.top := hhead
      simp only [if_neg hhead] at hlocated
      simp only [if_neg hhead']
      rw [walk_append, hlocated]
      rfl

/-- A name in a directory to which a path leads has the place of the directory and the name, if the
file system takes it. -/
theorem locates_concat (h : tree.Leads path here) (hname : name ≠ Path.up ∧ name ≠ Path.top) :
    tree.Locates (path ++ [name]) (here ++ [name]) (Path.IsSound (path ++ [name]) tree.room) := by
  cases hfault : (path ++ [name]).textFault? tree.room with
  | some fault =>
    refine .inr ⟨⟨fault, ?_⟩, fun hsound => ?_⟩
    · unfold locate
      rw [hfault]
    · rw [hsound.1] at hfault
      cases hfault
  | none =>
    have hlocate := h.locate_concat hname.2 hfault
    rw [walk, step, h.there] at hlocate
    simp only [if_neg hname.1] at hlocate
    cases hlong : Path.isLongName name with
    | true =>
      rw [hlong] at hlocate
      refine .inr ⟨⟨.longName, hlocate⟩, fun hsound => ?_⟩
      rw [hsound.2 name (by simp)] at hlong
      cases hlong
    | false =>
      rw [hlong] at hlocate
      refine .inl ⟨hlocate, hfault, fun other hother => ?_⟩
      rcases List.mem_append.mp hother with hother | hother
      · exact (isSound_of_locate h.located).2 other hother
      · rw [List.mem_singleton.mp hother]
        exact hlong

end Leads

end Tree

end Toolsmith
