import Toolsmith.Files.Path

/-!
# The working directory

The files and directories in and below the working directory, by place. A place is a path without
detours: it has steps upwards at its beginning only. A path is walked to its place from directory
to directory. Operations fail as those of a file system do.
-/

namespace Toolsmith

/-- What stands at a place. -/
inductive Entry where
  | file (bytes : Bytes)
  | directory
deriving DecidableEq, Repr

namespace Tree

/-- Whether a place is above the working directory, or the top of all directories. -/
def isAbove (place : Path) : Bool :=
  place = [Path.top] || (!place.isEmpty && place.all (· = Path.up))

/-- The place of the directory above a place; nothing is above the top. -/
def above (place : Path) : Path :=
  if place = [Path.top] then place
  else if place.all (· = Path.up) then place ++ [Path.up]
  else place.dropLast

/-- The directory above one that is above the working directory is above it too. -/
theorem isAbove_above {place : Path} (h : isAbove place = true) : isAbove (above place) = true := by
  unfold above
  by_cases htop : place = [Path.top]
  · rwa [if_pos htop]
  · have hup : place.all (· = Path.up) = true := by
      simp only [isAbove, htop, decide_false, Bool.false_or, Bool.and_eq_true] at h
      exact h.2
    rw [if_neg htop, if_pos hup]
    simp [isAbove, hup]

/-- A name that leads downwards leads to a place in the directory, unless it is that of the top. -/
theorem above_concat {name : Text} (hup : name ≠ Path.up) (place : Path) :
    above (place ++ [name]) = place ∨ place ++ [name] = [Path.top] := by
  by_cases htop : place ++ [name] = [Path.top]
  · exact .inr htop
  · have hall : (place ++ [name]).all (· = Path.up) = false := by simp [hup]
    left
    rw [above, if_neg htop, hall, if_neg Bool.false_ne_true, List.dropLast_concat]

end Tree

/-- Entries with their places. -/
abbrev Entries := List (Path × Entry)

namespace Entries

/-- What stands at a place. The directories above the working directory are always there. -/
def get? (entries : Entries) (place : Path) : Option Entry :=
  if Tree.isAbove place then some .directory else entries.lookup place

/-- Takes away what stands at a place. -/
def erase (entries : Entries) (place : Path) : Entries :=
  entries.filter fun e => e.1 != place

/-- Puts an entry at a place, instead of what stands there. -/
def set (entries : Entries) (place : Path) (entry : Entry) : Entries :=
  (place, entry) :: entries.erase place

/-- Every place has one entry at most. -/
def IsDistinct (entries : Entries) : Prop :=
  (entries.map Prod.fst).Nodup

/-- Everything stands in a directory. -/
def IsClosed (entries : Entries) : Prop :=
  ∀ e ∈ entries, entries.get? (Tree.above e.1) = some .directory

instance (entries : Entries) : Decidable entries.IsDistinct :=
  inferInstanceAs (Decidable (entries.map Prod.fst).Nodup)

instance (entries : Entries) : Decidable entries.IsClosed :=
  inferInstanceAs (Decidable (∀ e ∈ entries, entries.get? (Tree.above e.1) = some .directory))

variable {entries : Entries} {place other : Path} {entry : Entry}

/-- The directories above the working directory are there. -/
theorem get?_of_isAbove (h : Tree.isAbove place = true) (entries : Entries) :
    entries.get? place = some .directory :=
  if_pos h

/-- A place that is looked for among the other places is found as before. -/
theorem lookup_erase (h : other ≠ place) :
    (entries.erase place).lookup other = entries.lookup other := by
  unfold erase
  induction entries with
  | nil => rfl
  | cons e entries ih =>
    obtain ⟨p, entry⟩ := e
    by_cases hp : p = place
    · subst p
      rw [List.filter_cons_of_neg (by simp), ih, List.lookup_cons, beq_false_of_ne h]
    · rw [List.filter_cons_of_pos (by simpa using hp), List.lookup_cons, List.lookup_cons, ih]

/-- What stands at any other place stays when an entry is taken away. -/
theorem get?_erase_of_ne (h : other ≠ place) (entries : Entries) :
    (entries.erase place).get? other = entries.get? other := by
  unfold get?
  rw [lookup_erase h]

/-- What stands at any other place stays when an entry is put at a place. -/
theorem get?_set_of_ne (h : other ≠ place) (entries : Entries) (entry : Entry) :
    (entries.set place entry).get? other = entries.get? other := by
  unfold get? set
  rw [List.lookup_cons, beq_false_of_ne h, lookup_erase h]

/-- Where an entry is taken away, nothing stands. -/
theorem get?_erase_self (h : Tree.isAbove place = false) (entries : Entries) :
    (entries.erase place).get? place = none := by
  rw [get?, h, if_neg Bool.false_ne_true, List.lookup_eq_none_iff]
  intro e he
  have hne : e.1 ≠ place := by simpa using (List.mem_filter.mp he).2
  exact bne_iff_ne.mpr hne.symm

/-- Where an entry is put, it stands. -/
theorem get?_set_self (h : Tree.isAbove place = false) (entries : Entries) (entry : Entry) :
    (entries.set place entry).get? place = some entry := by
  rw [get?, h, if_neg Bool.false_ne_true, set, List.lookup_cons_self]

/-- Directories stay when anything else is taken away. -/
theorem directory_erase (hplace : entries.get? place ≠ some .directory)
    (hother : entries.get? other = some .directory) :
    (entries.erase place).get? other = some .directory := by
  have hne : other ≠ place := fun heq => hplace (heq ▸ hother)
  rw [get?_erase_of_ne hne, hother]

/-- Directories stay when an entry is put at a place, unless it takes the place of one. -/
theorem directory_set (hplace : entries.get? place = some .directory → entry = .directory)
    (hother : entries.get? other = some .directory) :
    (entries.set place entry).get? other = some .directory := by
  by_cases heq : other = place
  · subst other
    cases habove : Tree.isAbove place with
    | true => exact get?_of_isAbove habove _
    | false => rw [get?_set_self habove, hplace hother]
  · rw [get?_set_of_ne heq, hother]

/-- Taking an entry away leaves the places of the others distinct. -/
theorem IsDistinct.erase (h : entries.IsDistinct) (place : Path) :
    (entries.erase place).IsDistinct :=
  List.Nodup.sublist (List.filter_sublist.map Prod.fst) h

/-- Putting an entry at a place leaves places distinct. -/
theorem IsDistinct.set (h : entries.IsDistinct) (place : Path) (entry : Entry) :
    (entries.set place entry).IsDistinct := by
  refine List.nodup_cons.mpr ⟨fun hmem => ?_, h.erase place⟩
  obtain ⟨e, he, heq⟩ := List.mem_map.mp hmem
  exact absurd heq (by simpa using (List.mem_filter.mp he).2)

/-- Everything stands in a directory after anything but a directory is taken away. -/
theorem IsClosed.erase (h : entries.IsClosed) (hplace : entries.get? place ≠ some .directory) :
    (entries.erase place).IsClosed :=
  fun e he => directory_erase hplace (h e (List.mem_filter.mp he).1)

/-- Everything stands in a directory after an entry is put into one, unless it takes the place of a
directory. -/
theorem IsClosed.set (h : entries.IsClosed)
    (habove : entries.get? (Tree.above place) = some .directory)
    (hplace : entries.get? place = some .directory → entry = .directory) :
    (entries.set place entry).IsClosed := by
  intro e he
  apply directory_set hplace
  rcases List.mem_cons.mp he with rfl | he
  · exact habove
  · exact h e (List.mem_filter.mp he).1

end Entries

/-- The working directory itself, if it is there, and the files and directories below it. The text
of a path may have so many bytes besides those of the directory's own path. -/
structure Tree where
  entries : Entries
  room : Nat
  distinct : entries.IsDistinct
  closed : entries.IsClosed
  /-- There is room for a name. -/
  ample : Path.maxNameBytes ≤ room

namespace Tree

/-- The room beside a working directory whose own path has sixteen bytes: the text of a path and the
zero behind it have 4096 at most. -/
def usualRoom : Nat := 4078

/-- The tree of entries with the usual room. -/
def ofEntries (entries : Entries) (distinct : entries.IsDistinct) (closed : entries.IsClosed) :
    Tree :=
  ⟨entries, usualRoom, distinct, closed, by decide⟩

/-- A working directory without files. -/
def empty : Tree :=
  ofEntries [([], .directory)] (by decide) (by decide)

/-- The tree of a working directory that is not there. -/
def missing : Tree :=
  ofEntries [] (by decide) (by decide)

/-- The tree of entries, if they can be those of one. -/
def ofEntries? (entries : Entries) (room : Nat) : Option Tree :=
  if h : entries.IsDistinct ∧ entries.IsClosed ∧ Path.maxNameBytes ≤ room then
    some ⟨entries, room, h.1, h.2.1, h.2.2⟩
  else
    none

/-- What stands at a place. -/
def get? (tree : Tree) (place : Path) : Option Entry :=
  tree.entries.get? place

/-- Everything stands in a directory. -/
theorem get?_above {tree : Tree} {place : Path} (h : (tree.get? place).isSome = true) :
    tree.get? (above place) = some .directory := by
  cases habove : isAbove place with
  | true => exact Entries.get?_of_isAbove (isAbove_above habove) _
  | false =>
    unfold get? Entries.get? at h
    rw [habove, if_neg Bool.false_ne_true, List.lookup_isSome_iff] at h
    obtain ⟨e, he, heq⟩ := h
    obtain rfl : place = e.1 := beq_iff_eq.mp heq
    exact tree.closed e he

/-- The place to which a step leads from a place. It has to be that of a directory. -/
def step (tree : Tree) (place : Path) (name : Text) : Except Fault Path :=
  match tree.get? place with
  | none => .error .noFile
  | some (.file _) => .error .notDirectory
  | some .directory =>
    if name = Path.up then .ok (above place)
    else if Path.isLongName name then .error .longName
    else .ok (place ++ [name])

/-- The place to which steps lead from a place. -/
def walk (tree : Tree) (place : Path) : List Text → Except Fault Path
  | [] => .ok place
  | name :: rest =>
    match tree.step place name with
    | .ok place => tree.walk place rest
    | .error fault => .error fault

/-- The place to which a path leads, at which there may be nothing yet. -/
def locate (tree : Tree) (path : Path) : Except Fault Path :=
  match path.textFault? tree.room with
  | some fault => .error fault
  | none => if path.head? = some Path.top then tree.walk [Path.top] (path.drop 1)
    else tree.walk [] path

/-- A step leads to a place in a directory, or to that of one. -/
theorem get?_above_of_step {tree : Tree} {place there : Path} {name : Text}
    (h : tree.step place name = .ok there) : tree.get? (above there) = some .directory := by
  unfold step at h
  split at h
  · cases h
  · cases h
  · rename_i hplace
    split at h
    · obtain rfl := Except.ok.inj h
      exact get?_above (Option.isSome_of_eq_some (get?_above (Option.isSome_of_eq_some hplace)))
    · rename_i hup
      split at h
      · cases h
      · obtain rfl := Except.ok.inj h
        rcases above_concat hup place with heq | htop
        · rwa [heq]
        · rw [htop]
          exact Entries.get?_of_isAbove (by decide) _

/-- Steps lead to a place in a directory, if they begin at one. -/
theorem get?_above_of_walk {tree : Tree} {place there : Path} {names : List Text}
    (hplace : tree.get? (above place) = some .directory)
    (h : tree.walk place names = .ok there) : tree.get? (above there) = some .directory := by
  induction names generalizing place with
  | nil =>
    obtain rfl := Except.ok.inj h
    exact hplace
  | cons name rest ih =>
    unfold walk at h
    split at h
    · rename_i hstep
      exact ih (get?_above_of_step hstep) h
    · cases h

/-- A path leads to a place in a directory. -/
theorem get?_above_of_locate {tree : Tree} {path place : Path} (h : tree.locate path = .ok place) :
    tree.get? (above place) = some .directory := by
  unfold locate at h
  split at h
  · cases h
  · split at h
    · exact get?_above_of_walk (Entries.get?_of_isAbove (by decide) _) h
    · exact get?_above_of_walk (Entries.get?_of_isAbove (by decide) _) h

/-- An entry can be put at a place: a directory stands above it, and none gives way to a file. -/
structure Admits (tree : Tree) (place : Path) (entry : Entry) : Prop where
  above : tree.get? (Tree.above place) = some .directory
  keeps : tree.get? place = some .directory → entry = .directory

/-- Puts an entry at a place, instead of what stands there. -/
def set (tree : Tree) (place : Path) (entry : Entry) (h : tree.Admits place entry) : Tree :=
  { tree with
    entries := tree.entries.set place entry
    distinct := tree.distinct.set place entry
    closed := tree.closed.set h.above h.keeps }

/-- Where nothing stands, no directory does. -/
theorem ne_directory_of_none {tree : Tree} {place : Path} (h : tree.get? place = none) :
    tree.get? place ≠ some .directory := by
  simp [h]

/-- Where a file stands, no directory does. -/
theorem ne_directory_of_file {tree : Tree} {place : Path} {bytes : Bytes}
    (h : tree.get? place = some (.file bytes)) : tree.get? place ≠ some .directory := by
  simp [h]

/-- Takes away what stands at a place, unless it is a directory. -/
def erase (tree : Tree) (place : Path) (h : tree.get? place ≠ some .directory) : Tree :=
  { tree with
    entries := tree.entries.erase place
    distinct := tree.distinct.erase place
    closed := tree.closed.erase h }

/-- What a path leads to; nothing if the way is not passable. Only a name that is too long makes
this fail. -/
def find? (tree : Tree) (path : Path) : Except Fault (Option Entry) :=
  match tree.locate path with
  | .ok place => .ok (tree.get? place)
  | .error .longName => .error .longName
  | .error _ => .ok none

/-- Whether a path leads to anything. -/
def exists? (tree : Tree) (path : Path) : Except Fault Bool :=
  (tree.find? path).map Option.isSome

/-- Whether a path leads to a directory. -/
def isDirectory (tree : Tree) (path : Path) : Bool :=
  match tree.find? path with
  | .ok (some .directory) => true
  | _ => false

/-- Whether a path leads to a file. -/
def isFile (tree : Tree) (path : Path) : Bool :=
  match tree.find? path with
  | .ok (some (.file _)) => true
  | _ => false

/-- The bytes of a file. -/
def read (tree : Tree) (path : Path) : Except Fault Bytes :=
  match tree.locate path with
  | .error fault => .error fault
  | .ok place =>
    match tree.get? place with
    | some (.file bytes) => .ok bytes
    | some .directory => .error .isDirectory
    | none => .error .noFile

/-- Writes a file into a directory that is there. -/
def write (tree : Tree) (path : Path) (bytes : Bytes) : Except Fault Tree :=
  match hlocate : tree.locate path with
  | .error fault => .error fault
  | .ok place =>
    if h : tree.get? place = some .directory then .error .isDirectory
    else .ok (tree.set place (.file bytes) ⟨get?_above_of_locate hlocate, fun h' => absurd h' h⟩)

/-- Takes a file away. -/
def remove (tree : Tree) (path : Path) : Except Fault Tree :=
  match tree.locate path with
  | .error fault => .error fault
  | .ok place =>
    match h : tree.get? place with
    | some (.file _) => .ok (tree.erase place (ne_directory_of_file h))
    | some .directory => .error .isDirectory
    | none => .error .noFile

/-- Makes one directory, where there is nothing yet. -/
def makeDirectory (tree : Tree) (path : Path) : Except Fault Tree :=
  match hlocate : tree.locate path with
  | .error fault => .error fault
  | .ok place =>
    if (tree.get? place).isSome then .error .fileExists
    else .ok (tree.set place .directory ⟨get?_above_of_locate hlocate, fun _ => rfl⟩)

/-- What becomes of a fault in making a directory: nothing, if a directory is there. A path that
cannot be handed to the file system stays one. -/
def excuse (tree : Tree) (path : Path) : Fault → Option Fault
  | .noFile => some .noFile
  | fault => if tree.isDirectory path then none else some fault

/-- Makes one directory, unless it is there. -/
def ensureDirectory (tree : Tree) (path : Path) : Tree × Option Fault :=
  match tree.makeDirectory path with
  | .ok tree => (tree, none)
  | .error fault => (tree, tree.excuse path fault)

/-- Makes the directory at the end of a path that is given from its end, and those on the way to
it. Directories that have been made stay, also if a later one cannot be made. -/
def makeWay (tree : Tree) : List Text → Tree × Option Fault
  | [] => tree.ensureDirectory []
  | name :: before =>
    let path := (name :: before).reverse
    match tree.makeDirectory path with
    | .ok tree => (tree, none)
    | .error .noFile =>
      match tree.makeWay before with
      | (tree, none) => tree.ensureDirectory path
      | (tree, some fault) => (tree, some fault)
    | .error fault => (tree, tree.excuse path fault)

/-- Makes a directory and those on the way to it. -/
def makeDirectories (tree : Tree) (path : Path) : Tree × Option Fault :=
  tree.makeWay path.reverse

/-- The names in a directory. -/
def names (tree : Tree) (directory : Path) : List Text :=
  match tree.locate directory with
  | .error _ => []
  | .ok here =>
    tree.entries.filterMap fun (place, _) =>
      if place ≠ [] ∧ place.dropLast = here then place.getLast? else none

/-- The names in a directory, in the order of their code points. -/
def sortedNames (tree : Tree) (directory : Path) : List Text :=
  (tree.names directory).mergeSort Text.precedes

/-- Whether a place is below the working directory. -/
def isBelow (place : Path) : Bool :=
  !(place.head?.all fun name => name = Path.up || name = Path.top)

/-- The texts of all places below the working directory in order, those of directories with a slash
at the end. -/
def listing (tree : Tree) : List Text :=
  ((tree.entries.filter fun e => isBelow e.1).map fun (place, entry) =>
    match entry with
    | .file _ => place.text
    | .directory => place.text ++ [.char '/']).mergeSort Text.precedes

end Tree

end Toolsmith
