import Toolsmith.Proofs.Files.Locating

/-!
# What operations do to a tree

Every operation changes one place only, that to which its path leads, and directories never vanish.
-/

namespace Toolsmith

namespace Tree

/-- The way to a name in a directory goes through the directory. -/
theorem hasWay_concat {tree : Tree} {directory : Path} (h : directory.IsDirect)
    (hthere : tree.isDirectory directory = true) (name : Text) :
    tree.HasWay (directory ++ [name]) := by
  obtain ⟨⟨-, hway⟩, hget⟩ := (isDirectory_eq_true h).mp hthere
  intro before hbefore hne
  rcases List.prefix_concat_iff.mp hbefore with heq | hbefore
  · exact absurd heq hne
  · by_cases hlast : before = directory
    · rwa [hlast]
    · exact hway before hbefore hlast

/-- One tree differs from another only by directories on the way to a path. -/
structure AddsWay (path : Path) (tree tree' : Tree) : Prop where
  adds : ∀ place, tree'.get? place = tree.get? place ∨
    (place <+: path ∧ tree.get? place = none ∧ tree'.get? place = some .directory)
  room : tree'.room = tree.room

/-- Directories stay when a way is added. -/
theorem AddsWay.keeps {path : Path} {tree tree' : Tree} (h : AddsWay path tree tree') :
    Keeps tree tree' := by
  refine ⟨h.room, fun place hplace => ?_⟩
  rcases h.adds place with h | ⟨-, hnone, -⟩
  · exact h.trans hplace
  · rw [hplace] at hnone
    cases hnone

/-- A directory is made at the place to which a path leads. -/
theorem exists_of_makeDirectory {tree tree' : Tree} {path : Path}
    (hmake : tree.makeDirectory path = .ok tree') :
    ∃ place, tree.locate path = .ok place ∧ tree.get? place = none ∧
      ∃ hplace : tree.Admits place .directory, tree.set place _ hplace = tree' := by
  cases hlocate : tree.locate path with
  | error fault =>
    have hnowhere : tree.Locates path [] False := .inr ⟨⟨fault, hlocate⟩, id⟩
    exact (hnowhere.makeDirectory_eq_ok.mp hmake).1.elim
  | ok place =>
    have hthere : tree.Locates path place True := .inl ⟨hlocate, trivial⟩
    exact ⟨place, rfl, (hthere.makeDirectory_eq_ok.mp hmake).2⟩

/-- One tree differs from another only by directories where nothing stood, to each of which a
beginning of a path leads. -/
structure Grows (path : Path) (tree tree' : Tree) : Prop where
  adds : ∀ place, tree'.get? place = tree.get? place ∨
    (tree.get? place = none ∧ ∃ part, part <+: path ∧ tree'.Leads part place)
  room : tree'.room = tree.room

namespace Grows

variable {path part : Path} {tree tree' tree'' : Tree}

/-- A tree does not differ from itself. -/
theorem refl (path : Path) (tree : Tree) : Grows path tree tree :=
  ⟨fun _ => .inl rfl, rfl⟩

/-- Directories stay. -/
theorem keeps (h : Grows path tree tree') : Keeps tree tree' := by
  refine ⟨h.room, fun place hplace => ?_⟩
  rcases h.adds place with heq | ⟨hnone, -⟩
  · exact heq.trans hplace
  · rw [hplace] at hnone
    cases hnone

/-- A beginning of a path to which another leads is one to which the path leads. -/
theorem mono (h : Grows part tree tree') (hpart : part <+: path) : Grows path tree tree' :=
  ⟨fun place => (h.adds place).imp_right fun ⟨hnone, before, hbefore, hleads⟩ =>
    ⟨hnone, before, hbefore.trans hpart, hleads⟩, h.room⟩

/-- Directories may be added one after another. -/
theorem trans (h : Grows path tree tree') (h' : Grows path tree' tree'') :
    Grows path tree tree'' := by
  refine ⟨fun place => ?_, h'.room.trans h.room⟩
  rcases h.adds place with heq | ⟨hnone, part, hpart, hleads⟩
  · rw [← heq]
    exact h'.adds place
  · exact .inr ⟨hnone, part, hpart, hleads.mono h'.keeps⟩

/-- Along a direct path, directories stand on the way to it. -/
theorem addsWay (h : Grows path tree tree') (hdirect : path.IsDirect) :
    AddsWay path tree tree' := by
  refine ⟨fun place => (h.adds place).imp_right ?_, h.room⟩
  rintro ⟨hnone, part, hpart, hleads⟩
  have hpartDirect : Path.IsDirect part := by
    obtain ⟨rest, rfl⟩ := hpart
    exact hdirect.of_append
  obtain ⟨rfl, -⟩ := (locate_eq_ok hpartDirect).mp hleads.located
  exact ⟨hpart, hnone, hleads.there⟩

end Grows

/-- Making a directory adds one, to which the path leads then. -/
theorem grows_of_makeDirectory {tree tree' : Tree} {path : Path}
    (hmake : tree.makeDirectory path = .ok tree') :
    Grows path tree tree' ∧ tree'.isDirectory path = true := by
  obtain ⟨place, hlocate, hnone, hplace, rfl⟩ := exists_of_makeDirectory hmake
  have habove : isAbove place = false := by
    by_contra h
    have hthere := Entries.get?_of_isAbove (Bool.not_eq_false _ ▸ h) tree.entries
    rw [get?, hthere] at hnone
    cases hnone
  have hget := get?_set habove tree hplace
  have hleads : (tree.set place .directory hplace).Leads path place :=
    ⟨(keeps_set hplace).locate hlocate, by rw [hget, if_pos rfl]⟩
  refine ⟨⟨fun other => ?_, rfl⟩, hleads.isDirectory⟩
  by_cases heq : other = place
  · subst other
    exact .inr ⟨hnone, path, List.prefix_rfl, hleads⟩
  · exact .inl (by rw [hget, if_neg heq])

/-- A fault is excused only where a directory stands. -/
theorem isDirectory_of_excuse {path : Path} {tree : Tree} {fault : Fault}
    (hexcuse : tree.excuse path fault = none) : tree.isDirectory path = true := by
  unfold excuse at hexcuse
  split at hexcuse
  · cases hexcuse
  · by_contra hnot
    rw [if_neg hnot] at hexcuse
    cases hexcuse

/-- What making a directory keeps is kept when it may be there. -/
theorem of_ensureDirectory {p : Tree → Prop} {path : Path} {tree tree' : Tree}
    {fault? : Option Fault} (h : ∀ tree', tree.makeDirectory path = .ok tree' → p tree')
    (hp : p tree) (hensure : tree.ensureDirectory path = (tree', fault?)) : p tree' := by
  unfold ensureDirectory at hensure
  split at hensure
  · cases hensure
    exact h tree' ‹_›
  · cases hensure
    exact hp

/-- A directory that may be there is there if nothing fails. -/
theorem isDirectory_of_ensureDirectory {path : Path} {tree tree' : Tree}
    (hensure : tree.ensureDirectory path = (tree', none)) : tree'.isDirectory path = true := by
  unfold ensureDirectory at hensure
  split at hensure
  · cases hensure
    exact (grows_of_makeDirectory ‹_›).2
  · rename_i fault hfault
    obtain ⟨rfl, hexcuse⟩ := Prod.mk.inj hensure
    exact isDirectory_of_excuse hexcuse

/-- What making one directory on a way keeps is kept when the way is made. -/
theorem of_makeWay {p : Tree → Prop} {names : List Text} {tree tree' : Tree}
    {fault? : Option Fault}
    (h : ∀ path, path <+: names.reverse → ∀ tree tree', p tree →
      tree.makeDirectory path = .ok tree' → p tree')
    (hp : p tree) (hmake : tree.makeWay names = (tree', fault?)) : p tree' := by
  induction names generalizing tree' fault? with
  | nil => exact of_ensureDirectory (fun tree' => h [] List.prefix_rfl tree tree' hp) hp hmake
  | cons name before ih =>
    have hbefore : before.reverse <+: (name :: before).reverse := by
      rw [List.reverse_cons]
      exact List.prefix_append _ _
    unfold makeWay at hmake
    simp only at hmake
    split at hmake
    · cases hmake
      exact h _ List.prefix_rfl _ _ hp ‹_›
    · split at hmake
      · rename_i middle hmade
        have hmiddle : p middle := ih (fun path hpath => h path (hpath.trans hbefore)) hmade
        exact of_ensureDirectory (fun tree' => h _ List.prefix_rfl middle tree' hmiddle) hmiddle
          hmake
      · rename_i hmade
        cases hmake
        exact ih (fun path hpath => h path (hpath.trans hbefore)) hmade
    · cases hmake
      exact hp

/-- A directory is there after it has been made with those on the way to it. -/
theorem isDirectory_of_makeWay {names : List Text} {tree tree' : Tree}
    (hmake : tree.makeWay names = (tree', none)) : tree'.isDirectory names.reverse = true := by
  cases names with
  | nil => exact isDirectory_of_ensureDirectory hmake
  | cons name before =>
    unfold makeWay at hmake
    simp only at hmake
    split at hmake
    · cases hmake
      exact (grows_of_makeDirectory ‹_›).2
    · split at hmake
      · exact isDirectory_of_ensureDirectory hmake
      · cases hmake
    · obtain ⟨rfl, hexcuse⟩ := Prod.mk.inj hmake
      exact isDirectory_of_excuse hexcuse

/-- Making a directory with those on the way to it adds directories only. -/
theorem grows_of_makeDirectories {path : Path} {tree tree' : Tree} {fault? : Option Fault}
    (hmake : tree.makeDirectories path = (tree', fault?)) : Grows path tree tree' := by
  refine of_makeWay (fun part hpart _ _ hgrows hmade => ?_) (.refl path tree) hmake
  rw [List.reverse_reverse] at hpart
  exact hgrows.trans ((grows_of_makeDirectory hmade).1.mono hpart)

/-- A directory is there after it has been made with those on the way to it. -/
theorem isDirectory_of_makeDirectories {path : Path} {tree tree' : Tree}
    (hmake : tree.makeDirectories path = (tree', none)) : tree'.isDirectory path = true := by
  have hthere := isDirectory_of_makeWay hmake
  rwa [List.reverse_reverse] at hthere

/-- Making directories adds the way to the last of them, which is there if nothing fails. -/
theorem addsWay_of_makeDirectories {path : Path} {tree tree' : Tree} {fault? : Option Fault}
    (h : path.IsDirect) (hmake : tree.makeDirectories path = (tree', fault?)) :
    AddsWay path tree tree' ∧ (fault? = none → tree'.isDirectory path = true) := by
  refine ⟨(grows_of_makeDirectories hmake).addsWay h, ?_⟩
  rintro rfl
  exact isDirectory_of_makeDirectories hmake

/-- A directory that is there is not made again. -/
theorem Leads.makeDirectories {tree : Tree} {path here : Path} (h : tree.Leads path here) :
    tree.makeDirectories path = (tree, none) := by
  have hmake : tree.makeDirectory path = .error .fileExists := by
    unfold makeDirectory
    split
    · rename_i hfault
      rw [h.located] at hfault
      cases hfault
    · rename_i there hthere
      obtain rfl := Except.ok.inj (h.located.symm.trans hthere)
      rw [h.there]
      rfl
  have hexcuse : tree.excuse path .fileExists = none := by
    simp only [excuse, h.isDirectory, if_true]
  unfold Tree.makeDirectories
  cases hreverse : path.reverse with
  | nil =>
    obtain rfl := List.reverse_eq_nil_iff.mp hreverse
    rw [makeWay, ensureDirectory, hmake]
    exact Prod.ext rfl hexcuse
  | cons name before =>
    have hpath : (name :: before).reverse = path := by
      rw [← hreverse, List.reverse_reverse]
    rw [makeWay, hpath, hmake]
    exact Prod.ext rfl hexcuse

/-- A directory to which a direct path leads is not made again. -/
theorem makeDirectories_of_isDirectory {path : Path} {tree : Tree} (h : path.IsDirect)
    (hthere : tree.isDirectory path = true) : tree.makeDirectories path = (tree, none) :=
  (Leads.of_isDirect h hthere).makeDirectories

/-- A directory is made where there is a way to its place and nothing stands there. -/
theorem makeDirectories_of_hasWay {path : Path} {tree : Tree} (h : path.IsDirect)
    (hne : path ≠ []) (hway : path.IsSound tree.room ∧ tree.HasWay path)
    (hnone : tree.get? path = none) :
    ∃ hplace, tree.makeDirectories path = (tree.set path .directory hplace, none) := by
  have hplace : tree.Admits path .directory :=
    admits_of_locate ((locate_eq_ok h).mpr ⟨rfl, hway⟩) fun _ => rfl
  have hmake : tree.makeDirectory path = .ok (tree.set path .directory hplace) :=
    (makeDirectory_eq_ok h).mpr ⟨hway, hnone, hplace, rfl⟩
  refine ⟨hplace, ?_⟩
  unfold makeDirectories
  cases hreverse : path.reverse with
  | nil => exact absurd (List.reverse_eq_nil_iff.mp hreverse) hne
  | cons name before =>
    have hpath : (name :: before).reverse = path := by
      rw [← hreverse, List.reverse_reverse]
    rw [makeWay, hpath, hmake]

/-- One tree differs from another only at some places, and its directories stay. -/
structure Changes (places : Path → Prop) (tree tree' : Tree) : Prop where
  frame : ∀ place, ¬places place → tree'.get? place = tree.get? place
  keeps : Keeps tree tree'

namespace Changes

variable {places places' : Path → Prop} {tree tree' tree'' : Tree}

/-- A tree does not differ from itself. -/
theorem refl (places : Path → Prop) (tree : Tree) : Changes places tree tree :=
  ⟨fun _ _ => rfl, .refl tree⟩

/-- Changes may be made one after another. -/
theorem trans (h : Changes places tree tree') (h' : Changes places tree' tree'') :
    Changes places tree tree'' :=
  ⟨fun place hplace => (h'.frame place hplace).trans (h.frame place hplace),
    h.keeps.trans h'.keeps⟩

/-- What differs at some places only differs at no other places either. -/
theorem mono (h : Changes places tree tree') (hplaces : ∀ place, places place → places' place) :
    Changes places' tree tree' :=
  ⟨fun place hplace => h.frame place fun hmem => hplace (hplaces place hmem), h.keeps⟩

/-- A way stays passable. -/
theorem hasWay (h : Changes places tree tree') {path : Path} (hway : tree.HasWay path) :
    tree'.HasWay path :=
  fun before hbefore hne => h.keeps.directory before (hway before hbefore hne)

/-- A file at another place is read as before. -/
theorem read (h : Changes places tree tree') {path : Path} {bytes : Bytes}
    (hdirect : path.IsDirect) (hpath : ¬places path) (hread : tree.read path = .ok bytes) :
    tree'.read path = .ok bytes := by
  obtain ⟨⟨hsound, hway⟩, hget⟩ := (read_eq_ok hdirect).mp hread
  exact (read_eq_ok hdirect).mpr
    ⟨⟨h.keeps.room ▸ hsound, h.hasWay hway⟩, (h.frame path hpath).trans hget⟩

/-- A direct path leads to the same place if nothing on the way to it is at one of the places. -/
theorem locate_eq (h : Changes places tree tree') {path : Path} (hdirect : path.IsDirect)
    (hpath : ∀ before, before <+: path → ¬places before) :
    tree'.locate path = tree.locate path := by
  have hhead : path.head? ≠ some Path.top := fun hhead => by
    cases path with
    | nil => cases hhead
    | cons name rest => exact (hdirect name List.mem_cons_self).2 (Option.some.inj hhead)
  have hwalk : tree'.walk [] path = tree.walk [] path :=
    walk_congr (fun before hbefore => h.frame before (hpath before hbefore)) hdirect
  unfold locate
  simp only [if_neg hhead, hwalk, h.keeps.room]

/-- What stands at the end of a path is the same if nothing on the way to it is at one of the
places. -/
theorem find?_eq (h : Changes places tree tree') {path : Path} (hdirect : path.IsDirect)
    (hpath : ∀ before, before <+: path → ¬places before) : tree'.find? path = tree.find? path := by
  unfold find?
  rw [h.locate_eq hdirect hpath]
  rcases locate_direct tree hdirect with ⟨hlocate, -⟩ | ⟨⟨fault, hlocate⟩, -⟩
  · rw [hlocate]
    exact congrArg Except.ok (h.frame path (hpath path (List.prefix_refl path)))
  · rw [hlocate]
    cases fault <;> rfl

/-- A file is read as before if nothing on the way to it is at one of the places. -/
theorem read_eq (h : Changes places tree tree') {path : Path} (hdirect : path.IsDirect)
    (hpath : ∀ before, before <+: path → ¬places before) : tree'.read path = tree.read path := by
  unfold Tree.read
  rw [h.locate_eq hdirect hpath]
  rcases locate_direct tree hdirect with ⟨hlocate, -⟩ | ⟨⟨fault, hlocate⟩, -⟩
  · rw [hlocate]
    simp only [h.frame path (hpath path (List.prefix_refl path))]
  · rw [hlocate]

end Changes

/-- A way adds directories at places on it. -/
theorem AddsWay.changes {path : Path} {tree tree' : Tree} (h : AddsWay path tree tree') :
    Changes (· <+: path) tree tree' :=
  ⟨fun place hplace => (h.adds place).resolve_right fun hadd => hplace hadd.1,
    h.keeps⟩

/-- Where the directories on a way are there, only the last place of it changes. -/
theorem AddsWay.changes_last {path : Path} {tree tree' : Tree} (h : AddsWay path tree tree')
    (hway : tree.HasWay path) : Changes (· = path) tree tree' := by
  refine ⟨fun place hplace => (h.adds place).resolve_right ?_, h.keeps⟩
  rintro ⟨hbefore, hnone, -⟩
  rw [hway place hbefore hplace] at hnone
  cases hnone

/-- Writing a file changes the place to which the path leads, and the file stands there then. -/
theorem Locates.changes_of_write {tree tree' : Tree} {path place : Path} {condition : Prop}
    {bytes : Bytes} (h : tree.Locates path place condition) (hplace : isAbove place = false)
    (hwrite : tree.write path bytes = .ok tree') :
    Changes (· = place) tree tree' ∧ tree'.get? place = some (.file bytes) := by
  obtain ⟨-, hput, rfl⟩ := h.write_eq_ok.mp hwrite
  have hget := get?_set hplace tree hput
  exact ⟨⟨fun other hother => by rw [hget, if_neg hother], keeps_set hput⟩,
    by rw [hget, if_pos rfl]⟩

/-- Taking a file away changes the place to which the path leads, where nothing stands then. -/
theorem Locates.changes_of_remove {tree tree' : Tree} {path place : Path} {condition : Prop}
    (h : tree.Locates path place condition) (hplace : isAbove place = false)
    (hremove : tree.remove path = .ok tree') :
    Changes (· = place) tree tree' ∧ tree'.get? place = none := by
  obtain ⟨-, -, hfree, rfl⟩ := h.remove_eq_ok.mp hremove
  have hget := get?_erase hplace tree hfree
  exact ⟨⟨fun other hother => by rw [hget, if_neg hother], keeps_erase hfree⟩,
    by rw [hget, if_pos rfl]⟩

/-- Writing a file changes its place, and the file is read from there. -/
theorem changes_of_write {tree tree' : Tree} {path : Path} {bytes : Bytes} (h : path.IsDirect)
    (hwrite : tree.write path bytes = .ok tree') :
    Changes (· = path) tree tree' ∧ tree'.read path = .ok bytes := by
  obtain ⟨⟨hsound, hway⟩, -⟩ := (write_eq_ok h).mp hwrite
  obtain ⟨hchanges, hget⟩ :=
    (locate_direct tree h).changes_of_write (isAbove_eq_false h) hwrite
  exact ⟨hchanges,
    (read_eq_ok h).mpr ⟨⟨hchanges.keeps.room ▸ hsound, hchanges.hasWay hway⟩, hget⟩⟩

/-- Taking a file away changes its place, where nothing stands then. -/
theorem changes_of_remove {tree tree' : Tree} {path : Path} (h : path.IsDirect)
    (hremove : tree.remove path = .ok tree') :
    Changes (· = path) tree tree' ∧ tree'.get? path = none :=
  (locate_direct tree h).changes_of_remove (isAbove_eq_false h) hremove

/-- Writing a file in a directory changes its place in it, and the file stands there then. -/
theorem Leads.changes_of_write {tree tree' : Tree} {directory here : Path} {name : Text}
    {bytes : Bytes} (h : tree.Leads directory here) (hname : name ≠ Path.up ∧ name ≠ Path.top)
    (hwrite : tree.write (directory ++ [name]) bytes = .ok tree') :
    Changes (· = here ++ [name]) tree tree' ∧ tree'.get? (here ++ [name]) = some (.file bytes) :=
  (h.locates_concat hname).changes_of_write (isAbove_concat_of_ne hname here) hwrite

/-- Taking a file out of a directory changes its place in it, where nothing stands then. -/
theorem Leads.changes_of_remove {tree tree' : Tree} {directory here : Path} {name : Text}
    (h : tree.Leads directory here) (hname : name ≠ Path.up ∧ name ≠ Path.top)
    (hremove : tree.remove (directory ++ [name]) = .ok tree') :
    Changes (· = here ++ [name]) tree tree' ∧ tree'.get? (here ++ [name]) = none :=
  (h.locates_concat hname).changes_of_remove (isAbove_concat_of_ne hname here) hremove

/-- Everything below the working directory stands in directories. -/
theorem hasWay_of_isSome {tree : Tree} {path : Path} (h : path.IsDirect)
    (hsome : (tree.get? path).isSome = true) : tree.HasWay path := by
  induction path using List.reverseRecOn with
  | nil => exact fun before hbefore hne => absurd (List.prefix_nil.mp hbefore) hne
  | append_singleton directory name ih =>
    obtain ⟨hup, htop⟩ := h name (by simp)
    have hplace : above (directory ++ [name]) = directory :=
      (above_concat hup directory).resolve_right (concat_ne_top htop directory)
    have hdirectory := hplace ▸ get?_above hsome
    intro before hbefore hne
    rcases List.prefix_concat_iff.mp hbefore with heq | hbefore
    · exact absurd heq hne
    · by_cases hlast : before = directory
      · rwa [hlast]
      · exact ih h.of_append (Option.isSome_of_eq_some hdirectory) before hbefore hlast

/-- A file that stands where one stood before, among directories that stay, is read as before. -/
theorem Keeps.read_iff {tree tree' : Tree} (h : Keeps tree tree') {path : Path}
    (hdirect : path.IsDirect)
    (hfile : ∀ bytes, tree'.get? path = some (.file bytes) ↔ tree.get? path = some (.file bytes))
    {bytes : Bytes} : tree'.read path = .ok bytes ↔ tree.read path = .ok bytes := by
  rw [read_eq_ok hdirect, read_eq_ok hdirect, hfile, h.room]
  constructor
  · rintro ⟨⟨hsound, -⟩, hget⟩
    exact ⟨⟨hsound, hasWay_of_isSome hdirect (Option.isSome_of_eq_some hget)⟩, hget⟩
  · rintro ⟨⟨hsound, hway⟩, hget⟩
    exact ⟨⟨hsound, fun place hplace hne => h.directory place (hway place hplace hne)⟩, hget⟩

/-- There is a way to what stands at a place. -/
theorem stands_iff {tree : Tree} {path : Path} (hdirect : path.IsDirect) {entry : Entry} :
    (path.IsSound tree.room ∧ tree.HasWay path) ∧ tree.get? path = some entry ↔
      path.IsSound tree.room ∧ tree.get? path = some entry := by
  constructor
  · rintro ⟨⟨hsound, -⟩, hget⟩
    exact ⟨hsound, hget⟩
  · rintro ⟨hsound, hget⟩
    exact ⟨⟨hsound, hasWay_of_isSome hdirect (Option.isSome_of_eq_some hget)⟩, hget⟩

/-- A path leads to a directory in two trees alike if the same stands at its place. -/
theorem isDirectory_iff_of_get? {tree tree' : Tree} (hroom : tree'.room = tree.room) {path : Path}
    (hdirect : path.IsDirect) (hget : tree'.get? path = tree.get? path) :
    tree'.isDirectory path = true ↔ tree.isDirectory path = true := by
  rw [isDirectory_eq_true hdirect, isDirectory_eq_true hdirect, stands_iff hdirect,
    stands_iff hdirect, hget, hroom]

/-- A file is read in two trees alike if the same stands at its place. -/
theorem read_congr {tree tree' : Tree} (hroom : tree'.room = tree.room) {path : Path}
    (hdirect : path.IsDirect) (hget : tree'.get? path = tree.get? path) {bytes : Bytes} :
    tree'.read path = .ok bytes ↔ tree.read path = .ok bytes := by
  rw [read_eq_ok hdirect, read_eq_ok hdirect, stands_iff hdirect, stands_iff hdirect, hget, hroom]

/-- Adding a way changes no file. -/
theorem AddsWay.read_iff {way path : Path} {tree tree' : Tree} (h : AddsWay way tree tree')
    (hdirect : path.IsDirect) {bytes : Bytes} :
    tree'.read path = .ok bytes ↔ tree.read path = .ok bytes := by
  refine h.keeps.read_iff hdirect fun bytes => ?_
  rcases h.adds path with heq | ⟨-, hnone, hnew⟩
  · rw [heq]
  · rw [hnone, hnew]
    simp

/-- A name stands in a directory exactly if something stands at the place of both. -/
theorem mem_names_of_locate {tree : Tree} {directory here : Path} {name : Text}
    (hlocate : tree.locate directory = .ok here) (hbelow : isAbove (here ++ [name]) = false) :
    name ∈ tree.names directory ↔ (tree.get? (here ++ [name])).isSome = true := by
  unfold names get? Entries.get?
  rw [hlocate, hbelow]
  have hplace : ∀ place : Path,
      (if place ≠ [] ∧ place.dropLast = here then place.getLast? else none) = some name ↔
        place = here ++ [name] := by
    intro place
    constructor
    · intro h
      split at h
      · rename_i hhere
        rw [← hhere.2]
        exact (List.dropLast_append_getLast? name h).symm
      · cases h
    · rintro rfl
      simp
  simp only [List.mem_filterMap, Bool.false_eq_true, if_false, List.lookup_isSome_iff, beq_iff_eq]
  constructor
  · rintro ⟨e, he, hname⟩
    exact ⟨e, he, ((hplace e.1).mp hname).symm⟩
  · rintro ⟨e, he, hname⟩
    exact ⟨e, he, (hplace e.1).mpr hname.symm⟩

/-- A name that leads downwards stands in a directory to which a path leads exactly if something
stands at its place. -/
theorem Leads.mem_names {tree : Tree} {directory here : Path} {name : Text}
    (h : tree.Leads directory here) (hname : name ≠ Path.up ∧ name ≠ Path.top) :
    name ∈ tree.names directory ↔ (tree.get? (here ++ [name])).isSome = true :=
  mem_names_of_locate h.located (isAbove_concat_of_ne hname here)

/-- A name stands in a directory that has a direct path exactly if something stands at its place. -/
theorem mem_names {tree : Tree} {directory : Path} {name : Text} (hdirect : directory.IsDirect)
    (hway : directory.IsSound tree.room ∧ tree.HasWay directory)
    (hbelow : isAbove (directory ++ [name]) = false) :
    name ∈ tree.names directory ↔ (tree.get? (directory ++ [name])).isSome = true :=
  mem_names_of_locate ((locate_eq_ok hdirect).mpr ⟨rfl, hway⟩) hbelow

/-- A directory has every name once. -/
theorem nodup_names (tree : Tree) (directory : Path) :
    (tree.names directory).Nodup := by
  unfold names
  split
  · exact List.nodup_nil
  · rename_i here _
    have hnames : (tree.entries.filterMap fun (e : Path × Entry) =>
        if e.1 ≠ [] ∧ e.1.dropLast = here then e.1.getLast? else none) =
          (tree.entries.map Prod.fst).filterMap fun place =>
            if place ≠ [] ∧ place.dropLast = here then place.getLast? else none := by
      rw [List.filterMap_map]
      rfl
    rw [hnames]
    refine List.Nodup.filterMap (fun place other name hplace hother => ?_) tree.distinct
    rw [Option.mem_def] at hplace hother
    split at hplace
    · split at hother
      · rename_i hhere hhere'
        rw [← List.dropLast_append_getLast? name hplace, hhere.2, ← hhere'.2,
          List.dropLast_append_getLast? name hother]
      · cases hother
    · cases hplace

end Tree

end Toolsmith
