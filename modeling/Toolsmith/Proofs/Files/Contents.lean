import Toolsmith.Proofs.Action
import Toolsmith.Proofs.Files.Tree
import Toolsmith.Proofs.Json.Characters
import Toolsmith.Proofs.Json.RoundTrip

/-!
# What files hold

The text and the document that are read from a file of a tree. A text without carriage returns is
read as it was written, and a document is read as its text says.
-/

namespace Toolsmith

/-- A text without carriage returns has unified line ends. -/
theorem Text.unifyLineEnds_eq_self {t : Text} (h : CodePoint.char '\r' ∉ t) :
    t.unifyLineEnds = t := by
  fun_induction unifyLineEnds t with
  | case1 => rfl
  | case2 => exact absurd List.mem_cons_self h
  | case3 => exact absurd List.mem_cons_self h
  | case4 c rest _ ih => rw [ih (List.not_mem_of_not_mem_cons h)]

/-- The file with the encoding of a string. -/
def Entry.ofString (s : String) : Entry :=
  .file ((Text.ofString s).encode.getD [])

namespace Tree

/-- The text of a file, with unified line ends. -/
def text? (tree : Tree) (path : Path) : Option Text :=
  match tree.read path with
  | .ok bytes => (Text.decode bytes).map Text.unifyLineEnds
  | .error _ => none

/-- The document in a file. -/
def document? (tree : Tree) (path : Path) : Option Json :=
  match tree.text? path with
  | some t => (Json.parse t).toOption
  | none => none

/-- A file that holds the encoding of a text. -/
def Holds (tree : Tree) (path : Path) (t : Text) : Prop :=
  ∃ bytes, t.encode = some bytes ∧ tree.read path = .ok bytes

/-- What can be read of a file depends on what a reader finds at its path. -/
theorem text?_eq_some {tree : Tree} {path : Path} {t : Text} :
    tree.text? path = some t ↔
      ∃ bytes raw, tree.read path = .ok bytes ∧ Text.decode bytes = some raw ∧
        raw.unifyLineEnds = t := by
  unfold text?
  cases tree.read path with
  | error fault => simp
  | ok bytes => simp [Option.map_eq_some_iff]

/-- A document in a file is what its text says. -/
theorem document?_eq_some {tree : Tree} {path : Path} {v : Json} :
    tree.document? path = some v ↔ ∃ t, tree.text? path = some t ∧ Json.parse t = .ok v := by
  unfold document?
  cases tree.text? path with
  | none => simp
  | some t =>
    cases hparse : Json.parse t with
    | error defect => simp [hparse, Except.toOption]
    | ok document => simp [hparse, Except.toOption]

/-- A document is found only in a file that can be read. -/
theorem exists_read_of_document? {tree : Tree} {path : Path} {v : Json}
    (h : tree.document? path = some v) : ∃ bytes, tree.read path = .ok bytes := by
  obtain ⟨t, ht, -⟩ := document?_eq_some.mp h
  obtain ⟨bytes, raw, hread, -⟩ := text?_eq_some.mp ht
  exact ⟨bytes, hread⟩

/-- A path to a document leads to something. -/
theorem exists?_of_document? {tree : Tree} {path : Path} {v : Json} (hdirect : path.IsDirect)
    (h : tree.document? path = some v) : tree.exists? path = .ok true := by
  obtain ⟨bytes, hread⟩ := exists_read_of_document? h
  obtain ⟨hway, hget⟩ := (read_eq_ok hdirect).mp hread
  exact (exists?_eq_ok_true hdirect).mpr ⟨hway, by rw [hget]; rfl⟩

/-- Where two trees are read alike, they hold the same document. -/
theorem document?_congr {tree tree' : Tree} {path : Path}
    (h : ∀ bytes, tree'.read path = .ok bytes ↔ tree.read path = .ok bytes) :
    tree'.document? path = tree.document? path := by
  have hdocument : ∀ v, tree'.document? path = some v ↔ tree.document? path = some v := by
    intro v
    simp only [document?_eq_some, text?_eq_some, h]
  exact Option.ext hdocument

/-- A text is read as before if nothing on the way to its file is at one of the places. -/
theorem Changes.text?_eq {places : Path → Prop} {tree tree' : Tree} (h : Changes places tree tree')
    {path : Path} (hdirect : path.IsDirect) (hpath : ∀ before, before <+: path → ¬places before) :
    tree'.text? path = tree.text? path := by
  unfold text?
  rw [h.read_eq hdirect hpath]

/-- A document is read as before if nothing on the way to its file is at one of the places. -/
theorem Changes.document?_eq {places : Path → Prop} {tree tree' : Tree}
    (h : Changes places tree tree') {path : Path} (hdirect : path.IsDirect)
    (hpath : ∀ before, before <+: path → ¬places before) :
    tree'.document? path = tree.document? path := by
  unfold document?
  rw [h.text?_eq hdirect hpath]

/-- A file that holds a text without carriage returns is read as the text. -/
theorem Holds.text? {tree : Tree} {path : Path} {t : Text} (h : tree.Holds path t)
    (hreturn : CodePoint.char '\r' ∉ t) : tree.text? path = some t := by
  obtain ⟨bytes, hencode, hread⟩ := h
  exact text?_eq_some.mpr
    ⟨bytes, t, hread, Text.decode_encode hencode, Text.unifyLineEnds_eq_self hreturn⟩

/-- A file that holds the text of a document is read as the document. -/
theorem Holds.document? {tree : Tree} {path : Path} {v : Json} (h : tree.Holds path v.fileText)
    (hregular : v.Regular) (hstable : v.Stable) (hdepth : v.depth ≤ Json.maxDepth) :
    tree.document? path = some v :=
  document?_eq_some.mpr ⟨v.fileText, h.text? (Json.not_mem_fileText v),
    Json.parse_fileText hregular hstable hdepth⟩

namespace Leads

variable {tree tree' : Tree} {directory here : Path} {name t : Text}

/-- A file with a name in a directory to which a path leads holds a text exactly if the file system
takes its path and the encoding of the text stands at its place. -/
theorem holds_iff (h : tree.Leads directory here) (hname : name ≠ Path.up ∧ name ≠ Path.top) :
    tree.Holds (directory ++ [name]) t ↔ Path.IsSound (directory ++ [name]) tree.room ∧
      ∃ bytes, t.encode = some bytes ∧ tree.get? (here ++ [name]) = some (.file bytes) := by
  unfold Holds
  simp only [(h.locates_concat hname).read_eq_ok]
  exact ⟨fun ⟨bytes, hencode, hsound, hget⟩ => ⟨hsound, bytes, hencode, hget⟩,
    fun ⟨hsound, bytes, hencode, hget⟩ => ⟨bytes, hencode, hsound, hget⟩⟩

/-- A file in a directory holds what it held if its place has not changed. -/
theorem holds_of_changes (h : tree.Leads directory here)
    (hname : name ≠ Path.up ∧ name ≠ Path.top) {places : Path → Prop}
    (hchanges : Changes places tree tree') (hplace : ¬places (here ++ [name]))
    (hholds : tree.Holds (directory ++ [name]) t) : tree'.Holds (directory ++ [name]) t := by
  obtain ⟨hsound, bytes, hencode, hget⟩ := (h.holds_iff hname).mp hholds
  exact ((h.mono hchanges.keeps).holds_iff hname).mpr
    ⟨hchanges.keeps.room ▸ hsound, bytes, hencode, (hchanges.frame _ hplace).trans hget⟩

/-- Writing a text in a directory changes the place of its file, which holds it then. -/
theorem writeText_spec {w w' : World} (h : w.files.Leads directory here)
    (hname : name ≠ Path.up ∧ name ≠ Path.top) {u : Unit}
    (hwrite : Action.writeText (directory ++ [name]) t w = .ok u w') :
    ∃ files, w' = { w with files } ∧ Changes (· = here ++ [name]) w.files files ∧
      files.Holds (directory ++ [name]) t := by
  obtain ⟨bytes, files, hencode, hfiles, rfl⟩ := Action.writeText_eq_ok.mp hwrite
  obtain ⟨hsound, -⟩ := (h.locates_concat hname).write_eq_ok.mp hfiles
  obtain ⟨hchanges, hget⟩ := h.changes_of_write hname hfiles
  exact ⟨files, rfl, hchanges, ((h.mono hchanges.keeps).holds_iff hname).mpr
    ⟨hchanges.keeps.room ▸ hsound, bytes, hencode, hget⟩⟩

end Leads

namespace Locates

variable {w : World} {path place : Path} {condition : Prop}

/-- A text can be written exactly if it has an encoding and the path leads to a place where no
directory stands. -/
theorem writeText_returns_iff (h : w.files.Locates path place condition) {t : Text} :
    (∃ files, Action.writeText path t w = .ok () { w with files }) ↔
      condition ∧ w.files.get? place ≠ some .directory ∧ t.encode.isSome = true := by
  constructor
  · rintro ⟨files, htext⟩
    obtain ⟨bytes, _, hencode, hwrite, -⟩ := Action.writeText_eq_ok.mp htext
    obtain ⟨hcondition, hfree⟩ := h.write_returns_iff.mp ⟨_, hwrite⟩
    exact ⟨hcondition, hfree, Option.isSome_of_eq_some hencode⟩
  · rintro ⟨hcondition, hfree, hencode⟩
    obtain ⟨bytes, hbytes⟩ := Option.isSome_iff_exists.mp hencode
    obtain ⟨files, hwrite⟩ := h.write_returns_iff.mpr ⟨hcondition, hfree⟩
    exact ⟨_, Action.writeText_eq_ok.mpr ⟨bytes, _, hbytes, hwrite, rfl⟩⟩

/-- A document can be written exactly if its texts have encodings, it fits, and the path leads to a
place where no directory stands. -/
theorem writeDocument_returns_iff (h : w.files.Locates path place condition) {v : Json} :
    (∃ files, Action.writeDocument path v w = .ok () { w with files }) ↔
      condition ∧ w.files.get? place ≠ some .directory ∧
        v.Encodable ∧ v.Fits Json.maxDepth := by
  simp only [Action.writeDocument_eq_ok, exists_and_left, h.writeText_returns_iff,
    Json.encode_fileText]
  exact ⟨fun h => ⟨h.2.1, h.2.2.1, h.2.2.2, h.1⟩, fun h => ⟨h.2.2.2, h.1, h.2.1, h.2.2.1⟩⟩

end Locates

end Tree

namespace Action

variable {w w' : World}

/-- Reading a text gives what the file holds. -/
theorem readText_eq_ok_text? {path : Path} {t : Text} :
    readText path w = .ok t w' ↔ w.files.text? path = some t ∧ w = w' := by
  rw [readText_eq_ok, Tree.text?_eq_some]

/-- Reading a document gives what the file holds. -/
theorem readDocument_eq_ok_document? {path : Path} {v : Json} :
    readDocument path w = .ok v w' ↔ w.files.document? path = some v ∧ w = w' := by
  rw [readDocument_eq_ok, Tree.document?_eq_some]
  constructor
  · rintro ⟨t, hread, hparse⟩
    obtain ⟨ht, hw⟩ := readText_eq_ok_text?.mp hread
    exact ⟨⟨t, ht, hparse⟩, hw⟩
  · rintro ⟨⟨t, ht, hparse⟩, hw⟩
    exact ⟨t, readText_eq_ok_text?.mpr ⟨ht, hw⟩, hparse⟩

/-- Writing a text changes the place of its file, which holds it then. -/
theorem writeText_spec {path : Path} (hpath : path.IsDirect) {t : Text} {u : Unit}
    (h : writeText path t w = .ok u w') :
    ∃ files, w' = { w with files } ∧ Tree.Changes (· = path) w.files files ∧
      files.Holds path t := by
  obtain ⟨bytes, files, hencode, hwrite, rfl⟩ := writeText_eq_ok.mp h
  obtain ⟨hchanges, hread⟩ := Tree.changes_of_write hpath hwrite
  exact ⟨files, rfl, hchanges, bytes, hencode, hread⟩

/-- A document can be written exactly if its texts have encodings, it fits, and a direct path leads
to a place where no directory stands. -/
theorem writeDocument_returns_iff {path : Path} (hpath : path.IsDirect) {v : Json} :
    (∃ files, writeDocument path v w = .ok () { w with files }) ↔
      (path.IsSound w.files.room ∧ w.files.HasWay path) ∧ w.files.get? path ≠ some .directory ∧
        v.Encodable ∧ v.Fits Json.maxDepth :=
  (Tree.locate_direct w.files hpath).writeDocument_returns_iff

/-- A document that has been written can be written again after changes elsewhere. -/
theorem exists_writeDocument_again {path : Path} (hpath : path.IsDirect) {document : Json}
    {u : Unit} {places : Path → Prop} {v : World} (h : writeDocument path document w = .ok u w')
    (hchanges : Tree.Changes places w'.files v.files) (hplace : ¬places path) :
    ∃ files, writeDocument path document v = .ok () { v with files } := by
  obtain ⟨hfits, htext⟩ := writeDocument_eq_ok.mp h
  obtain ⟨files, rfl, -, bytes, hencode, hread⟩ := writeText_spec hpath htext
  obtain ⟨⟨hsound, hway⟩, hfile⟩ := (Tree.read_eq_ok hpath).mp hread
  have hencodable : document.Encodable :=
    Json.encode_fileText.mp (Option.isSome_of_eq_some hencode)
  have hfree : v.files.get? path ≠ some .directory := by
    rw [hchanges.frame path hplace]
    exact Tree.ne_directory_of_file hfile
  exact (writeDocument_returns_iff hpath).mpr
    ⟨⟨hchanges.keeps.room ▸ hsound, hchanges.hasWay hway⟩, hfree, hencodable, hfits⟩

/-- However writing a text ends, at most the place of its file changes. -/
theorem left_writeText {path : Path} (hpath : path.IsDirect) (t : Text) (w : World) :
    ∃ files, left (writeText path t w) = { w with files } ∧
      Tree.Changes (· = path) w.files files := by
  unfold writeText
  refine left_bind (p := fun v => ∃ files, v = { w with files } ∧
    Tree.Changes (· = path) w.files files) (fun u v hwrite => ?_) (fun fault v hwrite => ?_)
  · obtain ⟨files, hfiles, rfl⟩ := changeFiles_eq_ok.mp hwrite
    refine ⟨files, ?_, (Tree.changes_of_write hpath hfiles).1⟩
    split <;> rfl
  · cases hfiles : w.files.write path (t.encode.getD []) with
    | ok files =>
      rw [(changeFiles_eq_ok (u := ())).mpr ⟨files, hfiles, rfl⟩] at hwrite
      cases hwrite
    | error other =>
      rw [changeFiles_of_error hfiles] at hwrite
      cases hwrite
      exact ⟨w.files, rfl, .refl _ _⟩

/-- However writing a document ends, at most the place of its file changes. -/
theorem left_writeDocument {path : Path} (hpath : path.IsDirect) (v : Json) (w : World) :
    ∃ files, left (writeDocument path v w) = { w with files } ∧
      Tree.Changes (· = path) w.files files := by
  by_cases hfits : v.Fits Json.maxDepth
  · rw [writeDocument_of_fits hfits]
    exact left_writeText hpath v.fileText w
  · obtain ⟨obstacle, hobstacle⟩ := Json.exists_dump_eq_error hfits
    rw [writeDocument_of_dump hobstacle]
    exact ⟨w.files, rfl, .refl _ _⟩

end Action

end Toolsmith
