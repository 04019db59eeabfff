import Toolsmith.Proofs.Files.Overlay
import Toolsmith.Proofs.Workplace

/-!
# The output of one service

Writing the output of a service leaves its units and its manifest in its directory and no other
units, whatever has been there. Nothing else changes in the directory and nothing outside it, and no
directory vanishes.
-/

namespace Toolsmith.Generate

variable {w w' : World} {directory here : Path}

/-- A name of a unit's file that is not wanted. -/
def IsStale (wanted : List Text) (name : Text) : Prop :=
  isUnitFile name = true ∧ name ∉ wanted

/-- A name is stale exactly if it is found to be. -/
theorem isStale_iff {wanted : List Text} {name : Text} :
    (isUnitFile name && !wanted.contains name) = true ↔ IsStale wanted name := by
  simp [IsStale]

instance (wanted : List Text) : DecidablePred (IsStale wanted) := fun _ =>
  decidable_of_iff _ isStale_iff

/-- A unit's file is stale if it is that of no unit that is wanted. -/
theorem isStale_of_not_exists {units : List (Text × Text)} {name : Text}
    (hname : isUnitFile name = true) (h : ¬∃ unit ∈ units, name = Naming.unitFile unit.1) :
    IsStale (units.map fun unit => Naming.unitFile unit.1) name := by
  refine ⟨hname, fun hwanted => h ?_⟩
  obtain ⟨unit, hunit, rfl⟩ := List.mem_map.mp hwanted
  exact ⟨unit, hunit, rfl⟩

/-- A name under which output is written: that of a unit's file, or of the manifest. -/
def IsOutput (name : Text) : Prop :=
  isUnitFile name = true ∨ name = Text.ofString "manifest.json"

instance : DecidablePred IsOutput := fun _ => inferInstanceAs (Decidable (_ ∨ _))

/-- Output is written under names that lead downwards. -/
theorem IsOutput.ne_up {name : Text} (h : IsOutput name) : name ≠ Path.up ∧ name ≠ Path.top := by
  rcases h with hunit | rfl
  · exact ne_up_of_isUnitFile hunit
  · decide

/-- A manifest is written under a name that is not that of a unit's file. -/
theorem ne_manifest_of_isUnitFile {name : Text} (h : isUnitFile name = true) :
    name ≠ Text.ofString "manifest.json" := by
  rintro rfl
  exact absurd h (by decide)

/-- The places of output in the directory at a place. -/
def OutputPlaces (here : Path) (place : Path) : Prop :=
  ∃ name, IsOutput name ∧ place = here ++ [name]

/-- After stale units are taken away, none of those listed stands in the directory, and nothing else
has changed. -/
theorem removeStale_spec (hleads : w.files.Leads directory here) {wanted names : List Text}
    {u : Unit} (h : removeStale directory wanted names w = .ok u w') :
    ∃ files, w' = { w with files } ∧
      Tree.Changes (fun place => ∃ name ∈ names, IsStale wanted name ∧ place = here ++ [name])
        w.files files ∧
      ∀ name ∈ names, IsStale wanted name → files.get? (here ++ [name]) = none := by
  induction names generalizing w with
  | nil =>
    obtain ⟨-, rfl⟩ := Action.pure_eq_ok.mp h
    exact ⟨w.files, rfl, .refl _ _, List.forall_mem_nil _⟩
  | cons name names ih =>
    rw [removeStale] at h
    by_cases hstale : IsStale wanted name
    · rw [if_pos (isStale_iff.mpr hstale)] at h
      obtain ⟨_, v, hremove, hrest⟩ := Action.bind_eq_ok.mp h
      obtain ⟨files, hfiles, rfl⟩ := Action.changeFiles_eq_ok.mp hremove
      obtain ⟨hchanges, hnone⟩ := hleads.changes_of_remove (ne_up_of_isUnitFile hstale.1) hfiles
      obtain ⟨files', rfl, hmore, hgone⟩ := ih (hleads.mono hchanges.keeps) hrest
      refine ⟨files', rfl, ?_, List.forall_mem_cons.mpr ⟨fun _ => ?_, hgone⟩⟩
      · refine (hchanges.mono fun place hplace => ?_).trans (hmore.mono fun place hplace => ?_)
        · exact ⟨name, List.mem_cons_self, hstale, hplace⟩
        · obtain ⟨other, hother, hplace⟩ := hplace
          exact ⟨other, List.mem_cons_of_mem _ hother, hplace⟩
      · by_cases hagain : ∃ other ∈ names, IsStale wanted other ∧ here ++ [name] = here ++ [other]
        · obtain ⟨other, hother, hstale, heq⟩ := hagain
          rw [heq]
          exact hgone other hother hstale
        · exact (hmore.frame _ hagain).trans hnone
    · rw [if_neg (mt isStale_iff.mp hstale)] at h
      obtain ⟨files, rfl, hchanges, hgone⟩ := ih hleads h
      refine ⟨files, rfl, hchanges.mono fun place hplace => ?_,
        List.forall_mem_cons.mpr ⟨fun hname => absurd hname hstale, hgone⟩⟩
      obtain ⟨other, hother, hplace⟩ := hplace
      exact ⟨other, List.mem_cons_of_mem _ hother, hplace⟩

/-- What taking stale units out of a directory leaves: nothing at their places. -/
def staleOverlay (directory : Path) (wanted : List Text) : Overlay := fun place =>
  if place = directory ++ [place.name] ∧ IsStale wanted place.name then some none else none

/-- Nothing is left at the place of a stale unit. -/
theorem staleOverlay_of_isStale {wanted : List Text} {name : Text} (h : IsStale wanted name) :
    staleOverlay directory wanted (directory ++ [name]) = some none := by
  have hname : Path.name (directory ++ [name]) = name := by simp [Path.name]
  unfold staleOverlay
  rw [hname]
  exact if_pos ⟨rfl, h⟩

/-- Of a place that is not that of a stale unit nothing is said. -/
theorem staleOverlay_eq_none {wanted : List Text} {place : Path}
    (h : ∀ name, IsStale wanted name → place ≠ directory ++ [name]) :
    staleOverlay directory wanted place = none :=
  if_neg fun hstale => h place.name hstale.2 hstale.1

/-- Taking away the stale units among all that stands in a directory leaves none of them. -/
theorem covers_removeStale (hleads : w.files.Leads directory here) {wanted : List Text} {u : Unit}
    (h : removeStale directory wanted (w.files.sortedNames directory) w = .ok u w') :
    (staleOverlay here wanted).Covers w.files w'.files := by
  obtain ⟨files, rfl, hchanges, hgone⟩ := removeStale_spec hleads h
  intro place
  by_cases hplace : ∃ name, IsStale wanted name ∧ place = here ++ [name]
  · obtain ⟨name, hstale, rfl⟩ := hplace
    rw [staleOverlay_of_isStale hstale, Option.getD_some]
    by_cases hlisted : name ∈ w.files.sortedNames directory
    · exact hgone name hlisted hstale
    · rw [hchanges.frame, ← Option.not_isSome_iff_eq_none,
        ← hleads.mem_names (ne_up_of_isUnitFile hstale.1)]
      · exact fun hmem => hlisted (List.mem_mergeSort.mpr hmem)
      · rintro ⟨other, hmem, -, heq⟩
        rw [(List.cons.inj (List.append_cancel_left heq)).1] at hlisted
        exact hlisted hmem
  · rw [staleOverlay_eq_none fun name hstale heq => hplace ⟨name, hstale, heq⟩, Option.getD_none]
    refine hchanges.frame place fun hchanged => hplace ?_
    obtain ⟨name, -, hstale, heq⟩ := hchanged
    exact ⟨name, hstale, heq⟩

/-- The file of a unit in a directory. -/
def unitPath (directory : Path) (name : Text) : Path :=
  directory ++ [Naming.unitFile name]

/-- After units with distinct names are written, each stands in its file, and nothing else has
changed. -/
theorem writeUnits_spec (hleads : w.files.Leads directory here) {units : List (Text × Text)}
    {u : Unit} (hslash : ∀ unit ∈ units, CodePoint.char '/' ∉ unit.1)
    (hnodup : (units.map Prod.fst).Nodup) (h : writeUnits directory units w = .ok u w') :
    ∃ files, w' = { w with files } ∧
      Tree.Changes (fun place => ∃ unit ∈ units, place = unitPath here unit.1) w.files files ∧
      ∀ unit ∈ units, files.Holds (unitPath directory unit.1) unit.2 := by
  induction units generalizing w with
  | nil =>
    obtain ⟨-, rfl⟩ := Action.pure_eq_ok.mp h
    exact ⟨w.files, rfl, .refl _ _, List.forall_mem_nil _⟩
  | cons unit units ih =>
    obtain ⟨name, source⟩ := unit
    obtain ⟨hname, hnames⟩ := List.forall_mem_cons.mp hslash
    obtain ⟨hnew, hrestNodup⟩ := List.nodup_cons.mp hnodup
    obtain ⟨_, v, hwrite, hrest⟩ := Action.bind_eq_ok.mp h
    have hdown := ne_up_of_isUnitFile (isUnitFile_unitFile name)
    rw [(Naming.isComponent_unitFile hname).within directory] at hwrite
    obtain ⟨files, rfl, hchanges, hholds⟩ := hleads.writeText_spec hdown hwrite
    have hleads' := hleads.mono hchanges.keeps
    obtain ⟨files', rfl, hmore, hothers⟩ := ih hleads' hnames hrestNodup hrest
    refine ⟨files', rfl, ?_, List.forall_mem_cons.mpr ⟨?_, hothers⟩⟩
    · refine (hchanges.mono fun place hplace => ?_).trans (hmore.mono fun place hplace => ?_)
      · exact ⟨(name, source), List.mem_cons_self, hplace⟩
      · obtain ⟨other, hother, hplace⟩ := hplace
        exact ⟨other, List.mem_cons_of_mem _ hother, hplace⟩
    · refine hleads'.holds_of_changes hdown hmore ?_ hholds
      rintro ⟨other, hother, heq⟩
      have hsame := Naming.unitFile_injective (List.cons.inj (List.append_cancel_left heq)).1
      exact hnew (List.mem_map.mpr ⟨other, hother, hsame.symm⟩)

/-- What a directory holds after the output of a service has been written to it: its units and no
other ones, and the manifest. -/
structure Mirrors (files : Tree) (directory : Path) (units : List (Text × Text)) (manifest : Json) :
    Prop where
  there : files.isDirectory directory = true
  sources : ∀ unit ∈ units, files.Holds (unitPath directory unit.1) unit.2
  only : ∀ name, isUnitFile name = true → (files.get? (directory ++ [name])).isSome = true →
    ∃ unit ∈ units, name = Naming.unitFile unit.1
  listing : files.Holds (Workplace.manifestIn directory) manifest.fileText
  fits : manifest.Fits Json.maxDepth

/-- The texts of a manifest that has been written have an encoding. -/
theorem Mirrors.encodable {files : Tree} {directory : Path} {units : List (Text × Text)}
    {manifest : Json} (h : Mirrors files directory units manifest) : manifest.Encodable := by
  obtain ⟨bytes, hencode, -⟩ := h.listing
  exact Json.encode_fileText.mp (by rw [hencode]; rfl)

/-- Writing the output of a service makes its directory, takes stale units out of it, and writes the
units and the manifest. -/
theorem writeOutput_eq_ok {units : List (Text × Text)} {manifest : Json} {u : Unit} :
    writeOutput directory units manifest w = .ok u w' ↔
      ∃ made cleaned filled, w.files.makeDirectories directory = (made, none) ∧
        removeStale directory (units.map fun unit => Naming.unitFile unit.1)
          (made.sortedNames directory) { w with files := made } = .ok () cleaned ∧
        writeUnits directory units cleaned = .ok () filled ∧
        Action.writeDocument (Workplace.manifestIn directory) manifest filled = .ok u w' := by
  constructor
  · intro h
    obtain ⟨_, v, hmake, h⟩ := Action.bind_eq_ok.mp h
    obtain ⟨made, hmade, rfl⟩ := Action.makeDirectories_eq_ok.mp hmake
    simp only [Action.get_bind] at h
    obtain ⟨_, cleaned, hremove, h⟩ := Action.bind_eq_ok.mp h
    obtain ⟨_, filled, hwrite, h⟩ := Action.bind_eq_ok.mp h
    exact ⟨made, cleaned, filled, hmade, hremove, hwrite, h⟩
  · rintro ⟨made, cleaned, filled, hmade, hremove, hwrite, h⟩
    unfold writeOutput
    rw [Action.bind_of_ok (Action.makeDirectories_eq_ok (u := ()).mpr ⟨made, hmade, rfl⟩)]
    simp only [Action.get_bind]
    rw [Action.bind_of_ok hremove, Action.bind_of_ok hwrite]
    exact h

/-- What the output of a service leaves in a directory: its units and no other ones, and the
manifest. -/
structure Replaces (files : Tree) (directory : Path) (units : List (Text × Text)) (manifest : Json) :
    Prop where
  names : ∀ name, isUnitFile name = true →
    (name ∈ files.names directory ↔ ∃ unit ∈ units, name = Naming.unitFile unit.1)
  sources : ∀ unit ∈ units, files.Holds (unitPath directory unit.1) unit.2
  listing : files.Holds (Workplace.manifestIn directory) manifest.fileText

/-- Writing the output of a service to a directory that has been made changes nothing but output in
it, and replaces that. -/
theorem replaces_of_writeOutput {units : List (Text × Text)} {manifest : Json} {u : Unit}
    (hslash : ∀ unit ∈ units, CodePoint.char '/' ∉ unit.1) (hnodup : (units.map Prod.fst).Nodup)
    {made : Tree} (hmake : w.files.makeDirectories directory = (made, none))
    (hleads : made.Leads directory here) (h : writeOutput directory units manifest w = .ok u w') :
    ∃ files, w' = { w with files } ∧ Tree.Changes (OutputPlaces here) made files ∧
      Replaces files directory units manifest := by
  obtain ⟨made', v, v', hmake', hremove, hwrite, h⟩ := writeOutput_eq_ok.mp h
  obtain ⟨rfl, -⟩ := Prod.mk.inj (hmake'.symm.trans hmake)
  have hcovers := covers_removeStale (w := { w with files := made' }) hleads hremove
  obtain ⟨cleaned, rfl, hclean, -⟩ := removeStale_spec hleads hremove
  have hleadsClean := hleads.mono hclean.keeps
  obtain ⟨filled, rfl, hfill, hunits⟩ := writeUnits_spec hleadsClean hslash hnodup hwrite
  have hleadsFill := hleadsClean.mono hfill.keeps
  obtain ⟨-, h⟩ := Action.writeDocument_eq_ok.mp h
  obtain ⟨files, rfl, hlast, hholds⟩ := hleadsFill.writeText_spec (by decide) h
  have hnotManifest : ∀ name, isUnitFile name = true →
      here ++ [name] ≠ here ++ [Text.ofString "manifest.json"] := fun name hname heq =>
    ne_manifest_of_isUnitFile hname (List.cons.inj (List.append_cancel_left heq)).1
  have hsources : ∀ unit ∈ units, files.Holds (unitPath directory unit.1) unit.2 :=
    fun unit hunit => hleadsFill.holds_of_changes (ne_up_of_isUnitFile (isUnitFile_unitFile unit.1))
      hlast (hnotManifest _ (isUnitFile_unitFile _)) (hunits unit hunit)
  refine ⟨files, rfl, ?_, fun name hname => ?_, hsources, hholds⟩
  · refine (hclean.mono fun place hplace => ?_).trans ((hfill.mono fun place hplace => ?_).trans
      (hlast.mono fun place hplace => ?_))
    · obtain ⟨name, -, hstale, rfl⟩ := hplace
      exact ⟨name, .inl hstale.1, rfl⟩
    · obtain ⟨unit, -, rfl⟩ := hplace
      exact ⟨_, .inl (isUnitFile_unitFile unit.1), rfl⟩
    · exact ⟨_, .inr rfl, hplace⟩
  · have hdown := ne_up_of_isUnitFile hname
    have hleadsLast := hleadsFill.mono hlast.keeps
    rw [hleadsLast.mem_names hdown]
    constructor
    · intro hsome
      by_contra hother
      rw [hlast.frame _ (hnotManifest name hname), hfill.frame] at hsome
      · rw [hcovers, staleOverlay_of_isStale (isStale_of_not_exists hname hother)] at hsome
        cases hsome
      · rintro ⟨unit, hunit, heq⟩
        exact hother ⟨unit, hunit, (List.cons.inj (List.append_cancel_left heq)).1⟩
    · rintro ⟨unit, hunit, rfl⟩
      obtain ⟨-, bytes, -, hget⟩ := (hleadsLast.holds_iff hdown).mp (hsources unit hunit)
      rw [hget]
      rfl

/-- Writing the output of a service changes nothing outside its directory, in which its units, no
other ones and its manifest stand then. -/
theorem writeOutput_spec (hdirectory : directory.IsDirect) {units : List (Text × Text)}
    {manifest : Json} {u : Unit} (hslash : ∀ unit ∈ units, CodePoint.char '/' ∉ unit.1)
    (hnodup : (units.map Prod.fst).Nodup)
    (hparent : w.files.HasWay directory)
    (h : writeOutput directory units manifest w = .ok u w') :
    ∃ files, w' = { w with files } ∧ Tree.Changes (directory <+: ·) w.files files ∧
      Mirrors files directory units manifest := by
  obtain ⟨made, _, _, hmake, -, -, hdocument⟩ := writeOutput_eq_ok.mp h
  obtain ⟨hfits, -⟩ := Action.writeDocument_eq_ok.mp hdocument
  obtain ⟨hadds, hthere⟩ := Tree.addsWay_of_makeDirectories hdirectory hmake
  have hleads := Tree.Leads.of_isDirect hdirectory (hthere rfl)
  obtain ⟨files, rfl, hchanges, hreplaces⟩ :=
    replaces_of_writeOutput hslash hnodup hmake hleads h
  have hleads' := hleads.mono hchanges.keeps
  refine ⟨files, rfl, ?_, hleads'.isDirectory, hreplaces.sources, fun name hname hsome => ?_,
    hreplaces.listing, hfits⟩
  · refine ((hadds.changes_last hparent).mono fun place hplace => ?_).trans
      (hchanges.mono fun place hplace => ?_)
    · exact hplace ▸ List.prefix_refl directory
    · obtain ⟨name, -, rfl⟩ := hplace
      exact List.prefix_append _ _
  · exact (hreplaces.names name hname).mp
      ((hleads'.mem_names (ne_up_of_isUnitFile hname)).mpr hsome)

/-- What writing units to a directory leaves: each in its file. -/
def unitsOverlay (directory : Path) : List (Text × Text) → Overlay
  | [] => .empty
  | (name, source) :: rest =>
    (unitsOverlay directory rest).onto (.file (unitPath directory name) source)

/-- Writing units puts their files on a tree. -/
theorem covers_writeUnits (hdirectory : directory.IsDirect) {units : List (Text × Text)} {u : Unit}
    (hslash : ∀ unit ∈ units, CodePoint.char '/' ∉ unit.1)
    (h : writeUnits directory units w = .ok u w') :
    (unitsOverlay directory units).Covers w.files w'.files := by
  induction units generalizing w with
  | nil =>
    obtain ⟨-, rfl⟩ := Action.pure_eq_ok.mp h
    exact Overlay.covers_empty w.files
  | cons unit units ih =>
    obtain ⟨hname, hnames⟩ := List.forall_mem_cons.mp hslash
    obtain ⟨_, v, hwrite, hrest⟩ := Action.bind_eq_ok.mp h
    have hcomponent := Naming.isComponent_unitFile hname
    rw [hcomponent.within directory] at hwrite
    exact (Action.covers_of_writeText (hdirectory.component hcomponent) hwrite).trans
      (ih hnames hrest)

/-- What writing the output of a service leaves: its directory, no stale units, its units and its
manifest. -/
def outputOverlay (directory : Path) (units : List (Text × Text)) (manifest : Json) : Overlay :=
  (Overlay.file (Workplace.manifestIn directory) manifest.fileText).onto
    ((unitsOverlay directory units).onto
      ((staleOverlay directory (units.map fun unit => Naming.unitFile unit.1)).onto
        (.way directory)))

/-- Writing the output of a service leaves the same whatever has stood in its directory. -/
theorem covers_writeOutput (hdirectory : directory.IsDirect) {units : List (Text × Text)}
    {manifest : Json} {u : Unit} (hslash : ∀ unit ∈ units, CodePoint.char '/' ∉ unit.1)
    (h : writeOutput directory units manifest w = .ok u w') :
    (outputOverlay directory units manifest).Covers w.files w'.files := by
  obtain ⟨made, cleaned, filled, hmade, hremove, hwrite, h⟩ := writeOutput_eq_ok.mp h
  obtain ⟨-, hthere⟩ := Tree.addsWay_of_makeDirectories hdirectory hmade
  obtain ⟨-, h⟩ := Action.writeDocument_eq_ok.mp h
  have hmake := Overlay.covers_of_makeDirectories hdirectory hmade
  have hclean := covers_removeStale (w := { w with files := made })
    (.of_isDirect hdirectory (hthere rfl)) hremove
  have hfill := covers_writeUnits hdirectory hslash hwrite
  have hlast := Action.covers_of_writeText (Workplace.isDirect_manifestIn hdirectory) h
  exact ((hmake.trans hclean).trans hfill).trans hlast

/-- The output of a service says something only of places in its directory and on the way to it. -/
theorem outputOverlay_eq_none {units : List (Text × Text)} {manifest : Json} {place : Path}
    (hbelow : ¬directory <+: place) (hway : ¬place <+: directory) :
    outputOverlay directory units manifest place = none := by
  have hne : ∀ name, place ≠ directory ++ [name] := by
    rintro name rfl
    exact hbelow (List.prefix_append _ _)
  have hfile : ∀ name t, Overlay.file (directory ++ [name]) t place = none := fun name t =>
    Overlay.file_of_ne (hne name) t
  have hunits : unitsOverlay directory units place = none := by
    induction units with
    | nil => rfl
    | cons unit units ih => exact Overlay.onto_eq_none.mpr ⟨ih, hfile _ _⟩
  have hstale : ∀ wanted, staleOverlay directory wanted place = none := fun wanted =>
    staleOverlay_eq_none fun name _ => hne name
  refine Overlay.onto_eq_none.mpr ⟨hfile _ _, Overlay.onto_eq_none.mpr ⟨hunits, ?_⟩⟩
  exact Overlay.onto_eq_none.mpr ⟨hstale _, Overlay.way_of_not_prefix hway⟩

end Toolsmith.Generate
