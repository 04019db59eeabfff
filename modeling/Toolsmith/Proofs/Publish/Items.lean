import Toolsmith.Proofs.Publish.Requests
import Toolsmith.Proofs.Text.Order
import Toolsmith.Proofs.Workplace

/-!
# What manifests describe

An entry of a manifest that can be read, with its unit, describes an item to be published. Where
all manifests can be read, publishing takes their items in the order of the directories and of the
entries, and publishes each as a tool with the same name, description, inputs and unit.
-/

namespace Toolsmith.Publish

variable {client : Registry.Client} {clock : Clock} {w w' : World} {files files' : Tree}

/-- What is published of an entry and its unit. -/
structure Item where
  name : Text
  description : Text
  schema : Json
  source : Text

namespace Item

/-- The members of the tool that an item is published as. -/
def members (item : Item) (turn : Nat) : Members :=
  [(Text.ofString "name", .text item.name), (Text.ofString "description", .text item.description),
    (Text.ofString "schema", .text item.schema.oneLine), (Text.ofString "func", .text item.source),
    (Text.ofString "color", color turn)]

/-- The tool that an item is published as. -/
def tool (item : Item) (turn : Nat) : Json :=
  .object (item.members turn)

/-- The texts of an item have an encoding. -/
structure Encodes (item : Item) : Prop where
  name : item.name.encode.isSome = true
  description : item.description.encode.isSome = true
  source : item.source.encode.isSome = true

end Item

/-- The path of a file that an entry names. -/
def unitPath (directory file : Text) : Path :=
  Path.within (Workplace.tools ++ [directory]) file

/-- An entry of a manifest that describes an item: it has its name, description and inputs, and
names a file in its directory from which the unit can be read. The texts have an encoding. -/
structure Describes (files : Tree) (directory : Text) (entry : Json) (item : Item) : Prop where
  name : entry.get? (Text.ofString "name") = some (.text item.name)
  description : entry.get? (Text.ofString "description") = some (.text item.description)
  schema : entry.get? (Text.ofString "schema") = some item.schema
  unit : ∃ file, entry.get? (Text.ofString "file") = some (.text file) ∧ Path.IsComponent file ∧
    files.exists? (unitPath directory file) = .ok true ∧
    files.text? (unitPath directory file) = some item.source
  encodes : item.Encodes

/-- A directory of tools with a manifest whose entries describe items. -/
def Lists (files : Tree) (directory : Text) (items : List Item) : Prop :=
  files.exists? (Workplace.manifestIn (Workplace.tools ++ [directory])) = .ok true ∧
    ∃ entries, files.document? (Workplace.manifestIn (Workplace.tools ++ [directory])) =
      some (.array entries) ∧ List.Forall₂ (Describes files directory) entries items

/-- Directories of tools, with the items of those that have a manifest. -/
inductive ListsAll (files : Tree) : List Text → List (Text × List Item) → Prop
  | nil : ListsAll files [] []
  | pass {directory : Text} {directories : List Text} {listings : List (Text × List Item)}
      (hdirectory : Path.IsComponent directory)
      (hnone : files.exists? (Workplace.manifestIn (Workplace.tools ++ [directory])) = .ok false)
      (rest : ListsAll files directories listings) :
      ListsAll files (directory :: directories) listings
  | take {directory : Text} {directories : List Text} {items : List Item}
      {listings : List (Text × List Item)} (hdirectory : Path.IsComponent directory)
      (hitems : Lists files directory items) (rest : ListsAll files directories listings) :
      ListsAll files (directory :: directories) ((directory, items) :: listings)

/-- The directories of tools, in the order in which they are published. -/
def directories (files : Tree) : List Text :=
  if files.isDirectory Workplace.tools then
    (files.sortedNames Workplace.tools).filter fun name =>
      files.isDirectory (Workplace.tools ++ [name])
  else
    []

/-- A directory of tools is one that stands in the directory of all tools. -/
theorem mem_directories_iff {name : Text} :
    name ∈ directories files ↔ files.isDirectory Workplace.tools = true ∧
      (files.get? (Workplace.tools ++ [name])).isSome = true ∧
      files.isDirectory (Workplace.tools ++ [name]) = true := by
  unfold directories
  by_cases hthere : files.isDirectory Workplace.tools = true
  · have htools := (Tree.isDirectory_eq_true Workplace.isDirect_tools).mp hthere
    rw [if_pos hthere, List.mem_filter, Tree.sortedNames, List.mem_mergeSort,
      Tree.mem_names Workplace.isDirect_tools htools.1 (Workplace.isAbove_tools name)]
    simp only [hthere, true_and]
  · rw [if_neg hthere]
    simp [hthere]

/-- The directories of tools are in order. -/
theorem pairwise_directories (files : Tree) :
    (directories files).Pairwise fun s t => Text.precedes s t = true := by
  unfold directories
  split
  · exact (Text.pairwise_mergeSort _).filter _
  · exact .nil

/-- The directories of tools are distinct. -/
theorem nodup_directories (files : Tree) : (directories files).Nodup := by
  unfold directories
  split
  · have hsorted : (files.sortedNames Workplace.tools).Nodup :=
      (List.mergeSort_perm _ _).nodup_iff.mpr (Tree.nodup_names files _)
    exact hsorted.filter _
  · exact List.nodup_nil

/-- Publishes the tool of an item: it is changed if the registry has a tool of its name, and created
if not. -/
def publishItem (client : Registry.Client) (clock : Clock) (progress : Progress) (item : Item) :
    Action Progress :=
  let tool := item.tool progress.turn
  let progress := { progress with turn := progress.turn + 1 }
  match current? progress.known (.text item.name) with
  | some current => update client clock progress (.text item.name) tool current
  | none => create client clock progress (.text item.name) tool

/-- Publishes the tools of items. -/
def publishItems (client : Registry.Client) (clock : Clock) (progress : Progress) :
    List Item → Action Progress
  | [] => pure progress
  | item :: rest => do
    publishItems client clock (← publishItem client clock progress item) rest

/-- Brings the registry in line with items. -/
def runItems (client : Registry.Client) (clock : Clock) (items : List Item) : Action Result := do
  let names := items.map fun item => .text item.name
  let deletions ← cleanUp client kept names (← existingTools client)
  let known ← Action.ofExcept (byName [] (← existingTools client))
  let record := Record.ofDocument (← readState)
  let start : Progress := ⟨⟨0, 0, 0, 0, deletions.deleted⟩, 0, 0, known, record⟩
  let progress ← publishItems client clock start items
  progress.record.write (clock.read progress.readings)
  pure progress.result

/-- Directories that all have a manifest with items. -/
theorem ListsAll.of_forall {listings : List (Text × List Item)}
    (h : ∀ listing ∈ listings, Path.IsComponent listing.1 ∧ Lists files listing.1 listing.2) :
    ListsAll files (listings.map Prod.fst) listings := by
  induction listings with
  | nil => exact .nil
  | cons listing listings ih =>
    obtain ⟨hlisting, hlistings⟩ := List.forall_mem_cons.mp h
    exact .take hlisting.1 hlisting.2 (ih hlistings)

/-- What a member of an object is, if it has one. -/
theorem need_eq_ok {key : String} {entry v : Json} (h : entry.get? (Text.ofString key) = some v) :
    need key entry = .ok v := by
  cases entry with
  | object members =>
    have hmember : Members.get? members (Text.ofString key) = some v := h
    rw [need, hmember]
  | _ => cases h

/-- The items of a manifest's entries have the names that are read from them. -/
theorem namesOf_eq {directory : Text} {entries : List Json} {items : List Item}
    (h : List.Forall₂ (Describes files directory) entries items) :
    namesOf entries = .ok (items.map fun item => .text item.name) := by
  induction h with
  | nil => rfl
  | @cons entry item entries items hentry _ ih =>
    have hname : nameOf entry = .ok (.text item.name) := by
      rw [nameOf, need_eq_ok hentry.name]
      rfl
    unfold namesOf at ih ⊢
    rw [List.mapM_cons, hname, ih]
    rfl

/-- A directory of tools is below the working directory. -/
theorem isDirect_directory {directory : Text} (h : Path.IsComponent directory) :
    Path.IsDirect (Workplace.tools ++ [directory]) :=
  Workplace.isDirect_tools.component h

/-- Listings with directories that are components, and entries that describe items. -/
def Matches (files : Tree) (listing : Listing) (items : Text × List Item) : Prop :=
  listing.1 = items.1 ∧ Path.IsComponent items.1 ∧
    List.Forall₂ (Describes files items.1) listing.2 items.2

/-- The entries and the names of a manifest come before those of the manifests after it. -/
theorem listings_cons {directory : Text} {manifest : Json} {rest : List (Text × Json)}
    {entries names all : List Json} {found : List Listing}
    (hentries : entriesOf manifest = .ok entries) (hnames : namesOf entries = .ok names) (hrest : listings rest = .ok (found, all)) :
    listings ((directory, manifest) :: rest) =
      .ok ((directory, entries) :: found, names ++ all) := by
  rw [listings, hentries]
  show (namesOf entries >>= _) = _
  rw [hnames, hrest]
  rfl

/-- Manifests with items are read, and their entries describe the items. -/
theorem readManifests_eq_ok {directories : List Text} {listings : List (Text × List Item)}
    (h : ListsAll w.files directories listings) :
    ∃ documents found, readManifests directories w = .ok documents w ∧
      Publish.listings documents = .ok (found, (listings.flatMap Prod.snd).map fun item =>
        .text item.name) ∧
      List.Forall₂ (Matches w.files) found listings := by
  induction h with
  | nil => exact ⟨[], [], rfl, rfl, .nil⟩
  | @pass directory directories listings _ hnone _ ih =>
    obtain ⟨documents, found, hread, hlistings, hmatches⟩ := ih
    refine ⟨documents, found, ?_, hlistings, hmatches⟩
    have hthere := Action.fileExists_eq_ok.mpr ⟨hnone, rfl⟩
    rw [readManifests, Action.bind_of_ok hthere]
    exact hread
  | @take directory directories items listings hdirectory hitems _ ih =>
    obtain ⟨documents, found, hread, hlistings, hmatches⟩ := ih
    obtain ⟨hsome, entries, hdocument, hentries⟩ := hitems
    refine ⟨(directory, .array entries) :: documents, (directory, entries) :: found, ?_, ?_,
      .cons ⟨rfl, hdirectory, hentries⟩ hmatches⟩
    · have hthere := Action.fileExists_eq_ok.mpr ⟨hsome, rfl⟩
      have hmanifest := Action.readDocument_eq_ok_document?.mpr ⟨hdocument, rfl⟩
      rw [readManifests, Action.bind_of_ok hthere, if_pos rfl, Action.bind_of_ok hmanifest,
        Action.bind_of_ok hread]
      rfl
    · rw [List.flatMap_cons, List.map_append]
      exact listings_cons rfl (namesOf_eq hentries) hlistings

/-- No place on the way to a file in a directory of tools is that of the record. -/
theorem ne_state_of_prefix {directory name : Text} {before : Path}
    (h : before <+: Workplace.tools ++ [directory] ++ [name]) : ¬before = Workplace.state := by
  rintro rfl
  exact absurd (List.cons_prefix_cons.mp h).1 (by decide)

/-- An entry describes the same item if at most the record of publishing changes. -/
theorem Describes.of_changes {directory : Text} {entry : Json} {item : Item}
    (h : Describes files directory entry item) (hdirectory : Path.IsComponent directory)
    (hchanges : Tree.Changes (· = Workplace.state) files files') :
    Describes files' directory entry item := by
  obtain ⟨file, hfile, hcomponent, hthere, htext⟩ := h.unit
  have hpath : unitPath directory file = Workplace.tools ++ [directory] ++ [file] :=
    hcomponent.within _
  have hdirect := (isDirect_directory hdirectory).component hcomponent
  refine ⟨h.name, h.description, h.schema, ⟨file, hfile, hcomponent, ?_, ?_⟩, h.encodes⟩
  · rw [hpath] at hthere ⊢
    unfold Tree.exists? at hthere ⊢
    rw [hchanges.find?_eq hdirect fun _ => ne_state_of_prefix]
    exact hthere
  · rw [hpath] at htext ⊢
    rw [hchanges.text?_eq hdirect fun _ => ne_state_of_prefix]
    exact htext

/-- Whether a directory has a manifest does not depend on the record. -/
theorem exists?_manifest_of_changes {directory : Text} (hdirectory : Path.IsComponent directory)
    (hchanges : Tree.Changes (· = Workplace.state) files files') :
    files'.exists? (Workplace.manifestIn (Workplace.tools ++ [directory])) =
      files.exists? (Workplace.manifestIn (Workplace.tools ++ [directory])) := by
  unfold Tree.exists?
  rw [hchanges.find?_eq (Workplace.isDirect_manifestIn (isDirect_directory hdirectory))
    fun _ => ne_state_of_prefix]

/-- Directories have the same items if at most the record of publishing changes. -/
theorem ListsAll.of_changes {directories : List Text} {listings : List (Text × List Item)}
    (h : ListsAll files directories listings)
    (hchanges : Tree.Changes (· = Workplace.state) files files') :
    ListsAll files' directories listings := by
  induction h with
  | nil => exact .nil
  | pass hdirectory hnone _ ih =>
    exact .pass hdirectory ((exists?_manifest_of_changes hdirectory hchanges).trans hnone) ih
  | take hdirectory hitems _ ih =>
    obtain ⟨hsome, entries, hdocument, hentries⟩ := hitems
    refine .take hdirectory ⟨(exists?_manifest_of_changes hdirectory hchanges).trans hsome, entries,
      ?_, hentries.imp fun _ _ hentry => hentry.of_changes hdirectory hchanges⟩ ih
    rw [hchanges.document?_eq (Workplace.isDirect_manifestIn (isDirect_directory hdirectory))
      fun _ => ne_state_of_prefix]
    exact hdocument

/-- The texts of items that are described have encodings. -/
theorem encodes_of_describes {directory : Text} {entries : List Json} {items : List Item}
    (h : List.Forall₂ (Describes files directory) entries items) : ∀ item ∈ items, item.Encodes := by
  induction h with
  | nil => exact List.forall_mem_nil _
  | cons hentry _ ih => exact List.forall_mem_cons.mpr ⟨hentry.encodes, ih⟩

/-- The texts of all items have encodings. -/
theorem ListsAll.encodes {directories : List Text} {listings : List (Text × List Item)}
    (h : ListsAll files directories listings) :
    ∀ item ∈ listings.flatMap Prod.snd, item.Encodes := by
  induction h with
  | nil => exact List.forall_mem_nil _
  | pass _ _ _ ih => exact ih
  | take _ hitems _ ih =>
    obtain ⟨-, entries, -, hentries⟩ := hitems
    rw [List.flatMap_cons, List.forall_mem_append]
    exact ⟨encodes_of_describes hentries, ih⟩

/-- The directories of tools do not depend on the record, if that is a file or not there. -/
theorem directories_of_changes (hstate : files'.get? Workplace.state ≠ some .directory)
    (hchanges : Tree.Changes (· = Workplace.state) files files') :
    directories files' = directories files := by
  have hback : Tree.Keeps files' files := by
    refine ⟨hchanges.keeps.room.symm, fun place hget => ?_⟩
    rw [← hchanges.frame place fun heq => hstate (heq ▸ hget)]
    exact hget
  unfold directories
  simp only [Tree.isDirectory_congr hchanges.keeps hback]
  by_cases hthere : files.isDirectory Workplace.tools = true
  · have hway := ((Tree.isDirectory_eq_true Workplace.isDirect_tools).mp hthere).1
    have hnames : files'.sortedNames Workplace.tools = files.sortedNames Workplace.tools := by
      refine Text.mergeSort_congr (Tree.nodup_names files' _) (Tree.nodup_names files _)
        fun name => ?_
      have hother : Workplace.tools ++ [name] ≠ Workplace.state := by
        simp [Workplace.tools, Workplace.state]
      rw [Tree.mem_names Workplace.isDirect_tools hway (Workplace.isAbove_tools name),
        Tree.mem_names Workplace.isDirect_tools ⟨hchanges.keeps.room ▸ hway.1, hchanges.hasWay hway.2⟩
          (Workplace.isAbove_tools name),
        hchanges.frame _ hother]
    rw [if_pos hthere, if_pos hthere, hnames]
  · rw [if_neg hthere, if_neg hthere]

/-- An entry that describes an item is published as the item. -/
theorem publishEntry_eq {directory : Text} {progress : Progress} {entry : Json} {item : Item}
    (h : Describes w.files directory entry item) :
    publishEntry client clock directory progress entry w =
      publishItem client clock progress item w := by
  obtain ⟨file, hfile, -, hthere, htext⟩ := h.unit
  have hunit : unitOf directory entry = .ok (unitPath directory file) := by
    rw [unitOf, need_eq_ok hfile]
    rfl
  have hpayload : payload entry (.text item.name) (unitPath directory file) progress.turn w =
      .ok (item.tool progress.turn) w := by
    unfold payload
    rw [need_eq_ok h.description, need_eq_ok h.schema,
      Action.bind_of_ok (Action.ofExcept_eq_ok.mpr ⟨rfl, rfl⟩),
      Action.bind_of_ok (Action.ofExcept_eq_ok.mpr ⟨rfl, rfl⟩),
      Action.bind_of_ok (Action.readText_eq_ok_text?.mpr ⟨htext, rfl⟩)]
    rfl
  rw [publishEntry, hunit, Action.bind_of_ok (Action.ofExcept_eq_ok.mpr ⟨rfl, rfl⟩),
    Action.bind_of_ok (Action.fileExists_eq_ok.mpr ⟨hthere, rfl⟩), if_pos rfl, need_eq_ok h.name,
    Action.bind_of_ok (Action.ofExcept_eq_ok.mpr ⟨rfl, rfl⟩), Action.bind_of_ok hpayload]
  rfl

/-- Publishing an item sends its tool, and the next one takes the next turn. -/
theorem sends_publishItem {progress progress' : Progress} {item : Item}
    (h : publishItem client clock progress item w = .ok progress' w') :
    Sends [item.tool progress.turn] w w' ∧ progress'.turn = progress.turn + 1 := by
  unfold publishItem at h
  simp only at h
  cases hcurrent : current? progress.known (.text item.name) with
  | some current =>
    rw [hcurrent] at h
    exact Sends.of_update h
  | none =>
    rw [hcurrent] at h
    exact Sends.of_create h

/-- The tools that items are published as, where the first takes a turn. -/
def tools (turn : Nat) (items : List Item) : List Json :=
  (items.zipIdx turn).map fun item => item.1.tool item.2

/-- Publishing items sends their tools in order. -/
theorem sends_publishItems {progress progress' : Progress} {items : List Item}
    (h : publishItems client clock progress items w = .ok progress' w') :
    Sends (tools progress.turn items) w w' := by
  induction items generalizing progress w with
  | nil =>
    obtain ⟨-, rfl⟩ := Action.pure_eq_ok.mp h
    exact .refl w
  | cons item items ih =>
    obtain ⟨middle, v, hitem, hrest⟩ := Action.bind_eq_ok.mp h
    obtain ⟨hsends, hturn⟩ := sends_publishItem hitem
    have hall := hsends.trans (ih hrest)
    rwa [hturn] at hall

/-- Entries that describe items are published as the items, and what follows goes on with others. -/
theorem publishEntries_eq {directory : Text} (hdirectory : Path.IsComponent directory)
    {entries : List Json} {items rest : List Item} {progress : Progress}
    {more : Progress → Action Progress}
    (h : List.Forall₂ (Describes files directory) entries items)
    (hfiles : Tree.Changes (· = Workplace.state) files w.files)
    (hmore : ∀ progress v, Tree.Changes (· = Workplace.state) files v.files →
      more progress v = publishItems client clock progress rest v) :
    (publishEntries client clock directory progress entries >>= more) w =
      publishItems client clock progress (items ++ rest) w := by
  induction h generalizing w progress with
  | nil =>
    rw [publishEntries, Action.bind_of_ok (Action.pure_eq_ok.mpr ⟨rfl, rfl⟩), List.nil_append]
    exact hmore progress w hfiles
  | @cons entry item entries items hentry _ ih =>
    have hstep : publishEntry client clock directory progress entry w =
        publishItem client clock progress item w :=
      publishEntry_eq (hentry.of_changes hdirectory hfiles)
    rw [publishEntries, List.cons_append, publishItems, bind_assoc]
    refine Action.bind_congr hstep fun middle v hv => ih (hfiles.trans ?_)
    rw [hstep] at hv
    exact (sends_publishItem hv).1.files

/-- Listings that match items are published as the items. -/
theorem publishListings_eq {found : List Listing} {listings : List (Text × List Item)}
    {progress : Progress} (h : List.Forall₂ (Matches files) found listings)
    (hfiles : Tree.Changes (· = Workplace.state) files w.files) :
    publishListings client clock progress found w =
      publishItems client clock progress (listings.flatMap Prod.snd) w := by
  induction h generalizing w progress with
  | nil => rfl
  | @cons listing items found listings hmatches _ ih =>
    obtain ⟨directory, entries⟩ := listing
    obtain ⟨hname, hdirectory, hentries⟩ := hmatches
    obtain rfl : directory = items.1 := hname
    rw [publishListings, List.flatMap_cons]
    exact publishEntries_eq hdirectory hentries hfiles fun progress v hv => ih hv

/-- Where all manifests can be read, a run brings the registry in line with their items. -/
theorem run_eq {listings : List (Text × List Item)}
    (h : ListsAll w.files (directories w.files) listings) :
    run client clock w = runItems client clock (listings.flatMap Prod.snd) w := by
  obtain ⟨documents, found, hread, hlistings, hmatches⟩ := readManifests_eq_ok h
  have hmanifests : manifests w = .ok documents w := by
    unfold manifests
    rw [Action.get_bind]
    unfold directories at hread
    split
    · rename_i hthere
      rwa [if_pos hthere] at hread
    · rename_i hnot
      rwa [if_neg hnot] at hread
  rw [run, Action.bind_of_ok hmanifests, hlistings,
    Action.bind_of_ok (Action.ofExcept_eq_ok.mpr ⟨rfl, rfl⟩)]
  -- both runs are the same up to the first entry, where the record may not have changed yet
  refine Action.bind_congr rfl fun first v hfirst => ?_
  refine Action.bind_congr rfl fun deletions v' hdeletions => ?_
  refine Action.bind_congr rfl fun second u hsecond => ?_
  refine Action.bind_congr rfl fun known u' hknown => ?_
  refine Action.bind_congr rfl fun state u'' hstate => ?_
  have hchanges : Tree.Changes (· = Workplace.state) w.files u''.files := by
    obtain ⟨-, rfl⟩ := Action.ofExcept_eq_ok.mp hknown
    obtain rfl := world_of_readState hstate
    have hsends := ((Sends.of_existingTools hfirst).trans (Sends.of_cleanUp hdeletions)).trans
      (Sends.of_existingTools hsecond)
    exact hsends.files
  exact Action.bind_congr (publishListings_eq hmatches hchanges) fun _ _ _ => rfl

/-- A run that brings the registry in line with items sends their tools in order. -/
theorem sends_runItems {items : List Item} {result : Result}
    (h : runItems client clock items w = .ok result w') : Sends (tools 0 items) w w' := by
  obtain ⟨first, v, hfirst, h⟩ := Action.bind_eq_ok.mp h
  obtain ⟨deletions, v', hdeletions, h⟩ := Action.bind_eq_ok.mp h
  obtain ⟨second, u, hsecond, h⟩ := Action.bind_eq_ok.mp h
  obtain ⟨known, u', hknown, h⟩ := Action.bind_eq_ok.mp h
  obtain ⟨state, u'', hstate, h⟩ := Action.bind_eq_ok.mp h
  obtain ⟨progress, v'', hitems, h⟩ := Action.bind_eq_ok.mp h
  obtain ⟨_, last, hwrite, h⟩ := Action.bind_eq_ok.mp h
  obtain ⟨-, rfl⟩ := Action.pure_eq_ok.mp h
  obtain ⟨-, rfl⟩ := Action.ofExcept_eq_ok.mp hknown
  obtain rfl := world_of_readState hstate
  have hsends := ((((Sends.of_existingTools hfirst).trans (Sends.of_cleanUp hdeletions)).trans
    (Sends.of_existingTools hsecond)).trans (sends_publishItems hitems)).trans (.of_write hwrite)
  simpa using hsends

end Toolsmith.Publish
