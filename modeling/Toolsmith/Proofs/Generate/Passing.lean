import Toolsmith.Proofs.Generate.Locality
import Toolsmith.Proofs.Unit.Encoding

/-!
# When a service is done

A run goes on after a service exactly if its schema can be examined, its tools can be made, and
their units and manifest can be written. A schema that cannot be read is passed over, but one that
is nested too deeply is not, and neither are tools whose texts have no encoding or whose files have
names that are too long.
-/

namespace Toolsmith.Generate

variable {w w' : World} {directory here : Path} {service : Service} {summary : Summary}

/-- A schema that can be examined: it can be told whether it is there, and no text in it is nested
too deeply. -/
structure IsExamined (files : Tree) (service : Service) : Prop where
  told : ∃ there, files.exists? (Workplace.schema service) = .ok there
  shallow : ∀ t, files.text? (Workplace.schema service) = some t → Json.parse t ≠ .error .tooDeep

/-- Whether a text is nested too deeply to be read. -/
def isDeep (t : Text) : Bool :=
  match Json.parse t with
  | .error .tooDeep => true
  | _ => false

/-- A text is nested too deeply if it is given up for that. -/
theorem isDeep_eq_true {t : Text} : isDeep t = true ↔ Json.parse t = .error .tooDeep := by
  unfold isDeep
  split
  · simp [*]
  · rename_i hnot
    exact ⟨nofun, fun hdeep => absurd hdeep hnot⟩

instance (files : Tree) (service : Service) : Decidable (IsExamined files service) :=
  decidable_of_iff ((files.exists? (Workplace.schema service)).toOption.isSome = true ∧
      (files.text? (Workplace.schema service)).all (fun t => !isDeep t) = true) <| by
    constructor
    · rintro ⟨htold, hshallow⟩
      obtain ⟨there, hthere⟩ := Option.isSome_iff_exists.mp htold
      refine ⟨⟨there, Action.eq_ok_of_toOption hthere⟩, fun t ht hdeep => ?_⟩
      rw [ht, Option.all_some, isDeep_eq_true.mpr hdeep] at hshallow
      cases hshallow
    · rintro ⟨⟨there, htold⟩, hshallow⟩
      refine ⟨by rw [htold]; rfl, ?_⟩
      cases ht : files.text? (Workplace.schema service) with
      | none => rfl
      | some t =>
        rw [Option.all_some, Bool.not_eq_true', ← Bool.not_eq_true, isDeep_eq_true]
        exact hshallow t ht

/-- What is there cannot be read only if it is a directory. -/
theorem isUnreadable_of_read_error {files : Tree} {path : Path} (hdirect : path.IsDirect)
    (hthere : files.exists? path = .ok true) {fault : Fault} (h : files.read path = .error fault) :
    fault.isUnreadable = true := by
  obtain ⟨hway, hsome⟩ := (Tree.exists?_eq_ok_true hdirect).mp hthere
  obtain ⟨entry, hentry⟩ := Option.isSome_iff_exists.mp hsome
  unfold Tree.read at h
  simp only [(Tree.locate_eq_ok hdirect).mpr ⟨rfl, hway⟩, hentry] at h
  cases entry with
  | directory =>
    cases h
    rfl
  | file bytes => cases h

/-- A file that is there is given up as unreadable, unless its text is nested too deeply. -/
theorem isUnreadable_of_readSchema_error {path : Path} (hdirect : path.IsDirect)
    (hthere : w.files.exists? path = .ok true)
    (hshallow : ∀ t, w.files.text? path = some t → Json.parse t ≠ .error .tooDeep) {fault : Fault}
    (h : readSchema path w = .error fault w') : fault.isUnreadable = true := by
  rcases Action.bind_eq_error.mp h with hdocument | ⟨v, _, -, hobject⟩
  · rcases Action.bind_eq_error.mp hdocument with htext | ⟨t, v, htext, hparse⟩
    · unfold Action.readText at htext
      rw [Action.get_bind] at htext
      rcases Action.bind_eq_error.mp htext with hbytes | ⟨bytes, _, -, hdecode⟩
      · exact isUnreadable_of_read_error hdirect hthere (Action.ofExcept_eq_error.mp hbytes).1
      · cases hraw : Text.decode bytes with
        | some raw =>
          rw [hraw] at hdecode
          cases hdecode
        | none =>
          rw [hraw] at hdecode
          cases hdecode
          rfl
    · have hnot := hshallow t (Action.readText_eq_ok_text?.mp htext).1
      cases hdefect : Json.parse t with
      | ok document =>
        rw [hdefect] at hparse
        cases hparse
      | error defect =>
        rw [hdefect] at hparse
        cases hparse
        cases defect with
        | malformed => rfl
        | tooManyDigits count => rfl
        | tooDeep => exact absurd hdefect hnot
  · cases v <;> cases hobject <;> rfl

/-- The attempt to read a schema that is there returns exactly if its text is not nested too
deeply. -/
theorem readSchema?_returns_iff {path : Path} (hdirect : path.IsDirect)
    (hthere : w.files.exists? path = .ok true) :
    (∃ document w', readSchema? path w = .ok document w') ↔
      ∀ t, w.files.text? path = some t → Json.parse t ≠ .error .tooDeep := by
  constructor
  · rintro ⟨document, w', h⟩ t ht hdeep
    have hdocument : Action.readDocument path w = .error .tooDeep w := by
      refine Action.bind_eq_error.mpr
        (.inr ⟨t, w, Action.readText_eq_ok_text?.mpr ⟨ht, rfl⟩, ?_⟩)
      rw [hdeep]
      rfl
    have hread : readSchema path w = .error .tooDeep w :=
      Action.bind_eq_error.mpr (.inl hdocument)
    have hsome : (do pure (some (← readSchema path)) : Action (Option Members)) w =
        .error .tooDeep w :=
      Action.bind_eq_error.mpr (.inl hread)
    rcases Action.tryCatch_eq_ok.mp h with hok | ⟨fault, v, hfault, hhandle⟩
    · rw [hsome] at hok
      cases hok
    · rw [hsome] at hfault
      cases hfault
      cases hhandle
  · intro hshallow
    cases hread : readSchema path w with
    | ok document v =>
      exact ⟨some document, v, Action.tryCatch_eq_ok.mpr
        (.inl (Action.bind_eq_ok.mpr ⟨document, v, hread, rfl⟩))⟩
    | error fault v =>
      have hunreadable := isUnreadable_of_readSchema_error hdirect hthere hshallow hread
      refine ⟨none, v, Action.tryCatch_eq_ok.mpr (.inr ⟨fault, v, ?_, ?_⟩)⟩
      · exact Action.bind_eq_error.mpr (.inl hread)
      · rw [if_pos hunreadable]
        rfl

/-- Looking for a schema returns exactly if it can be examined. -/
theorem schemaOf_returns_iff (hkey : Path.IsComponent service.key) :
    (∃ document w', schemaOf service w = .ok document w') ↔ IsExamined w.files service := by
  have hdirect := Workplace.isDirect_schema hkey
  constructor
  · rintro ⟨document, w', h⟩
    obtain ⟨there, v, hasked, h⟩ := Action.bind_eq_ok.mp h
    obtain ⟨htold, rfl⟩ := Action.fileExists_eq_ok.mp hasked
    refine ⟨⟨there, htold⟩, fun t ht => ?_⟩
    obtain ⟨bytes, raw, hread, -⟩ := Tree.text?_eq_some.mp ht
    obtain ⟨hway, hget⟩ := (Tree.read_eq_ok hdirect).mp hread
    have hthere : w.files.exists? (Workplace.schema service) = .ok true := by
      rw [Tree.exists?_of_hasWay hdirect hway, hget]
      rfl
    rw [hthere] at htold
    cases htold
    exact (readSchema?_returns_iff hdirect hthere).mp ⟨document, w', h⟩ t ht
  · rintro ⟨⟨there, htold⟩, hshallow⟩
    have hasked := (Action.fileExists_eq_ok (w := w)).mpr ⟨htold, rfl⟩
    unfold schemaOf
    rw [Action.bind_of_ok hasked]
    cases there with
    | false => exact ⟨none, w, rfl⟩
    | true => exact (readSchema?_returns_iff hdirect htold).mpr hshallow

/-- Units and a manifest that can be written to a directory: a file system with so much room takes
the names of their files, their texts have encodings, and the manifest fits. -/
structure IsWritable (room : Nat) (directory : Path) (units : List (Text × Text)) (manifest : Json) :
    Prop where
  there : directory.IsSound room
  sources : ∀ unit ∈ units,
    (unitPath directory unit.1).IsSound room ∧ unit.2.encode.isSome = true
  listing : (Workplace.manifestIn directory).IsSound room
  encodable : manifest.Encodable
  fits : manifest.Fits Json.maxDepth

/-- A directory in which there is room for units and a manifest: it is there, units in it are files
that can be read, and no directory stands in the place of the manifest. -/
structure HasRoom (files : Tree) (directory : Path) : Prop where
  there : files.isDirectory directory = true
  units : ∀ name, isUnitFile name = true → files.get? (directory ++ [name]) = none ∨
    ∃ bytes, files.read (directory ++ [name]) = .ok bytes
  listing : files.get? (Workplace.manifestIn directory) ≠ some .directory

/-- Room for units stays after a change at one place, if what stands there then is a file that can
be read, or nothing. -/
theorem HasRoom.of_changes_at (hdirectory : directory.IsDirect) {files files' : Tree} {path : Path}
    (h : HasRoom files directory) (hchanges : Tree.Changes (· = path) files files')
    (hplace : files'.get? path = none ∨ ∃ bytes, files'.read path = .ok bytes)
    (hpath : path.IsDirect) : HasRoom files' directory := by
  refine ⟨hchanges.keeps.isDirectory h.there, fun name hname => ?_, ?_⟩
  · by_cases heq : directory ++ [name] = path
    · rwa [heq]
    · obtain ⟨hup, htop⟩ := ne_up_of_isUnitFile hname
      rw [hchanges.frame _ heq]
      exact (h.units name hname).imp_right fun ⟨bytes, hread⟩ =>
        ⟨bytes, hchanges.read (hdirectory.concat hup htop) heq hread⟩
  · by_cases heq : Workplace.manifestIn directory = path
    · rw [heq]
      rcases hplace with hnone | ⟨bytes, hread⟩
      · exact Tree.ne_directory_of_none hnone
      · exact Tree.ne_directory_of_read hpath hread
    · rw [hchanges.frame _ heq]
      exact h.listing

/-- Whatever is written to a directory with room for units, there is room after it. -/
theorem isLocal_hasRoom (hdirectory : directory.IsDirect) :
    IsLocal directory (HasRoom · directory) := by
  constructor
  · intro tree tree' fault? h hmake
    rw [Tree.makeDirectories_of_isDirectory hdirectory h.there] at hmake
    cases hmake
    exact h
  · intro name hname tree tree' bytes h hwrite
    have hdirect := hdirectory.concat hname.1 hname.2
    obtain ⟨hchanges, hread⟩ := Tree.changes_of_write hdirect hwrite
    exact h.of_changes_at hdirectory hchanges (.inr ⟨bytes, hread⟩) hdirect
  · intro name hname tree tree' h hremove
    have hdirect := hdirectory.concat hname.1 hname.2
    obtain ⟨hchanges, hnone⟩ := Tree.changes_of_remove hdirect hremove
    exact h.of_changes_at hdirectory hchanges (.inl hnone) hdirect

/-- A directory in which only files stand under the names of output. -/
def HasFiles (files : Tree) (directory : Path) : Prop :=
  ∀ name ∈ files.names directory, IsOutput name → files.isFile (directory ++ [name]) = true

instance (files : Tree) (directory : Path) : Decidable (HasFiles files directory) :=
  inferInstanceAs (Decidable (∀ name ∈ files.names directory, _))

/-- Under the names of output, there is nothing in a directory or a file to which a path leads. -/
theorem HasFiles.get? {files : Tree} (hleads : files.Leads directory here)
    (h : HasFiles files directory) {name : Text} (hname : IsOutput name) :
    files.get? (here ++ [name]) = none ∨
      Path.IsSound (directory ++ [name]) files.room ∧
        ∃ bytes, files.get? (here ++ [name]) = some (.file bytes) := by
  cases hget : files.get? (here ++ [name]) with
  | none => exact .inl rfl
  | some entry =>
    have hlisted : name ∈ files.names directory := by
      rw [hleads.mem_names hname.ne_up, hget]
      rfl
    rw [← hget]
    exact .inr ((hleads.locates_concat hname.ne_up).isFile_eq_true.mp (h name hlisted hname))

/-- Where there is room for units and a manifest, only files stand under their names. -/
theorem HasRoom.hasFiles (hdirectory : directory.IsDirect) {files : Tree}
    (h : HasRoom files directory) (hlisting : (Workplace.manifestIn directory).IsSound files.room) :
    HasFiles files directory := by
  have hleads := Tree.Leads.of_isDirect hdirectory h.there
  intro name hname houtput
  have hlocates := hleads.locates_concat houtput.ne_up
  have hsome := (hleads.mem_names houtput.ne_up).mp hname
  rw [hlocates.isFile_eq_true]
  rcases houtput with hunit | rfl
  · rcases h.units name hunit with hnone | ⟨bytes, hread⟩
    · rw [hnone] at hsome
      cases hsome
    · obtain ⟨hsound, hget⟩ := hlocates.read_eq_ok.mp hread
      exact ⟨hsound, bytes, hget⟩
  · obtain ⟨entry, hentry⟩ := Option.isSome_iff_exists.mp hsome
    cases entry with
    | file bytes => exact ⟨hlisting, bytes, hentry⟩
    | directory => exact absurd hentry h.listing

/-- A directory to which a path leads, in which no directory stands in the place of output. -/
structure IsFree (directory here : Path) (room : Nat) (files : Tree) : Prop where
  leads : files.Leads directory here
  room : files.room = room
  free : ∀ name, IsOutput name → files.get? (here ++ [name]) ≠ some .directory

/-- No directory stands in the place of output after a change at one place where none stands
then. -/
theorem IsFree.of_changes_at {files files' : Tree} {path : Path} {room : Nat}
    (h : IsFree directory here room files) (hchanges : Tree.Changes (· = path) files files')
    (hpath : files'.get? path ≠ some .directory) : IsFree directory here room files' := by
  refine ⟨h.leads.mono hchanges.keeps, hchanges.keeps.room.trans h.room, fun name hname => ?_⟩
  by_cases heq : here ++ [name] = path
  · rwa [heq]
  · rw [hchanges.frame _ heq]
    exact h.free name hname

/-- No directory comes to stand in the place of output. -/
theorem isKeptByOutput_isFree {room : Nat} :
    IsKeptByOutput directory (IsFree directory here room) := by
  constructor
  · intro tree tree' fault? h hmake
    rw [h.leads.makeDirectories] at hmake
    cases hmake
    exact h
  · intro name hname tree tree' bytes h hwrite
    obtain ⟨hchanges, hget⟩ := h.leads.changes_of_write hname.ne_up hwrite
    exact h.of_changes_at hchanges (Tree.ne_directory_of_file hget)
  · intro name hname tree tree' h hremove
    obtain ⟨hchanges, hnone⟩ := h.leads.changes_of_remove (ne_up_of_isUnitFile hname) hremove
    exact h.of_changes_at hchanges (Tree.ne_directory_of_none hnone)

/-- Stale units can be taken away if they are files to which paths lead, each listed once. -/
theorem exists_removeStale (hleads : w.files.Leads directory here) (wanted : List Text)
    {names : List Text} (hnodup : names.Nodup)
    (hfiles : ∀ name ∈ names, isUnitFile name = true →
      Path.IsSound (directory ++ [name]) w.files.room ∧
        ∃ bytes, w.files.get? (here ++ [name]) = some (.file bytes)) :
    ∃ files, removeStale directory wanted names w = .ok () { w with files } := by
  induction names generalizing w with
  | nil => exact ⟨w.files, rfl⟩
  | cons name names ih =>
    obtain ⟨hname, hnames⟩ := List.forall_mem_cons.mp hfiles
    obtain ⟨hnew, hrest⟩ := List.nodup_cons.mp hnodup
    rw [removeStale]
    by_cases hstale : (isUnitFile name && !wanted.contains name) = true
    · rw [if_pos hstale]
      have hunit := (Bool.and_eq_true_iff.mp hstale).1
      have hdown := ne_up_of_isUnitFile hunit
      obtain ⟨hsound, hfile⟩ := hname hunit
      obtain ⟨rest, hremove⟩ :=
        (hleads.locates_concat hdown).remove_returns_iff.mpr ⟨hsound, hfile⟩
      obtain ⟨hchanges, -⟩ := hleads.changes_of_remove hdown hremove
      have hrestFiles : ∀ other ∈ names, isUnitFile other = true →
          Path.IsSound (directory ++ [other]) rest.room ∧
            ∃ bytes, rest.get? (here ++ [other]) = some (.file bytes) := by
        intro other hother hotherUnit
        rw [hchanges.frame (here ++ [other]), hchanges.keeps.room]
        · exact hnames other hother hotherUnit
        · intro heq
          rw [(List.cons.inj (List.append_cancel_left heq)).1] at hother
          exact hnew hother
      obtain ⟨files, hmore⟩ := ih (w := { w with files := rest })
        (hleads.mono hchanges.keeps) hrest hrestFiles
      refine ⟨files, ?_⟩
      rw [Action.bind_of_ok (Action.changeFiles_eq_ok (u := ()).mpr ⟨_, hremove, rfl⟩)]
      exact hmore
    · rw [if_neg hstale]
      exact ih hleads hrest hnames

/-- Units with encodings can be written to a directory in which no directory stands in their
place. -/
theorem exists_writeUnits {units : List (Text × Text)} {room : Nat}
    (hslash : ∀ unit ∈ units, CodePoint.char '/' ∉ unit.1) (h : IsFree directory here room w.files)
    (hunits : ∀ unit ∈ units,
      (unitPath directory unit.1).IsSound room ∧ unit.2.encode.isSome = true) :
    ∃ files, writeUnits directory units w = .ok () { w with files } := by
  induction units generalizing w with
  | nil => exact ⟨w.files, rfl⟩
  | cons unit units ih =>
    obtain ⟨hunit, hrestSlash⟩ := List.forall_mem_cons.mp hslash
    obtain ⟨⟨hsound, hencode⟩, hrest⟩ := List.forall_mem_cons.mp hunits
    have houtput : IsOutput (Naming.unitFile unit.1) := .inl (isUnitFile_unitFile unit.1)
    obtain ⟨files, hwrite⟩ := (h.leads.locates_concat houtput.ne_up).writeText_returns_iff.mpr
      ⟨h.room ▸ hsound, h.free _ houtput, hencode⟩
    obtain ⟨files', hmore⟩ := ih (w := { w with files }) hrestSlash
      ((Action.Preserves.writeText _ (isKeptByOutput_isFree.write _ houtput)).of_ok h hwrite) hrest
    refine ⟨files', ?_⟩
    rw [writeUnits, (Naming.isComponent_unitFile hunit).within, Action.bind_of_ok hwrite]
    exact hmore

/-- Output that can be written is written to a directory that is made, if only files stand in it
under the names of output. -/
theorem exists_writeOutput {units : List (Text × Text)} {manifest : Json}
    (hslash : ∀ unit ∈ units, CodePoint.char '/' ∉ unit.1) {made : Tree}
    (hmake : w.files.makeDirectories directory = (made, none)) (hfiles : HasFiles made directory)
    (h : IsWritable w.files.room directory units manifest) :
    ∃ w', writeOutput directory units manifest w = .ok () w' := by
  let wanted := units.map fun unit => Naming.unitFile unit.1
  obtain ⟨here, hleads⟩ := Tree.exists_leads (Tree.isDirectory_of_makeDirectories hmake)
  have hfree : IsFree directory here w.files.room made := by
    refine ⟨hleads, (Tree.grows_of_makeDirectories hmake).room, fun name hname => ?_⟩
    rcases hfiles.get? hleads hname with hnone | ⟨-, bytes, hfile⟩
    · exact Tree.ne_directory_of_none hnone
    · exact Tree.ne_directory_of_file hfile
  have hstale : ∀ name ∈ made.sortedNames directory, isUnitFile name = true →
      Path.IsSound (directory ++ [name]) made.room ∧
        ∃ bytes, made.get? (here ++ [name]) = some (.file bytes) := by
    intro name hname hunit
    have hsome := (hleads.mem_names (ne_up_of_isUnitFile hunit)).mp (List.mem_mergeSort.mp hname)
    exact (hfiles.get? hleads (.inl hunit)).resolve_left (Option.isSome_iff_ne_none.mp hsome)
  have hsorted : (made.sortedNames directory).Nodup :=
    (List.mergeSort_perm _ _).nodup_iff.mpr (made.nodup_names directory)
  obtain ⟨cleaned, hremove⟩ :=
    exists_removeStale (w := { w with files := made }) hleads wanted hsorted hstale
  have hcleaned := (preserves_removeStale isKeptByOutput_isFree wanted _).of_ok hfree hremove
  obtain ⟨filled, hwrite⟩ := exists_writeUnits hslash hcleaned h.sources
  have hfilled := (preserves_writeUnits isKeptByOutput_isFree hslash).of_ok hcleaned hwrite
  obtain ⟨files, hmanifest⟩ := (hfilled.leads.locates_concat (by decide)).writeDocument_returns_iff.mpr
    ⟨hfilled.room ▸ h.listing, hfilled.free _ (.inr rfl), h.encodable, h.fits⟩
  exact ⟨_, writeOutput_eq_ok.mpr ⟨made, _, _, hmake, hremove, hwrite, hmanifest⟩⟩

/-- Output that can be written is written to a directory in which nothing stands. -/
theorem exists_writeOutput_of_none (hdirectory : directory.IsDirect) (hne : directory ≠ [])
    {units : List (Text × Text)} {manifest : Json}
    (hslash : ∀ unit ∈ units, CodePoint.char '/' ∉ unit.1)
    (hway : w.files.HasWay directory)
    (hfresh : ∀ place, directory <+: place → w.files.get? place = none)
    (h : IsWritable w.files.room directory units manifest) :
    ∃ w', writeOutput directory units manifest w = .ok () w' := by
  obtain ⟨hplace, hmake⟩ := Tree.makeDirectories_of_hasWay hdirectory hne ⟨h.there, hway⟩
    (hfresh directory List.prefix_rfl)
  obtain ⟨hadds, hthere⟩ := Tree.addsWay_of_makeDirectories hdirectory hmake
  have hnone : ∀ name,
      (w.files.set directory .directory hplace).get? (directory ++ [name]) = none := by
    intro name
    rw [(hadds.changes_last hway).frame _ (by simp)]
    exact hfresh _ (List.prefix_append _ _)
  have hroom : HasRoom (w.files.set directory .directory hplace) directory :=
    ⟨hthere rfl, fun name _ => .inl (hnone name), Tree.ne_directory_of_none (hnone _)⟩
  exact exists_writeOutput hslash hmake (hroom.hasFiles hdirectory h.listing) h

/-- Output has been written only if it can be. -/
theorem isWritable_of_holds {files : Tree} {units : List (Text × Text)} {manifest : Json}
    (hthere : files.isDirectory directory = true)
    (hsources : ∀ unit ∈ units, files.Holds (unitPath directory unit.1) unit.2)
    (hlisting : files.Holds (Workplace.manifestIn directory) manifest.fileText)
    (hfits : manifest.Fits Json.maxDepth) : IsWritable files.room directory units manifest := by
  obtain ⟨here, hlocate, -⟩ := Tree.isDirectory_iff.mp hthere
  obtain ⟨bytes, hencode, hread⟩ := hlisting
  refine ⟨Tree.isSound_of_locate hlocate, fun unit hunit => ?_, Tree.isSound_of_read hread,
    Json.encode_fileText.mp (Option.isSome_of_eq_some hencode), hfits⟩
  obtain ⟨source, hsource, hunitRead⟩ := hsources unit hunit
  exact ⟨Tree.isSound_of_read hunitRead, Option.isSome_of_eq_some hsource⟩

/-- The tools of a document can be written exactly if the file system takes the names of their
files, their manifest has an encoding and fits, and what opens their units has an encoding. -/
theorem isWritable_iff {document : Members} {tools : List Tool} {room : Nat}
    (h : Tool.ofDocument service document = .ok tools) :
    IsWritable room directory (Tool.units tools) (Tool.manifest tools) ↔
      directory.IsSound room ∧ (Workplace.manifestIn directory).IsSound room ∧
        (Tool.manifest tools).Encodable ∧ (Tool.manifest tools).Fits Json.maxDepth ∧
        ∀ tool ∈ tools, (unitPath directory tool.name).IsSound room ∧
          (Context.docLine (if tool.operation.summary.isEmpty then tool.operation.description
            else tool.operation.summary)).encode.isSome = true ∧
          (Context.docLine tool.operation.path).encode.isSome = true := by
  have hunits := Tool.units_eq_map (Tool.nodup_ofDocument h)
  constructor
  · rintro ⟨hthere, hsources, hlisting, hencodable, hfits⟩
    refine ⟨hthere, hlisting, hencodable, hfits, fun tool htool => ?_⟩
    rw [hunits] at hsources
    obtain ⟨hsound, hencode⟩ := hsources _ (List.mem_map_of_mem htool)
    exact ⟨hsound, (Tool.encode_source h htool).mp hencode⟩
  · rintro ⟨hthere, hlisting, hencodable, hfits, htools⟩
    refine ⟨hthere, ?_, hlisting, hencodable, hfits⟩
    rw [hunits]
    refine List.forall_mem_map.mpr fun tool htool => ?_
    obtain ⟨hsound, hopening⟩ := htools tool htool
    exact ⟨hsound, (Tool.encode_source h htool).mpr hopening⟩

/-- Whether a file system with so much room takes a path and all names on it. -/
def isTaken (room : Nat) (path : Path) : Bool :=
  (path.textFault? room).isNone && path.all fun name => !Path.isLongName name

/-- The names on a path are taken exactly if the path is sound. -/
theorem isTaken_eq_true {path : Path} {room : Nat} :
    isTaken room path = true ↔ path.IsSound room := by
  simp [isTaken, Path.IsSound]

/-- Whether tools can be written to a directory. Their units do not have to be looked at. -/
def canWrite (room : Nat) (directory : Path) (tools : List Tool) : Bool :=
  isTaken room directory && isTaken room (Workplace.manifestIn directory) &&
    (Tool.manifest tools).fileText.encode.isSome &&
    decide ((Tool.manifest tools).Fits Json.maxDepth) &&
    tools.all fun tool => isTaken room (unitPath directory tool.name) &&
      (Context.docLine (if tool.operation.summary.isEmpty then tool.operation.description
        else tool.operation.summary)).encode.isSome &&
      (Context.docLine tool.operation.path).encode.isSome

/-- The tools of a document can be written exactly if the check says so. -/
theorem canWrite_eq_true {document : Members} {tools : List Tool} {room : Nat}
    (h : Tool.ofDocument service document = .ok tools) :
    canWrite room directory tools = true ↔
      IsWritable room directory (Tool.units tools) (Tool.manifest tools) := by
  rw [isWritable_iff h]
  simp only [canWrite, Bool.and_eq_true, isTaken_eq_true, List.all_eq_true, decide_eq_true_eq,
    Json.encode_fileText, and_assoc]

/-- An outcome that a run can bring about for a service. -/
def Outcome.IsWritable (room : Nat) (service : Service) : Outcome → Prop
  | listed tools =>
    Generate.IsWritable room (Workplace.toolsOf service) (Tool.units tools) (Tool.manifest tools)
  | failed _ => False
  | _ => True

/-- A service after which a run goes on: its schema can be examined, and what follows from it can be
written. -/
structure Passes (files : Tree) (service : Service) : Prop where
  examined : IsExamined files service
  writable : (outcome files service).IsWritable files.room service

/-- Whether a run can bring about an outcome for a service. -/
def Outcome.canWrite (room : Nat) (service : Service) : Outcome → Bool
  | listed tools => Generate.canWrite room (Workplace.toolsOf service) tools
  | failed _ => false
  | _ => true

instance (files : Tree) (service : Service) : Decidable (Passes files service) :=
  decidable_of_iff
    (IsExamined files service ∧ (outcome files service).canWrite files.room service = true) <| by
    have hwritable : (outcome files service).canWrite files.room service = true ↔
        (outcome files service).IsWritable files.room service := by
      cases houtcome : outcome files service with
      | listed tools =>
        obtain ⟨document, -, hmade, -⟩ := outcome_eq_listed houtcome
        exact canWrite_eq_true hmade
      | failed fault => exact ⟨nofun, False.elim⟩
      | skipped => exact ⟨fun _ => trivial, fun _ => rfl⟩
      | silent => exact ⟨fun _ => trivial, fun _ => rfl⟩
    rw [hwritable]
    exact ⟨fun h => ⟨h.1, h.2⟩, fun h => ⟨h.1, h.2⟩⟩

/-- A schema that can be read can be examined. -/
theorem isExamined_of_document? {files : Tree} {document : Members}
    (hkey : Path.IsComponent service.key) (h : document? files service = some document) :
    IsExamined files service := by
  have hdocument := document?_eq_some.mp h
  refine ⟨⟨true, Tree.exists?_of_document? (Workplace.isDirect_schema hkey) hdocument⟩, ?_⟩
  intro t ht hdeep
  obtain ⟨t', ht', hparse⟩ := Tree.document?_eq_some.mp hdocument
  rw [ht', Option.some.injEq] at ht
  rw [ht, hdeep] at hparse
  cases hparse

/-- A run goes on after a service whose schema has no operations. -/
theorem Passes.of_silent {files : Tree} {document : Members} (hkey : Path.IsComponent service.key)
    (h : document? files service = some document)
    (hempty : (operations service document).isEmpty = true) :
    Passes files service ∧ outcome files service = .silent := by
  have houtcome : outcome files service = .silent := by
    unfold outcome
    simp only [h, if_pos hempty]
  exact ⟨⟨isExamined_of_document? hkey h, by rw [houtcome]; trivial⟩, houtcome⟩

/-- Whether a run goes on after a service depends on nothing but its schema. -/
theorem Passes.congr {files files' : Tree} {places : Path → Prop}
    (hkey : Path.IsComponent service.key) (h : Tree.Changes places files files')
    (hplaces : ∀ before, before <+: Workplace.schema service → ¬places before) :
    Passes files' service ↔ Passes files service := by
  have hdirect := Workplace.isDirect_schema hkey
  have hfind := h.find?_eq hdirect hplaces
  have hexists : files'.exists? (Workplace.schema service) =
      files.exists? (Workplace.schema service) := by
    unfold Tree.exists?
    rw [hfind]
  have htext := h.text?_eq hdirect hplaces
  have houtcome := outcome_congr hkey h hplaces
  constructor
  · rintro ⟨⟨htold, hshallow⟩, hwritable⟩
    rw [hexists] at htold
    rw [htext] at hshallow
    rw [houtcome, h.keeps.room] at hwritable
    exact ⟨⟨htold, hshallow⟩, hwritable⟩
  · rintro ⟨⟨htold, hshallow⟩, hwritable⟩
    rw [← hexists] at htold
    rw [← htext] at hshallow
    rw [← houtcome, ← h.keeps.room] at hwritable
    exact ⟨⟨htold, hshallow⟩, hwritable⟩

/-- Nothing stands where the tools of a service are written, if there are any. -/
def IsClear (files : Tree) (service : Service) : Prop :=
  ∀ tools, outcome files service = .listed tools →
    ∀ place, Workplace.toolsOf service <+: place → files.get? place = none

/-- A run that goes on after a service could: what has been written can be. -/
theorem passes_of_runService (hkey : Path.IsComponent service.key)
    (hway : w.files.HasWay (Workplace.toolsOf service)) {summary' : Summary}
    (h : runService summary service w = .ok summary' w') : Passes w.files service := by
  obtain ⟨document, v, hschema, -⟩ := Action.bind_eq_ok.mp h
  refine ⟨(schemaOf_returns_iff hkey).mp ⟨document, v, hschema⟩, ?_⟩
  obtain ⟨files, -, -, hchanges, hdone⟩ := runService_spec hkey hway h
  unfold IsDone at hdone
  cases houtcome : outcome w.files service with
  | listed tools =>
    rw [houtcome] at hdone
    rw [← hchanges.keeps.room]
    exact isWritable_of_holds hdone.there hdone.sources hdone.listing hdone.fits
  | failed fault =>
    rw [houtcome] at hdone
    exact hdone
  | skipped => trivial
  | silent => trivial

/-- Generating the tools of a service returns if its schema can be examined and what follows from it
is written. -/
theorem exists_runService (summary : Summary) (hkey : Path.IsComponent service.key)
    (hexamined : IsExamined w.files service)
    (hwrite : (outcome w.files service).write service w = .ok () w') :
    runService summary service w = .ok ((outcome w.files service).addTo summary service) w' := by
  obtain ⟨document?, v, hschema⟩ := (schemaOf_returns_iff hkey).mpr hexamined
  obtain ⟨hdocument, rfl⟩ := schemaOf_eq_ok hkey hschema
  unfold runService
  rw [Action.bind_of_ok hschema]
  cases document? with
  | none =>
    rw [outcome_eq_skipped.mpr hdocument.symm] at hwrite ⊢
    obtain ⟨-, rfl⟩ := Action.pure_eq_ok.mp hwrite
    rfl
  | some document =>
    cases hmade : Tool.ofDocument service document with
    | error fault =>
      rw [outcome_of_error hdocument.symm hmade] at hwrite
      exact (Action.throw_eq_ok.mp hwrite).elim
    | ok tools =>
      simp only
      rw [Action.ofExcept_bind_of_ok hmade]
      cases tools with
      | nil =>
        rw [outcome_of_nil hdocument.symm hmade] at hwrite ⊢
        obtain ⟨-, rfl⟩ := Action.pure_eq_ok.mp hwrite
        rfl
      | cons tool tools =>
        rw [outcome_of_ok hdocument.symm hmade (List.cons_ne_nil _ _)] at hwrite ⊢
        exact Action.bind_eq_ok.mpr ⟨(), w', hwrite, rfl⟩

/-- What follows from an outcome that can be written is written, if the output of its tools is. -/
theorem Outcome.IsWritable.exists_write {outcome : Outcome} {room : Nat}
    (h : outcome.IsWritable room service)
    (hlisted : ∀ tools, outcome = .listed tools →
      Generate.IsWritable room (Workplace.toolsOf service) (Tool.units tools) (Tool.manifest tools) →
      ∃ w', writeOutput (Workplace.toolsOf service) (Tool.units tools) (Tool.manifest tools) w =
        .ok () w') : ∃ w', outcome.write service w = .ok () w' := by
  cases outcome with
  | skipped => exact ⟨w, rfl⟩
  | silent => exact ⟨w, rfl⟩
  | listed tools => exact hlisted tools rfl h
  | failed fault => exact h.elim

/-- Generating the tools of a service returns exactly if a run goes on after it. -/
theorem runService_returns_iff (summary : Summary) (hkey : Path.IsComponent service.key)
    (hway : w.files.HasWay (Workplace.toolsOf service)) (hclear : IsClear w.files service) :
    (∃ summary' w', runService summary service w = .ok summary' w') ↔ Passes w.files service := by
  constructor
  · rintro ⟨summary', w', h⟩
    exact passes_of_runService hkey hway h
  · rintro ⟨hexamined, hwritable⟩
    obtain ⟨w', hwrite⟩ := hwritable.exists_write (w := w) fun tools houtcome hwritable =>
      exists_writeOutput_of_none (Workplace.isDirect_toolsOf hkey)
        (by rw [Workplace.toolsOf_eq hkey]; exact List.cons_ne_nil _ _)
        (no_slash_units houtcome) hway (hclear _ houtcome) hwritable
    exact ⟨_, w', exists_runService summary hkey hexamined hwrite⟩

end Toolsmith.Generate
