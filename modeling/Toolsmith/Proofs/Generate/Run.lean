import Toolsmith.Proofs.Generate.Output
import Toolsmith.Proofs.Manifest

/-!
# What a run does

Every service has an outcome, which depends on its schema alone: it is passed over, it has no
operations, or its tools are made. A run writes the output of each service whose tools are made to
the directory of that service, and leaves the directories of the others as they are.
-/

namespace Toolsmith.Generate

variable {w w' : World} {summary summary' : Summary} {service : Service}

/-- The document of a service, if its schema is there and can be read as an object. -/
def document? (files : Tree) (service : Service) : Option Members :=
  (files.document? (Workplace.schema service)).bind Json.members?

/-- The document of a service is the object in its schema. -/
theorem document?_eq_some {files : Tree} {document : Members} :
    document? files service = some document ↔
      files.document? (Workplace.schema service) = some (.object document) := by
  unfold document?
  cases files.document? (Workplace.schema service) with
  | none => simp
  | some v => cases v <;> simp [Json.members?]

/-- The operations of a service's document. -/
def operations (service : Service) (document : Members) : List Operation :=
  Operation.ofDocument document service.name.display service.displayText?

/-- What becomes of a service in a run: it is passed over, it has no operations, its tools are made,
or they cannot be made. -/
inductive Outcome where
  | skipped
  | silent
  | listed (tools : List Tool)
  | failed (fault : Fault)

/-- What becomes of a service whose schema is in a tree. -/
def outcome (files : Tree) (service : Service) : Outcome :=
  match document? files service with
  | none => .skipped
  | some document =>
    if (operations service document).isEmpty then .silent
    else
      match Tool.ofDocument service document with
      | .ok tools => .listed tools
      | .error fault => .failed fault

/-- The summary of a run with the outcome of one more service. -/
def Outcome.addTo (summary : Summary) (service : Service) : Outcome → Summary
  | skipped => summary.skip service
  | listed tools => summary.add service tools
  | _ => summary

/-- A service is passed over exactly if it has no document. -/
theorem outcome_eq_skipped {files : Tree} :
    outcome files service = .skipped ↔ document? files service = none := by
  unfold outcome
  split
  · simp [*]
  · rename_i document hdocument
    rw [hdocument]
    split
    · simp
    · split <;> simp

/-- The outcome in which tools are made from a document. -/
theorem outcome_eq_listed {files : Tree} {tools : List Tool}
    (h : outcome files service = .listed tools) :
    ∃ document, document? files service = some document ∧
      Tool.ofDocument service document = .ok tools ∧ tools ≠ [] := by
  unfold outcome at h
  split at h
  · cases h
  · rename_i document hdocument
    split at h
    · cases h
    · rename_i hsome
      split at h
      · rename_i made hmade
        cases h
        refine ⟨document, hdocument, hmade, fun hnil => hsome ?_⟩
        have hnames := congrArg List.length (Tool.of_ofDocument hmade).1
        rw [hnil, Naming.length_nameAll] at hnames
        exact List.isEmpty_iff_length_eq_zero.mpr hnames.symm
      · cases h

/-- A document without operations has no tools. -/
theorem isEmpty_operations {document : Members}
    (hmade : Tool.ofDocument service document ≠ .ok []) :
    ¬(operations service document).isEmpty = true := by
  intro hempty
  unfold operations at hempty
  unfold Tool.ofDocument at hmade
  rw [List.isEmpty_iff.mp hempty] at hmade
  exact hmade rfl

/-- The outcome of a service whose tools cannot be made. -/
theorem outcome_of_error {files : Tree} {document : Members} {fault : Fault}
    (hdocument : document? files service = some document)
    (hmade : Tool.ofDocument service document = .error fault) :
    outcome files service = .failed fault := by
  have hsome := isEmpty_operations (by rw [hmade]; exact nofun)
  unfold outcome
  simp only [hdocument, if_neg hsome, hmade]

/-- The outcome of a service with tools. -/
theorem outcome_of_ok {files : Tree} {document : Members} {tools : List Tool}
    (hdocument : document? files service = some document)
    (hmade : Tool.ofDocument service document = .ok tools) (hne : tools ≠ []) :
    outcome files service = .listed tools := by
  have hsome := isEmpty_operations (by rw [hmade]; exact fun h => hne (Except.ok.inj h))
  unfold outcome
  simp only [hdocument, if_neg hsome, hmade]

/-- The outcome of a service of whose document no tools are made. -/
theorem outcome_of_nil {files : Tree} {document : Members}
    (hdocument : document? files service = some document)
    (hmade : Tool.ofDocument service document = .ok []) : outcome files service = .silent := by
  have hlength := congrArg List.length (Tool.of_ofDocument hmade).1
  rw [List.length_map, Naming.length_nameAll] at hlength
  have hempty : (operations service document).isEmpty = true :=
    List.isEmpty_iff_length_eq_zero.mpr hlength.symm
  unfold outcome
  simp only [hdocument, if_pos hempty]

/-- Units of tools of a document have names without slashes. -/
theorem no_slash_units {files : Tree} {tools : List Tool}
    (h : outcome files service = .listed tools) :
    ∀ unit ∈ Tool.units tools, CodePoint.char '/' ∉ unit.1 := by
  obtain ⟨document, -, hmade, -⟩ := outcome_eq_listed h
  rw [Tool.units_eq_map (Tool.nodup_ofDocument hmade)]
  exact List.forall_mem_map.mpr fun tool htool =>
    Naming.no_slash_of_isNamePoint (Tool.isNamePoint_ofDocument hmade htool)

/-- Units of tools of a document have distinct names. -/
theorem nodup_units {files : Tree} {tools : List Tool}
    (h : outcome files service = .listed tools) : ((Tool.units tools).map Prod.fst).Nodup := by
  obtain ⟨document, -, hmade, -⟩ := outcome_eq_listed h
  have hnodup := Tool.nodup_ofDocument hmade
  rwa [Tool.units_eq_map hnodup, List.map_map]

/-- A schema is read from a file that holds an object. -/
theorem readSchema_eq_ok {path : Path} {members : Members} :
    readSchema path w = .ok members w' ↔
      w.files.document? path = some (.object members) ∧ w = w' := by
  rw [readSchema, Action.bind_eq_ok]
  constructor
  · rintro ⟨v, _, hread, hv⟩
    obtain ⟨hdocument, rfl⟩ := Action.readDocument_eq_ok_document?.mp hread
    cases v with
    | object other =>
      obtain ⟨rfl, rfl⟩ := Action.pure_eq_ok.mp hv
      exact ⟨hdocument, rfl⟩
    | _ => cases hv
  · rintro ⟨hdocument, rfl⟩
    exact ⟨_, w, Action.readDocument_eq_ok_document?.mpr ⟨hdocument, rfl⟩, rfl⟩

/-- A schema that cannot be read leaves the world. -/
theorem world_of_readSchema_error {path : Path} {fault : Fault}
    (h : readSchema path w = .error fault w') : w' = w := by
  rcases Action.bind_eq_error.mp h with h | ⟨v, _, hread, h⟩
  · exact (Action.Quiet.readDocument _).of_error h
  · obtain ⟨-, rfl⟩ := Action.readDocument_eq_ok_document?.mp hread
    cases v <;> cases h <;> rfl

/-- The attempt to read a schema gives the object in its file, or nothing if there is none. -/
theorem readSchema?_eq_ok {path : Path} {document : Option Members}
    (h : readSchema? path w = .ok document w') :
    document = (w.files.document? path).bind Json.members? ∧ w' = w := by
  rcases Action.tryCatch_eq_ok.mp h with hok | ⟨fault, v, hfault, hhandle⟩
  · obtain ⟨members, v, hread, hpure⟩ := Action.bind_eq_ok.mp hok
    obtain ⟨rfl, rfl⟩ := Action.pure_eq_ok.mp hpure
    obtain ⟨hdocument, rfl⟩ := readSchema_eq_ok.mp hread
    exact ⟨by rw [hdocument]; rfl, rfl⟩
  · have hread : readSchema path w = .error fault v := by
      rcases Action.bind_eq_error.mp hfault with hread | ⟨_, _, -, hpure⟩
      · exact hread
      · cases hpure
    obtain rfl := world_of_readSchema_error hread
    have hnot : ∀ members, v.files.document? path ≠ some (.object members) := by
      intro members hdocument
      rw [readSchema_eq_ok.mpr ⟨hdocument, rfl⟩] at hread
      cases hread
    have hnone : (v.files.document? path).bind Json.members? = none := by
      cases hdocument : v.files.document? path with
      | none => rfl
      | some u => cases u <;> first | rfl | exact absurd hdocument (hnot _)
    rw [hnone]
    by_cases hunreadable : fault.isUnreadable = true
    · rw [if_pos hunreadable] at hhandle
      obtain ⟨rfl, rfl⟩ := Action.pure_eq_ok.mp hhandle
      exact ⟨rfl, rfl⟩
    · rw [if_neg hunreadable] at hhandle
      cases hhandle

/-- A schema that can be read is read, and any other is passed over. -/
theorem schemaOf_eq_ok (hkey : Path.IsComponent service.key) {document : Option Members}
    (h : schemaOf service w = .ok document w') :
    document = document? w.files service ∧ w' = w := by
  have hpath := Workplace.isDirect_schema hkey
  obtain ⟨there, v, hthere, h⟩ := Action.bind_eq_ok.mp h
  obtain ⟨hexists, rfl⟩ := Action.fileExists_eq_ok.mp hthere
  cases there with
  | true => exact readSchema?_eq_ok h
  | false =>
    obtain ⟨rfl, rfl⟩ := Action.pure_eq_ok.mp h
    refine ⟨?_, rfl⟩
    cases hdocument : document? w.files service with
    | none => rfl
    | some members =>
      obtain ⟨bytes, hread⟩ := Tree.exists_read_of_document? (document?_eq_some.mp hdocument)
      obtain ⟨hway, hget⟩ := (Tree.read_eq_ok hpath).mp hread
      rw [Tree.exists?_of_hasWay hpath hway, hget] at hexists
      cases hexists

/-- The outcome of a service is the same where its schema is read alike. -/
theorem outcome_congr {files files' : Tree} {places : Path → Prop}
    (hkey : Path.IsComponent service.key) (h : Tree.Changes places files files')
    (hplaces : ∀ before, before <+: Workplace.schema service → ¬places before) :
    outcome files' service = outcome files service := by
  have hdocument : document? files' service = document? files service := by
    unfold document?
    rw [h.document?_eq (Workplace.isDirect_schema hkey) hplaces]
  unfold outcome
  rw [hdocument]

/-- What a directory holds stays if nothing changes in it. -/
theorem Mirrors.of_changes {files files' : Tree} {places : Path → Prop} {directory : Path}
    {units : List (Text × Text)} {manifest : Json} (hdirectory : directory.IsDirect)
    (hslash : ∀ unit ∈ units, CodePoint.char '/' ∉ unit.1)
    (h : Mirrors files directory units manifest) (hchanges : Tree.Changes places files files')
    (hplaces : ∀ place, directory <+: place → ¬places place) :
    Mirrors files' directory units manifest := by
  have hbelow : ∀ name, ¬places (directory ++ [name]) := fun name =>
    hplaces _ (List.prefix_append _ _)
  refine ⟨hchanges.keeps.isDirectory h.there, fun unit hunit => ?_, fun name hname hsome => ?_,
    ?_, h.fits⟩
  · obtain ⟨bytes, hencode, hread⟩ := h.sources unit hunit
    have hpath := hdirectory.component (Naming.isComponent_unitFile (hslash unit hunit))
    exact ⟨bytes, hencode, hchanges.read hpath (hbelow _) hread⟩
  · rw [hchanges.frame _ (hbelow name)] at hsome
    exact h.only name hname hsome
  · obtain ⟨bytes, hencode, hread⟩ := h.listing
    exact ⟨bytes, hencode, hchanges.read (Workplace.isDirect_manifestIn hdirectory) (hbelow _) hread⟩

/-- What a run leaves in the directory of a service: the units and the manifest of its tools, or
what was there if it has none. -/
def IsDone (before after : Tree) (service : Service) : Prop :=
  match outcome before service with
  | .listed tools =>
    Mirrors after (Workplace.toolsOf service) (Tool.units tools) (Tool.manifest tools)
  | .failed _ => False
  | _ => ∀ place, Workplace.toolsOf service <+: place → after.get? place = before.get? place

/-- What a run writes for a service with an outcome. -/
def Outcome.write (service : Service) : Outcome → Action Unit
  | listed tools =>
    writeOutput (Workplace.toolsOf service) (Tool.units tools) (Tool.manifest tools)
  | failed fault => throw fault
  | _ => pure ()

/-- For an outcome that a run can bring about, the output of the tools is written, or nothing. -/
theorem Outcome.write_cases {outcome : Outcome} (h : outcome.write service w = .ok () w') :
    (∃ tools, outcome = .listed tools ∧ writeOutput (Workplace.toolsOf service) (Tool.units tools)
      (Tool.manifest tools) w = .ok () w') ∨
      ((outcome = .skipped ∨ outcome = .silent) ∧ w = w') := by
  cases outcome with
  | skipped => exact .inr ⟨.inl rfl, (Action.pure_eq_ok.mp h).2⟩
  | silent => exact .inr ⟨.inr rfl, (Action.pure_eq_ok.mp h).2⟩
  | listed tools => exact .inl ⟨tools, rfl, h⟩
  | failed fault => exact (Action.throw_eq_ok.mp h).elim

/-- One step of a run that returns has written what the outcome of its service asks for, and added
it to the summary. -/
theorem runService_writes (hkey : Path.IsComponent service.key)
    (h : runService summary service w = .ok summary' w') :
    (outcome w.files service).write service w = .ok () w' ∧
      summary' = (outcome w.files service).addTo summary service := by
  obtain ⟨document, v, hschema, h⟩ := Action.bind_eq_ok.mp h
  obtain ⟨hdocument, rfl⟩ := schemaOf_eq_ok hkey hschema
  cases document with
  | none =>
    obtain ⟨rfl, rfl⟩ := Action.pure_eq_ok.mp h
    rw [outcome_eq_skipped.mpr hdocument.symm]
    exact ⟨rfl, rfl⟩
  | some document =>
    obtain ⟨tools, v', hresult, h⟩ := Action.bind_eq_ok.mp h
    obtain ⟨hmade, rfl⟩ := Action.ofExcept_eq_ok.mp hresult
    cases tools with
    | nil =>
      obtain ⟨rfl, rfl⟩ := Action.pure_eq_ok.mp h
      rw [outcome_of_nil hdocument.symm hmade]
      exact ⟨rfl, rfl⟩
    | cons tool tools =>
      obtain ⟨_, v', hwrite, h⟩ := Action.bind_eq_ok.mp h
      obtain ⟨rfl, rfl⟩ := Action.pure_eq_ok.mp h
      rw [outcome_of_ok hdocument.symm hmade (List.cons_ne_nil _ _)]
      exact ⟨hwrite, rfl⟩

/-- One step of a run adds the outcome of its service to the summary and changes at most the
directory of its tools. -/
theorem runService_spec (hkey : Path.IsComponent service.key)
    (hway : w.files.HasWay (Workplace.toolsOf service))
    (h : runService summary service w = .ok summary' w') :
    ∃ files, w' = { w with files } ∧
      summary' = (outcome w.files service).addTo summary service ∧
      Tree.Changes (Workplace.toolsOf service <+: ·) w.files files ∧
      IsDone w.files files service := by
  obtain ⟨hwrite, rfl⟩ := runService_writes hkey h
  unfold IsDone
  rcases Outcome.write_cases hwrite with ⟨tools, houtcome, hwrite⟩ | ⟨houtcome, rfl⟩
  · obtain ⟨files, rfl, hchanges, hmirrors⟩ := writeOutput_spec (Workplace.isDirect_toolsOf hkey)
      (no_slash_units houtcome) (nodup_units houtcome) hway hwrite
    rw [houtcome]
    exact ⟨files, rfl, rfl, hchanges, hmirrors⟩
  · refine ⟨w.files, rfl, rfl, .refl _ _, ?_⟩
    rcases houtcome with houtcome | houtcome <;> rw [houtcome] <;> exact fun _ _ => rfl

/-- The outcome of a service is not changed by what is written for another, or for itself. -/
theorem outcome_of_changes_toolsOf {files files' : Tree} {other : Service}
    (hkey : Path.IsComponent service.key) (hother : Path.IsComponent other.key)
    (h : Tree.Changes (Workplace.toolsOf service <+: ·) files files') :
    outcome files' other = outcome files other :=
  outcome_congr hother h fun _ hplace hbelow =>
    Workplace.not_prefix_schema hkey hother hbelow hplace

/-- What is done for a service stays done if nothing more changes in its directory. -/
theorem IsDone.of_changes_after {before files after : Tree} {places : Path → Prop}
    (hkey : Path.IsComponent service.key) (h : IsDone before files service)
    (hchanges : Tree.Changes places files after)
    (hplaces : ∀ place, Workplace.toolsOf service <+: place → ¬places place) :
    IsDone before after service := by
  unfold IsDone at h ⊢
  split at h
  · rename_i tools houtcome
    exact h.of_changes (Workplace.isDirect_toolsOf hkey) (no_slash_units houtcome) hchanges hplaces
  · exact h
  · exact fun place hplace => (hchanges.frame place (hplaces place hplace)).trans (h place hplace)

/-- What is done for a service is done since before changes elsewhere. -/
theorem IsDone.of_changes_before {before files after : Tree} {places : Path → Prop}
    (h : IsDone files after service) (hchanges : Tree.Changes places before files)
    (hplaces : ∀ place, Workplace.toolsOf service <+: place → ¬places place)
    (houtcome : outcome files service = outcome before service) : IsDone before after service := by
  unfold IsDone at h ⊢
  rw [houtcome] at h
  split at h
  · exact h
  · exact h
  · exact fun place hplace => (h place hplace).trans (hchanges.frame place (hplaces place hplace))

/-- A run adds the outcomes that its services have in the beginning to the summary one after
another, and changes at most their directories. Services may have the same key. -/
theorem runFrom_spec {services : List Service}
    (hcomponents : ∀ service ∈ services, Path.IsComponent service.key)
    (hthere : w.files.isDirectory Workplace.tools = true)
    (h : runFrom summary services w = .ok summary' w') :
    ∃ files, w' = { w with files } ∧
      summary' = services.foldl
        (fun summary service => (outcome w.files service).addTo summary service) summary ∧
      Tree.Changes (fun place => ∃ service ∈ services, Workplace.toolsOf service <+: place)
        w.files files := by
  induction services generalizing w summary with
  | nil =>
    obtain ⟨rfl, rfl⟩ := Action.pure_eq_ok.mp h
    exact ⟨w.files, rfl, rfl, .refl _ _⟩
  | cons service services ih =>
    obtain ⟨hkey, hrestComponents⟩ := List.forall_mem_cons.mp hcomponents
    obtain ⟨middle, v, hstep, hrest⟩ := Action.bind_eq_ok.mp h
    obtain ⟨files, rfl, rfl, hchanges, -⟩ :=
      runService_spec hkey (Workplace.hasWay_toolsOf hkey hthere) hstep
    obtain ⟨files', rfl, rfl, hmore⟩ :=
      ih hrestComponents (hchanges.keeps.isDirectory hthere) hrest
    refine ⟨files', rfl, ?_, ?_⟩
    · rw [List.foldl_cons]
      refine List.foldl_ext _ _ _ fun summary other hother => ?_
      rw [outcome_of_changes_toolsOf hkey (hrestComponents other hother) hchanges]
    · refine (hchanges.mono fun place hplace => ?_).trans (hmore.mono fun place hplace => ?_)
      · exact ⟨service, List.mem_cons_self, hplace⟩
      · obtain ⟨other, hother, hplace⟩ := hplace
        exact ⟨other, List.mem_cons_of_mem _ hother, hplace⟩

/-- A run over services with different keys has done for each what its outcome asks for. -/
theorem isDone_of_runFrom {services : List Service} (hkeys : (services.map Service.key).Nodup)
    (hcomponents : ∀ service ∈ services, Path.IsComponent service.key)
    (hthere : w.files.isDirectory Workplace.tools = true)
    (h : runFrom summary services w = .ok summary' w') :
    ∀ service ∈ services, IsDone w.files w'.files service := by
  induction services generalizing w summary with
  | nil => exact List.forall_mem_nil _
  | cons service services ih =>
    obtain ⟨hkey, hrestComponents⟩ := List.forall_mem_cons.mp hcomponents
    obtain ⟨hnew, hrestKeys⟩ := List.nodup_cons.mp hkeys
    have hne : ∀ other ∈ services, service.key ≠ other.key := fun other hother heq =>
      hnew (heq ▸ List.mem_map_of_mem hother)
    obtain ⟨middle, v, hstep, hrest⟩ := Action.bind_eq_ok.mp h
    obtain ⟨files, rfl, -, hchanges, hdone⟩ :=
      runService_spec hkey (Workplace.hasWay_toolsOf hkey hthere) hstep
    have hthere' := hchanges.keeps.isDirectory hthere
    obtain ⟨files', rfl, -, hmore⟩ := runFrom_spec hrestComponents hthere' hrest
    refine List.forall_mem_cons.mpr ⟨?_, fun other hother => ?_⟩
    · refine hdone.of_changes_after hkey hmore fun place hplace => ?_
      rintro ⟨other, hother, hbelow⟩
      exact Workplace.not_prefix_toolsOf hkey (hrestComponents other hother) (hne other hother)
        hplace hbelow
    · have hother' := hrestComponents other hother
      have hothers := ih hrestKeys hrestComponents hthere' hrest other hother
      refine hothers.of_changes_before hchanges (fun place hplace hbelow => ?_)
        (outcome_of_changes_toolsOf hkey hother' hchanges)
      exact Workplace.not_prefix_toolsOf hkey hother' (hne other hother) hbelow hplace

/-- A run makes the directory of all tools, generates the tools of its services and writes the
summary. -/
theorem run_eq_ok {services : List Service} {now : Text} :
    run now services w = .ok summary w' ↔
      ∃ made middle, w.files.makeDirectories Workplace.tools = (made, none) ∧
        runFrom .empty services { w with files := made } = .ok summary middle ∧
        Action.writeDocument Workplace.summary (summary.toJson now) middle = .ok () w' := by
  unfold run
  rw [Action.bind_eq_ok]
  constructor
  · rintro ⟨_, v, hmake, h⟩
    obtain ⟨made, hmade, rfl⟩ := Action.makeDirectories_eq_ok.mp hmake
    obtain ⟨total, middle, hrun, h⟩ := Action.bind_eq_ok.mp h
    obtain ⟨_, v, hwrite, h⟩ := Action.bind_eq_ok.mp h
    obtain ⟨rfl, rfl⟩ := Action.pure_eq_ok.mp h
    exact ⟨made, middle, hmade, hrun, hwrite⟩
  · rintro ⟨made, middle, hmade, hrun, hwrite⟩
    refine ⟨(), { w with files := made },
      Action.makeDirectories_eq_ok.mpr ⟨made, hmade, rfl⟩, ?_⟩
    rw [Action.bind_of_ok hrun, Action.bind_of_ok hwrite]
    rfl

end Toolsmith.Generate
