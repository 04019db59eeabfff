import Toolsmith.Proofs.Generate.Effect
import Toolsmith.Proofs.Generate.Survival

/-!
# Running again

A run that has returned can be run again on what it has left, and changes nothing then: it makes the
same tools, and what it leaves is what it has left before. Services may have the same key. The first
run starts from any leftovers; it leaves a directory for every service with tools in which there is
room for units.
-/

namespace Toolsmith.Generate

variable {w w' : World} {summary summary' : Summary} {service : Service} {services : List Service}

/-- There is room for units where output has been written. -/
theorem Mirrors.hasRoom {files : Tree} {directory : Path} {units : List (Text × Text)}
    {manifest : Json} (hdirectory : directory.IsDirect)
    (h : Mirrors files directory units manifest) : HasRoom files directory := by
  refine ⟨h.there, fun name hname => ?_, ?_⟩
  · cases hget : files.get? (directory ++ [name]) with
    | none => exact .inl rfl
    | some entry =>
      obtain ⟨unit, hunit, rfl⟩ := h.only name hname (by rw [hget]; rfl)
      obtain ⟨bytes, -, hread⟩ := h.sources unit hunit
      exact .inr ⟨bytes, hread⟩
  · obtain ⟨bytes, -, hread⟩ := h.listing
    exact Tree.ne_directory_of_read (Workplace.isDirect_manifestIn hdirectory) hread

/-- There is still room for units after changes elsewhere. -/
theorem HasRoom.of_changes {files files' : Tree} {places : Path → Prop} {directory : Path}
    (hdirectory : directory.IsDirect) (h : HasRoom files directory)
    (hchanges : Tree.Changes places files files')
    (hplaces : ∀ place, directory <+: place → ¬places place) : HasRoom files' directory := by
  have hbelow : ∀ name, ¬places (directory ++ [name]) := fun name =>
    hplaces _ (List.prefix_append _ _)
  refine ⟨hchanges.keeps.isDirectory h.there, fun name hname => ?_, ?_⟩
  · obtain ⟨hup, htop⟩ := ne_up_of_isUnitFile hname
    rw [hchanges.frame _ (hbelow name)]
    exact (h.units name hname).imp_right fun ⟨bytes, hread⟩ =>
      ⟨bytes, hchanges.read (hdirectory.concat hup htop) (hbelow name) hread⟩
  · rw [Workplace.manifestIn, hchanges.frame _ (hbelow _)]
    exact h.listing

/-- What a run keeps for the services after it: the directory of all tools, what becomes of every
service, and the room for its units. -/
structure Sustains (before after : Tree) : Prop where
  there : before.isDirectory Workplace.tools = true → after.isDirectory Workplace.tools = true
  outcome : ∀ service : Service, Path.IsComponent service.key →
    Generate.outcome after service = Generate.outcome before service
  passes : ∀ service : Service, Path.IsComponent service.key →
    (Passes after service ↔ Passes before service)
  room : ∀ service : Service, Path.IsComponent service.key →
    HasRoom before (Workplace.toolsOf service) → HasRoom after (Workplace.toolsOf service)

namespace Sustains

variable {before middle after : Tree}

/-- Nothing that is done keeps everything. -/
theorem refl (tree : Tree) : Sustains tree tree :=
  ⟨id, fun _ _ => rfl, fun _ _ => Iff.rfl, fun _ _ h => h⟩

/-- What is kept twice is kept. -/
theorem trans (h : Sustains before middle) (h' : Sustains middle after) : Sustains before after := by
  constructor
  · exact fun hthere => h'.there (h.there hthere)
  · exact fun service hkey => (h'.outcome service hkey).trans (h.outcome service hkey)
  · exact fun service hkey => (h'.passes service hkey).trans (h.passes service hkey)
  · exact fun service hkey hroom => h'.room service hkey (h.room service hkey hroom)

/-- Changes where no schema and no tools of a service are keep everything. -/
theorem of_changes {places : Path → Prop} (h : Tree.Changes places before after)
    (hschema : ∀ service : Service, Path.IsComponent service.key →
      ∀ place, place <+: Workplace.schema service → ¬places place)
    (htools : ∀ service : Service, Path.IsComponent service.key →
      ∀ place, Workplace.toolsOf service <+: place → ¬places place) : Sustains before after := by
  constructor
  · exact h.keeps.isDirectory
  · exact fun service hkey => outcome_congr hkey h (hschema service hkey)
  · exact fun service hkey => Passes.congr hkey h (hschema service hkey)
  · exact fun service hkey hroom =>
      hroom.of_changes (Workplace.isDirect_toolsOf hkey) h (htools service hkey)

/-- A step of a run keeps everything for the steps after it. It leaves room for units also where it
writes to the directory of another service with the same key. -/
theorem of_runService (hkey : Path.IsComponent service.key)
    (hthere : w.files.isDirectory Workplace.tools = true)
    (h : runService summary service w = .ok summary' w') : Sustains w.files w'.files := by
  obtain ⟨files, rfl, -, hchanges, -⟩ :=
    runService_spec hkey (Workplace.hasWay_toolsOf hkey hthere) h
  have hschema : ∀ other : Service, Path.IsComponent other.key →
      ∀ place, place <+: Workplace.schema other → ¬Workplace.toolsOf service <+: place :=
    fun other hother place hplace hbelow =>
      Workplace.not_prefix_schema hkey hother hbelow hplace
  constructor
  · exact hchanges.keeps.isDirectory
  · exact fun other hother => outcome_congr hother hchanges (hschema other hother)
  · exact fun other hother => Passes.congr hother hchanges (hschema other hother)
  · intro other hother hroom
    have hdirectory := Workplace.isDirect_toolsOf hother
    by_cases hsame : service.key = other.key
    · have hplaces : Workplace.toolsOf service = Workplace.toolsOf other := by
        rw [Workplace.toolsOf_eq hkey, Workplace.toolsOf_eq hother, hsame]
      have hlocal : IsLocal (Workplace.toolsOf service) (HasRoom · (Workplace.toolsOf other)) := by
        rw [hplaces]
        exact isLocal_hasRoom hdirectory
      exact (preserves_runService hlocal summary).of_ok hroom h
    · exact hroom.of_changes hdirectory hchanges fun place hplace =>
        Workplace.not_prefix_toolsOf hother hkey (Ne.symm hsame) hplace

/-- A run over services keeps everything for the services after it. -/
theorem of_runFrom (hcomponents : ∀ service ∈ services, Path.IsComponent service.key)
    (hthere : w.files.isDirectory Workplace.tools = true)
    (h : runFrom summary services w = .ok summary' w') : Sustains w.files w'.files := by
  induction services generalizing w summary with
  | nil =>
    obtain ⟨-, rfl⟩ := Action.pure_eq_ok.mp h
    exact refl w.files
  | cons service services ih =>
    obtain ⟨hkey, hrest⟩ := List.forall_mem_cons.mp hcomponents
    obtain ⟨middle, v, hstep, h⟩ := Action.bind_eq_ok.mp h
    have hsustains := of_runService hkey hthere hstep
    exact hsustains.trans (ih hrest (hsustains.there hthere) h)

end Sustains

/-- A service after which a run goes on whatever it has left before: its schema can be examined,
what follows from it can be written, and there is room for that. -/
structure PassesAgain (files : Tree) (service : Service) : Prop where
  passes : Passes files service
  room : ∀ tools, outcome files service = .listed tools → HasRoom files (Workplace.toolsOf service)

/-- What is kept for a service lets a run go on after it again. -/
theorem PassesAgain.of_sustains {before after : Tree} (hkey : Path.IsComponent service.key)
    (h : PassesAgain before service) (hsustains : Sustains before after) :
    PassesAgain after service := by
  refine ⟨(hsustains.passes service hkey).mpr h.passes, fun tools houtcome => ?_⟩
  rw [hsustains.outcome service hkey] at houtcome
  exact hsustains.room service hkey (h.room tools houtcome)

/-- After a step for a service, a run goes on after this service again. -/
theorem passesAgain_of_runService (hkey : Path.IsComponent service.key)
    (hthere : w.files.isDirectory Workplace.tools = true)
    (h : runService summary service w = .ok summary' w') : PassesAgain w'.files service := by
  have hway := Workplace.hasWay_toolsOf hkey hthere
  have hsustains := Sustains.of_runService hkey hthere h
  refine ⟨(hsustains.passes service hkey).mpr (passes_of_runService hkey hway h), ?_⟩
  intro tools houtcome
  obtain ⟨files, rfl, -, -, hdone⟩ := runService_spec hkey hway h
  rw [hsustains.outcome service hkey] at houtcome
  unfold IsDone at hdone
  rw [houtcome] at hdone
  exact Mirrors.hasRoom (Workplace.isDirect_toolsOf hkey) hdone

/-- After a run over services, a run goes on after each of them again. -/
theorem passesAgain_of_runFrom (hcomponents : ∀ service ∈ services, Path.IsComponent service.key)
    (hthere : w.files.isDirectory Workplace.tools = true)
    (h : runFrom summary services w = .ok summary' w') :
    ∀ service ∈ services, PassesAgain w'.files service := by
  induction services generalizing w summary with
  | nil => exact List.forall_mem_nil _
  | cons service services ih =>
    obtain ⟨hkey, hrest⟩ := List.forall_mem_cons.mp hcomponents
    obtain ⟨middle, v, hstep, h⟩ := Action.bind_eq_ok.mp h
    have hthere' := (Sustains.of_runService hkey hthere hstep).there hthere
    refine List.forall_mem_cons.mpr ⟨?_, ih hrest hthere' h⟩
    exact (passesAgain_of_runService hkey hthere hstep).of_sustains hkey
      (Sustains.of_runFrom hrest hthere' h)

/-- A step of a run returns for a service after which a run goes on again. -/
theorem PassesAgain.exists_runService (summary : Summary) (hkey : Path.IsComponent service.key)
    (h : PassesAgain w.files service) :
    ∃ summary' w', runService summary service w = .ok summary' w' := by
  have hdirectory := Workplace.isDirect_toolsOf hkey
  obtain ⟨w', hwrite⟩ := h.passes.writable.exists_write (w := w) fun tools houtcome hwritable =>
    have hroom := h.room tools houtcome
    exists_writeOutput (no_slash_units houtcome)
      (Tree.makeDirectories_of_isDirectory hdirectory hroom.there)
      (hroom.hasFiles hdirectory hwritable.listing) hwritable
  exact ⟨_, w', Generate.exists_runService summary hkey h.passes.examined hwrite⟩

/-- A run over services returns if it goes on after each of them again. -/
theorem exists_runFrom_again (summary : Summary)
    (hcomponents : ∀ service ∈ services, Path.IsComponent service.key)
    (hthere : w.files.isDirectory Workplace.tools = true)
    (h : ∀ service ∈ services, PassesAgain w.files service) :
    ∃ summary' w', runFrom summary services w = .ok summary' w' := by
  induction services generalizing w summary with
  | nil => exact ⟨summary, w, rfl⟩
  | cons service services ih =>
    obtain ⟨hkey, hrestComponents⟩ := List.forall_mem_cons.mp hcomponents
    obtain ⟨hservice, hrest⟩ := List.forall_mem_cons.mp h
    obtain ⟨middle, v, hstep⟩ := hservice.exists_runService summary hkey
    have hsustains := Sustains.of_runService hkey hthere hstep
    obtain ⟨summary', w', hmore⟩ := ih middle hrestComponents (hsustains.there hthere)
      fun other hother => (hrest other hother).of_sustains (hrestComponents other hother) hsustains
    exact ⟨summary', w', Action.bind_eq_ok.mpr ⟨middle, v, hstep, hmore⟩⟩

/-- Writing the summary keeps everything for another run, since it is neither on the way to a schema
nor among the tools of a service. -/
theorem Sustains.of_writeSummary {document : Json} {u : Unit}
    (h : Action.writeDocument Workplace.summary document w = .ok u w') :
    Sustains w.files w'.files := by
  obtain ⟨-, htext⟩ := Action.writeDocument_eq_ok.mp h
  obtain ⟨files, rfl, hchanges, -⟩ := Action.writeText_spec isDirect_summary htext
  refine of_changes hchanges ?_ ?_
  · rintro service hkey place hplace rfl
    rw [Workplace.schema_eq hkey] at hplace
    exact absurd (List.cons_prefix_cons.mp hplace).1 (by decide)
  · rintro service hkey place hplace rfl
    exact Workplace.not_prefix_summary hkey hplace

/-- Services that have been run over can be run over again, also after changes that sustain them.
What is added to the summary is the same then, and so is what is put on the tree. -/
theorem exists_runFrom_rerun {v : World}
    (hcomponents : ∀ service ∈ services, Path.IsComponent service.key)
    (hthere : w.files.isDirectory Workplace.tools = true)
    (h : runFrom summary services w = .ok summary' w') (hsustains : Sustains w'.files v.files) :
    ∃ files, runFrom summary services v = .ok summary' { v with files } ∧
      Tree.Changes (fun place => ∃ service ∈ services, Workplace.toolsOf service <+: place)
        v.files files ∧
      (overlayOf w.files services).Covers v.files files := by
  have hall := (Sustains.of_runFrom hcomponents hthere h).trans hsustains
  have hagain : ∀ service ∈ services, PassesAgain v.files service := fun service hservice =>
    (passesAgain_of_runFrom hcomponents hthere h service hservice).of_sustains
      (hcomponents service hservice) hsustains
  obtain ⟨total, v', hrun⟩ := exists_runFrom_again summary hcomponents (hall.there hthere) hagain
  have houtcome : ∀ service ∈ services, outcome v.files service = outcome w.files service :=
    fun service hservice => hall.outcome service (hcomponents service hservice)
  have hcovers := covers_of_runFrom hcomponents (hall.there hthere) hrun
  obtain ⟨files, rfl, hfold', hchanges⟩ := runFrom_spec hcomponents (hall.there hthere) hrun
  obtain ⟨-, -, hfold, -⟩ := runFrom_spec hcomponents hthere h
  have hsame : total = summary' := by
    rw [hfold, hfold']
    exact List.foldl_ext _ _ _ fun _ service hservice => by rw [houtcome service hservice]
  rw [overlayOf_congr houtcome] at hcovers
  exact ⟨files, hsame ▸ hrun, hchanges, hcovers⟩

/-- A run over any services that returns can be run again on what it has left. It returns the same
summary then, and everything stands where it has stood. -/
theorem run_repeats {now : Text} {world world' : World}
    (hcomponents : ∀ service ∈ services, Path.IsComponent service.key)
    (h : run now services world = .ok summary world') :
    ∃ files, run now services world' = .ok summary { world' with files } ∧
      ∀ place, files.get? place = world'.files.get? place := by
  obtain ⟨made, middle, hmade, hrun, hwrite⟩ := run_eq_ok.mp h
  obtain ⟨-, hthere⟩ := Tree.addsWay_of_makeDirectories Workplace.isDirect_tools hmade
  have hsustains := Sustains.of_writeSummary hwrite
  obtain ⟨filled, hrun', hchanges, hcovers'⟩ := exists_runFrom_rerun hcomponents (hthere rfl) hrun
    hsustains
  have hthere' :=
    ((Sustains.of_runFrom hcomponents (hthere rfl) hrun).trans hsustains).there (hthere rfl)
  have hmade' := Tree.makeDirectories_of_isDirectory Workplace.isDirect_tools hthere'
  have hcovers := covers_of_runFrom hcomponents (hthere rfl) hrun
  obtain ⟨filled₀, rfl, -, -⟩ := runFrom_spec hcomponents (hthere rfl) hrun
  obtain ⟨-, htext⟩ := Action.writeDocument_eq_ok.mp hwrite
  have hfirst := hcovers.trans (Action.covers_of_writeText isDirect_summary htext)
  obtain ⟨final, rfl, -⟩ := Action.writeText_spec isDirect_summary htext
  have hapart : ¬∃ service ∈ services, Workplace.toolsOf service <+: Workplace.summary := by
    rintro ⟨service, hservice, hbelow⟩
    exact Workplace.not_prefix_summary (hcomponents service hservice) hbelow
  obtain ⟨files, hwrite'⟩ := Action.exists_writeDocument_again (v := { world with files := filled })
    isDirect_summary hwrite hchanges hapart
  refine ⟨files, run_eq_ok.mpr ⟨final, _, hmade', hrun', hwrite'⟩, ?_⟩
  -- Both runs put the same on the tree, the second on what the first has left.
  obtain ⟨-, htext'⟩ := Action.writeDocument_eq_ok.mp hwrite'
  have hsecond := hcovers'.trans (Action.covers_of_writeText isDirect_summary htext')
  exact hfirst.again hsecond

/-- A run over services with texts for names and versions returns if it goes on after each of them
again, no directory stands in the place of the summary, and the number of tools can be written. -/
theorem exists_run_again {now : Text} (hnow : now.encode.isSome = true)
    (hcomponents : ∀ service ∈ services, Path.IsComponent service.key)
    (hnamed : ∀ service ∈ services, IsNamed service)
    (hthere : w.files.isDirectory Workplace.tools = true)
    (hplain : w.files.get? Workplace.summary ≠ some .directory)
    (hcount : IsCount (count (listed w.files services)))
    (h : ∀ service ∈ services, PassesAgain w.files service) :
    ∃ summary w', run now services w = .ok summary w' := by
  obtain ⟨summary, v, hrun⟩ := exists_runFrom_again .empty hcomponents hthere h
  obtain ⟨files, hwrite⟩ := exists_writeSummary (w := w) hnow hcomponents hnamed hthere hplain
    hcount hrun
  have hmade := Tree.makeDirectories_of_isDirectory Workplace.isDirect_tools hthere
  exact ⟨summary, _, run_eq_ok.mpr ⟨w.files, v, hmade, hrun, hwrite⟩⟩

/-- Only the entries of a tree have to be looked at to see that there is room for units in a
directory. -/
theorem hasRoom_of_entries {files : Tree} {directory : Path} (hdirectory : directory.IsDirect)
    (hthere : files.isDirectory directory = true)
    (hunits : ∀ e ∈ files.entries, e.1.dropLast = directory → isUnitFile e.1.name = true →
      (files.read e.1).toOption.isSome = true)
    (hlisting : files.get? (Workplace.manifestIn directory) ≠ some .directory) :
    HasRoom files directory := by
  refine ⟨hthere, fun name hname => ?_, hlisting⟩
  obtain ⟨hup, htop⟩ := ne_up_of_isUnitFile hname
  have habove := Tree.isAbove_eq_false (hdirectory.concat hup htop)
  cases hget : files.get? (directory ++ [name]) with
  | none => exact .inl rfl
  | some entry =>
    rw [Tree.get?, Entries.get?, habove, if_neg Bool.false_ne_true] at hget
    obtain ⟨e, he, heq⟩ := List.lookup_isSome_iff.mp (Option.isSome_of_eq_some hget)
    have hplace : e.1 = directory ++ [name] := (beq_iff_eq.mp heq).symm
    obtain ⟨bytes, hread⟩ := Option.isSome_iff_exists.mp
      (hunits e he (by simp [hplace]) (by simpa [hplace, Path.name] using hname))
    rw [hplace] at hread
    exact .inr ⟨bytes, Action.eq_ok_of_toOption hread⟩

/-- Two services with one key: the mark between name and version is at another place. -/
def sharingServices : List Service :=
  [.ofNameAndVersion (Text.ofString "a") (Text.ofString "b_v1"),
    .ofNameAndVersion (Text.ofString "a_b") (Text.ofString "v1")]

/-- A working directory with the schema of both, and with leftovers in their directory. -/
def leftoverFiles : Tree :=
  let directory := Workplace.tools ++ [Text.ofString "a_b_v1"]
  .ofEntries [([], .directory), (Workplace.schemas, .directory),
    (Workplace.schemas ++ [Text.ofString "a_b_v1.json"],
      .ofString "\x7b\"paths\": \x7b\"/a\": \x7b\"get\": \x7b\x7d\x7d\x7d\x7d"),
    (Workplace.tools, .directory), (directory, .directory),
    (directory ++ [Text.ofString "old.py"], .ofString "old"),
    (directory ++ [Text.ofString "notes.txt"], .ofString "notes")]
    (by decide) (by decide)

/-- A run over the two services returns, although each replaces the units of the other, and can be
run again without a change. -/
theorem repeats_leftoverFiles :
    ∃ summary world', ¬(sharingServices.map Service.key).Nodup ∧
      run (Text.ofString "now") sharingServices (.ofFiles leftoverFiles) = .ok summary world' ∧
      ∃ files, run (Text.ofString "now") sharingServices world' =
          .ok summary { world' with files } ∧
        ∀ place, files.get? place = world'.files.get? place := by
  have hcomponents : ∀ service ∈ sharingServices, Path.IsComponent service.key := by decide
  have hroom : HasRoom leftoverFiles (Workplace.tools ++ [Text.ofString "a_b_v1"]) :=
    hasRoom_of_entries (by unfold Path.IsDirect; decide) (by decide) (by decide) (by decide)
  have hagain : ∀ service ∈ sharingServices, PassesAgain leftoverFiles service := by
    intro service hservice
    have hplaces : ∀ service ∈ sharingServices,
        Workplace.toolsOf service = Workplace.tools ++ [Text.ofString "a_b_v1"] := by
      decide
    have hpasses : ∀ service ∈ sharingServices, Passes leftoverFiles service := by
      decide +kernel
    refine ⟨hpasses service hservice, fun tools _ => ?_⟩
    rw [hplaces service hservice]
    exact hroom
  obtain ⟨summary, world', hrun⟩ := exists_run_again (w := .ofFiles leftoverFiles)
    (show (Text.ofString "now").encode.isSome = true by decide) hcomponents (by decide) (by decide)
    (by decide) (by unfold IsCount; decide +kernel) hagain
  exact ⟨summary, world', by decide, hrun, run_repeats hcomponents hrun⟩

end Toolsmith.Generate
