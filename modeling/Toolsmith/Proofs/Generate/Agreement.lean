import Mathlib.Data.Set.Card
import Toolsmith.Proofs.Generate.Survival

/-!
# What a run leaves agrees with its summary

The directories of tools, the manifests and the units in them and the summary that a run returns
tell the same: which services have been passed over, which have tools and how many, and which unit
is in which file.
-/

namespace Toolsmith.Generate

variable {services : List Service}

/-- What the directory of a service's tools says of them. Its manifest has an entry for each, in
order, with the name and the file; the files are distinct, there are no other units in the
directory, and every file holds the unit that was made from its operation. -/
structure Describes (files : Tree) (service : Service) (tools : List Tool) : Prop where
  entries : ∃ entries : List Json,
    files.document? (Workplace.manifestIn (Workplace.toolsOf service)) = some (.array entries) ∧
    entries.length = tools.length ∧
    (entries.map fun entry => entry.get? (Text.ofString "name")) =
      (tools.map fun tool => some (.text tool.name)) ∧
    (entries.map fun entry => entry.get? (Text.ofString "file")) =
      tools.map fun tool => some (.text (Naming.unitFile tool.name))
  distinct : (tools.map fun tool => Naming.unitFile tool.name).Nodup
  only : ∀ name, isUnitFile name = true →
    ((files.get? (Workplace.toolsOf service ++ [name])).isSome = true ↔
      name ∈ tools.map fun tool => Naming.unitFile tool.name)
  sources : ∀ tool ∈ tools, Source.ofOperation tool.operation = .ok tool.source ∧
    files.Holds (unitPath (Workplace.toolsOf service) tool.name) tool.source

/-- The directory of a service with tools holds their units, and a manifest with their entries. -/
theorem mirrors_of_isDone {before after : Tree} {service : Service} {tools : List Tool}
    (houtcome : outcome before service = .listed tools) (h : IsDone before after service) :
    ∃ document, document? before service = some document ∧
      Tool.ofDocument service document = .ok tools ∧
      Mirrors after (Workplace.toolsOf service) (tools.map fun tool => (tool.name, tool.source))
        (Tool.manifest tools) ∧
      (Tool.manifest tools).Regular ∧ (Tool.manifest tools).Stable ∧
      after.document? (Workplace.manifestIn (Workplace.toolsOf service)) =
        some (Tool.manifest tools) := by
  obtain ⟨document, hdocument, hmade, -⟩ := outcome_eq_listed houtcome
  unfold IsDone at h
  rw [houtcome] at h
  have hmirrors : Mirrors after (Workplace.toolsOf service) (Tool.units tools)
    (Tool.manifest tools) := h
  rw [Tool.units_eq_map (Tool.nodup_ofDocument hmade)] at hmirrors
  obtain ⟨t, -, hparse⟩ := Tree.document?_eq_some.mp (document?_eq_some.mp hdocument)
  have hregular := Tool.all_manifest Json.isRead_regular hmade (Json.regular_of_parse hparse)
  have hstable := Tool.all_manifest Json.isRead_stable hmade (Json.stable_of_parse hparse)
  exact ⟨document, hdocument, hmade, hmirrors, hregular, hstable,
    hmirrors.listing.document? hregular hstable hmirrors.fits.depth⟩

/-- The output of a service describes its tools. -/
theorem describes_of_isDone {before after : Tree} {service : Service} {tools : List Tool}
    (hkey : Path.IsComponent service.key) (houtcome : outcome before service = .listed tools)
    (h : IsDone before after service) : Describes after service tools := by
  obtain ⟨document, -, hmade, hmirrors, -, -, hmanifest⟩ := mirrors_of_isDone houtcome h
  have hdirectory := Workplace.isDirect_toolsOf hkey
  have hnodup := Tool.nodup_ofDocument hmade
  have hsource : ∀ tool ∈ tools,
      after.Holds (unitPath (Workplace.toolsOf service) tool.name) tool.source := fun tool htool =>
    hmirrors.sources (tool.name, tool.source) (List.mem_map_of_mem htool)
  refine ⟨⟨tools.map Tool.entry, hmanifest, List.length_map _, ?_, ?_⟩, ?_, fun name hname =>
    ⟨fun hsome => ?_, fun hmem => ?_⟩, fun tool htool =>
    ⟨(Tool.of_ofDocument hmade).2 tool htool, hsource tool htool⟩⟩
  · rw [List.map_map]
    rfl
  · rw [List.map_map]
    rfl
  · have hfiles : (tools.map fun tool => Naming.unitFile tool.name) =
        (tools.map Tool.name).map Naming.unitFile := by
      rw [List.map_map]
      rfl
    rw [hfiles]
    exact hnodup.map fun _ _ => Naming.unitFile_injective
  · obtain ⟨unit, hunit, rfl⟩ := hmirrors.only name hname hsome
    obtain ⟨tool, htool, rfl⟩ := List.mem_map.mp hunit
    exact List.mem_map_of_mem htool
  · obtain ⟨tool, htool, rfl⟩ := List.mem_map.mp hmem
    obtain ⟨bytes, -, hread⟩ := hsource tool htool
    have hpath : Path.IsDirect (unitPath (Workplace.toolsOf service) tool.name) :=
      hdirectory.component (Naming.isComponent_unitFile
        (Naming.no_slash_of_isNamePoint (Tool.isNamePoint_ofDocument hmade htool)))
    show (after.get? (unitPath (Workplace.toolsOf service) tool.name)).isSome = true
    rw [((Tree.read_eq_ok hpath).mp hread).2]
    rfl

/-- The places of all units in the directories of services whose tools are made. -/
def unitPlaces (before after : Tree) (services : List Service) : Set Path :=
  {place | ∃ made ∈ listed before services, ∃ name, isUnitFile name = true ∧
    place = Workplace.toolsOf made.1 ++ [name] ∧ (after.get? place).isSome = true}

/-- There are as many units as tools have been made. -/
theorem ncard_unitPlaces {before after : Tree} (hkeys : (services.map Service.key).Nodup)
    (hcomponents : ∀ service ∈ services, Path.IsComponent service.key)
    (h : ∀ made ∈ listed before services, Describes after made.1 made.2) :
    (unitPlaces before after services).ncard = count (listed before services) := by
  let places := fun made : Service × List Tool =>
    made.2.map fun tool => unitPath (Workplace.toolsOf made.1) tool.name
  have hkey : ∀ made ∈ listed before services, Path.IsComponent made.1.key := fun made hmade =>
    hcomponents made.1 (mem_listed.mp hmade).1
  have hset : unitPlaces before after services =
      ((listed before services).flatMap places).toFinset := by
    ext place
    rw [List.coe_toFinset]
    constructor
    · rintro ⟨made, hmade, name, hname, rfl, hsome⟩
      obtain ⟨tool, htool, rfl⟩ := List.mem_map.mp (((h made hmade).only name hname).mp hsome)
      exact List.mem_flatMap.mpr ⟨made, hmade, List.mem_map_of_mem htool⟩
    · intro hplace
      obtain ⟨made, hmade, hplace⟩ := List.mem_flatMap.mp hplace
      obtain ⟨tool, htool, rfl⟩ := List.mem_map.mp hplace
      refine ⟨made, hmade, _, isUnitFile_unitFile tool.name, rfl, ?_⟩
      exact ((h made hmade).only _ (isUnitFile_unitFile _)).mpr (List.mem_map_of_mem htool)
  have hnodup : ((listed before services).flatMap places).Nodup := by
    refine List.nodup_flatMap.mpr ⟨fun made hmade => ?_, ?_⟩
    · have hplaces : places made = (made.2.map fun tool => Naming.unitFile tool.name).map
          fun file => Workplace.toolsOf made.1 ++ [file] := by
        rw [List.map_map]
        rfl
      rw [hplaces]
      exact (h made hmade).distinct.map fun _ _ heq =>
        (List.cons.inj (List.append_cancel_left heq)).1
    · refine (pairwise_listed before (List.pairwise_map.mp hkeys)).imp_of_mem
        fun hmade hother hne => ?_
      intro place hplace hplace'
      obtain ⟨tool, -, rfl⟩ := List.mem_map.mp hplace
      obtain ⟨tool', -, heq⟩ := List.mem_map.mp hplace'
      refine Workplace.not_prefix_toolsOf (hkey _ hmade) (hkey _ hother) hne
        (List.prefix_append _ _) (?_ : _ <+: unitPath _ tool.name)
      rw [← heq]
      exact List.prefix_append _ _
  rw [hset, Set.ncard_coe_finset, List.toFinset_card_of_nodup hnodup, List.length_flatMap]
  simp only [places, List.length_map, count]

/-- The tree after a run agrees with the summary of the run. Every service has one of three
outcomes. Those without a document are listed as passed over; those without operations leave no
trace; the others are listed with the number of their tools, which their directories describe. The
totals are the number of all units. -/
structure Agrees (before after : Tree) (services : List Service) (summary : Summary) : Prop where
  made : ∀ service ∈ services, ∀ fault, outcome before service ≠ .failed fault
  skipped : summary.skipped =
    (services.filter fun service => (document? before service).isNone).map Service.key
  listed : summary.services =
    (listed before services).map fun made => summaryEntry made.1 made.2
  described : ∀ made ∈ Generate.listed before services, Describes after made.1 made.2
  untouched : ∀ service ∈ services, (∀ tools, outcome before service ≠ .listed tools) →
    ∀ place, Workplace.toolsOf service <+: place → after.get? place = before.get? place
  operations : summary.operations = summary.tools
  tools : summary.tools = count (Generate.listed before services)
  units : summary.tools = (unitPlaces before after services).ncard

/-- What a run leaves agrees with the summary that it returns. -/
theorem run_agrees {now : Text} {world world' : World} {summary : Summary}
    (hkeys : (services.map Service.key).Nodup)
    (hcomponents : ∀ service ∈ services, Path.IsComponent service.key)
    (h : run now services world = .ok summary world') :
    Agrees world.files world'.files services summary := by
  obtain ⟨final, rfl, hfold, -, hfinal, -⟩ := run_spec hkeys hcomponents h
  have hdescribed : ∀ m ∈ listed world.files services, Describes final m.1 m.2 := by
    intro m hm
    obtain ⟨hservice, hlisted⟩ := mem_listed.mp hm
    exact describes_of_isDone (hcomponents m.1 hservice) hlisted (hfinal m.1 hservice)
  rw [foldl_addTo] at hfold
  have htotal : summary.tools = count (listed world.files services) := by
    rw [hfold]
    exact Nat.zero_add _
  refine ⟨fun service hservice fault hfailed => ?_, by rw [hfold]; rfl, by rw [hfold]; rfl,
    hdescribed, fun service hservice hnot place hplace => ?_, by rw [hfold]; rfl, htotal,
    by rw [htotal, ncard_unitPlaces hkeys hcomponents hdescribed]⟩
  · have hservice := hfinal service hservice
    unfold IsDone at hservice
    rw [hfailed] at hservice
    exact hservice
  · have hservice := hfinal service hservice
    unfold IsDone at hservice
    split at hservice
    · exact absurd ‹_› (hnot _)
    · exact hservice.elim
    · exact hservice place hplace

/-- A working directory with a schema that has an operation and one that has none. -/
def sampleFiles : Tree :=
  .ofEntries [([], .directory), (Workplace.schemas, .directory),
    (Workplace.schemas ++ [Text.ofString "hr_v1.json"],
      .ofString "\x7b\"paths\": \x7b\"/a\": \x7b\"get\": \x7b\x7d\x7d\x7d\x7d"),
    (Workplace.schemas ++ [Text.ofString "pay_v1.json"], .ofString "\x7b\x7d")]
    (by decide) (by decide)

/-- The two services with schemas and one without. -/
def sampleServices : List Service :=
  [.ofNameAndVersion (Text.ofString "hr") (Text.ofString "v1"),
    .ofNameAndVersion (Text.ofString "tax") (Text.ofString "v1"),
    .ofNameAndVersion (Text.ofString "pay") (Text.ofString "v1")]

/-- The services have different keys. -/
theorem nodup_sampleServices : (sampleServices.map Service.key).Nodup := by
  decide

/-- The keys of the services are components of paths. -/
theorem isComponent_sampleServices :
    ∀ service ∈ sampleServices, Path.IsComponent service.key := by
  decide

/-- A run over some of the services returns in the working directory. -/
theorem exists_run_of_subset {services : List Service} (hkeys : (services.map Service.key).Nodup)
    (hsubset : services ⊆ sampleServices) :
    ∃ summary world', run (Text.ofString "now") services (.ofFiles sampleFiles) =
      .ok summary world' := by
  have hnamed : ∀ service ∈ sampleServices, IsNamed service := by decide
  have hpasses : ∀ service ∈ sampleServices, Passes sampleFiles service := by decide +kernel
  have hcount : IsCount (count (listed sampleFiles sampleServices)) := by
    unfold IsCount
    decide +kernel
  exact exists_run_of_none (by decide) hkeys hsubset isComponent_sampleServices hnamed rfl
    (by decide) (Workplace.get?_eq_none_of_entries (by decide)) hcount hpasses

/-- A run in the working directory returns. -/
theorem exists_run_sampleFiles :
    ∃ summary world', run (Text.ofString "now") sampleServices (.ofFiles sampleFiles) =
      .ok summary world' :=
  exists_run_of_subset nodup_sampleServices (List.Subset.refl _)

/-- A run in the working directory returns, and what it leaves agrees with its summary. -/
theorem agrees_sampleFiles :
    ∃ summary world', run (Text.ofString "now") sampleServices (.ofFiles sampleFiles) =
        .ok summary world' ∧ Agrees sampleFiles world'.files sampleServices summary := by
  obtain ⟨summary, world', hrun⟩ := exists_run_sampleFiles
  exact ⟨summary, world', hrun, run_agrees nodup_sampleServices isComponent_sampleServices
    hrun⟩

end Toolsmith.Generate
