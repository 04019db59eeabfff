import Toolsmith.Proofs.Generate.Agreement
import Toolsmith.Proofs.Generate.Effect

/-!
# Services do not interfere

What a run makes of a service depends on its schema and its own directory only. It is the same
whether the service is run alone or among others with different keys, and in which order they are
run; and what belongs to none of them is not touched.
-/

namespace Toolsmith.Generate

variable {files made : Tree} {summary : Summary} {service : Service} {services : List Service}

/-- The class of a service in a run: it has been passed over, it has left no trace, or it is listed
with an entry that says how many tools it has. -/
inductive Class where
  | skipped
  | silent
  | listed (entry : Json)

/-- The key of the service that an entry of a summary tells of. -/
def entryKey (entry : Json) : Text :=
  match entry.get? (Text.ofString "name"), entry.get? (Text.ofString "version") with
  | some name, some version => Service.key ⟨name, version, .null, .null⟩
  | _, _ => []

/-- The class of a service as a summary tells it. -/
def Summary.classOf (summary : Summary) (service : Service) : Class :=
  if summary.skipped.contains service.key then .skipped
  else
    match summary.services.find? fun entry => entryKey entry = service.key with
    | some entry => .listed entry
    | none => .silent

/-- The class of a service with an outcome. -/
def Outcome.classOf (service : Service) : Outcome → Class
  | skipped => .skipped
  | listed tools => .listed (summaryEntry service tools)
  | _ => .silent

/-- The entry of a service tells of its key. -/
theorem entryKey_summaryEntry (service : Service) (tools : List Tool) :
    entryKey (summaryEntry service tools) = service.key :=
  rfl

/-- An entry tells of a service with a key of its own exactly if it is that of the service's
tools. -/
theorem entryKey_eq_iff (hkeys : (services.map Service.key).Nodup) (hservice : service ∈ services)
    {entry : Json} (hentry : entry ∈ (listed files services).map fun made =>
      summaryEntry made.1 made.2) :
    entryKey entry = service.key ↔
      ∃ tools, outcome files service = .listed tools ∧ entry = summaryEntry service tools := by
  obtain ⟨⟨other, tools⟩, hmade, rfl⟩ := List.mem_map.mp hentry
  obtain ⟨hother, houtcome⟩ := mem_listed.mp hmade
  rw [entryKey_summaryEntry]
  constructor
  · intro heq
    obtain rfl := List.inj_on_of_nodup_map hkeys hother hservice heq
    exact ⟨tools, houtcome, rfl⟩
  · rintro ⟨tools', -, heq⟩
    rw [← entryKey_summaryEntry other tools, heq, entryKey_summaryEntry]

/-- A summary that outcomes have been added to. -/
def Sums (files : Tree) (services : List Service) (summary : Summary) : Prop :=
  summary = services.foldl
    (fun summary service => (outcome files service).addTo summary service) .empty

/-- A summary names a service as passed over exactly if that is its outcome. -/
theorem Sums.mem_skipped (h : Sums files services summary)
    (hkeys : (services.map Service.key).Nodup) (hservice : service ∈ services) :
    service.key ∈ summary.skipped ↔ outcome files service = .skipped := by
  rw [Sums, foldl_addTo] at h
  have hskipped : summary.skipped = (services.filter fun service =>
      (document? files service).isNone).map Service.key := by rw [h]; rfl
  rw [hskipped, outcome_eq_skipped, List.mem_map]
  constructor
  · rintro ⟨other, hother, heq⟩
    obtain ⟨hmem, hnone⟩ := List.mem_filter.mp hother
    obtain rfl := List.inj_on_of_nodup_map hkeys hmem hservice heq
    exact Option.isNone_iff_eq_none.mp hnone
  · intro hnone
    exact ⟨service, List.mem_filter.mpr ⟨hservice, by rw [hnone]; rfl⟩, rfl⟩

/-- A summary has an entry of a service exactly if the service has tools. -/
theorem Sums.find?_eq_some (h : Sums files services summary)
    (hkeys : (services.map Service.key).Nodup) (hservice : service ∈ services) {entry : Json} :
    (summary.services.find? fun entry => entryKey entry = service.key) = some entry ↔
      ∃ tools, outcome files service = .listed tools ∧ entry = summaryEntry service tools := by
  rw [Sums, foldl_addTo] at h
  have hservices : summary.services = (listed files services).map fun made =>
      summaryEntry made.1 made.2 := by rw [h]; rfl
  rw [hservices]
  constructor
  · intro hfind
    have hkey : entryKey entry = service.key := by simpa using List.find?_some hfind
    exact (entryKey_eq_iff hkeys hservice (List.mem_of_find?_eq_some hfind)).mp hkey
  · rintro ⟨tools, houtcome, rfl⟩
    have hentry := List.mem_map_of_mem (f := fun made : Service × List Tool =>
      summaryEntry made.1 made.2) (mem_listed.mpr ⟨hservice, houtcome⟩)
    cases hfind : ((listed files services).map fun made => summaryEntry made.1 made.2).find?
        fun entry => entryKey entry = service.key with
    | none =>
      have hnot := List.find?_eq_none.mp hfind _ hentry
      exact absurd (entryKey_summaryEntry service tools) (by simpa using hnot)
    | some other =>
      have hkey : entryKey other = service.key := by simpa using List.find?_some hfind
      obtain ⟨tools', houtcome', rfl⟩ :=
        (entryKey_eq_iff hkeys hservice (List.mem_of_find?_eq_some hfind)).mp hkey
      rw [houtcome] at houtcome'
      cases houtcome'
      rfl

/-- A summary tells the class of every service with a key of its own by the service's outcome. -/
theorem Sums.classOf_eq (h : Sums files services summary)
    (hkeys : (services.map Service.key).Nodup) (hservice : service ∈ services) :
    summary.classOf service = (outcome files service).classOf service := by
  have hskipped := h.mem_skipped hkeys hservice
  have hnone : (∀ tools, outcome files service ≠ .listed tools) →
      (summary.services.find? fun entry => entryKey entry = service.key) = none := by
    intro hnot
    refine Option.eq_none_iff_forall_ne_some.mpr fun entry hfind => ?_
    obtain ⟨tools, houtcome, -⟩ := (h.find?_eq_some hkeys hservice).mp hfind
    exact hnot tools houtcome
  unfold Summary.classOf
  cases houtcome : outcome files service with
  | skipped => rw [if_pos (List.contains_iff_mem.mpr (hskipped.mpr houtcome)), Outcome.classOf]
  | silent =>
    rw [houtcome] at hskipped hnone
    rw [if_neg (by simp [hskipped]), hnone nofun, Outcome.classOf]
    all_goals exact nofun
  | failed fault =>
    rw [houtcome] at hskipped hnone
    rw [if_neg (by simp [hskipped]), hnone nofun, Outcome.classOf]
    all_goals exact nofun
  | listed tools =>
    rw [houtcome] at hskipped
    rw [if_neg (by simp [hskipped]),
      (h.find?_eq_some hkeys hservice).mpr ⟨tools, houtcome, rfl⟩, Outcome.classOf]

/-- What another service leaves says nothing of the places of a service's tools. -/
theorem Outcome.overlay_elsewhere {other : Service} (outcome : Outcome)
    (hkey : Path.IsComponent service.key) (hother : Path.IsComponent other.key)
    (hne : service.key ≠ other.key) {place : Path} (hplace : Workplace.toolsOf service <+: place) :
    outcome.overlay other place = none := by
  apply outcome.overlay_eq_none
  · exact Workplace.not_prefix_toolsOf hkey hother hne hplace
  · intro hway
    exact Workplace.not_prefix_toolsOf hkey hother hne (hplace.trans hway) List.prefix_rfl

/-- What other services leave says nothing of the places of a service's tools. -/
theorem overlayOf_elsewhere (hkey : Path.IsComponent service.key)
    (hcomponents : ∀ other ∈ services, Path.IsComponent other.key)
    (hne : ∀ other ∈ services, service.key ≠ other.key) {place : Path}
    (hplace : Workplace.toolsOf service <+: place) : overlayOf files services place = none := by
  induction services with
  | nil => rfl
  | cons other services ih =>
    obtain ⟨hother, hrestComponents⟩ := List.forall_mem_cons.mp hcomponents
    obtain ⟨hotherNe, hrestNe⟩ := List.forall_mem_cons.mp hne
    exact Overlay.onto_eq_none.mpr
      ⟨ih hrestComponents hrestNe, Outcome.overlay_elsewhere _ hkey hother hotherNe hplace⟩

/-- Of the places of a service's tools, services with different keys leave what the service itself
does. -/
theorem overlayOf_eq (hkeys : (services.map Service.key).Nodup)
    (hcomponents : ∀ service ∈ services, Path.IsComponent service.key)
    (hservice : service ∈ services) {place : Path} (hplace : Workplace.toolsOf service <+: place) :
    overlayOf files services place = (outcome files service).overlay service place := by
  induction services with
  | nil => cases hservice
  | cons other services ih =>
    obtain ⟨hother, hrestComponents⟩ := List.forall_mem_cons.mp hcomponents
    obtain ⟨hnew, hrestKeys⟩ := List.nodup_cons.mp hkeys
    rw [overlayOf, Overlay.onto]
    rcases List.mem_cons.mp hservice with rfl | hmem
    · have hne : ∀ other ∈ services, service.key ≠ other.key := fun other hother heq =>
        hnew (heq ▸ List.mem_map_of_mem hother)
      rw [overlayOf_elsewhere hother hrestComponents hne hplace]
      rfl
    · have hkey := hrestComponents service hmem
      have hne : service.key ≠ other.key := fun heq => hnew (heq ▸ List.mem_map_of_mem hmem)
      rw [ih hrestKeys hrestComponents hmem, Outcome.overlay_elsewhere _ hkey hother hne hplace]
      exact Option.or_none

/-- What a run makes of a service, once the directory of all tools is made: what stands in the
service's directory and its class depend on its outcome and on what has stood there. -/
structure Makes (made : Tree) (service : Service) (summary : Summary) (files : Tree) : Prop where
  contents : ∀ place, Workplace.toolsOf service <+: place →
    files.get? place = ((outcome made service).overlay service place).getD (made.get? place)
  class_eq : summary.classOf service = (outcome made service).classOf service

/-- A run over services with different keys makes of each what its outcome asks for. -/
theorem run_makes {now : Text} {world world' : World}
    (hkeys : (services.map Service.key).Nodup)
    (hcomponents : ∀ service ∈ services, Path.IsComponent service.key)
    (hmade : world.files.makeDirectories Workplace.tools = (made, none))
    (h : run now services world = .ok summary world') :
    ∀ service ∈ services, Makes made service summary world'.files := by
  obtain ⟨made', files, hmade', rfl, hfold, -, hcovers⟩ := run_effect hcomponents h
  obtain rfl : made' = made := congrArg Prod.fst (hmade'.symm.trans hmade)
  intro service hservice
  refine ⟨fun place hplace => ?_, Sums.classOf_eq hfold hkeys hservice⟩
  have hne : place ≠ Workplace.summary := by
    rintro rfl
    exact Workplace.not_prefix_summary (hcomponents service hservice) hplace
  rw [hcovers place, Overlay.onto, Overlay.file_of_ne hne, Option.none_or,
    overlayOf_eq hkeys hcomponents hservice hplace]

/-- Two runs agree on a service: its directory holds the same after both, and both tell the same
class, with the same number of tools. -/
structure Concurs (service : Service) (summary : Summary) (files : Tree) (summary' : Summary)
    (files' : Tree) : Prop where
  contents : ∀ place, Workplace.toolsOf service <+: place → files.get? place = files'.get? place
  class_eq : summary.classOf service = summary'.classOf service

/-- Runs that make the same of a service agree on it. -/
theorem Makes.concurs {summary' : Summary} {files' : Tree} (h : Makes made service summary files)
    (h' : Makes made service summary' files') : Concurs service summary files summary' files' :=
  ⟨fun place hplace => (h.contents place hplace).trans (h'.contents place hplace).symm,
    h.class_eq.trans h'.class_eq.symm⟩

/-- Services with different keys do not interfere. A run over all of them agrees on each with a run
over this one alone, and on everything but the summary's file with a run over them in another order,
where these runs return. It leaves everything that belongs to none of them as it has been. -/
theorem run_independent {now : Text} {world world' : World}
    (hkeys : (services.map Service.key).Nodup)
    (hcomponents : ∀ service ∈ services, Path.IsComponent service.key)
    (h : run now services world = .ok summary world') :
    (∀ service ∈ services, ∀ now' alone v, run now' [service] world = .ok alone v →
      Concurs service summary world'.files alone v.files) ∧
    (∀ others : List Service, others.Perm services →
      ∀ now' total v, run now' others world = .ok total v →
        (∀ service ∈ services, Concurs service summary world'.files total v.files) ∧
        ∀ place, place ≠ Workplace.summary → world'.files.get? place = v.files.get? place) ∧
    ∀ place, ¬place <+: Workplace.tools → place ≠ Workplace.summary →
      (∀ service ∈ services, ¬Workplace.toolsOf service <+: place) →
        world'.files.get? place = world.files.get? place := by
  obtain ⟨made, files, hmade, hfiles, -, hchanges, -⟩ := run_effect hcomponents h
  have hmakes := run_makes hkeys hcomponents hmade h
  subst hfiles
  refine ⟨fun service hservice now' alone v halone => ?_, fun others hperm now' total v htotal => ?_,
    fun place hway hsummary hbelow => ?_⟩
  · have hmakes' : ∀ other ∈ [service], Makes made other alone v.files :=
      run_makes (List.nodup_singleton _)
        (List.forall_mem_singleton.mpr (hcomponents service hservice)) hmade halone
    exact (hmakes service hservice).concurs (hmakes' service (List.mem_singleton_self _))
  · have hotherComponents : ∀ service ∈ others, Path.IsComponent service.key :=
      fun service hservice => hcomponents service (hperm.subset hservice)
    have hmakes' := run_makes ((hperm.map _).nodup_iff.mpr hkeys) hotherComponents hmade htotal
    have hconcurs : ∀ service ∈ services, Concurs service summary files total v.files :=
      fun service hservice =>
        (hmakes service hservice).concurs (hmakes' service (hperm.symm.subset hservice))
    refine ⟨hconcurs, fun place hsummary => ?_⟩
    by_cases hplace : ∃ service ∈ services, Workplace.toolsOf service <+: place
    · obtain ⟨service, hservice, hbelow⟩ := hplace
      exact (hconcurs service hservice).contents place hbelow
    · -- Neither run writes there after the directory of all tools is made.
      obtain ⟨made', files', hmade', rfl, -, hchanges', -⟩ := run_effect hotherComponents htotal
      obtain rfl : made' = made := congrArg Prod.fst (hmade'.symm.trans hmade)
      rw [hchanges.frame, hchanges'.frame]
      · rintro (⟨service, hservice, hbelow⟩ | rfl)
        · exact hplace ⟨service, hperm.subset hservice, hbelow⟩
        · exact hsummary rfl
      · rintro (hservice | rfl)
        · exact hplace hservice
        · exact hsummary rfl
  · obtain ⟨hadds, -⟩ := Tree.addsWay_of_makeDirectories Workplace.isDirect_tools hmade
    rw [hchanges.frame, hadds.changes.frame place hway]
    rintro (⟨service, hservice, hservicePlace⟩ | rfl)
    · exact hbelow service hservice hservicePlace
    · exact hsummary rfl

/-- In the working directory with samples, runs over the three services, over each alone and over
the three in another order return, so these runs agree. -/
theorem independent_sampleServices :
    ∃ summary world', run (Text.ofString "now") sampleServices (.ofFiles sampleFiles) =
        .ok summary world' ∧
      (∀ service ∈ sampleServices, ∃ alone v,
        run (Text.ofString "now") [service] (.ofFiles sampleFiles) = .ok alone v ∧
          Concurs service summary world'.files alone v.files) ∧
      (∃ total v, run (Text.ofString "now") sampleServices.reverse (.ofFiles sampleFiles) =
          .ok total v ∧
        ∀ place, place ≠ Workplace.summary → world'.files.get? place = v.files.get? place) ∧
      world'.files.get? (Workplace.tools ++ [Text.ofString "other_v1"]) =
        sampleFiles.get? (Workplace.tools ++ [Text.ofString "other_v1"]) := by
  obtain ⟨summary, world', hrun⟩ := exists_run_sampleFiles
  obtain ⟨halone, horder, helsewhere⟩ :=
    run_independent nodup_sampleServices isComponent_sampleServices hrun
  refine ⟨summary, world', hrun, fun service hservice => ?_, ?_, ?_⟩
  · have hsubset : [service] ⊆ sampleServices := List.cons_subset.mpr ⟨hservice, List.nil_subset _⟩
    have hkeys : ([service].map Service.key).Nodup := List.nodup_singleton _
    obtain ⟨alone, v, hsingle⟩ := exists_run_of_subset hkeys hsubset
    exact ⟨alone, v, hsingle, halone service hservice _ alone v hsingle⟩
  · have hperm := List.reverse_perm sampleServices
    obtain ⟨total, v, hreverse⟩ := exists_run_of_subset (by decide) hperm.subset
    exact ⟨total, v, hreverse, (horder _ hperm _ total v hreverse).2⟩
  · exact helsewhere _ (by decide) (by decide) (by decide)

end Toolsmith.Generate
