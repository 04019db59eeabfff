import Toolsmith.Proofs.Generate.Run

/-!
# What a run adds up

A run that returns has done for every service what the service's outcome asks for, and its summary
lists the services with tools, counts these and names the services that have been passed over.
-/

namespace Toolsmith.Generate

variable {services : List Service}

/-- The services whose tools are made, in their order and with their tools. -/
def listed (files : Tree) (services : List Service) : List (Service × List Tool) :=
  services.filterMap fun service =>
    match outcome files service with
    | .listed tools => some (service, tools)
    | _ => none

/-- The entry of a service with tools in a summary. -/
def summaryEntry (service : Service) (tools : List Tool) : Json :=
  .record [("name", service.name), ("version", service.version), ("tools", .integer tools.length)]

/-- How many tools are made of services. -/
def count (made : List (Service × List Tool)) : Nat :=
  (made.map fun service => service.2.length).sum

/-- A service is listed exactly if its tools are made. -/
theorem mem_listed {files : Tree} {service : Service} {tools : List Tool} :
    (service, tools) ∈ listed files services ↔
      service ∈ services ∧ outcome files service = .listed tools := by
  unfold listed
  rw [List.mem_filterMap]
  constructor
  · rintro ⟨other, hother, h⟩
    split at h
    · rename_i houtcome
      cases h
      exact ⟨hother, houtcome⟩
    · cases h
  · rintro ⟨hservice, houtcome⟩
    exact ⟨service, hservice, by rw [houtcome]⟩

/-- Services without operations are not listed. -/
theorem listed_eq_nil {files : Tree} (h : ∀ service ∈ services, outcome files service = .silent) :
    listed files services = [] := by
  refine List.filterMap_eq_nil_iff.mpr fun service hservice => ?_
  rw [h service hservice]

/-- The summary of a run in which the outcomes of services are added one after another. -/
theorem foldl_addTo (files : Tree) (services : List Service) (summary : Summary) :
    services.foldl (fun summary service => (outcome files service).addTo summary service) summary =
      { services := summary.services ++
          (listed files services).map fun service => summaryEntry service.1 service.2
        operations := summary.operations + count (listed files services)
        tools := summary.tools + count (listed files services)
        skipped := summary.skipped ++
          (services.filter fun service => (document? files service).isNone).map Service.key } := by
  induction services generalizing summary with
  | nil => simp [listed, count]
  | cons service services ih =>
    have hskipped : outcome files service = .skipped ↔ document? files service = none :=
      outcome_eq_skipped
    rw [List.foldl_cons, ih]
    cases houtcome : outcome files service with
    | skipped => simp [listed, houtcome, hskipped.mp houtcome, Outcome.addTo, Summary.skip]
    | silent =>
      have hsome : document? files service ≠ none := fun hnone => by
        rw [hskipped.mpr hnone] at houtcome
        cases houtcome
      simp [listed, houtcome, hsome, Outcome.addTo]
    | failed fault =>
      have hsome : document? files service ≠ none := fun hnone => by
        rw [hskipped.mpr hnone] at houtcome
        cases houtcome
      simp [listed, houtcome, hsome, Outcome.addTo]
    | listed tools =>
      obtain ⟨document, hdocument, hmade, -⟩ := outcome_eq_listed houtcome
      have hunits : (Tool.units tools).length = tools.length := by
        rw [Tool.units_eq_map (Tool.nodup_ofDocument hmade), List.length_map]
      simp [listed, houtcome, hdocument, Outcome.addTo, Summary.add, hunits, count, summaryEntry,
        Nat.add_assoc]

/-- The services whose tools are made are related like all services. -/
theorem pairwise_listed {r : Service → Service → Prop} (files : Tree) (h : services.Pairwise r) :
    (listed files services).Pairwise fun made other => r made.1 other.1 := by
  refine h.filterMap _ fun service other hrelated made hmade made' hmade' => ?_
  split at hmade
  · cases hmade
    split at hmade'
    · cases hmade'
      exact hrelated
    · cases hmade'
  · cases hmade

/-- Making the directory of all tools does not change the outcome of any service. -/
theorem outcome_of_addsWay {before after : Tree} {service : Service}
    (hkey : Path.IsComponent service.key)
    (hadds : Tree.AddsWay Workplace.tools before after) :
    outcome after service = outcome before service := by
  have hdocument : document? after service = document? before service := by
    unfold document?
    rw [Tree.document?_congr fun _ => hadds.read_iff (Workplace.isDirect_schema hkey)]
  unfold outcome
  rw [hdocument]

/-- The summary of a run is below the working directory. -/
theorem isDirect_summary : Path.IsDirect Workplace.summary := by
  unfold Path.IsDirect
  decide

/-- A run that returns has done for every service what its outcome in the beginning asks for. It
changes the way to the directories of tools, these directories and the file of the summary, which
holds the summary then. -/
theorem run_spec {now : Text} {world world' : World} {summary : Summary}
    (hkeys : (services.map Service.key).Nodup)
    (hcomponents : ∀ service ∈ services, Path.IsComponent service.key)
    (h : run now services world = .ok summary world') :
    ∃ files, world' = { world with files } ∧
      summary = services.foldl
        (fun summary service => (outcome world.files service).addTo summary service) .empty ∧
      Tree.Changes (fun place => place <+: Workplace.tools ∨
          (∃ service ∈ services, Workplace.toolsOf service <+: place) ∨ place = Workplace.summary)
        world.files files ∧
      (∀ service ∈ services, IsDone world.files files service) ∧
      files.isDirectory Workplace.tools = true ∧
      files.Holds Workplace.summary (summary.toJson now).fileText := by
  obtain ⟨made, middle, hmade, hrun, hwrite⟩ := run_eq_ok.mp h
  obtain ⟨hadds, hthere⟩ := Tree.addsWay_of_makeDirectories Workplace.isDirect_tools hmade
  have hdone := isDone_of_runFrom hkeys hcomponents (hthere rfl) hrun
  obtain ⟨files, rfl, hsummary, hchanges⟩ := runFrom_spec hcomponents (hthere rfl) hrun
  obtain ⟨-, htext⟩ := Action.writeDocument_eq_ok.mp hwrite
  obtain ⟨final, rfl, hlast, hholds⟩ := Action.writeText_spec isDirect_summary htext
  have houtcome : ∀ service ∈ services, outcome made service = outcome world.files service :=
    fun service hservice => outcome_of_addsWay (hcomponents service hservice) hadds
  refine ⟨final, rfl, ?_, ?_, fun service hservice => ?_, ?_, hholds⟩
  · rw [hsummary]
    exact List.foldl_ext _ _ _ fun _ service hservice => by rw [houtcome service hservice]
  · refine ((hadds.changes.mono fun place hplace => .inl hplace).trans
      (hchanges.mono fun place hplace => .inr (.inl hplace))).trans
      (hlast.mono fun place hplace => .inr (.inr hplace))
  · have hkey := hcomponents service hservice
    refine ((hdone service hservice).of_changes_after hkey hlast ?_).of_changes_before hadds.changes
      ?_ (houtcome service hservice)
    · rintro place hplace rfl
      exact Workplace.not_prefix_summary hkey hplace
    · intro place hplace hway
      have hlength := (hplace.trans hway).length_le
      rw [Workplace.toolsOf_eq hkey] at hlength
      exact absurd hlength (by simp)
  · exact hlast.keeps.isDirectory (hchanges.keeps.isDirectory (hthere rfl))

end Toolsmith.Generate
