import Toolsmith.Proofs.Generate.Passing
import Toolsmith.Proofs.Generate.Totals

/-!
# How far a run gets

A run does its services one after another and stops at the first after which it cannot go on. Those
before it have their output then, those after it have none, and there is no summary.
-/

namespace Toolsmith.Generate

variable {w w' : World} {summary : Summary} {services : List Service}

/-- Where no tools of a service stand, none do after changes elsewhere. -/
theorem IsClear.congr {files files' : Tree} {places : Path → Prop} {service : Service}
    (hkey : Path.IsComponent service.key) (hclear : IsClear files service)
    (h : Tree.Changes places files files')
    (hschema : ∀ before, before <+: Workplace.schema service → ¬places before)
    (htools : ∀ place, Workplace.toolsOf service <+: place → ¬places place) :
    IsClear files' service := by
  intro tools houtcome place hplace
  rw [outcome_congr hkey h hschema] at houtcome
  rw [h.frame place (htools place hplace)]
  exact hclear tools houtcome place hplace

/-- The step for one service changes nothing that the services after it depend on. -/
theorem clear_and_passes_of_runService {middle : Summary} {service : Service}
    (hkey : Path.IsComponent service.key) (hnew : service.key ∉ services.map Service.key)
    (hcomponents : ∀ other ∈ services, Path.IsComponent other.key)
    (hthere : w.files.isDirectory Workplace.tools = true)
    (hclear : ∀ other ∈ services, IsClear w.files other)
    (h : runService summary service w = .ok middle w') :
    w'.files.isDirectory Workplace.tools = true ∧ (∀ other ∈ services, IsClear w'.files other) ∧
      ∀ other ∈ services, (Passes w'.files other ↔ Passes w.files other) := by
  obtain ⟨files, rfl, -, hchanges, -⟩ :=
    runService_spec hkey (Workplace.hasWay_toolsOf hkey hthere) h
  have hschema : ∀ other ∈ services, ∀ before, before <+: Workplace.schema other →
      ¬Workplace.toolsOf service <+: before := fun other hother before hbefore hbelow =>
    Workplace.not_prefix_schema hkey (hcomponents other hother) hbelow hbefore
  refine ⟨hchanges.keeps.isDirectory hthere, fun other hother => ?_,
    fun other hother => Passes.congr (hcomponents other hother) hchanges (hschema other hother)⟩
  have hne : other.key ≠ service.key := fun heq => hnew (heq ▸ List.mem_map_of_mem hother)
  exact (hclear other hother).congr (hcomponents other hother) hchanges (hschema other hother)
    fun place hplace => Workplace.not_prefix_toolsOf (hcomponents other hother) hkey hne hplace

/-- Generating the tools of services returns exactly if a run goes on after each of them. -/
theorem runFrom_returns_iff (summary : Summary) (hkeys : (services.map Service.key).Nodup)
    (hcomponents : ∀ service ∈ services, Path.IsComponent service.key)
    (hthere : w.files.isDirectory Workplace.tools = true)
    (hclear : ∀ service ∈ services, IsClear w.files service) :
    (∃ summary' w', runFrom summary services w = .ok summary' w') ↔
      ∀ service ∈ services, Passes w.files service := by
  induction services generalizing w summary with
  | nil => exact ⟨fun _ => List.forall_mem_nil _, fun _ => ⟨summary, w, rfl⟩⟩
  | cons service services ih =>
    obtain ⟨hkey, hrestComponents⟩ := List.forall_mem_cons.mp hcomponents
    obtain ⟨hnew, hrestKeys⟩ := List.nodup_cons.mp hkeys
    obtain ⟨hserviceClear, hrestClear⟩ := List.forall_mem_cons.mp hclear
    have hway := Workplace.hasWay_toolsOf hkey hthere
    constructor
    · rintro ⟨summary', w', h⟩
      obtain ⟨middle, v, hstep, hrest⟩ := Action.bind_eq_ok.mp h
      obtain ⟨hthere', hclear', hpasses⟩ :=
        clear_and_passes_of_runService hkey hnew hrestComponents hthere hrestClear hstep
      have hothers := (ih _ hrestKeys hrestComponents hthere' hclear').mp ⟨summary', w', hrest⟩
      refine List.forall_mem_cons.mpr ⟨?_, fun other hother => ?_⟩
      · exact (runService_returns_iff summary hkey hway hserviceClear).mp ⟨middle, v, hstep⟩
      · exact (hpasses other hother).mp (hothers other hother)
    · intro h
      obtain ⟨hservice, hothers⟩ := List.forall_mem_cons.mp h
      obtain ⟨middle, v, hstep⟩ :=
        (runService_returns_iff summary hkey hway hserviceClear).mpr hservice
      obtain ⟨hthere', hclear', hpasses⟩ :=
        clear_and_passes_of_runService hkey hnew hrestComponents hthere hrestClear hstep
      obtain ⟨summary', w', hrest⟩ :=
        (ih middle hrestKeys hrestComponents hthere' hclear').mpr fun other hother =>
          (hpasses other hother).mpr (hothers other hother)
      exact ⟨summary', w', Action.bind_eq_ok.mpr ⟨middle, v, hstep, hrest⟩⟩

/-- What stops stops at a service: those before it have been done. -/
theorem runFrom_eq_error {fault : Fault} (h : runFrom summary services w = .error fault w') :
    ∃ before service after middle v, services = before ++ service :: after ∧
      runFrom summary before w = .ok middle v ∧ runService middle service v = .error fault w' := by
  induction services generalizing w summary with
  | nil => cases h
  | cons service services ih =>
    rcases Action.bind_eq_error.mp h with hstep | ⟨middle, v, hstep, hrest⟩
    · exact ⟨[], service, services, summary, w, rfl, rfl, hstep⟩
    · obtain ⟨before, bad, after, last, v', rfl, hbefore, hbad⟩ := ih hrest
      exact ⟨service :: before, bad, after, last, v', rfl,
        Action.bind_eq_ok.mpr ⟨middle, v, hstep, hbefore⟩, hbad⟩

/-- What a run leaves that stops at a service. The services before it have their output, and nothing
has been written for those after it, and no summary. -/
structure StopsAt (start left : Tree) (before : List Service) (service : Service)
    (after : List Service) : Prop where
  passed : ∀ other ∈ before, Passes start other
  done : ∀ other ∈ before, IsDone start left other
  stuck : ¬Passes start service
  untouched : ∀ other ∈ after, ∀ place, Workplace.toolsOf other <+: place →
    left.get? place = start.get? place
  noSummary : left.get? Workplace.summary = start.get? Workplace.summary

/-- Generating the tools of services stops at the first after which it cannot go on. -/
theorem stopsAt_of_runFrom (hkeys : (services.map Service.key).Nodup)
    (hcomponents : ∀ service ∈ services, Path.IsComponent service.key)
    (hthere : w.files.isDirectory Workplace.tools = true)
    (hclear : ∀ service ∈ services, IsClear w.files service) {fault : Fault}
    (h : runFrom summary services w = .error fault w') :
    ∃ before service after, services = before ++ service :: after ∧
      StopsAt w.files w'.files before service after := by
  obtain ⟨before, service, after, middle, v, rfl, hbefore, hbad⟩ := runFrom_eq_error h
  refine ⟨before, service, after, rfl, ?_⟩
  obtain ⟨hbeforeComponents, hrestComponents⟩ := List.forall_mem_append.mp hcomponents
  obtain ⟨hkey, hafterComponents⟩ := List.forall_mem_cons.mp hrestComponents
  obtain ⟨hbeforeClear, hrestClear⟩ := List.forall_mem_append.mp hclear
  rw [List.map_append, List.map_cons, List.nodup_append, List.nodup_cons] at hkeys
  obtain ⟨hbeforeKeys, ⟨hafterNe, -⟩, hapart⟩ := hkeys
  have hne : ∀ other ∈ before, other.key ≠ service.key := fun other hother =>
    hapart _ (List.mem_map_of_mem hother) _ List.mem_cons_self
  have hdone := isDone_of_runFrom hbeforeKeys hbeforeComponents hthere hbefore
  obtain ⟨files, rfl, -, hchanges⟩ := runFrom_spec hbeforeComponents hthere hbefore
  have hthere' := hchanges.keeps.isDirectory hthere
  have hway : files.HasWay (Workplace.toolsOf service) := Workplace.hasWay_toolsOf hkey hthere'
  have hlast : Tree.Changes (Workplace.toolsOf service <+: ·) files w'.files :=
    (preserves_runService (isLocal_changes (Workplace.isDirect_toolsOf hkey) hway) middle).of_error
      (.refl _ _) hbad
  have hschema : ∀ place, place <+: Workplace.schema service →
      ¬∃ other ∈ before, Workplace.toolsOf other <+: place := by
    rintro place hplace ⟨other, hother, hbelow⟩
    exact Workplace.not_prefix_schema (hbeforeComponents other hother) hkey hbelow hplace
  refine ⟨?_, fun other hother => ?_, fun hpasses => ?_, fun other hother place hplace => ?_, ?_⟩
  · exact (runFrom_returns_iff _ hbeforeKeys hbeforeComponents hthere hbeforeClear).mp
      ⟨middle, _, hbefore⟩
  · exact (hdone other hother).of_changes_after (hbeforeComponents other hother) hlast
      fun place hplace => Workplace.not_prefix_toolsOf (hbeforeComponents other hother) hkey
        (hne other hother) hplace
  · have hclear' : IsClear files service := by
      refine (List.forall_mem_cons.mp hrestClear).1.congr hkey hchanges hschema ?_
      rintro place hplace ⟨other, hother, hbelow⟩
      exact Workplace.not_prefix_toolsOf (hbeforeComponents other hother) hkey (hne other hother)
        hbelow hplace
    obtain ⟨summary', v', hok⟩ := (runService_returns_iff middle (w := { w with files := files })
      hkey hway hclear').mpr ((Passes.congr hkey hchanges hschema).mpr hpasses)
    rw [hok] at hbad
    cases hbad
  · have hotherKey := hafterComponents other hother
    have hotherNe : other.key ≠ service.key := fun heq =>
      hafterNe (heq ▸ List.mem_map_of_mem hother)
    rw [hlast.frame place (Workplace.not_prefix_toolsOf hotherKey hkey hotherNe hplace),
      hchanges.frame place]
    rintro ⟨first, hfirst, hbelow⟩
    exact Workplace.not_prefix_toolsOf (hbeforeComponents first hfirst) hotherKey
      (hapart _ (List.mem_map_of_mem hfirst) _
        (List.mem_cons_of_mem _ (List.mem_map_of_mem hother))) hbelow hplace
  · rw [hlast.frame _ (Workplace.not_prefix_summary hkey), hchanges.frame]
    rintro ⟨other, hother, hbelow⟩
    exact Workplace.not_prefix_summary (hbeforeComponents other hother) hbelow

/-- A service with texts for a name and a version, which have encodings. -/
structure IsNamed (service : Service) : Prop where
  name : ∃ t, service.name = .text t ∧ t.encode.isSome = true
  version : ∃ t, service.version = .text t ∧ t.encode.isSome = true

instance : DecidablePred IsNamed := fun service =>
  decidable_of_iff ((service.name.text?.any (fun t => t.encode.isSome) &&
      service.version.text?.any fun t => t.encode.isSome) = true) <| by
    have htext : ∀ v : Json, v.text?.any (fun t => t.encode.isSome) = true ↔
        ∃ t, v = .text t ∧ t.encode.isSome = true := by
      intro v
      cases v <;> simp [Json.text?]
    rw [Bool.and_eq_true, htext, htext]
    exact ⟨fun h => ⟨h.1, h.2⟩, fun h => ⟨h.name, h.version⟩⟩

/-- A number that can be written. -/
def IsCount (n : Nat) : Prop :=
  n < 10 ^ Text.maxDigits

/-- A number that can be written fits. -/
theorem IsCount.fits {n : Nat} (h : IsCount n) (room : Nat) : (Json.integer n).Fits room :=
  .of_depth_eq_zero (Text.length_ofNat_le (by decide) h) rfl

/-- No service has more tools than all that are listed. -/
theorem length_le_count {made : List (Service × List Tool)} {pair : Service × List Tool}
    (h : pair ∈ made) : pair.2.length ≤ count made :=
  List.single_le_sum (fun _ _ => Nat.zero_le _) _ (List.mem_map_of_mem h)

/-- Of services with tools there are no more than tools. -/
theorem length_listed_le (files : Tree) (services : List Service) :
    (listed files services).length ≤ count (listed files services) := by
  rw [count, ← List.length_map fun made : Service × List Tool => made.2.length]
  refine List.length_le_sum_of_one_le _ (List.forall_mem_map.mpr fun made hmade => ?_)
  obtain ⟨-, -, -, hne⟩ := outcome_eq_listed (mem_listed.mp hmade).2
  exact List.length_pos_iff.mpr hne

/-- Some of the services, each once, have no more tools than all of them. -/
theorem count_listed_le {files : Tree} {others : List Service} (hnodup : services.Nodup)
    (hsubset : services ⊆ others) :
    count (listed files services) ≤ count (listed files others) := by
  obtain ⟨chosen, hperm, hsublist⟩ := List.subperm_of_subset hnodup hsubset
  calc count (listed files services)
      = count (listed files chosen) := ((hperm.symm.filterMap _).map _).sum_nat
    _ ≤ count (listed files others) :=
        ((hsublist.filterMap _).map _).sum_le_sum fun _ _ => Nat.zero_le _

/-- The entry of such a service in a summary can be written. -/
theorem IsNamed.summaryEntry {service : Service} (h : IsNamed service) {tools : List Tool}
    (hcount : IsCount tools.length) :
    (summaryEntry service tools).Encodable ∧ (Generate.summaryEntry service tools).Fits 1 := by
  obtain ⟨name, hname, hencode⟩ := h.name
  obtain ⟨version, hversion, hencode'⟩ := h.version
  unfold Generate.summaryEntry
  rw [hname, hversion]
  constructor
  · refine Json.encodable_object.mpr ?_
    simp only [List.map_cons, List.map_nil, List.forall_mem_cons]
    exact ⟨⟨by decide, .of_text hencode⟩, ⟨by decide, .of_text hencode'⟩,
      ⟨by decide, .of_integer trivial⟩, List.forall_mem_nil _⟩
  · refine Json.fits_object.mpr ?_
    simp only [List.map_cons, List.map_nil, List.forall_mem_cons]
    exact ⟨.of_depth_eq_zero trivial rfl, .of_depth_eq_zero trivial rfl, hcount.fits 0,
      List.forall_mem_nil _⟩

/-- The summary of a run over such services can be written. -/
theorem isWritten_summary {now : Text} (hnow : now.encode.isSome = true)
    (hservices : IsCount summary.services.length) (htools : IsCount summary.tools)
    (h : ∀ entry ∈ summary.services, entry.Encodable ∧ entry.Fits 1) :
    (summary.toJson now).Encodable ∧ (summary.toJson now).Fits Json.maxDepth := by
  constructor
  · refine Json.encodable_object.mpr ?_
    simp only [List.map_cons, List.map_nil, List.forall_mem_cons]
    exact ⟨⟨by decide, .of_text hnow⟩, ⟨by decide, .of_integer trivial⟩,
      ⟨by decide, .of_integer trivial⟩,
      ⟨by decide, Json.encodable_array.mpr fun entry hentry => (h entry hentry).1⟩,
      List.forall_mem_nil _⟩
  · have hitems : (Json.array summary.services).Fits 2 :=
      Json.fits_array.mpr fun entry hentry => (h entry hentry).2
    have hfits : (summary.toJson now).Fits 3 := by
      refine Json.fits_object.mpr ?_
      simp only [List.map_cons, List.map_nil, List.forall_mem_cons]
      exact ⟨.of_depth_eq_zero trivial rfl, hservices.fits 2, htools.fits 2, hitems,
        List.forall_mem_nil _⟩
    exact hfits.mono (by decide)

/-- A working directory in which tools of services can be generated: the directory of tools is there
or can be made, and nothing stands in it where their tools or the summary are to be written. The
number of tools is one that can be written. -/
structure IsReady (files : Tree) (services : List Service) : Prop where
  root : files.get? [] = some .directory
  makes : (files.makeDirectories Workplace.tools).2 = none
  clear : ∀ service ∈ services, IsClear files service
  summary : files.get? Workplace.summary ≠ some .directory
  counts : IsCount (count (listed files services))

/-- Where nothing stands in the directory of tools, those of all services can be generated. -/
theorem isReady_of_none {files : Tree}
    (hcomponents : ∀ service ∈ services, Path.IsComponent service.key)
    (hroot : files.get? [] = some .directory)
    (hmakes : (files.makeDirectories Workplace.tools).2 = none)
    (hnone : ∀ place, Workplace.tools <+: place → place ≠ Workplace.tools →
      files.get? place = none)
    (hcount : IsCount (count (listed files services))) : IsReady files services := by
  refine ⟨hroot, hmakes, fun service hservice tools _ place hplace => ?_, ?_, hcount⟩
  · rw [Workplace.toolsOf_eq (hcomponents service hservice)] at hplace
    refine hnone place ((List.prefix_append _ _).trans hplace) ?_
    rintro rfl
    exact absurd hplace.length_le (by simp)
  · exact Tree.ne_directory_of_none
      (hnone Workplace.summary (List.prefix_append _ _) (by decide))

/-- Services without operations need no room where the directory of tools is there. -/
theorem isReady_of_silent {files : Tree} (hroot : files.get? [] = some .directory)
    (hthere : files.isDirectory Workplace.tools = true)
    (hplain : files.get? Workplace.summary ≠ some .directory)
    (hsilent : ∀ service ∈ services, outcome files service = .silent) :
    IsReady files services := by
  refine ⟨hroot, ?_, fun service hservice tools houtcome => ?_, hplain, ?_⟩
  · rw [Tree.makeDirectories_of_isDirectory Workplace.isDirect_tools hthere]
  · rw [hsilent service hservice] at houtcome
    cases houtcome
  · rw [listed_eq_nil hsilent]
    exact Nat.pow_pos (by decide)

/-- Making the directory of tools changes nothing else. -/
theorem IsReady.exists_makeDirectories {files : Tree} (h : IsReady files services) :
    ∃ made, files.makeDirectories Workplace.tools = (made, none) ∧
      made.isDirectory Workplace.tools = true ∧ Tree.Changes (· = Workplace.tools) files made := by
  have hmake : files.makeDirectories Workplace.tools =
      ((files.makeDirectories Workplace.tools).1, none) :=
    Prod.ext rfl h.makes
  obtain ⟨hadds, hthere⟩ := Tree.addsWay_of_makeDirectories Workplace.isDirect_tools hmake
  refine ⟨_, hmake, hthere rfl, hadds.changes_last fun place hplace hne => ?_⟩
  rcases List.prefix_cons_iff.mp hplace with rfl | ⟨rest, rfl, hrest⟩
  · exact h.root
  · rw [List.prefix_nil.mp hrest] at hne
    exact absurd rfl hne

/-- The same services are listed where they have the same outcomes. -/
theorem listed_congr {files files' : Tree}
    (h : ∀ service ∈ services, outcome files' service = outcome files service) :
    listed files' services = listed files services :=
  List.filterMap_congr fun service hservice => by rw [h service hservice]

/-- The directory of all tools is neither on the way to a schema nor among the tools of a service.
-/
theorem ne_tools {service : Service} (hkey : Path.IsComponent service.key) :
    (∀ place, place <+: Workplace.schema service → ¬place = Workplace.tools) ∧
      ∀ place, Workplace.toolsOf service <+: place → ¬place = Workplace.tools := by
  constructor
  · rintro _ hway rfl
    rw [Workplace.schema_eq hkey] at hway
    exact absurd (List.cons_prefix_cons.mp hway).1 (by decide)
  · rintro _ hplace rfl
    rw [Workplace.toolsOf_eq hkey] at hplace
    exact absurd hplace.length_le (by simp)

/-- What a run leaves that stops after the directory of tools has been made. -/
theorem StopsAt.of_changes_before {start made left : Tree} {before after : List Service}
    {service : Service} (h : StopsAt made left before service after)
    (hcomponents : ∀ other ∈ before ++ service :: after, Path.IsComponent other.key)
    (hmade : Tree.Changes (· = Workplace.tools) start made) :
    StopsAt start left before service after := by
  have hpasses : ∀ other ∈ before ++ service :: after,
      (Passes made other ↔ Passes start other) := fun other hother =>
    have hkey := hcomponents other hother
    Passes.congr hkey hmade (ne_tools hkey).1
  refine ⟨fun other hother => ?_, fun other hother => ?_, fun hstart => ?_,
    fun other hother place hplace => ?_, ?_⟩
  · exact (hpasses other (List.mem_append_left _ hother)).mp (h.passed other hother)
  · have hkey := hcomponents other (List.mem_append_left _ hother)
    obtain ⟨hschema, htools⟩ := ne_tools hkey
    exact (h.done other hother).of_changes_before hmade htools (outcome_congr hkey hmade hschema)
  · exact h.stuck ((hpasses service (by simp)).mpr hstart)
  · have hkey := hcomponents other (by simp [hother])
    rw [h.untouched other hother place hplace,
      hmade.frame place ((ne_tools hkey).2 place hplace)]
  · rw [h.noSummary, hmade.frame _ (by decide)]

/-- The summary can be written after the tools of all services have been generated. -/
theorem exists_writeSummary {now : Text} (hnow : now.encode.isSome = true)
    (hcomponents : ∀ service ∈ services, Path.IsComponent service.key)
    (hnamed : ∀ service ∈ services, IsNamed service)
    (hthere : w.files.isDirectory Workplace.tools = true)
    (hplain : w.files.get? Workplace.summary ≠ some .directory)
    (hcount : IsCount (count (listed w.files services)))
    (h : runFrom .empty services w = .ok summary w') :
    ∃ files, Action.writeDocument Workplace.summary (summary.toJson now) w' =
      .ok () { w' with files } := by
  obtain ⟨files, rfl, hsummary, hchanges⟩ := runFrom_spec hcomponents hthere h
  rw [foldl_addTo] at hsummary
  have hservices : IsCount summary.services.length := by
    rw [hsummary, Summary.empty, List.nil_append, List.length_map]
    exact (length_listed_le w.files services).trans_lt hcount
  have htools : IsCount summary.tools := by
    rw [hsummary, Summary.empty, Nat.zero_add]
    exact hcount
  have hentries : ∀ entry ∈ summary.services, entry.Encodable ∧ entry.Fits 1 := by
    rw [hsummary]
    refine List.forall_mem_append.mpr ⟨List.forall_mem_nil _, List.forall_mem_map.mpr ?_⟩
    intro made hmade
    exact (hnamed made.1 (mem_listed.mp hmade).1).summaryEntry
      ((length_le_count hmade).trans_lt hcount)
  obtain ⟨hencodable, hfits⟩ := isWritten_summary hnow hservices htools hentries
  have hway : files.HasWay Workplace.summary :=
    Tree.hasWay_concat Workplace.isDirect_tools
      (hchanges.keeps.isDirectory hthere) _
  have hfree : files.get? Workplace.summary ≠ some .directory := by
    rwa [hchanges.frame]
    rintro ⟨service, hservice, hbelow⟩
    exact Workplace.not_prefix_summary (hcomponents service hservice) hbelow
  exact (Action.writeDocument_returns_iff (w := { w with files := files }) isDirect_summary).mpr
    ⟨⟨.mono ⟨by decide, by decide⟩ files.ample, hway⟩, hfree, hencodable, hfits⟩

/-- A run makes the directory of tools and goes on as if that had been there. -/
theorem IsReady.exists_start (now : Text)
    (hcomponents : ∀ service ∈ services, Path.IsComponent service.key)
    (hready : IsReady w.files services) :
    ∃ made, Tree.Changes (· = Workplace.tools) w.files made ∧
      made.isDirectory Workplace.tools = true ∧ (∀ service ∈ services, IsClear made service) ∧
      made.get? Workplace.summary ≠ some .directory ∧ IsCount (count (listed made services)) ∧
      run now services w = (runFrom .empty services >>= fun summary => do
        Action.writeDocument Workplace.summary (summary.toJson now)
        pure summary) { w with files := made } := by
  obtain ⟨made, hmake, hthere, hmade⟩ := hready.exists_makeDirectories
  refine ⟨made, hmade, hthere, fun service hservice => ?_, ?_, ?_, ?_⟩
  · have hkey := hcomponents service hservice
    obtain ⟨hschema, htools⟩ := ne_tools hkey
    exact (hready.clear service hservice).congr hkey hmade hschema htools
  · rw [hmade.frame _ (by decide)]
    exact hready.summary
  · rw [listed_congr fun service hservice => outcome_congr (hcomponents service hservice) hmade
      (ne_tools (hcomponents service hservice)).1]
    exact hready.counts
  · exact Action.bind_of_ok (Action.makeDirectories_eq_ok (u := ()).mpr ⟨made, hmake, rfl⟩)

/-- A run over services with texts for names and versions returns exactly if it can go on after each
of them. -/
theorem run_returns_iff {now : Text} (hnow : now.encode.isSome = true)
    (hkeys : (services.map Service.key).Nodup)
    (hcomponents : ∀ service ∈ services, Path.IsComponent service.key)
    (hnamed : ∀ service ∈ services, IsNamed service) (hready : IsReady w.files services) :
    (∃ summary w', run now services w = .ok summary w') ↔
      ∀ service ∈ services, Passes w.files service := by
  obtain ⟨made, hmade, hthere, hclear, hplain, hcount, hstart⟩ :=
    hready.exists_start now hcomponents
  have hpasses : ∀ service ∈ services, (Passes made service ↔ Passes w.files service) :=
    fun service hservice =>
      Passes.congr (hcomponents service hservice) hmade
        (ne_tools (hcomponents service hservice)).1
  have hgoes := runFrom_returns_iff .empty (w := { w with files := made }) hkeys hcomponents hthere
    hclear
  rw [hstart]
  constructor
  · rintro ⟨summary, w', h⟩ service hservice
    obtain ⟨_, v, hrun, -⟩ := Action.bind_eq_ok.mp h
    exact (hpasses service hservice).mp (hgoes.mp ⟨_, v, hrun⟩ service hservice)
  · intro h
    obtain ⟨summary, v, hrun⟩ := hgoes.mpr fun service hservice =>
      (hpasses service hservice).mpr (h service hservice)
    obtain ⟨files, hwrite⟩ := exists_writeSummary (w := { w with files := made }) hnow hcomponents
      hnamed hthere hplain hcount hrun
    refine ⟨summary, { v with files }, ?_⟩
    rw [Action.bind_of_ok hrun, Action.bind_of_ok hwrite]
    rfl

/-- Where nothing stands in the directory of tools, a run over some of the services returns, if a run
can go on after each of them all. -/
theorem exists_run_of_none {now : Text} (hnow : now.encode.isSome = true) {chosen : List Service}
    (hkeys : (chosen.map Service.key).Nodup) (hsubset : chosen ⊆ services)
    (hcomponents : ∀ service ∈ services, Path.IsComponent service.key)
    (hnamed : ∀ service ∈ services, IsNamed service)
    (hroot : w.files.get? [] = some .directory)
    (hmakes : (w.files.makeDirectories Workplace.tools).2 = none)
    (hnone : ∀ place, Workplace.tools <+: place → place ≠ Workplace.tools →
      w.files.get? place = none)
    (hcount : IsCount (count (listed w.files services)))
    (hpasses : ∀ service ∈ services, Passes w.files service) :
    ∃ summary w', run now chosen w = .ok summary w' := by
  have hcomponents' : ∀ service ∈ chosen, Path.IsComponent service.key :=
    fun service hservice => hcomponents service (hsubset hservice)
  have hcount' : IsCount (count (listed w.files chosen)) :=
    (count_listed_le hkeys.of_map hsubset).trans_lt hcount
  exact (run_returns_iff hnow hkeys hcomponents'
    (fun service hservice => hnamed service (hsubset hservice))
    (isReady_of_none hcomponents' hroot hmakes hnone hcount')).mpr
      fun service hservice => hpasses service (hsubset hservice)

/-- A run over such services stops at the first after which it cannot go on. -/
theorem stopsAt_of_run {now : Text} (hnow : now.encode.isSome = true)
    (hkeys : (services.map Service.key).Nodup)
    (hcomponents : ∀ service ∈ services, Path.IsComponent service.key)
    (hnamed : ∀ service ∈ services, IsNamed service) (hready : IsReady w.files services)
    {fault : Fault} (h : run now services w = .error fault w') :
    ∃ before service after, services = before ++ service :: after ∧
      StopsAt w.files w'.files before service after := by
  obtain ⟨made, hmade, hthere, hclear, hplain, hcount, hstart⟩ :=
    hready.exists_start now hcomponents
  rw [hstart] at h
  rcases Action.bind_eq_error.mp h with hrun | ⟨summary, v, hrun, hlast⟩
  · obtain ⟨before, service, after, rfl, hstops⟩ :=
      stopsAt_of_runFrom hkeys hcomponents hthere hclear hrun
    exact ⟨before, service, after, rfl, hstops.of_changes_before hcomponents hmade⟩
  · obtain ⟨files, hwrite⟩ := exists_writeSummary (w := { w with files := made }) hnow hcomponents
      hnamed hthere hplain hcount hrun
    rw [Action.bind_of_ok hwrite] at hlast
    cases hlast

/-- A run over services with texts for names and versions returns exactly if it can go on after each
of them. Then it has done for each what its schema asks for, and has written the summary. Otherwise
it stops at the first service after which it cannot go on: it has not come to those behind it then,
and not to the summary. -/
theorem run_stops_iff {now : Text} (hnow : now.encode.isSome = true)
    (hkeys : (services.map Service.key).Nodup)
    (hcomponents : ∀ service ∈ services, Path.IsComponent service.key)
    (hnamed : ∀ service ∈ services, IsNamed service) (hready : IsReady w.files services) :
    ((∃ summary w', run now services w = .ok summary w') ↔
        ∀ service ∈ services, Passes w.files service) ∧
      (∀ summary w', run now services w = .ok summary w' →
        (∀ service ∈ services, IsDone w.files w'.files service) ∧
          w'.files.Holds Workplace.summary (summary.toJson now).fileText) ∧
      ∀ fault w', run now services w = .error fault w' →
        ∃ before service after, services = before ++ service :: after ∧
          StopsAt w.files w'.files before service after := by
  refine ⟨run_returns_iff hnow hkeys hcomponents hnamed hready, fun summary w' h => ?_,
    fun fault w' => stopsAt_of_run hnow hkeys hcomponents hnamed hready⟩
  obtain ⟨files, rfl, -, -, hdone, -, hsummary⟩ := run_spec hkeys hcomponents h
  exact ⟨hdone, hsummary⟩

/-- A working directory with two schemas. In the first a parameter has a lone surrogate for a name,
which cannot become a part of an address. -/
def surrogateFiles : Tree :=
  .ofEntries [([], .directory), (Workplace.schemas, .directory),
    (Workplace.schemas ++ [Text.ofString "bad_v1.json"],
      .ofString ("\x7b\"paths\": \x7b\"/a\": \x7b\"get\": \x7b\"parameters\": " ++
        "[\x7b\"name\": \"\\ud800\", \"in\": \"query\"\x7d]\x7d\x7d\x7d\x7d")),
    (Workplace.schemas ++ [Text.ofString "good_v1.json"],
      .ofString "\x7b\"paths\": \x7b\"/a\": \x7b\"get\": \x7b\x7d\x7d\x7d\x7d")]
    (by decide) (by decide)

/-- The services with these schemas. -/
def surrogateServices : List Service :=
  [.ofNameAndVersion (Text.ofString "bad") (Text.ofString "v1"),
    .ofNameAndVersion (Text.ofString "good") (Text.ofString "v1")]

/-- A run stops at a service in whose schema a parameter has a lone surrogate for a name. The
service behind it has no tools then, and there is no summary. -/
theorem stops_surrogateFiles :
    ∃ fault w' before service after,
      run (Text.ofString "now") surrogateServices (.ofFiles surrogateFiles) = .error fault w' ∧
      surrogateServices = before ++ service :: after ∧
      StopsAt surrogateFiles w'.files before service after ∧
      w'.files.get? (Workplace.tools ++ [Text.ofString "good_v1"]) = none ∧
      w'.files.get? Workplace.summary = none := by
  have hcomponents : ∀ service ∈ surrogateServices, Path.IsComponent service.key := by decide
  have hnamed : ∀ service ∈ surrogateServices, IsNamed service := by decide
  have hready : IsReady (World.ofFiles surrogateFiles).files surrogateServices :=
    isReady_of_none hcomponents rfl (by decide)
      (Workplace.get?_eq_none_of_entries (by decide)) (by unfold IsCount; decide +kernel)
  have hstuck : ∀ service ∈ surrogateServices.take 1, ¬Passes surrogateFiles service := by
    decide +kernel
  obtain ⟨hreturns, -, hstops⟩ := run_stops_iff (w := .ofFiles surrogateFiles)
    (show (Text.ofString "now").encode.isSome = true by decide) (by decide) hcomponents hnamed
    hready
  cases hrun : run (Text.ofString "now") surrogateServices (.ofFiles surrogateFiles) with
  | ok summary w' =>
    have hall := hreturns.mp ⟨summary, w', hrun⟩
    exact absurd (hall _ List.mem_cons_self) (hstuck _ List.mem_cons_self)
  | error fault w' =>
    obtain ⟨before, service, after, hservices, hleft⟩ := hstops fault w' hrun
    refine ⟨fault, w', before, service, after, rfl, hservices, hleft, ?_, hleft.noSummary⟩
    -- The run has stopped at the first service, so the second is behind it.
    cases before with
    | nil =>
      obtain ⟨-, rfl⟩ := List.cons.inj hservices
      exact hleft.untouched _ List.mem_cons_self _ List.prefix_rfl
    | cons first before =>
      obtain ⟨rfl, -⟩ := List.cons.inj hservices
      exact absurd (hleft.passed _ List.mem_cons_self) (hstuck _ List.mem_cons_self)

end Toolsmith.Generate
