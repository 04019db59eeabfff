import Toolsmith.Proofs.Catalog.Addresses

/-!
# What a download does

For every service a run finds its schema in its file, or at one of its addresses, or not at all. The
file of a service is written exactly if its schema has been fetched, and all counts, records and
requests follow from what has been found.
-/

namespace Toolsmith.Download

variable {w w' : World} {service : Service} {answers : Json → Reply} {delay : Int}

/-- What is found for a service: its schema is there already, or an address answers with one, or
there is none. -/
inductive Finding where
  | there
  | fetched (url document : Json)
  | missing

/-- The addresses that are tried for a service, if its version is a text. -/
def tried (service : Service) : List Json :=
  (urlsFor service).toOption.getD []

/-- The addresses of a service that has some are tried. -/
theorem tried_of_urlsFor {urls : List Json} (h : urlsFor service = .ok urls) :
    tried service = urls := by
  unfold tried
  rw [h]
  rfl

/-- What is found for a service with the files as they are. -/
def finding (answers : Json → Reply) (files : Tree) (service : Service) : Finding :=
  if (existing? files service).isSome then .there
  else
    match first? answers (tried service) with
    | some (url, document) => .fetched url document
    | none => .missing

/-- The addresses that are asked for a service: none if its schema is there already. -/
def requested (answers : Json → Reply) (files : Tree) (service : Service) : List Json :=
  if (existing? files service).isSome then [] else asked answers (tried service)

/-- Addresses are asked for a service whose schema is not there. -/
theorem requested_of_none {files : Tree} (hnone : existing? files service = none) :
    requested answers files service = asked answers (tried service) := by
  rw [requested, hnone]
  rfl

namespace Finding

/-- A service as it is recorded: with the address from which its schema has been fetched. -/
def record (service : Service) : Finding → Service
  | fetched url _ => { service with schemaUrl := url }
  | _ => service

/-- Whether a service counts as downloaded. -/
def isCounted : Finding → Bool
  | missing => false
  | _ => true

/-- The report with what is found for one more service. -/
def addTo (report : Report) (service : Service) (found : Finding) : Report :=
  if found.isCounted then report.addFound (found.record service) else report.addFailed service

/-- What is left in the file of a service: the schema that has been fetched, or what was there. -/
def IsLeft (before after : Tree) (service : Service) : Finding → Prop
  | fetched _ document => after.Holds (Workplace.schema service) document.fileText
  | _ => after.get? (Workplace.schema service) = before.get? (Workplace.schema service)

end Finding

/-- A pause changes neither files nor requests. It returns exactly if it ends some time. -/
theorem pause_eq_ok {milliseconds : Int} {u : Unit} :
    Action.pause milliseconds w = .ok u w' ↔
      (∀ negative, Binary64.ofFraction (milliseconds < 0) milliseconds.natAbs 1000 ≠
        .infinite negative) ∧
      { w with pauses := w.pauses ++
        [Binary64.ofFraction (milliseconds < 0) milliseconds.natAbs 1000] } = w' := by
  unfold Action.pause
  cases hseconds : Binary64.ofFraction (milliseconds < 0) milliseconds.natAbs 1000 with
  | infinite negative =>
    constructor
    · intro h
      cases h
    · rintro ⟨hfinite, -⟩
      exact absurd rfl (hfinite negative)
  | _ =>
    constructor
    · intro h
      cases h
      exact ⟨by simp, rfl⟩
    · rintro ⟨-, rfl⟩
      rfl

/-- A schema is fetched from the first address that answers with one, and written to the file of its
service. -/
theorem fetch_eq_ok {found : Option Service} :
    fetch (answering answers) service w = .ok found w' ↔
      ∃ urls, urlsFor service = .ok urls ∧
        (∀ url ∈ asked answers urls, url.isKey = true ∧ IsOpenReply (answers url)) ∧
        match first? answers urls with
        | some (url, document) =>
          found = some { service with schemaUrl := url } ∧ ∃ u,
            Action.writeDocument (Workplace.schema service) document
              (after w (asked answers urls)) = .ok u w'
        | none => found = none ∧ after w (asked answers urls) = w' := by
  unfold fetch
  rw [Action.bind_eq_ok]
  constructor
  · rintro ⟨urls, v, hlist, h⟩
    obtain ⟨hurls, rfl⟩ := Action.ofExcept_eq_ok.mp hlist
    obtain ⟨first, v, hfirst, h⟩ := Action.bind_eq_ok.mp h
    obtain ⟨hopen, rfl, rfl⟩ := fetchFirst_eq_ok.mp hfirst
    refine ⟨urls, hurls, hopen, ?_⟩
    cases hfound : first? answers urls with
    | none =>
      rw [hfound] at h
      obtain ⟨rfl, rfl⟩ := Action.pure_eq_ok.mp h
      exact ⟨rfl, rfl⟩
    | some pair =>
      obtain ⟨url, document⟩ := pair
      rw [hfound] at h
      obtain ⟨u, v, hwrite, h⟩ := Action.bind_eq_ok.mp h
      obtain ⟨rfl, rfl⟩ := Action.pure_eq_ok.mp h
      exact ⟨rfl, u, hwrite⟩
  · rintro ⟨urls, hurls, hopen, h⟩
    refine ⟨urls, w, Action.ofExcept_eq_ok.mpr ⟨hurls, rfl⟩, Action.bind_eq_ok.mpr ?_⟩
    refine ⟨_, _, fetchFirst_eq_ok.mpr ⟨hopen, rfl, rfl⟩, ?_⟩
    cases hfound : first? answers urls with
    | none =>
      rw [hfound] at h
      obtain ⟨rfl, rfl⟩ := h
      rfl
    | some pair =>
      obtain ⟨url, document⟩ := pair
      rw [hfound] at h
      obtain ⟨rfl, u, hwrite⟩ := h
      exact Action.bind_eq_ok.mpr ⟨u, w', hwrite, rfl⟩

/-- The pause after a service that has been fetched, unless it is the last. -/
def interval (delay : Int) (others : List Service) : Action Unit :=
  if !others.isEmpty && 0 < delay then Action.pause delay else pure ()

/-- The report with the result of fetching the schema of one more service. -/
def addResult (report : Report) (service : Service) : Option Service → Report
  | some found => report.addFound found
  | none => report.addFailed service

/-- One step of a run looks for the schema of its service, maybe fetches it, and goes on with the
other services. -/
theorem runFrom_cons {network : Network} {report : Report} {others : List Service} :
    runFrom network delay report (service :: others) =
      isPresent service >>= fun there =>
        if there then runFrom network delay (report.addFound service) others
        else
          fetch network service >>= fun found =>
            interval delay others >>= fun _ =>
              runFrom network delay (addResult report service found) others := by
  rw [runFrom]
  unfold interval
  refine bind_congr fun there => ?_
  cases there with
  | true => rfl
  | false =>
    simp only [Bool.false_eq_true, if_false]
    refine bind_congr fun found => ?_
    cases found <;> split <;> rfl

/-- The pause after a service changes neither files nor requests. -/
theorem of_interval {others : List Service} {u : Unit} (h : interval delay others w = .ok u w') :
    w'.files = w.files ∧ w'.sent = w.sent := by
  unfold interval at h
  split at h
  · obtain ⟨-, rfl⟩ := pause_eq_ok.mp h
    exact ⟨rfl, rfl⟩
  · obtain ⟨-, rfl⟩ := Action.pure_eq_ok.mp h
    exact ⟨rfl, rfl⟩

/-- A service whose schema is not there yet is recorded with the address from which it is fetched,
and its file holds what has been fetched. -/
theorem of_fetch (hkey : Path.IsComponent service.key) {found : Option Service}
    (hnone : existing? w.files service = none)
    (h : fetch (answering answers) service w = .ok found w') (report : Report) :
    addResult report service found = (finding answers w.files service).addTo report service ∧
      w'.sent = w.sent ++ (requested answers w.files service).map Catalog.pageRequest ∧
      Tree.Changes (· = Workplace.schema service) w.files w'.files ∧
      (finding answers w.files service).IsLeft w.files w'.files service := by
  obtain ⟨urls, hurls, -, h⟩ := fetch_eq_ok.mp h
  have htried := tried_of_urlsFor hurls
  unfold finding requested
  rw [hnone, htried]
  simp only [Option.isSome_none, Bool.false_eq_true, if_false]
  cases hfirst : first? answers urls with
  | none =>
    rw [hfirst] at h
    obtain ⟨rfl, rfl⟩ := h
    exact ⟨rfl, rfl, .refl _ _, rfl⟩
  | some pair =>
    obtain ⟨url, document⟩ := pair
    rw [hfirst] at h
    obtain ⟨rfl, u, hwrite⟩ := h
    obtain ⟨-, htext⟩ := Action.writeDocument_eq_ok.mp hwrite
    obtain ⟨files, rfl, hchanges, hholds⟩ :=
      Action.writeText_spec (Workplace.isDirect_schema hkey) htext
    exact ⟨rfl, rfl, hchanges, hholds⟩

/-- One step of a run that returns adds what is found for its service to the report, asks what has
to be asked, and changes at most the file of its service. -/
theorem exists_of_runFrom_cons (hkey : Path.IsComponent service.key) {report report' : Report}
    {others : List Service}
    (h : runFrom (answering answers) delay report (service :: others) w = .ok report' w') :
    ∃ v, runFrom (answering answers) delay
        ((finding answers w.files service).addTo report service) others v = .ok report' w' ∧
      v.sent = w.sent ++ (requested answers w.files service).map Catalog.pageRequest ∧
      Tree.Changes (· = Workplace.schema service) w.files v.files ∧
      (finding answers w.files service).IsLeft w.files v.files service := by
  rw [runFrom_cons] at h
  obtain ⟨there, v, hpresent, h⟩ := Action.bind_eq_ok.mp h
  obtain ⟨-, hthere, rfl⟩ := (isPresent_eq_ok hkey).mp hpresent
  cases there with
  | true =>
    have hfinding : finding answers w.files service = .there := if_pos hthere
    have hrequested : requested answers w.files service = [] := if_pos hthere
    rw [hfinding, hrequested]
    exact ⟨w, h, (List.append_nil _).symm, .refl _ _, rfl⟩
  | false =>
    obtain ⟨found, v, hfetch, h⟩ := Action.bind_eq_ok.mp h
    obtain ⟨u, v', hinterval, h⟩ := Action.bind_eq_ok.mp h
    obtain ⟨hfiles, hsent⟩ := of_interval hinterval
    obtain ⟨hreport, hasked, hchanges, hleft⟩ :=
      of_fetch hkey (Option.isSome_eq_false_iff.mp hthere |> Option.isNone_iff_eq_none.mp) hfetch
        report
    rw [hreport] at h
    exact ⟨v', h, hsent.trans hasked, hfiles ▸ hchanges, hfiles ▸ hleft⟩

/-- What is found for a service is the same where its file is read alike. -/
theorem existing?_congr {files files' : Tree} {places : Path → Prop}
    (hkey : Path.IsComponent service.key) (h : Tree.Changes places files files')
    (hplaces : ∀ before, before <+: Workplace.schema service → ¬places before) :
    existing? files' service = existing? files service := by
  unfold existing?
  rw [h.text?_eq (Workplace.isDirect_schema hkey) hplaces]

/-- What is found for other services is the same where the file of one has been written. -/
theorem existing?_of_others {files files' : Tree} {others : List Service}
    (hkey : Path.IsComponent service.key) (hne : ∀ other ∈ others, service.key ≠ other.key)
    (hcomponents : ∀ other ∈ others, Path.IsComponent other.key)
    (h : Tree.Changes (· = Workplace.schema service) files files') :
    ∀ other ∈ others, existing? files' other = existing? files other := fun other hother =>
  existing?_congr (hcomponents other hother) h fun _ hplace =>
    Workplace.ne_schema_of_prefix hkey (hcomponents other hother) (hne other hother) hplace

/-- What is found for a service is the same where the same schema is in its file. -/
theorem finding_congr {files files' : Tree}
    (h : existing? files' service = existing? files service) :
    finding answers files' service = finding answers files service := by
  unfold finding
  rw [h]

/-- The same addresses are asked where the same schemas are in the files. -/
theorem flatMap_requested_congr {files files' : Tree} {services : List Service}
    (h : ∀ service ∈ services, existing? files' service = existing? files service) :
    services.flatMap (requested answers files') = services.flatMap (requested answers files) :=
  List.flatMap_congr fun service hservice => by
    unfold requested
    rw [h service hservice]

/-- What is left in the file of a service stays if nothing more changes there. -/
theorem Finding.IsLeft.of_changes_after {before files after : Tree} {places : Path → Prop}
    {found : Finding} (hkey : Path.IsComponent service.key)
    (h : found.IsLeft before files service) (hchanges : Tree.Changes places files after)
    (hplace : ¬places (Workplace.schema service)) : found.IsLeft before after service := by
  cases found with
  | fetched url document =>
    obtain ⟨bytes, hencode, hread⟩ := h
    exact ⟨bytes, hencode, hchanges.read (Workplace.isDirect_schema hkey) hplace hread⟩
  | there => exact (hchanges.frame _ hplace).trans h
  | missing => exact (hchanges.frame _ hplace).trans h

/-- What is left in the file of a service is left since before changes elsewhere. -/
theorem Finding.IsLeft.of_changes_before {before files after : Tree} {places : Path → Prop}
    {found : Finding} (h : found.IsLeft files after service)
    (hchanges : Tree.Changes places before files)
    (hplace : ¬places (Workplace.schema service)) : found.IsLeft before after service := by
  cases found with
  | fetched url document => exact h
  | there => exact h.trans (hchanges.frame _ hplace)
  | missing => exact h.trans (hchanges.frame _ hplace)

/-- What a run through services leaves, seen from the world in which it begins. -/
structure Downloads (answers : Json → Reply) (services : List Service) (w w' : World) : Prop where
  sent : w'.sent = w.sent ++
    (services.flatMap (requested answers w.files)).map Catalog.pageRequest
  files : Tree.Changes (fun place => ∃ service ∈ services, place = Workplace.schema service)
    w.files w'.files
  left : ∀ service ∈ services,
    (finding answers w.files service).IsLeft w.files w'.files service

/-- A run adds what is found for its services to the report one after another. -/
theorem runFrom_spec {services : List Service} (hkeys : (services.map Service.key).Nodup)
    (hcomponents : ∀ service ∈ services, Path.IsComponent service.key) {report report' : Report}
    (h : runFrom (answering answers) delay report services w = .ok report' w') :
    report' = services.foldl
        (fun report service => (finding answers w.files service).addTo report service) report ∧
      Downloads answers services w w' := by
  induction services generalizing w report with
  | nil =>
    obtain ⟨rfl, rfl⟩ := Action.pure_eq_ok.mp h
    exact ⟨rfl, (List.append_nil _).symm, .refl _ _, List.forall_mem_nil _⟩
  | cons service others ih =>
    obtain ⟨hkey, hrestComponents⟩ := List.forall_mem_cons.mp hcomponents
    obtain ⟨hnew, hrestKeys⟩ := List.nodup_cons.mp hkeys
    have hne : ∀ other ∈ others, service.key ≠ other.key := fun other hother heq =>
      hnew (heq ▸ List.mem_map_of_mem hother)
    obtain ⟨v, hrest, hsent, hchanges, hleft⟩ := exists_of_runFrom_cons hkey h
    obtain ⟨hreport, hmore⟩ := ih hrestKeys hrestComponents hrest
    have hexisting := existing?_of_others hkey hne hrestComponents hchanges
    have hapart : ∀ other ∈ others, Workplace.schema other ≠ Workplace.schema service :=
      fun other hother => Workplace.ne_schema_of_prefix hkey (hrestComponents other hother)
        (hne other hother) List.prefix_rfl
    have hfinding : ∀ other ∈ others, finding answers v.files other = finding answers w.files other :=
      fun other hother => finding_congr (hexisting other hother)
    refine ⟨?_, ?_, ?_, List.forall_mem_cons.mpr ⟨?_, fun other hother => ?_⟩⟩
    · rw [hreport, List.foldl_cons]
      exact List.foldl_ext _ _ _ fun report other hother => by rw [hfinding other hother]
    · rw [hmore.sent, hsent, flatMap_requested_congr hexisting]
      simp
    · refine (hchanges.mono fun place hplace => ?_).trans (hmore.files.mono fun place hplace => ?_)
      · exact ⟨service, List.mem_cons_self, hplace⟩
      · obtain ⟨other, hother, hplace⟩ := hplace
        exact ⟨other, List.mem_cons_of_mem _ hother, hplace⟩
    · refine hleft.of_changes_after hkey hmore.files ?_
      rintro ⟨other, hother, heq⟩
      exact hapart other hother heq.symm
    · have hother' := hmore.left other hother
      rw [hfinding other hother] at hother'
      exact hother'.of_changes_before hchanges (hapart other hother)

/-- Making the directory of schemas does not change what is found for any service. -/
theorem existing?_of_addsWay {files files' : Tree} (hkey : Path.IsComponent service.key)
    (h : Tree.AddsWay Workplace.schemas files files') :
    existing? files' service = existing? files service :=
  existing?_eq_of_read fun _ => h.read_iff (Workplace.isDirect_schema hkey)

/-- A run that returns adds what is found for its services to the report one after another. It
changes the way to the directory of schemas and the files in which services have theirs. -/
theorem run_spec {services : List Service} {report : Report}
    (hkeys : (services.map Service.key).Nodup)
    (hcomponents : ∀ service ∈ services, Path.IsComponent service.key)
    (h : run (answering answers) delay services w = .ok report w') :
    report = services.foldl
        (fun report service => (finding answers w.files service).addTo report service)
        ⟨0, [], []⟩ ∧
      w'.sent = w.sent ++
        (services.flatMap (requested answers w.files)).map Catalog.pageRequest ∧
      (∃ made, Tree.AddsWay Workplace.schemas w.files made ∧
        Tree.Changes (fun place => ∃ service ∈ services, place = Workplace.schema service)
          made w'.files) ∧
      w'.files.isDirectory Workplace.schemas = true ∧
      ∀ service ∈ services,
        (finding answers w.files service).IsLeft w.files w'.files service := by
  obtain ⟨_, v, hmake, h⟩ := Action.bind_eq_ok.mp h
  obtain ⟨made, hmade, rfl⟩ := Action.makeDirectories_eq_ok.mp hmake
  obtain ⟨hadds, hthere⟩ := Tree.addsWay_of_makeDirectories Workplace.isDirect_schemas hmade
  obtain ⟨hreport, hdownloads⟩ := runFrom_spec hkeys hcomponents h
  have hexisting : ∀ service ∈ services, existing? made service = existing? w.files service :=
    fun service hservice => existing?_of_addsWay (hcomponents service hservice) hadds
  have hfinding : ∀ service ∈ services, finding answers made service =
      finding answers w.files service := fun service hservice =>
    finding_congr (hexisting service hservice)
  refine ⟨?_, ?_, ⟨made, hadds, hdownloads.files⟩, ?_, fun service hservice => ?_⟩
  · rw [hreport]
    exact List.foldl_ext _ _ _ fun report service hservice => by rw [hfinding service hservice]
  · rw [← flatMap_requested_congr hexisting]
    exact hdownloads.sent
  · exact hdownloads.files.keeps.isDirectory (hthere rfl)
  · have hleft := hdownloads.left service hservice
    rw [hfinding service hservice] at hleft
    exact hleft.of_changes_before hadds.changes
      (Workplace.not_schema_prefix (hcomponents service hservice))

/-- The text by which a report names a service without a schema. -/
def label (service : Service) : Text :=
  service.name.display ++ .char ' ' :: service.version.display

/-- The report of a run in which what is found for services is added one after another. -/
theorem foldl_addTo (found : Service → Finding) (services : List Service) (report : Report) :
    services.foldl (fun report service => (found service).addTo report service) report =
      { downloaded := report.downloaded +
          (services.filter fun service => (found service).isCounted).length
        failed := report.failed ++
          (services.filter fun service => !(found service).isCounted).map label
        services :=
          report.services ++ services.map fun service => (found service).record service } := by
  induction services generalizing report with
  | nil => simp
  | cons service services ih =>
    rw [List.foldl_cons, ih]
    cases hfound : found service <;>
      simp [Finding.addTo, Finding.isCounted, Finding.record, hfound, Report.addFound,
        Report.addFailed, label] <;> omega

end Toolsmith.Download
