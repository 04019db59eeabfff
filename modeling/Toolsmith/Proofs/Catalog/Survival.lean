import Toolsmith.Proofs.Catalog.Reuse

/-!
# How far a download gets

A run looks for the schemas of services one after another and stops at the first service whose file
or whose answers it cannot examine, or whose schema it cannot write. The files of the services
before it are left as the answers say, and those after it as they were.
-/

namespace Toolsmith.Download

variable {w w' : World} {service : Service} {services : List Service} {answers : Json → Reply}
  {delay : Int}

/-- A service after which a run goes on: its file can be examined, and so can the answers that are
needed; and if a schema is fetched, a file can have the name of the service and hold the schema. -/
structure Passes (answers : Json → Reply) (files : Tree) (service : Service) : Prop where
  openFile : IsOpenFile files service
  openReplies : existing? files service = none →
    ∀ url ∈ asked answers (tried service), IsOpenReply (answers url)
  writable : ∀ url document, finding answers files service = .fetched url document →
    (Workplace.schema service).IsSound files.room ∧ document.Encodable

/-- Whether a run goes on after a service depends on nothing but its file. -/
theorem Passes.congr {files files' : Tree} {places : Path → Prop}
    (hkey : Path.IsComponent service.key) (h : Tree.Changes places files files')
    (hplaces : ∀ before, before <+: Workplace.schema service → ¬places before) :
    Passes answers files' service ↔ Passes answers files service := by
  have hdirect := Workplace.isDirect_schema hkey
  have hexists : files'.exists? (Workplace.schema service) =
      files.exists? (Workplace.schema service) := by
    unfold Tree.exists?
    rw [h.find?_eq hdirect hplaces]
  have hopen : IsOpenFile files' service ↔ IsOpenFile files service := by
    unfold IsOpenFile
    rw [hexists, h.text?_eq hdirect hplaces]
  have hexisting := existing?_congr hkey h hplaces
  have hfinding : finding answers files' service = finding answers files service :=
    finding_congr hexisting
  constructor
  · rintro ⟨hfile, hreplies, hwritable⟩
    rw [hexisting] at hreplies
    rw [hfinding, h.keeps.room] at hwritable
    exact ⟨hopen.mp hfile, hreplies, hwritable⟩
  · rintro ⟨hfile, hreplies, hwritable⟩
    rw [← hexisting] at hreplies
    rw [← hfinding, ← h.keeps.room] at hwritable
    exact ⟨hopen.mpr hfile, hreplies, hwritable⟩

/-- A schema is fetched if there is none yet and an address answers with it. -/
theorem finding_eq_fetched {files : Tree} {url document : Json} :
    finding answers files service = .fetched url document ↔
      existing? files service = none ∧ first? answers (tried service) = some (url, document) := by
  unfold finding
  cases existing? files service with
  | some _ => simp
  | none =>
    cases first? answers (tried service) with
    | none => simp
    | some pair => simp [Prod.ext_iff]

/-- No directory stands at the place of a file that can be examined. -/
theorem IsOpenFile.ne_directory {files : Tree} (hkey : Path.IsComponent service.key)
    (hthere : files.isDirectory Workplace.schemas = true)
    (hsound : (Workplace.schema service).IsSound files.room) (h : IsOpenFile files service) :
    files.get? (Workplace.schema service) ≠ some .directory := by
  have hdirect := Workplace.isDirect_schema hkey
  rcases h with hnone | ⟨-, t, -, htext, -⟩
  · rw [Tree.exists?_of_hasWay hdirect ⟨hsound, Workplace.hasWay_schema hkey hthere⟩] at hnone
    intro hget
    rw [hget] at hnone
    cases hnone
  · obtain ⟨bytes, -, hread, -⟩ := Tree.text?_eq_some.mp htext
    exact Tree.ne_directory_of_read hdirect hread

/-- Fetching the schema of a listed service returns exactly if a run goes on after it. -/
theorem fetch_returns_iff (hkey : Path.IsComponent service.key) (hlisted : IsListed service)
    (hthere : w.files.isDirectory Workplace.schemas = true) (hopen : IsOpenFile w.files service)
    (hnone : existing? w.files service = none) :
    (∃ found w', fetch (answering answers) service w = .ok found w') ↔
      Passes answers w.files service := by
  have hdirect := Workplace.isDirect_schema hkey
  have htried : urlsFor service = .ok (tried service) := by
    rw [tried_eq hlisted, urlsFor_eq hlisted]
  constructor
  · rintro ⟨found, w', h⟩
    obtain ⟨urls, hurls, hreplies, h⟩ := fetch_eq_ok.mp h
    rw [htried, Except.ok.injEq] at hurls
    subst hurls
    refine ⟨hopen, fun _ url hurl => (hreplies url hurl).2, fun url document hfetched => ?_⟩
    rw [(finding_eq_fetched.mp hfetched).2] at h
    obtain ⟨-, u, hwrite⟩ := h
    obtain ⟨-, htext⟩ := Action.writeDocument_eq_ok.mp hwrite
    obtain ⟨bytes, files, hencode, hfile, -⟩ := Action.writeText_eq_ok.mp htext
    exact ⟨((Tree.write_eq_ok hdirect).mp hfile).1.1,
      Json.encode_fileText.mp (by rw [hencode]; rfl)⟩
  · rintro ⟨-, hreplies, hwritable⟩
    have hasked : ∀ url ∈ asked answers (tried service),
        url.isKey = true ∧ IsOpenReply (answers url) := by
      intro url hurl
      refine ⟨?_, hreplies hnone url hurl⟩
      have hmem := List.mem_of_mem_take hurl
      rw [tried_eq hlisted] at hmem
      obtain ⟨t, -, rfl⟩ := List.mem_map.mp hmem
      rfl
    cases hfirst : first? answers (tried service) with
    | none =>
      refine ⟨none, after w (asked answers (tried service)),
        fetch_eq_ok.mpr ⟨_, htried, hasked, ?_⟩⟩
      rw [hfirst]
      exact ⟨rfl, rfl⟩
    | some pair =>
      obtain ⟨url, document⟩ := pair
      obtain ⟨hsound, hencodable⟩ :=
        hwritable url document (finding_eq_fetched.mpr ⟨hnone, hfirst⟩)
      obtain ⟨other, -, hat⟩ := List.exists_of_findSome?_eq_some hfirst
      obtain ⟨_, hdocument, heq⟩ := Option.map_eq_some_iff.mp hat
      cases heq
      obtain ⟨t, -, hparse, -⟩ := schemaAt?_eq_some.mp hdocument
      obtain ⟨files, hwrite⟩ := (Action.writeDocument_returns_iff
        (w := after w (asked answers (tried service))) hdirect).mpr
          ⟨⟨hsound, Workplace.hasWay_schema hkey hthere⟩, hopen.ne_directory hkey hthere hsound,
            hencodable, Json.fits_of_parse hparse⟩
      refine ⟨some { service with schemaUrl := url },
        { after w (asked answers (tried service)) with files },
        fetch_eq_ok.mpr ⟨_, htried, hasked, ?_⟩⟩
      rw [hfirst]
      exact ⟨rfl, (), hwrite⟩

/-- Where writing a document stops, its file is as it was, or it has been emptied because the
document has no encoding. -/
theorem get?_of_writeDocument_error {path : Path} (hpath : path.IsDirect) {document : Json}
    {fault : Fault} (h : Action.writeDocument path document w = .error fault w') :
    w'.files.get? path = w.files.get? path ∨
      w'.files.get? path = some (.file []) ∧ ¬document.Encodable := by
  cases hdump : document.dump with
  | error obstacle =>
    rw [Action.writeDocument_of_dump hdump] at h
    cases h
    exact .inl rfl
  | ok text =>
    obtain ⟨hfits, -⟩ := Json.dump_eq_ok.mp hdump
    rw [Action.writeDocument_of_fits hfits] at h
    rcases Action.writeText_eq_error.mp h with ⟨-, rfl⟩ | ⟨hencode, -, files, hfile, rfl⟩
    · exact .inl rfl
    · obtain ⟨-, hread⟩ := Tree.changes_of_write hpath hfile
      refine .inr ⟨((Tree.read_eq_ok hpath).mp hread).2, fun hencodable => ?_⟩
      have hsome := Json.encode_fileText.mpr hencodable
      rw [hencode] at hsome
      cases hsome

/-- Where fetching stops, the file of the service is as it was, or it has been emptied because the
schema that has been fetched has no encoding. -/
theorem get?_of_fetch_error (hkey : Path.IsComponent service.key) {fault : Fault}
    (h : fetch (answering answers) service w = .error fault w') :
    w'.files.get? (Workplace.schema service) = w.files.get? (Workplace.schema service) ∨
      w'.files.get? (Workplace.schema service) = some (.file []) ∧
        ∃ url document, first? answers (tried service) = some (url, document) ∧
          ¬document.Encodable := by
  rcases Action.bind_eq_error.mp h with hlist | ⟨urls, v, hlist, h⟩
  · obtain ⟨-, rfl⟩ := Action.ofExcept_eq_error.mp hlist
    exact .inl rfl
  obtain ⟨hurls, rfl⟩ := Action.ofExcept_eq_ok.mp hlist
  have htried := tried_of_urlsFor hurls
  rcases Action.bind_eq_error.mp h with hfirst | ⟨found, v', hfirst, h⟩
  · obtain ⟨requests, hleft, -⟩ := @left_fetchFirst answers urls w
    rw [hfirst] at hleft
    rw [show w' = after w requests from hleft]
    exact .inl rfl
  obtain ⟨-, rfl, rfl⟩ := fetchFirst_eq_ok.mp hfirst
  cases hfound : first? answers urls with
  | none =>
    rw [hfound] at h
    cases h
  | some pair =>
    obtain ⟨url, document⟩ := pair
    rw [hfound] at h
    rcases Action.bind_eq_error.mp h with hwrite | ⟨_, _, -, hpure⟩
    · rcases get?_of_writeDocument_error (Workplace.isDirect_schema hkey) hwrite with
        hsame | ⟨hempty, hnot⟩
      · exact .inl hsame
      · exact .inr ⟨hempty, url, document, htried ▸ hfound, hnot⟩
    · cases hpure

/-- A step of a run after which it goes on with the other services. At most the file of the service
has changed, as the answers say. -/
theorem runFrom_cons_of_passes (hkey : Path.IsComponent service.key) (hlisted : IsListed service)
    (hthere : w.files.isDirectory Workplace.schemas = true) (hdelay : 0 < delay → IsFinite delay)
    (h : Passes answers w.files service) (report : Report) (others : List Service) :
    ∃ report' v, runFrom (answering answers) delay report (service :: others) w =
        runFrom (answering answers) delay report' others v ∧
      Tree.Changes (· = Workplace.schema service) w.files v.files ∧
      (finding answers w.files service).IsLeft w.files v.files service := by
  have hpresent := (isPresent_eq_ok hkey).mpr ⟨h.openFile, rfl, rfl⟩
  rw [runFrom_cons, Action.bind_of_ok hpresent]
  cases hexisting : existing? w.files service with
  | some document =>
    have hfinding : finding answers w.files service = .there := by
      unfold finding
      rw [hexisting]
      rfl
    exact ⟨report.addFound service, w, rfl, .refl _ _, by rw [hfinding]; rfl⟩
  | none =>
    obtain ⟨found, v, hfetch⟩ :=
      (fetch_returns_iff hkey hlisted hthere h.openFile hexisting).mpr h
    obtain ⟨u, v', hinterval⟩ := exists_interval hdelay others v
    obtain ⟨-, -, hchanges, hleft⟩ := of_fetch hkey hexisting hfetch report
    obtain ⟨hfiles, -⟩ := of_interval hinterval
    simp only [Option.isSome_none, Bool.false_eq_true, if_false]
    rw [Action.bind_of_ok hfetch, Action.bind_of_ok hinterval]
    exact ⟨addResult report service found, v', rfl, hfiles ▸ hchanges, hfiles ▸ hleft⟩

/-- What is left of the file of a service at which a run stops: what was there, or nothing, if the
schema that has been fetched has no encoding. -/
def IsStuck (answers : Json → Reply) (start left : Tree) (service : Service) : Prop :=
  left.get? (Workplace.schema service) = start.get? (Workplace.schema service) ∨
    left.get? (Workplace.schema service) = some (.file []) ∧
      ∃ url document, finding answers start service = .fetched url document ∧ ¬document.Encodable

/-- A step of a run after which it cannot go on. At most the file of the service has changed. -/
theorem runFrom_cons_of_not_passes (hkey : Path.IsComponent service.key)
    (hlisted : IsListed service) (hthere : w.files.isDirectory Workplace.schemas = true)
    (h : ¬Passes answers w.files service) (report : Report) (others : List Service) :
    ∃ fault v, runFrom (answering answers) delay report (service :: others) w = .error fault v ∧
      Tree.Changes (· = Workplace.schema service) w.files v.files ∧
      IsStuck answers w.files v.files service := by
  rw [runFrom_cons]
  cases hpresent : isPresent service w with
  | error fault v =>
    obtain rfl := (quiet_isPresent service).of_error hpresent
    exact ⟨fault, v, Action.bind_eq_error.mpr (.inl hpresent), .refl _ _, .inl rfl⟩
  | ok there v =>
    obtain ⟨hopen, hexisting, rfl⟩ := (isPresent_eq_ok hkey).mp hpresent
    rw [Action.bind_of_ok hpresent]
    cases there with
    | true =>
      refine absurd ⟨hopen, fun hnone => ?_, fun url document hfetched => ?_⟩ h
      · rw [hnone] at hexisting
        cases hexisting
      · rw [(finding_eq_fetched.mp hfetched).1] at hexisting
        cases hexisting
    | false =>
      have hnone : existing? w.files service = none :=
        Option.isNone_iff_eq_none.mp (Option.isSome_eq_false_iff.mp hexisting)
      simp only [Bool.false_eq_true, if_false]
      cases hfetch : fetch (answering answers) service w with
      | ok found v =>
        exact absurd ((fetch_returns_iff hkey hlisted hthere hopen hnone).mp ⟨found, v, hfetch⟩) h
      | error fault v =>
        obtain ⟨-, -, -, hchanges⟩ := @left_fetch _ answers hkey w
        rw [hfetch] at hchanges
        refine ⟨fault, v, Action.bind_eq_error.mpr (.inl hfetch), hchanges, ?_⟩
        refine (get?_of_fetch_error hkey hfetch).imp_right ?_
        rintro ⟨hempty, url, document, hfirst, hnot⟩
        exact ⟨hempty, url, document, finding_eq_fetched.mpr ⟨hnone, hfirst⟩, hnot⟩

/-- What a run leaves that stops at a service. The files of the services before it are left as the
answers say, and nothing else has changed but the file of this service. -/
structure StopsAt (answers : Json → Reply) (start left : Tree) (before : List Service)
    (service : Service) : Prop where
  passed : ∀ other ∈ before, Passes answers start other
  done : ∀ other ∈ before, (finding answers start other).IsLeft start left other
  stuck : ¬Passes answers start service
  file : IsStuck answers start left service
  changes : Tree.Changes (fun place => ∃ other ∈ before ++ [service],
    place = Workplace.schema other) start left

/-- What is left after a step for one service, if the run stops at a later one. -/
theorem StopsAt.cons {start middle left : Tree} {before : List Service} {first : Service}
    (h : StopsAt answers middle left before service) (hkey : Path.IsComponent first.key)
    (hcomponents : ∀ other ∈ before ++ [service], Path.IsComponent other.key)
    (hapart : ∀ other ∈ before ++ [service], ∀ place, place <+: Workplace.schema other →
      ¬place = Workplace.schema first)
    (hpasses : Passes answers start first)
    (hchanges : Tree.Changes (· = Workplace.schema first) start middle)
    (hleft : (finding answers start first).IsLeft start middle first) :
    StopsAt answers start left (first :: before) service := by
  have hfinding : ∀ other ∈ before ++ [service],
      finding answers middle other = finding answers start other := fun other hother =>
    finding_congr (existing?_congr (hcomponents other hother) hchanges (hapart other hother))
  have hgoes : ∀ other ∈ before ++ [service],
      (Passes answers middle other ↔ Passes answers start other) := fun other hother =>
    Passes.congr (hcomponents other hother) hchanges (hapart other hother)
  have hlast : service ∈ before ++ [service] := by simp
  have hother : ∀ other ∈ before, other ∈ before ++ [service] := fun _ => List.mem_append_left _
  have hplace : ∀ other ∈ before ++ [service],
      ¬Workplace.schema other = Workplace.schema first := fun other hother =>
    hapart other hother _ List.prefix_rfl
  refine ⟨List.forall_mem_cons.mpr ⟨hpasses, fun other hmem => ?_⟩,
    List.forall_mem_cons.mpr ⟨?_, fun other hmem => ?_⟩, ?_, ?_, ?_⟩
  · exact (hgoes other (hother other hmem)).mp (h.passed other hmem)
  · refine hleft.of_changes_after hkey h.changes ?_
    rintro ⟨other, hmem, heq⟩
    exact hplace other hmem heq.symm
  · have hdone := h.done other hmem
    rw [hfinding other (hother other hmem)] at hdone
    exact hdone.of_changes_before hchanges (hplace other (hother other hmem))
  · exact fun hstart => h.stuck ((hgoes service hlast).mpr hstart)
  · have hfile := h.file
    unfold IsStuck at hfile ⊢
    rwa [hfinding service hlast, hchanges.frame _ (hplace service hlast)] at hfile
  · refine (hchanges.mono fun place hplace => ?_).trans (h.changes.mono fun place hplace => ?_)
    · exact ⟨first, List.mem_cons_self, hplace⟩
    · obtain ⟨other, hmem, hplace⟩ := hplace
      exact ⟨other, List.mem_cons_of_mem _ hmem, hplace⟩

/-- A run through listed services goes on after each of them and returns, or it stops at the first
after which it cannot go on. -/
theorem runFrom_returns_or_stops (answers : Json → Reply)
    (hkeys : (services.map Service.key).Nodup)
    (hcomponents : ∀ service ∈ services, Path.IsComponent service.key)
    (hlisted : ∀ service ∈ services, IsListed service)
    (hthere : w.files.isDirectory Workplace.schemas = true) (hdelay : 0 < delay → IsFinite delay)
    (report : Report) :
    ((∀ service ∈ services, Passes answers w.files service) ∧
        ∃ report' w', runFrom (answering answers) delay report services w = .ok report' w') ∨
      ∃ before service after fault w', services = before ++ service :: after ∧
        runFrom (answering answers) delay report services w = .error fault w' ∧
        StopsAt answers w.files w'.files before service := by
  induction services generalizing w report with
  | nil => exact .inl ⟨List.forall_mem_nil _, report, w, rfl⟩
  | cons service services ih =>
    obtain ⟨hkey, hrestComponents⟩ := List.forall_mem_cons.mp hcomponents
    obtain ⟨hnew, hrestKeys⟩ := List.nodup_cons.mp hkeys
    obtain ⟨hservice, hrestListed⟩ := List.forall_mem_cons.mp hlisted
    have hapart : ∀ other ∈ services, ∀ place, place <+: Workplace.schema other →
        ¬place = Workplace.schema service := fun other hother _ =>
      Workplace.ne_schema_of_prefix hkey (hrestComponents other hother) fun heq =>
        hnew (heq ▸ List.mem_map_of_mem hother)
    by_cases hpasses : Passes answers w.files service
    · obtain ⟨report', v, hstep, hchanges, hleft⟩ :=
        runFrom_cons_of_passes hkey hservice hthere hdelay hpasses report services
      rw [hstep]
      rcases ih hrestKeys hrestComponents hrestListed
        (hchanges.keeps.isDirectory hthere) report' with
        ⟨hall, hreturns⟩ | ⟨before, bad, after, fault, w', rfl, hstops, hstopsAt⟩
      · refine .inl ⟨List.forall_mem_cons.mpr ⟨hpasses, fun other hother => ?_⟩, hreturns⟩
        exact (Passes.congr (hrestComponents other hother) hchanges (hapart other hother)).mp
          (hall other hother)
      · have hsome : ∀ other ∈ before ++ [bad], other ∈ before ++ bad :: after := by
          simp only [List.mem_append, List.mem_cons, List.not_mem_nil, or_false]
          exact fun other hother => hother.imp_right .inl
        exact .inr ⟨service :: before, bad, after, fault, w', rfl, hstops,
          hstopsAt.cons hkey (fun other hother => hrestComponents other (hsome other hother))
            (fun other hother => hapart other (hsome other hother)) hpasses hchanges hleft⟩
    · obtain ⟨fault, v, hstep, hchanges, hstuck⟩ :=
        runFrom_cons_of_not_passes hkey hservice hthere hpasses report services
      refine .inr ⟨[], service, services, fault, v, rfl, hstep, List.forall_mem_nil _,
        List.forall_mem_nil _, hpasses, hstuck, hchanges.mono fun place hplace => ?_⟩
      exact ⟨service, List.mem_singleton_self _, hplace⟩

/-- A run through listed services returns exactly if it can go on after each of them, where the
directory of schemas can be made. Then every service is counted, as downloaded or as failed, and the
files are left as the answers say. Otherwise it stops at the first service after which it cannot go
on. -/
theorem run_goes_on_iff {made : Tree} (hkeys : (services.map Service.key).Nodup)
    (hcomponents : ∀ service ∈ services, Path.IsComponent service.key)
    (hlisted : ∀ service ∈ services, IsListed service)
    (hmake : w.files.makeDirectories Workplace.schemas = (made, none))
    (hdelay : 0 < delay → IsFinite delay) :
    ((∃ report w', run (answering answers) delay services w = .ok report w') ↔
        ∀ service ∈ services, Passes answers made service) ∧
      (∀ report w', run (answering answers) delay services w = .ok report w' →
        report.downloaded + report.failed.length = services.length ∧
          ∀ service ∈ services,
            (finding answers w.files service).IsLeft w.files w'.files service) ∧
      ∀ fault w', run (answering answers) delay services w = .error fault w' →
        ∃ before service after, services = before ++ service :: after ∧
          StopsAt answers made w'.files before service := by
  obtain ⟨hadds, hthere⟩ := Tree.addsWay_of_makeDirectories Workplace.isDirect_schemas hmake
  have hstart : run (answering answers) delay services w =
      runFrom (answering answers) delay ⟨0, [], []⟩ services { w with files := made } :=
    Action.bind_of_ok ((Action.makeDirectories_eq_ok (u := ())).mpr ⟨made, hmake, rfl⟩)
  have hends := runFrom_returns_or_stops answers (w := { w with files := made }) hkeys hcomponents
    hlisted (hthere rfl) hdelay ⟨0, [], []⟩
  rw [← hstart] at hends
  refine ⟨⟨?_, fun h => ?_⟩, fun report w' h => ⟨?_, ?_⟩, fun fault w' h => ?_⟩
  · rintro ⟨report, w', h⟩
    rcases hends with ⟨hall, -⟩ | ⟨before, service, after, fault, v, -, hstops, -⟩
    · exact hall
    · rw [h] at hstops
      cases hstops
  · rcases hends with ⟨-, hreturns⟩ | ⟨before, service, after, fault, v, rfl, -, hstopsAt⟩
    · exact hreturns
    · exact absurd (h service (by simp)) hstopsAt.stuck
  · obtain ⟨hreport, -⟩ := run_spec hkeys hcomponents h
    rw [hreport, foldl_addTo]
    simp only [List.length_append, List.length_map, List.length_nil, Nat.zero_add]
    exact (List.length_eq_length_filter_add _).symm
  · obtain ⟨-, -, -, -, hleft⟩ := run_spec hkeys hcomponents h
    exact hleft
  · rcases hends with ⟨-, report, v, hreturns⟩ | ⟨before, service, after, _, v, rfl, hstops, hat⟩
    · rw [h] at hreturns
      cases hreturns
    · rw [h] at hstops
      cases hstops
      exact ⟨before, service, after, rfl, hat⟩

/-- A working directory in which the file of a service holds an empty object, and that of another
holds bytes that are no text. -/
def damagedFiles : Tree :=
  .ofEntries [([], .directory), (Workplace.schemas, .directory),
    (Workplace.schemas ++ [Text.ofString "a_v1.json"], .ofString "\x7b\x7d"),
    (Workplace.schemas ++ [Text.ofString "b_v1.json"], .file [0xff])]
    (by decide) (by decide)

/-- A service whose file holds bytes that are no text. -/
def damagedService : Service :=
  .ofNameAndVersion (Text.ofString "b") (Text.ofString "v1")

/-- Every address answers with a schema that holds a lone surrogate. -/
def surrogateAnswers : Json → Reply :=
  fun _ => .answer 200 (Text.ofString "\x7b\"info\": \"\\ud800\"\x7d")

/-- A run stops at a service whose file holds no text, and at one that is answered with a lone
surrogate. The file of the latter is empty then, although something was in it. -/
theorem stops_damagedFiles :
    (∃ fault w' before service after,
      run (answering surrogateAnswers) 0 [shortService, damagedService] (.ofFiles damagedFiles) =
        .error fault w' ∧
      [shortService, damagedService] = before ++ service :: after ∧
      StopsAt surrogateAnswers damagedFiles w'.files before service ∧
      damagedFiles.get? (Workplace.schema shortService) ≠ some (.file []) ∧
      w'.files.get? (Workplace.schema shortService) = some (.file [])) ∧
    ∃ fault w', run (answering surrogateAnswers) 0 [damagedService] (.ofFiles damagedFiles) =
      .error fault w' := by
  have hcomponents : ∀ service ∈ [shortService, damagedService],
      Path.IsComponent service.key := by
    decide
  have hlisted : ∀ service ∈ [shortService, damagedService], IsListed service := by
    simp only [List.forall_mem_cons, List.not_mem_nil, false_implies, implies_true, and_true]
    exact ⟨⟨⟨_, rfl⟩, ⟨_, rfl⟩, .inl rfl⟩, ⟨⟨_, rfl⟩, ⟨_, rfl⟩, .inl rfl⟩⟩
  have hthere : damagedFiles.isDirectory Workplace.schemas = true := by decide
  have hempties : Action.stops (run (answering surrogateAnswers) 0 [shortService, damagedService])
      (.ofFiles damagedFiles)
      (fun _ w' => w'.files.get? (Workplace.schema shortService) = some (.file [])) = true := by
    decide +kernel
  have hstops : Action.stops (run (answering surrogateAnswers) 0 [damagedService])
      (.ofFiles damagedFiles) (fun _ _ => true) = true := by
    decide +kernel
  constructor
  · obtain ⟨fault, w', hrun, hempty⟩ := Action.exists_of_stops hempties
    obtain ⟨before, service, after, hservices, hleft⟩ :=
      (run_goes_on_iff (w := .ofFiles damagedFiles) (by decide) hcomponents hlisted
        (Tree.makeDirectories_of_isDirectory Workplace.isDirect_schemas hthere)
        (fun h => absurd h (Int.lt_irrefl 0))).2.2 fault w' hrun
    exact ⟨fault, w', before, service, after, hrun, hservices, hleft, by decide,
      of_decide_eq_true hempty⟩
  · obtain ⟨fault, w', hrun, -⟩ := Action.exists_of_stops hstops
    exact ⟨fault, w', hrun⟩

end Toolsmith.Download
