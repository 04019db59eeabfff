import Toolsmith.Proofs.Catalog.Completion

/-!
# What has been downloaded is kept

A schema that a run has accepted is in the file of its service, as the document that was accepted.
A later run asks for nothing on behalf of that service, however that run ends, and leaves the file
as it is, and tools are generated from it.
-/

namespace Toolsmith.Download

variable {w w' : World} {service : Service} {services : List Service} {answers : Json → Reply}
  {delay : Int}

/-- The schema that is accepted for a service: that in its file, or the first that is fetched. -/
def accepted? (answers : Json → Reply) (files : Tree) (service : Service) : Option Json :=
  match existing? files service with
  | some document => some document
  | none => (first? answers (tried service)).map Prod.snd

/-- A service counts as downloaded exactly if a schema is accepted for it. -/
theorem isCounted_finding (files : Tree) :
    (finding answers files service).isCounted = (accepted? answers files service).isSome := by
  unfold finding accepted?
  cases existing? files service with
  | some document => rfl
  | none => cases first? answers (tried service) <;> rfl

/-- What has been fetched is read back from its file. -/
theorem existing?_of_first? {files : Tree} {urls : List Json} {url document : Json}
    (hfirst : first? answers urls = some (url, document))
    (h : files.Holds (Workplace.schema service) document.fileText) :
    existing? files service = some document := by
  obtain ⟨other, -, hat⟩ := List.exists_of_findSome?_eq_some hfirst
  obtain ⟨_, hdocument, heq⟩ := Option.map_eq_some_iff.mp hat
  cases heq
  obtain ⟨t, -, hparse, hschema⟩ := schemaAt?_eq_some.mp hdocument
  exact existing?_eq_some.mpr ⟨h.document? (Json.regular_of_parse hparse)
    (Json.stable_of_parse hparse) (Json.depth_le_of_parse hparse), hschema⟩

/-- After a run, the schema that was accepted for a service is in its file. -/
theorem existing?_of_run {report : Report} (hkeys : (services.map Service.key).Nodup)
    (hcomponents : ∀ service ∈ services, Path.IsComponent service.key)
    (h : run (answering answers) delay services w = .ok report w') {v : Json}
    (hservice : service ∈ services) (hv : accepted? answers w.files service = some v) :
    existing? w'.files service = some v := by
  obtain ⟨-, -, ⟨made, hadds, hchanges⟩, -, hleft⟩ := run_spec hkeys hcomponents h
  have hfile := hleft service hservice
  unfold accepted? at hv
  unfold finding at hfile
  cases hexisting : existing? w.files service with
  | some document =>
    rw [hexisting] at hv hfile
    have hsame : w'.files.get? (Workplace.schema service) =
        w.files.get? (Workplace.schema service) := hfile
    have hread : ∀ bytes, w'.files.read (Workplace.schema service) = .ok bytes ↔
        w.files.read (Workplace.schema service) = .ok bytes := fun bytes =>
      (hadds.keeps.trans hchanges.keeps).read_iff
        (Workplace.isDirect_schema (hcomponents service hservice)) fun bytes => by rw [hsame]
    rw [existing?_eq_of_read hread, hexisting]
    exact hv
  | none =>
    rw [hexisting] at hv hfile
    obtain ⟨pair, hfirst, rfl⟩ := Option.map_eq_some_iff.mp hv
    simp only [Option.isSome_none, Bool.false_eq_true, if_false, hfirst] at hfile
    exact existing?_of_first? hfirst hfile

/-- However fetching a page ends, it has been asked for. -/
theorem left_fetchPage (network : Network) (url : Json) (w : World) :
    Action.left (Catalog.fetchPage network url w) = after w [url] := by
  unfold Catalog.fetchPage
  refine Action.left_bind (p := (· = after w [url])) (fun reply v hsend => ?_)
    fun fault v hsend => nomatch hsend
  obtain ⟨-, rfl⟩ := Action.send_eq_ok.mp hsend
  split <;> rfl

/-- However asking addresses ends, the first of those that have to be asked have been asked. -/
theorem left_fetchFirst (urls : List Json) (w : World) :
    ∃ requests, Action.left (fetchFirst (answering answers) urls w) = after w requests ∧
      requests <+: asked answers urls := by
  induction urls generalizing w with
  | nil => exact ⟨[], by simp [after, fetchFirst, Action.left, pure, EStateM.pure], List.nil_prefix⟩
  | cons url rest ih =>
    have hfirst : [url] <+: asked answers (url :: rest) := by
      cases hat : schemaAt? answers url with
      | some document => rw [asked_cons_of_some rest hat]
      | none =>
        rw [asked_cons_of_none rest hat]
        exact ⟨_, rfl⟩
    have hone : ∃ requests, after w [url] = after w requests ∧
        requests <+: asked answers (url :: rest) := ⟨[url], rfl, hfirst⟩
    rw [fetchFirst]
    refine Action.left_bind (p := fun v => ∃ requests, v = after w requests ∧
      requests <+: asked answers (url :: rest)) (fun reply v hpage => ?_) fun fault v hpage => ?_
    · obtain ⟨-, rfl, rfl⟩ := fetchPage_eq_ok.mp hpage
      refine Action.left_bind (p := fun v => ∃ requests, v = after w requests ∧
        requests <+: asked answers (url :: rest)) (fun document v hexamine => ?_)
        fun fault v hexamine => ?_
      · obtain ⟨hdocument, rfl⟩ := Action.ofExcept_eq_ok.mp hexamine
        cases document with
        | some document => exact hone
        | none =>
          have hat : schemaAt? answers url = none := by
            unfold schemaAt?
            rw [show schemaIn? (answers url) = .ok none from hdocument]
          obtain ⟨requests, hleft, hinitial⟩ := ih (after w [url])
          refine ⟨url :: requests, ?_, ?_⟩
          · rw [show after w (url :: requests) = after (after w [url]) requests by simp [after]]
            exact hleft
          · rw [asked_cons_of_none rest hat]
            exact List.cons_prefix_cons.mpr ⟨rfl, hinitial⟩
      · obtain ⟨-, rfl⟩ := Action.ofExcept_eq_error.mp hexamine
        exact hone
    · have hv := left_fetchPage (answering answers) url w
      rw [hpage] at hv
      rw [show v = after w [url] from hv]
      exact hone

/-- However fetching ends, the first of the addresses that have to be asked have been asked, and at
most the file of the service changes. -/
theorem left_fetch (hkey : Path.IsComponent service.key) (w : World) :
    ∃ requests, (Action.left (fetch (answering answers) service w)).sent =
        w.sent ++ requests.map Catalog.pageRequest ∧
      requests <+: asked answers (tried service) ∧
      Tree.Changes (· = Workplace.schema service) w.files
        (Action.left (fetch (answering answers) service w)).files := by
  unfold fetch
  refine Action.left_bind (p := fun v => ∃ requests,
    v.sent = w.sent ++ requests.map Catalog.pageRequest ∧
      requests <+: asked answers (tried service) ∧
      Tree.Changes (· = Workplace.schema service) w.files v.files)
    (fun urls v hlist => ?_) fun fault v hlist => ?_
  · obtain ⟨hurls, rfl⟩ := Action.ofExcept_eq_ok.mp hlist
    rw [tried_of_urlsFor hurls]
    refine Action.left_bind (p := fun v => ∃ requests,
      v.sent = w.sent ++ requests.map Catalog.pageRequest ∧
        requests <+: asked answers urls ∧
        Tree.Changes (· = Workplace.schema service) w.files v.files)
      (fun found v hfirst => ?_) fun fault v hfirst => ?_
    · obtain ⟨-, rfl, rfl⟩ := fetchFirst_eq_ok.mp hfirst
      cases first? answers urls with
      | none => exact ⟨asked answers urls, rfl, List.prefix_rfl, .refl _ _⟩
      | some pair =>
        obtain ⟨url, document⟩ := pair
        obtain ⟨files, hleft, hchanges⟩ := Action.left_writeDocument
          (Workplace.isDirect_schema hkey) document (after w (asked answers urls))
        refine Action.left_bind (p := fun v => ∃ requests,
          v.sent = w.sent ++ requests.map Catalog.pageRequest ∧
            requests <+: asked answers urls ∧
            Tree.Changes (· = Workplace.schema service) w.files v.files)
          (fun u v hwrite => ?_) fun fault v hwrite => ?_
        · rw [hwrite] at hleft
          obtain rfl : v = _ := hleft
          exact ⟨asked answers urls, rfl, List.prefix_rfl, hchanges⟩
        · rw [hwrite] at hleft
          obtain rfl : v = _ := hleft
          exact ⟨asked answers urls, rfl, List.prefix_rfl, hchanges⟩
    · obtain ⟨requests, hleft, hinitial⟩ := @left_fetchFirst answers urls w
      rw [hfirst] at hleft
      obtain rfl : v = after w requests := hleft
      exact ⟨requests, rfl, hinitial, .refl _ _⟩
  · obtain ⟨-, rfl⟩ := Action.ofExcept_eq_error.mp hlist
    exact ⟨[], (List.append_nil _).symm, List.nil_prefix, .refl _ _⟩

/-- What is left when a run through services ends, in whatever way: the first of the requests for
one service after another have been sent, and only files without a schema have changed. -/
structure Remains (answers : Json → Reply) (services : List Service) (w v : World) : Prop where
  sent : ∃ requests, v.sent = w.sent ++ requests.map Catalog.pageRequest ∧
    requests <+: services.flatMap (requested answers w.files)
  files : Tree.Changes (fun place => ∃ service ∈ services, existing? w.files service = none ∧
    place = Workplace.schema service) w.files v.files

/-- Where nothing has been done, nothing is left. -/
theorem Remains.refl (answers : Json → Reply) (services : List Service) (w : World) :
    Remains answers services w w :=
  ⟨⟨[], (List.append_nil _).symm, List.nil_prefix⟩, .refl _ _⟩

/-- What is left after one service and then after the others is left after all of them. -/
theorem Remains.cons {others : List Service} {v v' : World}
    (hsent : v.sent = w.sent ++ (requested answers w.files service).map Catalog.pageRequest)
    (hchanges : Tree.Changes
      (fun place => existing? w.files service = none ∧ place = Workplace.schema service)
      w.files v.files)
    (hexisting : ∀ other ∈ others, existing? v.files other = existing? w.files other)
    (h : Remains answers others v v') : Remains answers (service :: others) w v' := by
  obtain ⟨requests, hmore, hinitial⟩ := h.sent
  refine ⟨⟨requested answers w.files service ++ requests, ?_, ?_⟩, ?_⟩
  · rw [hmore, hsent, List.map_append, List.append_assoc]
  · rw [List.flatMap_cons, List.prefix_append_right_inj]
    rwa [flatMap_requested_congr hexisting] at hinitial
  · refine (hchanges.mono fun place hplace => ?_).trans (h.files.mono fun place hplace => ?_)
    · exact ⟨service, List.mem_cons_self, hplace⟩
    · obtain ⟨other, hother, hnone, hplace⟩ := hplace
      rw [hexisting other hother] at hnone
      exact ⟨other, List.mem_cons_of_mem _ hother, hnone, hplace⟩

/-- What is left when a run stops at a service is left after all of them. -/
theorem Remains.of_first {others : List Service} {v : World} {requests : List Json}
    (hnone : existing? w.files service = none)
    (hsent : v.sent = w.sent ++ requests.map Catalog.pageRequest)
    (hinitial : requests <+: asked answers (tried service))
    (hchanges : Tree.Changes (· = Workplace.schema service) w.files v.files) :
    Remains answers (service :: others) w v := by
  refine ⟨⟨requests, hsent, ?_⟩, hchanges.mono fun place hplace =>
    ⟨service, List.mem_cons_self, hnone, hplace⟩⟩
  rw [List.flatMap_cons, requested_of_none hnone]
  exact hinitial.trans (List.prefix_append _ _)

/-- However a pause ends, files and requests are as they were. -/
theorem left_interval (others : List Service) (w : World) :
    (Action.left (interval delay others w)).files = w.files ∧
      (Action.left (interval delay others w)).sent = w.sent := by
  unfold interval Action.pause
  split
  · cases Binary64.ofFraction (delay < 0) delay.natAbs 1000 <;> exact ⟨rfl, rfl⟩
  · exact ⟨rfl, rfl⟩

/-- Looking for a schema changes nothing. -/
theorem quiet_isPresent (service : Service) : Action.Quiet (isPresent service) := by
  refine (Action.Quiet.fileExists _).bind fun there => ?_
  cases there with
  | true => exact (Action.Quiet.readText _).bind fun t => Action.Quiet.ofExcept _
  | false => exact Action.Quiet.pure false

/-- However a step ends that fetches a schema, what is left follows from the answers, if that is so
for what the other services leave. -/
theorem remains_fetch {others : List Service} {report : Report}
    (hkey : Path.IsComponent service.key)
    (hne : ∀ other ∈ others, service.key ≠ other.key)
    (hcomponents : ∀ other ∈ others, Path.IsComponent other.key)
    (hnone : existing? w.files service = none)
    (hothers : ∀ report v, Remains answers others v
      (Action.left (runFrom (answering answers) delay report others v))) :
    Remains answers (service :: others) w (Action.left ((fetch (answering answers) service >>=
      fun found => interval delay others >>= fun _ =>
        runFrom (answering answers) delay (addResult report service found) others) w)) := by
  obtain ⟨requests, hsent, hinitial, hchanges⟩ := @left_fetch _ answers hkey w
  refine Action.left_bind (p := Remains answers (service :: others) w)
    (fun found v hfetch => ?_) fun fault v hfetch => ?_
  · obtain ⟨-, hall, hfetched, -⟩ := of_fetch hkey hnone hfetch report
    have hinterval := @left_interval delay others v
    refine Action.left_bind (p := Remains answers (service :: others) w)
      (fun u v' hpause => ?_) fun fault v' hpause => ?_
    · rw [hpause] at hinterval
      obtain ⟨hfiles, hsame⟩ : v'.files = v.files ∧ v'.sent = v.sent := hinterval
      rw [← hfiles] at hfetched
      exact .cons (hsame.trans hall) (hfetched.mono fun place hplace => ⟨hnone, hplace⟩)
        (existing?_of_others hkey hne hcomponents hfetched) (hothers _ v')
    · rw [hpause] at hinterval
      obtain ⟨hfiles, hsame⟩ : v'.files = v.files ∧ v'.sent = v.sent := hinterval
      exact .of_first hnone (hsame.trans hall) (requested_of_none hnone ▸ List.prefix_rfl)
        (hfiles ▸ hfetched)
  · rw [hfetch] at hsent hchanges
    exact .of_first hnone hsent hinitial hchanges

/-- However a run through services ends, what is left follows from the answers. -/
theorem remains_runFrom (hkeys : (services.map Service.key).Nodup)
    (hcomponents : ∀ service ∈ services, Path.IsComponent service.key) (report : Report)
    (w : World) :
    Remains answers services w
      (Action.left (runFrom (answering answers) delay report services w)) := by
  induction services generalizing w report with
  | nil => exact .refl _ _ _
  | cons service others ih =>
    obtain ⟨hkey, hrestComponents⟩ := List.forall_mem_cons.mp hcomponents
    obtain ⟨hnew, hrestKeys⟩ := List.nodup_cons.mp hkeys
    rw [runFrom_cons]
    refine Action.left_bind (p := Remains answers (service :: others) w)
      (fun there v hpresent => ?_) fun fault v hpresent => ?_
    · obtain ⟨-, hthere, rfl⟩ := (isPresent_eq_ok hkey).mp hpresent
      cases there with
      | true =>
        have hrequested : requested answers w.files service = [] := if_pos hthere
        exact .cons (by rw [hrequested]; exact (List.append_nil _).symm) (.refl _ _)
          (fun _ _ => rfl) (ih hrestKeys hrestComponents _ w)
      | false =>
        have hnone : existing? w.files service = none :=
          Option.isNone_iff_eq_none.mp (Option.isSome_eq_false_iff.mp hthere)
        have hne : ∀ other ∈ others, service.key ≠ other.key := fun other hother heq =>
          hnew (heq ▸ List.mem_map_of_mem hother)
        simp only [Bool.false_eq_true, if_false]
        exact remains_fetch hkey hne hrestComponents hnone
          fun report v => ih hrestKeys hrestComponents report v
    · obtain rfl := (quiet_isPresent service).of_error hpresent
      exact .refl _ _ _

/-- However a run ends where the directory of schemas is there, what is left follows from the
answers. -/
theorem remains_run (hkeys : (services.map Service.key).Nodup)
    (hcomponents : ∀ service ∈ services, Path.IsComponent service.key)
    (hthere : w.files.isDirectory Workplace.schemas = true) :
    Remains answers services w (Action.left (run (answering answers) delay services w)) := by
  have hmake := Tree.makeDirectories_of_isDirectory Workplace.isDirect_schemas hthere
  have hrun : run (answering answers) delay services w =
      runFrom (answering answers) delay ⟨0, [], []⟩ services w :=
    Action.bind_of_ok (Action.makeDirectories_eq_ok (u := ()) |>.mpr ⟨w.files, hmake, rfl⟩)
  rw [hrun]
  exact remains_runFrom hkeys hcomponents _ w

/-- A schema that stays in its file is not asked for, and the file stays as it is. -/
theorem Remains.kept {v : World} (h : Remains answers services w v)
    (hcomponents : ∀ service ∈ services, Path.IsComponent service.key)
    (hkey : Path.IsComponent service.key) {document : Json}
    (hexisting : existing? w.files service = some document) :
    (∀ other ∈ services, other.key = service.key → requested answers w.files other = []) ∧
      ∃ bytes, w.files.read (Workplace.schema service) = .ok bytes ∧
        v.files.read (Workplace.schema service) = .ok bytes := by
  have hsame : ∀ other : Service, other.key = service.key →
      existing? w.files other = some document := by
    intro other heq
    unfold existing? Workplace.schema at hexisting ⊢
    rw [heq]
    exact hexisting
  constructor
  · intro other _ heq
    unfold requested
    rw [hsame other heq]
    rfl
  · obtain ⟨bytes, hread⟩ := Tree.exists_read_of_document? (existing?_eq_some.mp hexisting).1
    refine ⟨bytes, hread, h.files.read (Workplace.isDirect_schema hkey) ?_ hread⟩
    rintro ⟨other, hother, hnone, heq⟩
    have hkeys := Workplace.key_eq_of_schema_prefix hkey (hcomponents other hother)
      (heq ▸ List.prefix_rfl)
    rw [hsame other hkeys.symm] at hnone
    cases hnone

/-- What becomes of a schema that has been downloaded: it is read as the document that was accepted,
a second run asks for nothing on behalf of its service and leaves the file as it is, however that
run ends, and a generation that returns does not pass over the service. -/
structure IsKept (services : List Service) (service : Service) (document : Json) (w : World) :
    Prop where
  loaded : ∃ members, document = .object members ∧
    Generate.readSchema (Workplace.schema service) w = .ok members w
  sent : ∀ (answers : Json → Reply) (delay : Int) (others : List Service),
    others.map Service.key = services.map Service.key →
      (∃ requests, (Action.left (run (answering answers) delay others w)).sent =
          w.sent ++ requests.map Catalog.pageRequest ∧
        requests <+: others.flatMap (requested answers w.files)) ∧
      ∀ other ∈ others, other.key = service.key → requested answers w.files other = []
  file : ∃ bytes, w.files.read (Workplace.schema service) = .ok bytes ∧
    ∀ (answers : Json → Reply) (delay : Int) (others : List Service),
      others.map Service.key = services.map Service.key →
        (Action.left (run (answering answers) delay others w)).files.read
          (Workplace.schema service) = .ok bytes
  generated : ∀ (now : Text) (others : List Service) (summary : Generate.Summary) (w' : World),
    others.map Service.key = services.map Service.key →
      Generate.run now others w = .ok summary w' → service.key ∉ summary.skipped

/-- Services with the same keys have keys that are distinct components, if one list of them has. -/
theorem components_of_keys {others : List Service}
    (h : others.map Service.key = services.map Service.key)
    (hcomponents : ∀ service ∈ services, Path.IsComponent service.key) :
    ∀ other ∈ others, Path.IsComponent other.key := by
  intro other hother
  have hmem : other.key ∈ services.map Service.key := h ▸ List.mem_map_of_mem hother
  obtain ⟨service, hservice, heq⟩ := List.mem_map.mp hmem
  exact heq ▸ hcomponents service hservice

/-- A generation that returns does not pass over a service whose schema can be read. -/
theorem not_mem_skipped {now : Text} {others : List Service} {summary : Generate.Summary}
    (hkeys : (others.map Service.key).Nodup)
    (hcomponents : ∀ other ∈ others, Path.IsComponent other.key)
    {members : Members}
    (hdocument : w.files.document? (Workplace.schema service) = some (.object members))
    (h : Generate.run now others w = .ok summary w') : service.key ∉ summary.skipped := by
  obtain ⟨-, -, hsummary, -⟩ := Generate.run_spec hkeys hcomponents h
  rw [Generate.foldl_addTo] at hsummary
  rw [hsummary]
  intro hmem
  obtain ⟨other, hother, heq⟩ := List.mem_map.mp hmem
  have hnone := (List.mem_filter.mp hother).2
  have hschema : Workplace.schema other = Workplace.schema service := by
    unfold Workplace.schema
    rw [heq]
  unfold Generate.document? at hnone
  rw [hschema, hdocument] at hnone
  cases hnone

/-- After a run, every schema that has been accepted is kept, and these are the ones that the report
counts. -/
theorem run_keeps {report : Report} (hkeys : (services.map Service.key).Nodup)
    (hcomponents : ∀ service ∈ services, Path.IsComponent service.key)
    (h : run (answering answers) delay services w = .ok report w') :
    report.downloaded =
        (services.filter fun service => (accepted? answers w.files service).isSome).length ∧
      report.services.map Service.key = services.map Service.key ∧
      ∀ service ∈ services, ∀ document, accepted? answers w.files service = some document →
        IsKept services service document w' := by
  obtain ⟨hreport, -, -, hthere, -⟩ := run_spec hkeys hcomponents h
  rw [foldl_addTo] at hreport
  refine ⟨?_, ?_, fun service hservice document hdocument => ?_⟩
  · rw [hreport]
    simp only [Nat.zero_add, isCounted_finding]
  · rw [hreport]
    simp only [List.nil_append, List.map_map]
    refine List.map_congr_left fun service _ => ?_
    show ((finding answers w.files service).record service).key = service.key
    cases finding answers w.files service <;> rfl
  · have hkey := hcomponents service hservice
    have hexisting := existing?_of_run hkeys hcomponents h hservice hdocument
    obtain ⟨hfile, members, rfl, -⟩ := existing?_eq_some.mp hexisting
    have hremains : ∀ (answers : Json → Reply) (delay : Int) (others : List Service),
        others.map Service.key = services.map Service.key →
          Remains answers others w' (Action.left (run (answering answers) delay others w')) :=
      fun answers delay others heq =>
        remains_run (heq ▸ hkeys) (components_of_keys heq hcomponents) hthere
    refine ⟨⟨members, rfl, Generate.readSchema_eq_ok.mpr ⟨hfile, rfl⟩⟩, ?_, ?_, ?_⟩
    · intro answers delay others heq
      have hleft := hremains answers delay others heq
      exact ⟨hleft.sent, (hleft.kept (components_of_keys heq hcomponents) hkey hexisting).1⟩
    · obtain ⟨bytes, hread⟩ := Tree.exists_read_of_document? hfile
      refine ⟨bytes, hread, fun answers delay others heq => ?_⟩
      obtain ⟨-, other, hother, hleft⟩ := (hremains answers delay others heq).kept
        (components_of_keys heq hcomponents) hkey hexisting
      rw [hread] at hother
      rw [hleft, Except.ok.inj hother]
    · intro now others summary w'' heq hrun
      exact not_mem_skipped (heq ▸ hkeys) (components_of_keys heq hcomponents) hfile hrun

/-- The schema that was there and the one that is fetched are kept. -/
theorem keeps_sampleServices :
    ∃ report w', run (answering sampleAnswers) 0 Generate.sampleServices
        (.ofFiles Generate.sampleFiles) = .ok report w' ∧ report.downloaded = 2 ∧
      ∀ service ∈ Generate.sampleServices, ∀ document,
        accepted? sampleAnswers Generate.sampleFiles service = some document →
          IsKept Generate.sampleServices service document w' := by
  have hmake := Tree.makeDirectories_of_isDirectory Workplace.isDirect_schemas
    isDirectory_sampleFiles
  obtain ⟨report, w', hrun⟩ := exists_run (w := .ofFiles Generate.sampleFiles)
    Generate.nodup_sampleServices Generate.isComponent_sampleServices isListed_sampleServices
    (congrArg Prod.snd hmake) isUsable_sampleServices areUsable_sampleAnswers
    (fun h => absurd h (by decide : ¬(0 : Int) < 0))
  obtain ⟨hcount, -, hkept⟩ := run_keeps Generate.nodup_sampleServices
    Generate.isComponent_sampleServices hrun
  have htwo : (Generate.sampleServices.filter fun service =>
      (accepted? sampleAnswers Generate.sampleFiles service).isSome).length = 2 := by
    decide +kernel
  exact ⟨report, w', hrun, hcount.trans htwo, hkept⟩

end Toolsmith.Download
