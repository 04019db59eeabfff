import Toolsmith.Proofs.Catalog.Downloading
import Toolsmith.Proofs.Generate.Agreement

/-!
# A download returns

A run returns if the files of the services can be examined and written, the answers can be examined,
and every pause ends. It has then asked each address at most once, in order and not beyond the first
schema, and it records what it has found and nothing else.
-/

namespace Toolsmith.Download

variable {w w' : World} {service : Service} {services : List Service} {answers : Json → Reply}
  {delay : Int}

/-- A service whose file can be examined and written: the file system takes its name, and at its
place is nothing, or a file with a text that is not nested too deeply. -/
structure IsUsable (files : Tree) (service : Service) : Prop where
  sound : (Workplace.schema service).IsSound files.room
  file : files.get? (Workplace.schema service) = none ∨
    ∃ bytes t, files.get? (Workplace.schema service) = some (.file bytes) ∧
      Text.decode bytes = some t ∧ Json.parse t.unifyLineEnds ≠ .error .tooDeep

/-- Answers that can be examined and written: no text of a success is nested too deeply or holds
lone surrogates. -/
def AreUsable (answers : Json → Reply) : Prop :=
  ∀ url t, answers url = .answer 200 t →
    Json.parse t ≠ .error .tooDeep ∧ ∀ v, Json.parse t = .ok v → v.Encodable

/-- A delay after which a run goes on. -/
def IsFinite (delay : Int) : Prop :=
  ∀ negative, Binary64.ofFraction (delay < 0) delay.natAbs 1000 ≠ .infinite negative

/-- A file that can be written can be examined. -/
theorem IsUsable.isOpenFile {files : Tree} (hkey : Path.IsComponent service.key)
    (hthere : files.isDirectory Workplace.schemas = true) (h : IsUsable files service) :
    IsOpenFile files service := by
  have hdirect := Workplace.isDirect_schema hkey
  have hway := Workplace.hasWay_schema hkey hthere
  unfold IsOpenFile
  rw [Tree.exists?_of_hasWay hdirect ⟨h.sound, hway⟩]
  rcases h.file with hnone | ⟨bytes, t, hget, hdecode, hshallow⟩
  · exact .inl (by rw [hnone]; rfl)
  · obtain ⟨document, hschema⟩ := exists_schema?_eq_ok.mpr hshallow
    have hread := (Tree.read_eq_ok hdirect).mpr ⟨⟨h.sound, hway⟩, hget⟩
    exact .inr ⟨by rw [hget]; rfl, _, document,
      Tree.text?_eq_some.mpr ⟨bytes, t, hread, hdecode, rfl⟩, hschema⟩

/-- A file stays one that can be written if nothing changes there. -/
theorem IsUsable.of_get?_eq {files files' : Tree} (h : IsUsable files service)
    (hroom : files'.room = files.room)
    (heq : files'.get? (Workplace.schema service) = files.get? (Workplace.schema service)) :
    IsUsable files' service :=
  ⟨hroom ▸ h.sound, by rw [heq]; exact h.file⟩

/-- A schema that an address answers with can be written to a file that can be. -/
theorem exists_writeDocument (hkey : Path.IsComponent service.key)
    (hthere : w.files.isDirectory Workplace.schemas = true) (h : IsUsable w.files service)
    (hanswers : AreUsable answers) {urls : List Json} {url document : Json}
    (hfirst : first? answers urls = some (url, document)) :
    ∃ u w', Action.writeDocument (Workplace.schema service) document w = .ok u w' := by
  have hdirect := Workplace.isDirect_schema hkey
  have hfile : w.files.get? (Workplace.schema service) ≠ some .directory := by
    rcases h.file with hnone | ⟨bytes, t, hget, -⟩
    · exact Tree.ne_directory_of_none hnone
    · exact Tree.ne_directory_of_file hget
  obtain ⟨other, -, hat⟩ := List.exists_of_findSome?_eq_some hfirst
  obtain ⟨_, hdocument, heq⟩ := Option.map_eq_some_iff.mp hat
  cases heq
  obtain ⟨t, hanswer, hparse, -⟩ := schemaAt?_eq_some.mp hdocument
  have hencodable := (hanswers _ _ hanswer).2 _ hparse
  obtain ⟨files, hwrite⟩ := (Action.writeDocument_returns_iff hdirect).mpr
    ⟨⟨h.sound, Workplace.hasWay_schema hkey hthere⟩, hfile, hencodable, Json.fits_of_parse hparse⟩
  exact ⟨(), _, hwrite⟩

/-- The schema of a listed service is looked for at all its addresses. -/
theorem tried_eq (h : IsListed service) : tried service = (addresses service).map Json.text :=
  tried_of_urlsFor (urlsFor_eq h)

/-- Fetching the schema of a listed service returns if its file can be written. -/
theorem exists_fetch (hkey : Path.IsComponent service.key) (hlisted : IsListed service)
    (hthere : w.files.isDirectory Workplace.schemas = true) (h : IsUsable w.files service)
    (hanswers : AreUsable answers) :
    ∃ found w', fetch (answering answers) service w = .ok found w' := by
  have hopen : ∀ url ∈ asked answers ((addresses service).map Json.text),
      url.isKey = true ∧ IsOpenReply (answers url) := by
    intro url hurl
    obtain ⟨t, -, rfl⟩ := List.mem_map.mp (List.mem_of_mem_take hurl)
    exact ⟨rfl, isOpenReply_iff.mpr fun t ht => (hanswers _ t ht).1⟩
  cases hfirst : first? answers ((addresses service).map Json.text) with
  | none =>
    refine ⟨none, after w (asked answers ((addresses service).map Json.text)),
      fetch_eq_ok.mpr ⟨_, urlsFor_eq hlisted, hopen, ?_⟩⟩
    rw [hfirst]
    exact ⟨rfl, rfl⟩
  | some pair =>
    obtain ⟨url, document⟩ := pair
    obtain ⟨u, w', hwrite⟩ := exists_writeDocument
      (w := after w (asked answers ((addresses service).map Json.text))) hkey hthere h hanswers
      hfirst
    refine ⟨some { service with schemaUrl := url }, w',
      fetch_eq_ok.mpr ⟨_, urlsFor_eq hlisted, hopen, ?_⟩⟩
    rw [hfirst]
    exact ⟨rfl, u, hwrite⟩

/-- The pause after a service returns if it ends. -/
theorem exists_interval (h : 0 < delay → IsFinite delay) (others : List Service) (w : World) :
    ∃ u w', interval delay others w = .ok u w' := by
  unfold interval
  by_cases hpause : (!others.isEmpty && 0 < delay) = true
  · rw [if_pos hpause]
    have hpositive : 0 < delay := by simpa using (Bool.and_eq_true_iff.mp hpause).2
    exact ⟨(), _, pause_eq_ok.mpr ⟨h hpositive, rfl⟩⟩
  · rw [if_neg hpause]
    exact ⟨(), w, rfl⟩

/-- A run through services returns if their files can be written. -/
theorem exists_runFrom (hkeys : (services.map Service.key).Nodup)
    (hcomponents : ∀ service ∈ services, Path.IsComponent service.key)
    (hlisted : ∀ service ∈ services, IsListed service)
    (hthere : w.files.isDirectory Workplace.schemas = true)
    (husable : ∀ service ∈ services, IsUsable w.files service) (hanswers : AreUsable answers)
    (hdelay : 0 < delay → IsFinite delay) (report : Report) :
    ∃ report' w', runFrom (answering answers) delay report services w = .ok report' w' := by
  induction services generalizing w report with
  | nil => exact ⟨report, w, rfl⟩
  | cons service others ih =>
    obtain ⟨hkey, hrestComponents⟩ := List.forall_mem_cons.mp hcomponents
    obtain ⟨hnew, hrestKeys⟩ := List.nodup_cons.mp hkeys
    obtain ⟨hservice, hrestListed⟩ := List.forall_mem_cons.mp hlisted
    obtain ⟨hfile, hrestUsable⟩ := List.forall_mem_cons.mp husable
    have hpresent := (isPresent_eq_ok hkey).mpr ⟨hfile.isOpenFile hkey hthere, rfl, rfl⟩
    rw [runFrom_cons, Action.bind_of_ok hpresent]
    cases hexisting : existing? w.files service with
    | some document => exact ih hrestKeys hrestComponents hrestListed hthere hrestUsable _
    | none =>
      obtain ⟨found, v, hfetch⟩ := exists_fetch hkey hservice hthere hfile hanswers
      obtain ⟨u, v', hinterval⟩ := exists_interval hdelay others v
      obtain ⟨-, -, hchanges, -⟩ := of_fetch hkey hexisting hfetch report
      obtain ⟨hfiles, -⟩ := of_interval hinterval
      rw [← hfiles] at hchanges
      have hothers : ∀ other ∈ others, IsUsable v'.files other := by
        intro other hother
        refine (hrestUsable other hother).of_get?_eq hchanges.keeps.room (hchanges.frame _ ?_)
        exact Workplace.ne_schema_of_prefix hkey (hrestComponents other hother)
          (fun heq => hnew (heq ▸ List.mem_map_of_mem hother)) List.prefix_rfl
      simp only [Option.isSome_none, Bool.false_eq_true, if_false]
      rw [Action.bind_of_ok hfetch, Action.bind_of_ok hinterval]
      exact ih hrestKeys hrestComponents hrestListed (hchanges.keeps.isDirectory hthere) hothers _

/-- A run returns, if the directory of schemas can be made and the files of the services can be
written. -/
theorem exists_run (hkeys : (services.map Service.key).Nodup)
    (hcomponents : ∀ service ∈ services, Path.IsComponent service.key)
    (hlisted : ∀ service ∈ services, IsListed service)
    (hmake : (w.files.makeDirectories Workplace.schemas).2 = none)
    (husable : ∀ service ∈ services, IsUsable w.files service) (hanswers : AreUsable answers)
    (hdelay : 0 < delay → IsFinite delay) :
    ∃ report w', run (answering answers) delay services w = .ok report w' := by
  obtain ⟨made, hmade⟩ : ∃ made, w.files.makeDirectories Workplace.schemas = (made, none) :=
    ⟨_, Prod.ext rfl hmake⟩
  obtain ⟨hadds, hthere⟩ := Tree.addsWay_of_makeDirectories Workplace.isDirect_schemas hmade
  have hmadeUsable : ∀ service ∈ services, IsUsable made service := by
    intro service hservice
    refine (husable service hservice).of_get?_eq hadds.room ?_
    exact hadds.changes.frame _ (Workplace.not_schema_prefix (hcomponents service hservice))
  obtain ⟨report, w', hrunFrom⟩ := exists_runFrom (w := { w with files := made }) hkeys hcomponents
    hlisted (hthere rfl) hmadeUsable hanswers hdelay ⟨0, [], []⟩
  exact ⟨report, w', Action.bind_eq_ok.mpr
    ⟨(), _, Action.makeDirectories_eq_ok.mpr ⟨made, hmade, rfl⟩, hrunFrom⟩⟩

/-- What a run leaves and returns: the requests for the addresses of one service after another, the
schemas that have been fetched, the services with the addresses that worked, and their counts. -/
structure Completes (answers : Json → Reply) (services : List Service) (w : World)
    (report : Report) (w' : World) : Prop where
  tried : ∀ service ∈ services, tried service = (addresses service).map Json.text ∧
    (addresses service).Nodup
  sent : w'.sent = w.sent ++
    (services.flatMap (requested answers w.files)).map Catalog.pageRequest
  records : report.services =
    services.map fun service => (finding answers w.files service).record service
  fetched : ∀ service ∈ services, ∀ url document,
    finding answers w.files service = .fetched url document →
      w'.files.Holds (Workplace.schema service) document.fileText
  untouched : ∀ path : Path, path.IsDirect →
    (∀ service ∈ services, ∀ url document, path = Workplace.schema service →
      finding answers w.files service ≠ .fetched url document) →
    ∀ bytes, w'.files.read path = .ok bytes ↔ w.files.read path = .ok bytes
  downloaded : report.downloaded =
    (services.filter fun service => (finding answers w.files service).isCounted).length
  failed : report.failed =
    (services.filter fun service => !(finding answers w.files service).isCounted).map label
  total : report.downloaded + report.failed.length = services.length

/-- A run returns, if the directory of schemas can be made, the files of the services can be
examined and written, the answers can be examined, and pauses end. What it leaves follows from the
answers. -/
theorem run_completes (hkeys : (services.map Service.key).Nodup)
    (hcomponents : ∀ service ∈ services, Path.IsComponent service.key)
    (hlisted : ∀ service ∈ services, IsListed service)
    (hmake : (w.files.makeDirectories Workplace.schemas).2 = none)
    (husable : ∀ service ∈ services, IsUsable w.files service) (hanswers : AreUsable answers)
    (hdelay : 0 < delay → IsFinite delay) :
    ∃ report w', run (answering answers) delay services w = .ok report w' ∧
      Completes answers services w report w' := by
  obtain ⟨report, w', hrun⟩ :=
    exists_run hkeys hcomponents hlisted hmake husable hanswers hdelay
  obtain ⟨hreport, hsent, ⟨made, hadds, hchanges⟩, -, hleft⟩ := run_spec hkeys hcomponents hrun
  rw [foldl_addTo] at hreport
  refine ⟨report, w', hrun, ?_⟩
  refine ⟨fun service hservice => ⟨tried_eq (hlisted service hservice), nodup_addresses service⟩,
    hsent, by rw [hreport]; rfl, ?_, ?_, by rw [hreport]; exact Nat.zero_add _, by rw [hreport]; rfl,
    ?_⟩
  · intro service hservice url document hfound
    have hservice := hleft service hservice
    rw [hfound] at hservice
    exact hservice
  · intro path hdirect hnot bytes
    refine (hadds.keeps.trans hchanges.keeps).read_iff hdirect fun bytes => ?_
    by_cases hplace : ∃ service ∈ services, path = Workplace.schema service
    · obtain ⟨service, hservice, rfl⟩ := hplace
      have hsame := hleft service hservice
      have hfetched := hnot service hservice
      cases hfound : finding answers w.files service with
      | fetched url document => exact absurd hfound (hfetched url document rfl)
      | there =>
        rw [hfound] at hsame
        rw [show w'.files.get? _ = _ from hsame]
      | missing =>
        rw [hfound] at hsame
        rw [show w'.files.get? _ = _ from hsame]
    · rw [hchanges.frame path hplace]
      rcases hadds.adds path with heq | ⟨-, hnone, hnew⟩
      · rw [heq]
      · rw [hnone, hnew]
        simp
  · rw [hreport]
    simp only [List.length_append, List.length_map, List.length_nil, Nat.zero_add]
    exact List.length_eq_length_filter_add _ |>.symm

/-- A schema without operations. -/
def sampleSchema : Text :=
  Text.ofString " \x7b\"info\": null\x7d"

/-- Answers among which one, at the second address of a service, is a schema. -/
def sampleAnswers : Json → Reply
  | .text url =>
    if url = host ++ Text.ofString "/tax/v1/openapi.json" then .answer 200 sampleSchema
    else .answer 404 []
  | _ => .failure []

/-- The answers can be examined and written. -/
theorem areUsable_sampleAnswers : AreUsable sampleAnswers := by
  have hread : (Json.parse sampleSchema).toOption.any
      (fun v => v.fileText.encode.isSome) = true := by
    decide +kernel
  obtain ⟨document, hdocument, hencode⟩ := (Option.any_eq_true _ _).mp hread
  have hparse := Action.eq_ok_of_toOption hdocument
  intro url t hanswer
  have ht : t = sampleSchema := by
    unfold sampleAnswers at hanswer
    split at hanswer
    · split at hanswer
      · exact (Reply.answer.inj hanswer).2.symm
      · cases hanswer
    · cases hanswer
  rw [ht, hparse]
  refine ⟨fun hdeep => ?_, ?_⟩
  · cases hdeep
  · rintro v ⟨⟩
    exact Json.encode_fileText.mp hencode

/-- The files of the sample services can be examined and written. -/
theorem isUsable_sampleServices :
    ∀ service ∈ Generate.sampleServices, IsUsable Generate.sampleFiles service := by
  have hsound : ∀ service ∈ Generate.sampleServices,
      ((Workplace.schema service).textFault? Generate.sampleFiles.room).isNone = true ∧
        ∀ name ∈ Workplace.schema service, Path.isLongName name = false := by
    decide +kernel
  have hfiles : ∀ service ∈ Generate.sampleServices,
      Generate.sampleFiles.get? (Workplace.schema service) = none ∨
        ((Generate.sampleFiles.text? (Workplace.schema service)).any fun t =>
          (Json.parse t).toOption.isSome) = true := by
    decide +kernel
  intro service hservice
  obtain ⟨hfault, hnames⟩ := hsound service hservice
  refine ⟨⟨Option.isNone_iff_eq_none.mp hfault, hnames⟩, ?_⟩
  rcases hfiles service hservice with hnone | hshallow
  · exact .inl hnone
  · obtain ⟨t, htext, hparse⟩ := (Option.any_eq_true _ _).mp hshallow
    obtain ⟨bytes, raw, hread, hdecode, rfl⟩ := Tree.text?_eq_some.mp htext
    have hdirect := Workplace.isDirect_schema (Generate.isComponent_sampleServices service hservice)
    refine .inr ⟨bytes, raw, ((Tree.read_eq_ok hdirect).mp hread).2, hdecode, ?_⟩
    intro hdeep
    rw [hdeep] at hparse
    cases hparse

/-- The sample services are listed. -/
theorem isListed_sampleServices : ∀ service ∈ Generate.sampleServices, IsListed service := by
  simp only [Generate.sampleServices, List.forall_mem_cons, List.not_mem_nil, false_implies,
    implies_true, and_true]
  exact ⟨⟨⟨_, rfl⟩, ⟨_, rfl⟩, .inl rfl⟩, ⟨⟨_, rfl⟩, ⟨_, rfl⟩, .inl rfl⟩,
    ⟨⟨_, rfl⟩, ⟨_, rfl⟩, .inl rfl⟩⟩

/-- The directory of schemas is there. -/
theorem isDirectory_sampleFiles :
    Generate.sampleFiles.isDirectory Workplace.schemas = true := by
  decide +kernel

/-- A schema that is there, one that is fetched, and a file that is no schema and stays. -/
theorem completes_sampleServices :
    ∃ report w', run (answering sampleAnswers) 0 Generate.sampleServices
        (.ofFiles Generate.sampleFiles) = .ok report w' ∧
      Completes sampleAnswers Generate.sampleServices (.ofFiles Generate.sampleFiles) report w' ∧
      report.downloaded = 2 ∧ report.failed = [Text.ofString "pay v1"] := by
  have hmake := Tree.makeDirectories_of_isDirectory Workplace.isDirect_schemas
    isDirectory_sampleFiles
  obtain ⟨report, w', hrun, hcompletes⟩ := run_completes (w := .ofFiles Generate.sampleFiles)
    Generate.nodup_sampleServices Generate.isComponent_sampleServices isListed_sampleServices
    (congrArg Prod.snd hmake) isUsable_sampleServices
    areUsable_sampleAnswers (fun h => absurd h (by decide : ¬(0 : Int) < 0))
  have hcount : (Generate.sampleServices.filter fun service =>
      (finding sampleAnswers Generate.sampleFiles service).isCounted).length = 2 := by
    decide +kernel
  have hfailed : (Generate.sampleServices.filter fun service =>
      !(finding sampleAnswers Generate.sampleFiles service).isCounted).map label =
        [Text.ofString "pay v1"] := by
    decide +kernel
  exact ⟨report, w', hrun, hcompletes, hcompletes.downloaded.trans hcount,
    hcompletes.failed.trans hfailed⟩

/-- Arrays that are opened one after another, beyond the limit of the reader. -/
def deepText : Text :=
  List.replicate 3000 (.char '[')

/-- A service with a name that no file can have. -/
def longService : Service :=
  .ofNameAndVersion (List.replicate 300 (.char 'a')) (Text.ofString "v1")

/-- A service with the shortest of names. -/
def shortService : Service :=
  .ofNameAndVersion (Text.ofString "a") (Text.ofString "v1")

/-- A run for one listed service stops if an answer is nested too deeply, or if the name of a file
is too long, although no text holds a lone surrogate. -/
theorem exists_stopped :
    (∀ service ∈ [shortService, longService],
      IsListed service ∧ Path.IsComponent service.key) ∧
    (∀ v, Json.parse deepText ≠ .ok v) ∧
    (∃ fault w', run (answering fun _ => .answer 200 deepText) 0 [shortService]
      (.ofFiles .empty) = .error fault w') ∧
    ∃ fault w', run (answering fun _ => .failure []) 0 [longService] (.ofFiles .empty) =
      .error fault w' := by
  refine ⟨?_, ?_, ?_, ?_⟩
  · have hkeys : ∀ key ∈ [shortService.key, longService.key], key ≠ [] ∧
        CodePoint.char '/' ∉ key ∧ key ≠ Text.ofString "." ∧ key ≠ Path.up := by
      decide +kernel
    have hcomponent : ∀ key ∈ [shortService.key, longService.key], Path.IsComponent key := by
      intro key hkey
      obtain ⟨hnil, hslash, hhere, hup⟩ := hkeys key hkey
      exact ⟨hnil, hslash, hhere, hup⟩
    simp only [List.forall_mem_cons, List.not_mem_nil, false_implies, implies_true, and_true]
      at hcomponent ⊢
    exact ⟨⟨⟨⟨_, rfl⟩, ⟨_, rfl⟩, .inl rfl⟩, hcomponent.1⟩,
      ⟨⟨⟨_, rfl⟩, ⟨_, rfl⟩, .inl rfl⟩, hcomponent.2⟩⟩
  · have hnone : (Json.parse deepText).toOption.isNone = true := by decide +kernel
    intro v hv
    rw [hv] at hnone
    cases hnone
  · have hstops : Action.stops (run (answering fun _ => .answer 200 deepText) 0 [shortService])
        (.ofFiles .empty) (fun _ _ => true) = true := by
      decide +kernel
    obtain ⟨fault, w', hrun, -⟩ := Action.exists_of_stops hstops
    exact ⟨fault, w', hrun⟩
  · have hstops : Action.stops (run (answering fun _ => .failure []) 0 [longService])
        (.ofFiles .empty) (fun _ _ => true) = true := by
      decide +kernel
    obtain ⟨fault, w', hrun, -⟩ := Action.exists_of_stops hstops
    exact ⟨fault, w', hrun⟩

end Toolsmith.Download
