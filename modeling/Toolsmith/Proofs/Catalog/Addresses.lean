import Toolsmith.Catalog.Download
import Toolsmith.Proofs.Workplace

/-!
# Where schemas are looked for

The addresses of a service are tried in order up to the first one that answers with a schema. Which
addresses are asked, and what is found, depends on the answers alone.
-/

namespace Toolsmith.Download

variable {w w' : World} {service : Service}

/-- The network in which every address has one answer, whatever has been asked before. -/
def answering (answers : Json → Reply) : Network :=
  fun _ request => answers request.target

/-- A document that is a schema: an object with one of the keys of schemas. -/
def IsSchemaDocument (v : Json) : Prop :=
  ∃ members, v = .object members ∧ schemaKeys.any (Members.has members) = true

/-- A schema is found in a text that can be read as one. -/
theorem schema?_eq_ok_some {t : Text} {v : Json} :
    schema? t = .ok (some v) ↔ Json.parse t = .ok v ∧ IsSchemaDocument v := by
  unfold schema?
  constructor
  · intro h
    split at h
    · rename_i members hparse
      by_cases hkeys : schemaKeys.any (Members.has members) = true
      · rw [if_pos hkeys] at h
        cases h
        exact ⟨hparse, members, rfl, hkeys⟩
      · rw [if_neg hkeys] at h
        cases h
    · cases h
    · cases h
  · rintro ⟨hparse, members, rfl, hkeys⟩
    simp only [hparse, if_pos hkeys]

/-- A text can be examined unless it is nested too deeply. -/
theorem exists_schema?_eq_ok {t : Text} :
    (∃ v, schema? t = .ok v) ↔ Json.parse t ≠ .error .tooDeep := by
  unfold schema?
  split
  · rename_i hparse
    simp [hparse]
  · rename_i hparse
    simp [hparse]
  · rename_i hdeep
    simp only [Except.ok.injEq, exists_eq', true_iff]
    exact hdeep

/-- The schema that an address answers with. -/
def schemaAt? (answers : Json → Reply) (url : Json) : Option Json :=
  match schemaIn? (answers url) with
  | .ok document => document
  | .error _ => none

/-- An address answers with a schema if its answer is a success with the text of one. -/
theorem schemaAt?_eq_some {answers : Json → Reply} {url v : Json} :
    schemaAt? answers url = some v ↔
      ∃ t, answers url = .answer 200 t ∧ Json.parse t = .ok v ∧ IsSchemaDocument v := by
  unfold schemaAt? schemaIn?
  cases answers url with
  | failure message => simp
  | answer status t =>
    by_cases hstatus : status = 200
    · subst hstatus
      simp only [if_true, Reply.answer.injEq, true_and, exists_eq_left', ← schema?_eq_ok_some]
      cases schema? t with
      | ok document => simp
      | error fault => simp
    · simp [hstatus]

/-- The first of some addresses that answers with a schema, and the schema. -/
def first? (answers : Json → Reply) (urls : List Json) : Option (Json × Json) :=
  urls.findSome? fun url => (schemaAt? answers url).map fun document => (url, document)

/-- The addresses that are asked: all up to the first one that answers with a schema. -/
def asked (answers : Json → Reply) (urls : List Json) : List Json :=
  urls.take (urls.findIdx (fun url => (schemaAt? answers url).isSome) + 1)

/-- An address that answers with a schema is the last one that is asked. -/
theorem asked_cons_of_some {answers : Json → Reply} {url document : Json} (rest : List Json)
    (h : schemaAt? answers url = some document) : asked answers (url :: rest) = [url] := by
  simp [asked, List.findIdx_cons, h]

/-- After an address without a schema, the others are asked. -/
theorem asked_cons_of_none {answers : Json → Reply} {url : Json} (rest : List Json)
    (h : schemaAt? answers url = none) :
    asked answers (url :: rest) = url :: asked answers rest := by
  simp [asked, List.findIdx_cons, h]

/-- An answer that can be examined for a schema. -/
def IsOpenReply (reply : Reply) : Prop :=
  ∃ document, schemaIn? reply = .ok document

/-- An answer can be examined unless it is a success with a text that is nested too deeply. -/
theorem isOpenReply_iff {reply : Reply} :
    IsOpenReply reply ↔ ∀ t, reply = .answer 200 t → Json.parse t ≠ .error .tooDeep := by
  unfold IsOpenReply schemaIn?
  cases reply with
  | failure message => simp
  | answer status t =>
    by_cases hstatus : status = 200
    · subst hstatus
      simpa using exists_schema?_eq_ok
    · simp [hstatus]

/-- The world after requests for pages. -/
def after (w : World) (urls : List Json) : World :=
  { w with sent := w.sent ++ urls.map Catalog.pageRequest }

/-- A page is fetched from an address, whatever comes back for it. -/
theorem fetchPage_eq_ok {network : Network} {url : Json} {reply : Reply} :
    Catalog.fetchPage network url w = .ok reply w' ↔
      url.isKey = true ∧ network w.sent (Catalog.pageRequest url) = reply ∧ w' = after w [url] := by
  unfold Catalog.fetchPage
  rw [Action.bind_eq_ok]
  constructor
  · rintro ⟨reply', v, hsend, h⟩
    obtain ⟨rfl, rfl⟩ := Action.send_eq_ok.mp hsend
    split at h
    · rename_i hkey
      obtain ⟨rfl, rfl⟩ := Action.pure_eq_ok.mp h
      exact ⟨hkey, rfl, rfl⟩
    · cases h
  · rintro ⟨hkey, rfl, rfl⟩
    exact ⟨_, _, Action.send_eq_ok.mpr ⟨rfl, rfl⟩, by rw [if_pos hkey]; rfl⟩

/-- The first address is asked, and the others if it does not answer with a schema. -/
theorem fetchFirst_cons {answers : Json → Reply} {url : Json} {rest : List Json}
    {found : Option (Json × Json)} :
    fetchFirst (answering answers) (url :: rest) w = .ok found w' ↔
      url.isKey = true ∧ ∃ document, schemaIn? (answers url) = .ok document ∧
        (document.elim (fetchFirst (answering answers) rest) fun document =>
          pure (some (url, document))) (after w [url]) = .ok found w' := by
  rw [fetchFirst, Action.bind_eq_ok]
  constructor
  · rintro ⟨reply, v, hpage, h⟩
    obtain ⟨hkey, rfl, rfl⟩ := fetchPage_eq_ok.mp hpage
    obtain ⟨document, v, hexamine, h⟩ := Action.bind_eq_ok.mp h
    obtain ⟨hdocument, rfl⟩ := Action.ofExcept_eq_ok.mp hexamine
    exact ⟨hkey, document, hdocument, by cases document <;> exact h⟩
  · rintro ⟨hkey, document, hdocument, h⟩
    refine ⟨_, _, fetchPage_eq_ok.mpr ⟨hkey, rfl, rfl⟩, Action.bind_eq_ok.mpr ?_⟩
    refine ⟨document, _, Action.ofExcept_eq_ok.mpr ⟨hdocument, rfl⟩, ?_⟩
    cases document <;> exact h

/-- Addresses are asked up to the first one with a schema. This returns exactly if each of them is
an address and its answer can be examined. -/
theorem fetchFirst_eq_ok {answers : Json → Reply} {urls : List Json}
    {found : Option (Json × Json)} :
    fetchFirst (answering answers) urls w = .ok found w' ↔
      (∀ url ∈ asked answers urls, url.isKey = true ∧ IsOpenReply (answers url)) ∧
        first? answers urls = found ∧ after w (asked answers urls) = w' := by
  induction urls generalizing w with
  | nil =>
    have hasked : asked answers [] = [] := rfl
    have hafter : after w [] = w := by simp [after]
    rw [fetchFirst, Action.pure_eq_ok, hasked, hafter]
    simp [first?]
  | cons url rest ih =>
    rw [fetchFirst_cons]
    cases hat : schemaAt? answers url with
    | some document =>
      have hexamine : schemaIn? (answers url) = .ok (some document) := by
        unfold schemaAt? at hat
        split at hat
        · rename_i hexamine
          rw [hexamine, hat]
        · cases hat
      rw [asked_cons_of_some rest hat]
      simp only [hexamine, Except.ok.injEq, exists_eq_left', Option.elim_some, Action.pure_eq_ok,
        List.forall_mem_singleton, first?, List.findSome?_cons, hat, Option.map_some]
      constructor
      · rintro ⟨hkey, hfound, hafter⟩
        exact ⟨⟨hkey, _, hexamine⟩, hfound, hafter⟩
      · rintro ⟨⟨hkey, _⟩, hfound, hafter⟩
        exact ⟨hkey, hfound, hafter⟩
    | none =>
      have hmore : after (after w [url]) (asked answers rest) =
          after w (url :: asked answers rest) := by
        simp [after]
      have hfirst : first? answers (url :: rest) = first? answers rest := by
        simp [first?, hat]
      rw [asked_cons_of_none rest hat, List.forall_mem_cons, hfirst, ← hmore]
      constructor
      · rintro ⟨hkey, document, hexamine, h⟩
        have hnone : document = none := by
          unfold schemaAt? at hat
          rwa [hexamine] at hat
        subst hnone
        obtain ⟨hothers, hfound, hafter⟩ := ih.mp h
        exact ⟨⟨⟨hkey, _, hexamine⟩, hothers⟩, hfound, hafter⟩
      · rintro ⟨⟨⟨hkey, document, hexamine⟩, hothers⟩, hfound, hafter⟩
        have hnone : document = none := by
          unfold schemaAt? at hat
          rwa [hexamine] at hat
        subst hnone
        exact ⟨hkey, none, hexamine, ih.mpr ⟨hothers, hfound, hafter⟩⟩

/-- A service as the index lists it: name and version are texts, and so is the address that worked
last, if there is one. -/
structure IsListed (service : Service) : Prop where
  name : ∃ t, service.name = .text t
  version : ∃ t, service.version = .text t
  schemaUrl : service.schemaUrl = .null ∨ ∃ t, service.schemaUrl = .text t

/-- The address that worked last, if it is a text that is not empty. -/
def last (service : Service) : List Text :=
  match service.schemaUrl with
  | .text (c :: rest) => [c :: rest]
  | _ => []

/-- The addresses of a service: the one that worked last, then those where schemas usually are, each
at its first place only. -/
def addresses (service : Service) : List Text :=
  (last service ++ candidates service.name.display service.version.display).eraseDups

/-- Texts that are added to others are added where they are new. -/
theorem addNew_eq {urls : List Text} (h : urls.eraseDups = urls) (more : List Text) :
    addNew (urls.map Json.text) more = (urls ++ more).eraseDups.map Json.text := by
  induction more generalizing urls with
  | nil => rw [addNew, List.append_nil, h]
  | cons url more ih =>
    have hknown : (urls.map Json.text).any (Json.sameKey (.text url)) = urls.contains url := by
      rw [List.any_map, List.contains_eq_any_beq]
      rfl
    rw [addNew, hknown]
    by_cases hmem : url ∈ urls
    · rw [if_pos (List.contains_iff_mem.mpr hmem), ih h, List.eraseDups_append,
        List.eraseDups_append]
      congr 3
      simp [List.removeAll, hmem]
    · have hnew : (urls ++ [url]).eraseDups = urls ++ [url] := by
        rw [List.eraseDups_append, h]
        simp [List.removeAll, hmem, List.eraseDups_cons]
      have hmap : urls.map Json.text ++ [.text url] = (urls ++ [url]).map Json.text := by simp
      rw [if_neg (mt List.contains_iff_mem.mp hmem), hmap, ih hnew, List.append_assoc,
        List.singleton_append]

/-- The addresses of a service that is listed are tried. -/
theorem urlsFor_eq (h : IsListed service) :
    urlsFor service = .ok ((addresses service).map Json.text) := by
  obtain ⟨version, hversion⟩ := h.version
  have hlast : (if service.schemaUrl.isTrue then [service.schemaUrl] else []) =
      (last service).map Json.text := by
    unfold last
    rcases h.schemaUrl with hnone | ⟨t, ht⟩
    · rw [hnone]
      rfl
    · rw [ht]
      cases t <;> rfl
  have hnodup : (last service).eraseDups = last service := by
    unfold last
    split <;> rfl
  unfold urlsFor
  simp only [hversion, hlast, addNew_eq hnodup]
  rw [addresses, hversion]
  rfl

/-- A list in which every element stands at its first place only has no element twice. -/
theorem nodup_eraseDups {α : Type} [BEq α] [LawfulBEq α] (list : List α) :
    list.eraseDups.Nodup := by
  generalize hn : list.length = n
  induction n using Nat.strong_induction_on generalizing list with
  | _ n ih =>
    cases list with
    | nil => exact List.nodup_nil
    | cons a rest =>
      rw [List.eraseDups_cons, List.nodup_cons]
      have hshorter : (rest.filter fun b => !b == a).length < n := by
        rw [← hn]
        exact Nat.lt_succ_of_le (List.length_filter_le _ _)
      refine ⟨?_, ih _ hshorter _ rfl⟩
      intro hmem
      have hfilter := List.mem_filter.mp (List.mem_eraseDups.mp hmem)
      simp at hfilter

/-- No address of a service is tried twice. -/
theorem nodup_addresses (service : Service) : (addresses service).Nodup :=
  nodup_eraseDups _

/-- The schema in the file of a service. -/
def existing? (files : Tree) (service : Service) : Option Json :=
  match files.text? (Workplace.schema service) with
  | some t => (schema? t).toOption.join
  | none => none

/-- The file of a service has a schema if the document in it is one. -/
theorem existing?_eq_some {files : Tree} {v : Json} :
    existing? files service = some v ↔
      files.document? (Workplace.schema service) = some v ∧ IsSchemaDocument v := by
  unfold existing?
  rw [Tree.document?_eq_some]
  cases files.text? (Workplace.schema service) with
  | none => simp
  | some t =>
    simp only [Option.some.injEq, exists_eq_left', ← schema?_eq_ok_some]
    cases schema? t with
    | ok document => simp [Except.toOption]
    | error fault => simp [Except.toOption]

/-- The schema in a file depends on what a reader finds at its path. -/
theorem existing?_eq_of_read {files files' : Tree}
    (h : ∀ bytes, files'.read (Workplace.schema service) = .ok bytes ↔
      files.read (Workplace.schema service) = .ok bytes) :
    existing? files' service = existing? files service := by
  have hexisting : ∀ v, existing? files' service = some v ↔ existing? files service = some v := by
    intro v
    rw [existing?_eq_some, existing?_eq_some, Tree.document?_congr h]
  exact Option.ext hexisting

/-- A service's file that can be examined: there is none, or its text can be. -/
def IsOpenFile (files : Tree) (service : Service) : Prop :=
  files.exists? (Workplace.schema service) = .ok false ∨
    files.exists? (Workplace.schema service) = .ok true ∧
      ∃ t document, files.text? (Workplace.schema service) = some t ∧ schema? t = .ok document

/-- What a file has whose text can be examined. -/
theorem existing?_of_text {files : Tree} {t : Text} {document : Option Json}
    (htext : files.text? (Workplace.schema service) = some t) (hschema : schema? t = .ok document) :
    existing? files service = document := by
  unfold existing?
  rw [htext]
  simp only [hschema]
  rfl

/-- Where no file is, there is no schema. -/
theorem existing?_of_not_exists {files : Tree} (hkey : Path.IsComponent service.key)
    (h : files.exists? (Workplace.schema service) = .ok false) : existing? files service = none := by
  refine Option.eq_none_iff_forall_ne_some.mpr fun v hv => ?_
  have hthere := Tree.exists?_of_document? (Workplace.isDirect_schema hkey)
    (existing?_eq_some.mp hv).1
  rw [h] at hthere
  cases hthere

/-- Whether a service's schema is there is told by its file, if that can be examined. -/
theorem isPresent_eq_ok (hkey : Path.IsComponent service.key) {there : Bool} :
    isPresent service w = .ok there w' ↔
      IsOpenFile w.files service ∧ (existing? w.files service).isSome = there ∧ w = w' := by
  unfold isPresent IsOpenFile
  rw [Action.bind_eq_ok]
  constructor
  · rintro ⟨found, v, hfound, h⟩
    obtain ⟨hexists, rfl⟩ := Action.fileExists_eq_ok.mp hfound
    cases found with
    | true =>
      obtain ⟨t, v, hread, h⟩ := Action.bind_eq_ok.mp h
      obtain ⟨htext, rfl⟩ := Action.readText_eq_ok_text?.mp hread
      obtain ⟨hexamined, rfl⟩ := Action.ofExcept_eq_ok.mp h
      obtain ⟨document, hschema, rfl⟩ : ∃ document, schema? t = .ok document ∧
          document.isSome = there := by
        unfold isSchema at hexamined
        cases hschema : schema? t with
        | error fault => rw [hschema] at hexamined; cases hexamined
        | ok document => rw [hschema] at hexamined; exact ⟨document, rfl, Except.ok.inj hexamined⟩
      exact ⟨.inr ⟨hexists, t, document, htext, hschema⟩, by rw [existing?_of_text htext hschema],
        rfl⟩
    | false =>
      obtain ⟨rfl, rfl⟩ := Action.pure_eq_ok.mp h
      exact ⟨.inl hexists, by rw [existing?_of_not_exists hkey hexists]; rfl, rfl⟩
  · rintro ⟨hnone | ⟨hsome, t, document, htext, hschema⟩, rfl, rfl⟩
    · refine ⟨false, w, Action.fileExists_eq_ok.mpr ⟨hnone, rfl⟩, Action.pure_eq_ok.mpr ⟨?_, rfl⟩⟩
      rw [existing?_of_not_exists hkey hnone]
      rfl
    · refine ⟨true, w, Action.fileExists_eq_ok.mpr ⟨hsome, rfl⟩, Action.bind_eq_ok.mpr ?_⟩
      refine ⟨t, w, Action.readText_eq_ok_text?.mpr ⟨htext, rfl⟩, ?_⟩
      rw [existing?_of_text htext hschema]
      exact Action.ofExcept_eq_ok.mpr ⟨by rw [isSchema, hschema]; rfl, rfl⟩

end Toolsmith.Download
