import Toolsmith.Proofs.Publish.Recording
import Toolsmith.Proofs.Publish.Synced

/-!
# Publishing brings a store in line

Where the registry is a store of tools and the manifests can be read, a run of publishing returns.
Its phases are followed one by one: the tools are listed, the outdated ones deleted, the rest listed
again, and every item is published to the tool of its name.
-/

namespace Toolsmith

namespace Registry

variable {client : Client} {store : List Request → List Members} {limit : Nat} {w : World}
variable {way : Text}

/-- On a way that is open a question without a body can be put. -/
theorem IsOpen.puts (h : IsOpen client way) (method : Text) :
    ∃ url, Puts client method way none url (client.request url method none) ∧
      url.hasKind = true := by
  obtain ⟨url, htarget, hsendable, hkind⟩ := h
  exact ⟨url, ⟨htarget, hsendable, rfl⟩, hkind⟩

/-- On a way that is open a tool can be sent. -/
theorem IsOpen.puts_tool (h : IsOpen client way) (method : Text) {fields : Members}
    (hfields : IsTool fields) :
    ∃ url, Puts client method way (some (.object fields)) url
      (client.request url method (some (.object fields))) ∧ url.hasKind = true := by
  obtain ⟨url, htarget, hsendable, hkind⟩ := h
  exact ⟨url, ⟨htarget, hfields.sendable hsendable, rfl⟩, hkind⟩

/-- What a request is answered with is read from its reply. -/
theorem Answers.reading {request : Request} {status : Int} {v : Json} {url : Url}
    (h : Answers client w.sent request status v) (hkind : url.hasKind = true) :
    reading url (client.network w.sent request) = .ok (.answered status v) := by
  obtain ⟨body, hreply, hcontent⟩ := h
  exact reading_eq_answered.mpr ⟨hkind, body, hreply, hcontent⟩

/-- A question whose request is answered has the answer. -/
theorem Answers.ask {method : Text} {body : Option Json} {request : Request} {status : Int}
    {v : Json} {url : Url} (h : Answers client w.sent request status v)
    (hputs : Puts client method way body url request) (hkind : url.hasKind = true) :
    ask client method way body w = .ok (.answered status v) (sentOne w request) :=
  ask_eq_ok.mpr ⟨url, request, hputs, h.reading hkind, rfl⟩

/-- The content of an answer is regular and stable. -/
theorem Answers.regular {sent : List Request} {request : Request} {status : Int} {v : Json}
    (h : Answers client sent request status v) : v.Regular ∧ v.Stable := by
  obtain ⟨body, -, hcontent⟩ := h
  exact regular_of_content hcontent

end Registry

namespace Publish

open Registry (HasNames toolNamed? nameOf? idOf? Serves IsId)

variable {client : Registry.Client} {store : List Request → List Members} {limit : Nat}
variable {now : Text} {names : List Json} {members published : Members} {w w' : World}
variable {tools tools' : List Members} {item : Item} {progress : Progress}

/-- A store lists its tools. -/
theorem existingTools_of_serves (h : Serves client store limit) (hlimit : w.sent.length < limit) :
    ∃ (tools : List Members) (request : Request),
      existingTools client w = .ok (tools.map .object) (Registry.sentOne w request) ∧
      tools.Perm (store w.sent) ∧ (store (w.sent ++ [request])).Perm (store w.sent) ∧
      request.method = Text.ofString "GET" ∧
      (∀ tool ∈ tools, (Json.object tool).Regular ∧ (Json.object tool).Stable) := by
  obtain ⟨url, hputs, hkind⟩ := h.isOpen.puts (Text.ofString "GET")
  obtain ⟨tools, hanswers, htools, hstore⟩ := h.lists hlimit hputs
  obtain ⟨hregular, hstable⟩ := hanswers.regular
  refine ⟨tools, _, ?_, htools, hstore, rfl, fun tool htool => ?_⟩
  · exact existingTools_eq_ok.mpr (hanswers.ask hputs hkind)
  · exact ⟨hregular.item (List.mem_map_of_mem htool), hstable.item (List.mem_map_of_mem htool)⟩

/-- A tool with a name is judged by it. -/
theorem exists_isDoomed {names : List Json} {tool : Members} {name : Text}
    (hname : nameOf? tool = some name) : ∃ b, isDoomed kept names (.object tool) = .ok b := by
  obtain ⟨v, hget, htext⟩ := Option.bind_eq_some_iff.mp hname
  have hamong : ∀ among : List Json, isAmong among v = .ok (among.any v.sameKey) := by
    intro among
    cases v with
    | text t => rfl
    | _ => cases htext
  have hgenerated : ∃ b, isGeneratedName (some v) = .ok b := by
    cases v with
    | text t => exact ⟨_, rfl⟩
    | _ => cases htext
  rw [isDoomed, hget, Option.getD_some, hamong]
  cases kept.any v.sameKey with
  | true => exact ⟨false, rfl⟩
  | false =>
    show ∃ b, (isAmong names v >>= _) = .ok b
    rw [hamong]
    cases names.any v.sameKey with
    | true => exact ⟨false, rfl⟩
    | false => exact hgenerated

/-- Of tools with names the outdated ones are to be deleted. -/
theorem doomed_of_names (names : List Json) (h : ∀ tool ∈ tools, (nameOf? tool).isSome = true) :
    doomed kept names (tools.map .object) =
      .ok ((tools.map .object).filter (isOutdated names)) := by
  have hexists : ∃ found, doomed kept names (tools.map .object) = .ok found := by
    induction tools with
    | nil => exact ⟨[], rfl⟩
    | cons tool tools ih =>
      obtain ⟨htool, htools⟩ := List.forall_mem_cons.mp h
      obtain ⟨name, hname⟩ := Option.isSome_iff_exists.mp htool
      obtain ⟨b, hb⟩ := exists_isDoomed hname
      obtain ⟨more, hmore⟩ := ih htools
      rw [List.map_cons, doomed, hb]
      show ∃ found, (doomed kept names (tools.map .object) >>= _) = .ok found
      rw [hmore]
      exact ⟨_, rfl⟩
  obtain ⟨found, hfound⟩ := hexists
  rw [hfound, doomed_eq_ok hfound]

/-- Tools with names are known by them. -/
theorem byName_of_names (h : ∀ tool ∈ tools, (nameOf? tool).isSome = true) :
    byName [] (tools.map .object) = .ok ((tools.map .object).filterMap named?).reverse := by
  have hexists : ∀ {tools : List Members} (sofar : List (Json × Json)),
      (∀ tool ∈ tools, (nameOf? tool).isSome = true) →
      ∃ known, byName sofar (tools.map .object) = .ok known := by
    intro tools
    induction tools with
    | nil => exact fun sofar _ => ⟨sofar, rfl⟩
    | cons tool tools ih =>
      intro sofar h
      obtain ⟨htool, htools⟩ := List.forall_mem_cons.mp h
      obtain ⟨name, hname⟩ := Option.isSome_iff_exists.mp htool
      obtain ⟨v, hget, htext⟩ := Option.bind_eq_some_iff.mp hname
      have hnamed : named (.object tool) = .ok (some (v, .object tool)) := by
        cases v with
        | text t =>
          rw [named]
          simp only [hget]
          rfl
        | _ => cases htext
      rw [List.map_cons, byName, hnamed]
      exact ih _ htools
  obtain ⟨known, hknown⟩ := hexists [] h
  rw [hknown, byName_eq_ok hknown, List.append_nil]

/-- A store removes the tools that are to be deleted. -/
theorem deleteAll_of_serves (h : Serves client store limit) {outdated rest : List Members}
    (hstore : (store w.sent).Perm (outdated ++ rest))
    (hids : ∀ tool ∈ outdated, ∃ id, idOf? tool = some id ∧ IsId client id)
    (hlimit : w.sent.length + outdated.length ≤ limit) (sofar : Deletions) :
    ∃ requests, deleteAll client sofar (outdated.map .object) w =
        .ok { sofar with deleted := sofar.deleted + outdated.length }
          { w with sent := w.sent ++ requests } ∧
      requests.length = outdated.length ∧ (store (w.sent ++ requests)).Perm rest := by
  induction outdated generalizing w sofar with
  | nil => exact ⟨[], by rw [List.append_nil]; rfl, rfl, by rwa [List.append_nil]⟩
  | cons tool outdated ih =>
    obtain ⟨⟨id, hid, hisId⟩, hids⟩ := List.forall_mem_cons.mp hids
    rw [List.length_cons] at hlimit
    obtain ⟨url, hputs, hkind⟩ := hisId.isOpen.puts (Text.ofString "DELETE")
    have hmem : tool ∈ store w.sent := hstore.mem_iff.mpr List.mem_cons_self
    obtain ⟨⟨status, v, hstatus, hanswers⟩, hremoved⟩ := h.deletes (by omega) hmem hid hputs
    generalize client.request url (Text.ofString "DELETE") none = request at hputs hanswers hremoved
    have hask : Registry.deleteTool client id w =
        .ok (.answered status v) (Registry.sentOne w request) := hanswers.ask hputs hkind
    have hneed : need "id" (.object tool) = .ok id := need_eq_ok hid
    have hcount : sofar.count (.answered status v) =
        { sofar with deleted := sofar.deleted + 1 } := by
      rw [Deletions.count, if_pos hstatus]
    obtain ⟨requests, hrest, hlength, hperm⟩ :=
      ih (w := Registry.sentOne w request) (hremoved.symm.trans hstore).cons_inv hids
        (by simp only [Registry.sentOne, List.length_append, List.length_singleton]; omega)
        { sofar with deleted := sofar.deleted + 1 }
    refine ⟨request :: requests, ?_, by rw [List.length_cons, List.length_cons, hlength], ?_⟩
    · rw [List.map_cons, deleteAll, hneed, Action.ofExcept_bind_of_ok rfl, Action.bind_of_ok hask,
        hcount, hrest]
      simp [Registry.sentOne, Nat.add_assoc, Nat.add_comm 1]
    · rw [← List.singleton_append, ← List.append_assoc]
      exact hperm

/-- A store is left without the outdated tools. -/
theorem cleanUp_of_serves (h : Serves client store limit) (names : List Json)
    (hnames : HasNames tools) (hstore : (store w.sent).Perm tools)
    (hids : ∀ tool ∈ tools, ∃ id, idOf? tool = some id ∧ IsId client id)
    (hlimit : w.sent.length + (tools.filter fun tool => isOutdated names (.object tool)).length ≤
      limit) :
    ∃ requests, cleanUp client kept names (tools.map .object) w =
        .ok ⟨(tools.filter fun tool => isOutdated names (.object tool)).length, 0⟩
          { w with sent := w.sent ++ requests } ∧
      requests.length = (tools.filter fun tool => isOutdated names (.object tool)).length ∧
      (store (w.sent ++ requests)).Perm
        (tools.filter fun tool => !isOutdated names (.object tool)) := by
  have hdoomed : doomed kept names (tools.map .object) =
      .ok ((tools.filter fun tool => isOutdated names (.object tool)).map .object) := by
    rw [doomed_of_names _ hnames.texts, List.filter_map]
    rfl
  have hparts : (store w.sent).Perm ((tools.filter fun tool => isOutdated names (.object tool)) ++
      tools.filter fun tool => !isOutdated names (.object tool)) :=
    hstore.trans (List.filter_append_perm _ tools).symm
  obtain ⟨requests, hdelete, hrequests, hrest⟩ := deleteAll_of_serves h hparts
    (fun tool htool => hids tool (List.mem_of_mem_filter htool)) hlimit ⟨0, 0⟩
  refine ⟨requests, ?_, hrequests, hrest⟩
  rw [cleanUp, Action.ofExcept_bind_of_ok hdoomed, hdelete, Nat.zero_add]

end Publish

end Toolsmith
