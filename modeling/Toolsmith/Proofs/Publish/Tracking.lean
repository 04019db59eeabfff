import Toolsmith.Proofs.Publish.Synchrony

/-!
# Keeping up with a store

While items are published nobody looks at the store. A run knows the tools of the second list and
those that it has created since, and this is enough: it knows a tool of a name exactly if the store
has one, and both have the same identifier. So every item changes the tool of its name or creates
it, whatever has been published before, and the run still keeps up with the store.
-/

namespace Toolsmith

/-- Only a text is the same key as a text. -/
theorem Json.sameKey_text {v : Json} {t : Text} : v.sameKey (.text t) = true ↔ v = .text t := by
  cases v <;> simp [sameKey, asInt?]

namespace Publish

open Registry (HasNames toolNamed? nameOf? idOf? Serves IsId)

variable {client : Registry.Client} {store : List Request → List Members} {limit : Nat}
variable {clock : Clock} {names : List Json} {members published : Members} {w w' w'' : World}
variable {tools before after : List Members} {known : List (Json × Json)} {item : Item}
variable {done more : List (Item × Nat)} {progress progress' progress'' : Progress}

/-- A tool that has been created last is known under its name, and the others under theirs. -/
theorem current?_cons (name other : Text) (tool : Json) (known : List (Json × Json)) :
    current? ((.text name, tool) :: known) (.text other) =
      if name = other then some tool else current? known (.text other) := by
  rw [current?, List.find?_cons]
  by_cases h : name = other
  · have hsame : Json.sameKey (.text name) (.text other) = true := beq_iff_eq.mpr h
    rw [hsame, if_pos h]
    rfl
  · have hsame : Json.sameKey (.text name) (.text other) = false := beq_eq_false_iff_ne.mpr h
    rw [hsame, if_neg h]
    rfl

/-- Of listed tools with names the one of a name is known under it. -/
theorem current?_of_names (h : HasNames tools) (name : Text) :
    current? ((tools.map Json.object).filterMap named?).reverse (.text name) =
      (toolNamed? tools name).map .object := by
  have hsound : ∀ pair ∈ ((tools.map Json.object).filterMap named?).reverse,
      pair.1.sameKey (.text name) = true →
        ∃ tool ∈ tools, nameOf? tool = some name ∧ pair.2 = .object tool := by
    intro pair hpair hsame
    obtain ⟨_, hlisted, hnamed⟩ := List.mem_filterMap.mp (List.mem_reverse.mp hpair)
    obtain ⟨tool, htool, rfl⟩ := List.mem_map.mp hlisted
    obtain ⟨v, hget, rfl⟩ := Option.map_eq_some_iff.mp hnamed
    obtain rfl : v = .text name := Json.sameKey_text.mp hsame
    have hmember : Members.get? tool (Text.ofString "name") = some (.text name) := hget
    refine ⟨tool, htool, ?_, rfl⟩
    rw [nameOf?, hmember]
    rfl
  unfold current?
  cases hfound : ((tools.map Json.object).filterMap named?).reverse.find?
      fun pair => pair.1.sameKey (.text name) with
  | some pair =>
    have hsame : pair.1.sameKey (.text name) = true :=
      List.find?_some (p := fun pair : Json × Json => pair.1.sameKey (.text name)) hfound
    obtain ⟨tool, htool, hname, hpair⟩ := hsound pair (List.mem_of_find?_eq_some hfound) hsame
    rw [h.toolNamed?_eq_some.mpr ⟨htool, hname⟩]
    exact congrArg some hpair
  | none =>
    cases htool : toolNamed? tools name with
    | none => rfl
    | some tool =>
      -- the tool of the name would have been found
      obtain ⟨hmem, hname⟩ := Registry.mem_of_toolNamed? htool
      obtain ⟨v, hget, htext⟩ := Option.bind_eq_some_iff.mp hname
      have hnamed : named? (.object tool) = some (v, .object tool) :=
        Option.map_eq_some_iff.mpr ⟨v, hget, rfl⟩
      have hpair : (v, Json.object tool) ∈ ((tools.map Json.object).filterMap named?).reverse :=
        List.mem_reverse.mpr (List.mem_filterMap.mpr
          ⟨_, List.mem_map_of_mem hmem, hnamed⟩)
      have hnot := List.find?_eq_none.mp hfound _ hpair
      cases v with
      | text t =>
        cases htext
        exact absurd (Json.sameKey_text.mpr rfl) hnot
      | _ => cases htext

/-- What is known of the tools of a store. Under a name nothing is known if no tool has it. What is
known of a tool tells its identifier, by which it can be asked for; the rest may be out of date. -/
structure Tracks (client : Registry.Client) (known : List (Json × Json)) (tools : List Members) :
    Prop where
  unknown : ∀ name, current? known (.text name) = none → toolNamed? tools name = none
  known : ∀ name current, current? known (.text name) = some current →
    ∃ tool id, toolNamed? tools name = some tool ∧ idOf? tool = some id ∧
      current.get? (Text.ofString "id") = some id ∧ IsId client id ∧ id.Lasting

/-- The tools of a list are known. -/
theorem tracks_of_list (h : HasNames tools) (hstore : tools.Perm after)
    (hids : ∀ tool ∈ tools, ∃ id, idOf? tool = some id ∧ IsId client id)
    (hread : ∀ tool ∈ tools, (Json.object tool).Regular ∧ (Json.object tool).Stable) :
    Tracks client ((tools.map Json.object).filterMap named?).reverse after := by
  constructor
  · intro name hnone
    rw [current?_of_names h, Option.map_eq_none_iff] at hnone
    rwa [← h.toolNamed?_perm hstore]
  · intro name current hsome
    rw [current?_of_names h, Option.map_eq_some_iff] at hsome
    obtain ⟨tool, htool, rfl⟩ := hsome
    obtain ⟨hmem, -⟩ := Registry.mem_of_toolNamed? htool
    obtain ⟨id, hid, hisId⟩ := hids tool hmem
    have hpart : id.Part (.object tool) := .of_members_get? hid
    exact ⟨tool, id, (h.toolNamed?_perm hstore name).symm.trans htool, hid, hid, hisId,
      (hread tool hmem).1.of_part hpart, (hread tool hmem).2.of_part hpart, hisId.encodable⟩

/-- The tools of a store have identifiers if they are known. -/
theorem Tracks.exists_id (h : Tracks client known tools) (hnames : HasNames tools) :
    ∀ tool ∈ tools, ∃ id, idOf? tool = some id ∧ IsId client id := by
  intro tool htool
  obtain ⟨name, hname⟩ := Option.isSome_iff_exists.mp (hnames.texts tool htool)
  have hfound := hnames.toolNamed?_eq_some.mpr ⟨htool, hname⟩
  cases hcurrent : current? known (.text name) with
  | none =>
    rw [h.unknown name hcurrent] at hfound
    cases hfound
  | some current =>
    obtain ⟨other, id, hother, hid, -, hisId, -⟩ := h.known name current hcurrent
    obtain rfl := Option.some.inj (hother.symm.trans hfound)
    exact ⟨id, hid, hisId⟩

/-- What is known stays true if tools are changed. -/
theorem Tracks.change {turn : Nat} {tool : Members} (h : Tracks client known before)
    (hsynced : Synced before [(item, turn)] after)
    (hthere : toolNamed? before item.name = some tool) : Tracks client known after := by
  constructor
  · intro name hnone
    have hbefore := h.unknown name hnone
    refine hsynced.toolNamed?_eq_none ?_ hbefore
    rw [List.forall_mem_singleton]
    rintro rfl
    rw [hthere] at hbefore
    cases hbefore
  · intro name current hcurrent
    obtain ⟨old, id, hold, hid, hrest⟩ := h.known name current hcurrent
    obtain ⟨new, hnew, hsame⟩ := hsynced.exists_toolNamed? hold
    exact ⟨new, id, hnew, hsame.trans hid, hrest⟩

/-- A tool that is created is known from then on, and what is known of the others stays true. -/
theorem Tracks.create {turn : Nat} {tool : Members} {id : Json} (h : Tracks client known before)
    (hsynced : Synced before [(item, turn)] after)
    (hnew : toolNamed? after item.name = some tool) (hid : idOf? tool = some id)
    (hisId : IsId client id) (hlasting : id.Lasting) :
    Tracks client ((.text item.name, .object tool) :: known) after := by
  constructor
  · intro name hnone
    rw [current?_cons] at hnone
    split at hnone
    · cases hnone
    · rename_i hother
      refine hsynced.toolNamed?_eq_none ?_ (h.unknown name hnone)
      rwa [List.forall_mem_singleton]
  · intro name current hcurrent
    rw [current?_cons] at hcurrent
    split at hcurrent
    · rename_i heq
      subst heq
      cases hcurrent
      exact ⟨tool, id, hnew, hid, hid, hisId, hlasting⟩
    · obtain ⟨old, other, hold, hother, hrest⟩ := h.known name current hcurrent
      obtain ⟨tool', htool', hsame⟩ := hsynced.exists_toolNamed? hold
      exact ⟨tool', other, htool', hsame.trans hother, hrest⟩

/-- A success with an identifier that is no container is recorded. -/
theorem Persists.succeed {name : Text} {id : Json}
    (h : Persists names members published progress.record w.files)
    (hwritable : Writable clock names members) (hname : Json.text name ∈ names)
    (hencode : name.encode.isSome = true) (hid : id.Lasting) (hplain : id.depth = 0)
    (action : String) :
    ∃ record files, Publish.succeed clock progress (.text name) id action w =
        .ok { progress with readings := progress.readings + 2, record } { w with files } ∧
      Tree.Changes (· = Workplace.state) w.files files ∧
      Persists names members published record files := by
  have hdepth : (Json.record [("id", id), ("action", .ofString action),
      ("timestamp", .text (clock.read progress.readings))]).depth + 1 < Json.maxDepth := by
    simp [Json.record, Json.depth, Json.membersDepth, Json.ofString, hplain, Json.maxDepth]
  obtain ⟨record, hadd, hpersists⟩ :=
    h.add hwritable.names hname hencode (lasting_value hid (hwritable.times _) action) hdepth
  obtain ⟨files, -, hwrite, hchanges, hafter, -⟩ := hpersists.write hwritable (progress.readings + 1)
  exact ⟨record, files, succeed_eq_ok.mpr ⟨record, hadd, hwrite, rfl⟩, hchanges, hafter⟩

/-- A run that keeps up with a store. The tools of the store are told apart by their names, what is
known of them is true, and successes can be recorded. -/
structure KeepsUp (client : Registry.Client) (names : List Json) (members published : Members)
    (tools : List Members) (progress : Progress) (files : Tree) : Prop where
  apart : HasNames tools
  tracks : Tracks client progress.known tools
  record : Persists names members published progress.record files

/-- What is sent for items whose tools are all there, and what it comes to: changes, and nothing
else. -/
structure Updates (done : List (Item × Nat)) (requests : List Request) (result result' : Result) :
    Prop where
  methods : ∀ request ∈ requests, request.method = Text.ofString "PUT"
  result : result' = { result with updated := result.updated + done.length }

/-- How a run and a store go on while items are published. -/
structure Advances (store : List Request → List Members) (done : List (Item × Nat))
    (progress : Progress) (w : World) (progress' : Progress) (w' : World) : Prop where
  synced : Synced (store w.sent) done (store w'.sent)
  files : Tree.Changes (· = Workplace.state) w.files w'.files
  turn : progress'.turn = progress.turn + done.length
  failed : progress'.result.failed = progress.result.failed
  sent : ∃ requests, w'.sent = w.sent ++ requests ∧ requests.length = done.length ∧
    ((∀ p ∈ done, (toolNamed? (store w.sent) p.1.name).isSome = true) →
      Updates done requests progress.result progress'.result)

/-- Before the first item nothing has happened. -/
theorem Advances.nil (h : HasNames (store w.sent)) : Advances store [] progress w progress w where
  synced := .nil h
  files := .refl _ _
  turn := rfl
  failed := rfl
  sent := ⟨[], (List.append_nil _).symm, rfl, fun _ => ⟨List.forall_mem_nil _, rfl⟩⟩

/-- Items may be published after others. -/
theorem Advances.trans (h : Advances store done progress w progress' w')
    (h' : Advances store more progress' w' progress'' w'') :
    Advances store (done ++ more) progress w progress'' w'' := by
  obtain ⟨requests, hsent, hlength, hupdates⟩ := h.sent
  obtain ⟨others, hsent', hlength', hupdates'⟩ := h'.sent
  refine ⟨h.synced.trans h'.synced, h.files.trans h'.files, ?_, h'.failed.trans h.failed,
    requests ++ others, ?_, ?_, fun hall => ?_⟩
  · rw [h'.turn, h.turn, List.length_append, Nat.add_assoc]
  · rw [hsent', hsent, List.append_assoc]
  · rw [List.length_append, List.length_append, hlength, hlength']
  · obtain ⟨hdone, hmore⟩ := List.forall_mem_append.mp hall
    obtain ⟨hmethods, hresult⟩ := hupdates hdone
    obtain ⟨hmethods', hresult'⟩ := hupdates' fun p hp => by
      obtain ⟨tool, htool⟩ := Option.isSome_iff_exists.mp (hmore p hp)
      obtain ⟨tool', htool', -⟩ := h.synced.exists_toolNamed? htool
      rw [htool']
      rfl
    refine ⟨List.forall_mem_append.mpr ⟨hmethods, hmethods'⟩, ?_⟩
    rw [hresult', hresult, List.length_append, Nat.add_assoc]

/-- A store changes the tool of an item, if it has one. -/
theorem update_of_serves (h : Serves client store limit) (hlimit : w.sent.length < limit)
    (hkeeps : KeepsUp client names members published (store w.sent) progress w.files)
    (hwritable : Writable clock names members) (hitem : item.Encodes)
    (hname : Json.text item.name ∈ names) {current : Json}
    (hcurrent : current? progress.known (.text item.name) = some current) :
    ∃ progress' w', update client clock (turned progress) (.text item.name)
        (item.tool progress.turn) current w = .ok progress' w' ∧
      Advances store [(item, progress.turn)] progress w progress' w' ∧
      KeepsUp client names members published (store w'.sent) progress' w'.files := by
  obtain ⟨tool, id, htool, hid, hget, hisId, hlasting⟩ := hkeeps.tracks.known _ _ hcurrent
  obtain ⟨hmem, hnameOf⟩ := Registry.mem_of_toolNamed? htool
  have hfields := item.isTool hitem progress.turn
  obtain ⟨url, hputs, hkind⟩ := hisId.isOpen.puts_tool (Text.ofString "PUT") hfields
  obtain ⟨⟨v, hanswers⟩, others, hbefore, hafter⟩ := h.changes hlimit hfields hmem hid hputs
  have hmethod : (client.request url (Text.ofString "PUT")
      (some (.object (item.members progress.turn)))).method = Text.ofString "PUT" := rfl
  generalize client.request url _ _ = request at hputs hanswers hafter hmethod
  have hask : Registry.updateTool client id (item.tool progress.turn) w =
      .ok (.answered 200 v) (Registry.sentOne w request) := hanswers.ask hputs hkind
  have hsynced : Synced (store w.sent) [(item, progress.turn)] (store (w.sent ++ [request])) :=
    .of_change hkeeps.apart hnameOf hbefore hafter
  have hrecord : Persists names members published
      { turned progress with result := { progress.result with
          updated := progress.result.updated + 1 } }.record (Registry.sentOne w request).files :=
    hkeeps.record
  obtain ⟨record, files, hsucceed, hchanges, hpersists⟩ :=
    hrecord.succeed hwritable hname hitem.name hlasting hisId.plain "updated"
  refine ⟨_, _, Eq.trans ?_ hsucceed,
    ⟨hsynced, hchanges, rfl, rfl, [request], rfl, rfl, fun _ => ⟨?_, rfl⟩⟩,
    hsynced.names, hkeeps.tracks.change hsynced htool, hpersists⟩
  · rw [update, need_eq_ok hget, Action.ofExcept_bind_of_ok rfl, Action.bind_of_ok hask]
    rfl
  · rwa [List.forall_mem_singleton]

/-- A store creates a tool for an item, if it has none of its name. -/
theorem create_of_serves (h : Serves client store limit) (hlimit : w.sent.length < limit)
    (hkeeps : KeepsUp client names members published (store w.sent) progress w.files)
    (hwritable : Writable clock names members) (hitem : item.Encodes)
    (hname : Json.text item.name ∈ names)
    (hcurrent : current? progress.known (.text item.name) = none) :
    ∃ progress' w', create client clock (turned progress) (.text item.name)
        (item.tool progress.turn) w = .ok progress' w' ∧
      Advances store [(item, progress.turn)] progress w progress' w' ∧
      KeepsUp client names members published (store w'.sent) progress' w'.files := by
  have hnone := hkeeps.tracks.unknown _ hcurrent
  have hfields := item.isTool hitem progress.turn
  obtain ⟨url, hputs, hkind⟩ := h.isOpen.puts_tool (Text.ofString "POST") hfields
  obtain ⟨tool, id, hanswers, hid, hisId, -, hholds, hafter⟩ := h.creates hlimit hfields hputs
  generalize client.request url _ _ = request at hputs hanswers hafter
  have hask : Registry.createTool client (item.tool progress.turn) w =
      .ok (.answered 201 (.object tool)) (Registry.sentOne w request) := hanswers.ask hputs hkind
  have hsynced : Synced (store w.sent) [(item, progress.turn)] (store (w.sent ++ [request])) :=
    .of_create hkeeps.apart hnone hholds hafter
  have hpart : id.Part (.object tool) := .of_members_get? hid
  have hlasting : id.Lasting :=
    ⟨hanswers.regular.1.of_part hpart, hanswers.regular.2.of_part hpart, hisId.encodable⟩
  have hnew : toolNamed? (store (w.sent ++ [request])) item.name = some tool :=
    hsynced.names.toolNamed?_eq_some.mpr
      ⟨hafter.mem_iff.mpr List.mem_cons_self, Holds.nameOf? hholds⟩
  have hget : (Json.object tool).get? (Text.ofString "id") = some id := hid
  have hrecord : Persists names members published
      { turned progress with
        result := { progress.result with created := progress.result.created + 1 }
        known := (Json.text item.name, Json.object tool) :: progress.known }.record
      (Registry.sentOne w request).files :=
    hkeeps.record
  obtain ⟨record, files, hsucceed, hchanges, hpersists⟩ :=
    hrecord.succeed hwritable hname hitem.name hlasting hisId.plain "created"
  refine ⟨_, _, Eq.trans ?_ hsucceed,
    ⟨hsynced, hchanges, rfl, rfl, [request], rfl, rfl, fun hall => ?_⟩,
    hsynced.names, hkeeps.tracks.create hsynced hnew hid hisId hlasting, hpersists⟩
  · rw [create, Action.bind_of_ok hask]
    simp only [createdId, hget]
    rfl
  · rw [List.forall_mem_singleton, hnone] at hall
    cases hall

/-- An item is published to a store, and the run keeps up with it. -/
theorem publishItem_of_serves (h : Serves client store limit) (hlimit : w.sent.length < limit)
    (hkeeps : KeepsUp client names members published (store w.sent) progress w.files)
    (hwritable : Writable clock names members) (hitem : item.Encodes)
    (hname : Json.text item.name ∈ names) :
    ∃ progress' w', publishItem client clock progress item w = .ok progress' w' ∧
      Advances store [(item, progress.turn)] progress w progress' w' ∧
      KeepsUp client names members published (store w'.sent) progress' w'.files := by
  unfold publishItem
  simp only
  cases hcurrent : current? progress.known (.text item.name) with
  | some current => exact update_of_serves h hlimit hkeeps hwritable hitem hname hcurrent
  | none => exact create_of_serves h hlimit hkeeps hwritable hitem hname hcurrent

/-- Items are published to a store one after another, and the run keeps up with it. -/
theorem publishItems_of_serves (h : Serves client store limit) (items : List Item)
    (hlimit : w.sent.length + items.length ≤ limit)
    (hkeeps : KeepsUp client names members published (store w.sent) progress w.files)
    (hwritable : Writable clock names members) (hitems : ∀ item ∈ items, item.Encodes)
    (hnames : ∀ item ∈ items, Json.text item.name ∈ names) :
    ∃ progress' w', publishItems client clock progress items w = .ok progress' w' ∧
      Advances store (items.zipIdx progress.turn) progress w progress' w' ∧
      KeepsUp client names members published (store w'.sent) progress' w'.files := by
  induction items generalizing progress w with
  | nil => exact ⟨progress, w, rfl, .nil hkeeps.apart, hkeeps⟩
  | cons item items ih =>
    obtain ⟨hitem, hitems⟩ := List.forall_mem_cons.mp hitems
    obtain ⟨hname, hnames⟩ := List.forall_mem_cons.mp hnames
    rw [List.length_cons] at hlimit
    obtain ⟨middle, v, hfirst, hadvances, hmiddle⟩ :=
      publishItem_of_serves h (by omega) hkeeps hwritable hitem hname
    have hroom : v.sent.length + items.length ≤ limit := by
      obtain ⟨requests, hsent, hlength, -⟩ := hadvances.sent
      rw [hsent, List.length_append, hlength, List.length_singleton]
      omega
    obtain ⟨progress', w', hrest, hadvances', hend⟩ := ih hroom hmiddle hitems hnames
    refine ⟨progress', w', ?_, ?_, hend⟩
    · rw [publishItems, Action.bind_of_ok hfirst, hrest]
    · rw [hadvances.turn] at hadvances'
      exact hadvances.trans hadvances'

end Publish

end Toolsmith
