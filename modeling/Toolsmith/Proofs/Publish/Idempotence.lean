import Toolsmith.Proofs.Publish.Tracking
import Toolsmith.Proofs.Registry.Memory

/-!
# Publishing twice

Where the registry is a store of tools with distinct names, a run of publishing brings it in line
with the manifests. Every item has the tool of its name, no outdated tool is left, and no other tool
has changed. A second run finds all tools under their names and sends the same items in the same
order, so it changes every tool into what it is already.
-/

namespace Toolsmith.Publish

open Registry (HasNames toolNamed? nameOf? idOf? Serves IsId)

variable {client : Registry.Client} {store : List Request → List Members} {limit : Nat}
variable {clock clock' : Clock} {members published : Members} {w v w' : World} {items : List Item}
variable {before middle after : List Members}

/-- The names of items. -/
def Item.names (items : List Item) : List Json :=
  items.map fun item => .text item.name

/-- Tools that are told apart by their names, and that can be asked for by their identifiers. -/
structure IsStore (client : Registry.Client) (tools : List Members) : Prop where
  names : HasNames tools
  ids : ∀ tool ∈ tools, ∃ id, idOf? tool = some id ∧ IsId client id

/-- The order of the tools in a store does not matter. -/
theorem IsStore.perm (h : IsStore client before) (hperm : before.Perm after) :
    IsStore client after :=
  ⟨h.names.perm hperm, fun tool htool => h.ids tool (hperm.mem_iff.mpr htool)⟩

/-- Some of the tools in a store are a store. -/
theorem IsStore.filter (h : IsStore client before) (p : Members → Bool) :
    IsStore client (before.filter p) :=
  ⟨h.names.filter p, fun tool htool => h.ids tool (List.mem_of_mem_filter htool)⟩

/-- The tools that are outdated where items are published. -/
def outdated (items : List Item) (tools : List Members) : List Members :=
  tools.filter fun tool => isOutdated (Item.names items) (.object tool)

/-- Where no tool is outdated, none is removed. -/
theorem filter_eq_self_of_outdated {items : List Item} {tools : List Members}
    (h : outdated items tools = []) :
    tools.filter (fun tool => !isOutdated (Item.names items) (.object tool)) = tools :=
  List.filter_eq_self.mpr fun tool htool => by
    simpa using List.filter_eq_nil_iff.mp h tool htool

/-- How a run begins with a store: the outdated tools are removed, and what is left is known. If
there is no outdated tool, the tools are listed and nothing else is asked for. -/
structure Begins (client : Registry.Client) (store : List Request → List Members)
    (items : List Item) (members : Members) (w v : World) (start : Progress) : Prop where
  files : v.files = w.files
  left : (store v.sent).Perm
    ((store w.sent).filter fun tool => !isOutdated (Item.names items) (.object tool))
  tracks : Tracks client start.known (store v.sent)
  start : ∃ known deleted, start =
    ⟨⟨0, 0, 0, 0, deleted⟩, 0, 0, known, Record.ofDocument (.object members)⟩
  sent : ∃ requests, v.sent = w.sent ++ requests ∧
    requests.length = (outdated items (store w.sent)).length + 2 ∧
    (outdated items (store w.sent) = [] →
      ∀ request ∈ requests, request.method = Text.ofString "GET")

/-- The tools are listed and the outdated ones removed. What is left is a store. -/
theorem exists_cleanUp (h : Serves client store limit) (items : List Item)
    (hstore : IsStore client (store w.sent))
    (hlimit : w.sent.length + (outdated items (store w.sent)).length + 1 ≤ limit) :
    ∃ deletions first v, (do
        let tools ← existingTools client
        cleanUp client kept (Item.names items) tools : Action Deletions) w =
          .ok ⟨(outdated items (store w.sent)).length, 0⟩ v ∧
      v.files = w.files ∧ v.sent = w.sent ++ first :: deletions ∧
      first.method = Text.ofString "GET" ∧
      deletions.length = (outdated items (store w.sent)).length ∧
      IsStore client (store v.sent) ∧
      (store v.sent).Perm
        ((store w.sent).filter fun tool => !isOutdated (Item.names items) (.object tool)) := by
  obtain ⟨tools, first, hfirst, htools, hsame, hget, -⟩ :=
    existingTools_of_serves (w := w) h (by omega)
  have hlisted := hstore.perm htools.symm
  have houtdated : (outdated items tools).length = (outdated items (store w.sent)).length :=
    (htools.filter _).length_eq
  have hroom : (Registry.sentOne w first).sent.length = w.sent.length + 1 := by
    simp [Registry.sentOne]
  obtain ⟨deletions, hcleanUp, hdeletions, hrest⟩ := cleanUp_of_serves h (Item.names items)
    (w := Registry.sentOne w first) hlisted.names (hsame.trans htools.symm) hlisted.ids
    (show _ + (outdated items tools).length ≤ _ by omega)
  have hsent : (Registry.sentOne w first).sent ++ deletions = w.sent ++ first :: deletions := by
    simp [Registry.sentOne]
  rw [hsent] at hcleanUp hrest
  refine ⟨deletions, first, { w with sent := w.sent ++ first :: deletions }, ?_, rfl, rfl, hget,
    hdeletions.trans houtdated, ?_, hrest.trans (htools.filter _)⟩
  · rw [← houtdated, Action.bind_of_ok hfirst]
    exact hcleanUp
  · exact (hlisted.filter fun tool => !isOutdated (Item.names items) (.object tool)).perm hrest.symm

/-- A run begins with a store, and then publishes its items. -/
theorem exists_begins (clock : Clock) (h : Serves client store limit) (items : List Item)
    (hstore : IsStore client (store w.sent)) (hrecord : HasRecord w.files members published)
    (hlimit : w.sent.length + (outdated items (store w.sent)).length + 2 ≤ limit) :
    ∃ start v, Begins client store items members w v start ∧
      runItems client clock items w = (do
        let progress ← publishItems client clock start items
        progress.record.write (clock.read progress.readings)
        pure progress.result : Action Result) v := by
  obtain ⟨deletions, first, v, hcleanUp, hfiles, hsent, hget, hcount, hremaining, hrest⟩ :=
    exists_cleanUp h items hstore (by omega)
  obtain ⟨left, second, hsecond, hleft, hleftSame, hget', hread⟩ :=
    existingTools_of_serves (w := v) h (by
      rw [hsent, List.length_append, List.length_cons, hcount]
      omega)
  have hknown := hremaining.perm hleft.symm
  have hstate : readState (Registry.sentOne v second) =
      .ok (.object members) (Registry.sentOne v second) := by
    have hsecondRecord : HasRecord (Registry.sentOne v second).files members published := by
      rwa [← hfiles] at hrecord
    exact hsecondRecord.readState
  refine ⟨⟨⟨0, 0, 0, 0, (outdated items (store w.sent)).length⟩, 0, 0,
    ((left.map Json.object).filterMap named?).reverse, Record.ofDocument (.object members)⟩,
    Registry.sentOne v second, ⟨hfiles, hleftSame.trans hrest, ?_, ⟨_, _, rfl⟩,
    first :: deletions ++ [second], ?_, ?_, fun hnone => ?_⟩, ?_⟩
  · exact tracks_of_list hknown.names (hleft.trans hleftSame.symm) hknown.ids hread
  · rw [Registry.sentOne, hsent, List.append_assoc]
  · simp only [List.cons_append, List.length_cons, List.length_append, List.length_nil, hcount]
  · rw [hnone] at hcount
    obtain rfl := List.length_eq_zero_iff.mp hcount
    simp only [List.cons_append, List.nil_append, List.forall_mem_cons]
    exact ⟨hget, hget', List.forall_mem_nil _⟩
  · have hnames : (items.map fun item => .text item.name) = Item.names items := rfl
    rw [runItems, hnames, ← bind_assoc, Action.bind_of_ok hcleanUp, Action.bind_of_ok hsecond,
      Action.ofExcept_bind_of_ok (byName_of_names hknown.names.texts), Action.bind_of_ok hstate]

/-- A working directory from which items can be published. The manifests and units can be read, and
so can the record, if it is there. -/
structure IsPrepared (files : Tree) (listings : List (Text × List Item))
    (members published : Members) : Prop where
  root : files.get? [] = some .directory
  lists : ListsAll files (directories files) listings
  record : HasRecord files members published
  encodable : (Json.object members).Encodable

/-- The names that a run records: those of the record that it begins with, and those of items. -/
def recordNames (published : Members) (items : List Item) : List Json :=
  published.map (fun m => .text m.1) ++ Item.names items

/-- A prepared record can be written after any success with an item. -/
theorem IsPrepared.writable {files : Tree} {listings : List (Text × List Item)}
    (h : IsPrepared files listings members published) (items : List Item)
    (hclock : clock.Encodes) : Writable clock (recordNames published items) members where
  names := by
    refine tellsApart_of_texts (List.forall_mem_append.mpr ⟨fun name hname => ?_, ?_⟩)
    · obtain ⟨m, -, rfl⟩ := List.mem_map.mp hname
      exact ⟨m.1, rfl⟩
    · intro name hname
      obtain ⟨item, -, rfl⟩ := List.mem_map.mp hname
      exact ⟨item.name, rfl⟩
  lasting := h.record.lasting h.encodable
  depth := h.record.depth_le
  times := hclock

/-- A prepared record persists. -/
theorem IsPrepared.persists {files : Tree} {listings : List (Text × List Item)}
    (h : IsPrepared files listings members published) (items : List Item) :
    Persists (recordNames published items) members published
      (Record.ofDocument (.object members)) files := by
  have hpart : (Json.object published).Part (.object members) :=
    .of_members_get? h.record.published
  have hdepth : (Json.object published).depth < Json.maxDepth :=
    Nat.lt_of_lt_of_le (Json.depth_lt_of_get? h.record.published) h.record.depth_le
  have hway := hasWay_state h.root
  exact ⟨⟨[], keeps_ofDocument h.record.published
    (fun m hm => List.mem_append_left _ (List.mem_map_of_mem hm)),
    (h.record.lasting h.encodable).of_part hpart, hdepth⟩, hway, h.record.file hway⟩

/-- A prepared directory is prepared after the record has been written. -/
theorem IsPrepared.write {files files' : Tree} {listings : List (Text × List Item)}
    {members' published' : Members} (h : IsPrepared files listings members published)
    (hchanges : Tree.Changes (· = Workplace.state) files files')
    (hdocument : files'.document? Workplace.state = some (.object members'))
    (hpublished : Members.get? members' publishedKey = some (.object published'))
    (hencodable : (Json.object members').Encodable) :
    IsPrepared files' listings members' published' := by
  have hroot := hchanges.keeps.directory [] h.root
  have hrecord : HasRecord files' members' published' := ⟨.inr hdocument, hpublished⟩
  refine ⟨hroot, ?_, hrecord, hencodable⟩
  rw [directories_of_changes (hrecord.file (hasWay_state hroot)) hchanges]
  exact h.lists.of_changes hchanges

/-- What a run does to a store and a working directory, and what it sends. If all tools of its items
are there, and no outdated one is, it only lists and changes tools. -/
structure Settles (client : Registry.Client) (store : List Request → List Members)
    (listings : List (Text × List Item)) (w : World) (result : Result) (w' : World) : Prop where
  failed : result.failed = 0
  synced : ∃ middle, middle.Perm ((store w.sent).filter fun tool =>
      !isOutdated (Item.names (listings.flatMap Prod.snd)) (.object tool)) ∧
    Synced middle (listings.flatMap Prod.snd).zipIdx (store w'.sent)
  stays : IsStore client (store w'.sent)
  prepared : ∃ members published, IsPrepared w'.files listings members published
  sent : ∃ requests, w'.sent = w.sent ++ requests ∧
    requests.length = (outdated (listings.flatMap Prod.snd) (store w.sent)).length + 2 +
      (listings.flatMap Prod.snd).length ∧
    (outdated (listings.flatMap Prod.snd) (store w.sent) = [] →
      (∀ item ∈ listings.flatMap Prod.snd, (toolNamed? (store w.sent) item.name).isSome = true) →
      result.created = 0 ∧ ∀ request ∈ requests,
        request.method = Text.ofString "GET" ∨ request.method = Text.ofString "PUT")

/-- A run with a store returns, and settles both the store and the working directory. -/
theorem exists_settles {listings : List (Text × List Item)} (h : Serves client store limit)
    (hstore : IsStore client (store w.sent))
    (hprepared : IsPrepared w.files listings members published)
    (hlimit : w.sent.length + (outdated (listings.flatMap Prod.snd) (store w.sent)).length + 2 +
      (listings.flatMap Prod.snd).length ≤ limit)
    (hclock : clock.Encodes) :
    ∃ result w', run client clock w = .ok result w' ∧ Settles client store listings w result w' := by
  rw [run_eq hprepared.lists]
  generalize hitems : listings.flatMap Prod.snd = items at hlimit
  obtain ⟨start, v, hbegins, hrun⟩ :=
    exists_begins clock h items hstore hprepared.record (by omega)
  obtain ⟨known, deleted, rfl⟩ := hbegins.start
  obtain ⟨opening, hopening, hopeningLength, hlists⟩ := hbegins.sent
  have hwritable := hprepared.writable items hclock
  have hkeeps : KeepsUp client (recordNames published items) members published (store v.sent)
      ⟨⟨0, 0, 0, 0, deleted⟩, 0, 0, known, Record.ofDocument (.object members)⟩ v.files :=
    ⟨(hstore.names.filter _).perm hbegins.left.symm, hbegins.tracks,
      hbegins.files ▸ hprepared.persists items⟩
  obtain ⟨progress, u, hpublish, hadvances, hend⟩ := publishItems_of_serves h items
    (by rw [hopening, List.length_append, hopeningLength]; omega) hkeeps hwritable
    (hitems ▸ hprepared.lists.encodes)
    fun item hitem => List.mem_append_right _ (List.mem_map_of_mem hitem)
  obtain ⟨orders, horders, hordersLength, hupdates⟩ := hadvances.sent
  obtain ⟨files, successes, hwrite, hchanges, -, -, hlasting, hdocument⟩ :=
    hend.record.write hwritable progress.readings
  refine ⟨progress.result, { u with files }, ?_, hadvances.failed, ?_, ?_, ?_, opening ++ orders,
    ?_, ?_, fun hnone hall => ?_⟩
  · rw [hrun, Action.bind_of_ok hpublish, Action.bind_of_ok hwrite]
    rfl
  · rw [hitems]
    exact ⟨store v.sent, hbegins.left, hadvances.synced⟩
  · exact ⟨hend.apart, hend.tracks.exists_id hend.apart⟩
  · have hfiles : Tree.Changes (· = Workplace.state) w.files files :=
      (hbegins.files ▸ hadvances.files).trans hchanges
    refine ⟨_, recorded published successes, hprepared.write hfiles hdocument ?_ hlasting.encodable⟩
    rw [Members.get?_set, if_neg (by decide), Members.get?_set, if_pos rfl]
  · rw [horders, hopening, List.append_assoc]
  · rw [List.length_append, hopeningLength, hordersLength, List.length_zipIdx, hitems]
  · rw [hitems] at hnone hall
    have hsame : (store v.sent).Perm (store w.sent) := by
      rw [← filter_eq_self_of_outdated hnone]
      exact hbegins.left
    obtain ⟨hmethods, hresult⟩ := hupdates fun p hp => by
      have hmem : p.1 ∈ items := List.fst_mem_of_mem_zipIdx hp
      rw [hkeeps.apart.toolNamed?_perm hsame]
      exact hall p.1 hmem
    refine ⟨by rw [hresult], List.forall_mem_append.mpr
      ⟨fun request hrequest => .inl (hlists hnone request hrequest),
        fun request hrequest => .inr (hmethods request hrequest)⟩⟩

/-- A store that is in line with items, compared with the store before. Under the name of every item
there is one tool, with the fields of the last item of the name. If there was a tool of the name, it
is that tool, with the same identifier and with its other fields. No outdated tool is left, and of
the tools without an item there are those that were there, as they were. -/
structure InLine (before : List Members) (items : List Item) (after : List Members) : Prop where
  apart : HasNames after
  published : ∀ item ∈ items, ∃ last turn tool,
    lastOf? items.zipIdx item.name = some (last, turn) ∧
    toolNamed? after item.name = some tool ∧ Holds (last.members turn) tool ∧
    ∀ old, toolNamed? before item.name = some old →
      idOf? tool = idOf? old ∧ tool = Members.overwrite (last.members turn) old
  current : ∀ tool ∈ after, isOutdated (Item.names items) (.object tool) = false
  others : ∀ tool, (∀ item ∈ items, nameOf? tool ≠ some item.name) →
    (tool ∈ after ↔ tool ∈ before ∧ isOutdated (Item.names items) (.object tool) = false)

/-- The tool of an item is not outdated. -/
theorem isOutdated_of_item {item : Item} {tool : Members} (hitem : item ∈ items)
    (hname : nameOf? tool = some item.name) :
    isOutdated (Item.names items) (.object tool) = false := by
  obtain ⟨v, hget, htext⟩ := Option.bind_eq_some_iff.mp hname
  have hmember : (Json.object tool).get? (Text.ofString "name") = some v := hget
  rw [isOutdated, hmember]
  cases v with
  | text t =>
    cases htext
    have hsame : (Item.names items).any (Json.sameKey (.text item.name)) = true :=
      List.any_eq_true.mpr ⟨.text item.name, List.mem_map_of_mem hitem, Json.sameKey_text.mpr rfl⟩
    simp [hsame]
  | _ => cases htext

/-- There is a last item of a name exactly if an item has the name. -/
theorem lastOf?_zipIdx_eq_none {name : Text} :
    lastOf? items.zipIdx name = none ↔ ∀ item ∈ items, item.name ≠ name := by
  have hitems : items.zipIdx.map Prod.fst = items := List.zipIdx_map_fst 0 items
  rw [lastOf?_eq_none]
  conv_rhs => rw [← hitems, List.forall_mem_map]

/-- Publishing items leaves the tools as they are that have the name of none. -/
theorem mem_iff_of_synced (hmiddle : HasNames middle) (h : Synced middle items.zipIdx after)
    {tool : Members} (hnot : ∀ item ∈ items, nameOf? tool ≠ some item.name) :
    tool ∈ after ↔ tool ∈ middle := by
  cases hname : nameOf? tool with
  | none =>
    constructor
    · intro htool
      exact absurd (h.names.texts tool htool) (by rw [hname]; decide)
    · intro htool
      exact absurd (hmiddle.texts tool htool) (by rw [hname]; decide)
  | some name =>
    have hlast : lastOf? items.zipIdx name = none :=
      lastOf?_zipIdx_eq_none.mpr fun item hitem heq => hnot item hitem (hname.trans (heq ▸ rfl))
    have hafter : toolNamed? after name = some tool ↔ tool ∈ after := by
      rw [h.names.toolNamed?_eq_some]
      exact and_iff_left hname
    have hbefore : toolNamed? middle name = some tool ↔ tool ∈ middle := by
      rw [hmiddle.toolNamed?_eq_some]
      exact and_iff_left hname
    rw [← hafter, ← hbefore, h.kept name hlast]

/-- Removing the outdated tools leaves the tool of an item. -/
theorem toolNamed?_of_filter_perm (hbefore : HasNames before)
    (hmiddle : middle.Perm
      (before.filter fun tool => !isOutdated (Item.names items) (.object tool)))
    {item : Item} (hitem : item ∈ items) :
    toolNamed? middle item.name = toolNamed? before item.name := by
  have hnames : HasNames middle := (hbefore.filter _).perm hmiddle.symm
  refine Option.ext fun tool => ?_
  rw [hnames.toolNamed?_eq_some, hbefore.toolNamed?_eq_some, hmiddle.mem_iff, List.mem_filter,
    Bool.not_eq_true']
  constructor
  · rintro ⟨⟨hmem, -⟩, hname⟩
    exact ⟨hmem, hname⟩
  · rintro ⟨hmem, hname⟩
    exact ⟨⟨hmem, isOutdated_of_item hitem hname⟩, hname⟩

/-- A store from which the outdated tools have been removed, and to which items have been published,
is in line with the items. -/
theorem inLine_of_synced (hbefore : HasNames before)
    (hmiddle : middle.Perm
      (before.filter fun tool => !isOutdated (Item.names items) (.object tool)))
    (h : Synced middle items.zipIdx after) : InLine before items after := by
  have hnames : HasNames middle := (hbefore.filter _).perm hmiddle.symm
  have hmem : ∀ tool, tool ∈ middle ↔
      tool ∈ before ∧ isOutdated (Item.names items) (.object tool) = false := by
    intro tool
    rw [hmiddle.mem_iff, List.mem_filter, Bool.not_eq_true']
  refine ⟨h.names, fun item hitem => ?_, fun tool htool => ?_, fun tool hnot => ?_⟩
  · obtain ⟨p, hlast⟩ : ∃ p, lastOf? items.zipIdx item.name = some p := by
      refine Option.ne_none_iff_exists'.mp fun hnone => ?_
      exact lastOf?_zipIdx_eq_none.mp hnone item hitem rfl
    have hthere := toolNamed?_of_filter_perm hbefore hmiddle hitem
    cases hold : toolNamed? before item.name with
    | none =>
      obtain ⟨tool, htool, hholds⟩ := h.created item.name p hlast (hthere.trans hold)
      exact ⟨p.1, p.2, tool, hlast, htool, hholds, fun _ hsome => nomatch hsome⟩
    | some old =>
      refine ⟨p.1, p.2, _, hlast, h.changed item.name p old hlast (hthere.trans hold),
        holds_overwrite (p.1.nodup_members p.2) old, fun other hother => ?_⟩
      cases hother
      exact ⟨p.1.idOf?_overwrite p.2 old, rfl⟩
  · by_cases hitem : ∃ item ∈ items, nameOf? tool = some item.name
    · obtain ⟨item, hitem, hname⟩ := hitem
      exact isOutdated_of_item hitem hname
    · have hnot : ∀ item ∈ items, nameOf? tool ≠ some item.name :=
        fun item hmem hname => hitem ⟨item, hmem, hname⟩
      exact ((hmem tool).mp ((mem_iff_of_synced hnames h hnot).mp htool)).2
  · rw [mem_iff_of_synced hnames h hnot, hmem]

/-- A run brings a store in line with the items of the manifests, without a failure. A second run
after it creates and deletes no tool, and leaves the tools as they are. -/
theorem run_idempotent {listings : List (Text × List Item)} (h : Serves client store limit)
    (hstore : IsStore client (store w.sent))
    (hprepared : IsPrepared w.files listings members published)
    (hlimit : w.sent.length + (store w.sent).length + 2 * (listings.flatMap Prod.snd).length + 4 ≤
      limit)
    (hclock : clock.Encodes) (hclock' : clock'.Encodes) :
    ∃ result w' result' w'' requests,
      run client clock w = .ok result w' ∧
      InLine (store w.sent) (listings.flatMap Prod.snd) (store w'.sent) ∧
      result.failed = 0 ∧
      run client clock' w' = .ok result' w'' ∧
      w''.sent = w'.sent ++ requests ∧
      (∀ request ∈ requests,
        request.method = Text.ofString "GET" ∨ request.method = Text.ofString "PUT") ∧
      result'.created = 0 ∧
      (store w''.sent).Perm (store w'.sent) := by
  have hcount : (outdated (listings.flatMap Prod.snd) (store w.sent)).length ≤
      (store w.sent).length :=
    List.length_filter_le _ _
  obtain ⟨result, w', hrun, hsettles⟩ := exists_settles h hstore hprepared
    (by omega) hclock
  obtain ⟨middle, hmiddle, hsynced⟩ := hsettles.synced
  have hinLine := inLine_of_synced hstore.names hmiddle hsynced
  obtain ⟨sent, hsent, hlength, -⟩ := hsettles.sent
  -- the second run finds nothing outdated, and all names
  have hnone : outdated (listings.flatMap Prod.snd) (store w'.sent) = [] :=
    List.filter_eq_nil_iff.mpr fun tool htool => by
      rw [hinLine.current tool htool]
      decide
  have hall : ∀ item ∈ listings.flatMap Prod.snd,
      (toolNamed? (store w'.sent) item.name).isSome = true := by
    intro item hitem
    obtain ⟨-, -, tool, -, htool, -⟩ := hinLine.published item hitem
    rw [htool]
    rfl
  obtain ⟨members', published', hprepared'⟩ := hsettles.prepared
  obtain ⟨result', w'', hrun', hsettles'⟩ := exists_settles h hsettles.stays hprepared'
    (by rw [hnone, hsent, List.length_append, hlength, List.length_nil]; omega) hclock'
  obtain ⟨middle', hmiddle', hsynced'⟩ := hsettles'.synced
  obtain ⟨requests, hsent', -, hquiet⟩ := hsettles'.sent
  obtain ⟨hcreated, hmethods⟩ := hquiet hnone hall
  rw [filter_eq_self_of_outdated hnone] at hmiddle'
  have hagain : Synced (store w'.sent) (listings.flatMap Prod.snd).zipIdx (store w''.sent) :=
    hsynced'.perm (hsettles.stays.names.perm hmiddle'.symm) hmiddle'
  exact ⟨result, w', result', w'', requests, hrun, hinLine, hsettles.failed, hrun', hsent', hmethods,
    hcreated, hsynced.perm_of_again hagain⟩

/-- An item without inputs. -/
def plainItem (name : String) : Item :=
  ⟨Text.ofString name, [], .object [], Text.ofString "pass\n"⟩

/-- The entry of an item without inputs. -/
def plainEntry (name : String) : Json :=
  .record [("name", .ofString name), ("file", .ofString "u"), ("description", .text []),
    ("schema", .object [])]

/-- A working directory with a manifest of two entries, and with their unit. -/
def plainFiles : Tree :=
  let directory := Workplace.tools ++ [Text.ofString "s"]
  let manifest := Json.array [plainEntry "a", plainEntry "b"]
  .ofEntries [([], .directory), (Workplace.tools, .directory), (directory, .directory),
    (Workplace.manifestIn directory, .file (manifest.fileText.encode.getD [])),
    (directory ++ [Text.ofString "u"], .ofString "pass\n")]
    (by decide) (by decide)

/-- A request for a new tool. -/
def plainOrder (name : String) : Request :=
  ⟨Text.ofString "POST", .null, none, some ((plainItem name).tool 0)⟩

/-- The working directory, after a tool has been created that is outdated and one that is not. -/
def plainWorld : World :=
  { World.ofFiles plainFiles with sent := [plainOrder "A-B-GET-old", plainOrder "a"] }

/-- An entry without inputs lasts. -/
theorem lasting_plainEntry (name : String) : (plainEntry name).Lasting := by
  refine .of_members (by simp only [List.map_cons, List.map_nil]; decide) ?_
  simp only [List.map_cons, List.map_nil, List.forall_mem_cons]
  exact ⟨⟨by decide, .of_text (Text.encode_ofString_isSome name)⟩,
    ⟨by decide, .of_text (by decide)⟩, ⟨by decide, .of_text rfl⟩,
    ⟨by decide, .of_members List.nodup_nil (List.forall_mem_nil _)⟩, List.forall_mem_nil _⟩

/-- The unit of the working directory is there. -/
theorem text?_plainFiles : plainFiles.text? (unitPath (Text.ofString "s") (Text.ofString "u")) =
    some (Text.ofString "pass\n") := by
  decide +kernel

/-- The entries of the working directory describe items. -/
theorem describes_plainEntry (name : String) :
    Describes plainFiles (Text.ofString "s") (plainEntry name) (plainItem name) where
  name := rfl
  description := rfl
  schema := rfl
  unit := ⟨Text.ofString "u", rfl, ⟨by decide, by decide, by decide, by decide⟩, by rfl,
    text?_plainFiles⟩
  encodes := ⟨Text.encode_ofString_isSome name, rfl, Text.encode_ofString_isSome "pass\n"⟩

/-- The manifest of the working directory is read. -/
theorem document?_plainFiles :
    plainFiles.document? (Workplace.manifestIn (Workplace.tools ++ [Text.ofString "s"])) =
      some (.array [plainEntry "a", plainEntry "b"]) := by
  have hlasting : ∀ v ∈ [plainEntry "a", plainEntry "b"], v.Lasting := by
    simp only [List.forall_mem_cons]
    exact ⟨lasting_plainEntry "a", lasting_plainEntry "b", List.forall_mem_nil _⟩
  have hencodable : (Json.array [plainEntry "a", plainEntry "b"]).Encodable :=
    .of_items trivial fun v hv => (hlasting v hv).encodable
  obtain ⟨bytes, hbytes⟩ := Option.isSome_iff_exists.mp (Json.encode_fileText.mpr hencodable)
  refine Tree.Holds.document? ⟨bytes, hbytes, ?_⟩
    (.of_items trivial fun v hv => (hlasting v hv).regular)
    (.of_items trivial fun v hv => (hlasting v hv).stable) (by decide)
  have hread : plainFiles.read (Workplace.manifestIn (Workplace.tools ++ [Text.ofString "s"])) =
      .ok ((Json.array [plainEntry "a", plainEntry "b"]).fileText.encode.getD []) := by
    rfl
  rw [hread, hbytes]
  rfl

/-- The working directory is prepared. -/
theorem isPrepared_plainFiles : IsPrepared plainFiles
    [(Text.ofString "s", [plainItem "a", plainItem "b"])]
    [(Text.ofString "published", .object []), (Text.ofString "lastRun", .null)] [] where
  root := rfl
  lists := by
    have hdirectories : directories plainFiles = [Text.ofString "s"] := by decide +kernel
    rw [hdirectories]
    exact .take ⟨by decide, by decide, by decide, by decide⟩ ⟨by rfl, _, document?_plainFiles,
      .cons (describes_plainEntry "a") (.cons (describes_plainEntry "b") .nil)⟩ .nil
  record := ⟨.inl ⟨by rfl, rfl⟩, rfl⟩
  encodable := lasting_emptyState.encodable

/-- The tools of the registry in memory are a store. -/
theorem isStore_plainWorld :
    IsStore Registry.Memory.client (Registry.Memory.tools plainWorld.sent) where
  names := by
    have hall : ∀ tool ∈ Registry.Memory.tools plainWorld.sent, (nameOf? tool).isSome = true := by
      decide +kernel
    exact ⟨hall, by decide +kernel⟩
  ids := Registry.Memory.exists_id (by decide)

/-- In the working directory a run deletes the outdated tool, changes the other one and creates a
third, and a second run leaves them. -/
theorem run_idempotent_plainWorld : ∃ result w' result' w'' requests,
    run Registry.Memory.client ticking plainWorld = .ok result w' ∧
    InLine (Registry.Memory.tools plainWorld.sent) [plainItem "a", plainItem "b"]
      (Registry.Memory.tools w'.sent) ∧
    result.failed = 0 ∧
    run Registry.Memory.client ticking w' = .ok result' w'' ∧
    w''.sent = w'.sent ++ requests ∧
    (∀ request ∈ requests,
      request.method = Text.ofString "GET" ∨ request.method = Text.ofString "PUT") ∧
    result'.created = 0 ∧
    (Registry.Memory.tools w''.sent).Perm (Registry.Memory.tools w'.sent) := by
  exact run_idempotent Registry.Memory.serves_client isStore_plainWorld isPrepared_plainFiles
    (by decide +kernel) encodes_ticking encodes_ticking

end Toolsmith.Publish
