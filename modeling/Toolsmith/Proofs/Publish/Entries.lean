import Toolsmith.Proofs.Publish.Orders

/-!
# Entries of manifests

A run of publishing takes the entries of all manifests one after another, in the order of the
directories' names. The registry is asked for its tools twice, before and after outdated ones have
been deleted; what has to be deleted and what is known by name follow from its answers.
-/

namespace Toolsmith

/-- What is not there cannot be read. -/
theorem Tree.text?_of_not_exists {tree : Tree} {path : Path} (h : tree.exists? path = .ok false) :
    tree.text? path = none := by
  unfold exists? find? at h
  unfold text? read
  cases hlocate : tree.locate path with
  | error fault => rfl
  | ok place =>
    rw [hlocate] at h
    cases hget : tree.get? place with
    | none => simp only [hget]
    | some entry =>
      simp only [Except.map, hget] at h
      cases h

namespace Publish

variable {client : Registry.Client} {clock : Clock} {w w' : World}

/-- The entries of a manifest; only a list has any. -/
def itemsOf : Json → List Json
  | .array entries => entries
  | _ => []

/-- The entries of the manifest in a directory of tools, with the directory. -/
def entriesIn (files : Tree) (directory : Text) : List (Text × Json) :=
  let manifest := files.document? (Workplace.manifestIn (Workplace.tools ++ [directory]))
  (itemsOf (manifest.getD .null)).map (Prod.mk directory)

/-- The entries of all manifests in order, with their directories. -/
def entries (files : Tree) : List (Text × Json) :=
  (directories files).flatMap (entriesIn files)

/-- The names of entries, in order. -/
def entryNames (entries : List (Text × Json)) : List Json :=
  entries.filterMap fun e => e.2.get? (Text.ofString "name")

/-- The entries of a manifest are those of its list. -/
theorem eq_itemsOf {manifest : Json} {entries : List Json} (h : entriesOf manifest = .ok entries) :
    entries = itemsOf manifest := by
  unfold entriesOf at h
  split at h
  all_goals cases h
  all_goals rfl

/-- The names of the entries of a manifest are under the same key. -/
theorem eq_of_namesOf {entries names : List Json} (h : namesOf entries = .ok names) :
    names.map some = entries.map (Json.get? (Text.ofString "name")) := by
  induction entries generalizing names with
  | nil =>
    cases h
    rfl
  | cons entry entries ih =>
    unfold namesOf at h ih
    rw [List.mapM_cons] at h
    cases hname : nameOf entry with
    | error fault =>
      rw [hname] at h
      cases h
    | ok name =>
      cases hrest : entries.mapM nameOf with
      | error fault =>
        rw [hname, hrest] at h
        cases h
      | ok rest =>
        rw [hname, hrest] at h
        cases h
        have hentry : need "name" entry = .ok name := by
          unfold nameOf at hname
          cases hneed : need "name" entry with
          | error fault =>
            rw [hneed] at hname
            cases hname
          | ok other =>
            rw [hneed] at hname
            have hname : (if other.isKey then Except.ok other else .error Fault.wrongShape) =
                Except.ok name := hname
            split at hname
            · exact hname
            · cases hname
        rw [List.map_cons, List.map_cons, ih hrest, need_eq_ok_iff.mp hentry]

/-- The entries and names of manifests, as they are listed. -/
theorem eq_of_listings {documents : List (Text × Json)} {found : List Listing} {names : List Json}
    (h : listings documents = .ok (found, names)) :
    found = documents.map (fun d => (d.1, itemsOf d.2)) ∧
      names.map some = (documents.flatMap fun d => itemsOf d.2).map
        (Json.get? (Text.ofString "name")) := by
  induction documents generalizing found names with
  | nil =>
    cases h
    exact ⟨rfl, rfl⟩
  | cons d documents ih =>
    obtain ⟨directory, manifest⟩ := d
    rw [listings] at h
    cases hentries : entriesOf manifest with
    | error fault =>
      rw [hentries] at h
      cases h
    | ok entries =>
      rw [hentries] at h
      change (namesOf entries >>= _) = _ at h
      cases hnames : namesOf entries with
      | error fault =>
        rw [hnames] at h
        cases h
      | ok first =>
        rw [hnames] at h
        change (listings documents >>= _) = _ at h
        cases hrest : listings documents with
        | error fault =>
          rw [hrest] at h
          cases h
        | ok more =>
          rw [hrest] at h
          cases h
          obtain ⟨hfound, hmore⟩ := ih hrest
          obtain rfl := eq_itemsOf hentries
          refine ⟨by rw [List.map_cons, hfound], ?_⟩
          rw [List.flatMap_cons, List.map_append, List.map_append, hmore, eq_of_namesOf hnames]

/-- The manifests of directories are read without a change, and have their entries. -/
theorem eq_of_readManifests {directories : List Text} {documents : List (Text × Json)}
    (h : readManifests directories w = .ok documents w') :
    w' = w ∧ (documents.flatMap fun d => (itemsOf d.2).map (Prod.mk d.1)) =
      directories.flatMap (entriesIn w.files) := by
  induction directories generalizing documents with
  | nil =>
    obtain ⟨rfl, rfl⟩ := Action.pure_eq_ok.mp h
    exact ⟨rfl, rfl⟩
  | cons directory directories ih =>
    obtain ⟨there, v, hasked, h⟩ := Action.bind_eq_ok.mp h
    obtain ⟨hthere, rfl⟩ := Action.fileExists_eq_ok.mp hasked
    cases there with
    | true =>
      obtain ⟨manifest, v, hread, h⟩ := Action.bind_eq_ok.mp h
      obtain ⟨hmanifest, rfl⟩ := Action.readDocument_eq_ok_document?.mp hread
      obtain ⟨more, v, hmore, h⟩ := Action.bind_eq_ok.mp h
      obtain ⟨rfl, rfl⟩ := Action.pure_eq_ok.mp h
      obtain ⟨rfl, hentries⟩ := ih hmore
      refine ⟨rfl, ?_⟩
      rw [List.flatMap_cons, List.flatMap_cons, hentries, entriesIn, hmanifest, Option.getD_some]
    | false =>
      obtain ⟨rfl, hentries⟩ := ih h
      refine ⟨rfl, ?_⟩
      have hnone : entriesIn w'.files directory = [] := by
        rw [entriesIn, Tree.document?, Tree.text?_of_not_exists hthere]
        rfl
      rw [List.flatMap_cons, hnone, List.nil_append, hentries]

/-- The manifests are those of the directories of tools. -/
theorem manifests_eq_readManifests (w : World) :
    manifests w = readManifests (directories w.files) w := by
  rw [manifests, Action.get_bind, directories]
  split <;> rfl

/-- What is listed are the entries of all manifests, and their names. -/
theorem eq_of_manifests {documents : List (Text × Json)} {found : List Listing} {names : List Json}
    (h : manifests w = .ok documents w') (hlistings : listings documents = .ok (found, names)) :
    w' = w ∧ (found.flatMap fun l => l.2.map (Prod.mk l.1)) = entries w.files ∧
      names.map some = (entries w.files).map fun e => e.2.get? (Text.ofString "name") := by
  rw [manifests_eq_readManifests] at h
  obtain ⟨rfl, hentries⟩ := eq_of_readManifests h
  obtain ⟨rfl, hnames⟩ := eq_of_listings hlistings
  have hsecond : (documents.flatMap fun d => itemsOf d.2) = (entries w'.files).map Prod.snd := by
    rw [entries, ← hentries, List.map_flatMap]
    simp [Function.comp_def]
  refine ⟨rfl, by rw [List.flatMap_map]; exact hentries, ?_⟩
  rw [hnames, hsecond, List.map_map]
  rfl

/-- The names of entries that all have one. -/
theorem entryNames_eq {entries : List (Text × Json)} {names : List Json}
    (h : names.map some = entries.map fun e => e.2.get? (Text.ofString "name")) :
    entryNames entries = names := by
  have hmap : entryNames entries =
      (entries.map fun e => e.2.get? (Text.ofString "name")).filterMap id := by
    rw [List.filterMap_map]
    rfl
  rw [hmap, ← h, List.filterMap_map]
  simp

/-- Publishes the tools of entries in their directories. -/
def publishAll (client : Registry.Client) (clock : Clock) (progress : Progress) :
    List (Text × Json) → Action Progress
  | [] => pure progress
  | (directory, entry) :: rest => do
    publishAll client clock (← publishEntry client clock directory progress entry) rest

/-- The entries of one directory are published before those of the ones after it. -/
theorem publishAll_append (client : Registry.Client) (clock : Clock) (directory : Text)
    (progress : Progress) (entries : List Json) (rest : List (Text × Json)) :
    publishAll client clock progress (entries.map (Prod.mk directory) ++ rest) =
      (do
        publishAll client clock (← publishEntries client clock directory progress entries) rest) := by
  induction entries generalizing progress with
  | nil => rfl
  | cons entry entries ih =>
    rw [publishEntries, bind_assoc]
    exact bind_congr fun progress => ih progress

/-- The tools of manifests are published entry by entry. -/
theorem publishListings_eq_publishAll (client : Registry.Client) (clock : Clock)
    (progress : Progress) (found : List Listing) :
    publishListings client clock progress found =
      publishAll client clock progress (found.flatMap fun l => l.2.map (Prod.mk l.1)) := by
  induction found generalizing progress with
  | nil => rfl
  | cons listing found ih =>
    obtain ⟨directory, entries⟩ := listing
    rw [publishListings, List.flatMap_cons, publishAll_append]
    exact bind_congr fun progress => ih progress

/-- A run that stops at an entry has published those before it. -/
theorem publishAll_eq_error {progress : Progress} {entries : List (Text × Json)} {fault : Fault}
    (h : publishAll client clock progress entries w = .error fault w') :
    ∃ done directory entry rest middle v, entries = done ++ (directory, entry) :: rest ∧
      publishAll client clock progress done w = .ok middle v ∧
      publishEntry client clock directory middle entry v = .error fault w' := by
  induction entries generalizing progress w with
  | nil => cases h
  | cons first entries ih =>
    obtain ⟨directory, entry⟩ := first
    rcases Action.bind_eq_error.mp h with hentry | ⟨middle, v, hentry, hrest⟩
    · exact ⟨[], directory, entry, entries, progress, w, rfl, rfl, hentry⟩
    · obtain ⟨done, directory', entry', rest, last, u, rfl, hdone, hstop⟩ := ih hrest
      exact ⟨(directory, entry) :: done, directory', entry', rest, last, u, rfl,
        Action.bind_eq_ok.mpr ⟨middle, v, hentry, hdone⟩, hstop⟩

/-- A request for all tools that was answered with a list of them. -/
structure Tells (client : Registry.Client) (e : Exchange) (tools : List Json) : Prop where
  puts : ∃ url, Registry.Puts client (Text.ofString "GET") Registry.toolsWay none url e.request
  status : e.hasStatus [200] = true
  content : e.content? = some (.array tools)

/-- The tools of the registry are those that it tells, at a URL of a kind. -/
theorem tells_of_existingTools {tools : List Json} (h : existingTools client w = .ok tools w') :
    ∃ e, Tells client e tools ∧ Registry.Talks client [e] w w' ∧ w'.files = w.files ∧
      ∃ url, client.target Registry.toolsWay = .ok url ∧ url.hasKind = true := by
  obtain ⟨url, request, hputs, hreading, rfl⟩ :=
    Registry.ask_eq_ok.mp (existingTools_eq_ok.mp h)
  obtain ⟨hkind, body, hreply, hcontent⟩ := Registry.reading_eq_answered.mp hreading
  refine ⟨⟨request, client.network w.sent request⟩, ⟨⟨url, hputs⟩, ?_, ?_⟩,
    Registry.talks_sentOne client w request, rfl, url, hputs.target, hkind⟩
  · simp [Exchange.hasStatus, hreply]
  · simp [Exchange.content?, hreply, hcontent, Except.toOption]

/-- A tool of the registry that is to be deleted where manifests have names: its own name is a text
of the shape of generated ones, and it is neither kept nor among the names. -/
def isOutdated (names : List Json) (tool : Json) : Bool :=
  match tool.get? (Text.ofString "name") with
  | some (.text name) =>
    Naming.isGenerated name && !kept.any (Json.text name).sameKey &&
      !names.any (Json.text name).sameKey
  | _ => false

/-- A name that can be looked up is among names if it is the same key as one of them. -/
theorem isAmong_eq_ok {names : List Json} {name : Json} {b : Bool}
    (h : isAmong names name = .ok b) : names.any name.sameKey = b := by
  unfold isAmong at h
  split at h
  · cases h
    rfl
  · cases h

/-- A tool is left because its name is among the kept or the new ones, or else it is judged by its
name. -/
theorem isDoomed_object_eq_ok {names : List Json} {members : Members} {b : Bool}
    (h : isDoomed kept names (.object members) = .ok b) :
    let name := Members.get? members (Text.ofString "name")
    let listed := kept.any (name.getD .null).sameKey || names.any (name.getD .null).sameKey
    (listed = true ∧ b = false) ∨ (listed = false ∧ isGeneratedName name = .ok b) := by
  intro name listed
  change (isAmong kept (name.getD .null) >>= fun first => _) = _ at h
  cases hkept : isAmong kept (name.getD .null) with
  | error fault =>
    rw [hkept] at h
    cases h
  | ok first =>
    rw [hkept] at h
    have hfirst : listed = (first || names.any (name.getD .null).sameKey) := by
      rw [← isAmong_eq_ok hkept]
    cases first with
    | true =>
      cases h
      exact .inl ⟨hfirst, rfl⟩
    | false =>
      change (isAmong names (name.getD .null) >>= fun second => _) = _ at h
      cases hnames : isAmong names (name.getD .null) with
      | error fault =>
        rw [hnames] at h
        cases h
      | ok second =>
        rw [hnames] at h
        rw [isAmong_eq_ok hnames, Bool.false_or] at hfirst
        cases second with
        | true =>
          cases h
          exact .inl ⟨hfirst, rfl⟩
        | false => exact .inr ⟨hfirst, h⟩

/-- Only outdated tools are to be deleted. -/
theorem isDoomed_eq_ok {names : List Json} {tool : Json} {b : Bool}
    (h : isDoomed kept names tool = .ok b) : b = isOutdated names tool := by
  cases tool with
  | object members =>
    have hget : (Json.object members).get? (Text.ofString "name") =
        Members.get? members (Text.ofString "name") := rfl
    have hcases := isDoomed_object_eq_ok h
    unfold isOutdated
    rw [hget]
    cases hname : Members.get? members (Text.ofString "name") with
    | none =>
      rw [hname] at hcases
      rcases hcases with ⟨-, rfl⟩ | ⟨-, hgenerated⟩
      · rfl
      · cases hgenerated
        rfl
    | some name =>
      rw [hname] at hcases
      cases name with
      | text t =>
        rcases hcases with ⟨hlisted, rfl⟩ | ⟨hlisted, hgenerated⟩
        · rcases Bool.or_eq_true _ _ |>.mp hlisted with hlisted | hlisted
          · simp only [Option.getD_some] at hlisted
            simp [hlisted]
          · simp only [Option.getD_some] at hlisted
            simp [hlisted]
        · obtain ⟨hkept, hnames⟩ := Bool.or_eq_false_iff.mp hlisted
          simp only [Option.getD_some] at hkept hnames
          cases hgenerated
          simp [hkept, hnames]
      | _ =>
        rcases hcases with ⟨-, rfl⟩ | ⟨-, hgenerated⟩
        · rfl
        · cases hgenerated
  | _ => cases h

/-- What is to be deleted are the outdated tools, in order. -/
theorem doomed_eq_ok {names tools doomed : List Json}
    (h : Publish.doomed kept names tools = .ok doomed) :
    doomed = tools.filter (isOutdated names) := by
  induction tools generalizing doomed with
  | nil =>
    cases h
    rfl
  | cons tool tools ih =>
    rw [Publish.doomed] at h
    cases htool : isDoomed kept names tool with
    | error fault =>
      rw [htool] at h
      cases h
    | ok delete =>
      rw [htool] at h
      change (Publish.doomed kept names tools >>= _) = _ at h
      cases hrest : Publish.doomed kept names tools with
      | error fault =>
        rw [hrest] at h
        cases h
      | ok more =>
        rw [hrest] at h
        cases h
        rw [List.filter_cons, ← isDoomed_eq_ok htool, ih hrest]

/-- A request for the deletion of a tool by its identifier. -/
def Deletes (client : Registry.Client) (tool : Json) (e : Exchange) : Prop :=
  ∃ id url, tool.get? (Text.ofString "id") = some id ∧
    Registry.Puts client (Text.ofString "DELETE") (Registry.toolWay id) none url e.request

/-- A deletion counts if it is answered with one of two statuses. -/
theorem deleted_count {url : Url} {e : Exchange} {answer : Registry.Answer}
    (h : Registry.reading url e.reply = .ok answer) (sofar : Deletions) :
    (sofar.count answer).deleted = sofar.deleted + if e.hasStatus [200, 204] then 1 else 0 := by
  cases answer with
  | unreachable message =>
    rw [Registry.reading_eq_unreachable] at h
    simp [Deletions.count, Exchange.hasStatus, h]
  | answered status content =>
    obtain ⟨-, body, hreply, -⟩ := Registry.reading_eq_answered.mp h
    by_cases hstatus : status = 200 ∨ status = 204
    · simp [Deletions.count, Exchange.hasStatus, hreply, hstatus]
    · simp [Deletions.count, Exchange.hasStatus, hreply, hstatus]

/-- Every tool to be deleted is asked for once, whatever has been answered before. -/
theorem deleteAll_eq_ok {tools : List Json} {sofar deletions : Deletions}
    (h : deleteAll client sofar tools w = .ok deletions w') :
    ∃ log, List.Forall₂ (Deletes client) tools log ∧ Registry.Talks client log w w' ∧
      w'.files = w.files ∧
      deletions.deleted = sofar.deleted + log.countP fun e => e.hasStatus [200, 204] := by
  induction tools generalizing sofar w with
  | nil =>
    obtain ⟨rfl, rfl⟩ := Action.pure_eq_ok.mp h
    exact ⟨[], .nil, .of_sent_eq rfl, rfl, rfl⟩
  | cons tool tools ih =>
    obtain ⟨id, v, hneed, h⟩ := Action.bind_eq_ok.mp h
    obtain ⟨hid, rfl⟩ := Action.ofExcept_eq_ok.mp hneed
    obtain ⟨answer, v', hask, hrest⟩ := Action.bind_eq_ok.mp h
    obtain ⟨url, request, hputs, hreading, rfl⟩ := Registry.ask_eq_ok.mp hask
    obtain ⟨log, hlog, htalks, hfiles, hdeleted⟩ := ih hrest
    have hcount := deleted_count (e := ⟨request, client.network w.sent request⟩) hreading sofar
    refine ⟨⟨request, client.network w.sent request⟩ :: log,
      .cons ⟨id, url, need_eq_ok_iff.mp hid, hputs⟩ hlog,
      (Registry.talks_sentOne client w request).trans htalks, hfiles, ?_⟩
    rw [hdeleted, hcount, List.countP_cons]
    omega

/-- A tool under its name, if it has one. -/
def named? (tool : Json) : Option (Json × Json) :=
  (tool.get? (Text.ofString "name")).map fun name => (name, tool)

/-- A tool that can be asked for its name is known under it. -/
theorem named_eq_ok {tool : Json} {pair? : Option (Json × Json)} (h : named tool = .ok pair?) :
    pair? = named? tool := by
  cases tool with
  | object members =>
    have hget : (Json.object members).get? (Text.ofString "name") =
        Members.get? members (Text.ofString "name") := rfl
    simp only [named] at h
    rw [named?, hget]
    split at h
    · rename_i name hname
      rw [hname]
      split at h
      · cases h
        rfl
      · cases h
    · rename_i hname
      cases h
      rw [hname]
      rfl
  | array items =>
    simp only [named] at h
    split at h
    · cases h
    · cases h
      rfl
  | text t =>
    simp only [named] at h
    split at h
    · cases h
    · cases h
      rfl
  | _ => cases h

/-- All tools with names are known by name, the last first. -/
theorem byName_eq_ok {sofar known : List (Json × Json)} {tools : List Json}
    (h : byName sofar tools = .ok known) : known = (tools.filterMap named?).reverse ++ sofar := by
  induction tools generalizing sofar with
  | nil =>
    cases h
    rfl
  | cons tool tools ih =>
    rw [byName] at h
    cases hnamed : named tool with
    | error fault =>
      rw [hnamed] at h
      cases h
    | ok pair? =>
      rw [hnamed] at h
      obtain rfl := named_eq_ok hnamed
      rw [List.filterMap_cons]
      cases hpair : named? tool with
      | none =>
        rw [hpair] at h
        exact ih h
      | some pair =>
        rw [hpair] at h
        rw [ih h, List.reverse_cons, List.append_assoc, List.singleton_append]

end Publish

end Toolsmith
