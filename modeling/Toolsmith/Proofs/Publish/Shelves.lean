import Toolsmith.Proofs.Generate.Agreement
import Toolsmith.Proofs.Generate.Locality
import Toolsmith.Proofs.Publish.Entries

/-!
# What stands in the directory of tools

The directory of tools holds a directory with a manifest for every service whose tools have been
made, and the summary of the last generation. A generation puts the manifests of its services with
tools in the place of those with the same names, and leaves all others.
-/

namespace Toolsmith.Publish

variable {services : List Service} {before after : Tree}

/-- Manifests by the names of their directories. -/
abbrev Shelf := List (Text × Json)

namespace Shelf

/-- The names of the directories. -/
def names (shelf : Shelf) : List Text :=
  shelf.map Prod.fst

/-- The manifests of the services whose tools are made, by key. -/
def ofServices (files : Tree) (services : List Service) : Shelf :=
  (Generate.listed files services).map fun made => (made.1.key, Tool.manifest made.2)

/-- The old manifests under names under which there are no new ones. -/
def others (new old : Shelf) : Shelf :=
  old.filter fun entry => !new.names.contains entry.1

/-- New manifests, and the old ones under other names. -/
def restock (new old : Shelf) : Shelf :=
  new ++ others new old

/-- The manifests in the order of their names. -/
def inOrder (shelf : Shelf) : Shelf :=
  shelf.mergeSort fun entry other => Text.precedes entry.1 other.1

/-- The names of services with tools are their keys. -/
theorem mem_names_ofServices {files : Tree} {name : Text} :
    name ∈ (ofServices files services).names ↔
      ∃ made ∈ Generate.listed files services, made.1.key = name := by
  rw [names, ofServices, List.map_map, List.mem_map]
  rfl

/-- An old manifest stays if there is no new one under its name. -/
theorem mem_others {new old : Shelf} {entry : Text × Json} :
    entry ∈ others new old ↔ entry ∈ old ∧ entry.1 ∉ new.names := by
  rw [others, List.mem_filter, Bool.not_eq_true', ← Bool.not_eq_true, List.contains_iff_mem]

/-- No old manifest stays exactly if there are new ones under all their names. -/
theorem others_eq_nil {new old : Shelf} :
    others new old = [] ↔ ∀ name ∈ old.names, name ∈ new.names := by
  simp [List.eq_nil_iff_forall_not_mem, mem_others, names]

/-- A name stands on a restocked shelf if it is new or was there before. -/
theorem mem_names_restock {new old : Shelf} {name : Text} :
    name ∈ (restock new old).names ↔ name ∈ new.names ∨ name ∈ old.names := by
  rw [restock, names, List.map_append, List.mem_append]
  constructor
  · rintro (hnew | hold)
    · exact .inl hnew
    · obtain ⟨entry, hentry, rfl⟩ := List.mem_map.mp hold
      exact .inr (List.mem_map_of_mem (mem_others.mp hentry).1)
  · intro hname
    by_cases hnew : name ∈ new.names
    · exact .inl hnew
    · obtain ⟨entry, hentry, rfl⟩ := List.mem_map.mp (hname.resolve_left hnew)
      exact .inr (List.mem_map_of_mem (mem_others.mpr ⟨hentry, hnew⟩))

/-- The names on a restocked shelf are distinct if those of its parts are. -/
theorem nodup_names_restock {new old : Shelf} (hnew : new.names.Nodup) (hold : old.names.Nodup) :
    (restock new old).names.Nodup := by
  rw [restock, names, List.map_append]
  refine List.nodup_append.mpr ⟨hnew, hold.sublist (List.filter_sublist.map _), ?_⟩
  rintro name hname _ hother rfl
  obtain ⟨entry, hentry, rfl⟩ := List.mem_map.mp hother
  exact (mem_others.mp hentry).2 hname

/-- The names of services with different keys are distinct. -/
theorem nodup_names_ofServices (files : Tree) (hkeys : (services.map Service.key).Nodup) :
    (ofServices files services).names.Nodup := by
  rw [names, ofServices, List.map_map]
  exact List.pairwise_map.mpr (Generate.pairwise_listed files (List.pairwise_map.mp hkeys))

end Shelf

/-- A directory of tools in which exactly the directories of a shelf stand, with its manifests, and
maybe the summary of a generation. -/
structure Stocks (files : Tree) (shelf : Shelf) : Prop where
  nodup : shelf.names.Nodup
  component : ∀ entry ∈ shelf, Path.IsComponent entry.1
  there : ∀ entry ∈ shelf, files.isDirectory (Workplace.tools ++ [entry.1]) = true
  manifest : ∀ entry ∈ shelf,
    files.document? (Workplace.manifestIn (Workplace.tools ++ [entry.1])) = some entry.2
  only : ∀ name, (files.get? (Workplace.tools ++ [name])).isSome = true →
    name ∈ shelf.names ∨ Workplace.tools ++ [name] = Workplace.summary
  summary : files.get? Workplace.summary ≠ some .directory

/-- The directory of an entry stands in the directory of tools, with its manifest. -/
structure Stands (files : Tree) (entry : Text × Json) : Prop where
  component : Path.IsComponent entry.1
  there : files.isDirectory (Workplace.tools ++ [entry.1]) = true
  manifest : files.document? (Workplace.manifestIn (Workplace.tools ++ [entry.1])) = some entry.2

/-- A directory stands where it stood if nothing of it has changed. -/
theorem Stands.of_get?_eq {entry : Text × Json} (h : Stands before entry)
    (hroom : after.room = before.room)
    (hdirectory : after.get? (Workplace.tools ++ [entry.1]) =
      before.get? (Workplace.tools ++ [entry.1]))
    (hmanifest : after.get? (Workplace.manifestIn (Workplace.tools ++ [entry.1])) =
      before.get? (Workplace.manifestIn (Workplace.tools ++ [entry.1]))) : Stands after entry := by
  have hdirect := isDirect_directory h.component
  refine ⟨h.component, (Tree.isDirectory_iff_of_get? hroom hdirect hdirectory).mpr h.there, ?_⟩
  rw [Tree.document?_congr fun _ =>
    Tree.read_congr hroom (Workplace.isDirect_manifestIn hdirect) hmanifest]
  exact h.manifest

/-- The manifest of a directory of tools is not the summary. -/
theorem manifestIn_ne_summary (name : Text) :
    Workplace.manifestIn (Workplace.tools ++ [name]) ≠ Workplace.summary := fun heq =>
  absurd (congrArg List.length heq) (by simp [Workplace.manifestIn, Workplace.summary])

namespace Stocks

variable {files : Tree} {shelf : Shelf}

/-- Each entry of the shelf stands in the directory of tools. -/
theorem stands (h : Stocks files shelf) {entry : Text × Json} (hentry : entry ∈ shelf) :
    Stands files entry :=
  ⟨h.component entry hentry, h.there entry hentry, h.manifest entry hentry⟩

/-- A directory of tools that holds a shelf, entry by entry. -/
theorem of_stands (hnodup : shelf.names.Nodup) (hstands : ∀ entry ∈ shelf, Stands files entry)
    (honly : ∀ name, (files.get? (Workplace.tools ++ [name])).isSome = true →
      name ∈ shelf.names ∨ Workplace.tools ++ [name] = Workplace.summary)
    (hsummary : files.get? Workplace.summary ≠ some .directory) : Stocks files shelf :=
  ⟨hnodup, fun entry hentry => (hstands entry hentry).component,
    fun entry hentry => (hstands entry hentry).there,
    fun entry hentry => (hstands entry hentry).manifest, honly, hsummary⟩

/-- The directory of an entry is not the summary. -/
theorem ne_summary (h : Stocks files shelf) {entry : Text × Json} (hentry : entry ∈ shelf) :
    Workplace.tools ++ [entry.1] ≠ Workplace.summary := by
  intro heq
  have hdirectory := h.there entry hentry
  rw [heq] at hdirectory
  exact h.summary ((Tree.isDirectory_eq_true Generate.isDirect_summary).mp hdirectory).2

/-- The directories of tools are those of the shelf. -/
theorem mem_directories (h : Stocks files shelf) {name : Text} :
    name ∈ directories files ↔ name ∈ shelf.names := by
  rw [mem_directories_iff]
  constructor
  · rintro ⟨-, hsome, hdirectory⟩
    rcases h.only name hsome with hname | hsummary
    · exact hname
    · rw [hsummary] at hdirectory
      have hthere := (Tree.isDirectory_eq_true Generate.isDirect_summary).mp hdirectory
      exact absurd hthere.2 h.summary
  · intro hname
    obtain ⟨entry, hentry, rfl⟩ := List.mem_map.mp hname
    have hdirect := isDirect_directory (h.component entry hentry)
    have hdirectory := h.there entry hentry
    obtain ⟨⟨-, hway⟩, hget⟩ := (Tree.isDirectory_eq_true hdirect).mp hdirectory
    have htools : files.isDirectory Workplace.tools = true := by
      refine (Tree.isDirectory_eq_true Workplace.isDirect_tools).mpr ⟨⟨?_, ?_⟩, ?_⟩
      · exact .mono ⟨by decide, by decide⟩ files.ample
      · exact fun place hplace hne => hway place (hplace.trans (List.prefix_append _ _)) fun heq =>
          absurd (heq ▸ hplace).length_le (by simp)
      · exact hway _ (List.prefix_append _ _) (by simp)
    exact ⟨htools, by rw [hget]; rfl, hdirectory⟩

/-- The manifests of directories on the shelf are read as they stand there. -/
theorem readManifests_eq {w : World} {entries : Shelf}
    (hcomponents : ∀ entry ∈ entries, Path.IsComponent entry.1)
    (h : ∀ entry ∈ entries,
      w.files.document? (Workplace.manifestIn (Workplace.tools ++ [entry.1])) = some entry.2) :
    readManifests entries.names w = .ok entries w := by
  induction entries with
  | nil => rfl
  | cons entry entries ih =>
    obtain ⟨hcomponent, hrestComponents⟩ := List.forall_mem_cons.mp hcomponents
    obtain ⟨hmanifest, hrest⟩ := List.forall_mem_cons.mp h
    have hdirect := Workplace.isDirect_manifestIn (isDirect_directory hcomponent)
    have hexists := Tree.exists?_of_document? hdirect hmanifest
    show readManifests (entry.1 :: Shelf.names entries) w = _
    rw [readManifests, Action.bind_of_ok (Action.fileExists_eq_ok.mpr ⟨hexists, rfl⟩), if_pos rfl]
    rw [Action.bind_of_ok (Action.readDocument_eq_ok_document?.mpr ⟨hmanifest, rfl⟩)]
    rw [Action.bind_of_ok (ih hrestComponents hrest)]
    rfl

/-- What is found to be published are the manifests of the shelf, in the order of their names. -/
theorem manifests_eq {w : World} (h : Stocks w.files shelf) :
    manifests w = .ok shelf.inOrder w := by
  have hmem : ∀ entry, entry ∈ shelf.inOrder ↔ entry ∈ shelf := fun entry => List.mem_mergeSort
  have hsorted : shelf.inOrder.Pairwise fun entry other =>
      Text.precedes entry.1 other.1 = true := by
    apply List.pairwise_mergeSort
    · exact fun _ _ _ => Text.precedes_trans
    · exact fun _ _ => Text.precedes_total _ _
  have hnodup : shelf.inOrder.names.Nodup :=
    ((List.mergeSort_perm shelf _).map Prod.fst).nodup_iff.mpr h.nodup
  have hdirectories : directories w.files = shelf.inOrder.names := by
    refine Text.eq_of_pairwise (pairwise_directories _) (List.pairwise_map.mpr hsorted)
      (nodup_directories w.files) hnodup fun name => ?_
    rw [h.mem_directories, Shelf.names, Shelf.names, List.mem_map, List.mem_map]
    simp only [hmem]
  rw [manifests_eq_readManifests, hdirectories]
  apply readManifests_eq
  · exact fun entry hentry => h.component entry ((hmem entry).mp hentry)
  · exact fun entry hentry => h.manifest entry ((hmem entry).mp hentry)

/-- What stands in the directory of tools does not depend on what stands elsewhere. -/
theorem of_get?_eq {files' : Tree} (h : Stocks files shelf) (hroom : files'.room = files.room)
    (hsame : ∀ place, Workplace.tools <+: place → files'.get? place = files.get? place) :
    Stocks files' shelf := by
  refine .of_stands h.nodup (fun entry hentry => ?_) (fun name hsome => ?_) ?_
  · refine (h.stands hentry).of_get?_eq hroom (hsame _ (List.prefix_append _ _)) ?_
    exact hsame _ (by rw [Workplace.manifestIn, List.append_assoc]; exact List.prefix_append _ _)
  · rw [hsame _ (List.prefix_append _ _)] at hsome
    exact h.only name hsome
  · rw [hsame Workplace.summary (List.prefix_append _ _)]
    exact h.summary

end Stocks

/-- A generation leaves the directories of tools as they are under the names for which it makes no
tools. -/
theorem get?_eq_of_generation (hcomponents : ∀ service ∈ services, Path.IsComponent service.key)
    (hchanges : Tree.Changes (fun place => place <+: Workplace.tools ∨
      (∃ service ∈ services, Workplace.toolsOf service <+: place) ∨ place = Workplace.summary)
      before after)
    (hdone : ∀ service ∈ services, Generate.IsDone before after service) {name : Text}
    (hname : name ∉ (Shelf.ofServices before services).names) {place : Path}
    (hplace : Workplace.tools ++ [name] <+: place) (hsummary : place ≠ Workplace.summary) :
    after.get? place = before.get? place := by
  by_cases hservice : ∃ service ∈ services, service.key = name
  · obtain ⟨service, hmem, rfl⟩ := hservice
    rw [← Workplace.toolsOf_eq (hcomponents service hmem)] at hplace
    have hservice := hdone service hmem
    unfold Generate.IsDone at hservice
    split at hservice
    · rename_i tools houtcome
      have hlisted := Generate.mem_listed.mpr ⟨hmem, houtcome⟩
      exact absurd (Shelf.mem_names_ofServices.mpr ⟨_, hlisted, rfl⟩) hname
    · exact hservice.elim
    · exact hservice place hplace
  · apply hchanges.frame
    rintro (hway | ⟨service, hmem, hbelow⟩ | heq)
    · exact absurd (hplace.trans hway).length_le (by simp)
    · rw [Workplace.toolsOf_eq (hcomponents service hmem)] at hbelow
      have hprefix := List.prefix_of_prefix_length_le hbelow hplace (by simp)
      have hpaths := hprefix.eq_of_length (by simp)
      exact hservice ⟨service, hmem, (List.cons.inj (List.append_cancel_left hpaths)).1⟩
    · exact hsummary heq

/-- What a generation has done for its services stands in the directory of tools. -/
theorem stands_of_isDone (hcomponents : ∀ service ∈ services, Path.IsComponent service.key)
    (hdone : ∀ service ∈ services, Generate.IsDone before after service) {entry : Text × Json}
    (hentry : entry ∈ Shelf.ofServices before services) : Stands after entry := by
  obtain ⟨⟨service, tools⟩, hmade, rfl⟩ := List.mem_map.mp hentry
  obtain ⟨hservice, houtcome⟩ := Generate.mem_listed.mp hmade
  have hkey := hcomponents service hservice
  obtain ⟨-, -, -, hmirrors, -, -, hmanifest⟩ :=
    Generate.mirrors_of_isDone houtcome (hdone service hservice)
  rw [Workplace.toolsOf_eq hkey] at hmirrors hmanifest
  exact ⟨hkey, hmirrors.there, hmanifest⟩

/-- After a generation that returns, its manifests stand in the directory of tools, and under other
names those that stood there before. -/
theorem Stocks.of_run {shelf : Shelf} {now : Text} {world world' : World}
    {summary : Generate.Summary} (h : Stocks world.files shelf)
    (hkeys : (services.map Service.key).Nodup)
    (hcomponents : ∀ service ∈ services, Path.IsComponent service.key)
    (hrun : Generate.run now services world = .ok summary world') :
    Stocks world'.files (Shelf.restock (.ofServices world.files services) shelf) := by
  obtain ⟨after, rfl, -, hchanges, hdone, -, hsummary⟩ :=
    Generate.run_spec hkeys hcomponents hrun
  have hsame : ∀ name, name ∉ (Shelf.ofServices world.files services).names → ∀ place,
      Workplace.tools ++ [name] <+: place → place ≠ Workplace.summary →
      after.get? place = world.files.get? place :=
    fun name hname place => get?_eq_of_generation hcomponents hchanges hdone hname
  refine .of_stands (Shelf.nodup_names_restock (Shelf.nodup_names_ofServices _ hkeys) h.nodup) ?_
    (fun name hsome => ?_) ?_
  · refine List.forall_mem_append.mpr ⟨fun entry => stands_of_isDone hcomponents hdone, ?_⟩
    intro entry hentry
    obtain ⟨hmem, hother⟩ := Shelf.mem_others.mp hentry
    exact (h.stands hmem).of_get?_eq hchanges.keeps.room
      (hsame entry.1 hother _ List.prefix_rfl (h.ne_summary hmem))
      (hsame entry.1 hother _ (List.prefix_append _ _) (manifestIn_ne_summary entry.1))
  · rw [Shelf.mem_names_restock]
    by_cases hmade : name ∈ (Shelf.ofServices world.files services).names
    · exact .inl (.inl hmade)
    · by_cases hplace : Workplace.tools ++ [name] = Workplace.summary
      · exact .inr hplace
      · rw [hsame name hmade _ List.prefix_rfl hplace] at hsome
        exact (h.only name hsome).imp_left .inr
  · obtain ⟨bytes, -, hread⟩ := hsummary
    exact Tree.ne_directory_of_read Generate.isDirect_summary hread

end Toolsmith.Publish
