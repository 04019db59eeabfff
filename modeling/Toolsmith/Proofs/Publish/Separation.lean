import Mathlib.Data.List.Dedup
import Toolsmith.Proofs.Naming.Separation
import Toolsmith.Proofs.Publish.Fidelity

/-!
# Tools of different services in the registry

The registry tells tools apart by their names alone. After a run of publishing it has one tool for
every name in the manifests. That is one for every entry if the areas of the services are apart, but
versions of a service that have the same operations share the tools.
-/

namespace Toolsmith.Publish

open Naming (AreApart areaPart)
open Registry (HasNames toolNamed? nameOf? Serves)

variable {services : List Service} {items : List Item} {before after : List Members}

/-- The items of all services, in the order in which they are published. -/
def allItems (files : Tree) (services : List Service) : List Item :=
  (itemsByKey files services).flatMap Prod.snd

/-- The names of all items are those of the tools, service by service. -/
theorem map_name_allItems (files : Tree) (services : List Service) :
    (allItems files services).map Item.name =
      (Generate.listed files (byKey services)).flatMap fun made => made.2.map Tool.name := by
  rw [allItems, flatMap_itemsByKey, List.map_map, List.map_flatMap]
  rfl

/-- The names of all items are those of the tools, in whatever order the services come. -/
theorem perm_names_allItems (files : Tree) (services : List Service) :
    ((allItems files services).map Item.name).Perm
      ((Generate.listed files services).flatMap fun made => made.2.map Tool.name) := by
  rw [map_name_allItems]
  exact List.Perm.flatMap_right _ ((List.mergeSort_perm _ _).filterMap _)

/-- There are as many items as tools have been made. -/
theorem length_allItems (files : Tree) (services : List Service) :
    (allItems files services).length = Generate.count (Generate.listed files services) := by
  have hlength := (perm_names_allItems files services).length_eq
  simp only [List.length_map, List.length_flatMap] at hlength
  exact hlength

/-- The names of all items are distinct if the areas of the services are apart. -/
theorem nodup_names_allItems {files : Tree} (h : services.Pairwise AreApart) :
    ((allItems files services).map Item.name).Nodup := by
  have hbyKey : (byKey services).Pairwise AreApart :=
    ((List.mergeSort_perm services _).pairwise_iff AreApart.symm).mpr h
  rw [map_name_allItems, List.nodup_flatMap]
  refine ⟨fun made hmade => ?_, ?_⟩
  · obtain ⟨-, houtcome⟩ := Generate.mem_listed.mp hmade
    obtain ⟨document, -, hmade, -⟩ := Generate.outcome_eq_listed houtcome
    exact Tool.nodup_ofDocument hmade
  · refine (Generate.pairwise_listed files hbyKey).imp_of_mem fun hmade hother hapart => ?_
    have hpart : ∀ {made : Service × List Tool}, made ∈ Generate.listed files (byKey services) →
        ∀ name ∈ made.2.map Tool.name, areaPart made.1 <+: name := by
      intro made hmade name hname
      obtain ⟨-, houtcome⟩ := Generate.mem_listed.mp hmade
      obtain ⟨document, -, hmade, -⟩ := Generate.outcome_eq_listed houtcome
      obtain ⟨tool, htool, rfl⟩ := List.mem_map.mp hname
      exact Tool.areaPart_prefix hmade htool
    intro name hname hname'
    exact hapart.ne (hpart hmade name hname) (hpart hother name hname') rfl

/-- Two versions of a service have tools of the same names if they have the same document. -/
theorem not_nodup_names_of_versions {files : Tree} {made other : Service × List Tool}
    (hmade : made ∈ Generate.listed files services)
    (hother : other ∈ Generate.listed files services) (hne : made ≠ other)
    (hname : made.1.name = other.1.name) (hdisplayName : made.1.displayName = other.1.displayName)
    (hdocument : Generate.document? files made.1 = Generate.document? files other.1) :
    ¬((allItems files services).map Item.name).Nodup := by
  rw [(perm_names_allItems files services).nodup_iff, List.nodup_flatMap]
  rintro ⟨-, hdisjoint⟩
  obtain ⟨document, hfound, htools, hsome⟩ :=
    Generate.outcome_eq_listed (Generate.mem_listed.mp hmade).2
  obtain ⟨document', hfound', htools', -⟩ :=
    Generate.outcome_eq_listed (Generate.mem_listed.mp hother).2
  rw [hfound, hfound', Option.some.injEq] at hdocument
  subst hdocument
  rw [Tool.ofDocument_congr hname hdisplayName, htools', Except.ok.injEq] at htools
  obtain ⟨tool, htool⟩ := List.exists_mem_of_ne_nil _ hsome
  have hshared : tool.name ∈ made.2.map Tool.name := List.mem_map_of_mem htool
  have hshared' : tool.name ∈ other.2.map Tool.name := htools.symm ▸ hshared
  have hsymm : Std.Symm (Function.onFun List.Disjoint
      fun made : Service × List Tool => made.2.map Tool.name) := ⟨fun _ _ h => h.symm⟩
  exact hdisjoint.forall hmade hother hne hshared hshared'

/-- The tools of a registry that have names of items. -/
def carried (items : List Item) (tools : List Members) : List Members :=
  tools.filter fun tool => (nameOf? tool).any (items.map Item.name).contains

/-- In a store that is in line with items there is one tool for every name of an item. -/
theorem InLine.length_carried (h : InLine before items after) :
    (carried items after).length = (items.map Item.name).dedup.length := by
  have hnames : ((carried items after).map nameOf?).Nodup :=
    h.apart.distinct.sublist (List.filter_sublist.map nameOf?)
  have hdedup : ((items.map Item.name).dedup.map some).Nodup :=
    (List.nodup_dedup _).map (Option.some_injective _)
  have hperm : ((carried items after).map nameOf?).Perm ((items.map Item.name).dedup.map some) := by
    refine (List.perm_ext_iff_of_nodup hnames hdedup).mpr fun name? => ?_
    constructor
    · intro hmem
      obtain ⟨tool, htool, rfl⟩ := List.mem_map.mp hmem
      obtain ⟨name, hname, hitem⟩ := (Option.any_eq_true _ _).mp (List.mem_filter.mp htool).2
      rw [hname]
      exact List.mem_map_of_mem (List.mem_dedup.mpr (List.contains_iff_mem.mp hitem))
    · intro hmem
      obtain ⟨name, hname, rfl⟩ := List.mem_map.mp hmem
      have hitem := List.mem_dedup.mp hname
      obtain ⟨item, hpublished, rfl⟩ := List.mem_map.mp hitem
      obtain ⟨-, -, tool, -, hfound, -⟩ := h.published item hpublished
      obtain ⟨htool, hnameOf⟩ := Registry.mem_of_toolNamed? hfound
      refine List.mem_map.mpr ⟨tool, List.mem_filter.mpr ⟨htool, ?_⟩, hnameOf⟩
      rw [hnameOf]
      exact List.contains_iff_mem.mpr hitem
  have hlength := hperm.length_eq
  rwa [List.length_map, List.length_map] at hlength

/-- Where the names of items are distinct, each item is the last of its name. -/
theorem lastOf?_of_nodup (h : (items.map Item.name).Nodup) {p : Item × Nat}
    (hp : p ∈ items.zipIdx) : lastOf? items.zipIdx p.1.name = some p := by
  have hnodup : (items.zipIdx.map fun p => p.1.name).Nodup := by
    have hmap : (items.zipIdx.map fun p => p.1.name) =
        (items.zipIdx.map Prod.fst).map Item.name := by
      rw [List.map_map]
      rfl
    rwa [hmap, List.zipIdx_map_fst]
  cases hlast : lastOf? items.zipIdx p.1.name with
  | none => exact absurd rfl (lastOf?_eq_none.mp hlast p hp)
  | some q =>
    unfold lastOf? at hlast
    have hq : q ∈ items.zipIdx := List.mem_reverse.mp (List.mem_of_find?_eq_some hlast)
    have hname : q.1.name = p.1.name := by simpa using List.find?_some hlast
    rw [List.inj_on_of_nodup_map hnodup hq hp hname]

/-- A registry that has a tool of its own for each of some items, as the item has been sent. -/
structure HasEach (items : List Item) (tools : List Members) : Prop where
  own : ∀ p ∈ items.zipIdx, ∃ tool, toolNamed? tools p.1.name = some tool ∧
    Holds (p.1.members p.2) tool
  count : (carried items tools).length = items.length

/-- A store that is in line with items has a tool of its own for each exactly if no two of the items
share a name. -/
theorem InLine.hasEach_iff (h : InLine before items after) :
    HasEach items after ↔ (items.map Item.name).Nodup := by
  constructor
  · intro heach
    have hlength := heach.count
    rw [h.length_carried, ← List.length_map Item.name] at hlength
    exact List.dedup_eq_self.mp ((List.dedup_sublist _).eq_of_length hlength)
  · intro hdistinct
    refine ⟨fun p hp => ?_, ?_⟩
    · have hitem : p.1 ∈ items := List.fst_mem_of_mem_zipIdx hp
      obtain ⟨last, turn, tool, hlast, hfound, hholds, -⟩ := h.published p.1 hitem
      rw [lastOf?_of_nodup hdistinct hp, Option.some.injEq] at hlast
      subst hlast
      exact ⟨tool, hfound, hholds⟩
    · rw [h.length_carried, hdistinct.dedup, List.length_map]

section AfterGeneration

variable {client : Registry.Client} {store : List Request → List Members} {limit : Nat}
  {clock : Clock} {now : Text} {world world' : World} {summary : Generate.Summary}
  {members published : Members}

/-- The tools that a generation counts are the items. -/
theorem length_allItems_of_run (hkeys : (services.map Service.key).Nodup)
    (hcomponents : ∀ service ∈ services, Path.IsComponent service.key)
    (hgenerate : Generate.run now services world = .ok summary world') :
    (allItems world.files services).length = summary.tools := by
  obtain ⟨-, -, hsummary, -⟩ := Generate.run_spec hkeys hcomponents hgenerate
  rw [length_allItems, hsummary, Generate.foldl_addTo]
  exact (Nat.zero_add _).symm

/-- The manifests that are found after a generation in a directory of tools in which nothing stood
are those that it has made. -/
theorem manifests_of_run (hkeys : (services.map Service.key).Nodup)
    (hcomponents : ∀ service ∈ services, Path.IsComponent service.key)
    (hfresh : IsFresh world.files)
    (hgenerate : Generate.run now services world = .ok summary world') :
    manifests world' = .ok (Shelf.ofServices world.files services).inOrder world' := by
  have hstocks := (stocks_of_fresh hfresh).of_run hkeys hcomponents hgenerate
  obtain ⟨after, rfl, -⟩ := Generate.run_spec hkeys hcomponents hgenerate
  have hmanifests := hstocks.manifests_eq
  rwa [Shelf.restock, Shelf.others, List.filter_nil, List.append_nil] at hmanifests

-- The keys have to be components of paths: a manifest that stands deeper is not found.
example :
    let place := Workplace.tools ++ [Text.ofString "a", Text.ofString "b_v1"]
    let files : Tree := .ofEntries [([], .directory), (Workplace.tools, .directory),
      (Workplace.tools ++ [Text.ofString "a"], .directory), (place, .directory),
      (Workplace.manifestIn place, .ofString "[]")] (by decide) (by decide)
    Action.returns manifests (.ofFiles files) (fun found _ => found.isEmpty) = true := by
  decide +kernel

/-- Publishing to a store after such a generation returns, without a failure, and brings the store
in line with all items. -/
theorem exists_inLine_of_run (hkeys : (services.map Service.key).Nodup)
    (hcomponents : ∀ service ∈ services, Path.IsComponent service.key)
    (hfresh : IsFresh world.files) (hroot : world.files.get? [] = some .directory)
    (hrecord : HasRecord world.files members published)
    (hencodable : (Json.object members).Encodable)
    (hgenerate : Generate.run now services world = .ok summary world')
    (h : Serves client store limit) (hstore : IsStore client (store world'.sent))
    (hlimit : world'.sent.length + (store world'.sent).length + 2 + summary.tools ≤ limit)
    (hclock : clock.Encodes) :
    ∃ result world'', run client clock world' = .ok result world'' ∧ result.failed = 0 ∧
      InLine (store world'.sent) (allItems world.files services) (store world''.sent) := by
  have hprepared := isPrepared_of_run hkeys hcomponents hfresh hroot hrecord
    hencodable hgenerate
  have hlength := length_allItems_of_run hkeys hcomponents hgenerate
  have houtdated : (outdated (allItems world.files services) (store world'.sent)).length ≤
      (store world'.sent).length :=
    List.length_filter_le _ _
  have hroom : world'.sent.length +
      (outdated (allItems world.files services) (store world'.sent)).length + 2 +
        (allItems world.files services).length ≤ limit := by
    omega
  obtain ⟨result, world'', hrun, hsettles⟩ := exists_settles h hstore hprepared hroom hclock
  obtain ⟨middle, hmiddle, hsynced⟩ := hsettles.synced
  exact ⟨result, world'', hrun, hsettles.failed, inLine_of_synced hstore.names hmiddle hsynced⟩

/-- After a generation in a directory of tools in which nothing stood, its manifests are what is
published, and each of them has distinct names. If the areas of the services are apart, no two
entries of all the manifests share a name; two versions of a service with the same document do share
names. Publishing to a store leaves one tool for every name in the manifests: it has a tool of its
own for each entry exactly if no two of them share a name. -/
theorem run_tells_apart (hkeys : (services.map Service.key).Nodup)
    (hcomponents : ∀ service ∈ services, Path.IsComponent service.key)
    (hfresh : IsFresh world.files) (hroot : world.files.get? [] = some .directory)
    (hrecord : HasRecord world.files members published)
    (hencodable : (Json.object members).Encodable)
    (hgenerate : Generate.run now services world = .ok summary world')
    (h : Serves client store limit) (hstore : IsStore client (store world'.sent))
    (hlimit : world'.sent.length + (store world'.sent).length + 2 + summary.tools ≤ limit)
    (hclock : clock.Encodes) :
    manifests world' = .ok (Shelf.ofServices world.files services).inOrder world' ∧
      (∀ made ∈ Generate.listed world.files services, (made.2.map Tool.name).Nodup) ∧
      (services.Pairwise AreApart →
        ((allItems world.files services).map Item.name).Nodup) ∧
      (∀ made ∈ Generate.listed world.files services,
        ∀ other ∈ Generate.listed world.files services, made ≠ other →
          made.1.name = other.1.name → made.1.displayName = other.1.displayName →
          Generate.document? world.files made.1 = Generate.document? world.files other.1 →
          ¬((allItems world.files services).map Item.name).Nodup) ∧
      (allItems world.files services).length = summary.tools ∧
      ∃ result world'', run client clock world' = .ok result world'' ∧ result.failed = 0 ∧
        (carried (allItems world.files services) (store world''.sent)).length =
          ((allItems world.files services).map Item.name).dedup.length ∧
        (HasEach (allItems world.files services) (store world''.sent) ↔
          ((allItems world.files services).map Item.name).Nodup) := by
  obtain ⟨result, world'', hrun, hfailed, hinLine⟩ := exists_inLine_of_run hkeys hcomponents
    hfresh hroot hrecord hencodable hgenerate h hstore hlimit hclock
  refine ⟨manifests_of_run hkeys hcomponents hfresh hgenerate,
    fun made hmade => ?_, nodup_names_allItems,
    fun made hmade other hother => not_nodup_names_of_versions hmade hother,
    length_allItems_of_run hkeys hcomponents hgenerate,
    result, world'', hrun, hfailed, hinLine.length_carried, hinLine.hasEach_iff⟩
  obtain ⟨-, houtcome⟩ := Generate.mem_listed.mp hmade
  obtain ⟨document, -, htools, -⟩ := Generate.outcome_eq_listed houtcome
  exact Tool.nodup_ofDocument htools

end AfterGeneration

/-- A working directory with three schemas that have the same operation. -/
def twinFiles : Tree :=
  let file : Entry := .ofString "\x7b\"paths\": \x7b\"/a\": \x7b\"get\": \x7b\x7d\x7d\x7d\x7d"
  .ofEntries [([], .directory), (Workplace.schemas, .directory),
    (Workplace.schemas ++ [Text.ofString "tax_v1.json"], file),
    (Workplace.schemas ++ [Text.ofString "tax_v2.json"], file),
    (Workplace.schemas ++ [Text.ofString "pay_v1.json"], file)]
    (by decide) (by decide)

/-- Two versions of one service. -/
def taxVersions : List Service :=
  [.ofNameAndVersion (Text.ofString "tax") (Text.ofString "v1"),
    .ofNameAndVersion (Text.ofString "tax") (Text.ofString "v2")]

/-- Two services of one version. -/
def taxAndPay : List Service :=
  [.ofNameAndVersion (Text.ofString "tax") (Text.ofString "v1"),
    .ofNameAndVersion (Text.ofString "pay") (Text.ofString "v1")]

/-- The keys of the services are components of paths. -/
theorem isComponent_twins :
    ∀ service ∈ taxVersions ++ taxAndPay, Path.IsComponent service.key := by
  decide

/-- Nothing stands in the directory of tools. -/
theorem isFresh_twinFiles : IsFresh twinFiles :=
  isFresh_of_entries (by decide)

/-- The tools of some of the services can be generated. -/
theorem exists_run_twinFiles (hkeys : (services.map Service.key).Nodup)
    (hservices : ∀ service ∈ services, service ∈ taxVersions ++ taxAndPay) :
    ∃ summary world', Generate.run (Text.ofString "now") services (.ofFiles twinFiles) =
      .ok summary world' := by
  have hnamed : ∀ service ∈ taxVersions ++ taxAndPay, Generate.IsNamed service := by decide
  have hpasses : ∀ service ∈ taxVersions ++ taxAndPay, Generate.Passes twinFiles service := by
    decide +kernel
  have hcount :
      Generate.IsCount (Generate.count (Generate.listed twinFiles (taxVersions ++ taxAndPay))) := by
    unfold Generate.IsCount
    decide +kernel
  exact Generate.exists_run_of_none (by decide) hkeys hservices isComponent_twins hnamed rfl
    (by decide) isFresh_twinFiles hcount hpasses

/-- The store of an empty registry. -/
theorem isStore_nil : IsStore Registry.Memory.client (Registry.Memory.tools []) :=
  ⟨⟨List.forall_mem_nil _, List.nodup_nil⟩, List.forall_mem_nil _⟩

/-- The two versions of a service have different keys and the same operation, so their tools have
the same name. Two tools are made, and publishing them leaves one. -/
theorem shares_names_versions :
    ∃ summary world' result world'',
      (taxVersions.map Service.key).Nodup ∧
      Generate.run (Text.ofString "now") taxVersions (.ofFiles twinFiles) = .ok summary world' ∧
      summary.tools = 2 ∧
      manifests world' = .ok (Shelf.ofServices twinFiles taxVersions).inOrder world' ∧
      (allItems twinFiles taxVersions).map Item.name =
        List.replicate 2 (Text.ofString "Tax-A-GET-getA") ∧
      run Registry.Memory.client ticking world' = .ok result world'' ∧
      (carried (allItems twinFiles taxVersions) (Registry.Memory.tools world''.sent)).length = 1 ∧
      ¬HasEach (allItems twinFiles taxVersions) (Registry.Memory.tools world''.sent) := by
  have hkeys : (taxVersions.map Service.key).Nodup := by decide
  have hcomponents : ∀ service ∈ taxVersions, Path.IsComponent service.key :=
    fun service hservice => isComponent_twins service (List.mem_append_left _ hservice)
  obtain ⟨summary, world', hgenerate⟩ :=
    exists_run_twinFiles hkeys fun service hservice => List.mem_append_left _ hservice
  have hnames : (allItems twinFiles taxVersions).map Item.name =
      List.replicate 2 (Text.ofString "Tax-A-GET-getA") := by
    refine List.perm_replicate.mp ((perm_names_allItems _ _).trans (.of_eq ?_))
    decide +kernel
  have htools : summary.tools = 2 := by
    rw [← length_allItems_of_run hkeys hcomponents hgenerate,
      ← List.length_map Item.name]
    exact (congrArg List.length hnames).trans List.length_replicate
  have hmanifests := manifests_of_run hkeys hcomponents isFresh_twinFiles hgenerate
  obtain ⟨after, rfl, -⟩ := Generate.run_spec hkeys hcomponents hgenerate
  obtain ⟨result, world'', hrun, -, hinLine⟩ := exists_inLine_of_run hkeys hcomponents
    isFresh_twinFiles rfl ⟨.inl ⟨by rfl, rfl⟩, rfl⟩
    lasting_emptyState.encodable hgenerate Registry.Memory.serves_client isStore_nil
    (show 0 + 0 + 2 + summary.tools ≤ Registry.Memory.capacity by rw [htools]; decide)
    encodes_ticking
  refine ⟨summary, _, result, world'', hkeys, hgenerate, htools, hmanifests, hnames, hrun, ?_,
    fun heach => ?_⟩
  · exact hinLine.length_carried.trans (congrArg (List.length ∘ List.dedup) hnames)
  · have hdistinct := hinLine.hasEach_iff.mp heach
    have hnodup : (List.replicate 2 (Text.ofString "Tax-A-GET-getA")).Nodup := hnames ▸ hdistinct
    exact absurd hnodup (by decide)

/-- Publishing after a generation for two services with areas that are apart leaves a tool of its
own for each of their operations, although these are the same. -/
theorem tells_apart_taxAndPay :
    ∃ summary world' result world'',
      Generate.run (Text.ofString "now") taxAndPay (.ofFiles twinFiles) = .ok summary world' ∧
      summary.tools = 2 ∧
      run Registry.Memory.client ticking world' = .ok result world'' ∧
      HasEach (allItems twinFiles taxAndPay) (Registry.Memory.tools world''.sent) := by
  have hkeys : (taxAndPay.map Service.key).Nodup := by decide
  have hcomponents : ∀ service ∈ taxAndPay, Path.IsComponent service.key :=
    fun service hservice => isComponent_twins service (List.mem_append_right _ hservice)
  obtain ⟨summary, world', hgenerate⟩ :=
    exists_run_twinFiles hkeys fun service hservice => List.mem_append_right _ hservice
  have hcount : Generate.count (Generate.listed twinFiles taxAndPay) = 2 := by decide +kernel
  have htools : summary.tools = 2 := by
    rw [← length_allItems_of_run hkeys hcomponents hgenerate]
    exact (length_allItems _ _).trans hcount
  have hapart : taxAndPay.Pairwise AreApart :=
    List.pairwise_pair.mpr ⟨by decide, by decide⟩
  obtain ⟨after, rfl, -⟩ := Generate.run_spec hkeys hcomponents hgenerate
  obtain ⟨-, -, hnodup, -, -, result, world'', hrun, -, -, heach⟩ := run_tells_apart hkeys hcomponents
    isFresh_twinFiles rfl ⟨.inl ⟨by rfl, rfl⟩, rfl⟩
    lasting_emptyState.encodable hgenerate Registry.Memory.serves_client isStore_nil
    (show 0 + 0 + 2 + summary.tools ≤ Registry.Memory.capacity by rw [htools]; decide)
    encodes_ticking
  exact ⟨summary, _, result, world'', hgenerate, htools, hrun, heach.mpr (hnodup hapart)⟩

end Toolsmith.Publish
