import Toolsmith.Proofs.Catalog.Links
import Toolsmith.Proofs.Catalog.Persistence

/-!
# The index that is built

Whatever the directory replies, the index that is built lists some services: those that the page
links to, or the known ones. Their keys are distinct, so no two of them share a schema or a
directory of tools, and the index can be written and read back.
-/

namespace Toolsmith

/-- Strings with the same code points are the same. -/
theorem Text.ofString_injective : Function.Injective Text.ofString := by
  intro s t h
  have hpoints : Function.Injective CodePoint.char := fun _ _ heq => CodePoint.char.inj heq
  exact String.toList_inj.mp (hpoints.list_map h)

namespace Catalog

variable {w w' : World} {services : List Service}

/-- The services that an index lists after a reply: those of the links in the page, each at its
first place only, or the known ones if no page with links has come. -/
inductive Lists : Reply → List Service → Prop
  | linked {page : Text} {links : List (Text × Text)} (hfinds : Finds page links)
      (hne : links ≠ []) : Lists (.answer 200 page) (links.eraseDups.map ofLink)
  | known {reply : Reply}
      (hnone : ∀ page links, reply = .answer 200 page → Finds page links → links = []) :
      Lists reply known

/-- The names and versions of the known services. -/
def knownLinks : List (Text × Text) :=
  knownNames.map fun (name, version) => (Text.ofString name, Text.ofString version)

/-- The known services are those of their names and versions. -/
theorem known_eq : known = knownLinks.map ofLink := by
  rw [known, knownLinks, List.map_map]
  rfl

/-- The known services are the services of links, and their names are distinct. -/
theorem isLink_knownLinks : knownLinks.Nodup ∧ ∀ link ∈ knownLinks, IsLink link := by
  have hnames : (knownNames.map Prod.fst).Nodup := by decide +kernel
  have hlinks : knownLinks.map Prod.fst = (knownNames.map Prod.fst).map Text.ofString := by
    rw [knownLinks, List.map_map, List.map_map]
    rfl
  refine ⟨List.Nodup.of_map Prod.fst ?_, by decide +kernel⟩
  rw [hlinks]
  exact hnames.map Text.ofString_injective

/-- What an index lists are the services of distinct links, and at least one. -/
theorem Lists.exists_links {reply : Reply} (h : Lists reply services) :
    ∃ links, services = links.map ofLink ∧ links ≠ [] ∧ links.Nodup ∧
      ∀ link ∈ links, IsLink link := by
  cases h with
  | @linked page links hfinds hne =>
    refine ⟨links.eraseDups, rfl, fun hnil => hne ?_, Download.nodup_eraseDups links,
      fun link hlink => hfinds.isLink link (List.mem_eraseDups.mp hlink)⟩
    refine List.eq_nil_iff_forall_not_mem.mpr fun link hlink => ?_
    rw [← List.mem_eraseDups, hnil] at hlink
    cases hlink
  | known hnone => exact ⟨knownLinks, known_eq, by decide, isLink_knownLinks⟩

/-- A page is taken for an index exactly if it has come with the status of success and has links. -/
theorem linkedIn?_answer (status : Int) (page : Text) :
    linkedIn? (.answer status page) =
      if status = 200 ∧ linksAfter 0 page ≠ [] then some (linked page) else none := by
  simp only [linkedIn?, Bool.not_eq_true', List.isEmpty_eq_false_iff, ne_eq, linked_eq_nil]

/-- The services of a reply are those that its index lists. -/
theorem lists_linkedIn? (reply : Reply) : Lists reply ((linkedIn? reply).getD known) := by
  cases reply with
  | failure message => exact .known nofun
  | answer status page =>
    rw [linkedIn?_answer]
    by_cases hlinks : status = 200 ∧ linksAfter 0 page ≠ []
    · rw [if_pos hlinks, Option.getD_some, (finds_links page).linked_eq, hlinks.1]
      exact .linked (finds_links page) hlinks.2
    · rw [if_neg hlinks, Option.getD_none]
      refine .known fun page' links hreply hfinds => ?_
      cases hreply
      rw [hfinds.eq_links]
      by_contra hne
      exact hlinks ⟨rfl, hne⟩

/-- The service of a link is one that an index can hold. -/
theorem IsLink.isPlain {link : Text × Text} (h : IsLink link) : (ofLink link).IsPlain := by
  obtain ⟨digits, hlink, hdigits⟩ := h.exists_digits
  have hname : link.1.encode.isSome = true :=
    Text.encode_isSome_iff.mpr fun c hc => Text.isChar_of_isWord (h.1.2 c hc)
  have hversion : link.2.encode.isSome = true := by
    rw [hlink]
    exact Text.encode_isSome_iff.mpr (List.forall_mem_cons.mpr
      ⟨rfl, fun c hc => Text.isChar_of_isDecimal (hdigits c hc)⟩)
  exact ⟨⟨link.1, rfl, hname⟩, ⟨link.2, rfl, hversion⟩, .inl rfl, .inl rfl⟩

/-- Services that can be kept apart: their keys are components of paths, and no two of them have the
same key, the same file for a schema or the same directory for tools. -/
structure AreApart (services : List Service) : Prop where
  components : ∀ service ∈ services, Path.IsComponent service.key
  keys : (services.map Service.key).Nodup
  schemas : (services.map Workplace.schema).Nodup
  tools : (services.map Workplace.toolsOf).Nodup

/-- Services of distinct links can be kept apart. -/
theorem areApart_ofLink {links : List (Text × Text)} (hnodup : links.Nodup)
    (h : ∀ link ∈ links, IsLink link) : AreApart (links.map ofLink) := by
  have hcomponents : ∀ service ∈ links.map ofLink, Path.IsComponent service.key :=
    List.forall_mem_map.mpr fun link hlink => (h link hlink).isComponent_key
  have hkeys : ((links.map ofLink).map Service.key).Nodup := by
    rw [List.map_map]
    exact hnodup.map_on fun link hlink other hother heq =>
      (h link hlink).eq_of_key_eq (h other hother) heq
  have hpairwise := List.pairwise_map.mp hkeys
  refine ⟨hcomponents, hkeys, ?_, ?_⟩
  · refine List.pairwise_map.mpr (hpairwise.imp_of_mem fun hservice hother hne heq => hne ?_)
    refine Workplace.key_eq_of_schema_prefix (hcomponents _ hservice) (hcomponents _ hother) ?_
    rw [heq]
  · refine List.pairwise_map.mpr (hpairwise.imp_of_mem fun hservice hother hne heq => ?_)
    refine Workplace.not_prefix_toolsOf (hcomponents _ hservice) (hcomponents _ hother) hne
      List.prefix_rfl ?_
    rw [heq]

/-- Building the index asks for the directory page and writes the services of the reply. -/
theorem build_eq_ok {network : Network} {url : Text} :
    build network url w = .ok services w' ↔
      (linkedIn? (network w.sent (pageRequest (.text url)))).getD known = services ∧
        writeIndex services { w with sent := w.sent ++ [pageRequest (.text url)] } = .ok () w' := by
  have hscrape : scrape network url w = .ok (linkedIn? (network w.sent (pageRequest (.text url))))
      { w with sent := w.sent ++ [pageRequest (.text url)] } :=
    rfl
  unfold build
  rw [Action.bind_of_ok hscrape, Action.bind_eq_ok]
  constructor
  · rintro ⟨_, v, hwrite, h⟩
    obtain ⟨rfl, rfl⟩ := Action.pure_eq_ok.mp h
    exact ⟨rfl, hwrite⟩
  · rintro ⟨rfl, hwrite⟩
    exact ⟨(), w', hwrite, rfl⟩

/-- Building the index returns whatever the directory replies, if the working directory is there and
no directory stands in the place of the index. What is listed then are the services that the page
links to, or the known ones; there is at least one, they can be kept apart, and the index is read as
they are. -/
theorem build_lists (network : Network) (url : Text) (w : World) :
    (w.files.get? [] = some .directory → w.files.get? Workplace.index ≠ some .directory →
      ∃ services w', build network url w = .ok services w') ∧
    ∀ services w', build network url w = .ok services w' →
      Lists (network w.sent (pageRequest (.text url))) services ∧ services ≠ [] ∧
        AreApart services ∧ readIndex w' = .ok services w' := by
  have hlists := lists_linkedIn? (network w.sent (pageRequest (.text url)))
  obtain ⟨links, hservices, hne, hnodup, hlinks⟩ := hlists.exists_links
  have hplain : ∀ service ∈ links.map ofLink, service.IsPlain :=
    List.forall_mem_map.mpr fun link hlink => (hlinks link hlink).isPlain
  constructor
  · intro hroot hfree
    obtain ⟨files, hwrite⟩ := exists_writeIndex
      (w := { w with sent := w.sent ++ [pageRequest (.text url)] }) hplain hroot hfree
    exact ⟨_, _, build_eq_ok.mpr ⟨hservices, hwrite⟩⟩
  · intro services w' h
    obtain ⟨heq, hwrite⟩ := build_eq_ok.mp h
    rw [heq] at hlists hservices
    subst hservices
    refine ⟨hlists, ?_, areApart_ofLink hnodup hlinks, ?_⟩
    · exact mt List.map_eq_nil_iff.mp hne
    · have hread := (readIndex_of_writeIndex hplain hwrite).1
      rwa [List.map_map] at hread

/-- A page that links to two services, to one of them twice. The key of the one is a part of that of
the other. -/
def samplePage : Text :=
  Text.ofString "/restapi/a/v1/x /restapi/a_v1/v2 /restapi/a/v1"

example : (linked samplePage).map Service.key = ["a_v1", "a_v1_v2"].map Text.ofString := by
  decide +kernel

/-- In an empty working directory the index of the page is built and can be read. -/
theorem build_lists_samplePage :
    ∃ services w', build (fun _ _ => .answer 200 samplePage) (Text.ofString "page")
        (.ofFiles .empty) = .ok services w' ∧
      Lists (.answer 200 samplePage) services ∧ services ≠ [] ∧ AreApart services ∧
        readIndex w' = .ok services w' := by
  obtain ⟨hreturns, hlists⟩ := build_lists (fun _ _ => .answer 200 samplePage)
    (Text.ofString "page") (.ofFiles .empty)
  obtain ⟨services, w', hbuild⟩ := hreturns rfl (by decide)
  exact ⟨services, w', hbuild, hlists services w' hbuild⟩

end Catalog

end Toolsmith
