import Toolsmith.Generate
import Toolsmith.Proofs.Files.Contents
import Toolsmith.Proofs.Text.Pieces
import Toolsmith.Proofs.Tool

/-!
# Places of services

A service whose key is a single component of a path has a schema and a directory of tools of its
own, and the files in that directory have places of their own.
-/

namespace Toolsmith

namespace Path

/-- A text that is one name on a path: it holds no slash and is no step. -/
structure IsComponent (t : Text) : Prop where
  ne_nil : t ≠ []
  no_slash : CodePoint.char '/' ∉ t
  ne_here : t ≠ Text.ofString "."
  ne_up : t ≠ up

instance : DecidablePred IsComponent := fun t =>
  decidable_of_iff
    ((!t.isEmpty && !t.contains (.char '/') && t != Text.ofString "." && t != up) = true) <| by
    have hslash : List.contains t (.char '/') = false ↔ CodePoint.char '/' ∉ t := by
      rw [← Bool.not_eq_true, List.contains_iff_mem]
    simp only [Bool.and_eq_true, Bool.not_eq_true', List.isEmpty_eq_false_iff, hslash, bne_iff_ne,
      and_assoc]
    exact ⟨fun h => ⟨h.1, h.2.1, h.2.2.1, h.2.2.2⟩,
      fun h => ⟨h.ne_nil, h.no_slash, h.ne_here, h.ne_up⟩⟩

/-- A component is the only step of its way. -/
theorem IsComponent.within {t : Text} (h : IsComponent t) (directory : Path) :
    Path.within directory t = directory ++ [t] := by
  have hhead : t.head? ≠ some (.char '/') := by
    intro hhead
    exact h.no_slash (List.mem_of_mem_head? hhead)
  have hsteps : steps t = [t] := by
    unfold steps
    rw [Text.splitOn_eq_singleton h.no_slash, List.filter_cons_of_pos, List.filter_nil]
    simp [h.ne_nil, h.ne_here]
  unfold Path.within
  rw [if_neg hhead, hsteps]

/-- A component is not the top of all directories. -/
theorem IsComponent.ne_top {t : Text} (h : IsComponent t) : t ≠ top := by
  rintro rfl
  exact h.no_slash (by decide)

/-- A component leads downwards. -/
theorem IsDirect.component {directory : Path} (hdirectory : directory.IsDirect) {t : Text}
    (h : IsComponent t) : IsDirect (directory ++ [t]) :=
  hdirectory.concat h.ne_up h.ne_top

/-- A text without slashes is a component with an ending of at least two characters, if the ending
holds no slash. -/
theorem isComponent_append {t : Text} (h : CodePoint.char '/' ∉ t) {ending : Text}
    (hending : CodePoint.char '/' ∉ ending) (hlength : 2 < ending.length) :
    IsComponent (t ++ ending) := by
  have hlong : 2 < (t ++ ending).length := by
    rw [List.length_append]
    omega
  refine ⟨?_, ?_, ?_, ?_⟩
  · intro heq
    rw [heq] at hlong
    cases hlong
  · exact fun hmem => (List.mem_append.mp hmem).elim h hending
  · intro heq
    rw [heq] at hlong
    exact absurd hlong (by decide)
  · intro heq
    rw [heq] at hlong
    exact absurd hlong (by decide)

end Path

namespace Naming

/-- A name that files can have holds no slash. -/
theorem no_slash_of_isNamePoint {name : Text} (h : ∀ c ∈ name, IsNamePoint c) :
    CodePoint.char '/' ∉ name :=
  fun hslash => absurd (h _ hslash) (by unfold IsNamePoint; decide)

/-- The file of a unit whose name holds no slash is a component of a path. -/
theorem isComponent_unitFile {name : Text} (h : CodePoint.char '/' ∉ name) :
    Path.IsComponent (unitFile name) :=
  Path.isComponent_append h (by decide) (by decide)

/-- Different names have different files. -/
theorem unitFile_injective {name other : Text} (h : unitFile name = unitFile other) :
    name = other :=
  List.append_cancel_right h

end Naming

namespace Generate

/-- A unit's file is one. -/
theorem isUnitFile_unitFile (name : Text) : isUnitFile (Naming.unitFile name) = true :=
  List.isSuffixOf_iff_suffix.mpr (List.suffix_append _ _)

/-- A unit's file has a name that leads downwards. -/
theorem ne_up_of_isUnitFile {name : Text} (h : isUnitFile name = true) :
    name ≠ Path.up ∧ name ≠ Path.top := by
  constructor
  · rintro rfl
    exact absurd h (by decide)
  · rintro rfl
    exact absurd h (by decide)

end Generate

namespace Workplace

/-- The key of a service holds the mark between name and version. -/
theorem mem_key (service : Service) : CodePoint.char '_' ∈ service.key :=
  List.mem_append_right _ List.mem_cons_self

/-- The directory of a service's tools. -/
theorem toolsOf_eq {service : Service} (h : Path.IsComponent service.key) :
    toolsOf service = tools ++ [service.key] :=
  h.within tools

/-- The file of a service's schema. -/
theorem schema_eq {service : Service} (h : Path.IsComponent service.key) :
    schema service = schemas ++ [service.key ++ Text.ofString ".json"] :=
  (Path.isComponent_append h.no_slash (by decide) (by decide)).within schemas

/-- The directory of all tools is below the working directory. -/
theorem isDirect_tools : Path.IsDirect tools := by
  unfold Path.IsDirect
  decide

/-- No place in the directory of tools is above the working directory. -/
theorem isAbove_tools (name : Text) : Tree.isAbove (tools ++ [name]) = false :=
  Tree.isAbove_concat isDirect_tools (by decide) name

/-- Only the entries of a tree have to be looked at to see that nothing stands in its directory of
tools. -/
theorem get?_eq_none_of_entries {files : Tree}
    (h : ∀ e ∈ files.entries, tools <+: e.1 → e.1 = tools) :
    ∀ place, tools <+: place → place ≠ tools → files.get? place = none := by
  rintro place ⟨rest, rfl⟩ hne
  have habove : Tree.isAbove (tools ++ rest) = false := by
    rw [Tree.isAbove, tools, List.singleton_append, List.all_cons]
    simp [Text.ofString, Path.top, Path.up]
  rw [Tree.get?, Entries.get?, habove, if_neg Bool.false_ne_true, List.lookup_eq_none_iff]
  intro e he
  rw [bne_iff_ne]
  intro heq
  exact hne (heq.trans (h e he ⟨rest, heq⟩))

/-- The directory of a service's tools is below the working directory. -/
theorem isDirect_toolsOf {service : Service} (h : Path.IsComponent service.key) :
    Path.IsDirect (toolsOf service) := by
  rw [toolsOf_eq h]
  exact isDirect_tools.component h

/-- If the directory of all tools is there, so is the way to that of a service. -/
theorem hasWay_toolsOf {service : Service} (h : Path.IsComponent service.key) {files : Tree}
    (hthere : files.isDirectory tools = true) : files.HasWay (toolsOf service) := by
  rw [toolsOf_eq h]
  exact Tree.hasWay_concat isDirect_tools hthere _

/-- The directory of schemas is below the working directory. -/
theorem isDirect_schemas : Path.IsDirect schemas := by
  unfold Path.IsDirect
  decide

/-- The file of a service's schema is below the working directory. -/
theorem isDirect_schema {service : Service} (h : Path.IsComponent service.key) :
    Path.IsDirect (schema service) := by
  rw [schema_eq h]
  exact isDirect_schemas.component (Path.isComponent_append h.no_slash (by decide) (by decide))

/-- The file of a service's schema is on the way to no other service's. -/
theorem key_eq_of_schema_prefix {service other : Service} (h : Path.IsComponent service.key)
    (hother : Path.IsComponent other.key) (hway : schema service <+: schema other) :
    service.key = other.key := by
  rw [schema_eq h, schema_eq hother] at hway
  have heq := hway.eq_of_length (by simp)
  have hname := (List.cons.inj (List.append_cancel_left heq)).1
  exact List.append_cancel_right hname

/-- The way to the file of a service's schema does not lead over that of a service with another
key. -/
theorem ne_schema_of_prefix {service other : Service} (h : Path.IsComponent service.key)
    (hother : Path.IsComponent other.key) (hne : service.key ≠ other.key) {place : Path}
    (hplace : place <+: schema other) : place ≠ schema service := fun heq =>
  hne <| key_eq_of_schema_prefix h hother (heq ▸ hplace)

/-- If the directory of schemas is there, so is the way to that of a service. -/
theorem hasWay_schema {service : Service} (h : Path.IsComponent service.key) {files : Tree}
    (hthere : files.isDirectory schemas = true) : files.HasWay (schema service) := by
  rw [schema_eq h]
  exact Tree.hasWay_concat isDirect_schemas hthere _

/-- The file of a service's schema is not on the way to the directory of schemas. -/
theorem not_schema_prefix {service : Service} (h : Path.IsComponent service.key) :
    ¬schema service <+: schemas := by
  intro hprefix
  have hlength := hprefix.length_le
  rw [schema_eq h] at hlength
  exact absurd hlength (by simp)

/-- The manifest in a directory is below it. -/
theorem isDirect_manifestIn {directory : Path} (h : directory.IsDirect) :
    Path.IsDirect (manifestIn directory) :=
  h.concat (by decide) (by decide)

/-- Services with different keys have tools at different places. -/
theorem not_prefix_toolsOf {service other : Service} (h : Path.IsComponent service.key)
    (hother : Path.IsComponent other.key) (hne : service.key ≠ other.key) {place : Path}
    (hplace : toolsOf service <+: place) : ¬toolsOf other <+: place := by
  intro hprefix
  rw [toolsOf_eq h] at hplace
  rw [toolsOf_eq hother] at hprefix
  have heq := List.prefix_of_prefix_length_le hplace hprefix (by simp)
  have hpaths := heq.eq_of_length (by simp)
  exact hne (List.cons.inj (List.append_cancel_left hpaths)).1

/-- No place of a service's tools is on the way to a schema. -/
theorem not_prefix_schema {service other : Service} (h : Path.IsComponent service.key)
    (hother : Path.IsComponent other.key) {place : Path} (hplace : toolsOf service <+: place) :
    ¬place <+: schema other := by
  intro hprefix
  have hpaths := hplace.trans hprefix
  rw [toolsOf_eq h, schema_eq hother] at hpaths
  exact absurd (List.cons_prefix_cons.mp hpaths).1 (by decide)

/-- The summary of a run is not below the tools of a service. -/
theorem not_prefix_summary {service : Service} (h : Path.IsComponent service.key) :
    ¬toolsOf service <+: summary := by
  intro hprefix
  rw [toolsOf_eq h] at hprefix
  have hpaths := hprefix.eq_of_length (by rfl)
  have hkey := (List.cons.inj (List.append_cancel_left hpaths)).1
  have hmark := mem_key service
  rw [hkey] at hmark
  exact absurd hmark (by decide)

end Workplace

end Toolsmith
