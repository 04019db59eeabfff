import Toolsmith.Proofs.Naming.ToolName

/-!
# Names of different services

Names are made distinct within a service only. The name of a tool begins with the area of its
service and a hyphen, so services whose areas are apart never share a name. The version of a service
plays no part in the names of its tools.
-/

namespace Toolsmith

namespace Naming

/-- The name that is given for a wish begins with the wish. -/
theorem Taken.prefix_give (taken : Taken) (wish : Text) : wish <+: (taken.give wish).1 := by
  unfold give
  split
  · exact List.prefix_append _ _
  · exact List.prefix_rfl

/-- A name that is given begins with one of the wishes. -/
theorem exists_prefix_of_mem_distinctAfter {taken : Taken} {wishes : List Text} {name : Text}
    (h : name ∈ distinctAfter taken wishes) : ∃ wish ∈ wishes, wish <+: name := by
  induction wishes generalizing taken with
  | nil => cases h
  | cons wish wishes ih =>
    rcases List.mem_cons.mp h with heq | hrest
    · exact ⟨wish, List.mem_cons_self, heq ▸ taken.prefix_give wish⟩
    · obtain ⟨other, hother, hprefix⟩ := ih hrest
      exact ⟨other, List.mem_cons_of_mem _ hother, hprefix⟩

/-- The shared name of an operation begins with the area of its service. -/
theorem area_prefix_sharedName (op : Operation) :
    clean (area op.service op.displayName) ++ [.char '-'] <+: sharedName op := by
  have hhyphen : clean (Text.ofString "-") = [.char '-'] := rfl
  unfold sharedName rawName
  simp only [Text.join, List.append_assoc, clean_append, hhyphen]
  exact ⟨_, List.append_assoc _ _ _⟩

/-- What the names of a service's tools begin with: its area, cleaned, and a hyphen. -/
def areaPart (service : Service) : Text :=
  clean (area service.name.display service.displayText?) ++ [.char '-']

/-- The name of an operation of a service begins with the area of the service. -/
theorem areaPart_prefix {service : Service} {document : Members} {op : Operation}
    (h : op ∈ nameAll (Operation.ofDocument document service.name.display service.displayText?)) :
    areaPart service <+: op.toolName := by
  have hname := List.mem_map_of_mem (f := Operation.toolName) h
  rw [map_toolName_nameAll] at hname
  obtain ⟨wish, hwish, hprefix⟩ := exists_prefix_of_mem_distinctAfter hname
  obtain ⟨other, hother, rfl⟩ := List.mem_map.mp hwish
  obtain ⟨_, _, _, _, _, -, -, -, rfl⟩ := Operation.exists_of_mem_ofDocument hother
  exact (area_prefix_sharedName _).trans hprefix

/-- Services whose areas are apart: none of them, with its hyphen, is a beginning of the other. -/
def AreApart (service other : Service) : Prop :=
  ¬areaPart service <+: areaPart other ∧ ¬areaPart other <+: areaPart service

/-- Being apart goes both ways. -/
theorem AreApart.symm {service other : Service} (h : AreApart service other) :
    AreApart other service :=
  ⟨h.2, h.1⟩

/-- Names that begin with areas that are apart differ. -/
theorem AreApart.ne {service other : Service} (h : AreApart service other) {name name' : Text}
    (hname : areaPart service <+: name) (hname' : areaPart other <+: name') : name ≠ name' := by
  rintro rfl
  rcases List.prefix_or_prefix_of_prefix hname hname' with hprefix | hprefix
  · exact h.1 hprefix
  · exact h.2 hprefix

end Naming

namespace Tool

/-- The names of a service's tools begin with its area. -/
theorem areaPart_prefix {service : Service} {document : Members} {tools : List Tool}
    (h : ofDocument service document = .ok tools) {tool : Tool} (htool : tool ∈ tools) :
    Naming.areaPart service <+: tool.name := by
  have hmem := List.mem_map_of_mem (f := Tool.operation) htool
  rw [(of_ofDocument h).1] at hmem
  exact Naming.areaPart_prefix hmem

/-- Versions of one service have the same tools if they have the same document. -/
theorem ofDocument_congr {service other : Service} (hname : service.name = other.name)
    (hdisplayName : service.displayName = other.displayName) (document : Members) :
    ofDocument service document = ofDocument other document := by
  have htext : service.displayText? = other.displayText? := by
    unfold Service.displayText?
    rw [hdisplayName]
  have hfault : service.areaFault? = other.areaFault? := by
    unfold Service.areaFault?
    rw [hdisplayName, htext, hname]
  have hoperation : ofOperation service = ofOperation other := by
    funext op
    unfold ofOperation
    rw [hname]
  unfold ofDocument
  rw [hname, htext, hfault, hoperation]

end Tool

end Toolsmith
