import Toolsmith.Proofs.Json.Parts
import Toolsmith.Proofs.Tool

/-!
# Where descriptions of bodies come from

Of all that is published with a tool, the description of its body is the only value that may be
anything. It is a fixed text or stands somewhere in the document.
-/

namespace Toolsmith

open Json (Part)

/-- A declaration's members are a part of the document if what declares it is. -/
theorem Declaration.part_of_ofJson? {document : Members} {raw : Json} {d : Declaration}
    (h : ofJson? document raw = some d) (hraw : raw.Part (.object document)) :
    Part (.object d.members) (.object document) := by
  unfold ofJson? at h
  split at h
  · rename_i members hderef
    split at h
    · cases h
      exact Pointer.part_of_deref? hderef hraw
    · cases h
  · cases h

/-- A declaration that is left is one of those that there were. -/
theorem Declaration.mem_of_mem_distinctAfter {seen declarations : List Declaration}
    {d : Declaration} (h : d ∈ distinctAfter seen declarations) : d ∈ declarations := by
  induction declarations generalizing seen with
  | nil => exact h
  | cons first rest ih =>
    unfold distinctAfter at h
    split at h
    · exact List.mem_cons_of_mem _ (ih h)
    · rcases List.mem_cons.mp h with rfl | h
      · exact List.mem_cons_self
      · exact List.mem_cons_of_mem _ (ih h)

/-- What is listed as parameters of an object is a part of it. -/
theorem Declaration.part_of_mem_rawList {node : Members} {raw : Json} (h : raw ∈ rawList node) :
    Part raw (.object node) := by
  unfold rawList at h
  split at h
  · rename_i items hitems
    exact (Part.item h (.self raw)).trans (Part.of_members_get? hitems)
  · cases h

/-- The members of merged declarations are parts of the document. -/
theorem Declaration.part_of_mem_merged {document pathItem operation : Members}
    (hpath : Part (.object pathItem) (.object document))
    (hoperation : Part (.object operation) (.object document)) {d : Declaration}
    (h : d ∈ merged document pathItem operation) :
    Part (.object d.members) (.object document) := by
  obtain ⟨raw, hraw, hd⟩ := List.mem_filterMap.mp (mem_of_mem_distinctAfter h)
  refine part_of_ofJson? hd ?_
  rcases List.mem_append.mp hraw with hraw | hraw
  · exact (part_of_mem_rawList hraw).trans hpath
  · exact (part_of_mem_rawList hraw).trans hoperation

namespace Operation

/-- A fixed text, or a part of a document. -/
def IsGiven (document : Members) (v : Json) : Prop :=
  (∃ s, v = .ofString s) ∨ Part v (.object document)

/-- A value or its default is given if both are. -/
theorem isGiven_orElse {document : Members} {v : Option Json} {default : Json}
    (hv : ∀ w ∈ v, Part w (.object document)) (hdefault : IsGiven document default) :
    IsGiven document (orElse v default) := by
  unfold orElse
  split
  · split
    · exact .inr (hv _ rfl)
    · exact hdefault
  · exact hdefault

/-- The description of a body is given. -/
theorem isGiven_body {document operation : Members} {declarations : List Declaration}
    (hoperation : Part (.object operation) (.object document))
    (hdeclarations : ∀ d ∈ declarations, Part (.object d.members) (.object document))
    (dialect : Dialect) : IsGiven document (body document operation declarations dialect).2 := by
  have hdefault : IsGiven document defaultBodyDescription := .inl ⟨_, rfl⟩
  have hempty : IsGiven document (.text []) := .inl ⟨"", rfl⟩
  cases dialect with
  | openapi3 =>
    simp only [body]
    split
    · exact hempty
    · exact hempty
    · rename_i node _ hnode
      refine isGiven_orElse (fun w hw => ?_) hdefault
      cases hderef : Pointer.deref? document node with
      | none =>
        rw [hderef] at hw
        cases hw
      | some target =>
        rw [hderef] at hw
        have htarget := Pointer.part_of_deref? hderef ((Part.of_members_get? hnode).trans hoperation)
        exact (Part.of_get? hw).trans htarget
  | swagger2 =>
    simp only [body]
    split
    · rename_i d hfind
      refine isGiven_orElse (fun w hw => ?_) hdefault
      exact (Part.of_members_get? hw).trans (hdeclarations d (List.mem_of_find?_eq_some hfind))
    · exact hempty

/-- What is under a path is a part of the document. -/
theorem part_of_mem_paths {document : Members} {path : Text} {item : Json}
    (h : (path, item) ∈ paths document) : Part item (.object document) := by
  unfold paths at h
  split at h
  · rename_i table htable
    exact (Part.member h (.self _)).trans (Part.of_members_get? htable)
  · cases h

/-- The description of a body of a document's operation is given. -/
theorem isGiven_bodyDescription {document : Members} {service : Text} {displayName : Option Text}
    {op : Operation} (h : op ∈ ofDocument document service displayName) :
    IsGiven document op.bodyDescription := by
  obtain ⟨path, pathItem, node, key, method, hpath, -, hnode, rfl⟩ := exists_of_mem_ofDocument h
  have hitem := part_of_mem_paths hpath
  have hnodePart := (Part.of_members_get? hnode).trans hitem
  exact isGiven_body hnodePart
    (fun d hd => Declaration.part_of_mem_merged hitem hnodePart hd) _

end Operation

end Toolsmith
