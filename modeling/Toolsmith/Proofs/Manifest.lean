import Toolsmith.Proofs.Document.Body
import Toolsmith.Proofs.Json.Reading
import Toolsmith.Proofs.Json.RoundTrip

/-!
# Manifests are read back

The manifest of the tools of a document that has been read can be read itself: its objects have
distinct keys, and its numbers come from the document. So it is read as it was written.
-/

namespace Toolsmith

namespace Json

/-- A record has a property that whatever is read has, if its keys are distinct and its values have
the property. -/
theorem all_record {p : Json → Prop} (hp : IsRead p) {fields : List (String × Json)}
    (hkeys : (fields.map fun field => Text.ofString field.1).Nodup)
    (h : ∀ field ∈ fields, field.2.All p) : (record fields).All p := by
  refine All.of_members (hp.object _ ?_) fun m hm => ?_
  · rwa [List.map_map]
  · obtain ⟨field, hfield, rfl⟩ := List.mem_map.mp hm
    exact h field hfield

end Json

namespace Input

/-- All parts of what is published of inputs have a property that whatever is read has, if those of
the description of the body do. -/
theorem all_schema {p : Json → Prop} (hp : Json.IsRead p) {op : Operation}
    (h : op.bodyDescription.All p) : (schema op).All p := by
  have hdescription : ∀ input ∈ ofOperation op, input.description.All p := by
    unfold ofOperation
    simp only [List.forall_mem_append, List.forall_mem_map]
    refine ⟨⟨fun _ _ => .of_text (hp.text _), fun _ _ => .of_text (hp.text _)⟩,
      fun input hbody => ?_⟩
    split at hbody
    · rw [List.mem_singleton.mp hbody]
      unfold ofBody
      split
      · exact h
      · exact .of_text (hp.text _)
    · cases hbody
  refine Json.All.of_items (hp.array _) fun v hv => ?_
  obtain ⟨input, hmem, rfl⟩ := List.mem_map.mp hv
  refine Json.All.of_members (hp.object _ (by simp only [List.map_cons, List.map_nil]; decide)) fun m hm => ?_
  obtain ⟨field, hfield, rfl⟩ := List.mem_map.mp hm
  simp only [List.mem_cons, List.not_mem_nil, or_false] at hfield
  rcases hfield with rfl | rfl | rfl | rfl
  · exact .of_text (hp.text _)
  · exact .of_text (hp.text _)
  · exact hdescription input hmem
  · exact .of_bool (hp.bool _)

end Input

/-- A description of a body has a property that whatever is read has, if the document does. -/
theorem Operation.all_bodyDescription {p : Json → Prop} (hp : Json.IsRead p) {document : Members}
    (h : (Json.object document).All p) {service : Text} {displayName : Option Text}
    {op : Operation} (hop : op ∈ ofDocument document service displayName) :
    op.bodyDescription.All p := by
  rcases isGiven_bodyDescription hop with ⟨s, heq⟩ | hpart
  · rw [heq]
    exact .of_text (hp.text _)
  · exact h.of_part hpart

namespace Tool

/-- The manifest of the tools of a document has a property that whatever is read has, if the
document does. -/
theorem all_manifest {p : Json → Prop} (hp : Json.IsRead p) {service : Service}
    {document : Members} {tools : List Tool} (h : ofDocument service document = .ok tools)
    (hdocument : (Json.object document).All p) : (manifest tools).All p := by
  refine Json.All.of_items (hp.array _) fun v hv => ?_
  obtain ⟨tool, htool, rfl⟩ := List.mem_map.mp hv
  obtain ⟨op, hop, heq⟩ := exists_operation h htool
  have hgiven := Operation.all_bodyDescription hp hdocument hop
  have hbody : tool.operation.bodyDescription.All p := by rwa [heq]
  have hschema := Input.all_schema hp hbody
  have hid : (tool.operation.operationId.elim .null Json.text).All p := by
    cases tool.operation.operationId with
    | none => exact .of_null hp.null
    | some id => exact .of_text (hp.text _)
  refine Json.all_record hp (by simp only [List.map_cons, List.map_nil]; decide) ?_
  simp only [List.forall_mem_cons]
  exact ⟨.of_text (hp.text _), .of_text (hp.text _), hschema, .of_text (hp.text _),
    .of_text (hp.text _), hid, .of_text (hp.text _), List.forall_mem_nil _⟩

/-- What is published of the inputs of a tool is a part of the manifest. -/
theorem part_manifest {tools : List Tool} {tool : Tool} (htool : tool ∈ tools) :
    (Input.schema tool.operation).Part (manifest tools) := by
  have hschema : tool.entry.get? (Text.ofString "schema") = some (Input.schema tool.operation) :=
    rfl
  exact .item (List.mem_map_of_mem htool) (.of_get? hschema)

end Tool

end Toolsmith
