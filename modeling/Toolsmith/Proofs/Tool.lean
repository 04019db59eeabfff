import Toolsmith.Proofs.Naming.Distinct
import Toolsmith.Tool

/-!
# The tools of a document

The tools of a document are its operations with distinct names, each with the unit that was made
for it.
-/

namespace Toolsmith

namespace Naming

/-- A named operation is one of the operations with another tool name. -/
theorem exists_of_mem_nameAll {operations : List Operation} {op : Operation}
    (h : op ∈ nameAll operations) :
    ∃ other ∈ operations, op = { other with toolName := op.toolName } := by
  obtain ⟨⟨other, name⟩, hpair, rfl⟩ := List.mem_map.mp h
  exact ⟨other, (List.of_mem_zip hpair).1, rfl⟩

end Naming

namespace Tool

/-- Tools are made one by one from their operations. -/
theorem of_mapM_ofOperation {service : Service} {operations : List Operation} {tools : List Tool}
    (h : operations.mapM (ofOperation service) = .ok tools) :
    tools.map Tool.operation = operations ∧
      ∀ tool ∈ tools, Source.ofOperation tool.operation = .ok tool.source := by
  induction operations generalizing tools with
  | nil =>
    cases h
    exact ⟨rfl, List.forall_mem_nil _⟩
  | cons op operations ih =>
    rw [List.mapM_cons] at h
    cases hop : ofOperation service op with
    | error fault => rw [hop] at h; cases h
    | ok tool =>
      cases hrest : operations.mapM (ofOperation service) with
      | error fault => rw [hop, hrest] at h; cases h
      | ok rest =>
        rw [hop, hrest] at h
        cases h
        obtain ⟨hoperations, hsources⟩ := ih hrest
        have htool : tool.operation = op ∧ Source.ofOperation op = .ok tool.source := by
          unfold ofOperation at hop
          split at hop
          · cases hop
          · cases hop
          · cases hop
            exact ⟨rfl, ‹_›⟩
        refine ⟨by rw [List.map_cons, htool.1, hoperations], List.forall_mem_cons.mpr ⟨?_, hsources⟩⟩
        rw [htool.1]
        exact htool.2

/-- The operations of a document's tools are those of the document with their names. -/
theorem of_ofDocument {service : Service} {document : Members} {tools : List Tool}
    (h : ofDocument service document = .ok tools) :
    tools.map Tool.operation =
        Naming.nameAll (Operation.ofDocument document service.name.display service.displayText?) ∧
      ∀ tool ∈ tools, Source.ofOperation tool.operation = .ok tool.source := by
  unfold ofDocument at h
  simp only at h
  split at h
  · rename_i hnone
    cases h
    rw [hnone]
    exact ⟨rfl, List.forall_mem_nil _⟩
  · cases h
  · exact of_mapM_ofOperation h

/-- The names of a document's tools are distinct. -/
theorem nodup_ofDocument {service : Service} {document : Members} {tools : List Tool}
    (h : ofDocument service document = .ok tools) : (tools.map Tool.name).Nodup := by
  have hnames : tools.map Tool.name = (tools.map Tool.operation).map Operation.toolName := by
    rw [List.map_map]
    rfl
  rw [hnames, (of_ofDocument h).1]
  exact Naming.nodup_nameAll _

/-- The names of a document's tools hold nothing but name points. -/
theorem isNamePoint_ofDocument {service : Service} {document : Members} {tools : List Tool}
    (h : ofDocument service document = .ok tools) {tool : Tool} (htool : tool ∈ tools) :
    ∀ c ∈ tool.name, Naming.IsNamePoint c := by
  have hmem := List.mem_map_of_mem (f := Tool.operation) htool
  rw [(of_ofDocument h).1] at hmem
  exact Naming.isNamePoint_nameAll hmem

/-- The operation of a document's tool is one of the document's with another name. -/
theorem exists_operation {service : Service} {document : Members} {tools : List Tool}
    (h : ofDocument service document = .ok tools) {tool : Tool} (htool : tool ∈ tools) :
    ∃ op ∈ Operation.ofDocument document service.name.display service.displayText?,
      tool.operation = { op with toolName := tool.name } := by
  have hmem := List.mem_map_of_mem (f := Tool.operation) htool
  rw [(of_ofDocument h).1] at hmem
  exact Naming.exists_of_mem_nameAll hmem

/-- A unit with a new name is put at the end. -/
theorem putUnit_eq_append {name source : Text} {units : List (Text × Text)}
    (h : name ∉ units.map Prod.fst) : putUnit name source units = units ++ [(name, source)] := by
  induction units with
  | nil => rfl
  | cons u units ih =>
    obtain ⟨other, old⟩ := u
    obtain ⟨hne, hnames⟩ := List.ne_and_not_mem_of_not_mem_cons h
    rw [putUnit, if_neg (Ne.symm hne), ih hnames, List.cons_append]

/-- Tools with distinct names have one unit each, in their order. -/
theorem units_eq_map {tools : List Tool} (h : (tools.map name).Nodup) :
    units tools = tools.map fun tool => (tool.name, tool.source) := by
  have hfold : ∀ (tools : List Tool) (before : List (Text × Text)),
      (before.map Prod.fst ++ tools.map name).Nodup →
      tools.foldl (fun units tool => putUnit tool.name tool.source units) before =
        before ++ tools.map fun tool => (tool.name, tool.source) := by
    intro tools
    induction tools with
    | nil => simp
    | cons tool tools ih =>
      intro before hnodup
      have hnew : tool.name ∉ before.map Prod.fst := fun hmem =>
        (List.nodup_append.mp hnodup).2.2 tool.name hmem tool.name (by simp) rfl
      rw [List.foldl_cons, putUnit_eq_append hnew, ih _ (by simpa using hnodup),
        List.append_assoc, List.map_cons, List.singleton_append]
  exact hfold tools [] (by simpa using h)

end Tool

namespace Operation

/-- The operations of a document are made from the objects under its paths and their methods. -/
theorem exists_of_mem_ofDocument {document : Members} {service : Text} {displayName : Option Text}
    {op : Operation} (h : op ∈ ofDocument document service displayName) :
    ∃ path pathItem node key method, (path, Json.object pathItem) ∈ paths document ∧
      (key, method) ∈ methods ∧
      Members.get? pathItem (Text.ofString key) = some (.object node) ∧
      op = ofNode document (Dialect.of document) service displayName
        (BasePath.resolve document service (Dialect.of document)) path pathItem method node := by
  obtain ⟨⟨path, item⟩, hpath, h⟩ := List.mem_flatMap.mp h
  simp only at h
  split at h
  · rename_i pathItem
    obtain ⟨⟨key, method⟩, hmethod, h⟩ := List.mem_filterMap.mp h
    simp only at h
    split at h
    · rename_i node hnode
      cases h
      exact ⟨path, pathItem, node, key, method, hpath, hmethod, hnode, rfl⟩
    · cases h
  · cases h

/-- The method of a document's operation is one of five words. -/
theorem method_of_mem_ofDocument {document : Members} {service : Text} {displayName : Option Text}
    {op : Operation} (h : op ∈ ofDocument document service displayName) :
    ∃ method ∈ methods.map Prod.snd, op.method = Text.ofString method := by
  obtain ⟨_, _, _, _, method, _, hmethod, _, rfl⟩ := exists_of_mem_ofDocument h
  exact ⟨method, List.mem_map_of_mem (f := Prod.snd) hmethod, rfl⟩

end Operation

end Toolsmith
