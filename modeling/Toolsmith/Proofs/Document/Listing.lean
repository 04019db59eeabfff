import Toolsmith.Proofs.Document.Parameters
import Toolsmith.Proofs.Json.Characters

/-!
# Every document has tools

A document of any shape has tools, one for each method of a path that is described by an object. No
value in it makes this fail, as long as its texts have encodings, because keys of a query are
written in the bytes of their names.
-/

namespace Toolsmith

namespace Operation

variable {document : Members} {service : Text} {displayName : Option Text} {op : Operation}

/-- The keys of methods, in the order in which the operations of a path are listed. -/
def methodKeys : List String :=
  ["get", "post", "put", "patch", "delete"]

/-- Whether a method of a path is described by an object. -/
def isDescribed (item : Json) (key : String) : Bool :=
  (item.get? (Text.ofString key)).any fun node => node.members?.isSome

/-- The paths of a document with their methods: for each path in the order of the document the
methods that are described by objects, in capitals. -/
def listed (document : Members) : List (Text × Text) :=
  (paths document).flatMap fun (path, item) =>
    (methodKeys.filter (isDescribed item)).map fun key => (path, (Text.ofString key).upper)

/-- The methods of an operation are named by their keys in capitals. -/
theorem upper_of_mem_methods {m : String × String} (h : m ∈ methods) :
    Text.ofString m.2 = (Text.ofString m.1).upper := by
  have hall : ∀ m ∈ methods, Text.ofString m.2 = (Text.ofString m.1).upper := by decide +kernel
  exact hall m h

/-- Where each method that is described gives an operation, the operations are those of the methods
that are described. -/
theorem map_filterMap_methods {item : Json} {path : Text} {ms : List (String × String)}
    {f : String × String → Option Operation}
    (h : ∀ m ∈ ms, (f m).map (fun op => (op.path, op.method)) =
      if isDescribed item m.1 then some (path, (Text.ofString m.1).upper) else none) :
    (ms.filterMap f).map (fun op => (op.path, op.method)) =
      ((ms.map Prod.fst).filter (isDescribed item)).map
        fun key => (path, (Text.ofString key).upper) := by
  induction ms with
  | nil => rfl
  | cons m ms ih =>
    obtain ⟨hm, hms⟩ := List.forall_mem_cons.mp h
    rw [List.map_cons, List.filter_cons, List.filterMap_cons]
    cases hf : f m with
    | none =>
      rw [hf] at hm
      split at hm
      · cases hm
      · rename_i hnot
        rw [if_neg hnot]
        exact ih hms
    | some op =>
      rw [hf] at hm
      split at hm
      · rename_i hdescribed
        rw [if_pos hdescribed, List.map_cons, List.map_cons, ih hms]
        exact congrArg (· :: _) (Option.some.inj hm)
      · cases hm

/-- A document has one operation for every method that is listed, in order. -/
theorem map_ofDocument (document : Members) (service : Text) (displayName : Option Text) :
    (ofDocument document service displayName).map (fun op => (op.path, op.method)) =
      listed document := by
  rw [ofDocument, listed, List.map_flatMap]
  congr 1
  funext ⟨path, item⟩
  cases item with
  | object pathItem =>
    have hkeys : methodKeys = methods.map Prod.fst := rfl
    rw [hkeys]
    refine map_filterMap_methods fun m hm => ?_
    obtain ⟨key, method⟩ := m
    have hmethod : Text.ofString method = (Text.ofString key).upper := upper_of_mem_methods hm
    have hdescribed : isDescribed (.object pathItem) key =
        (Members.get? pathItem (Text.ofString key)).any fun node => node.members?.isSome := rfl
    simp only [hdescribed]
    cases Members.get? pathItem (Text.ofString key) with
    | none => rfl
    | some v =>
      cases v with
      | object node => exact congrArg (fun t => some (path, t)) hmethod
      | _ => rfl
  | _ => rfl

/-- No method of a path is listed twice. -/
theorem nodup_listed (h : ((paths document).map Prod.fst).Nodup) : (listed document).Nodup := by
  have hupper : (methodKeys.map fun key => (Text.ofString key).upper).Nodup := by decide
  refine List.nodup_flatMap.mpr ⟨fun m _ => ?_, (List.pairwise_map.mp h).imp ?_⟩
  · have hall : (methodKeys.map fun key => (m.1, (Text.ofString key).upper)).Nodup := by
      refine .of_map Prod.snd ?_
      rw [List.map_map]
      exact hupper
    exact hall.sublist (List.filter_sublist.map _)
  · intro m other hne pair hpair hother
    obtain ⟨key, -, rfl⟩ := List.mem_map.mp hpair
    obtain ⟨other, -, heq⟩ := List.mem_map.mp hother
    exact hne (congrArg Prod.fst heq).symm

/-- The name of a query's parameter stands in the document. -/
theorem part_of_mem_queryParameters (h : op ∈ ofDocument document service displayName)
    {p : Parameter} (hp : p ∈ op.queryParameters) :
    Json.Part (.text p.name) (.object document) := by
  obtain ⟨path, pathItem, node, key, method, hpath, -, hnode, rfl⟩ := exists_of_mem_ofDocument h
  obtain ⟨d, hd, rfl⟩ := List.mem_map.mp hp
  have hmerged := (List.mem_filter.mp hd).1
  have hitem := part_of_mem_paths hpath
  have hpart := Declaration.part_of_mem_merged hitem
    ((Json.Part.of_members_get? hnode).trans hitem) hmerged
  obtain ⟨raw, -, hraw⟩ := List.mem_filterMap.mp (Declaration.mem_of_mem_distinctAfter hmerged)
  have hname := (Declaration.ofJson?_eq_some.mp hraw).name
  exact (Json.Part.of_members_get? hname).trans hpart

end Operation

namespace Context

/-- The keys of a query can be written if the names of its parameters have encodings. -/
theorem exists_queryKeys (bindings : List Binding) {parameters : List Parameter}
    (h : ∀ p ∈ parameters, p.name.encode.isSome = true) :
    ∃ query, parameters.mapM (queryKey? bindings) = some query := by
  induction parameters with
  | nil => exact ⟨[], rfl⟩
  | cons p parameters ih =>
    obtain ⟨hp, hparameters⟩ := List.forall_mem_cons.mp h
    obtain ⟨bytes, hbytes⟩ := Option.isSome_iff_exists.mp hp
    obtain ⟨query, hquery⟩ := ih hparameters
    rw [List.mapM_cons, queryKey?, Text.percentEncode, hbytes, hquery]
    exact ⟨_, rfl⟩

/-- An operation has a unit if the names of its query have encodings. -/
theorem exists_ofOperation {op : Operation}
    (h : ∀ p ∈ op.queryParameters, p.name.encode.isSome = true) : ∃ c, ofOperation op = .ok c := by
  obtain ⟨query, hquery⟩ := exists_queryKeys (Binding.ofNames (inputNames op)) h
  rw [ofOperation]
  simp only [hquery]
  exact ⟨_, rfl⟩

end Context

namespace Service

/-- A service with a name, and maybe with a display name, which are texts. -/
structure IsNamed (service : Service) : Prop where
  name : ∃ t, service.name = .text t
  displayName : service.displayName = .null ∨ ∃ t, service.displayName = .text t

/-- A service with a name can be capitalised. -/
theorem IsNamed.capitalFault?_eq_none {service : Service} (h : service.IsNamed) :
    capitalFault? service.name = none := by
  obtain ⟨t, ht⟩ := h.name
  rw [ht]
  rfl

/-- A service with a name has an area. -/
theorem IsNamed.areaFault?_eq_none {service : Service} (h : service.IsNamed) :
    service.areaFault? = none := by
  unfold areaFault? displayText?
  rcases h.displayName with hnull | ⟨t, ht⟩
  · rw [hnull]
    exact h.capitalFault?_eq_none
  · rw [ht]
    cases t with
    | nil => exact h.capitalFault?_eq_none
    | cons c rest => rfl

end Service

namespace Naming

/-- Naming operations changes nothing else about them. -/
theorem map_nameAll {α : Type} {f : Operation → α}
    (hf : ∀ op name, f { op with toolName := name } = f op) (operations : List Operation) :
    (nameAll operations).map f = operations.map f := by
  have hlength : operations.length ≤ (distinct (operations.map sharedName)).length := by
    rw [distinct, length_distinctAfter, List.length_map]
  have hpairs : (fun pair : Operation × Text => f { pair.1 with toolName := pair.2 }) =
      f ∘ Prod.fst := funext fun pair => hf pair.1 pair.2
  rw [nameAll, List.map_map]
  show (operations.zip _).map (fun pair => f { pair.1 with toolName := pair.2 }) = _
  rw [hpairs, ← List.map_map, List.map_fst_zip hlength]

end Naming

namespace Tool

variable {service : Service} {document : Members}

/-- Tools can be made of operations whose units can be made. -/
theorem exists_mapM_ofOperation (hname : Service.capitalFault? service.name = none)
    {operations : List Operation}
    (h : ∀ op ∈ operations, ∃ source, Source.ofOperation op = .ok source) :
    ∃ tools, operations.mapM (ofOperation service) = .ok tools := by
  induction operations with
  | nil => exact ⟨[], rfl⟩
  | cons op operations ih =>
    obtain ⟨⟨source, hsource⟩, hoperations⟩ := List.forall_mem_cons.mp h
    obtain ⟨tools, htools⟩ := ih hoperations
    have hop : ofOperation service op = .ok ⟨op, source⟩ := by
      rw [ofOperation, hsource, hname]
    rw [List.mapM_cons, hop, htools]
    exact ⟨_, rfl⟩

/-- A document whose texts have encodings has tools. -/
theorem exists_ofDocument (hservice : service.IsNamed) (h : (Json.object document).Encodable) :
    ∃ tools, ofDocument service document = .ok tools := by
  have hunits : ∀ op ∈ Naming.nameAll
      (Operation.ofDocument document service.name.display service.displayText?),
      ∃ source, Source.ofOperation op = .ok source := by
    intro op hop
    obtain ⟨other, hother, heq⟩ := Naming.exists_of_mem_nameAll hop
    have hnames : ∀ p ∈ op.queryParameters, p.name.encode.isSome = true := by
      intro p hp
      rw [heq] at hp
      exact h _ (Operation.part_of_mem_queryParameters hother hp)
    obtain ⟨c, hc⟩ := Context.exists_ofOperation hnames
    exact ⟨Source.ofContext c, by rw [Source.ofOperation, hc]; rfl⟩
  obtain ⟨tools, htools⟩ := exists_mapM_ofOperation hservice.capitalFault?_eq_none hunits
  unfold ofDocument
  simp only [hservice.areaFault?_eq_none]
  split
  · exact ⟨[], rfl⟩
  · rename_i hnone _
    cases hnone
  · exact ⟨tools, htools⟩

/-- The tools of a document whose texts have encodings can be made. Their manifest lists every
method that is described under a path once, in order, and there is one unit for every name in it. -/
theorem ofDocument_lists (hservice : service.IsNamed) (h : (Json.object document).Encodable)
    (hpaths : ((Operation.paths document).map Prod.fst).Nodup) :
    ∃ tools entries, ofDocument service document = .ok tools ∧ manifest tools = .array entries ∧
      (entries.map fun entry =>
          (entry.get? (Text.ofString "path"), entry.get? (Text.ofString "method"))) =
        ((Operation.listed document).map fun op => (some (.text op.1), some (.text op.2))) ∧
      (Operation.listed document).Nodup ∧
      (entries.map fun entry => entry.get? (Text.ofString "name")) =
        ((units tools).map fun unit => some (.text unit.1)) ∧
      ((units tools).map Prod.fst).Nodup := by
  obtain ⟨tools, htools⟩ := exists_ofDocument hservice h
  have hunits := units_eq_map (nodup_ofDocument htools)
  have hpairs : (tools.map fun tool => (tool.operation.path, tool.operation.method)) =
      Operation.listed document := by
    rw [← Operation.map_ofDocument document service.name.display service.displayText?,
      ← Naming.map_nameAll (fun _ _ => rfl), ← (of_ofDocument htools).1, List.map_map]
    rfl
  refine ⟨tools, _, htools, rfl, ?_, Operation.nodup_listed hpaths, ?_, ?_⟩
  · rw [← hpairs, List.map_map, List.map_map]
    rfl
  · rw [hunits, List.map_map, List.map_map]
    rfl
  · rw [hunits, List.map_map]
    exact nodup_ofDocument htools

/-- A document with values of unexpected shapes: three methods are described by objects. -/
def oddDocument : Members :=
  let field (key : String) (v : Json) : Text × Json := (Text.ofString key, v)
  let parameter := Json.object [field "name" (.ofString "ü"), field "in" (.ofString "query"),
    field "schema" (.bool true), field "required" (.ofString "no")]
  [field "swagger" .null, field "info" (.object [field "version" (.array [.integer 1])]),
    field "paths" (.object [
      field "/a" (.object [field "delete" (.object [field "parameters" (.integer 3)]),
        field "get" (.object [field "parameters" (.array [.null, parameter]),
          field "operationId" (.array [])]), field "post" .null]),
      field "b" (.array []),
      field "" (.object [field "put" (.object [field "requestBody" (.integer 1)])])])]

/-- All tools of the document with unexpected shapes can be made. -/
theorem lists_oddDocument :
    ∃ tools entries,
      ofDocument (.ofNameAndVersion (Text.ofString "hr") []) oddDocument = .ok tools ∧
      manifest tools = .array entries ∧
      (entries.map fun entry =>
          (entry.get? (Text.ofString "path"), entry.get? (Text.ofString "method"))) =
        [(some (.ofString "/a"), some (.ofString "GET")),
          (some (.ofString "/a"), some (.ofString "DELETE")),
          (some (.ofString ""), some (.ofString "PUT"))] := by
  have hnamed : (Service.ofNameAndVersion (Text.ofString "hr") []).IsNamed := ⟨⟨_, rfl⟩, .inl rfl⟩
  have hencodable : (Json.object oddDocument).Encodable :=
    Json.encode_fileText.mp (by decide +kernel)
  obtain ⟨tools, entries, htools, hentries, hlisted, -⟩ :=
    ofDocument_lists hnamed hencodable (by decide)
  have hexpected : ((Operation.listed oddDocument).map fun op =>
      (some (Json.text op.1), some (Json.text op.2))) =
      [(some (.ofString "/a"), some (.ofString "GET")),
        (some (.ofString "/a"), some (.ofString "DELETE")),
        (some (.ofString ""), some (.ofString "PUT"))] := by
    have hpairs : Operation.listed oddDocument =
        [(Text.ofString "/a", Text.ofString "GET"), (Text.ofString "/a", Text.ofString "DELETE"),
          (Text.ofString "", Text.ofString "PUT")] := by
      decide +kernel
    rw [hpairs]
    rfl
  exact ⟨tools, entries, htools, hentries, hlisted.trans hexpected⟩

end Tool

end Toolsmith
