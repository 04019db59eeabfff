import Toolsmith.Proofs.Generate.Agreement
import Toolsmith.Proofs.Publish.Idempotence
import Toolsmith.Proofs.Publish.Shelves
import Toolsmith.Proofs.Text.Order
import Toolsmith.Proofs.Unit.Safety

/-!
# From documents to the registry

What publishing sends after a generation is what the documents say. Every operation is sent once,
in the order of the services' keys and of the documents, with its name, its description, its unit
and its inputs, although all of them have been written to files and read again.
-/

namespace Toolsmith.Publish

variable {services : List Service} {before after : Tree}

/-- Services in the order of their keys. -/
def byKey (services : List Service) : List Service :=
  services.mergeSort fun service other => Text.precedes service.key other.key

/-- The operations of the documents of services, with the names of their tools. -/
def namedOperations (files : Tree) (services : List Service) : List Operation :=
  services.flatMap fun service =>
    match Generate.document? files service with
    | some document => Naming.nameAll (Generate.operations service document)
    | none => []

/-- A tool of the registry that is what an operation asks for: it has the operation's name,
description and unit, and the text of its inputs. -/
structure Carries (op : Operation) (tool : Json) : Prop where
  name : tool.get? (Text.ofString "name") = some (.text op.toolName)
  description : tool.get? (Text.ofString "description") = some (.text op.toolDescription)
  func : ∃ source, Source.ofOperation op = .ok source ∧
    tool.get? (Text.ofString "func") = some (.text source)
  schema : ∃ t, tool.get? (Text.ofString "schema") = some (.text t) ∧
    Json.parse t = .ok (Input.schema op)

/-- A tool of the registry that has a name and a description. -/
structure IsTold (told : Text × Text) (tool : Json) : Prop where
  name : tool.get? (Text.ofString "name") = some (.text told.1)
  description : tool.get? (Text.ofString "description") = some (.text told.2)

/-- What is published of a tool. -/
def Item.ofTool (tool : Tool) : Item where
  name := tool.name
  description := tool.operation.toolDescription
  schema := Input.schema tool.operation
  source := tool.source

/-- The items of the services with tools, service by service in the order of their keys. -/
def itemsByKey (files : Tree) (services : List Service) : List (Text × List Item) :=
  (Generate.listed files (byKey services)).map fun made => (made.1.key, made.2.map Item.ofTool)

/-- The items of all services are those of their tools. -/
theorem flatMap_itemsByKey (files : Tree) (services : List Service) :
    (itemsByKey files services).flatMap Prod.snd =
      ((Generate.listed files (byKey services)).flatMap Prod.snd).map Item.ofTool := by
  rw [itemsByKey, List.flatMap_map, List.map_flatMap]

/-- The directory of a service with tools lists what is published of them. -/
theorem lists_of_isDone {service : Service} {tools : List Tool}
    (hkey : Path.IsComponent service.key)
    (houtcome : Generate.outcome before service = .listed tools)
    (h : Generate.IsDone before after service) :
    Lists after service.key (tools.map Item.ofTool) := by
  obtain ⟨document, -, hmade, hmirrors, -, -, hmanifest⟩ :=
    Generate.mirrors_of_isDone houtcome h
  have hdirectory := Workplace.isDirect_toolsOf hkey
  have hencodable := hmirrors.encodable
  have hdescribes : ∀ tool ∈ tools,
      Describes after service.key tool.entry (Item.ofTool tool) := by
    intro tool htool
    have hfile := Naming.isComponent_unitFile
      (Naming.no_slash_of_isNamePoint (Tool.isNamePoint_ofDocument hmade htool))
    have hpath : unitPath service.key (Naming.unitFile tool.name) =
        Generate.unitPath (Workplace.toolsOf service) tool.name := by
      rw [unitPath, hfile.within, Generate.unitPath, Workplace.toolsOf_eq hkey]
    have hdirect : Path.IsDirect (Generate.unitPath (Workplace.toolsOf service) tool.name) :=
      hdirectory.component hfile
    have hholds : after.Holds (Generate.unitPath (Workplace.toolsOf service) tool.name)
        tool.source :=
      hmirrors.sources (tool.name, tool.source) (List.mem_map_of_mem htool)
    have hentry : tool.entry.Encodable := hencodable.item (List.mem_map_of_mem htool)
    have hname : tool.entry.get? (Text.ofString "name") = some (.text tool.name) := rfl
    have hdescription : tool.entry.get? (Text.ofString "description") =
        some (.text tool.operation.toolDescription) := rfl
    refine ⟨rfl, rfl, rfl, ⟨Naming.unitFile tool.name, rfl, hfile, ?_, ?_⟩,
      (hentry.of_part (.of_get? hname)).self, (hentry.of_part (.of_get? hdescription)).self, ?_⟩
    · obtain ⟨bytes, -, hread⟩ := hholds
      obtain ⟨hway, hget⟩ := (Tree.read_eq_ok hdirect).mp hread
      rw [hpath]
      exact (Tree.exists?_eq_ok_true hdirect).mpr ⟨hway, by rw [hget]; rfl⟩
    · rw [hpath]
      exact hholds.text? (Tool.not_mem_source hmade htool)
    · obtain ⟨bytes, hencode, -⟩ := hholds
      show tool.source.encode.isSome = true
      rw [hencode]
      rfl
  rw [Workplace.toolsOf_eq hkey] at hmanifest
  refine ⟨Tree.exists?_of_document? (Workplace.isDirect_manifestIn (isDirect_directory hkey))
    hmanifest, _, hmanifest, ?_⟩
  rw [List.forall₂_map_left_iff, List.forall₂_map_right_iff]
  exact List.forall₂_same.mpr hdescribes

/-- A tool that is published as its manifest says carries its operation. -/
theorem carries_ofTool {service : Service} {document : Members} {tools : List Tool}
    {units : List (Text × Text)} {directory : Path}
    (hmade : Tool.ofDocument service document = .ok tools)
    (hmirrors : Generate.Mirrors after directory units (Tool.manifest tools))
    (hregular : (Tool.manifest tools).Regular) (hstable : (Tool.manifest tools).Stable)
    {tool : Tool} (htool : tool ∈ tools) (turn : Nat) :
    Carries tool.operation ((Item.ofTool tool).tool turn) := by
  have hpart := Tool.part_manifest htool
  have hencodable := hmirrors.encodable
  have hparse := Json.parse_oneLine (hregular.of_part hpart) (hstable.of_part hpart)
    (hencodable.of_part hpart) (hpart.depth_le.trans hmirrors.fits.depth)
  exact ⟨rfl, rfl, ⟨tool.source, (Tool.of_ofDocument hmade).2 tool htool, rfl⟩, _, rfl, hparse⟩

/-- Tools that are published in order carry their operations in order. -/
theorem forall₂_carries {made : List Tool} (turn : Nat)
    (h : ∀ tool ∈ made, ∀ turn, Carries tool.operation ((Item.ofTool tool).tool turn)) :
    List.Forall₂ Carries (made.map Tool.operation) (tools turn (made.map Item.ofTool)) := by
  induction made generalizing turn with
  | nil => exact .nil
  | cons tool made ih =>
    obtain ⟨htool, hmade⟩ := List.forall_mem_cons.mp h
    exact .cons (htool turn) (ih (turn + 1) hmade)

/-- Where no tool fails to be made, the operations are those of the tools. -/
theorem namedOperations_eq (h : ∀ service ∈ services, ∀ fault,
      Generate.outcome before service ≠ .failed fault) :
    namedOperations before services =
      ((Generate.listed before services).flatMap Prod.snd).map Tool.operation := by
  induction services with
  | nil => rfl
  | cons service services ih =>
    obtain ⟨hservice, hservices⟩ := List.forall_mem_cons.mp h
    have hrest := ih hservices
    unfold namedOperations Generate.listed Generate.outcome at *
    rw [List.flatMap_cons, List.filterMap_cons, hrest]
    cases hdocument : Generate.document? before service with
    | none => rfl
    | some document =>
      simp only [hdocument] at hservice ⊢
      by_cases hempty : (Generate.operations service document).isEmpty = true
      · rw [List.isEmpty_iff.mp hempty]
        rfl
      · simp only [if_neg hempty] at hservice ⊢
        cases hmade : Tool.ofDocument service document with
        | error fault =>
          rw [hmade] at hservice
          exact absurd rfl (hservice fault)
        | ok tools =>
          simp only [List.flatMap_cons, List.map_append, (Tool.of_ofDocument hmade).1]
          rfl

/-- There are as many items as operations of the documents, where no tool fails to be made. -/
theorem length_itemsByKey (h : ∀ service ∈ byKey services, ∀ fault,
      Generate.outcome before service ≠ .failed fault) :
    ((itemsByKey before services).flatMap Prod.snd).length =
      (namedOperations before (byKey services)).length := by
  rw [flatMap_itemsByKey, namedOperations_eq h, List.length_map, List.length_map]

/-- Where all services are done, no tool has failed to be made. -/
theorem outcome_ne_failed (h : ∀ service ∈ services, Generate.IsDone before after service) :
    ∀ service ∈ byKey services, ∀ fault, Generate.outcome before service ≠ .failed fault := by
  intro service hservice fault hfailed
  have hdone := h service (List.mem_mergeSort.mp hservice)
  unfold Generate.IsDone at hdone
  rw [hfailed] at hdone
  exact hdone

/-- Nothing stands in the directory of tools. -/
def IsFresh (files : Tree) : Prop :=
  ∀ place, Workplace.tools <+: place → place ≠ Workplace.tools → files.get? place = none

/-- Only the entries of a tree have to be looked at to see that nothing stands in its directory of
tools. -/
theorem isFresh_of_entries {files : Tree}
    (h : ∀ e ∈ files.entries, Workplace.tools <+: e.1 → e.1 = Workplace.tools) : IsFresh files :=
  Workplace.get?_eq_none_of_entries h

/-- Where nothing stands in the directory of tools, there are no manifests. -/
theorem stocks_of_fresh {files : Tree} (h : IsFresh files) : Stocks files [] := by
  have hnone : ∀ name, files.get? (Workplace.tools ++ [name]) = none := fun name =>
    h _ (List.prefix_append _ _) (by simp)
  refine ⟨List.nodup_nil, List.forall_mem_nil _, List.forall_mem_nil _, List.forall_mem_nil _, ?_, ?_⟩
  · intro name hsome
    rw [hnone name] at hsome
    cases hsome
  · exact Tree.ne_directory_of_none (h Workplace.summary (List.prefix_append _ _) (by decide))

/-- After a generation in a directory of tools in which nothing stood, a directory stands in it
exactly for every service with tools. -/
theorem mem_directories {now : Text} {world world' : World} {summary : Generate.Summary}
    (hkeys : (services.map Service.key).Nodup)
    (hcomponents : ∀ service ∈ services, Path.IsComponent service.key)
    (hfresh : IsFresh world.files)
    (h : Generate.run now services world = .ok summary world') {name : Text} :
    name ∈ directories world'.files ↔
      name ∈ (Generate.listed world.files services).map fun made => made.1.key := by
  have hstocks := (stocks_of_fresh hfresh).of_run hkeys hcomponents h
  rw [hstocks.mem_directories, Shelf.mem_names_restock, Shelf.mem_names_ofServices, List.mem_map]
  simp [Shelf.names]

/-- A service is in the sorted list exactly if it is in the list. -/
theorem mem_byKey {service : Service} : service ∈ byKey services ↔ service ∈ services :=
  List.mem_mergeSort

/-- After a generation in a directory of tools in which nothing stood, the directories are those of
the services with tools, in the order of their keys. -/
theorem directories_eq (hkeys : (services.map Service.key).Nodup)
    (hnames : (directories after).Nodup)
    (hmem : ∀ name, name ∈ directories after ↔
      name ∈ (Generate.listed before services).map fun made => made.1.key) :
    directories after = (Generate.listed before (byKey services)).map fun made => made.1.key := by
  have hbyKey : (byKey services).Pairwise fun service other =>
      Text.precedes service.key other.key = true := by
    apply List.pairwise_mergeSort
    · exact fun _ _ _ => Text.precedes_trans
    · exact fun _ _ => Text.precedes_total _ _
  have hnodup : (byKey services).Pairwise fun service other => service.key ≠ other.key :=
    ((List.mergeSort_perm services _).pairwise_iff Ne.symm).mpr
      (List.pairwise_map.mp hkeys)
  refine Text.eq_of_pairwise (pairwise_directories after)
    (List.pairwise_map.mpr (Generate.pairwise_listed before hbyKey)) hnames
    (List.pairwise_map.mpr (Generate.pairwise_listed before hnodup)) fun name => ?_
  rw [hmem]
  simp only [List.mem_map, Prod.exists, Generate.mem_listed, mem_byKey]

/-- What a generation in a directory of tools in which nothing stood leaves to be published. -/
theorem listsAll_of_run {now : Text} {world world' : World} {summary : Generate.Summary}
    (hkeys : (services.map Service.key).Nodup)
    (hcomponents : ∀ service ∈ services, Path.IsComponent service.key)
    (hfresh : IsFresh world.files)
    (h : Generate.run now services world = .ok summary world') :
    ListsAll world'.files (directories world'.files) (itemsByKey world.files services) := by
  obtain ⟨after, rfl, -, -, hdone, -⟩ := Generate.run_spec hkeys hcomponents h
  have hdirectories := directories_eq hkeys (nodup_directories after) fun name =>
    mem_directories hkeys hcomponents hfresh h
  have hlists : ∀ listing ∈ itemsByKey world.files services,
      Path.IsComponent listing.1 ∧ Lists after listing.1 listing.2 := by
    intro listing hlisting
    obtain ⟨⟨service, tools⟩, hmade, rfl⟩ := List.mem_map.mp hlisting
    obtain ⟨hservice, houtcome⟩ := Generate.mem_listed.mp hmade
    have hservice' := mem_byKey.mp hservice
    have hkey := hcomponents service hservice'
    exact ⟨hkey, lists_of_isDone hkey houtcome (hdone service hservice')⟩
  have hall := ListsAll.of_forall hlists
  rw [itemsByKey, List.map_map] at hall
  show ListsAll after (directories after) _
  rw [hdirectories]
  exact hall

/-- What is published after a generation in a directory of tools in which nothing stood carries the
operations of all documents, in the order of the services' keys and of the documents. -/
theorem run_carries {client : Registry.Client} {clock : Clock} {now : Text}
    {world world' world'' : World}
    {summary : Generate.Summary} {result : Result} (hkeys : (services.map Service.key).Nodup)
    (hcomponents : ∀ service ∈ services, Path.IsComponent service.key)
    (hfresh : IsFresh world.files)
    (hgenerate : Generate.run now services world = .ok summary world')
    (hpublish : run client clock world' = .ok result world'') :
    ∃ requests bodies, world''.sent = world'.sent ++ requests ∧
      written requests = bodies.map some ∧
      List.Forall₂ Carries (namedOperations world.files (byKey services)) bodies := by
  have hlists := listsAll_of_run hkeys hcomponents hfresh hgenerate
  obtain ⟨after, rfl, -, -, hdone, -⟩ := Generate.run_spec hkeys hcomponents hgenerate
  have hoperations := namedOperations_eq (outcome_ne_failed hdone)
  have hcarries : ∀ tool ∈ (Generate.listed world.files (byKey services)).flatMap Prod.snd,
      ∀ turn, Carries tool.operation ((Item.ofTool tool).tool turn) := by
    intro tool htool
    obtain ⟨⟨service, tools⟩, hlisted, htool'⟩ := List.mem_flatMap.mp htool
    obtain ⟨hservice, houtcome⟩ := Generate.mem_listed.mp hlisted
    obtain ⟨document, -, htools, hmirrors, hregular, hstable, -⟩ :=
      Generate.mirrors_of_isDone houtcome (hdone service (mem_byKey.mp hservice))
    exact carries_ofTool htools hmirrors hregular hstable htool'
  rw [run_eq hlists] at hpublish
  obtain ⟨requests, hsent, hwritten⟩ := (sends_runItems hpublish).log
  refine ⟨requests, _, hsent, hwritten, ?_⟩
  rw [hoperations, flatMap_itemsByKey]
  exact forall₂_carries 0 hcarries

/-- A generation does not write the record of publishing. -/
theorem not_state_of_generation (hcomponents : ∀ service ∈ services, Path.IsComponent service.key) :
    ¬(Workplace.state <+: Workplace.tools ∨
      (∃ service ∈ services, Workplace.toolsOf service <+: Workplace.state) ∨
      Workplace.state = Workplace.summary) := by
  rintro (hbefore | ⟨service, hservice, hprefix⟩ | heq)
  · exact absurd hbefore (by decide)
  · rw [Workplace.toolsOf_eq (hcomponents service hservice)] at hprefix
    exact absurd hprefix.length_le (by simp [Workplace.tools, Workplace.state])
  · exact absurd heq (by decide)

/-- After a generation in a directory of tools in which nothing stood, the working directory is
prepared for publishing. -/
theorem isPrepared_of_run {now : Text} {world world' : World} {summary : Generate.Summary}
    {members published : Members} (hkeys : (services.map Service.key).Nodup)
    (hcomponents : ∀ service ∈ services, Path.IsComponent service.key)
    (hfresh : IsFresh world.files) (hroot : world.files.get? [] = some .directory)
    (hrecord : HasRecord world.files members published)
    (hencodable : (Json.object members).Encodable)
    (h : Generate.run now services world = .ok summary world') :
    IsPrepared world'.files (itemsByKey world.files services) members published := by
  have hlists := listsAll_of_run hkeys hcomponents hfresh h
  obtain ⟨after, rfl, -, hchanges, -⟩ := Generate.run_spec hkeys hcomponents h
  exact ⟨hchanges.keeps.directory [] hroot, hlists,
    hrecord.of_changes hroot hchanges (not_state_of_generation hcomponents), hencodable⟩

/-- In the working directory of the sample nothing stands in the directory of tools. -/
theorem isFresh_sampleFiles : IsFresh Generate.sampleFiles :=
  isFresh_of_entries (by decide)

/-- A working directory with the schemas of two services. Their texts hold quotes, line ends and
characters beyond ASCII. -/
def annotatedFiles : Tree :=
  let file (pieces : List String) : Entry :=
    .file ((Text.encode (pieces.flatMap Text.ofString)).getD [])
  .ofEntries [([], .directory), (Workplace.schemas, .directory),
    (Workplace.schemas ++ [Text.ofString "tax_v1.json"],
      file ["\x7b\"paths\": \x7b", "\"/a/\x7bid\x7d\": \x7b",
        "\"get\": \x7b\"summary\": ", "\"a \\\"é\\\"\\r\\nb\", ",
        "\"parameters\": [\x7b", "\"name\": \"id\", ", "\"in\": \"path\", ",
        "\"description\": ", "\"𝄞\\r\"\x7d]\x7d, ",
        "\"put\": \x7b", "\"requestBody\": \x7b", "\"description\": ",
        "\"'\\u2028'\"\x7d\x7d\x7d\x7d\x7d"]),
    (Workplace.schemas ++ [Text.ofString "pay_v2.json"],
      file ["\x7b\"paths\": \x7b\"/b\": \x7b", "\"get\": \x7b\x7d, ",
        "\"post\": \x7b", "\"description\": ", "\"\\\"\\\"\\\"\\rü\\\\\"\x7d\x7d\x7d\x7d"])]
    (by decide) (by decide)

/-- The service with the earlier key. -/
def payService : Service :=
  .ofNameAndVersion (Text.ofString "pay") (Text.ofString "v2")

/-- The service with the later key. -/
def taxService : Service :=
  .ofNameAndVersion (Text.ofString "tax") (Text.ofString "v1")

/-- The two services, the one with the later key first. -/
def annotatedServices : List Service :=
  [taxService, payService]

/-- The names and descriptions of their tools in the order in which these are published. -/
def annotations : List (Text × Text) :=
  [("Pay-B-GET-getB", "[Pay] GET /b"),
    ("Pay-B-POST-postB", "[Pay] POST /b - \"\"\"\rü\\"),
    ("Tax-A-GET-getA", "[Tax] GET /a/\x7bid\x7d - a \"é\"\r\nb"),
    ("Tax-A-PUT-putA", "[Tax] PUT /a/\x7bid\x7d")].map fun tool =>
      (Text.ofString tool.1, Text.ofString tool.2)

/-- The services in the order of their keys. -/
theorem byKey_annotatedServices : byKey annotatedServices = [payService, taxService] := by
  have hlater : taxService.key.precedes payService.key = false := by decide
  simp [byKey, annotatedServices, List.mergeSort, hlater]

/-- The operations of their documents. -/
theorem namedOperations_annotatedServices :
    (namedOperations annotatedFiles (byKey annotatedServices)).map
      (fun op => (op.toolName, op.toolDescription)) = annotations := by
  rw [byKey_annotatedServices]
  decide +kernel

/-- The keys of the services are different. -/
theorem nodup_annotatedServices : (annotatedServices.map Service.key).Nodup := by
  decide

/-- The keys of the services are components of paths. -/
theorem isComponent_annotatedServices :
    ∀ service ∈ annotatedServices, Path.IsComponent service.key := by
  decide

/-- Nothing stands in the directory of tools. -/
theorem isFresh_annotatedFiles : IsFresh annotatedFiles :=
  isFresh_of_entries (by decide)

/-- A generation for the services returns in the working directory. -/
theorem exists_run_annotatedFiles :
    ∃ summary world', Generate.run (Text.ofString "now") annotatedServices
      (.ofFiles annotatedFiles) = .ok summary world' := by
  have hnamed : ∀ service ∈ annotatedServices, Generate.IsNamed service := by decide
  have hpasses : ∀ service ∈ annotatedServices, Generate.Passes annotatedFiles service := by
    decide +kernel
  have hcount :
      Generate.IsCount (Generate.count (Generate.listed annotatedFiles annotatedServices)) := by
    unfold Generate.IsCount
    decide +kernel
  exact Generate.exists_run_of_none (by decide) nodup_annotatedServices (List.Subset.refl _)
    isComponent_annotatedServices hnamed rfl (by decide) isFresh_annotatedFiles hcount hpasses

/-- A generation for the two services and a publication return. What is published says what their
documents say, the service with the earlier key first, and its texts are those of the documents. -/
theorem carries_annotatedServices :
    ∃ summary result world' world'' requests bodies,
      Generate.run (Text.ofString "now") annotatedServices (.ofFiles annotatedFiles) =
        .ok summary world' ∧
      run Registry.Memory.client ticking world' = .ok result world'' ∧
      world''.sent = world'.sent ++ requests ∧ written requests = bodies.map some ∧
      List.Forall₂ Carries (namedOperations annotatedFiles (byKey annotatedServices)) bodies ∧
      List.Forall₂ IsTold annotations bodies := by
  obtain ⟨summary, world', hgenerate⟩ := exists_run_annotatedFiles
  have hprepared := isPrepared_of_run nodup_annotatedServices isComponent_annotatedServices
    isFresh_annotatedFiles rfl ⟨.inl ⟨by rfl, rfl⟩, rfl⟩
    lasting_emptyState.encodable hgenerate
  obtain ⟨after, rfl, -, -, hdone, -⟩ := Generate.run_spec nodup_annotatedServices
    isComponent_annotatedServices hgenerate
  have hmade : ∀ service ∈ byKey annotatedServices, ∀ fault,
      Generate.outcome annotatedFiles service ≠ .failed fault :=
    outcome_ne_failed hdone
  have hlength : ((itemsByKey annotatedFiles annotatedServices).flatMap Prod.snd).length =
      annotations.length := by
    rw [length_itemsByKey hmade, ← namedOperations_annotatedServices, List.length_map]
  have hstore : IsStore Registry.Memory.client (Registry.Memory.tools []) :=
    ⟨⟨List.forall_mem_nil _, List.nodup_nil⟩, List.forall_mem_nil _⟩
  obtain ⟨result, world'', hpublish, -⟩ := exists_settles Registry.Memory.serves_client hstore
    hprepared
    (show 0 + 0 + 2 + List.length (List.flatMap Prod.snd
        (itemsByKey annotatedFiles annotatedServices)) ≤ Registry.Memory.capacity by
      rw [hlength]
      decide) encodes_ticking
  obtain ⟨requests, bodies, hsent, hwritten, hcarries⟩ :=
    run_carries nodup_annotatedServices isComponent_annotatedServices
      isFresh_annotatedFiles hgenerate hpublish
  refine ⟨summary, result, _, world'', requests, bodies, hgenerate, hpublish, hsent, hwritten,
    hcarries, ?_⟩
  rw [← namedOperations_annotatedServices, List.forall₂_map_left_iff]
  exact hcarries.imp fun _ _ h => ⟨h.name, h.description⟩

end Toolsmith.Publish
