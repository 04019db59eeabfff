import Toolsmith.Proofs.Publish.Fidelity

/-!
# What a series of generations leaves to be published

Generations follow one another in the same directory of tools, with other services and other
documents. Publishing finds there, under every name, the manifest of the last generation that has
made tools under it. These are the manifests of the last generation only if it has made tools for
every service for which there have ever been any.
-/

namespace Toolsmith.Publish

variable {services : List Service}

/-- A series of generations that have returned, in a directory of tools in which nothing stood at
first. It has the manifests that each has made, those of the last one first. Between two generations
anything may change outside the directory of tools. -/
inductive History : List Shelf → Tree → Prop
  | start {files : Tree} (hfresh : IsFresh files) : History [] files
  | elsewhere {past : List Shelf} {files files' : Tree} (h : History past files)
      (hroom : files'.room = files.room)
      (hsame : ∀ place, Workplace.tools <+: place → files'.get? place = files.get? place) :
      History past files'
  | run {past : List Shelf} {now : Text} {services : List Service} {world world' : World}
      {summary : Generate.Summary} (h : History past world.files)
      (hkeys : (services.map Service.key).Nodup)
      (hcomponents : ∀ service ∈ services, Path.IsComponent service.key)
      (hrun : Generate.run now services world = .ok summary world') :
      History (.ofServices world.files services :: past) world'.files

namespace Shelf

/-- Under every name the manifest that was made last, where the last ones come first. -/
def latest (past : List Shelf) : Shelf :=
  past.foldr restock []

/-- A name stands on the shelf of the latest manifests if there has ever been one under it. -/
theorem mem_names_latest {past : List Shelf} {name : Text} :
    name ∈ (latest past).names ↔ ∃ shelf ∈ past, name ∈ shelf.names := by
  induction past with
  | nil => simp [latest, names]
  | cons shelf past ih =>
    show name ∈ (restock shelf (latest past)).names ↔ _
    rw [mem_names_restock, ih, List.exists_mem_cons_iff]

/-- Nothing is left of old manifests exactly if there are new ones under all their names. -/
theorem inOrder_restock_eq {new old : Shelf} :
    (restock new old).inOrder = new.inOrder ↔ ∀ name ∈ old.names, name ∈ new.names := by
  rw [← others_eq_nil]
  constructor
  · intro h
    have hlength := congrArg List.length h
    rw [inOrder, inOrder, List.length_mergeSort, List.length_mergeSort, restock,
      List.length_append] at hlength
    exact List.length_eq_zero_iff.mp (by omega)
  · intro hnone
    rw [restock, hnone, List.append_nil]

end Shelf

/-- After a series of generations the directory of tools has the latest manifests. -/
theorem History.stocks {past : List Shelf} {files : Tree} (h : History past files) :
    Stocks files (Shelf.latest past) := by
  induction h with
  | start hfresh => exact stocks_of_fresh hfresh
  | elsewhere h hroom hsame ih => exact ih.of_get?_eq hroom hsame
  | run h hkeys hcomponents hrun ih => exact ih.of_run hkeys hcomponents hrun

/-- After a generation that returns at the end of a series, its summary lists the services whose
tools it has made. Publishing finds their manifests, and under every other name the manifest of the
last generation that has made one. It finds the manifests of the last generation alone exactly if
that has made tools under every name under which there have been any. -/
theorem run_leaves_latest {past : List Shelf} {now : Text} {world world' : World}
    {summary : Generate.Summary} (hpast : History past world.files)
    (hkeys : (services.map Service.key).Nodup)
    (hcomponents : ∀ service ∈ services, Path.IsComponent service.key)
    (hrun : Generate.run now services world = .ok summary world') :
    summary.services = (Generate.listed world.files services).map
        (fun made => Generate.summaryEntry made.1 made.2) ∧
      manifests world' = .ok
        (Shelf.latest (.ofServices world.files services :: past)).inOrder world' ∧
      (manifests world' = .ok (Shelf.ofServices world.files services).inOrder world' ↔
        ∀ shelf ∈ past, ∀ name ∈ shelf.names,
          name ∈ (Shelf.ofServices world.files services).names) := by
  have hmanifests := (hpast.run hkeys hcomponents hrun).stocks.manifests_eq
  refine ⟨?_, hmanifests, ?_⟩
  · obtain ⟨-, -, hsummary, -⟩ := Generate.run_spec hkeys hcomponents hrun
    rw [hsummary, Generate.foldl_addTo]
    rfl
  · have hlatest : Shelf.latest (.ofServices world.files services :: past) =
        Shelf.restock (.ofServices world.files services) (Shelf.latest past) := rfl
    rw [hmanifests, hlatest, EStateM.Result.ok.injEq, and_iff_left rfl, Shelf.inOrder_restock_eq]
    simp only [Shelf.mem_names_latest]
    constructor
    · exact fun h shelf hshelf name hname => h name ⟨shelf, hshelf, hname⟩
    · rintro h name ⟨shelf, hshelf, hname⟩
      exact h shelf hshelf name hname

/-- A series is not changed by a file that is written outside the directory of tools. -/
theorem History.write {past : List Shelf} {files files' : Tree} (h : History past files)
    {path : Path} {bytes : Bytes} (hdirect : path.IsDirect) (hplace : ¬Workplace.tools <+: path)
    (hwrite : files.write path bytes = .ok files') : History past files' := by
  obtain ⟨hchanges, -⟩ := Tree.changes_of_write hdirect hwrite
  refine .elsewhere h hchanges.keeps.room ?_
  intro place hbelow
  apply hchanges.frame
  rintro rfl
  exact hplace hbelow

/-- A service of the sample with a tool. -/
def sampleService : Service :=
  .ofNameAndVersion (Text.ofString "hr") (Text.ofString "v1")

/-- The key of the service is a component of a path. -/
theorem isComponent_sampleService : Path.IsComponent sampleService.key :=
  Generate.isComponent_sampleServices _ List.mem_cons_self

/-- After a generation for the sample and a new schema without operations for the one service with a
tool, another generation for that service can begin. -/
theorem exists_silent_sampleService :
    ∃ past files, History past files ∧ (Shelf.latest past).names = [sampleService.key] ∧
      Generate.IsReady files [sampleService] ∧ Generate.Passes files sampleService ∧
      Generate.outcome files sampleService = .silent := by
  have hkey := isComponent_sampleService
  have hdirect := Workplace.isDirect_schema hkey
  have hstart : History [] (World.ofFiles Generate.sampleFiles).files := .start isFresh_sampleFiles
  obtain ⟨first, w, hfirst⟩ := Generate.exists_run_sampleFiles
  have hpast := hstart.run Generate.nodup_sampleServices Generate.isComponent_sampleServices hfirst
  obtain ⟨after, rfl, -, hchanges, -, hthere, bytes', -, hsummary⟩ := Generate.run_spec
    Generate.nodup_sampleServices Generate.isComponent_sampleServices hfirst
  -- The schema is written anew.
  have hway : after.HasWay (Workplace.schema sampleService) :=
    hchanges.hasWay (Workplace.hasWay_schema hkey (by decide))
  have hfile : after.get? (Workplace.schema sampleService) ≠ some .directory := by
    rw [hchanges.frame]
    · decide
    · rintro (hbefore | ⟨service, hservice, hbelow⟩ | heq)
      · exact absurd hbefore (by decide)
      · exact Workplace.not_prefix_schema (Generate.isComponent_sampleServices service hservice)
          hkey hbelow List.prefix_rfl
      · exact absurd heq (by decide)
  obtain ⟨bytes, hbytes⟩ : ∃ bytes, (Text.ofString "\x7b\x7d").encode = some bytes :=
    Option.isSome_iff_exists.mp (by decide)
  obtain ⟨files, hwrite⟩ := (Tree.locate_direct after hdirect).write_returns_iff.mpr
    ⟨⟨.mono ⟨by decide, by decide⟩ after.ample, hway⟩, hfile⟩
  have hpast' := hpast.write hdirect (by decide) hwrite
  obtain ⟨hchanges', hread⟩ := Tree.changes_of_write hdirect hwrite
  have hholds : Tree.Holds _ (Workplace.schema sampleService) (Text.ofString "\x7b\x7d") :=
    ⟨bytes, hbytes, hread⟩
  have hdocument : Generate.document? _ sampleService = some [] :=
    Generate.document?_eq_some.mpr (Tree.document?_eq_some.mpr
      ⟨_, hholds.text? (by decide), by rfl⟩)
  obtain ⟨hpasses, hsilent⟩ := Generate.Passes.of_silent hkey hdocument (by decide)
  refine ⟨_, _, hpast', ?_, ?_, hpasses, hsilent⟩
  · show List.map Prod.fst _ = _
    decide +kernel
  · refine Generate.isReady_of_silent ?_ (hchanges'.keeps.isDirectory hthere) ?_
      (List.forall_mem_singleton.mpr hsilent)
    · exact hchanges'.keeps.directory [] (hchanges.keeps.directory [] rfl)
    · rw [hchanges'.frame _ (by decide)]
      exact Tree.ne_directory_of_read Generate.isDirect_summary hsummary

/-- A service that has lost its operations is not in the summary of a generation, but its tools are
still found to be published. -/
theorem leaves_latest_sampleService :
    ∃ (past : List Shelf) (world world' : World) (summary : Generate.Summary),
      History past world.files ∧
      Generate.run (Text.ofString "later") [sampleService] world = .ok summary world' ∧
      summary.services = [] ∧ (Shelf.latest past).names = [sampleService.key] ∧
      manifests world' = .ok (Shelf.latest past).inOrder world' ∧
      manifests world' ≠ .ok [] world' := by
  obtain ⟨past, files, hpast, hnames, hready, hpasses, hsilent⟩ := exists_silent_sampleService
  have hcomponents : ∀ service ∈ [sampleService], Path.IsComponent service.key :=
    List.forall_mem_singleton.mpr isComponent_sampleService
  have hkeys : ([sampleService].map Service.key).Nodup := List.nodup_singleton _
  have hnamed : ∀ service ∈ [sampleService], Generate.IsNamed service := by decide
  have hnow : (Text.ofString "later").encode.isSome = true := by decide
  obtain ⟨summary, world', hrun⟩ := (Generate.run_returns_iff (w := .ofFiles files) hnow hkeys
    hcomponents hnamed hready).mpr
      (List.forall_mem_singleton.mpr hpasses)
  have hnothing : Generate.listed files [sampleService] = [] :=
    Generate.listed_eq_nil (List.forall_mem_singleton.mpr hsilent)
  obtain ⟨hservices, hmanifests, -⟩ := run_leaves_latest
    (show History past (World.ofFiles files).files from hpast) hkeys hcomponents hrun
  rw [show (World.ofFiles files).files = files from rfl] at hservices hmanifests
  rw [hnothing] at hservices
  have hlatest : Shelf.latest (.ofServices files [sampleService] :: past) =
      Shelf.latest past := by
    show Shelf.restock _ _ = _
    rw [Shelf.ofServices, hnothing]
    exact List.filter_true _
  rw [hlatest] at hmanifests
  refine ⟨past, .ofFiles files, world', summary, hpast, hrun, hservices, hnames, hmanifests,
    fun hnone => ?_⟩
  rw [hmanifests, EStateM.Result.ok.injEq] at hnone
  have hnil : Shelf.latest past = [] := by
    rw [← List.length_eq_zero_iff, ← List.length_mergeSort]
    exact congrArg List.length hnone.1
  rw [hnil] at hnames
  cases hnames

end Toolsmith.Publish
