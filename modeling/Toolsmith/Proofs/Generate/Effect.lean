import Toolsmith.Proofs.Generate.Totals

/-!
# What a run leaves

A run over services puts on the tree what the outcome of each service leaves, that of the later ones
over that of the earlier ones. Several services may have the same key, so that one replaces in a
directory what another has written there; but none of them changes the schema of any, so all
outcomes are those of the beginning.
-/

namespace Toolsmith.Generate

variable {w w' : World} {summary summary' : Summary} {service : Service} {services : List Service}

/-- What is left where what follows from an outcome has been written. -/
def Outcome.overlay (service : Service) : Outcome → Overlay
  | listed tools =>
    outputOverlay (Workplace.toolsOf service) (Tool.units tools) (Tool.manifest tools)
  | _ => .empty

/-- Writing what follows from the outcome of a service leaves the same whatever has stood there. -/
theorem covers_of_write (hkey : Path.IsComponent service.key) {files : Tree}
    (hwrite : (outcome files service).write service w = .ok () w') :
    ((outcome files service).overlay service).Covers w.files w'.files := by
  rcases Outcome.write_cases hwrite with ⟨tools, houtcome, hwrite⟩ | ⟨houtcome, rfl⟩
  · rw [houtcome]
    exact covers_writeOutput (Workplace.isDirect_toolsOf hkey) (no_slash_units houtcome) hwrite
  · rcases houtcome with houtcome | houtcome <;> rw [houtcome] <;> exact Overlay.covers_empty w.files

/-- What an outcome leaves is in the directory of the service's tools, or on the way to it. -/
theorem Outcome.overlay_eq_none (outcome : Outcome) {place : Path}
    (hbelow : ¬Workplace.toolsOf service <+: place) (hway : ¬place <+: Workplace.toolsOf service) :
    outcome.overlay service place = none := by
  cases outcome with
  | listed tools => exact outputOverlay_eq_none hbelow hway
  | _ => rfl

/-- What a run over services leaves, that of the later ones over that of the earlier ones. -/
def overlayOf (files : Tree) : List Service → Overlay
  | [] => .empty
  | service :: rest => (overlayOf files rest).onto ((outcome files service).overlay service)

/-- What a run over services leaves depends on their outcomes only. -/
theorem overlayOf_congr {files files' : Tree}
    (h : ∀ service ∈ services, outcome files' service = outcome files service) :
    overlayOf files' services = overlayOf files services := by
  induction services with
  | nil => rfl
  | cons service services ih =>
    obtain ⟨hservice, hrest⟩ := List.forall_mem_cons.mp h
    rw [overlayOf, overlayOf, ih hrest, hservice]

/-- A run that returns has put what its services leave on the tree, also where services have the
same key. -/
theorem covers_of_runFrom (hcomponents : ∀ service ∈ services, Path.IsComponent service.key)
    (hthere : w.files.isDirectory Workplace.tools = true)
    (h : runFrom summary services w = .ok summary' w') :
    (overlayOf w.files services).Covers w.files w'.files := by
  induction services generalizing w summary with
  | nil =>
    obtain ⟨-, rfl⟩ := Action.pure_eq_ok.mp h
    exact Overlay.covers_empty w.files
  | cons service services ih =>
    obtain ⟨hkey, hrestComponents⟩ := List.forall_mem_cons.mp hcomponents
    obtain ⟨middle, v, hstep, hrest⟩ := Action.bind_eq_ok.mp h
    have hcovers := covers_of_write hkey (runService_writes hkey hstep).1
    obtain ⟨files, rfl, -, hchanges, -⟩ :=
      runService_spec hkey (Workplace.hasWay_toolsOf hkey hthere) hstep
    have hcovers' :=
      ih hrestComponents (hchanges.keeps.isDirectory hthere) hrest
    have houtcome : ∀ other ∈ services, outcome files other = outcome w.files other :=
      fun other hother => outcome_of_changes_toolsOf hkey (hrestComponents other hother) hchanges
    rw [overlayOf_congr houtcome] at hcovers'
    exact hcovers.trans hcovers'

/-- A run that returns has added the outcomes that its services have once the directory of all tools
is made to its summary, and has put what they leave, and the summary, on the tree. -/
theorem run_effect {now : Text} (hcomponents : ∀ service ∈ services, Path.IsComponent service.key)
    (h : run now services w = .ok summary w') :
    ∃ made files, w.files.makeDirectories Workplace.tools = (made, none) ∧
      w' = { w with files } ∧
      summary = services.foldl
        (fun summary service => (outcome made service).addTo summary service) .empty ∧
      Tree.Changes (fun place => (∃ service ∈ services, Workplace.toolsOf service <+: place) ∨
        place = Workplace.summary) made files ∧
      ((Overlay.file Workplace.summary (summary.toJson now).fileText).onto
        (overlayOf made services)).Covers made files := by
  obtain ⟨made, middle, hmade, hrun, hwrite⟩ := run_eq_ok.mp h
  obtain ⟨-, hthere⟩ := Tree.addsWay_of_makeDirectories Workplace.isDirect_tools hmade
  have hcovers := covers_of_runFrom hcomponents (hthere rfl) hrun
  obtain ⟨filled, rfl, hfold, hchanges⟩ := runFrom_spec hcomponents (hthere rfl) hrun
  obtain ⟨-, htext⟩ := Action.writeDocument_eq_ok.mp hwrite
  have hlast := Action.covers_of_writeText isDirect_summary htext
  obtain ⟨files, rfl, hmore, -⟩ := Action.writeText_spec isDirect_summary htext
  refine ⟨made, files, hmade, rfl, hfold, ?_, hcovers.trans hlast⟩
  exact (hchanges.mono fun place hplace => .inl hplace).trans
    (hmore.mono fun place hplace => .inr hplace)

end Toolsmith.Generate
