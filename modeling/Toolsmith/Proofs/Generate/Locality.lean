import Toolsmith.Proofs.Generate.Run

/-!
# What generating the tools of a service keeps

A service's tools are generated by making their directory, writing files in it and taking units out
of it. A property of the working directory that all such changes keep is kept, however the
generation ends. A property of this kind is that nothing has changed outside the directory.
-/

namespace Toolsmith.Generate

variable {p : Tree → Prop} {directory here : Path} {service : Service}

/-- A property that is kept when a directory is made, and when files are written in it or taken out
of it. -/
structure IsLocal (directory : Path) (p : Tree → Prop) : Prop where
  make : ∀ tree tree' fault?, p tree → tree.makeDirectories directory = (tree', fault?) → p tree'
  write : ∀ name, name ≠ Path.up ∧ name ≠ Path.top → ∀ tree tree' bytes, p tree →
    tree.write (directory ++ [name]) bytes = .ok tree' → p tree'
  remove : ∀ name, name ≠ Path.up ∧ name ≠ Path.top → ∀ tree tree', p tree →
    tree.remove (directory ++ [name]) = .ok tree' → p tree'

/-- A property that is kept when a directory is made, when output is written in it and when units
are taken out of it. -/
structure IsKeptByOutput (directory : Path) (p : Tree → Prop) : Prop where
  make : ∀ tree tree' fault?, p tree → tree.makeDirectories directory = (tree', fault?) → p tree'
  write : ∀ name, IsOutput name → ∀ tree tree' bytes, p tree →
    tree.write (directory ++ [name]) bytes = .ok tree' → p tree'
  remove : ∀ name, isUnitFile name = true → ∀ tree tree', p tree →
    tree.remove (directory ++ [name]) = .ok tree' → p tree'

/-- Output is written and taken away in its directory. -/
theorem IsLocal.isKeptByOutput (h : IsLocal directory p) : IsKeptByOutput directory p :=
  ⟨h.make, fun name hname => h.write name hname.ne_up,
    fun name hname => h.remove name (ne_up_of_isUnitFile hname)⟩

/-- That nothing but output in a directory has changed since the directory was there is kept. -/
theorem isKeptByOutput_changes {before : Tree} (h : before.Leads directory here) :
    IsKeptByOutput directory (Tree.Changes (OutputPlaces here) before) := by
  constructor
  · intro tree tree' fault? hchanges hmake
    rw [(h.mono hchanges.keeps).makeDirectories] at hmake
    cases hmake
    exact hchanges
  · intro name hname tree tree' bytes hchanges hwrite
    have hwritten := ((h.mono hchanges.keeps).changes_of_write hname.ne_up hwrite).1
    exact hchanges.trans (hwritten.mono fun place heq => ⟨name, hname, heq⟩)
  · intro name hname tree tree' hchanges hremove
    have hremoved :=
      ((h.mono hchanges.keeps).changes_of_remove (ne_up_of_isUnitFile hname) hremove).1
    exact hchanges.trans (hremoved.mono fun place heq => ⟨name, .inl hname, heq⟩)

/-- That nothing has changed outside a directory, to which there is a way, is kept. -/
theorem isLocal_changes {before : Tree} (h : directory.IsDirect) (hway : before.HasWay directory) :
    IsLocal directory (Tree.Changes (directory <+: ·) before) := by
  have hname : ∀ name place, place = directory ++ [name] → directory <+: place := by
    rintro name place rfl
    exact List.prefix_append _ _
  constructor
  · intro tree tree' fault? hchanges hmake
    obtain ⟨hadds, -⟩ := Tree.addsWay_of_makeDirectories h hmake
    refine hchanges.trans ((hadds.changes_last (hchanges.hasWay hway)).mono ?_)
    exact fun place hplace => hplace ▸ List.prefix_rfl
  · intro name hdown tree tree' bytes hchanges hwrite
    have hdirect := h.concat hdown.1 hdown.2
    exact hchanges.trans ((Tree.changes_of_write hdirect hwrite).1.mono (hname name))
  · intro name hdown tree tree' hchanges hremove
    have hdirect := h.concat hdown.1 hdown.2
    exact hchanges.trans ((Tree.changes_of_remove hdirect hremove).1.mono (hname name))

/-- Taking stale units out of a directory keeps what output keeps. -/
theorem preserves_removeStale (h : IsKeptByOutput directory p) (wanted names : List Text) :
    Action.Preserves p (removeStale directory wanted names) := by
  induction names with
  | nil => exact (Action.Quiet.pure _).preserves
  | cons name names ih =>
    rw [removeStale]
    split
    · rename_i hstale
      have hunit : isUnitFile name = true := (Bool.and_eq_true_iff.mp hstale).1
      exact .bind (.changeFiles (h.remove name hunit)) fun _ => ih
    · exact ih

/-- Writing units to a directory keeps what output keeps. -/
theorem preserves_writeUnits (h : IsKeptByOutput directory p) {units : List (Text × Text)}
    (hslash : ∀ unit ∈ units, CodePoint.char '/' ∉ unit.1) :
    Action.Preserves p (writeUnits directory units) := by
  induction units with
  | nil => exact (Action.Quiet.pure _).preserves
  | cons unit units ih =>
    obtain ⟨hunit, hunits⟩ := List.forall_mem_cons.mp hslash
    apply Action.Preserves.bind
    · rw [(Naming.isComponent_unitFile hunit).within]
      exact .writeText _ (h.write _ (.inl (isUnitFile_unitFile unit.1)))
    · exact fun _ => ih hunits

/-- Writing the output of a service keeps what output in its directory keeps. -/
theorem preserves_writeOutput (h : IsKeptByOutput directory p) {units : List (Text × Text)}
    (hslash : ∀ unit ∈ units, CodePoint.char '/' ∉ unit.1) (manifest : Json) :
    Action.Preserves p (writeOutput directory units manifest) := by
  refine .bind (.makeDirectories h.make) fun _ => .get_bind fun w => ?_
  refine .bind (preserves_removeStale h _ _) fun _ => ?_
  exact .bind (preserves_writeUnits h hslash) fun _ =>
    .writeDocument manifest (h.write _ (.inr rfl))

/-- Looking for the schema of a service changes nothing. -/
theorem quiet_schemaOf (service : Service) : Action.Quiet (schemaOf service) := by
  have hread : Action.Quiet (readSchema (Workplace.schema service)) := by
    refine (Action.Quiet.readDocument _).bind fun v => ?_
    cases v with
    | object members => exact .pure _
    | _ => exact fun _ => rfl
  refine (Action.Quiet.fileExists _).bind fun there => ?_
  cases there with
  | false => exact .pure none
  | true =>
    refine .tryCatch (hread.bind fun document => .pure _) fun fault => ?_
    by_cases hunreadable : fault.isUnreadable = true
    · rw [if_pos hunreadable]
      exact .pure none
    · rw [if_neg hunreadable]
      exact fun _ => rfl

/-- Generating the tools of a service keeps what is local to their directory. -/
theorem preserves_runService (h : IsLocal (Workplace.toolsOf service) p) (summary : Summary) :
    Action.Preserves p (runService summary service) := by
  refine .bind (quiet_schemaOf service).preserves fun document => ?_
  cases document with
  | none => exact (Action.Quiet.pure _).preserves
  | some document =>
    intro w hw
    apply Action.left_bind (p := fun v => p v.files)
    · intro tools v hresult
      obtain ⟨hmade, rfl⟩ := Action.ofExcept_eq_ok.mp hresult
      cases tools with
      | nil => exact hw
      | cons tool tools =>
        have hslash : ∀ unit ∈ Tool.units (tool :: tools), CodePoint.char '/' ∉ unit.1 := by
          rw [Tool.units_eq_map (Tool.nodup_ofDocument hmade)]
          exact List.forall_mem_map.mpr fun made hmem =>
            Naming.no_slash_of_isNamePoint (Tool.isNamePoint_ofDocument hmade hmem)
        have hwrite := preserves_writeOutput h.isKeptByOutput hslash (Tool.manifest (tool :: tools))
        exact (hwrite.bind fun _ => (Action.Quiet.pure _).preserves) w hw
    · intro fault v hresult
      obtain ⟨-, rfl⟩ := Action.ofExcept_eq_error.mp hresult
      exact hw

end Toolsmith.Generate
