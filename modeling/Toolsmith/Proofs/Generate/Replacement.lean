import Toolsmith.Proofs.Generate.Passing
import Toolsmith.Proofs.Json.Reopening

/-!
# Replacing what was there

Output is written to any directory to which a path leads, also a path with detours, whatever files
stand there. What can be written is written: the directory has its units and no other ones then, and
its manifest, and these depend on nothing that was there before. What cannot be written stops the
activity. However it ends, everything else stays, apart from directories that had to be made.
-/

namespace Toolsmith.Generate

variable {w : World} {directory here : Path} {units : List (Text × Text)} {manifest : Json}

/-- What output leaves under one of its names: the unit of this name, if there is one, or the
manifest. -/
def outputEntry (units : List (Text × Text)) (manifest : Json) (name : Text) : Option Entry :=
  if isUnitFile name then
    (units.find? fun unit => Naming.unitFile unit.1 = name).map fun unit =>
      .file (unit.2.encode.getD [])
  else some (.file (manifest.fileText.encode.getD []))

/-- Where output has been written, it stands under its names, whatever has been there. -/
theorem Replaces.get?_eq {files : Tree} (h : Replaces files directory units manifest)
    (hleads : files.Leads directory here) {name : Text} (hname : IsOutput name) :
    files.get? (here ++ [name]) = outputEntry units manifest name := by
  unfold outputEntry
  by_cases hunit : isUnitFile name = true
  · rw [if_pos hunit]
    cases hfind : units.find? fun unit => Naming.unitFile unit.1 = name with
    | some unit =>
      obtain rfl : Naming.unitFile unit.1 = name := by simpa using List.find?_some hfind
      have hholds := h.sources unit (List.mem_of_find?_eq_some hfind)
      obtain ⟨-, bytes, hencode, hget⟩ := (hleads.holds_iff hname.ne_up).mp hholds
      rw [hget, Option.map_some, hencode, Option.getD_some]
    | none =>
      rw [List.find?_eq_none] at hfind
      rw [Option.map_none, ← Option.not_isSome_iff_eq_none, ← hleads.mem_names hname.ne_up,
        h.names name hunit]
      rintro ⟨unit, hmem, rfl⟩
      exact hfind unit hmem (decide_eq_true rfl)
  · rw [if_neg hunit]
    obtain rfl := hname.resolve_left hunit
    obtain ⟨-, bytes, hencode, hget⟩ := (hleads.holds_iff hname.ne_up).mp h.listing
    rw [hget, hencode, Option.getD_some]

/-- Between two trees nothing has changed but output in the directory at a place; where a path led
to no directory, those on its way have been made where nothing stood. -/
def OnlyOutput (directory here : Path) (before after : Tree) : Prop :=
  ∀ place, ¬OutputPlaces here place → after.get? place = before.get? place ∨
    (before.isDirectory directory = false ∧ before.get? place = none ∧
      ∃ part, part <+: directory ∧ after.Leads part place)

/-- Where a path led to a directory, everything but output stays. -/
theorem OnlyOutput.get?_eq {before after : Tree} (h : OnlyOutput directory here before after)
    (hthere : before.isDirectory directory = true) {place : Path}
    (hplace : ¬OutputPlaces here place) :
    after.get? place = before.get? place := by
  refine (h place hplace).resolve_right fun hmade => ?_
  rw [hthere] at hmade
  cases hmade.1

/-- A directory that has been made is not made again. -/
theorem writeOutput_of_made {made : Tree}
    (hmake : w.files.makeDirectories directory = (made, none)) :
    writeOutput directory units manifest w =
      writeOutput directory units manifest { w with files := made } := by
  obtain ⟨here, hleads⟩ := Tree.exists_leads (Tree.isDirectory_of_makeDirectories hmake)
  have hagain := hleads.makeDirectories
  unfold writeOutput
  rw [Action.bind_of_ok (Action.makeDirectories_eq_ok (u := ()).mpr ⟨made, hmake, rfl⟩),
    Action.bind_of_ok (w := { w with files := made })
      (Action.makeDirectories_eq_ok (u := ()).mpr ⟨made, hagain, rfl⟩)]

/-- However writing output ends to a directory that can be made, nothing but output changes. -/
theorem onlyOutput_writeOutput (hslash : ∀ unit ∈ units, CodePoint.char '/' ∉ unit.1) {made : Tree}
    (hmake : w.files.makeDirectories directory = (made, none)) (hleads : made.Leads directory here) :
    OnlyOutput directory here w.files
      (Action.left (writeOutput directory units manifest w)).files := by
  have hchanges : Tree.Changes (OutputPlaces here) made
      (Action.left (writeOutput directory units manifest w)).files := by
    rw [writeOutput_of_made hmake]
    exact preserves_writeOutput (isKeptByOutput_changes hleads) hslash manifest
      { w with files := made } (.refl _ made)
  intro place hplace
  rw [hchanges.frame place hplace]
  rcases (Tree.grows_of_makeDirectories hmake).adds place with heq | ⟨hnone, part, hpart, hmade⟩
  · exact .inl heq
  · refine .inr ⟨?_, hnone, part, hpart, hmade.mono hchanges.keeps⟩
    by_contra hthere
    obtain ⟨_, hbefore⟩ := Tree.exists_leads (Bool.eq_true_of_not_eq_false hthere)
    obtain ⟨rfl, -⟩ := Prod.mk.inj (hbefore.makeDirectories.symm.trans hmake)
    rw [hmade.there] at hnone
    cases hnone

/-- Output goes to a directory that is there or can be made, where only files stand under the names
of output. It is written exactly if the file system takes its paths and its texts have encodings;
what stands under its names then is that of the units and the manifest, whatever has been there.
However the activity ends, nothing else has changed. -/
theorem writeOutput_replaces {made : Tree}
    (hmake : w.files.makeDirectories directory = (made, none))
    (hfiles : HasFiles made directory) (hslash : ∀ unit ∈ units, CodePoint.char '/' ∉ unit.1)
    (hnodup : (units.map Prod.fst).Nodup) :
    ∃ here, made.Leads directory here ∧
      OnlyOutput directory here w.files
        (Action.left (writeOutput directory units manifest w)).files ∧
      (IsWritable w.files.room directory units manifest → ∃ files,
        writeOutput directory units manifest w = .ok () { w with files } ∧
        Replaces files directory units manifest ∧
        ∀ name, IsOutput name → files.get? (here ++ [name]) = outputEntry units manifest name) ∧
      (¬IsWritable w.files.room directory units manifest →
        ∃ fault w', writeOutput directory units manifest w = .error fault w') := by
  obtain ⟨here, hleads⟩ := Tree.exists_leads (Tree.isDirectory_of_makeDirectories hmake)
  refine ⟨here, hleads, onlyOutput_writeOutput hslash hmake hleads, fun hwritable => ?_,
    fun hnot => ?_⟩
  · obtain ⟨w', hwrite⟩ := exists_writeOutput hslash hmake hfiles hwritable
    obtain ⟨files, rfl, hchanges, hreplaces⟩ :=
      replaces_of_writeOutput hslash hnodup hmake hleads hwrite
    exact ⟨files, hwrite, hreplaces, fun name hname =>
      hreplaces.get?_eq (hleads.mono hchanges.keeps) hname⟩
  · cases hwrite : writeOutput directory units manifest w with
    | error fault w' => exact ⟨fault, w', rfl⟩
    | ok u w' =>
      obtain ⟨files, -, hchanges, hreplaces⟩ :=
        replaces_of_writeOutput hslash hnodup hmake hleads hwrite
      obtain ⟨_, _, _, -, -, -, hdocument⟩ := writeOutput_eq_ok.mp hwrite
      have hroom : files.room = w.files.room :=
        hchanges.keeps.room.trans (Tree.grows_of_makeDirectories hmake).room
      exact absurd (hroom ▸ isWritable_of_holds (hleads.mono hchanges.keeps).isDirectory
        hreplaces.sources hreplaces.listing (Action.writeDocument_eq_ok.mp hdocument).1) hnot

/-- A directory with units of another time, one of them hidden, and with what is no output: notes,
and a unit further down. -/
def pastOutput : Tree :=
  let directory := Workplace.tools ++ [Text.ofString "svc"]
  .ofEntries [([], .directory), (Workplace.tools, .directory), (directory, .directory),
    (directory ++ [Text.ofString "keep.py"], .ofString "# old\n"),
    (directory ++ [Text.ofString "old.py"], .ofString "# old\n"),
    (directory ++ [Text.ofString ".old.py"], .ofString "# old\n"),
    (directory ++ [Text.ofString "manifest.json"], .ofString "[1, 2, 3]\n"),
    (directory ++ [Text.ofString "notes.txt"], .ofString "notes"),
    (directory ++ [Text.ofString "more"], .directory),
    (directory ++ [Text.ofString "more", Text.ofString "old.py"], .ofString "# old\n")]
    (by decide) (by decide)

/-- A way to the directory with a detour. -/
def detour : Path :=
  Workplace.tools ++ [Path.up, Text.ofString "tools", Text.ofString "svc"]

/-- Units without a name, with points in the name, and with the name of the manifest. -/
def sampleUnits : List (Text × Text) :=
  [(Text.ofString "keep", Text.ofString "# é\r\n"), ([], Text.ofString "# hidden\n"),
    (Text.ofString "manifest.json", []), (Text.ofString "a..b", Text.ofString "pass")]

/-- The manifest of one of them. -/
def sampleManifest : Json :=
  .array [.record [("name", .text (Text.ofString "keep"))]]

/-- Output takes the place of that of another time, and leaves what is no output. -/
theorem replaces_pastOutput :
    pastOutput.makeDirectories detour = (pastOutput, none) ∧ HasFiles pastOutput detour ∧
      (∀ unit ∈ sampleUnits, CodePoint.char '/' ∉ unit.1) ∧ (sampleUnits.map Prod.fst).Nodup ∧
      IsWritable pastOutput.room detour sampleUnits sampleManifest ∧
      ∃ files, writeOutput detour sampleUnits sampleManifest (.ofFiles pastOutput) =
          .ok () (.ofFiles files) ∧ Replaces files detour sampleUnits sampleManifest ∧
        ∀ rest ∈ [[Text.ofString "notes.txt"], [Text.ofString "more", Text.ofString "old.py"]],
          files.get? (Workplace.tools ++ Text.ofString "svc" :: rest) =
            pastOutput.get? (Workplace.tools ++ Text.ofString "svc" :: rest) := by
  have hleads : pastOutput.Leads detour (Workplace.tools ++ [Text.ofString "svc"]) :=
    ⟨Action.eq_ok_of_toOption (by decide), by decide⟩
  have hfiles : HasFiles pastOutput detour := by decide +kernel
  have hslash : ∀ unit ∈ sampleUnits, CodePoint.char '/' ∉ unit.1 := by decide
  have hnodup : (sampleUnits.map Prod.fst).Nodup := by decide
  have hwritable : IsWritable pastOutput.room detour sampleUnits sampleManifest := by
    refine ⟨isTaken_eq_true.mp (by decide +kernel), ?_, isTaken_eq_true.mp (by decide +kernel),
      Json.encode_fileText.mp (by decide +kernel), by decide⟩
    simp only [← isTaken_eq_true]
    decide +kernel
  obtain ⟨here, hhere, honly, hwritten, -⟩ := @writeOutput_replaces (.ofFiles pastOutput) detour
    sampleUnits sampleManifest pastOutput hleads.makeDirectories hfiles hslash hnodup
  obtain ⟨files, hwrite, hreplaces, -⟩ := hwritten hwritable
  obtain rfl : here = Workplace.tools ++ [Text.ofString "svc"] :=
    Except.ok.inj (hhere.located.symm.trans hleads.located)
  rw [hwrite] at honly
  refine ⟨hleads.makeDirectories, hfiles, hslash, hnodup, hwritable, files, hwrite, hreplaces,
    fun rest hrest => ?_⟩
  refine honly.get?_eq hleads.isDirectory fun houtput => ?_
  obtain ⟨name, hname, heq⟩ := houtput
  rw [List.append_cons, List.append_cancel_left_eq] at heq
  subst heq
  obtain rfl : name = Text.ofString "notes.txt" := by simpa using hrest
  exact absurd hname (by decide)

/-- Output that cannot be written although the names of its units hold no slash: a unit whose name
no file can have, one with a name that is too long, a manifest that is nested too deeply, and one
with an integer of too many digits. -/
def unwritableOutput : List (List (Text × Text) × Json) :=
  [([([.char '\x00'], [])], .array []), ([(List.replicate 253 (.char 'a'), [])], .array []),
    ([], .nested Json.maxDepth), ([], .integer (10 ^ Text.maxDigits))]

/-- A directory of tools in which nothing stands. -/
def emptyTools : Tree :=
  .ofEntries [([], .directory), (Workplace.tools, .directory)] (by decide) (by decide)

/-- Output that cannot be written is not in the directory afterwards, although that was there and
empty. -/
theorem not_replaces_unwritableOutput :
    emptyTools.Leads Workplace.tools Workplace.tools ∧ emptyTools.names Workplace.tools = [] ∧
      ∀ output ∈ unwritableOutput, (∀ unit ∈ output.1, CodePoint.char '/' ∉ unit.1) ∧
        (output.1.map Prod.fst).Nodup ∧ (∀ unit ∈ output.1, unit.2.encode.isSome = true) ∧
        output.2.Encodable ∧
        ¬Replaces (Action.left (writeOutput Workplace.tools output.1 output.2
          (.ofFiles emptyTools))).files Workplace.tools output.1 output.2 := by
  have hnames : ∀ output ∈ unwritableOutput, (∀ unit ∈ output.1, CodePoint.char '/' ∉ unit.1) ∧
      (output.1.map Prod.fst).Nodup ∧ (∀ unit ∈ output.1, unit.2.encode.isSome = true) := by
    decide +kernel
  have hunread : ∀ output ∈ unwritableOutput,
      ((Action.left (writeOutput Workplace.tools output.1 output.2 (.ofFiles emptyTools))).files.read
        (Workplace.manifestIn Workplace.tools)).toOption = none := by
    decide +kernel
  have hencodable : ∀ output ∈ unwritableOutput, output.2.Encodable := by
    have hshort : (Json.array []).Encodable := Json.encode_fileText.mp (by decide)
    have hdeep : (Json.nested Json.maxDepth).Encodable := Json.all_nested (fun _ => trivial) _
    simp only [unwritableOutput, List.forall_mem_cons]
    exact ⟨hshort, hshort, hdeep, .of_integer trivial, List.forall_mem_nil _⟩
  refine ⟨⟨Action.eq_ok_of_toOption (by decide), by decide⟩, by decide, fun output houtput => ?_⟩
  obtain ⟨hslash, hnodup, hencode⟩ := hnames output houtput
  refine ⟨hslash, hnodup, hencode, hencodable output houtput, fun hreplaces => ?_⟩
  obtain ⟨bytes, -, hread⟩ := hreplaces.listing
  have hnone := hunread output houtput
  rw [hread] at hnone
  cases hnone

end Toolsmith.Generate
