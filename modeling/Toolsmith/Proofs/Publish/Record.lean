import Toolsmith.Proofs.Json.Lasting
import Toolsmith.Proofs.Publish.Attempts

/-!
# What the record holds

The record of publishing is an object with the published tools by name. After some successes it is
the object that was read, where every name that succeeded has the value of its last success. It is
written as a document that is read back as it is, or it is nested too deeply and nothing is written.
-/

namespace Toolsmith

namespace Publish

variable {clock : Clock} {now : Text} {w w' : World}

/-- Names that are told apart as keys of a record exactly if they are written apart. -/
def TellsApart (names : List Json) : Prop :=
  ∀ a ∈ names, ∀ b ∈ names, a.sameKey b = true ↔ keyText a = keyText b

instance (names : List Json) : Decidable (TellsApart names) :=
  inferInstanceAs (Decidable (∀ a ∈ names, ∀ b ∈ names, a.sameKey b = true ↔ keyText a = keyText b))

/-- Texts are written as they are told apart. -/
theorem tellsApart_of_texts {names : List Json} (h : ∀ name ∈ names, ∃ t, name = .text t) :
    TellsApart names := by
  intro a ha b hb
  obtain ⟨s, rfl⟩ := h a ha
  obtain ⟨t, rfl⟩ := h b hb
  exact beq_iff_eq

/-- The published tools after some successes, each with its name and the value that is recorded. -/
def recorded (published : Members) (successes : List (Json × Json)) : Members :=
  successes.foldl (fun members s => Members.set (keyText s.1) s.2 members) published

/-- One more success takes its name over. -/
theorem recorded_append (published : Members) (successes : List (Json × Json)) (s : Json × Json) :
    recorded published (successes ++ [s]) =
      Members.set (keyText s.1) s.2 (recorded published successes) := by
  rw [recorded, List.foldl_append]
  rfl

/-- A name that has succeeded has the value of its last success, and any other the one it had. -/
theorem get?_recorded (published : Members) (successes : List (Json × Json)) (key : Text) :
    Members.get? (recorded published successes) key =
      ((successes.reverse.find? fun s => keyText s.1 = key).map Prod.snd).or
        (Members.get? published key) := by
  induction successes using List.reverseRecOn with
  | nil => rfl
  | append_singleton successes s ih =>
    rw [recorded_append, Members.get?_set, ih, List.reverse_append, List.reverse_singleton,
      List.singleton_append, List.find?_cons]
    by_cases h : keyText s.1 = key
    · simp [h]
    · have h' : key ≠ keyText s.1 := fun heq => h heq.symm
      simp [h, h']

/-- The document that is written: the one that was read with other published tools, and with the
time of the last run. -/
def saved (now : Text) (members published : Members) : Json :=
  .object (Members.set (Text.ofString "lastRun") (.text now)
    (Members.set publishedKey (.object published) members))

/-- The published tools of a record, by the keys that they are written under. -/
def writtenTools (tools : List (Json × Json)) : Members :=
  tools.map fun tool => (keyText tool.1, tool.2)

/-- A success is recorded under the key that its name is written as, if names are told apart as
they are written. -/
theorem writtenTools_setTool {names : List Json} (hnames : TellsApart names) {name : Json}
    (hname : name ∈ names) (value : Json) {tools : List (Json × Json)}
    (htools : ∀ tool ∈ tools, tool.1 ∈ names) :
    writtenTools (Record.setTool name value tools) =
      Members.set (keyText name) value (writtenTools tools) := by
  induction tools with
  | nil => rfl
  | cons tool tools ih =>
    obtain ⟨k, v⟩ := tool
    obtain ⟨hk, htools⟩ := List.forall_mem_cons.mp htools
    have hsame := hnames k hk name hname
    simp only [Record.setTool, writtenTools, List.map_cons, Members.set]
    by_cases hkey : k.sameKey name = true
    · rw [if_pos hkey, if_pos (hsame.mp hkey), List.map_cons, hsame.mp hkey]
    · rw [if_neg hkey, if_neg fun h => hkey (hsame.mpr h), List.map_cons]
      exact congrArg _ (ih htools)

/-- A success brings no name but its own. -/
theorem mem_setTool {name value : Json} {tools : List (Json × Json)} {tool : Json × Json}
    (h : tool ∈ Record.setTool name value tools) :
    tool.1 = name ∨ ∃ other ∈ tools, other.1 = tool.1 := by
  induction tools with
  | nil => exact .inl (by rw [List.mem_singleton.mp h])
  | cons first tools ih =>
    obtain ⟨k, v⟩ := first
    unfold Record.setTool at h
    split at h
    · rcases List.mem_cons.mp h with rfl | h
      · exact .inr ⟨(k, v), List.mem_cons_self, rfl⟩
      · exact .inr ⟨tool, List.mem_cons_of_mem _ h, rfl⟩
    · rcases List.mem_cons.mp h with rfl | h
      · exact .inr ⟨(k, v), List.mem_cons_self, rfl⟩
      · rcases ih h with heq | ⟨other, hother, heq⟩
        · exact .inl heq
        · exact .inr ⟨other, List.mem_cons_of_mem _ hother, heq⟩

/-- A record during a run after some successes: the document that was read, and the published tools
under names that are told apart. -/
structure Keeps (names : List Json) (members published : Members)
    (successes : List (Json × Json)) (record : Record) : Prop where
  document : record.document = .object members
  tools : ∃ tools, record.tools = some tools ∧ (∀ tool ∈ tools, tool.1 ∈ names) ∧
    writtenTools tools = recorded published successes

/-- The record of a document with an object of published tools. -/
theorem keeps_ofDocument {names : List Json} {members published : Members}
    (h : Members.get? members publishedKey = some (.object published))
    (hnames : ∀ tool ∈ published, Json.text tool.1 ∈ names) :
    Keeps names members published [] (Record.ofDocument (.object members)) := by
  have hget : (Json.object members).get? publishedKey = some (.object published) := h
  unfold Record.ofDocument
  rw [hget]
  refine ⟨rfl, _, rfl, ?_, ?_⟩
  · intro tool htool
    obtain ⟨first, hfirst, rfl⟩ := List.mem_map.mp htool
    exact hnames first hfirst
  · rw [writtenTools, List.map_map]
    exact List.map_id _

/-- A success is recorded. -/
theorem Keeps.add {names : List Json} {members published : Members}
    {successes : List (Json × Json)} {record : Record}
    (h : Keeps names members published successes record) (hnames : TellsApart names) {name : Json}
    (hname : name ∈ names) (value : Json) :
    ∃ record', record.add name value = .ok record' ∧
      Keeps names members published (successes ++ [(name, value)]) record' := by
  obtain ⟨tools, htools, hall, hwritten⟩ := h.tools
  obtain ⟨document, tools?⟩ := record
  obtain rfl : tools? = some tools := htools
  refine ⟨_, rfl, h.document, _, rfl, fun tool htool => ?_, ?_⟩
  · rcases mem_setTool htool with heq | ⟨other, hother, heq⟩
    · rwa [heq]
    · exact heq ▸ hall other hother
  · rw [writtenTools_setTool hnames hname value hall, hwritten, recorded_append]

/-- What a record is written as. -/
theorem Keeps.stamp {names : List Json} {members published : Members}
    {successes : List (Json × Json)} {record : Record}
    (h : Keeps names members published successes record) (now : Text) :
    stamp now record.toDocument = .ok (saved now members (recorded published successes)) := by
  obtain ⟨tools, htools, -, hwritten⟩ := h.tools
  unfold Record.toDocument
  rw [htools, h.document, ← hwritten]
  rfl

/-- A tree in which the record has been written as a document. -/
structure Stores (files : Tree) (v : Json) (files' : Tree) : Prop where
  fits : v.Fits Json.maxDepth
  files : ∃ bytes, v.fileText.encode = some bytes ∧
    files.write Workplace.state bytes = .ok files'

/-- A tree in which the record can be written: it stands in a directory, and it is none. -/
structure CanStore (files : Tree) : Prop where
  way : Path.IsSound Workplace.state files.room ∧ files.HasWay Workplace.state
  file : files.get? Workplace.state ≠ some .directory

/-- A record is written as its document, or it is not written because it is nested too deeply, or
because it cannot be written where it has to stand. -/
theorem Keeps.write {names : List Json} {members published : Members}
    {successes : List (Json × Json)} {record : Record}
    (h : Keeps names members published successes record)
    (hlasting : (saved now members (recorded published successes)).Lasting) :
    (∃ files', record.write now w = .ok () { w with files := files' } ∧
      Stores w.files (saved now members (recorded published successes)) files') ∨
    ∃ fault, record.write now w = .error fault w ∧ (CanStore w.files → fault = .tooDeep ∧
      Json.maxDepth < (saved now members (recorded published successes)).depth) := by
  have hstamp := h.stamp now
  generalize saved now members (recorded published successes) = v at hlasting hstamp
  obtain ⟨bytes, hbytes⟩ := Option.isSome_iff_exists.mp
    (Json.encode_fileText.mpr hlasting.encodable)
  have hstop : ∀ {fault}, Action.writeDocument Workplace.state v w = .error fault w →
      record.write now w = .error fault w := fun hwrite =>
    Action.bind_eq_error.mpr (.inl (Action.bind_eq_error.mpr (.inr ⟨v, w,
      Action.ofExcept_eq_ok.mpr ⟨hstamp, rfl⟩, Action.bind_eq_error.mpr (.inl hwrite)⟩)))
  by_cases hdepth : v.depth ≤ Json.maxDepth
  · cases hwrite : w.files.write Workplace.state bytes with
    | ok files' =>
      exact .inl ⟨files', Record.write_eq_ok.mpr ⟨v, bytes, files', hstamp, hlasting.fits hdepth,
        hbytes, hwrite, rfl⟩, hlasting.fits hdepth, bytes, hbytes, hwrite⟩
    | error fault =>
      refine .inr ⟨fault, hstop (Action.writeDocument_of_error (hlasting.fits hdepth) ?_),
        fun hcan => ?_⟩
      · rw [hbytes]
        exact hwrite
      · obtain ⟨files', hok⟩ := (Tree.locate_direct w.files isDirect_state).write_returns_iff.mpr
          ⟨hcan.way, hcan.file⟩
        rw [hok] at hwrite
        cases hwrite
  · have hdump := hlasting.regular.short.dump_eq_error hdepth
    exact .inr ⟨.tooDeep, hstop (Action.writeDocument_of_dump hdump),
      fun _ => ⟨rfl, Nat.not_le.mp hdepth⟩⟩

/-- The document of a record that has been written is read from its file, and nothing else has
changed. -/
theorem Stores.document? {files files' : Tree} {v : Json} (h : Stores files v files')
    (hlasting : v.Lasting) : Tree.Changes (· = Workplace.state) files files' ∧
      files'.document? Workplace.state = some v := by
  obtain ⟨bytes, hbytes, hwrite⟩ := h.files
  obtain ⟨hchanges, hread⟩ := Tree.changes_of_write isDirect_state hwrite
  exact ⟨hchanges, Tree.Holds.document? ⟨bytes, hbytes, hread⟩ hlasting.regular hlasting.stable
    h.fits.depth⟩

/-- What is recorded of a success lasts, if its identifier and the time do. -/
theorem lasting_value {id : Json} (hid : id.Lasting) (hnow : now.encode.isSome = true)
    (action : String) :
    (Json.record [("id", id), ("action", .ofString action), ("timestamp", .text now)]).Lasting := by
  have haction : (Json.ofString action).Lasting :=
    .of_text (Text.encode_ofString_isSome _)
  refine .of_members (by simp only [List.map_cons, List.map_nil]; decide) ?_
  simp only [List.map_cons, List.map_nil, List.forall_mem_cons]
  exact ⟨⟨by decide, hid⟩, ⟨by decide, haction⟩, ⟨by decide, .of_text hnow⟩, List.forall_mem_nil _⟩

/-- Where a record has been written it can be written again. -/
theorem Stores.canStore {files files' : Tree} {v : Json} (h : Stores files v files')
    (hcan : CanStore files) : CanStore files' := by
  obtain ⟨bytes, -, hwrite⟩ := h.files
  obtain ⟨hchanges, hread⟩ := Tree.changes_of_write isDirect_state hwrite
  refine ⟨⟨hchanges.keeps.room ▸ hcan.way.1, hchanges.hasWay hcan.way.2⟩, ?_⟩
  rw [((Tree.read_eq_ok isDirect_state).mp hread).2]
  exact fun hdirectory => by cases hdirectory

/-- A record that can be written now and after any further success: what it holds lasts, it leaves
room for one more level, and it can be written where it stands. -/
structure Persists (names : List Json) (members published : Members) (record : Record)
    (files : Tree) : Prop where
  keeps : ∃ successes, Keeps names members published successes record ∧
    (Json.object (recorded published successes)).Lasting ∧
    (Json.object (recorded published successes)).depth < Json.maxDepth
  canStore : CanStore files

/-- A clock that shows times with encodings. -/
def Clock.Encodes (clock : Clock) : Prop :=
  ∀ n, (clock.read n).encode.isSome = true

/-- What a run needs of a record that it can write: names that are told apart as they are written, a
document that lasts and is not nested too deeply, and times that have encodings. -/
structure Writable (clock : Clock) (names : List Json) (members : Members) : Prop where
  names : TellsApart names
  lasting : (Json.object members).Lasting
  depth : (Json.object members).depth ≤ Json.maxDepth
  times : clock.Encodes

/-- A record that persists is written with any time of the clock. -/
theorem Persists.write {names : List Json} {members published : Members} {record : Record}
    (h : Persists names members published record w.files)
    (hwritable : Writable clock names members) (n : Nat) :
    ∃ files' successes, record.write (clock.read n) w = .ok () { w with files := files' } ∧
      Tree.Changes (· = Workplace.state) w.files files' ∧
      Persists names members published record files' ∧
      Keeps names members published successes record ∧
      (saved (clock.read n) members (recorded published successes)).Lasting ∧
      files'.document? Workplace.state =
        some (saved (clock.read n) members (recorded published successes)) := by
  obtain ⟨successes, hkeeps, hlasting, hdepth⟩ := h.keeps
  have hsaved : (saved (clock.read n) members (recorded published successes)).Lasting :=
    (hwritable.lasting.set (by decide) hlasting).set (by decide) (.of_text (hwritable.times n))
  have hroom : (saved (clock.read n) members (recorded published successes)).depth ≤
      Json.maxDepth :=
    Json.depth_set_le (Json.depth_set_le hwritable.depth (Nat.le_of_lt_succ hdepth) _)
      (Nat.zero_le _) _
  rcases hkeeps.write hsaved with ⟨files', hok, hstores⟩ | ⟨fault, -, hcan⟩
  · obtain ⟨hchanges, hdocument⟩ := hstores.document? hsaved
    exact ⟨files', successes, hok, hchanges, ⟨h.keeps, hstores.canStore h.canStore⟩, hkeeps, hsaved,
      hdocument⟩
  · exact absurd (hcan h.canStore).2 (Nat.not_lt.mpr hroom)

/-- A record that persists takes one more success with a name of its own kind, and goes on. -/
theorem Persists.add {names : List Json} {members published : Members} {record : Record}
    {files : Tree} (h : Persists names members published record files) (hnames : TellsApart names)
    {name value : Json} (hname : name ∈ names) (hkey : (keyText name).encode.isSome = true)
    (hvalue : value.Lasting) (hdepth : value.depth + 1 < Json.maxDepth) :
    ∃ record', record.add name value = .ok record' ∧
      Persists names members published record' files := by
  obtain ⟨successes, hkeeps, hlasting, hroom⟩ := h.keeps
  obtain ⟨record', hadd, hkeeps'⟩ := hkeeps.add hnames hname value
  refine ⟨record', hadd, ⟨successes ++ [(name, value)], hkeeps', ?_, ?_⟩, h.canStore⟩
  · rw [recorded_append]
    exact hlasting.set hkey hvalue
  · rw [recorded_append]
    exact Nat.lt_succ_of_le (Json.depth_set_le (Nat.le_of_lt_succ hroom)
      (Nat.le_of_lt_succ (Nat.lt_of_succ_lt_succ hdepth)) _)

end Publish

end Toolsmith
