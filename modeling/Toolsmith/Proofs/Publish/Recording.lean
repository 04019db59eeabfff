import Toolsmith.Proofs.Publish.Account
import Toolsmith.Proofs.Publish.Record

/-!
# Recording what succeeds

A run of publishing begins with a record that is not there or has the form that it needs. Every
success is recorded at once, so after some attempts the file of the record holds all successes up to
then.
-/

namespace Toolsmith

namespace Registry

variable {client : Client} {w w' : World}

/-- Every reply of a log is one of the network's. -/
theorem Talks.reply {log : List Exchange} (h : Talks client log w w') {e : Exchange}
    (he : e ∈ log) : ∃ sent, client.network sent e.request = e.reply := by
  have hmem : ∀ {log : List Exchange} {sent : List Request}, client.network.Answers sent log →
      e ∈ log → ∃ sent, client.network sent e.request = e.reply := by
    intro log
    induction log with
    | nil => exact fun _ he => absurd he List.not_mem_nil
    | cons first log ih =>
      intro sent hanswers he
      rcases List.mem_cons.mp he with rfl | he
      · exact ⟨sent, hanswers.1⟩
      · exact ih hanswers.2 he
  exact hmem h.replies he

/-- The contents of a network's answers have encodings. -/
def SpeaksPlainly (client : Client) : Prop :=
  ∀ sent request status body v, client.network sent request = .answer status body →
    content body = .ok v → v.Encodable

/-- The content of an answer is regular and stable. -/
theorem regular_of_content {body : Text} {v : Json} (h : content body = .ok v) :
    v.Regular ∧ v.Stable := by
  unfold content at h
  split at h
  · rename_i u hparse
    cases h
    obtain ⟨bytes, -, hparse⟩ := Option.map_eq_some_iff.mp hparse
    unfold Json.parseBytes at hparse
    split at hparse
    · exact ⟨Json.regular_of_parse hparse, Json.stable_of_parse hparse⟩
    · cases hparse
  · cases h
  · cases h
    exact ⟨.of_text trivial, .of_text trivial⟩

/-- The content of an exchange lasts where the network speaks plainly. -/
theorem SpeaksPlainly.lasting (h : SpeaksPlainly client) {sent : List Request} {e : Exchange}
    (hreply : client.network sent e.request = e.reply) {v : Json} (hcontent : e.content? = some v) :
    v.Lasting := by
  unfold Exchange.content? at hcontent
  split at hcontent
  · rename_i status body heq
    cases hbody : content body with
    | error fault =>
      rw [hbody] at hcontent
      cases hcontent
    | ok u =>
      rw [hbody] at hcontent
      cases hcontent
      obtain ⟨hregular, hstable⟩ := regular_of_content hbody
      exact ⟨hregular, hstable, h sent e.request status body v (hreply.trans heq) hbody⟩
  · cases hcontent

end Registry

namespace Publish

variable {client : Registry.Client} {clock : Clock} {now : Text} {files : Tree}
variable {members published : Members} {w w' : World}

/-- A record that is not there, or that is an object with an object of the published tools. -/
structure HasRecord (files : Tree) (members published : Members) : Prop where
  document : files.exists? Workplace.state = .ok false ∧ emptyState = .object members ∨
    files.document? Workplace.state = some (.object members)
  published : Members.get? members publishedKey = some (.object published)

/-- What is recorded of a success: the name of its order, and its value. -/
def Records (now : Text) (a : Attempt) (success : Json × Json) : Prop :=
  ∃ order e content, a.sent? = some (order, e) ∧ e.content? = some content ∧
    success = (order.name, Publish.success now order content)

/-- What is recorded of attempts after some successes before them: every success in order. The clock
is read twice for each, for its value and as the record is written, so the time of a success is that
of twice as many readings as there are successes before it. -/
def RecordsAll (clock : Clock) (before : Nat) (attempts : List Attempt)
    (successes : List (Json × Json)) : Prop :=
  List.Forall₂ (fun done success => Records (clock.read (2 * done.2)) done.1 success)
    ((attempts.filter Attempt.isDone).zipIdx before) successes

/-- What is recorded of attempts after others comes after what is recorded of those. -/
theorem RecordsAll.append {before : Nat} {attempts more : List Attempt}
    {successes others : List (Json × Json)} (h : RecordsAll clock before attempts successes)
    (h' : RecordsAll clock (before + successes.length) more others) :
    RecordsAll clock before (attempts ++ more) (successes ++ others) := by
  have hlength := h.length_eq
  rw [List.length_zipIdx] at hlength
  unfold RecordsAll
  rw [List.filter_append, List.zipIdx_append, hlength]
  exact List.rel_append h h'

/-- The tree after some successes: only the record has been written, and it holds them. -/
structure Checks (clock : Clock) (members published : Members) (files : Tree)
    (successes : List (Json × Json)) (files' : Tree) : Prop where
  changes : Tree.Changes (· = Workplace.state) files files'
  untouched : successes = [] → files' = files
  document : successes ≠ [] → files'.document? Workplace.state =
    some (saved (clock.read (2 * successes.length - 1)) members (recorded published successes))

/-- All names of a run. -/
def allNames (published : Members) (files : Tree) : List Json :=
  published.map (fun m => .text m.1) ++ entryNames (entries files)

/-- What a run needs for its record: names that are told apart as they are written, and texts that
have encodings. -/
structure Recordable (client : Registry.Client) (clock : Clock) (members published : Members)
    (files : Tree) : Prop where
  record : HasRecord files members published
  names : TellsApart (allNames published files)
  keys : ∀ name ∈ entryNames (entries files), (keyText name).encode.isSome = true
  document : (Json.object members).Encodable
  times : clock.Encodes
  answers : Registry.SpeaksPlainly client

/-- What is known of a record after some successes. -/
structure Knows (clock : Clock) (members published : Members) (files : Tree)
    (successes : List (Json × Json)) (progress : Progress) (w : World) : Prop where
  keeps : Keeps (allNames published files) members published successes progress.record
  checks : Checks clock members published files successes w.files
  lasting : (Json.object (recorded published successes)).Lasting
  known : ∀ pair ∈ progress.known, pair.2.Lasting
  readings : progress.readings = 2 * successes.length

/-- The record is read where it has the form that it needs. -/
theorem HasRecord.readState (h : HasRecord w.files members published) :
    readState w = .ok (.object members) w := by
  rcases h.document with ⟨habsent, hempty⟩ | hdocument
  · rw [← hempty]
    exact Action.bind_eq_ok.mpr ⟨false, w, Action.fileExists_eq_ok.mpr ⟨habsent, rfl⟩, rfl⟩
  · exact Action.bind_eq_ok.mpr ⟨true, w, Action.fileExists_eq_ok.mpr
      ⟨Tree.exists?_of_document? isDirect_state hdocument, rfl⟩,
      Action.readDocument_eq_ok_document?.mpr ⟨hdocument, rfl⟩⟩

/-- The document before anything has been published lasts. -/
theorem lasting_emptyState : emptyState.Lasting := by
  refine .of_members (by decide) ?_
  simp only [List.map_cons, List.map_nil, List.forall_mem_cons]
  exact ⟨⟨by decide, .of_members List.nodup_nil (List.forall_mem_nil _)⟩,
    ⟨by decide, .of_null trivial, .of_null trivial, .of_null trivial⟩, List.forall_mem_nil _⟩

/-- The document that a record begins with lasts, if its texts have encodings. -/
theorem HasRecord.lasting (h : HasRecord files members published)
    (hencodable : (Json.object members).Encodable) : (Json.object members).Lasting := by
  rcases h.document with ⟨-, hempty⟩ | hdocument
  · rw [← hempty]
    exact lasting_emptyState
  · obtain ⟨t, -, hparse⟩ := Tree.document?_eq_some.mp hdocument
    exact .of_parse hparse hencodable

/-- The document that a record begins with can be written. -/
theorem HasRecord.depth_le (h : HasRecord files members published) :
    (Json.object members).depth ≤ Json.maxDepth := by
  rcases h.document with ⟨-, hempty⟩ | hdocument
  · rw [← hempty]
    decide
  · obtain ⟨t, -, hparse⟩ := Tree.document?_eq_some.mp hdocument
    exact Json.depth_le_of_parse hparse

/-- No directory stands where the record stands or would stand. -/
theorem HasRecord.file (h : HasRecord files members published)
    (hway : Path.IsSound Workplace.state files.room ∧ files.HasWay Workplace.state) :
    files.get? Workplace.state ≠ some .directory := by
  rcases h.document with ⟨habsent, -⟩ | hdocument
  · rw [Tree.exists?_of_hasWay isDirect_state hway] at habsent
    intro hdirectory
    rw [hdirectory] at habsent
    cases habsent
  · obtain ⟨bytes, hread⟩ := Tree.exists_read_of_document? hdocument
    rw [((Tree.read_eq_ok isDirect_state).mp hread).2]
    intro hdirectory
    cases hdirectory

/-- Where the working directory is there the record has a way to stand. -/
theorem hasWay_state (h : files.get? [] = some .directory) :
    Path.IsSound Workplace.state files.room ∧ files.HasWay Workplace.state := by
  refine ⟨.mono ⟨by decide, by decide⟩ files.ample, fun before hbefore hne => ?_⟩
  have hlength := hbefore.length_le
  cases before with
  | nil => exact h
  | cons name rest =>
    exact absurd (hbefore.eq_of_length (Nat.le_antisymm hlength (by simp [Workplace.state]))) hne

/-- A record is read as before where the working directory is there and the record has not
changed. -/
theorem HasRecord.of_changes {places : Path → Prop} (h : HasRecord files members published)
    (hroot : files.get? [] = some .directory) (hchanges : Tree.Changes places files files')
    (hstate : ¬places Workplace.state) : HasRecord files' members published := by
  have hsame := hchanges.frame Workplace.state hstate
  have hway := hasWay_state hroot
  have hway' := hasWay_state (hchanges.keeps.directory [] hroot)
  refine ⟨?_, h.published⟩
  rcases h.document with ⟨habsent, hempty⟩ | hdocument
  · rw [Tree.exists?_of_hasWay isDirect_state hway] at habsent
    refine .inl ⟨?_, hempty⟩
    rw [Tree.exists?_of_hasWay isDirect_state hway', hsame, habsent]
  · have hread : ∀ bytes, files'.read Workplace.state = .ok bytes ↔
        files.read Workplace.state = .ok bytes := by
      intro bytes
      rw [Tree.read_eq_ok isDirect_state, Tree.read_eq_ok isDirect_state, hsame]
      exact and_congr_left' (iff_of_true hway' hway)
    refine .inr ?_
    rw [Tree.document?_congr hread]
    exact hdocument

/-- Where there are entries there is a working directory. -/
theorem hasWay_of_entries (h : entries files ≠ []) :
    Path.IsSound Workplace.state files.room ∧ files.HasWay Workplace.state := by
  have htools : files.isDirectory Workplace.tools = true := by
    by_contra hnot
    apply h
    rw [entries, directories, if_neg hnot]
    rfl
  obtain ⟨⟨-, hway⟩, -⟩ := (Tree.isDirectory_eq_true Workplace.isDirect_tools).mp htools
  exact hasWay_state (hway [] List.nil_prefix (by decide))

/-- Where there are entries the record can be written, also after it has been written. -/
theorem Checks.canStore {successes : List (Json × Json)}
    (h : Checks clock members published files successes w.files)
    (hrecord : HasRecord files members published) (hentries : entries files ≠ []) :
    CanStore w.files := by
  have hway := hasWay_of_entries hentries
  have hway' := h.changes.hasWay hway.2
  refine ⟨⟨h.changes.keeps.room ▸ hway.1, hway'⟩, ?_⟩
  by_cases hnone : successes = []
  · rw [h.untouched hnone]
    exact hrecord.file hway
  · obtain ⟨bytes, hread⟩ := Tree.exists_read_of_document? (h.document hnone)
    rw [((Tree.read_eq_ok isDirect_state).mp hread).2]
    intro hdirectory
    cases hdirectory

/-- The document that is written lasts. -/
theorem Recordable.lasting_saved (h : Recordable client clock members published files)
    {successes : List (Json × Json)}
    (hlasting : (Json.object (recorded published successes)).Lasting) (n : Nat) :
    (saved (clock.read n) members (recorded published successes)).Lasting :=
  ((h.record.lasting h.document).set (by decide) hlasting).set (by decide) (.of_text (h.times n))

/-- A run that begins knows a record without successes. -/
theorem Opens.knows {v : World} {found : List (Text × Json)} {start : Progress}
    {first second : Exchange} {deletions : List Exchange} {tools tools' : List Json}
    (h : Opens client w v found start first deletions second tools tools')
    (hrecordable : Recordable client clock members published w.files) :
    Knows clock members published w.files [] start v := by
  obtain ⟨state, hstate, rfl⟩ := h.state
  have hread : readState v = .ok (.object members) v := by
    have hrecord : HasRecord v.files members published := by
      rw [h.files]
      exact hrecordable.record
    exact hrecord.readState
  obtain ⟨rfl, -⟩ := EStateM.Result.ok.inj (hstate.symm.trans hread)
  refine ⟨keeps_ofDocument hrecordable.record.published fun m hm => ?_, ⟨?_, fun _ => h.files,
    fun hnone => absurd rfl hnone⟩, ?_, fun pair hpair => ?_, rfl⟩
  · exact List.mem_append_left _ (List.mem_map_of_mem hm)
  · rw [h.files]
    exact .refl _ _
  · exact (hrecordable.record.lasting hrecordable.document).of_part
      (.of_members_get? hrecordable.record.published)
  · obtain ⟨tool, htool, hnamed⟩ := List.mem_filterMap.mp (List.mem_reverse.mp hpair)
    obtain ⟨name, -, rfl⟩ := Option.map_eq_some_iff.mp hnamed
    obtain ⟨sent, hreply⟩ := h.log.reply (List.mem_append_right _ (List.mem_singleton_self _))
    exact (hrecordable.answers.lasting hreply h.second.content).of_part (.item htool (.self _))

/-- What is recorded of an order that is sent and succeeds lasts. -/
theorem Sent.lasting_success {progress : Progress} {directory : Text} {entry : Json}
    {order : Order} {url : Url} {e : Exchange} {content : Json}
    (h : Sent client progress w directory entry order url e)
    (hknown : ∀ pair ∈ progress.known, pair.2.Lasting) (hcontent : content.Lasting)
    (hnow : now.encode.isSome = true) : (success now order content).Lasting := by
  have hid : (order.id content).Lasting := by
    unfold Order.id
    cases hcurrent : current? progress.known order.name with
    | none =>
      rw [h.orders.creates hcurrent, Option.getD_none, createdId]
      cases hid : content.get? (Text.ofString "id") with
      | none => exact .of_text (by decide)
      | some id => exact hcontent.of_part (.of_get? hid)
    | some current =>
      obtain ⟨id, hid, htarget⟩ := h.orders.changes current hcurrent
      obtain ⟨pair, hpair, rfl⟩ := Option.map_eq_some_iff.mp hcurrent
      rw [htarget, Option.getD_some]
      exact (hknown pair (List.mem_of_find?_eq_some hpair)).of_part (.of_get? hid)
  exact lasting_value hid hnow _

/-- The name of an entry is one of the names of a run. -/
theorem mem_entryNames {directory : Text} {entry name : Json}
    (hentry : (directory, entry) ∈ entries files)
    (hname : entry.get? (Text.ofString "name") = some name) : name ∈ entryNames (entries files) :=
  List.mem_filterMap.mpr ⟨(directory, entry), hentry, hname⟩

/-- Counting an answer makes at most its content known. -/
theorem mem_known_count {progress : Progress} {order : Order} {content : Json} {pair : Json × Json}
    (h : pair ∈ (order.count content (turned progress)).known) :
    pair.2 = content ∨ pair ∈ progress.known := by
  unfold Order.count at h
  split at h
  · exact .inr h
  · simp only [turned] at h
    split at h
    · rcases List.mem_cons.mp h with rfl | h
      · exact .inl rfl
      · exact .inr h
    · exact .inr h

/-- What is known of a record stays known after a success, which is recorded. -/
theorem Knows.succeed {successes : List (Json × Json)} {progress : Progress} {directory : Text}
    {entry : Json} {order : Order} {url : Url} {e : Exchange} {content : Json} {record : Record}
    (h : Knows clock members published files successes progress w)
    (hrecordable : Recordable client clock members published files)
    (hsource : (directory, entry) ∈ entries files)
    (hsent : Sent client progress w directory entry order url e)
    (hcontent : e.content? = some content)
    (hadd : progress.record.add order.name
      (success (clock.read progress.readings) order content) = .ok record)
    (hwrite : record.write (clock.read (progress.readings + 1)) (Registry.sentOne w e.request) =
      .ok () w') :
    Knows clock members published files
      (successes ++ [(order.name, success (clock.read progress.readings) order content)])
      { order.count content (turned progress) with
        readings := progress.readings + 2, record } w' := by
  have hname := mem_entryNames hsource hsent.orders.name
  have hlastingContent := hrecordable.answers.lasting hsent.reply hcontent
  obtain ⟨record', hadd', hkeeps⟩ := h.keeps.add hrecordable.names
    (List.mem_append_right _ hname) (success (clock.read progress.readings) order content)
  obtain rfl := Except.ok.inj (hadd.symm.trans hadd')
  have hlasting : (Json.object (recorded published (successes ++
      [(order.name, success (clock.read progress.readings) order content)]))).Lasting := by
    rw [recorded_append]
    exact h.lasting.set (hrecordable.keys _ hname)
      (hsent.lasting_success h.known hlastingContent (hrecordable.times _))
  have hsaved := hrecordable.lasting_saved hlasting (progress.readings + 1)
  rcases hkeeps.write (w := Registry.sentOne w e.request) hsaved with
    ⟨files', hok, hstores⟩ | ⟨fault, herror, -⟩
  · obtain ⟨-, rfl⟩ := EStateM.Result.ok.inj (hwrite.symm.trans hok)
    obtain ⟨hchanges, hdocument⟩ := hstores.document? hsaved
    have hlength : ∀ s, 2 * (successes ++ [s]).length = progress.readings + 2 := by
      intro s
      rw [List.length_append, List.length_singleton, h.readings]
      rfl
    refine ⟨hkeeps, ⟨h.checks.changes.trans hchanges, fun hnone => ?_, fun _ => ?_⟩, hlasting,
      fun pair hpair => ?_, (hlength _).symm⟩
    · exact absurd hnone (by simp)
    · rw [hlength]
      exact hdocument
    · rcases mem_known_count hpair with heq | hpair
      · exact heq ▸ hlastingContent
      · exact h.known pair hpair
  · rw [hwrite] at herror
    cases herror

/-- What is known of a record stays known after an attempt, and what has succeeded is recorded. -/
theorem Knows.tries {successes : List (Json × Json)} {progress progress' : Progress} {a : Attempt}
    (h : Knows clock members published files successes progress w)
    (hrecordable : Recordable client clock members published files)
    (hsource : a.source ∈ entries files) (htries : Tries client clock progress w a progress' w') :
    ∃ more, RecordsAll clock successes.length [a] more ∧
      Knows clock members published files (successes ++ more) progress' w' := by
  cases htries with
  | skip =>
    exact ⟨[], .nil, by
      rw [List.append_nil]
      exact ⟨h.keeps, h.checks, h.lasting, h.known, h.readings⟩⟩
  | @fail directory entry order url e hsent hstatus =>
    have hdone : Attempt.isDone ⟨directory, entry, w.files, some (order, e)⟩ = false := hstatus
    refine ⟨[], ?_, ?_⟩
    · unfold RecordsAll
      rw [List.filter_cons_of_neg (by rw [hdone]; decide)]
      exact .nil
    · rw [List.append_nil]
      exact ⟨h.keeps, h.checks, h.lasting, h.known, h.readings⟩
  | @succeed directory entry order url e content record w' hsent hstatus hcontent hadd hwrite =>
    have hdone : Attempt.isDone ⟨directory, entry, w.files, some (order, e)⟩ = true := hstatus
    refine ⟨[(order.name, success (clock.read progress.readings) order content)], ?_,
      h.succeed hrecordable hsource hsent hcontent hadd hwrite⟩
    unfold RecordsAll
    rw [List.filter_cons_of_pos hdone, h.readings]
    exact .cons ⟨order, e, content, rfl, hcontent, rfl⟩ .nil

/-- What is known of a record stays known after attempts, and all that have succeeded are
recorded. -/
theorem Knows.triesAll {successes : List (Json × Json)} {progress progress' : Progress}
    {attempts : List Attempt} (h : Knows clock members published files successes progress w)
    (hrecordable : Recordable client clock members published files)
    (hsources : ∀ a ∈ attempts, a.source ∈ entries files)
    (htries : TriesAll client clock progress w attempts progress' w') :
    ∃ more, RecordsAll clock successes.length attempts more ∧
      Knows clock members published files (successes ++ more) progress' w' := by
  induction htries generalizing successes with
  | nil => exact ⟨[], .nil, by rwa [List.append_nil]⟩
  | @cons progress middle progress' w v w' a attempts hfirst _ ih =>
    obtain ⟨hsource, hsources⟩ := List.forall_mem_cons.mp hsources
    obtain ⟨more, hmore, hmiddle⟩ := h.tries hrecordable hsource hfirst
    obtain ⟨rest, hrest, hend⟩ := ih hmiddle hsources
    rw [List.length_append] at hrest
    exact ⟨more ++ rest, hmore.append hrest, by rwa [← List.append_assoc]⟩

/-- The times of the clock that counts its readings have encodings. -/
theorem encodes_ticking : ticking.Encodes :=
  Json.encode_ofNat

end Publish

end Toolsmith
