import Toolsmith.Proofs.Publish.Opening

/-!
# The account of a run

A run that returns has asked for all tools, deleted the outdated ones, asked for all tools again,
and made one attempt for every entry in order. Which request an attempt sends depends on what came
back before: on the second list of tools and on the tools that earlier attempts created. The counts
of the run's result are the counts of its attempts.
-/

namespace Toolsmith

/-- Of two entries that are put at one place, the second stays. -/
theorem Entries.set_set (entries : Entries) (place : Path) (entry entry' : Entry) :
    (entries.set place entry).set place entry' = entries.set place entry' := by
  unfold set erase
  rw [List.filter_cons_of_neg (by simp), List.filter_filter]
  simp

/-- A file that is written again is the one that is written at once. -/
theorem Tree.write_write {tree middle tree' : Tree} {path : Path} {bytes bytes' : Bytes}
    (h : path.IsDirect) (hwrite : tree.write path bytes = .ok middle)
    (hagain : middle.write path bytes' = .ok tree') : tree.write path bytes' = .ok tree' := by
  obtain ⟨hway, hplace, rfl⟩ := (write_eq_ok h).mp hwrite
  obtain ⟨-, hplace', rfl⟩ := (write_eq_ok h).mp hagain
  refine (write_eq_ok h).mpr ⟨hway, ⟨hplace.above, fun h => absurd h hplace.free⟩, ?_⟩
  simp only [set, Entries.set_set]

namespace Publish

variable {client : Registry.Client} {clock : Clock} {files : Tree} {w w' : World}

/-- The number of orders that have been sent. -/
def turn (attempts : List Attempt) : Nat :=
  attempts.countP fun a => a.sent?.isSome

/-- The tools that are known by name after some attempts, the last first: those of a list, and
those that have been created since. -/
def known (tools : List Json) (attempts : List Attempt) : List (Json × Json) :=
  (tools.filterMap named? ++ attempts.filterMap Attempt.created?).reverse

/-- The result of a run with some deletions and attempts. -/
def tally (deleted : Nat) (attempts : List Attempt) : Result where
  created := attempts.countP Attempt.isCreated
  updated := attempts.countP Attempt.isUpdated
  skipped := attempts.countP fun a => a.sent?.isNone
  failed := attempts.countP Attempt.isFailed
  deleted := deleted

/-- The tree after some attempts: only the record may have been written, and not before the first
success. -/
structure Saves (files : Tree) (attempts : List Attempt) (files' : Tree) : Prop where
  untouched : (∀ a ∈ attempts, a.isDone = false) → files' = files
  record : files' = files ∨ ∃ bytes, files.write Workplace.state bytes = .ok files'

/-- An attempt that may follow others. Its entry is passed over exactly if the unit is not there;
else the order for it is sent. -/
inductive Fits (client : Registry.Client) (files : Tree) (tools : List Json)
    (before : List Attempt) : Attempt → Prop
  | skip {directory : Text} {entry : Json} {files' : Tree} {file : Text}
      (hfiles : Saves files before files')
      (hfile : entry.get? (Text.ofString "file") = some (.text file))
      (habsent : files'.exists? (unitPath directory file) = .ok false) :
      Fits client files tools before ⟨directory, entry, files', none⟩
  | send {directory : Text} {entry : Json} {files' : Tree} {order : Order} {e : Exchange} {url : Url}
      (hfiles : Saves files before files')
      (horder : Orders files' directory (known tools before) (turn before) entry order)
      (hputs : Registry.Puts client order.method order.way (some order.tool) url e.request) :
      Fits client files tools before ⟨directory, entry, files', some (order, e)⟩

/-- Attempts that may follow others, one after another. -/
inductive Follows (client : Registry.Client) (files : Tree) (tools : List Json) :
    List Attempt → List Attempt → Prop
  | nil {before : List Attempt} : Follows client files tools before []
  | cons {before rest : List Attempt} {a : Attempt} (hfirst : Fits client files tools before a)
      (hrest : Follows client files tools (before ++ [a]) rest) :
      Follows client files tools before (a :: rest)

/-- The account of a run that returns: what it has sent in order, what came back, and how its result
counts it. -/
structure Accounts (client : Registry.Client) (w w' : World) (result : Result) (first : Exchange)
    (deletions : List Exchange) (second : Exchange) (attempts : List Attempt) : Prop where
  log : Registry.Talks client
    (first :: deletions ++ second :: attempts.filterMap Attempt.exchange?) w w'
  /-- One deletion is asked for each outdated tool of the first list. -/
  cleanup : ∃ tools, Tells client first tools ∧ List.Forall₂ (Deletes client)
    (tools.filter (isOutdated (entryNames (entries w.files)))) deletions
  /-- One attempt is made for each entry, and it depends on the second list. -/
  orders : attempts.map Attempt.source = entries w.files ∧
    ∃ tools, Tells client second tools ∧ Follows client w.files tools [] attempts
  counts : result = tally (deletions.countP fun e => e.hasStatus [200, 204]) attempts
  total : result.total = (entries w.files).length

/-- What is known of a run after some attempts. -/
structure Agrees (files : Tree) (tools : List Json) (deleted : Nat) (attempts : List Attempt)
    (progress : Progress) (w : World) : Prop where
  result : progress.result = tally deleted attempts
  turn : progress.turn = turn attempts
  known : progress.known = known tools attempts
  files : Saves files attempts w.files

/-- The tree that a run writes the record to is the one it was, but for the record. -/
theorem Saves.write {attempts : List Attempt} {files' files'' : Tree} {bytes : Bytes}
    (h : Saves files attempts files') (hwrite : files'.write Workplace.state bytes = .ok files'') :
    files.write Workplace.state bytes = .ok files'' := by
  rcases h.record with rfl | ⟨old, hold⟩
  · exact hwrite
  · exact Tree.write_write isDirect_state hold hwrite

/-- One more attempt without a success changes no file. -/
theorem Saves.append {attempts : List Attempt} {files' : Tree} (h : Saves files attempts files')
    (a : Attempt) : Saves files (attempts ++ [a]) files' :=
  ⟨fun hnone => h.untouched fun b hb => hnone b (List.mem_append_left _ hb), h.record⟩

/-- One more attempt with a success may change the record. -/
theorem Saves.append_done {attempts : List Attempt} {files' files'' : Tree} {bytes : Bytes}
    (h : Saves files attempts files') {a : Attempt} (ha : a.isDone = true)
    (hwrite : files'.write Workplace.state bytes = .ok files'') :
    Saves files (attempts ++ [a]) files'' := by
  refine ⟨fun hnone => ?_, .inr ⟨bytes, h.write hwrite⟩⟩
  have hnot := hnone a (by simp)
  rw [ha] at hnot
  cases hnot

/-- One more attempt adds to the counts what it is. -/
theorem tally_append (deleted : Nat) (attempts : List Attempt) (a : Attempt) :
    tally deleted (attempts ++ [a]) =
      { created := (tally deleted attempts).created + if a.isCreated then 1 else 0
        updated := (tally deleted attempts).updated + if a.isUpdated then 1 else 0
        skipped := (tally deleted attempts).skipped + if a.sent?.isNone then 1 else 0
        failed := (tally deleted attempts).failed + if a.isFailed then 1 else 0
        deleted := deleted } := by
  simp only [tally, List.countP_append, List.countP_singleton]

/-- One more attempt is one more turn if an order has been sent. -/
theorem turn_append (attempts : List Attempt) (a : Attempt) :
    turn (attempts ++ [a]) = turn attempts + if a.sent?.isSome then 1 else 0 := by
  rw [turn, List.countP_append, List.countP_singleton, turn]

/-- One more attempt adds the tool that it has created. -/
theorem known_append (tools : List Json) (attempts : List Attempt) (a : Attempt) :
    known tools (attempts ++ [a]) = a.created?.toList ++ known tools attempts := by
  rw [known, known, List.filterMap_append, ← List.append_assoc, List.reverse_append,
    List.filterMap_cons, List.filterMap_nil]
  cases a.created? <;> rfl

/-- Every attempt is counted once. -/
theorem Attempt.count_eq_one (a : Attempt) :
    (if a.isCreated then 1 else 0) + (if a.isUpdated then 1 else 0) +
      (if a.sent?.isNone then 1 else 0) + (if a.isFailed then 1 else 0) = 1 := by
  obtain ⟨directory, entry, files, sent?⟩ := a
  cases sent? with
  | none => rfl
  | some s =>
    obtain ⟨order, e⟩ := s
    simp only [isCreated, isUpdated, isFailed, Option.any_some, Option.isNone_some]
    rcases Bool.eq_false_or_eq_true (e.hasStatus order.successes) with hs | hs <;>
      rcases Option.eq_none_or_eq_some order.target with ht | ⟨id, ht⟩ <;> simp [hs, ht]

/-- The counts make up the number of attempts. -/
theorem total_tally (deleted : Nat) (attempts : List Attempt) :
    (tally deleted attempts).total = attempts.length := by
  induction attempts with
  | nil => rfl
  | cons a attempts ih =>
    have hone := a.count_eq_one
    simp only [Result.total, tally, List.countP_cons, List.length_cons] at ih ⊢
    omega

/-- Before the first attempt nothing is counted. -/
theorem Agrees.nil (files : Tree) (tools : List Json) (deleted : Nat) (record : Record) {w : World}
    (h : w.files = files) : Agrees files tools deleted []
      ⟨⟨0, 0, 0, 0, deleted⟩, 0, 0, (tools.filterMap named?).reverse, record⟩ w :=
  ⟨rfl, rfl, by simp [Publish.known], ⟨fun _ => h, .inl h⟩⟩

/-- A failure is counted as one. -/
theorem Agrees.fail {tools : List Json} {deleted : Nat} {before : List Attempt}
    {progress : Progress} (h : Agrees files tools deleted before progress w) {a : Attempt}
    {order : Order} {e : Exchange} (ha : a.sent? = some (order, e))
    (hstatus : e.hasStatus order.successes = false) (hfiles : w'.files = w.files) :
    Agrees files tools deleted (before ++ [a]) (fail (turned progress)) w' := by
  have hnot : a.created? = none := by simp [Attempt.created?, ha, hstatus]
  refine ⟨?_, ?_, ?_, hfiles ▸ h.files.append a⟩
  · have hresult : (Publish.fail (turned progress)).result =
        { progress.result with failed := progress.result.failed + 1 } := rfl
    rw [tally_append, hresult, h.result]
    simp [Attempt.isCreated, Attempt.isUpdated, Attempt.isFailed, ha, hstatus, tally]
  · rw [turn_append, ha, ← h.turn]
    rfl
  · rw [known_append, hnot, ← h.known]
    rfl

/-- A success is counted as one. -/
theorem Agrees.count {tools : List Json} {deleted : Nat} {before : List Attempt}
    {progress : Progress} (h : Agrees files tools deleted before progress w) {a : Attempt}
    {order : Order} {e : Exchange} (ha : a.sent? = some (order, e))
    (hstatus : e.hasStatus order.successes = true) {content : Json}
    (hcontent : e.content? = some content) {bytes : Bytes}
    (hwrite : w.files.write Workplace.state bytes = .ok w'.files) (readings : Nat)
    (record : Record) :
    Agrees files tools deleted (before ++ [a])
      { order.count content (turned progress) with readings, record } w' := by
  have hdone : a.isDone = true := by simp [Attempt.isDone, ha, hstatus]
  refine ⟨?_, ?_, ?_, h.files.append_done hdone hwrite⟩
  · rw [tally_append, ← h.result]
    cases htarget : order.target with
    | none =>
      simp [Order.count, turned, htarget, Attempt.isCreated, Attempt.isUpdated, Attempt.isFailed, ha,
        hstatus, h.result, tally]
    | some id =>
      simp [Order.count, turned, htarget, Attempt.isCreated, Attempt.isUpdated, Attempt.isFailed, ha,
        hstatus, h.result, tally]
  · rw [turn_append, ha, ← h.turn]
    unfold Order.count
    split <;> rfl
  · rw [known_append, ← h.known]
    cases htarget : order.target with
    | none =>
      have hnew : a.created? = if (content.get? (Text.ofString "id")).isSome then
          some (order.name, content) else none := by
        simp [Attempt.created?, ha, hstatus, hcontent, htarget]
      simp only [hnew, Order.count, htarget, turned]
      split <;> rfl
    | some id => simp [Order.count, turned, Attempt.created?, ha, htarget]

/-- An order that is sent fits the attempts before it, whatever comes back. -/
theorem Agrees.fits {tools : List Json} {deleted : Nat} {before : List Attempt}
    {progress : Progress} (h : Agrees files tools deleted before progress w) {directory : Text}
    {entry : Json} {order : Order} {url : Url} {e : Exchange}
    (hsent : Sent client progress w directory entry order url e) :
    Fits client files tools before ⟨directory, entry, w.files, some (order, e)⟩ := by
  have horders := hsent.orders
  rw [h.known, h.turn] at horders
  exact .send h.files horders hsent.puts

/-- An attempt fits those before it, and it is counted as what it is. -/
theorem Agrees.tries {tools : List Json} {deleted : Nat} {before : List Attempt} {a : Attempt}
    {progress progress' : Progress} (h : Agrees files tools deleted before progress w)
    (htries : Tries client clock progress w a progress' w') :
    Fits client files tools before a ∧ Agrees files tools deleted (before ++ [a]) progress' w' := by
  cases htries with
  | skip hfile habsent =>
    refine ⟨.skip h.files hfile habsent, ⟨?_, ?_, ?_, h.files.append _⟩⟩
    · rw [tally_append, skip, h.result]
      rfl
    · rw [turn_append, skip, h.turn]
      rfl
    · rw [known_append, skip, h.known]
      rfl
  | fail hsent hstatus => exact ⟨h.fits hsent, h.fail rfl hstatus rfl⟩
  | @succeed _ _ order _ e _ record _ hsent hstatus hcontent _ hwrite =>
    obtain ⟨state, bytes, files', -, -, -, hfiles, hworld⟩ := Record.write_eq_ok.mp hwrite
    have hwritten : w.files.write Workplace.state bytes = .ok w'.files := by
      rw [hworld]
      exact hfiles
    exact ⟨h.fits hsent, h.count rfl hstatus hcontent hwritten _ record⟩

/-- Attempts fit one after another, and they are counted as what they are. -/
theorem Agrees.triesAll {tools : List Json} {deleted : Nat} {before attempts : List Attempt}
    {progress progress' : Progress} (h : Agrees files tools deleted before progress w)
    (htries : TriesAll client clock progress w attempts progress' w') :
    Follows client files tools before attempts ∧
      Agrees files tools deleted (before ++ attempts) progress' w' := by
  induction htries generalizing before with
  | nil => exact ⟨.nil, by rwa [List.append_nil]⟩
  | cons hfirst _ ih =>
    obtain ⟨hfits, hmiddle⟩ := h.tries hfirst
    obtain ⟨hfollows, hend⟩ := ih hmiddle
    rw [List.append_assoc, List.singleton_append] at hend
    exact ⟨.cons hfits hfollows, hend⟩

/-- A run that has begun agrees with no attempts. -/
theorem Opens.agrees {v : World} {found : List (Text × Json)} {start : Progress}
    {first second : Exchange} {deletions : List Exchange} {tools tools' : List Json}
    (h : Opens client w v found start first deletions second tools tools') :
    Agrees w.files tools' (deletions.countP fun e => e.hasStatus [200, 204]) [] start v := by
  obtain ⟨state, -, rfl⟩ := h.state
  exact .nil _ _ _ _ h.files

/-- A run that returns has an account. -/
theorem run_accounts {result : Result} (h : run client clock w = .ok result w') :
    ∃ first deletions second attempts,
      Accounts client w w' result first deletions second attempts := by
  rw [run_eq_opening] at h
  obtain ⟨⟨found, start⟩, v, hopening, h⟩ := Action.bind_eq_ok.mp h
  obtain ⟨progress, y, hpublish, h⟩ := Action.bind_eq_ok.mp h
  obtain ⟨_, y', hwrite, h⟩ := Action.bind_eq_ok.mp h
  obtain ⟨rfl, rfl⟩ := Action.pure_eq_ok.mp h
  obtain ⟨first, deletions, second, before, after, hopens⟩ := opening_eq_ok hopening
  obtain ⟨attempts, hsources, htries⟩ := publishAll_tries hpublish
  obtain ⟨hfollows, hend⟩ := hopens.agrees.triesAll htries
  obtain ⟨-, -, files', -, -, -, -, rfl⟩ := Record.write_eq_ok.mp hwrite
  rw [List.nil_append] at hend
  rw [hopens.found] at hsources
  refine ⟨first, deletions, second, attempts, ⟨?_, ⟨before, hopens.first, hopens.cleanup⟩,
    ⟨hsources, after, hopens.second, hfollows⟩, hend.result, ?_⟩⟩
  · have hsaved : Registry.Talks client [] y { y with files := files' } := .of_sent_eq rfl
    simpa using (hopens.log.trans htries.talks).trans hsaved
  · rw [hend.result, total_tally, ← hsources, List.length_map]

/-- A clock that counts its readings. -/
def ticking : Clock where
  read := Text.ofNat

/-- A registry with an outdated tool and with one that a manifest names. It does all that it is
asked for. -/
def sampleClient : Registry.Client where
  url := Text.ofString "http://registry.test"
  key := []
  network _ request :=
    if request.method = Text.ofString "GET" then
      .answer 200 (Text.ofString
        "[\x7b\"id\":1,\"name\":\"A-B-GET-old\"\x7d,\x7b\"id\":2,\"name\":\"a\"\x7d]")
    else if request.method = Text.ofString "POST" then
      .answer 201 (Text.ofString "\x7b\"id\":3\x7d")
    else
      .answer 200 []

/-- A working directory with a manifest, and with a unit beside it. -/
def filesOf (manifest : String) : Tree :=
  let directory := Workplace.tools ++ [Text.ofString "s"]
  .ofEntries [([], .directory), (Workplace.tools, .directory), (directory, .directory),
    (Workplace.manifestIn directory, .ofString manifest),
    (directory ++ [Text.ofString "u"], .ofString "pass\n")]
    (of_decide_eq_true rfl) (of_decide_eq_true rfl)

/-- A working directory with a manifest of three entries, of which two have a unit. -/
def sampleFiles : Tree :=
  filesOf ("[\x7b\"name\":\"a\",\"file\":\"u\",\"description\":\"\",\"schema\":\x7b\x7d\x7d," ++
    "\x7b\"name\":\"b\",\"file\":\"u\",\"description\":\"\",\"schema\":\x7b\x7d\x7d," ++
    "\x7b\"name\":\"c\",\"file\":\"v\"\x7d]")

/-- A run in the working directory deletes one tool, changes one, creates one and passes one entry
over. -/
theorem exists_run_sampleClient :
    ∃ world', run sampleClient ticking (.ofFiles sampleFiles) =
      .ok ⟨1, 1, 1, 0, 1⟩ world' := by
  have hreturns : Action.returns (run sampleClient ticking) (.ofFiles sampleFiles)
      (fun result _ => result = ⟨1, 1, 1, 0, 1⟩) = true := by
    decide +kernel
  obtain ⟨result, world', hrun, hresult⟩ := Action.exists_of_returns hreturns
  obtain rfl := of_decide_eq_true hresult
  exact ⟨world', hrun⟩

/-- The run in the working directory has an account. -/
theorem accounts_sampleClient :
    ∃ world' first deletions second attempts,
      run sampleClient ticking (.ofFiles sampleFiles) = .ok ⟨1, 1, 1, 0, 1⟩ world' ∧
      Accounts sampleClient (.ofFiles sampleFiles) world' ⟨1, 1, 1, 0, 1⟩ first deletions second
        attempts := by
  obtain ⟨world', hrun⟩ := exists_run_sampleClient
  obtain ⟨first, deletions, second, attempts, haccounts⟩ := run_accounts hrun
  exact ⟨world', first, deletions, second, attempts, hrun, haccounts⟩

end Publish

end Toolsmith
