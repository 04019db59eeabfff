import Toolsmith.Proofs.Publish.Recording

/-!
# The record is true wherever a run stops

A run of publishing may return, or stop at any point. Either way its record holds what it held
before and one value for every name that has succeeded, the one of the last success. It is not
written before the first success of a run that stops. Only a success that is nested too deeply to be
read or to be written is not recorded; there the run stops.
-/

namespace Toolsmith.Publish

variable {client : Registry.Client} {clock : Clock} {files : Tree} {members published : Members}
variable {w w' : World}

/-- What a run has sent, and for which entries: before all orders no request that writes a tool,
and then at most one order for every entry, for the tools of a list. -/
structure Traces (client : Registry.Client) (w w' : World) (log : List Exchange)
    (tools : List Json) (attempts : List Attempt) : Prop where
  talk : Registry.Talks client (log ++ attempts.filterMap Attempt.exchange?) w w'
  opening : ∀ e ∈ log, writes e.request = false
  listing : attempts = [] ∨ ∃ e ∈ log, Tells client e tools
  sources : attempts.map Attempt.source <+: entries w.files
  orders : Follows client w.files tools [] attempts

/-- Attempts that fit others may be followed by one that fits all of them. -/
theorem Follows.concat {tools : List Json} {before attempts : List Attempt} {a : Attempt}
    (h : Follows client files tools before attempts)
    (ha : Fits client files tools (before ++ attempts) a) :
    Follows client files tools before (attempts ++ [a]) := by
  induction h with
  | nil => exact .cons (by rwa [List.append_nil] at ha) .nil
  | cons hfirst _ ih =>
    refine .cons hfirst (ih ?_)
    rwa [List.append_assoc, List.singleton_append]

/-- Every success is among those that are recorded, in order; only if the run stops because a value
is nested too deeply, its last success is not. -/
def Completes (clock : Clock) (attempts : List Attempt)
    (outcome : EStateM.Result Fault World Result) (successes : List (Json × Json)) : Prop :=
  RecordsAll clock 0 attempts successes ∨
    ∃ kept last v, attempts = kept ++ [last] ∧ last.isDone = true ∧ outcome = .error .tooDeep v ∧
      RecordsAll clock 0 kept successes

/-- How a run ends for its record: with the successes in it, unless it stops before the first of
them. Then no file has changed. Each name has the value of its last success. The time of the last
run is that of the last reading: the one as the last success was recorded, or the one as the run
returned. -/
structure Checkpoints (clock : Clock) (members published : Members) (files : Tree)
    (attempts : List Attempt) (outcome : EStateM.Result Fault World Result)
    (successes : List (Json × Json)) : Prop where
  complete : Completes clock attempts outcome successes
  latest : ∀ key, Members.get? (recorded published successes) key =
    ((successes.reverse.find? fun s => keyText s.1 = key).map Prod.snd).or
      (Members.get? published key)
  changes : Tree.Changes (· = Workplace.state) files (Action.left outcome).files
  untouched : successes = [] → (∃ fault v, outcome = .error fault v) →
    (Action.left outcome).files = files
  stopped : successes ≠ [] → (∃ fault v, outcome = .error fault v) →
    (Action.left outcome).files.document? Workplace.state =
      some (saved (clock.read (2 * successes.length - 1)) members (recorded published successes))
  returned : (∃ result v, outcome = .ok result v) →
    (Action.left outcome).files.document? Workplace.state =
      some (saved (clock.read (2 * successes.length)) members (recorded published successes))

/-- The world that a run has reached by some attempts that let it go on. -/
structure Reaches (client : Registry.Client) (clock : Clock) (members published : Members)
    (w v : World) (log : List Exchange) (tools : List Json) (attempts : List Attempt)
    (successes : List (Json × Json)) (progress : Progress) : Prop where
  traces : Traces client w v log tools attempts
  records : RecordsAll clock 0 attempts successes
  knows : Knows clock members published w.files successes progress v
  listing : ∃ e ∈ log, Tells client e tools
  kind : ∃ url, client.target Registry.toolsWay = .ok url ∧ url.hasKind = true
  agrees : ∃ deleted, Agrees w.files tools deleted attempts progress v

/-- What a run reaches by the first of its entries. -/
theorem Opens.reaches {v v' : World} {start progress : Progress} {first second : Exchange}
    {deletions : List Exchange} {before after : List Json} {found done rest : List (Text × Json)}
    (h : Opens client w v found start first deletions second before after)
    (hrecordable : Recordable client clock members published w.files) (hfound : found = done ++ rest)
    (hpublish : publishAll client clock start done v = .ok progress v') :
    ∃ attempts successes, attempts.map Attempt.source = done ∧
      Reaches client clock members published w v' (first :: deletions ++ [second]) after attempts
        successes progress := by
  obtain ⟨attempts, hsources, htries⟩ := publishAll_tries hpublish
  have hentries : entries w.files = attempts.map Attempt.source ++ rest := by
    rw [← h.found, hfound, hsources]
  have hmem : ∀ a ∈ attempts, a.source ∈ entries w.files := by
    intro a ha
    rw [hentries]
    exact List.mem_append_left _ (List.mem_map_of_mem ha)
  obtain ⟨successes, hrecords, hknows⟩ := (h.knows hrecordable).triesAll hrecordable hmem htries
  obtain ⟨hfollows, hagrees⟩ := h.agrees.triesAll htries
  rw [List.nil_append] at hknows hagrees
  have hlisting : ∃ e ∈ first :: deletions ++ [second], Tells client e after :=
    ⟨second, List.mem_append_right _ (List.mem_singleton_self _), h.second⟩
  exact ⟨attempts, successes, hsources,
    ⟨h.log.trans htries.talks, h.inquires.reads, .inr hlisting,
      hentries ▸ List.prefix_append _ _, hfollows⟩,
    hrecords, hknows, hlisting, h.kind, _, hagrees⟩

/-- One more order that is sent is part of what a run has sent, whatever it writes after it. -/
theorem Reaches.traces_sent {v v' : World} {log : List Exchange} {tools : List Json}
    {attempts : List Attempt} {successes : List (Json × Json)} {progress : Progress}
    (h : Reaches client clock members published w v log tools attempts successes progress)
    {directory : Text} {entry : Json} {order : Order} {url : Url} {e : Exchange}
    (hsource : attempts.map Attempt.source ++ [(directory, entry)] <+: entries w.files)
    (hsent : Sent client progress v directory entry order url e)
    (hworld : v'.sent = (Registry.sentOne v e.request).sent) :
    Traces client w v' log tools
      (attempts ++ [⟨directory, entry, v.files, some (order, e)⟩]) := by
  obtain ⟨deleted, hagrees⟩ := h.agrees
  refine ⟨?_, h.traces.opening, .inr h.listing, by rw [List.map_append]; exact hsource,
    h.traces.orders.concat (hagrees.fits hsent)⟩
  have hlog := (h.traces.talk.trans hsent.talks).trans (.of_sent_eq hworld)
  rw [List.append_nil, List.append_assoc] at hlog
  rwa [List.filterMap_append]

/-- The way of an order is one to the tools. -/
theorem Order.exists_way (order : Order) : ∃ rest, order.way = Registry.toolsWay ++ rest := by
  unfold way
  cases order.target with
  | none => exact ⟨[], (List.append_nil _).symm⟩
  | some id => exact ⟨.char '/' :: id.display, rfl⟩

/-- Where the tools have been listed, an answer to an order cannot be read only if it is nested too
deeply. -/
theorem Reaches.eq_tooDeep {v : World} {log : List Exchange} {tools : List Json}
    {attempts : List Attempt} {successes : List (Json × Json)} {progress : Progress}
    (h : Reaches client clock members published w v log tools attempts successes progress)
    {directory : Text} {entry : Json} {order : Order} {url : Url} {e : Exchange} {fault : Fault}
    (hsent : Sent client progress v directory entry order url e)
    (hreading : Registry.reading url e.reply = .error fault) : fault = .tooDeep := by
  obtain ⟨listed, htarget, hkind⟩ := h.kind
  obtain ⟨rest, hway⟩ := order.exists_way
  have hsame := Registry.hasKind_target htarget (hway ▸ hsent.puts.target)
  exact Registry.eq_tooDeep_of_reading (hsame.trans hkind) hreading

/-- A run that stops has the record that is known up to then. -/
theorem Knows.checkpoints {v v' : World} {attempts : List Attempt}
    {successes : List (Json × Json)} {progress : Progress} {fault : Fault}
    (h : Knows clock members published files successes progress v) (hfiles : v'.files = v.files)
    (hcomplete : Completes clock attempts (.error fault v') successes) :
    Checkpoints clock members published files attempts (.error fault v') successes := by
  have hchecks := h.checks
  rw [← hfiles] at hchecks
  exact ⟨hcomplete, get?_recorded published successes, hchecks.changes,
    fun hnone _ => hchecks.untouched hnone, fun hsome _ => hchecks.document hsome, nofun⟩

/-- A run that stops at an entry, after others that let it go on. -/
theorem Reaches.stops {v v' : World} {log : List Exchange} {tools : List Json}
    {attempts : List Attempt} {successes : List (Json × Json)} {progress : Progress}
    (h : Reaches client clock members published w v log tools attempts successes progress)
    (hrecordable : Recordable client clock members published w.files) {directory : Text}
    {entry : Json} {a? : Option Attempt} {fault : Fault}
    (hsource : attempts.map Attempt.source ++ [(directory, entry)] <+: entries w.files)
    (hstops : Stops client clock progress v directory entry a? fault v') :
    ∃ all, Traces client w v' log tools all ∧
      Checkpoints clock members published w.files all (.error fault v') successes := by
  have hmem : (directory, entry) ∈ entries w.files :=
    hsource.subset (List.mem_append_right _ (List.mem_singleton_self _))
  cases hstops with
  | before => exact ⟨attempts, h.traces, h.knows.checkpoints rfl (.inl h.records)⟩
  | @unread order url e fault hsent hreading =>
    obtain rfl := h.eq_tooDeep hsent hreading
    refine ⟨_, h.traces_sent hsource hsent rfl, h.knows.checkpoints rfl ?_⟩
    cases hdone : Attempt.isDone ⟨directory, entry, v.files, some (order, e)⟩ with
    | true => exact .inr ⟨attempts, _, _, rfl, hdone, rfl, h.records⟩
    | false =>
      refine .inl ?_
      unfold RecordsAll
      rw [List.filter_append, List.filter_cons_of_neg (by rw [hdone]; decide), List.filter_nil,
        List.append_nil]
      exact h.records
  | @unrecorded order url e content fault v' hsent hstatus hcontent hstop =>
    have hname := mem_entryNames hmem hsent.orders.name
    obtain ⟨record, hadd, hkeeps⟩ := h.knows.keeps.add hrecordable.names
      (List.mem_append_right _ hname) (success (clock.read progress.readings) order content)
    rw [Action.ofExcept_bind_of_ok hadd] at hstop
    have hlasting : (Json.object (recorded published (successes ++
        [(order.name, success (clock.read progress.readings) order content)]))).Lasting := by
      rw [recorded_append]
      exact h.knows.lasting.set (hrecordable.keys _ hname) (hsent.lasting_success h.knows.known
        (hrecordable.answers.lasting hsent.reply hcontent) (hrecordable.times _))
    rcases hkeeps.write (hrecordable.lasting_saved hlasting _) with ⟨files', hok, -⟩ |
        ⟨other, herror, hother⟩
    · rw [hok] at hstop
      cases hstop
    · obtain ⟨rfl, rfl⟩ := EStateM.Result.error.inj (herror.symm.trans hstop)
      have hcan := h.knows.checks.canStore hrecordable.record (List.ne_nil_of_mem hmem)
      obtain ⟨rfl, -⟩ := hother hcan
      exact ⟨_, h.traces_sent hsource hsent rfl,
        h.knows.checkpoints rfl (.inr ⟨attempts, _, _, rfl, hstatus, rfl, h.records⟩)⟩

/-- A run that has published all entries writes its record once more. -/
theorem Reaches.returns {v : World} {log : List Exchange} {tools : List Json}
    {attempts : List Attempt} {successes : List (Json × Json)} {progress : Progress}
    (h : Reaches client clock members published w v log tools attempts successes progress)
    (hrecordable : Recordable client clock members published w.files)
    {outcome : EStateM.Result Fault World Result}
    (houtcome : outcome = (do
      progress.record.write (clock.read progress.readings)
      pure progress.result : Action Result) v) :
    Traces client w (Action.left outcome) log tools attempts ∧
      Checkpoints clock members published w.files attempts outcome successes := by
  have hlasting := hrecordable.lasting_saved h.knows.lasting progress.readings
  rcases h.knows.keeps.write hlasting with ⟨files', hok, hstores⟩ | ⟨fault, herror, -⟩
  · rw [Action.bind_of_ok hok] at houtcome
    subst houtcome
    obtain ⟨hchanges, hdocument⟩ := hstores.document? hlasting
    refine ⟨⟨?_, h.traces.opening, h.traces.listing, h.traces.sources, h.traces.orders⟩,
      ⟨.inl h.records, get?_recorded published successes, h.knows.checks.changes.trans hchanges,
        nofun, nofun, fun _ => ?_⟩⟩
    · have hsaved : Registry.Talks client [] v { v with files := files' } := .of_sent_eq rfl
      have htalk := h.traces.talk.trans hsaved
      rwa [List.append_nil] at htalk
    · rw [← h.knows.readings]
      exact hdocument
  · rw [Action.bind_eq_error.mpr (.inl herror)] at houtcome
    subst houtcome
    exact ⟨h.traces, h.knows.checkpoints rfl (.inl h.records)⟩

/-- However a run ends, its record holds what it held before, and one value for every name that has
succeeded. -/
theorem run_records (h : Recordable client clock members published w.files) :
    ∃ log tools attempts successes,
      Traces client w (Action.left (run client clock w)) log tools attempts ∧
      Checkpoints clock members published w.files attempts (run client clock w) successes := by
  rw [run_eq_opening]
  cases hopening : opening client w with
  | error fault v =>
    rw [Action.bind_eq_error.mpr (.inl hopening)]
    obtain ⟨log, hlog⟩ := asks_opening client w
    rw [hopening] at hlog
    have hfiles : v.files = w.files := hlog.files
    refine ⟨log, [], [], [], ⟨?_, hlog.reads, .inl rfl, List.nil_prefix, .nil⟩,
      ⟨.inl .nil, get?_recorded published [], ?_, fun _ _ => hfiles, nofun, nofun⟩⟩
    · rw [List.filterMap_nil, List.append_nil]
      exact hlog.talk
    · show Tree.Changes (· = Workplace.state) w.files v.files
      rw [hfiles]
      exact .refl _ _
  | ok pair v =>
    obtain ⟨found, start⟩ := pair
    rw [Action.bind_of_ok hopening]
    obtain ⟨first, deletions, second, before, after, hopens⟩ := opening_eq_ok hopening
    simp only
    generalize (found.flatMap fun l => l.2.map (Prod.mk l.1)) = all at hopens ⊢
    cases hpublish : publishAll client clock start all v with
    | ok progress v' =>
      rw [Action.bind_of_ok hpublish]
      obtain ⟨attempts, successes, -, hreaches⟩ :=
        hopens.reaches h (List.append_nil all).symm hpublish
      exact ⟨_, _, attempts, successes, hreaches.returns h rfl⟩
    | error fault v' =>
      rw [Action.bind_eq_error.mpr (.inl hpublish)]
      obtain ⟨done, directory, entry, rest, progress, u, hall, hdone, hstop⟩ :=
        publishAll_eq_error hpublish
      obtain ⟨attempts, successes, hsources, hreaches⟩ := hopens.reaches h hall hdone
      obtain ⟨a?, hstops⟩ := publishEntry_stops hstop
      have hsource : attempts.map Attempt.source ++ [(directory, entry)] <+: entries w.files := by
        rw [hsources, ← hopens.found, hall]
        exact ⟨rest, by rw [List.append_assoc, List.singleton_append]⟩
      obtain ⟨attempts', htraces, hcheckpoints⟩ := hreaches.stops h hsource hstops
      exact ⟨_, _, attempts', successes, htraces, hcheckpoints⟩

/-- The content of an answer has an encoding if its text as a document has one. -/
theorem encodable_of_content {body : Text} {v : Json}
    (h : (Registry.content body).toOption.any (fun u => u.fileText.encode.isSome) = true)
    (hv : Registry.content body = .ok v) : v.Encodable := by
  rw [hv] at h
  exact Json.encode_fileText.mp h

/-- The registry of the sample speaks plainly. -/
theorem speaksPlainly_sampleClient : Registry.SpeaksPlainly sampleClient := by
  intro sent request status body v hreply hcontent
  refine encodable_of_content ?_ hcontent
  simp only [sampleClient] at hreply
  split at hreply
  · cases hreply
    decide +kernel
  · split at hreply
    · cases hreply
      decide +kernel
    · cases hreply
      decide +kernel

/-- A manifest with two entries of one name. -/
def repeatedFiles : Tree :=
  filesOf ("[\x7b\"name\":\"a\",\"file\":\"u\",\"description\":\"\",\"schema\":\x7b\x7d\x7d," ++
    "\x7b\"name\":\"a\",\"file\":\"u\",\"description\":\"\",\"schema\":\x7b\x7d\x7d]")

/-- The working directory has what a run needs for its record. -/
theorem recordable_repeatedFiles : Recordable sampleClient ticking
    [(Text.ofString "published", .object []), (Text.ofString "lastRun", .null)] []
    repeatedFiles where
  record := ⟨.inl ⟨by rfl, rfl⟩, rfl⟩
  names := by decide +kernel
  keys := by decide +kernel
  document := Json.encode_fileText.mp (by decide +kernel)
  times := encodes_ticking
  answers := speaksPlainly_sampleClient

/-- The text that the record has under keys, one in the other. -/
def timeAt? (document : Json) : List String → Option Text
  | [] => document.text?
  | key :: keys => (document.get? (Text.ofString key)).bind fun v => timeAt? v keys

/-- A run in the working directory changes the tool of the name twice. The record has the time of
the second change, and the one at which the run returned. -/
theorem exists_run_repeatedFiles :
    ∃ world' document,
      run sampleClient ticking (.ofFiles repeatedFiles) = .ok ⟨0, 2, 0, 0, 1⟩ world' ∧
      world'.files.document? Workplace.state = some document ∧
      timeAt? document ["published", "a", "timestamp"] = some (ticking.read 2) ∧
      timeAt? document ["lastRun"] = some (ticking.read 4) := by
  have hreturns : Action.returns (run sampleClient ticking) (.ofFiles repeatedFiles)
      (fun result w => result = ⟨0, 2, 0, 0, 1⟩ &&
        (w.files.document? Workplace.state).any fun document =>
          timeAt? document ["published", "a", "timestamp"] = some (ticking.read 2) &&
            timeAt? document ["lastRun"] = some (ticking.read 4)) = true := by
    decide +kernel
  obtain ⟨result, world', hrun, hcheck⟩ := Action.exists_of_returns hreturns
  obtain ⟨hresult, hcheck⟩ := Bool.and_eq_true_iff.mp hcheck
  obtain rfl := of_decide_eq_true hresult
  obtain ⟨document, hdocument, hcheck⟩ := (Option.any_eq_true _ _).mp hcheck
  obtain ⟨htime, hlast⟩ := Bool.and_eq_true_iff.mp hcheck
  exact ⟨world', document, hrun, hdocument, of_decide_eq_true htime, of_decide_eq_true hlast⟩

/-- The run in the working directory returns, and its record tells the last success apart. -/
theorem records_repeatedFiles : ∃ world' document log tools attempts successes,
    Recordable sampleClient ticking
      [(Text.ofString "published", .object []), (Text.ofString "lastRun", .null)] []
      (World.ofFiles repeatedFiles).files ∧
    run sampleClient ticking (.ofFiles repeatedFiles) = .ok ⟨0, 2, 0, 0, 1⟩ world' ∧
    Traces sampleClient (.ofFiles repeatedFiles) world' log tools attempts ∧
    Checkpoints ticking
      [(Text.ofString "published", .object []), (Text.ofString "lastRun", .null)] [] repeatedFiles
      attempts (.ok ⟨0, 2, 0, 0, 1⟩ world') successes ∧
    world'.files.document? Workplace.state = some document ∧
    timeAt? document ["published", "a", "timestamp"] = some (ticking.read 2) ∧
    timeAt? document ["lastRun"] = some (ticking.read 4) := by
  obtain ⟨world', document, hrun, hdocument, htime, hlast⟩ := exists_run_repeatedFiles
  obtain ⟨log, tools, attempts, successes, htraces, hcheckpoints⟩ :=
    run_records (w := .ofFiles repeatedFiles) recordable_repeatedFiles
  rw [hrun] at htraces hcheckpoints
  exact ⟨world', document, log, tools, attempts, successes, recordable_repeatedFiles, hrun, htraces,
    hcheckpoints, hdocument, htime, hlast⟩

/-- A manifest of two entries whose names are one key and are written apart. -/
def aliasFiles : Tree :=
  filesOf ("[\x7b\"name\":1,\"file\":\"u\",\"description\":\"\",\"schema\":\x7b\x7d\x7d," ++
    "\x7b\"name\":true,\"file\":\"u\",\"description\":\"\",\"schema\":\x7b\x7d\x7d]")

/-- An answer that is nested too deeply to be read. -/
def deepAnswer : Text :=
  List.replicate 3000 (.char '[')

/-- A registry without tools that creates whatever it is asked for, and answers so. -/
def deepClient : Registry.Client where
  url := Text.ofString "http://registry.test"
  key := []
  network _ request :=
    if request.method = Text.ofString "GET" then .answer 200 (Text.ofString "[]")
    else .answer 201 deepAnswer

/-- Not every success is recorded under its name. Of two successes with names that are one key, only
one name is in the record; and a tool is created without any record of it, if the answer cannot be
read. -/
theorem exists_unrecorded :
    (∃ world' document published,
      run sampleClient ticking (.ofFiles aliasFiles) = .ok ⟨1, 1, 0, 0, 1⟩ world' ∧
      world'.files.document? Workplace.state = some document ∧
      document.get? publishedKey = some published ∧
      (published.get? (keyText (.integer 1))).isSome = true ∧
      published.get? (keyText (.bool true)) = none) ∧
    ∃ fault world' request,
      run deepClient ticking (.ofFiles sampleFiles) = .error fault world' ∧
      request ∈ world'.sent ∧ request.method = Text.ofString "POST" ∧
      (∀ sent, deepClient.network sent request = .answer 201 deepAnswer) ∧
      world'.files.exists? Workplace.state = .ok false := by
  constructor
  · have hreturns : Action.returns (run sampleClient ticking) (.ofFiles aliasFiles)
        (fun result w => result = ⟨1, 1, 0, 0, 1⟩ &&
          (w.files.document? Workplace.state).any fun document =>
            (document.get? publishedKey).any fun published =>
              (published.get? (keyText (.integer 1))).isSome &&
                (published.get? (keyText (.bool true))).isNone) = true := by
      decide +kernel
    obtain ⟨result, world', hrun, hcheck⟩ := Action.exists_of_returns hreturns
    obtain ⟨hresult, hcheck⟩ := Bool.and_eq_true_iff.mp hcheck
    obtain rfl := of_decide_eq_true hresult
    obtain ⟨document, hdocument, hcheck⟩ := (Option.any_eq_true _ _).mp hcheck
    obtain ⟨published, hpublished, hcheck⟩ := (Option.any_eq_true _ _).mp hcheck
    obtain ⟨hone, htrue⟩ := Bool.and_eq_true_iff.mp hcheck
    exact ⟨world', document, published, hrun, hdocument, hpublished, hone,
      Option.isNone_iff_eq_none.mp htrue⟩
  · have hstops : Action.stops (run deepClient ticking) (.ofFiles sampleFiles)
        (fun _ w => (w.sent.any fun request => request.method = Text.ofString "POST") &&
          (w.files.exists? Workplace.state).toOption = some false) = true := by
      decide +kernel
    obtain ⟨fault, world', hrun, hcheck⟩ := Action.exists_of_stops hstops
    obtain ⟨hsent, hexists⟩ := Bool.and_eq_true_iff.mp hcheck
    obtain ⟨request, hrequest, hmethod⟩ := List.any_eq_true.mp hsent
    have hpost : request.method = Text.ofString "POST" := of_decide_eq_true hmethod
    refine ⟨fault, world', request, hrun, hrequest, hpost, fun sent => ?_, ?_⟩
    · simp only [deepClient, hpost]
      rw [if_neg (by decide)]
    · exact Action.eq_ok_of_toOption (of_decide_eq_true hexists)

end Toolsmith.Publish
