import Toolsmith.Proofs.Publish.Attempts

/-!
# How a run begins

Before the first entry a run of publishing reads the manifests, asks for all tools, deletes the
outdated ones, asks for all tools again, and reads its record. Up to then it writes no tool and no
file, also if it stops.
-/

namespace Toolsmith.Publish

variable {client : Registry.Client} {clock : Clock} {w w' w'' : World} {α β : Type}

/-- How a run begins: the entries that are to be published, and the progress before the first of
them. -/
def opening (client : Registry.Client) : Action (List Listing × Progress) := do
  let (listings, names) ← Action.ofExcept (listings (← manifests))
  let deletions ← cleanUp client kept names (← existingTools client)
  let known ← Action.ofExcept (byName [] (← existingTools client))
  let record := Record.ofDocument (← readState)
  pure (listings, ⟨⟨0, 0, 0, 0, deletions.deleted⟩, 0, 0, known, record⟩)

/-- A run begins, publishes all entries, and writes its record once more. -/
theorem run_eq_opening (client : Registry.Client) (clock : Clock) :
    run client clock = (do
      let (found, start) ← opening client
      let progress ← publishAll client clock start
        (found.flatMap fun l => l.2.map (Prod.mk l.1))
      progress.record.write (clock.read progress.readings)
      pure progress.result) := by
  unfold run opening
  simp only [bind_assoc, pure_bind, publishListings_eq_publishAll]

/-- How a run that begins has begun: with the first list of tools, a deletion for each outdated one,
and the second list. No file has been changed. -/
structure Opens (client : Registry.Client) (w v : World) (found : List (Text × Json))
    (start : Progress) (first : Exchange) (deletions : List Exchange) (second : Exchange)
    (before after : List Json) : Prop where
  log : Registry.Talks client (first :: deletions ++ [second]) w v
  files : v.files = w.files
  found : found = entries w.files
  first : Tells client first before
  cleanup : List.Forall₂ (Deletes client)
    (before.filter (isOutdated (entryNames (entries w.files)))) deletions
  second : Tells client second after
  kind : ∃ url, client.target Registry.toolsWay = .ok url ∧ url.hasKind = true
  state : ∃ state, readState v = .ok state v ∧
    start = ⟨⟨0, 0, 0, 0, deletions.countP fun e => e.hasStatus [200, 204]⟩, 0, 0,
      (after.filterMap named?).reverse, Record.ofDocument state⟩

/-- A run that begins has asked for what it needs. -/
theorem opening_eq_ok {found : List Listing} {start : Progress}
    (h : opening client w = .ok (found, start) w') :
    ∃ first deletions second before after, Opens client w w'
      (found.flatMap fun l => l.2.map (Prod.mk l.1)) start first deletions second before after := by
  obtain ⟨documents, v, hmanifests, h⟩ := Action.bind_eq_ok.mp h
  obtain ⟨⟨found, names⟩, v', hlisted, h⟩ := Action.bind_eq_ok.mp h
  obtain ⟨before, u, hbefore, h⟩ := Action.bind_eq_ok.mp h
  obtain ⟨deletions, u', hcleanUp, h⟩ := Action.bind_eq_ok.mp h
  obtain ⟨after, x, hafter, h⟩ := Action.bind_eq_ok.mp h
  obtain ⟨table, x', hnamed, h⟩ := Action.bind_eq_ok.mp h
  obtain ⟨state, x'', hstate, h⟩ := Action.bind_eq_ok.mp h
  obtain ⟨doomed, u'', hjudged, hdelete⟩ := Action.bind_eq_ok.mp hcleanUp
  obtain ⟨hpair, rfl⟩ := Action.pure_eq_ok.mp h
  obtain ⟨rfl, rfl⟩ := Prod.mk.inj hpair
  obtain ⟨hlistings, rfl⟩ := Action.ofExcept_eq_ok.mp hlisted
  obtain ⟨hdoomed, rfl⟩ := Action.ofExcept_eq_ok.mp hjudged
  obtain ⟨htable, rfl⟩ := Action.ofExcept_eq_ok.mp hnamed
  obtain ⟨rfl, hentries, hnames⟩ := eq_of_manifests hmanifests hlistings
  obtain rfl := world_of_readState hstate
  -- the parts of the log, one for each phase
  obtain ⟨first, hfirst, hfirstLog, hfirstFiles, hkind⟩ := tells_of_existingTools hbefore
  obtain ⟨log, hdeletes, hdeleteLog, hdeleteFiles, hdeleted⟩ := deleteAll_eq_ok hdelete
  obtain ⟨second, hsecond, hsecondLog, hsecondFiles, -⟩ := tells_of_existingTools hafter
  obtain rfl := byName_eq_ok htable
  refine ⟨first, log, second, before, after,
    ⟨?_, hsecondFiles.trans (hdeleteFiles.trans hfirstFiles), hentries, hfirst, ?_, hsecond,
      hkind, state, hstate, ?_⟩⟩
  · simpa using (hfirstLog.trans hdeleteLog).trans hsecondLog
  · rw [entryNames_eq hnames, ← doomed_eq_ok hdoomed]
    exact hdeletes
  · rw [hdeleted, Nat.zero_add, List.append_nil]

/-- One world comes from another by the requests of a log, of which none writes a tool. No file has
been changed. -/
structure Inquires (client : Registry.Client) (log : List Exchange) (w w' : World) : Prop where
  talk : Registry.Talks client log w w'
  reads : ∀ e ∈ log, writes e.request = false
  files : w'.files = w.files

/-- One such log follows another. -/
theorem Inquires.trans {log more : List Exchange} (h : Inquires client log w w')
    (h' : Inquires client more w' w'') : Inquires client (log ++ more) w w'' :=
  ⟨h.talk.trans h'.talk, List.forall_mem_append.mpr ⟨h.reads, h'.reads⟩, h'.files.trans h.files⟩

/-- An activity that may send requests, but none that writes a tool, and that changes no file,
however it ends. -/
def Asks (client : Registry.Client) (x : Action α) : Prop :=
  ∀ w, ∃ log, Inquires client log w (Action.left (x w))

namespace Asks

variable {x : Action α} {f : α → Action β}

/-- What only looks sends nothing. -/
theorem of_quiet (h : Action.Quiet x) : Asks client x := by
  intro w
  rw [h w]
  exact ⟨[], .of_sent_eq rfl, List.forall_mem_nil _, rfl⟩

/-- Parts that only ask make a sequence that only asks. -/
theorem bind (h : Asks client x) (hf : ∀ a, Asks client (f a)) : Asks client (x >>= f) := by
  intro w
  obtain ⟨log, hlog⟩ := h w
  cases hx : x w with
  | ok a v =>
    rw [hx] at hlog
    obtain ⟨more, hmore⟩ := hf a v
    rw [Action.bind_of_ok hx]
    exact ⟨log ++ more, hlog.trans hmore⟩
  | error fault v =>
    rw [hx] at hlog
    rw [Action.bind_eq_error.mpr (.inl hx)]
    exact ⟨log, hlog⟩

/-- A question that writes no tool only asks. -/
theorem ask {method way : Text}
    (hmethod : method ≠ Text.ofString "POST" ∧ method ≠ Text.ofString "PUT") :
    Asks client (Registry.ask client method way none) := by
  intro w
  by_cases hputs : ∃ url request, Registry.Puts client method way none url request
  · obtain ⟨url, request, hputs⟩ := hputs
    have hwrites : writes request = false := by
      rw [hputs.request, writes, Registry.Client.request, decide_eq_false hmethod.1,
        decide_eq_false hmethod.2]
      rfl
    have hleft : Action.left (Registry.ask client method way none w) =
        Registry.sentOne w request := by
      rw [Registry.ask_of_puts hputs, Action.Quiet.ofExcept]
    rw [hleft]
    exact ⟨_, Registry.talks_sentOne client w request, by simpa using hwrites, rfl⟩
  · obtain ⟨fault, hfault⟩ := Registry.ask_of_not_puts fun url request h => hputs ⟨url, request, h⟩
    rw [hfault]
    exact ⟨[], .of_sent_eq rfl, List.forall_mem_nil _, rfl⟩

/-- The tools of the registry are asked for. -/
theorem existingTools : Asks client (existingTools client) := by
  refine (Asks.ask (by decide)).bind fun answer => of_quiet ?_
  split
  · split
    · exact .pure _
    · exact fun _ => rfl
  · exact fun _ => rfl
  · exact fun _ => rfl

/-- Deletions are asked for. -/
theorem deleteAll (sofar : Deletions) (tools : List Json) :
    Asks client (deleteAll client sofar tools) := by
  induction tools generalizing sofar with
  | nil => exact of_quiet (.pure sofar)
  | cons tool tools ih =>
    exact (of_quiet (.ofExcept _)).bind fun id => (Asks.ask (by decide)).bind fun answer => ih _

end Asks

/-- Reading manifests only looks at the files. -/
theorem quiet_readManifests (directories : List Text) :
    Action.Quiet (readManifests directories) := by
  induction directories with
  | nil => exact .pure []
  | cons directory directories ih =>
    refine (Action.Quiet.fileExists _).bind fun there => ?_
    split
    · exact (Action.Quiet.readDocument _).bind fun manifest => ih.bind fun more => .pure _
    · exact ih

/-- Reading the record only looks at the files. -/
theorem quiet_readState : Action.Quiet readState := by
  refine (Action.Quiet.fileExists _).bind fun there => ?_
  split
  · exact .readDocument _
  · exact .pure _

/-- Before the first entry a run only asks. -/
theorem asks_opening (client : Registry.Client) : Asks client (opening client) := by
  have hmanifests : Action.Quiet manifests := by
    intro w
    rw [manifests_eq_readManifests]
    exact quiet_readManifests _ w
  refine (Asks.of_quiet hmanifests).bind fun documents =>
    (Asks.of_quiet (.ofExcept _)).bind fun found => Asks.existingTools.bind fun before =>
    Asks.bind ?_ fun deletions => Asks.existingTools.bind fun after =>
    (Asks.of_quiet (.ofExcept _)).bind fun known =>
    (Asks.of_quiet quiet_readState).bind fun state => .of_quiet (.pure _)
  exact (Asks.of_quiet (.ofExcept _)).bind fun doomed => Asks.deleteAll _ _

/-- Deletions write no tool. -/
theorem reads_of_deletes {tools : List Json} {deletions : List Exchange}
    (h : List.Forall₂ (Deletes client) tools deletions) :
    ∀ e ∈ deletions, writes e.request = false := by
  induction h with
  | nil => exact List.forall_mem_nil _
  | cons hfirst _ ih =>
    obtain ⟨id, url, -, hputs⟩ := hfirst
    refine List.forall_mem_cons.mpr ⟨?_, ih⟩
    rw [hputs.request]
    rfl

/-- What a run that begins has sent writes no tool. -/
theorem Opens.inquires {found : List (Text × Json)} {start : Progress} {first second : Exchange}
    {deletions : List Exchange} {before after : List Json}
    (h : Opens client w w' found start first deletions second before after) :
    Inquires client (first :: deletions ++ [second]) w w' := by
  have htells : ∀ {e tools}, Tells client e tools → writes e.request = false := by
    rintro e tools ⟨⟨url, hputs⟩, -, -⟩
    rw [hputs.request]
    rfl
  refine ⟨h.log, ?_, h.files⟩
  rw [List.cons_append, List.forall_mem_cons, List.forall_mem_append, List.forall_mem_singleton]
  exact ⟨htells h.first, reads_of_deletes h.cleanup, htells h.second⟩

end Toolsmith.Publish
