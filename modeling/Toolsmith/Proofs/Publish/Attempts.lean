import Toolsmith.Proofs.Publish.Entries

/-!
# Attempts

A run of publishing makes one attempt for every entry. An attempt passes its entry over, or it sends
an order and something comes back. An attempt that stops the run does so before its order is sent,
because nothing can be read of what came back, or because a success cannot be recorded.
-/

namespace Toolsmith.Publish

variable {client : Registry.Client} {clock : Clock} {w w' w'' : World}

/-- What a run does for an entry in its directory, at a turn with its own tree: it sends an order
and something comes back, or it passes the entry over. -/
structure Attempt where
  directory : Text
  entry : Json
  files : Tree
  sent? : Option (Order × Exchange)

namespace Attempt

/-- The entry with its directory. -/
def source (a : Attempt) : Text × Json :=
  (a.directory, a.entry)

/-- The request that is sent, and what comes back. -/
def exchange? (a : Attempt) : Option Exchange :=
  a.sent?.map Prod.snd

/-- Whether the answer tells of a success. -/
def isDone (a : Attempt) : Bool :=
  a.sent?.any fun s => s.2.hasStatus s.1.successes

/-- Whether a tool has been created. -/
def isCreated (a : Attempt) : Bool :=
  a.sent?.any fun s => s.1.target.isNone && s.2.hasStatus s.1.successes

/-- Whether a tool has been changed. -/
def isUpdated (a : Attempt) : Bool :=
  a.sent?.any fun s => s.1.target.isSome && s.2.hasStatus s.1.successes

/-- Whether an order has been sent without a success. -/
def isFailed (a : Attempt) : Bool :=
  a.sent?.any fun s => !s.2.hasStatus s.1.successes

/-- The tool that has been created, under its name, if the answer tells its identifier. -/
def created? (a : Attempt) : Option (Json × Json) :=
  a.sent?.bind fun s =>
    if s.1.target.isNone && s.2.hasStatus s.1.successes then
      s.2.content?.bind fun tool =>
        if (tool.get? (Text.ofString "id")).isSome then some (s.1.name, tool) else none
    else none

end Attempt

/-- An order that is sent: it is the one for its entry, and the network replies to its request. -/
structure Sent (client : Registry.Client) (progress : Progress) (w : World) (directory : Text)
    (entry : Json) (order : Order) (url : Url) (e : Exchange) : Prop where
  orders : Orders w.files directory progress.known progress.turn entry order
  puts : Registry.Puts client order.method order.way (some order.tool) url e.request
  reply : client.network w.sent e.request = e.reply

/-- An attempt that lets the run go on, with the progress and the world before and after it. -/
inductive Tries (client : Registry.Client) (clock : Clock) (progress : Progress) (w : World) :
    Attempt → Progress → World → Prop
  | skip {directory file : Text} {entry : Json}
      (hfile : entry.get? (Text.ofString "file") = some (.text file))
      (habsent : w.files.exists? (unitPath directory file) = .ok false) :
      Tries client clock progress w ⟨directory, entry, w.files, none⟩ (skip progress) w
  | fail {directory : Text} {entry : Json} {order : Order} {url : Url} {e : Exchange}
      (hsent : Sent client progress w directory entry order url e)
      (hstatus : e.hasStatus order.successes = false) :
      Tries client clock progress w ⟨directory, entry, w.files, some (order, e)⟩
        (fail (turned progress)) (Registry.sentOne w e.request)
  | succeed {directory : Text} {entry : Json} {order : Order} {url : Url} {e : Exchange}
      {content : Json} {record : Record} {w' : World}
      (hsent : Sent client progress w directory entry order url e)
      (hstatus : e.hasStatus order.successes = true) (hcontent : e.content? = some content)
      (hadd : progress.record.add order.name
        (success (clock.read progress.readings) order content) = .ok record)
      (hwrite : record.write (clock.read (progress.readings + 1)) (Registry.sentOne w e.request) =
        .ok () w') :
      Tries client clock progress w ⟨directory, entry, w.files, some (order, e)⟩
        { order.count content (turned progress) with
          readings := progress.readings + 2, record } w'

/-- Attempts that let the run go on, one after another. -/
inductive TriesAll (client : Registry.Client) (clock : Clock) :
    Progress → World → List Attempt → Progress → World → Prop
  | nil {progress : Progress} {w : World} : TriesAll client clock progress w [] progress w
  | cons {progress middle progress' : Progress} {w v w' : World} {a : Attempt}
      {attempts : List Attempt} (hfirst : Tries client clock progress w a middle v)
      (hrest : TriesAll client clock middle v attempts progress' w') :
      TriesAll client clock progress w (a :: attempts) progress' w'

/-- A reply tells of a success exactly if the answer read of it does. -/
theorem hasStatus_eq_isDone {order : Order} {e : Exchange} {url : Url} {answer : Registry.Answer}
    (h : Registry.reading url e.reply = .ok answer) :
    e.hasStatus order.successes = order.isDone answer := by
  cases answer with
  | unreachable message =>
    rw [Registry.reading_eq_unreachable] at h
    rw [Exchange.hasStatus, h]
    rfl
  | answered status content =>
    obtain ⟨-, body, hreply, -⟩ := Registry.reading_eq_answered.mp h
    rw [Exchange.hasStatus, hreply]
    rfl

/-- The content of a reply is that of the answer read of it. -/
theorem content?_of_reading {e : Exchange} {url : Url} {status : Int} {content : Json}
    (h : Registry.reading url e.reply = .ok (.answered status content)) :
    e.content? = some content := by
  obtain ⟨-, body, hreply, hcontent⟩ := Registry.reading_eq_answered.mp h
  simp [Exchange.content?, hreply, hcontent, Except.toOption]

/-- Publishing an entry is an attempt. -/
theorem publishEntry_tries {directory : Text} {entry : Json} {progress progress' : Progress}
    (h : publishEntry client clock directory progress entry w = .ok progress' w') :
    ∃ a, a.source = (directory, entry) ∧ Tries client clock progress w a progress' w' := by
  rcases publishEntry_eq_ok.mp h with ⟨⟨file, hfile, habsent⟩, rfl, rfl⟩ |
      ⟨order, url, request, answer, horders, hputs, hreading, hsettle⟩
  · exact ⟨_, rfl, .skip hfile habsent⟩
  · have hstatus : Exchange.hasStatus ⟨request, client.network w.sent request⟩ order.successes =
        order.isDone answer := hasStatus_eq_isDone hreading
    rcases settle_eq_ok.mp hsettle with ⟨hnot, rfl, rfl⟩ |
        ⟨status, content, record, rfl, hdone, hadd, hwrite, rfl⟩
    · exact ⟨_, rfl, .fail ⟨horders, hputs, rfl⟩ (hstatus.trans hnot)⟩
    · exact ⟨_, rfl, .succeed ⟨horders, hputs, rfl⟩ (hstatus.trans hdone)
        (content?_of_reading hreading) hadd hwrite⟩

/-- Publishing entries is one attempt after another. -/
theorem publishAll_tries {progress progress' : Progress} {entries : List (Text × Json)}
    (h : publishAll client clock progress entries w = .ok progress' w') :
    ∃ attempts, attempts.map Attempt.source = entries ∧
      TriesAll client clock progress w attempts progress' w' := by
  induction entries generalizing progress w with
  | nil =>
    obtain ⟨rfl, rfl⟩ := Action.pure_eq_ok.mp h
    exact ⟨[], rfl, .nil⟩
  | cons first entries ih =>
    obtain ⟨middle, v, hentry, hrest⟩ := Action.bind_eq_ok.mp h
    obtain ⟨a, hsource, htries⟩ := publishEntry_tries hentry
    obtain ⟨attempts, hsources, hall⟩ := ih hrest
    exact ⟨a :: attempts, by rw [List.map_cons, hsource, hsources], .cons htries hall⟩

/-- An order that is sent is one exchange. -/
theorem Sent.talks {progress : Progress} {directory : Text} {entry : Json} {order : Order}
    {url : Url} {e : Exchange} (h : Sent client progress w directory entry order url e) :
    Registry.Talks client [e] w (Registry.sentOne w e.request) := by
  obtain ⟨request, reply⟩ := e
  have hreply : client.network w.sent request = reply := h.reply
  subst hreply
  exact Registry.talks_sentOne client w request

/-- Attempts have one exchange for every order. -/
theorem TriesAll.talks {progress progress' : Progress} {attempts : List Attempt}
    (h : TriesAll client clock progress w attempts progress' w') :
    Registry.Talks client (attempts.filterMap Attempt.exchange?) w w' := by
  induction h with
  | nil => exact .of_sent_eq rfl
  | @cons progress middle progress' w v w' a attempts hfirst _ ih =>
    have hlog : Registry.Talks client a.exchange?.toList w v := by
      cases hfirst with
      | skip => exact .of_sent_eq rfl
      | fail hsent => exact hsent.talks
      | succeed hsent _ _ _ hwrite =>
        obtain ⟨-, -, files, -, -, -, -, rfl⟩ := Record.write_eq_ok.mp hwrite
        exact hsent.talks.trans (.of_sent_eq rfl)
    rw [List.filterMap_cons]
    cases hexchange : a.exchange? with
    | none =>
      rw [hexchange] at hlog
      exact hlog.trans ih
    | some e =>
      rw [hexchange] at hlog
      exact hlog.trans ih

/-- An attempt that stops the run: before an order is sent, because no answer can be read of the
reply, or because a success cannot be recorded. -/
inductive Stops (client : Registry.Client) (clock : Clock) (progress : Progress) (w : World)
    (directory : Text) (entry : Json) : Option Attempt → Fault → World → Prop
  | before {fault : Fault} : Stops client clock progress w directory entry none fault w
  | unread {order : Order} {url : Url} {e : Exchange} {fault : Fault}
      (hsent : Sent client progress w directory entry order url e)
      (hreading : Registry.reading url e.reply = .error fault) :
      Stops client clock progress w directory entry
        (some ⟨directory, entry, w.files, some (order, e)⟩) fault (Registry.sentOne w e.request)
  | unrecorded {order : Order} {url : Url} {e : Exchange} {content : Json} {fault : Fault}
      {w' : World} (hsent : Sent client progress w directory entry order url e)
      (hstatus : e.hasStatus order.successes = true) (hcontent : e.content? = some content)
      (hstop : (do
        let record ← Action.ofExcept (progress.record.add order.name
          (success (clock.read progress.readings) order content))
        record.write (clock.read (progress.readings + 1))) (Registry.sentOne w e.request) =
          .error fault w') :
      Stops client clock progress w directory entry
        (some ⟨directory, entry, w.files, some (order, e)⟩) fault w'

/-- An answer that cannot be settled tells of a success that cannot be recorded. -/
theorem settle_eq_error {progress : Progress} {order : Order} {answer : Registry.Answer}
    {fault : Fault} (h : settle clock progress order answer w = .error fault w') :
    ∃ status content, answer = .answered status content ∧ order.isDone answer = true ∧
      (do
        let record ← Action.ofExcept (progress.record.add order.name
          (success (clock.read progress.readings) order content))
        record.write (clock.read (progress.readings + 1))) w = .error fault w' := by
  cases answer with
  | unreachable message => cases h
  | answered status content =>
    rw [settle] at h
    split at h
    · rename_i hdone
      refine ⟨status, content, rfl, hdone, ?_⟩
      unfold succeed at h
      simp only [Order.record_count, Order.readings_count] at h
      rcases Action.bind_eq_error.mp h with hadd | ⟨record, v, hadd, h⟩
      · exact Action.bind_eq_error.mpr (.inl hadd)
      · rcases Action.bind_eq_error.mp h with hwrite | ⟨_, _, -, h⟩
        · exact Action.bind_eq_error.mpr (.inr ⟨record, v, hadd, hwrite⟩)
        · cases h
    · cases h

/-- Publishing an entry that stops is such an attempt. -/
theorem publishEntry_stops {directory : Text} {entry : Json} {progress : Progress} {fault : Fault}
    (h : publishEntry client clock directory progress entry w = .error fault w') :
    ∃ a?, Stops client clock progress w directory entry a? fault w' := by
  rw [publishEntry_eq_carryOut] at h
  rcases Action.bind_eq_error.mp h with hprepare | ⟨order?, v, hprepare, h⟩
  · obtain rfl := (quiet_prepare directory progress entry).of_error hprepare
    exact ⟨none, .before⟩
  · cases order? with
    | none => cases h
    | some order =>
      obtain ⟨horders, rfl⟩ := prepare_eq_ok_some.mp hprepare
      rcases Action.bind_eq_error.mp h with hask | ⟨answer, v', hask, hsettle⟩
      · rcases Registry.ask_eq_error hask with rfl | ⟨url, request, hputs, hreading, rfl⟩
        · exact ⟨none, .before⟩
        · exact ⟨_, .unread (e := ⟨request, client.network w.sent request⟩)
            ⟨horders, hputs, rfl⟩ hreading⟩
      · obtain ⟨url, request, hputs, hreading, rfl⟩ := Registry.ask_eq_ok.mp hask
        obtain ⟨status, content, rfl, hdone, hstop⟩ := settle_eq_error hsettle
        exact ⟨_, .unrecorded (e := ⟨request, client.network w.sent request⟩)
          ⟨horders, hputs, rfl⟩ ((hasStatus_eq_isDone hreading).trans hdone)
          (content?_of_reading hreading) hstop⟩

end Toolsmith.Publish
