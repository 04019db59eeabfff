import Toolsmith.Proofs.Action
import Toolsmith.Proofs.Web.Kind

/-!
# Questions to the registry

A question to the registry is one request to a URL, or none if it cannot be put. What comes back is
read as an answer. All requests with what came back for them make up a log, in which every reply is
the network's, given the requests before.
-/

namespace Toolsmith

/-- A request with what came back for it. -/
structure Exchange where
  request : Request
  reply : Reply

namespace Exchange

/-- Whether the request was answered with one of some statuses. -/
def hasStatus (e : Exchange) (statuses : List Int) : Bool :=
  match e.reply with
  | .answer status _ => statuses.contains status
  | .failure _ => false

/-- The content of the answer, if there is one that can be read. -/
def content? (e : Exchange) : Option Json :=
  match e.reply with
  | .answer _ body => (Registry.content body).toOption
  | .failure _ => none

end Exchange

/-- Every reply of a log is the network's to its request, after some requests and those before it
in the log. -/
def Network.Answers (network : Network) : List Request → List Exchange → Prop
  | _, [] => True
  | before, e :: rest =>
    network before e.request = e.reply ∧ Network.Answers network (before ++ [e.request]) rest

/-- Logs may be put one after another. -/
theorem Network.answers_append {network : Network} {before : List Request}
    {log more : List Exchange} :
    network.Answers before (log ++ more) ↔
      network.Answers before log ∧
        network.Answers (before ++ log.map Exchange.request) more := by
  induction log generalizing before with
  | nil => simp [Answers]
  | cons e log ih =>
    rw [List.cons_append, Answers, Answers, ih, List.append_assoc, and_assoc]
    rfl

namespace Registry

variable {client : Client} {w w' w'' : World}

/-- One world comes from another by the requests of a log, which got its replies. -/
structure Talks (client : Client) (log : List Exchange) (w w' : World) : Prop where
  sent : w'.sent = w.sent ++ log.map Exchange.request
  replies : client.network.Answers w.sent log

/-- Where nothing is sent, there is an empty log. -/
theorem Talks.of_sent_eq (h : w'.sent = w.sent) : Talks client [] w w' :=
  ⟨by rw [h, List.map_nil, List.append_nil], trivial⟩

/-- One log follows another. -/
theorem Talks.trans {log more : List Exchange} (h : Talks client log w w')
    (h' : Talks client more w' w'') : Talks client (log ++ more) w w'' := by
  refine ⟨by rw [h'.sent, h.sent, List.map_append, List.append_assoc], ?_⟩
  rw [Network.answers_append, ← h.sent]
  exact ⟨h.replies, h'.replies⟩

/-- The URL of a way from the client's address. -/
def Client.target (client : Client) (way : Text) : Except Fault Url :=
  client.base.bind fun base => base.target way

/-- The request that puts a question to a URL. -/
def Client.request (client : Client) (url : Url) (method : Text) (body : Option Json) : Request :=
  ⟨method, .text url.plainPath, client.authorization url, body⟩

/-- A request puts a question to a URL: the URL is that of the way, and nothing hinders the request
from being sent. -/
structure Puts (client : Client) (method way : Text) (body : Option Json) (url : Url)
    (request : Request) : Prop where
  target : client.target way = .ok url
  sendable : requestFault? url body = none
  request : request = client.request url method body

/-- The answer that comes back from a URL. -/
def reading (url : Url) : Reply → Except Fault Answer
  | .answer status body =>
    if url.hasKind then (content body).map (.answered status) else .error (.kindless url.shownText)
  | .failure message => .ok (.unreachable message)

/-- The world after one more request. -/
def sentOne (w : World) (request : Request) : World :=
  { w with sent := w.sent ++ [request] }

/-- A question that can be put sends one request, and its answer is what can be read of the
reply. -/
theorem ask_of_puts {method way : Text} {body : Option Json} {url : Url} {request : Request}
    (h : Puts client method way body url request) :
    ask client method way body w =
      Action.ofExcept (reading url (client.network w.sent request)) (sentOne w request) := by
  obtain ⟨htarget, hsendable, rfl⟩ := h
  have hurl : (client.base.bind fun base => base.target way) = .ok url := htarget
  have hsend : Action.send client.network (client.request url method body) w =
      .ok (client.network w.sent (client.request url method body))
        (sentOne w (client.request url method body)) := rfl
  rw [ask, Action.ofExcept_bind_of_ok hurl, hsendable]
  show (Url.exchange client.network url (client.request url method body) >>= _) w = _
  rw [Url.exchange, bind_assoc, Action.bind_of_ok hsend]
  cases client.network w.sent (client.request url method body) with
  | failure message => rfl
  | answer status text =>
    rw [reading]
    by_cases hkind : url.hasKind = true
    · simp only [if_pos hkind]
      show (Action.ofExcept (content text) >>= _) _ = _
      cases content text with
      | ok v => rfl
      | error fault => rfl
    · simp only [if_neg hkind]
      rfl

/-- A question that cannot be put is a fault. -/
theorem ask_of_not_puts {method way : Text} {body : Option Json}
    (h : ∀ url request, ¬Puts client method way body url request) :
    ∃ fault, ask client method way body w = .error fault w := by
  cases htarget : client.base.bind fun base => base.target way with
  | error fault =>
    refine ⟨fault, ?_⟩
    rw [ask, htarget]
    rfl
  | ok url =>
    cases hsendable : requestFault? url body with
    | none => exact absurd ⟨htarget, hsendable, rfl⟩ (h url (client.request url method body))
    | some fault =>
      refine ⟨fault, ?_⟩
      rw [ask, Action.ofExcept_bind_of_ok htarget, hsendable]
      rfl

/-- A question that is answered has been put, and the answer could be read. -/
theorem ask_eq_ok {method way : Text} {body : Option Json} {answer : Answer} :
    ask client method way body w = .ok answer w' ↔
      ∃ url request, Puts client method way body url request ∧
        reading url (client.network w.sent request) = .ok answer ∧ sentOne w request = w' := by
  constructor
  · intro h
    by_cases hputs : ∃ url request, Puts client method way body url request
    · obtain ⟨url, request, hputs⟩ := hputs
      rw [ask_of_puts hputs, Action.ofExcept_eq_ok] at h
      exact ⟨url, request, hputs, h⟩
    · obtain ⟨fault, hfault⟩ : ∃ fault, ask client method way body w = .error fault w :=
        ask_of_not_puts fun url request h => hputs ⟨url, request, h⟩
      rw [hfault] at h
      cases h
  · rintro ⟨url, request, hputs, hreading, rfl⟩
    rw [ask_of_puts hputs, hreading]
    rfl

/-- A question that stops has not been put, or its answer could not be read. -/
theorem ask_eq_error {method way : Text} {body : Option Json} {fault : Fault}
    (h : ask client method way body w = .error fault w') :
    w' = w ∨ ∃ url request, Puts client method way body url request ∧
      reading url (client.network w.sent request) = .error fault ∧ w' = sentOne w request := by
  by_cases hputs : ∃ url request, Puts client method way body url request
  · obtain ⟨url, request, hputs⟩ := hputs
    rw [ask_of_puts hputs, Action.ofExcept_eq_error] at h
    exact .inr ⟨url, request, hputs, h.1, h.2.symm⟩
  · obtain ⟨other, hfault⟩ : ∃ fault, ask client method way body w = .error fault w :=
      ask_of_not_puts fun url request h => hputs ⟨url, request, h⟩
    rw [hfault] at h
    cases h
    exact .inl rfl

/-- One more request is a log of one exchange. -/
theorem talks_sentOne (client : Client) (w : World) (request : Request) :
    Talks client [⟨request, client.network w.sent request⟩] w (sentOne w request) :=
  ⟨rfl, rfl, trivial⟩

/-- An answer with a status is read from a reply with the status, and its content is that of the
reply. -/
theorem reading_eq_answered {url : Url} {reply : Reply} {status : Int} {v : Json} :
    reading url reply = .ok (.answered status v) ↔
      url.hasKind = true ∧ ∃ body, reply = .answer status body ∧ content body = .ok v := by
  cases reply with
  | failure message => simp [reading]
  | answer other body =>
    rw [reading]
    by_cases hkind : url.hasKind = true
    · rw [if_pos hkind]
      constructor
      · intro h
        cases hcontent : content body with
        | error fault =>
          rw [hcontent] at h
          cases h
        | ok other =>
          rw [hcontent] at h
          cases h
          exact ⟨hkind, body, rfl, hcontent⟩
      · rintro ⟨-, _, ⟨⟩, hcontent⟩
        rw [hcontent]
        rfl
    · simp [hkind]

/-- No answer is read from a reply without one. -/
theorem reading_eq_unreachable {url : Url} {reply : Reply} {message : Text} :
    reading url reply = .ok (.unreachable message) ↔ reply = .failure message := by
  cases reply with
  | failure other => simp [reading]
  | answer status body =>
    rw [reading]
    by_cases hkind : url.hasKind = true
    · rw [if_pos hkind]
      cases content body with
      | ok v => simp [Except.map]
      | error fault => simp [Except.map]
    · simp [hkind]

/-- A reply from a URL of a kind cannot be read only if its content is nested too deeply. -/
theorem eq_tooDeep_of_reading {url : Url} {reply : Reply} {fault : Fault}
    (hkind : url.hasKind = true) (h : reading url reply = .error fault) : fault = .tooDeep := by
  cases reply with
  | failure message => cases h
  | answer status body =>
    rw [reading, if_pos hkind] at h
    unfold content at h
    split at h
    · cases h
    · cases h
      rfl
    · cases h

/-- All ways to the tools lead to URLs of a kind, or none does. -/
theorem hasKind_target {rest : Text} {u v : Url} (hu : client.target toolsWay = .ok u)
    (hv : client.target (toolsWay ++ rest) = .ok v) : v.hasKind = u.hasKind := by
  unfold Client.target at hu hv
  cases hbase : client.base with
  | error fault =>
    rw [hbase] at hu
    cases hu
  | ok base =>
    rw [hbase] at hu hv
    have htarget : ∀ {t : Text} {url : Url}, base.target (toolsWay ++ t) = .ok url →
        ∃ more, base.withPathAndQuery (base.pathAndQuery ++ Text.ofString "api/" ++ more) =
          .ok url := by
      intro t url h
      unfold Url.target at h
      cases hway : Url.ofText (toolsWay ++ t) with
      | error fault =>
        rw [hway] at h
        cases h
      | ok way =>
        rw [hway] at h
        obtain ⟨more, hmore⟩ := Url.ofText_toolsWay hway
        refine ⟨more, ?_⟩
        rw [List.append_assoc, ← hmore]
        exact h
    rw [← List.append_nil toolsWay] at hu
    obtain ⟨more, hu'⟩ := htarget hu
    obtain ⟨more', hv'⟩ := htarget hv
    exact Url.hasKind_withPathAndQuery hv' hu' (List.mem_append_right _ (by decide))

end Registry

end Toolsmith
