import Toolsmith.Proofs.Files.Contents
import Toolsmith.Publish.Run

/-!
# What publishing sends

Every question to the registry adds one request to those that have been sent, whatever the answer.
A run of publishing sends the bodies of the tools that it creates or changes in order, and of the
files it changes at most its record.
-/

namespace Toolsmith

/-- An exchange adds its request to those that have been sent. An answer comes back only from a URL
of a kind. -/
theorem Url.exchange_eq_ok {network : Network} {url : Url} {request : Request} {reply : Reply}
    {w w' : World} :
    url.exchange network request w = .ok reply w' ↔
      network w.sent request = reply ∧ { w with sent := w.sent ++ [request] } = w' ∧
        ∀ status body, reply = .answer status body → url.hasKind = true := by
  unfold exchange
  rw [Action.bind_eq_ok]
  constructor
  · rintro ⟨raw, v, hsend, h⟩
    obtain ⟨hraw, rfl⟩ := Action.send_eq_ok.mp hsend
    cases raw with
    | failure message =>
      obtain ⟨rfl, rfl⟩ := Action.pure_eq_ok.mp h
      exact ⟨hraw, rfl, fun _ _ heq => by cases heq⟩
    | answer status text =>
      by_cases hhas : url.hasKind = true
      · simp only [if_pos hhas] at h
        obtain ⟨rfl, rfl⟩ := Action.pure_eq_ok.mp h
        exact ⟨hraw, rfl, fun _ _ _ => hhas⟩
      · simp only [if_neg hhas] at h
        cases h
  · rintro ⟨hraw, rfl, hkind⟩
    refine ⟨reply, _, Action.send_eq_ok.mpr ⟨hraw, rfl⟩, ?_⟩
    cases reply with
    | failure message => exact Action.pure_eq_ok.mpr ⟨rfl, rfl⟩
    | answer status text =>
      simp only [if_pos (hkind status text rfl)]
      exact Action.pure_eq_ok.mpr ⟨rfl, rfl⟩

namespace Registry

variable {w w' : World}

/-- A question that is answered adds a request with its method and body to those that have been
sent, and changes nothing else. -/
theorem ask_spec {client : Client} {method way : Text} {body : Option Json} {answer : Answer}
    (h : ask client method way body w = .ok answer w') :
    ∃ request, w' = { w with sent := w.sent ++ [request] } ∧ request.method = method ∧
      request.body = body := by
  obtain ⟨url, v, hurl, h⟩ := Action.bind_eq_ok.mp h
  obtain ⟨-, rfl⟩ := Action.ofExcept_eq_ok.mp hurl
  cases hfault : requestFault? url body with
  | some fault =>
    rw [hfault] at h
    cases h
  | none =>
    rw [hfault] at h
    obtain ⟨reply, u, hexchange, h⟩ := Action.bind_eq_ok.mp h
    obtain ⟨-, hsent, -⟩ := Url.exchange_eq_ok.mp hexchange
    have hworld : u = w' := by
      cases reply with
      | failure message => exact (Action.pure_eq_ok.mp h).2
      | answer status text =>
        obtain ⟨content, v', hcontent, h⟩ := Action.bind_eq_ok.mp h
        rw [← (Action.pure_eq_ok.mp h).2, (Action.ofExcept_eq_ok.mp hcontent).2]
    exact ⟨_, by rw [← hworld, ← hsent], rfl, rfl⟩

end Registry

namespace Publish

variable {client : Registry.Client} {clock : Clock} {now : Text} {w w' w'' : World}

/-- Whether a request writes a tool: it creates one or changes one. -/
def writes (request : Request) : Bool :=
  request.method = Text.ofString "POST" || request.method = Text.ofString "PUT"

/-- The bodies of the requests that write tools, in order. -/
def written (requests : List Request) : List (Option Json) :=
  (requests.filter writes).map Request.body

/-- The record of publishing is below the working directory. -/
theorem isDirect_state : Path.IsDirect Workplace.state := by
  unfold Path.IsDirect
  decide

/-- One world comes from another by requests that write tools in order. Of the files at most the
record of publishing is another one. -/
structure Sends (tools : List Json) (w w' : World) : Prop where
  log : ∃ requests, w'.sent = w.sent ++ requests ∧ written requests = tools.map some
  files : Tree.Changes (· = Workplace.state) w.files w'.files

/-- A world comes from itself without requests. -/
theorem Sends.refl (w : World) : Sends [] w w :=
  ⟨⟨[], (List.append_nil _).symm, rfl⟩, .refl _ _⟩

/-- Requests are sent one after another. -/
theorem Sends.trans {tools tools' : List Json} (h : Sends tools w w') (h' : Sends tools' w' w'') :
    Sends (tools ++ tools') w w'' := by
  obtain ⟨requests, hsent, hwritten⟩ := h.log
  obtain ⟨requests', hsent', hwritten'⟩ := h'.log
  refine ⟨⟨requests ++ requests', by rw [hsent', hsent, List.append_assoc], ?_⟩,
    h.files.trans h'.files⟩
  rw [List.map_append, ← hwritten, ← hwritten', written, List.filter_append, List.map_append]
  rfl

/-- A question that creates or changes a tool sends the tool. -/
theorem Sends.of_ask_write {method way : Text} {tool : Json} {answer : Registry.Answer}
    (hmethod : method = Text.ofString "POST" ∨ method = Text.ofString "PUT")
    (h : Registry.ask client method way (some tool) w = .ok answer w') : Sends [tool] w w' := by
  obtain ⟨request, rfl, hrequest, hbody⟩ := Registry.ask_spec h
  have hwrites : writes request = true := by
    rw [writes, hrequest]
    simpa using hmethod
  refine ⟨⟨[request], rfl, ?_⟩, .refl _ _⟩
  simp [written, hwrites, hbody]

/-- Any other question sends no tool. -/
theorem Sends.of_ask {method way : Text} {answer : Registry.Answer}
    (hmethod : method ≠ Text.ofString "POST" ∧ method ≠ Text.ofString "PUT")
    (h : Registry.ask client method way none w = .ok answer w') : Sends [] w w' := by
  obtain ⟨request, rfl, hrequest, -⟩ := Registry.ask_spec h
  have hwrites : writes request = false := by
    rw [writes, hrequest]
    simpa using hmethod
  refine ⟨⟨[request], rfl, ?_⟩, .refl _ _⟩
  simp [written, hwrites]

/-- The tools of the registry are those in an answer that tells of success. -/
theorem existingTools_eq_ok {tools : List Json} :
    existingTools client w = .ok tools w' ↔
      Registry.listTools client w = .ok (.answered 200 (.array tools)) w' := by
  constructor
  · intro h
    obtain ⟨answer, v, hlist, h⟩ := Action.bind_eq_ok.mp h
    cases answer with
    | unreachable message => cases h
    | answered status content =>
      cases content with
      | array items =>
        by_cases hstatus : status = 200
        · simp only [if_pos hstatus] at h
          obtain ⟨rfl, rfl⟩ := Action.pure_eq_ok.mp h
          rwa [hstatus] at hlist
        · simp only [if_neg hstatus] at h
          cases h
      | _ => cases h
  · intro hlist
    rw [existingTools, Action.bind_of_ok hlist]
    rfl

/-- Asking for all tools sends no tool. -/
theorem Sends.of_existingTools {tools : List Json} (h : existingTools client w = .ok tools w') :
    Sends [] w w' :=
  .of_ask (by decide) (existingTools_eq_ok.mp h)

/-- Deleting tools sends no tool. -/
theorem Sends.of_deleteAll {tools : List Json} {sofar deletions : Deletions}
    (h : deleteAll client sofar tools w = .ok deletions w') : Sends [] w w' := by
  induction tools generalizing w sofar with
  | nil =>
    obtain ⟨-, rfl⟩ := Action.pure_eq_ok.mp h
    exact .refl w
  | cons tool tools ih =>
    obtain ⟨id, v, hid, h⟩ := Action.bind_eq_ok.mp h
    obtain ⟨-, rfl⟩ := Action.ofExcept_eq_ok.mp hid
    obtain ⟨answer, v', hask, h⟩ := Action.bind_eq_ok.mp h
    exact (Sends.of_ask (by decide) hask).trans (ih h)

/-- Cleaning up sends no tool. -/
theorem Sends.of_cleanUp {keep new existing : List Json} {deletions : Deletions}
    (h : cleanUp client keep new existing w = .ok deletions w') : Sends [] w w' := by
  obtain ⟨tools, v, htools, h⟩ := Action.bind_eq_ok.mp h
  obtain ⟨-, rfl⟩ := Action.ofExcept_eq_ok.mp htools
  exact Sends.of_deleteAll h

/-- Writing the record sends no tool. -/
theorem Sends.of_write {record : Record} {u : Unit} (h : record.write now w = .ok u w') :
    Sends [] w w' := by
  obtain ⟨state, v, hwrite, h⟩ := Action.bind_eq_ok.mp h
  obtain ⟨-, rfl⟩ := Action.pure_eq_ok.mp h
  obtain ⟨stamped, v', hstamp, hwrite⟩ := Action.bind_eq_ok.mp hwrite
  obtain ⟨-, rfl⟩ := Action.ofExcept_eq_ok.mp hstamp
  obtain ⟨_, v', hdocument, hpure⟩ := Action.bind_eq_ok.mp hwrite
  obtain ⟨-, rfl⟩ := Action.pure_eq_ok.mp hpure
  obtain ⟨files, rfl, hchanges, -⟩ :=
    Action.writeText_spec isDirect_state (Action.writeDocument_eq_ok.mp hdocument).2
  exact ⟨⟨[], (List.append_nil _).symm, rfl⟩, hchanges⟩

/-- Reading the record changes nothing. -/
theorem world_of_readState {state : Json} (h : readState w = .ok state w') : w' = w := by
  obtain ⟨there, v, hthere, h⟩ := Action.bind_eq_ok.mp h
  obtain ⟨-, rfl⟩ := Action.fileExists_eq_ok.mp hthere
  cases there with
  | true => exact (Action.readDocument_eq_ok_document?.mp h).2.symm
  | false => exact (Action.pure_eq_ok.mp h).2.symm

/-- Recording a success sends no tool, and leaves the number of requests as it is. -/
theorem Sends.of_succeed {progress progress' : Progress} {name id : Json} {action : String}
    (h : succeed clock progress name id action w = .ok progress' w') :
    Sends [] w w' ∧ progress'.turn = progress.turn := by
  obtain ⟨record, v, hrecord, h⟩ := Action.bind_eq_ok.mp h
  obtain ⟨-, rfl⟩ := Action.ofExcept_eq_ok.mp hrecord
  obtain ⟨_, v', hwrite, h⟩ := Action.bind_eq_ok.mp h
  obtain ⟨rfl, rfl⟩ := Action.pure_eq_ok.mp h
  exact ⟨.of_write hwrite, rfl⟩

/-- An answer after which a success is recorded or not sends no more tools. -/
theorem Sends.judged {tools : List Json} {progress good bad progress' : Progress} {name id : Json}
    {action : String} {p : Prop} [Decidable p] {v : World} (hsends : Sends tools w v)
    (h : (if p then succeed clock good name id action else pure bad) v = .ok progress' w')
    (hgood : good.turn = progress.turn) (hbad : bad.turn = progress.turn) :
    Sends tools w w' ∧ progress'.turn = progress.turn := by
  by_cases hp : p
  · rw [if_pos hp] at h
    obtain ⟨hmore, hturn⟩ := Sends.of_succeed h
    refine ⟨?_, hturn.trans hgood⟩
    rw [← List.append_nil tools]
    exact hsends.trans hmore
  · rw [if_neg hp] at h
    obtain ⟨rfl, rfl⟩ := Action.pure_eq_ok.mp h
    exact ⟨hsends, hbad⟩

/-- Changing a tool sends it. -/
theorem Sends.of_update {progress progress' : Progress} {name tool current : Json}
    (h : update client clock progress name tool current w = .ok progress' w') :
    Sends [tool] w w' ∧ progress'.turn = progress.turn := by
  obtain ⟨id, v, hid, h⟩ := Action.bind_eq_ok.mp h
  obtain ⟨-, rfl⟩ := Action.ofExcept_eq_ok.mp hid
  obtain ⟨answer, v', hask, h⟩ := Action.bind_eq_ok.mp h
  have hsends := Sends.of_ask_write (.inr rfl) hask
  cases answer with
  | unreachable message =>
    obtain ⟨rfl, rfl⟩ := Action.pure_eq_ok.mp h
    exact ⟨hsends, rfl⟩
  | answered status content => exact hsends.judged h rfl rfl

/-- Creating a tool sends it. -/
theorem Sends.of_create {progress progress' : Progress} {name tool : Json}
    (h : create client clock progress name tool w = .ok progress' w') :
    Sends [tool] w w' ∧ progress'.turn = progress.turn := by
  obtain ⟨answer, v, hask, h⟩ := Action.bind_eq_ok.mp h
  have hsends := Sends.of_ask_write (.inl rfl) hask
  cases answer with
  | unreachable message =>
    obtain ⟨rfl, rfl⟩ := Action.pure_eq_ok.mp h
    exact ⟨hsends, rfl⟩
  | answered status content => exact hsends.judged h rfl rfl

end Publish

end Toolsmith
