import Toolsmith.Proofs.Files.Contents
import Toolsmith.Proofs.Publish.Items
import Toolsmith.Proofs.Registry.Exchanges

/-!
# Orders

An entry of a manifest is published in three steps. First an order is prepared: what the registry is
asked for, if the unit is there. Then the registry is asked, and last its answer is settled: a
success is counted and recorded, a failure is counted. The first step only looks at the files, and
the second only sends a request.
-/

namespace Toolsmith.Publish

variable {client : Registry.Client} {clock : Clock} {now directory : Text}
variable {progress progress' : Progress} {entry : Json} {w w' : World}

/-- What the registry is asked for: a tool under a name, as a new one or in place of the one with
an identifier. -/
structure Order where
  name : Json
  tool : Json
  target : Option Json

namespace Order

/-- The method by which an order is sent. -/
def method (order : Order) : Text :=
  Text.ofString (if order.target.isSome then "PUT" else "POST")

/-- The way on which an order is sent. -/
def way (order : Order) : Text :=
  match order.target with
  | some id => Registry.toolWay id
  | none => Registry.toolsWay

/-- The statuses that tell of a success. -/
def successes (order : Order) : List Int :=
  if order.target.isSome then [200] else [200, 201]

/-- Whether an answer tells of a success. -/
def isDone (order : Order) : Registry.Answer → Bool
  | .answered status _ => order.successes.contains status
  | .unreachable _ => false

/-- What has been done after a success. -/
def action (order : Order) : String :=
  if order.target.isSome then "updated" else "created"

/-- The identifier under which a success is recorded. -/
def id (order : Order) (content : Json) : Json :=
  order.target.getD (createdId content)

/-- The progress with one more success, before it is recorded. A new tool is known from then on, if
its identifier is. -/
def count (order : Order) (content : Json) (progress : Progress) : Progress :=
  match order.target with
  | some _ =>
    { progress with result := { progress.result with updated := progress.result.updated + 1 } }
  | none =>
    { progress with
      result := { progress.result with created := progress.result.created + 1 }
      known :=
        if (content.get? (Text.ofString "id")).isSome then
          (order.name, content) :: progress.known
        else progress.known }

end Order

/-- The identifier of the tool that is to be changed, if there is one of the name. -/
def targetOf : Option Json → Except Fault (Option Json)
  | some current => (need "id" current).map some
  | none => .ok none

/-- Prepares the order for an entry, unless its unit is not there. -/
def prepare (directory : Text) (progress : Progress) (entry : Json) : Action (Option Order) := do
  let unit ← Action.ofExcept (unitOf directory entry)
  if ← Action.fileExists unit then
    let name ← Action.ofExcept (need "name" entry)
    let tool ← payload entry name unit progress.turn
    let target ← Action.ofExcept (targetOf (current? progress.known name))
    pure (some ⟨name, tool, target⟩)
  else
    pure none

/-- Counts the answer to an order, and records a success. -/
def settle (clock : Clock) (progress : Progress) (order : Order) : Registry.Answer → Action Progress
  | .answered status content =>
    if order.isDone (.answered status content) then
      succeed clock (order.count content progress) order.name (order.id content) order.action
    else
      pure (fail progress)
  | .unreachable _ => pure (fail progress)

/-- The progress with one more entry that is passed over. -/
def skip (progress : Progress) : Progress :=
  { progress with result := { progress.result with skipped := progress.result.skipped + 1 } }

/-- The progress with one more request for a tool. -/
def turned (progress : Progress) : Progress :=
  { progress with turn := progress.turn + 1 }

/-- Sends an order and settles the answer; without an order the entry is passed over. -/
def carryOut (client : Registry.Client) (clock : Clock) (progress : Progress) :
    Option Order → Action Progress
  | some order => do
    settle clock (turned progress) order
      (← Registry.ask client order.method order.way (some order.tool))
  | none => pure (skip progress)

/-- An answer with a status is settled by whether the status is one of success. -/
theorem settle_answered {clock : Clock} {progress : Progress} {order : Order} {status : Int}
    {content : Json} {condition : Prop} [Decidable condition]
    (hdone : order.isDone (.answered status content) = true ↔ condition) :
    settle clock progress order (.answered status content) =
      if condition then
        succeed clock (order.count content progress) order.name (order.id content) order.action
      else pure (fail progress) :=
  if_congr hdone rfl rfl

/-- A tool is created by an order without a target. -/
theorem create_eq_carryOut (client : Registry.Client) (clock : Clock) (progress : Progress)
    (name tool : Json) :
    create client clock (turned progress) name tool =
      carryOut client clock progress (some ⟨name, tool, none⟩) := by
  refine bind_congr fun answer => ?_
  cases answer with
  | unreachable message => rfl
  | answered status content =>
    have hdone : Order.isDone ⟨name, tool, none⟩ (.answered status content) = true ↔
        status = 200 ∨ status = 201 := by
      simp [Order.isDone, Order.successes]
    exact (settle_answered hdone).symm

/-- A tool is changed by an order whose target is the tool's identifier. -/
theorem update_eq_carryOut (client : Registry.Client) (clock : Clock) (progress : Progress)
    (name tool current : Json) :
    update client clock (turned progress) name tool current =
      (do
        let target ← Action.ofExcept (targetOf (some current))
        carryOut client clock progress (some ⟨name, tool, target⟩)) := by
  rw [update, targetOf]
  cases need "id" current with
  | error fault => rfl
  | ok id =>
    show (Registry.updateTool client id tool >>= _) = (Registry.updateTool client id tool >>= _)
    refine bind_congr fun answer => ?_
    cases answer with
    | unreachable message => rfl
    | answered status content =>
      have hdone : Order.isDone ⟨name, tool, some id⟩ (.answered status content) = true ↔
          status = 200 := by
        simp [Order.isDone, Order.successes]
      exact (settle_answered hdone).symm

/-- An entry is published by an order. -/
theorem publishEntry_eq_carryOut (client : Registry.Client) (clock : Clock) (directory : Text)
    (progress : Progress) (entry : Json) :
    publishEntry client clock directory progress entry =
      (do carryOut client clock progress (← prepare directory progress entry)) := by
  rw [publishEntry, prepare, bind_assoc]
  refine bind_congr fun unit => ?_
  rw [bind_assoc]
  refine bind_congr fun there => ?_
  cases there with
  | false => rfl
  | true =>
    simp only [if_true, bind_assoc]
    refine bind_congr fun name => ?_
    refine bind_congr fun tool => ?_
    cases current? progress.known name with
    | none => exact create_eq_carryOut client clock progress name tool
    | some current => exact update_eq_carryOut client clock progress name tool current

/-- What an object has to have is what it has under the key. -/
theorem need_eq_ok_iff {key : String} {v : Json} :
    need key entry = .ok v ↔ entry.get? (Text.ofString key) = some v := by
  refine ⟨fun h => ?_, need_eq_ok⟩
  unfold need at h
  split at h
  · split at h
    · cases h
      assumption
    · cases h
  · cases h

/-- The unit of an entry is in the file that it names. -/
theorem unitOf_eq_ok {unit : Path} :
    unitOf directory entry = .ok unit ↔ ∃ file, entry.get? (Text.ofString "file") =
      some (.text file) ∧ unitPath directory file = unit := by
  constructor
  · intro h
    unfold unitOf at h
    cases hfile : need "file" entry with
    | error fault =>
      rw [hfile] at h
      cases h
    | ok v =>
      rw [hfile] at h
      cases v with
      | text file =>
        cases h
        exact ⟨file, need_eq_ok_iff.mp hfile, rfl⟩
      | _ => cases h
  · rintro ⟨file, hfile, rfl⟩
    rw [unitOf, need_eq_ok hfile]
    rfl

/-- An order for an entry with a unit that is there. It changes the tool that is known under the
entry's name, or else creates one. -/
structure Orders (files : Tree) (directory : Text) (known : List (Json × Json)) (turn : Nat)
    (entry : Json) (order : Order) : Prop where
  name : entry.get? (Text.ofString "name") = some order.name
  tool : ∃ file description schema source,
    entry.get? (Text.ofString "file") = some (.text file) ∧
    files.exists? (unitPath directory file) = .ok true ∧
    entry.get? (Text.ofString "description") = some description ∧
    entry.get? (Text.ofString "schema") = some schema ∧
    files.text? (unitPath directory file) = some source ∧
    order.tool = .record [("name", order.name), ("description", description),
      ("schema", .text schema.oneLine), ("func", .text source), ("color", color turn)]
  changes : ∀ current, current? known order.name = some current →
    ∃ id, current.get? (Text.ofString "id") = some id ∧ order.target = some id
  creates : current? known order.name = none → order.target = none

/-- The target of an order is the identifier of the tool that is to be changed. -/
theorem targetOf_eq_ok {current? target : Option Json} :
    targetOf current? = .ok target ↔
      (∀ current, current? = some current →
        ∃ id, current.get? (Text.ofString "id") = some id ∧ target = some id) ∧
      (current? = none → target = none) := by
  cases current? with
  | none => simp [targetOf, eq_comm]
  | some current =>
    simp only [targetOf, Option.some.injEq, forall_eq', reduceCtorEq, false_implies, and_true]
    constructor
    · intro h
      cases hid : need "id" current with
      | error fault =>
        rw [hid] at h
        cases h
      | ok id =>
        rw [hid] at h
        cases h
        exact ⟨id, need_eq_ok_iff.mp hid, rfl⟩
    · rintro ⟨id, hid, rfl⟩
      rw [need_eq_ok hid]
      rfl

/-- A tool is made of an entry and its unit. -/
theorem payload_eq_ok {name tool : Json} {unit : Path} {turn : Nat} :
    payload entry name unit turn w = .ok tool w' ↔
      (∃ description schema source, entry.get? (Text.ofString "description") = some description ∧
        entry.get? (Text.ofString "schema") = some schema ∧ w.files.text? unit = some source ∧
        tool = .record [("name", name), ("description", description),
          ("schema", .text schema.oneLine), ("func", .text source), ("color", color turn)]) ∧
      w = w' := by
  simp only [payload, Action.bind_eq_ok, Action.ofExcept_eq_ok, need_eq_ok_iff,
    Action.readText_eq_ok_text?, Action.pure_eq_ok]
  constructor
  · rintro ⟨description, _, ⟨hdescription, rfl⟩, schema, _, ⟨hschema, rfl⟩, source, _,
      ⟨hsource, rfl⟩, rfl, rfl⟩
    exact ⟨⟨description, schema, source, hdescription, hschema, hsource, rfl⟩, rfl⟩
  · rintro ⟨⟨description, schema, source, hdescription, hschema, hsource, rfl⟩, rfl⟩
    exact ⟨description, w, ⟨hdescription, rfl⟩, schema, w, ⟨hschema, rfl⟩, source, w,
      ⟨hsource, rfl⟩, rfl, rfl⟩

/-- An order is prepared for an entry whose unit is there, and for no other. -/
theorem prepare_eq_ok_some {order : Order} :
    prepare directory progress entry w = .ok (some order) w' ↔
      Orders w.files directory progress.known progress.turn entry order ∧ w = w' := by
  simp only [prepare, Action.bind_eq_ok, Action.ofExcept_eq_ok, unitOf_eq_ok,
    Action.fileExists_eq_ok]
  constructor
  · rintro ⟨unit, _, ⟨⟨file, hfile, rfl⟩, rfl⟩, there, _, ⟨hthere, rfl⟩, h⟩
    cases there with
    | false => cases h
    | true =>
      simp only [if_true, Action.bind_eq_ok, Action.ofExcept_eq_ok, need_eq_ok_iff,
        payload_eq_ok, Action.pure_eq_ok] at h
      obtain ⟨name, _, ⟨hname, rfl⟩, tool, _, ⟨⟨description, schema, source, hdescription,
        hschema, hsource, rfl⟩, rfl⟩, target, _, ⟨htarget, rfl⟩, horder, rfl⟩ := h
      cases horder
      obtain ⟨hchanges, hcreates⟩ := targetOf_eq_ok.mp htarget
      exact ⟨⟨hname, ⟨file, description, schema, source, hfile, hthere, hdescription, hschema,
        hsource, rfl⟩, hchanges, hcreates⟩, rfl⟩
  · rintro ⟨⟨hname, ⟨file, description, schema, source, hfile, hthere, hdescription, hschema,
      hsource, htool⟩, hchanges, hcreates⟩, rfl⟩
    have htarget := targetOf_eq_ok.mpr ⟨hchanges, hcreates⟩
    refine ⟨_, w, ⟨⟨file, hfile, rfl⟩, rfl⟩, true, w, ⟨hthere, rfl⟩, ?_⟩
    simp only [if_true, Action.bind_eq_ok, Action.ofExcept_eq_ok, need_eq_ok_iff, payload_eq_ok,
      Action.pure_eq_ok]
    exact ⟨order.name, w, ⟨hname, rfl⟩, order.tool, w, ⟨⟨description, schema, source,
      hdescription, hschema, hsource, htool⟩, rfl⟩, order.target, w, ⟨htarget, rfl⟩, rfl, rfl⟩

/-- An entry is passed over if its unit is not there. -/
theorem prepare_eq_ok_none :
    prepare directory progress entry w = .ok none w' ↔
      (∃ file, entry.get? (Text.ofString "file") = some (.text file) ∧
        w.files.exists? (unitPath directory file) = .ok false) ∧ w = w' := by
  simp only [prepare, Action.bind_eq_ok, Action.ofExcept_eq_ok, unitOf_eq_ok,
    Action.fileExists_eq_ok]
  constructor
  · rintro ⟨unit, _, ⟨⟨file, hfile, rfl⟩, rfl⟩, there, _, ⟨hthere, rfl⟩, h⟩
    cases there with
    | false => exact ⟨⟨file, hfile, hthere⟩, (Action.pure_eq_ok.mp h).2⟩
    | true =>
      simp only [if_true, Action.bind_eq_ok, Action.pure_eq_ok, reduceCtorEq, false_and,
        and_false, exists_false] at h
  · rintro ⟨⟨file, hfile, hthere⟩, rfl⟩
    exact ⟨_, w, ⟨⟨file, hfile, rfl⟩, rfl⟩, false, w, ⟨hthere, rfl⟩, rfl⟩

/-- Preparing an order only looks at the files. -/
theorem quiet_prepare (directory : Text) (progress : Progress) (entry : Json) :
    Action.Quiet (prepare directory progress entry) := by
  refine (Action.Quiet.ofExcept _).bind fun unit =>
    (Action.Quiet.fileExists unit).bind fun there => ?_
  cases there with
  | false => exact .pure none
  | true =>
    refine (Action.Quiet.ofExcept _).bind fun name => .bind ?_ fun tool =>
      (Action.Quiet.ofExcept _).bind fun target => .pure _
    exact (Action.Quiet.ofExcept _).bind fun description =>
      (Action.Quiet.ofExcept _).bind fun schema =>
        (Action.Quiet.readText unit).bind fun source => .pure _

/-- What a success is recorded as. -/
def success (now : Text) (order : Order) (content : Json) : Json :=
  .record [("id", order.id content), ("action", .ofString order.action), ("timestamp", .text now)]

/-- The record is written as a document that bears the time, if nothing hinders it. -/
theorem Record.write_eq_ok {record : Record} {u : Unit} :
    record.write now w = .ok u w' ↔ ∃ state bytes files, stamp now record.toDocument = .ok state ∧
      state.Fits Json.maxDepth ∧ state.fileText.encode = some bytes ∧
      w.files.write Workplace.state bytes = .ok files ∧ w' = { w with files } := by
  simp only [write, writeState, Action.bind_eq_ok, Action.ofExcept_eq_ok, Action.pure_eq_ok,
    Action.writeDocument_eq_ok, Action.writeText_eq_ok]
  constructor
  · rintro ⟨_, _, ⟨state, _, ⟨hstamp, rfl⟩, _, _, ⟨hfits, bytes, files, hencode, hwrite, rfl⟩,
      rfl, rfl⟩, -, rfl⟩
    exact ⟨state, bytes, files, hstamp, hfits, hencode, hwrite, rfl⟩
  · rintro ⟨state, bytes, files, hstamp, hfits, hencode, hwrite, rfl⟩
    exact ⟨state, _, ⟨state, w, ⟨hstamp, rfl⟩, (), _, ⟨hfits, bytes, files, hencode, hwrite, rfl⟩,
      rfl, rfl⟩, trivial, rfl⟩

/-- A success is recorded and the record is written. -/
theorem succeed_eq_ok {name id : Json} {action : String} :
    succeed clock progress name id action w = .ok progress' w' ↔ ∃ record,
      progress.record.add name (.record [("id", id), ("action", .ofString action),
        ("timestamp", .text (clock.read progress.readings))]) = .ok record ∧
      record.write (clock.read (progress.readings + 1)) w = .ok () w' ∧
      { progress with readings := progress.readings + 2, record } = progress' := by
  simp only [succeed, Action.bind_eq_ok, Action.ofExcept_eq_ok, Action.pure_eq_ok]
  constructor
  · rintro ⟨record, _, ⟨hadd, rfl⟩, _, _, hwrite, rfl, rfl⟩
    exact ⟨record, hadd, hwrite, rfl⟩
  · rintro ⟨record, hadd, hwrite, rfl⟩
    exact ⟨record, w, ⟨hadd, rfl⟩, (), w', hwrite, rfl, rfl⟩

/-- Counting a success does not record it. -/
theorem Order.record_count (order : Order) (content : Json) (progress : Progress) :
    (order.count content progress).record = progress.record := by
  unfold count
  split <;> rfl

/-- Counting a success takes no time. -/
theorem Order.readings_count (order : Order) (content : Json) (progress : Progress) :
    (order.count content progress).readings = progress.readings := by
  unfold count
  split <;> rfl

/-- An answer is settled as a failure, or as a success that is recorded. -/
theorem settle_eq_ok {order : Order} {answer : Registry.Answer} :
    settle clock progress order answer w = .ok progress' w' ↔
      (order.isDone answer = false ∧ fail progress = progress' ∧ w = w') ∨
      ∃ status content record, answer = .answered status content ∧ order.isDone answer = true ∧
        progress.record.add order.name
          (success (clock.read progress.readings) order content) = .ok record ∧
        record.write (clock.read (progress.readings + 1)) w = .ok () w' ∧
        { order.count content progress with
          readings := progress.readings + 2, record } = progress' := by
  cases answer with
  | unreachable message =>
    simp [settle, Order.isDone, Action.pure_eq_ok]
  | answered status content =>
    rw [settle]
    by_cases hdone : order.isDone (.answered status content) = true
    · rw [if_pos hdone, succeed_eq_ok, Order.record_count, Order.readings_count]
      constructor
      · rintro ⟨record, hadd, hwrite, hprogress⟩
        exact .inr ⟨status, content, record, rfl, hdone, hadd, hwrite, hprogress⟩
      · rintro (⟨hnot, -⟩ | ⟨_, _, record, ⟨⟩, -, hadd, hwrite, hprogress⟩)
        · rw [hdone] at hnot
          cases hnot
        · exact ⟨record, hadd, hwrite, hprogress⟩
    · rw [if_neg hdone, Action.pure_eq_ok]
      constructor
      · rintro ⟨hprogress, hworld⟩
        exact .inl ⟨Bool.eq_false_iff.mpr hdone, hprogress, hworld⟩
      · rintro (⟨-, hprogress, hworld⟩ | ⟨_, _, _, -, hdone', -⟩)
        · exact ⟨hprogress, hworld⟩
        · exact absurd hdone' hdone

/-- All that publishing an entry can do: it is passed over, or an order is sent and its answer is
settled. -/
theorem publishEntry_eq_ok :
    publishEntry client clock directory progress entry w = .ok progress' w' ↔
      ((∃ file, entry.get? (Text.ofString "file") = some (.text file) ∧
          w.files.exists? (unitPath directory file) = .ok false) ∧
        skip progress = progress' ∧ w = w') ∨
      ∃ order url request answer, Orders w.files directory progress.known progress.turn entry order ∧
        Registry.Puts client order.method order.way (some order.tool) url request ∧
        Registry.reading url (client.network w.sent request) = .ok answer ∧
        settle clock (turned progress) order answer (Registry.sentOne w request) =
          .ok progress' w' := by
  rw [publishEntry_eq_carryOut, Action.bind_eq_ok]
  constructor
  · rintro ⟨order?, v, hprepare, h⟩
    cases order? with
    | none =>
      obtain ⟨hunit, rfl⟩ := prepare_eq_ok_none.mp hprepare
      exact .inl ⟨hunit, Action.pure_eq_ok.mp h⟩
    | some order =>
      obtain ⟨horders, rfl⟩ := prepare_eq_ok_some.mp hprepare
      obtain ⟨answer, v, hask, hsettle⟩ := Action.bind_eq_ok.mp h
      obtain ⟨url, request, hputs, hreading, rfl⟩ := Registry.ask_eq_ok.mp hask
      exact .inr ⟨order, url, request, answer, horders, hputs, hreading, hsettle⟩
  · rintro (⟨hunit, hprogress⟩ | ⟨order, url, request, answer, horders, hputs, hreading, hsettle⟩)
    · exact ⟨none, w, prepare_eq_ok_none.mpr ⟨hunit, rfl⟩, Action.pure_eq_ok.mpr hprogress⟩
    · exact ⟨some order, w, prepare_eq_ok_some.mpr ⟨horders, rfl⟩, Action.bind_eq_ok.mpr
        ⟨answer, _, Registry.ask_eq_ok.mpr ⟨url, request, hputs, hreading, rfl⟩, hsettle⟩⟩

end Toolsmith.Publish
