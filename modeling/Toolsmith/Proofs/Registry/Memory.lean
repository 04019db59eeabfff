import Toolsmith.Proofs.Publish.Record
import Toolsmith.Proofs.Registry.Store

/-!
# A registry in memory

A registry that is a store. It keeps its tools in memory, answers on lines of ASCII, and gives every
new tool the number of the requests before its own as an identifier. So it can do all that it is
asked for until its numbers run out.
-/

namespace Toolsmith

namespace Json

/-- The bytes of visible ASCII are not zero. -/
theorem ne_zero_of_isShown {t : Text} {bytes : Bytes} (h : ∀ c ∈ t, IsShown false c)
    (hbytes : t.encode = some bytes) : ∀ b ∈ bytes, b ≠ 0 := by
  induction t generalizing bytes with
  | nil =>
    cases hbytes
    exact List.forall_mem_nil _
  | cons c t ih =>
    obtain ⟨hc, ht⟩ := List.forall_mem_cons.mp h
    cases c with
    | surrogate u => cases hbytes
    | char c =>
      obtain ⟨rest, hrest, rfl⟩ := Option.map_eq_some_iff.mp hbytes
      have hlow : 0x20 ≤ c.toNat := hc.1
      have hhigh : c.toNat < 0x7F := hc.2.resolve_left (by decide)
      have hone : Text.charBytes c = [c.toNat.toUInt8] := by
        rw [Text.charBytes]
        exact if_pos (by omega)
      rw [hone, List.singleton_append, List.forall_mem_cons]
      refine ⟨fun hzero => ?_, ih ht hrest⟩
      have hnat := Text.toUInt8_toNat_of_lt (n := c.toNat) (by omega)
      rw [hzero] at hnat
      exact absurd hnat (by simp; omega)

/-- Visible ASCII in bytes is UTF-8. -/
theorem decode_of_isShown {t : Text} {bytes : Bytes} (h : ∀ c ∈ t, IsShown false c)
    (hbytes : t.encode = some bytes) : decode bytes = some t := by
  have hnonzero := ne_zero_of_isShown h hbytes
  have hmark : t.withoutMark = t := by
    unfold Text.withoutMark
    refine if_neg fun hhead => ?_
    have hshown := h _ (List.mem_of_mem_head? hhead)
    exact absurd hshown (by decide)
  unfold decode
  split
  case h_7 => rw [Text.decode_encode hbytes, Option.map_some, hmark]
  all_goals exact absurd rfl (hnonzero 0 (by simp))

/-- The bytes of a line of ASCII are read back as the document that was written. -/
theorem parseBytes_oneLine {v : Json} {bytes : Bytes} (hregular : v.Regular) (hstable : v.Stable)
    (hencodable : v.Encodable) (hdepth : v.depth ≤ maxDepth)
    (hbytes : v.oneLine.encode = some bytes) : parseBytes bytes = .ok v := by
  rw [parseBytes, decode_of_isShown (fun _ => isShown_oneLine) hbytes]
  exact parse_oneLine hregular hstable hencodable hdepth

end Json

namespace Registry

/-- What a line of ASCII says is the content of an answer. -/
theorem content_oneLine {v : Json} (h : v.Lasting) (hdepth : v.depth ≤ Json.maxDepth) :
    content v.oneLine = .ok v := by
  obtain ⟨bytes, hbytes⟩ := Option.isSome_iff_exists.mp (Json.encode_oneLine v)
  rw [content, hbytes, Option.map_some,
    Json.parseBytes_oneLine h.regular h.stable h.encodable hdepth hbytes]

instance : DecidablePred IsTool := fun fields =>
  decidable_of_iff ((fields.map Prod.fst).Nodup ∧ Text.ofString "id" ∉ fields.map Prod.fst ∧
      ∀ m ∈ fields, m.1.encode.isSome = true ∧ m.2.text?.any (fun t => t.encode.isSome) = true) <| by
    have htext : ∀ v : Json, v.text?.any (fun t => t.encode.isSome) = true ↔
        ∃ t, v = .text t ∧ t.encode.isSome = true := by
      intro v
      cases v <;> simp [Json.text?]
    simp only [htext]
    exact ⟨fun h => ⟨h.1, h.2.1, h.2.2⟩, fun h => ⟨h.distinct, h.anonymous, h.texts⟩⟩

namespace Memory

/-- The address of the registry. -/
def address : Text := Text.ofString "http://registry.test"

/-- The number of requests up to which the registry can give identifiers. -/
def capacity : Nat := 12

/-- The path on which a tool is asked for by its identifier. -/
def pathOf? (id : Json) : Option Text :=
  (Client.target ⟨address, [], fun _ _ => .failure []⟩ (toolWay id)).toOption.map Url.plainPath

/-- Whether a request is for a tool. -/
def isFor (request : Request) (tool : Members) : Bool :=
  ((idOf? tool).bind pathOf?).any fun path => request.target.text? = some path

/-- The fields that a request sends, if they are those of a tool. -/
def fields? (request : Request) : Option Members :=
  match request.body with
  | some (.object fields) => if IsTool fields then some fields else none
  | _ => none

/-- A new tool. -/
def created (turn : Nat) (fields : Members) : Members :=
  (Text.ofString "id", .integer turn) :: fields

/-- The tools after one more request. -/
def receive (tools : List Members) (turn : Nat) (request : Request) : List Members :=
  if request.method = Text.ofString "POST" then
    match fields? request with
    | some fields => created turn fields :: tools
    | none => tools
  else if request.method = Text.ofString "PUT" then
    match fields? request with
    | some fields => tools.map fun tool =>
        if isFor request tool then Members.overwrite fields tool else tool
    | none => tools
  else if request.method = Text.ofString "DELETE" then
    tools.filter fun tool => !isFor request tool
  else
    tools

/-- The tools after some requests. -/
def tools (sent : List Request) : List Members :=
  sent.zipIdx.foldl (fun tools p => receive tools p.2 p.1) []

/-- The registry. -/
def client : Client where
  url := address
  key := []
  network sent request :=
    if request.method = Text.ofString "GET" then
      .answer 200 (Json.array ((tools sent).map .object)).oneLine
    else if request.method = Text.ofString "POST" then
      .answer 201 (Json.object (created sent.length ((fields? request).getD []))).oneLine
    else if request.method = Text.ofString "PUT" then
      .answer 200 []
    else
      .answer 204 []

/-- One more request changes the tools as it asks for. -/
theorem tools_concat (sent : List Request) (request : Request) :
    tools (sent ++ [request]) = receive (tools sent) sent.length request := by
  rw [tools, List.zipIdx_append, List.foldl_append, Nat.zero_add]
  rfl

/-- A tool that the registry keeps. It has a number below a bound, and otherwise texts. -/
structure IsKept (turn : Nat) (tool : Members) : Prop where
  distinct : (tool.map Prod.fst).Nodup
  id : ∃ n < turn, idOf? tool = some (.integer (n : Nat))
  values : ∀ m ∈ tool, m.1.encode.isSome = true ∧
    ((∃ t, m.2 = .text t ∧ t.encode.isSome = true) ∨ ∃ n < turn, m.2 = .integer (n : Nat))

/-- A tool that is kept is kept for longer. -/
theorem IsKept.mono {turn turn' : Nat} {tool : Members} (h : IsKept turn tool)
    (hle : turn ≤ turn') : IsKept turn' tool := by
  refine ⟨h.distinct, ?_, fun m hm => ?_⟩
  · obtain ⟨n, hn, hid⟩ := h.id
    exact ⟨n, hn.trans_le hle, hid⟩
  · obtain ⟨hkey, hvalue⟩ := h.values m hm
    refine ⟨hkey, hvalue.imp_right fun hinteger => ?_⟩
    obtain ⟨n, hn, heq⟩ := hinteger
    exact ⟨n, hn.trans_le hle, heq⟩

/-- A new tool is kept from its turn on. -/
theorem isKept_created {fields : Members} (h : IsTool fields) (turn : Nat) :
    IsKept (turn + 1) (created turn fields) where
  distinct := List.nodup_cons.mpr ⟨h.anonymous, h.distinct⟩
  id := ⟨turn, Nat.lt_succ_self turn, rfl⟩
  values := by
    refine List.forall_mem_cons.mpr
      ⟨⟨Text.encode_ofString_isSome _, .inr ⟨turn, Nat.lt_succ_self turn, rfl⟩⟩, ?_⟩
    exact fun m hm => ⟨(h.texts m hm).1, .inl (h.texts m hm).2⟩

/-- A tool that is overwritten is kept. -/
theorem IsKept.overwrite {turn : Nat} {fields tool : Members} (h : IsKept turn tool)
    (hfields : IsTool fields) : IsKept turn (Members.overwrite fields tool) where
  distinct := Members.nodup_overwrite h.distinct fields
  id := by
    rw [idOf?_overwrite hfields.distinct hfields.anonymous]
    exact h.id
  values := fun m hm => by
    rcases Members.mem_overwrite hm with hm | hm
    · exact ⟨(hfields.texts m hm).1, .inl (hfields.texts m hm).2⟩
    · exact h.values m hm

/-- Tools that the registry keeps, with distinct identifiers. -/
structure AreKept (turn : Nat) (tools : List Members) : Prop where
  kept : ∀ tool ∈ tools, IsKept turn tool
  distinct : (tools.map idOf?).Nodup

/-- What a request sends are the fields of a tool. -/
theorem isTool_of_fields? {request : Request} {fields : Members}
    (h : fields? request = some fields) : IsTool fields := by
  unfold fields? at h
  split at h
  · split at h
    · cases h
      assumption
    · cases h
  · cases h

/-- No tool that is kept has the number of the next turn. -/
theorem IsKept.idOf?_ne {turn : Nat} {tool : Members} (h : IsKept turn tool) :
    idOf? tool ≠ some (.integer turn) := by
  obtain ⟨n, hn, hid⟩ := h.id
  rw [hid]
  intro heq
  cases heq
  exact absurd hn (Nat.lt_irrefl _)

/-- Tools that are kept are kept with a new one. -/
theorem AreKept.cons_created {turn : Nat} {tools : List Members} (h : AreKept turn tools)
    {fields : Members} (hfields : IsTool fields) :
    AreKept (turn + 1) (created turn fields :: tools) where
  kept := List.forall_mem_cons.mpr ⟨isKept_created hfields turn,
    fun tool htool => (h.kept tool htool).mono (Nat.le_succ turn)⟩
  distinct := by
    refine List.nodup_cons.mpr ⟨fun hmem => ?_, h.distinct⟩
    obtain ⟨other, hother, hsame⟩ := List.mem_map.mp hmem
    exact (h.kept other hother).idOf?_ne hsame

/-- Tools that are kept are kept where some of them are overwritten. -/
theorem AreKept.map_overwrite {turn : Nat} {tools : List Members} (h : AreKept turn tools)
    {fields : Members} (hfields : IsTool fields) (p : Members → Bool) :
    AreKept turn (tools.map fun tool => if p tool then Members.overwrite fields tool else tool)
    where
  kept := by
    refine List.forall_mem_map.mpr fun tool htool => ?_
    split
    · exact (h.kept tool htool).overwrite hfields
    · exact h.kept tool htool
  distinct := by
    have hids : (tools.map fun tool =>
        if p tool then Members.overwrite fields tool else tool).map idOf? = tools.map idOf? := by
      rw [List.map_map]
      refine List.map_congr_left fun tool _ => ?_
      simp only [Function.comp_apply]
      split
      · exact idOf?_overwrite hfields.distinct hfields.anonymous tool
      · rfl
    rw [hids]
    exact h.distinct

/-- A request leaves tools that the registry keeps. -/
theorem AreKept.receive {turn : Nat} {tools : List Members} (h : AreKept turn tools)
    (request : Request) : AreKept (turn + 1) (Memory.receive tools turn request) := by
  have hmono : AreKept (turn + 1) tools :=
    ⟨fun tool htool => (h.kept tool htool).mono (Nat.le_succ turn), h.distinct⟩
  unfold Memory.receive
  split
  · cases hfields : fields? request with
    | none => exact hmono
    | some fields => exact h.cons_created (isTool_of_fields? hfields)
  split
  · cases hfields : fields? request with
    | none => exact hmono
    | some fields => exact hmono.map_overwrite (isTool_of_fields? hfields) _
  split
  · exact ⟨fun tool htool => hmono.kept tool (List.mem_of_mem_filter htool),
      h.distinct.sublist (List.filter_sublist.map idOf?)⟩
  · exact hmono

/-- After any requests the registry keeps tools with distinct identifiers. -/
theorem areKept_tools (sent : List Request) : AreKept sent.length (tools sent) := by
  induction sent using List.reverseRecOn with
  | nil => exact ⟨List.forall_mem_nil _, List.nodup_nil⟩
  | append_singleton sent request ih =>
    rw [tools_concat, List.length_append, List.length_singleton]
    exact ih.receive request

/-- The numbers of the registry are read as they are written. -/
theorem lasting_integer {n : Nat} (h : n < capacity) : (Json.integer (n : Nat)).Lasting := by
  have hdigits : ∀ n < capacity, (Text.ofNat n).length ≤ Text.maxDigits := by decide
  exact ⟨.of_integer (hdigits n h), .of_integer trivial, .of_integer trivial⟩

/-- A tool that is kept lasts, and is nested no deeper than its texts. -/
theorem IsKept.lasting {turn : Nat} {tool : Members} (h : IsKept turn tool)
    (hturn : turn ≤ capacity) : (Json.object tool).Lasting ∧ (Json.object tool).depth ≤ 1 := by
  refine ⟨.of_members h.distinct fun m hm => ⟨(h.values m hm).1, ?_⟩,
    Json.depth_object_le.mpr fun m hm => ?_⟩
  · rcases (h.values m hm).2 with ⟨t, heq, ht⟩ | ⟨n, hn, heq⟩
    · rw [heq]
      exact .of_text ht
    · rw [heq]
      exact lasting_integer (hn.trans_le hturn)
  · rcases (h.values m hm).2 with ⟨t, heq, -⟩ | ⟨n, -, heq⟩
    · rw [heq]
      exact Nat.le_refl 0
    · rw [heq]
      exact Nat.le_refl 0

/-- A way is open if it can be seen to be so. -/
theorem isOpen_of_target {way : Text} (h : (client.target way).toOption.any
    (fun url => (requestFault? url none).isNone && url.hasKind) = true) : IsOpen client way := by
  obtain ⟨url, htarget, hurl⟩ := (Option.any_eq_true ..).mp h
  obtain ⟨hfault, hkind⟩ := Bool.and_eq_true_iff.mp hurl
  exact ⟨url, Action.eq_ok_of_toOption htarget, Option.isNone_iff_eq_none.mp hfault, hkind⟩

/-- The registry can be asked for every tool to which it can give a number. -/
theorem isId_integer {n : Nat} (h : n < capacity) : IsId client (.integer (n : Nat)) where
  plain := rfl
  encodable := (lasting_integer h).encodable
  isOpen := by
    have hall : ∀ n < capacity, (client.target (toolWay (.integer (n : Nat)))).toOption.any
        (fun url => (requestFault? url none).isNone && url.hasKind) = true := by
      decide +kernel
    exact isOpen_of_target (hall n h)

/-- Numbers lead to different paths. -/
theorem pathOf?_injective {m n : Nat} (hm : m < capacity) (hn : n < capacity)
    (h : pathOf? (.integer (m : Nat)) = pathOf? (.integer (n : Nat))) : m = n := by
  have hdistinct : ((List.range capacity).map fun n : Nat => pathOf? (.integer n)).Nodup := by
    decide +kernel
  exact List.inj_on_of_nodup_map hdistinct (List.mem_range.mpr hm) (List.mem_range.mpr hn) h

/-- A request that is put on the way to a tool is for the tool of the identifier, and for no
other. -/
theorem isFor_of_puts {tools : List Members} {turn : Nat} (h : AreKept turn tools)
    (hturn : turn ≤ capacity) {method : Text} {body : Option Json} {id : Json} {url : Url}
    {request : Request} (hputs : Puts client method (toolWay id) body url request) {tool : Members}
    (htool : tool ∈ tools) (hid : idOf? tool = some id) {other : Members} (hother : other ∈ tools) :
    isFor request other = true ↔ other = tool := by
  have hpath : ∀ id url, client.target (toolWay id) = .ok url → pathOf? id = some url.plainPath := by
    intro id url htarget
    have hsame : Client.target ⟨address, [], fun _ _ => .failure []⟩ (toolWay id) = .ok url :=
      htarget
    rw [pathOf?, hsame]
    rfl
  obtain ⟨m, hm, hidNumber⟩ := (h.kept tool htool).id
  obtain ⟨n, hn, hotherId⟩ := (h.kept other hother).id
  obtain rfl : id = .integer (m : Nat) := Option.some.inj (hid.symm.trans hidNumber)
  have htarget : request.target.text? = pathOf? (.integer (m : Nat)) := by
    rw [hputs.request, hpath _ _ hputs.target]
    rfl
  obtain ⟨v, hv, -⟩ := (isId_integer (hn.trans_le hturn)).isOpen
  have hasked : isFor request other = true ↔
      pathOf? (.integer (m : Nat)) = pathOf? (.integer (n : Nat)) := by
    rw [isFor, hotherId, Option.bind_some, hpath _ v hv, Option.any_some, decide_eq_true_eq, htarget]
  rw [hasked]
  constructor
  · intro heq
    obtain rfl := pathOf?_injective (hm.trans_le hturn) (hn.trans_le hturn) heq
    exact List.inj_on_of_nodup_map h.distinct hother htool (hotherId.trans hid.symm)
  · rintro rfl
    rw [hotherId] at hid
    exact congrArg _ (Option.some.inj hid).symm

/-- Of tools that are all different one can be told from the others, which stay where it is changed
or taken away. -/
theorem exists_others {tools : List Members} (hnodup : tools.Nodup) {tool : Members}
    (htool : tool ∈ tools) {p : Members → Bool} (hp : ∀ other ∈ tools, p other = true ↔ other = tool)
    (f : Members → Members) : ∃ others, tools.Perm (tool :: others) ∧
      (tools.map fun other => if p other then f other else other).Perm (f tool :: others) ∧
      (tools.filter fun other => !p other).Perm others := by
  obtain ⟨before, after, rfl⟩ := List.append_of_mem htool
  have hperm : (before ++ tool :: after).Perm (tool :: (before ++ after)) := List.perm_middle
  obtain ⟨hnot, -⟩ := List.nodup_cons.mp (hperm.nodup_iff.mp hnodup)
  have hself : p tool = true := (hp tool htool).mpr rfl
  have hothers : ∀ other ∈ before ++ after, p other = false := by
    intro other hother
    refine Bool.eq_false_iff.mpr fun hsame => hnot ?_
    rwa [← (hp other (hperm.mem_iff.mpr (List.mem_cons_of_mem _ hother))).mp hsame]
  refine ⟨before ++ after, hperm, (hperm.map _).trans ?_, (hperm.filter _).trans ?_⟩
  · rw [List.map_cons, if_pos hself]
    refine .of_eq (congrArg _ ?_)
    conv_rhs => rw [← List.map_id (before ++ after)]
    refine List.map_congr_left fun other hother => ?_
    rw [hothers other hother]
    rfl
  · rw [List.filter_cons_of_neg (by rw [hself]; decide)]
    refine .of_eq (List.filter_eq_self.mpr fun other hother => ?_)
    rw [hothers other hother]
    rfl

/-- What a request sends is read from it, if it is a tool. -/
theorem fields?_of_puts {fields : Members} (h : IsTool fields) {method way : Text} {url : Url}
    {request : Request} (hputs : Puts client method way (some (.object fields)) url request) :
    fields? request = some fields := by
  rw [hputs.request]
  exact if_pos h

/-- A request is put by its method. -/
theorem method_of_puts {method way : Text} {body : Option Json} {url : Url} {request : Request}
    (hputs : Puts client method way body url request) : request.method = method := by
  rw [hputs.request]
  rfl

/-- The registry lists its tools. -/
theorem answers_list {sent : List Request} (h : sent.length < capacity) {url : Url}
    {request : Request} (hputs : Puts client (Text.ofString "GET") toolsWay none url request) :
    Answers client sent request 200 (.array ((tools sent).map .object)) := by
  have hkept : ∀ v ∈ (tools sent).map Json.object, v.Lasting ∧ v.depth ≤ 1 :=
    List.forall_mem_map.mpr fun tool htool => ((areKept_tools sent).kept tool htool).lasting h.le
  have hlasting : (Json.array ((tools sent).map .object)).Lasting :=
    ⟨.of_items trivial fun v hv => (hkept v hv).1.regular,
      .of_items trivial fun v hv => (hkept v hv).1.stable,
      .of_items trivial fun v hv => (hkept v hv).1.encodable⟩
  have hdepth : (Json.array ((tools sent).map .object)).depth ≤ 2 :=
    Nat.succ_le_succ (Json.itemsDepth_le.mpr fun v hv => (hkept v hv).2)
  refine ⟨_, ?_, content_oneLine hlasting (hdepth.trans (by decide))⟩
  simp only [client, method_of_puts hputs, if_true]

/-- The registry answers a new tool with the tool. -/
theorem answers_created {sent : List Request} (h : sent.length < capacity) {fields : Members}
    (hfields : IsTool fields) {url : Url} {request : Request}
    (hputs : Puts client (Text.ofString "POST") toolsWay (some (.object fields)) url request) :
    Answers client sent request 201 (.object (created sent.length fields)) := by
  obtain ⟨hlasting, hdepth⟩ := (isKept_created hfields sent.length).lasting h
  refine ⟨_, ?_, content_oneLine hlasting (hdepth.trans (by decide))⟩
  have hother : Text.ofString "POST" ≠ Text.ofString "GET" := by decide
  simp only [client, method_of_puts hputs, fields?_of_puts hfields hputs, if_neg hother, if_true,
    Option.getD_some]

/-- The registry in memory is a store. -/
theorem serves_client : Serves client tools capacity where
  isOpen := isOpen_of_target (by decide +kernel)
  lists := by
    intro sent url request hsent hputs
    refine ⟨tools sent, answers_list hsent hputs, .refl _, ?_⟩
    rw [tools_concat, hputs.request]
    exact .refl _
  creates := by
    intro sent url request fields hsent hfields hputs
    refine ⟨created sent.length fields, .integer sent.length, answers_created hsent hfields hputs, rfl,
      isId_integer hsent, fun other hother hid => ?_, fun m hm => ?_, ?_⟩
    · exact ((areKept_tools sent).kept other hother).idOf?_ne hid
    · have hnodup := (isKept_created hfields sent.length).distinct
      exact Members.get?_of_mem hnodup (List.mem_cons_of_mem _ hm)
    · rw [tools_concat, receive, if_pos (method_of_puts hputs), fields?_of_puts hfields hputs]
  changes := by
    intro sent url request fields tool id hsent hfields htool hid hputs
    have hkept := areKept_tools sent
    obtain ⟨others, hbefore, hafter, -⟩ := exists_others hkept.distinct.of_map htool
      (fun other => isFor_of_puts hkept hsent.le hputs htool hid) (Members.overwrite fields)
    have hmethod := method_of_puts hputs
    refine ⟨⟨.text [], [], ?_, rfl⟩, others, hbefore, ?_⟩
    · simp only [client, hmethod]
      rfl
    · rw [tools_concat, receive, if_neg (by rw [hmethod]; decide), if_pos hmethod,
        fields?_of_puts hfields hputs]
      exact hafter
  deletes := by
    intro sent url request tool id hsent htool hid hputs
    have hkept := areKept_tools sent
    obtain ⟨others, hbefore, -, hafter⟩ := exists_others hkept.distinct.of_map htool
      (fun other => isFor_of_puts hkept hsent.le hputs htool hid) fun tool => tool
    have hmethod := method_of_puts hputs
    refine ⟨⟨204, .text [], .inr rfl, [], ?_, rfl⟩, ?_⟩
    · simp only [client, hmethod]
      rfl
    · rw [tools_concat, receive, if_neg (by rw [hmethod]; decide), if_neg (by rw [hmethod]; decide),
        if_pos hmethod]
      exact hbefore.trans (hafter.symm.cons tool)

/-- The tools of the registry can be asked for. -/
theorem exists_id {sent : List Request} (h : sent.length ≤ capacity) :
    ∀ tool ∈ tools sent, ∃ id, idOf? tool = some id ∧ IsId client id := by
  intro tool htool
  obtain ⟨n, hn, hid⟩ := ((areKept_tools sent).kept tool htool).id
  exact ⟨_, hid, isId_integer (hn.trans_le h)⟩

end Memory

end Registry

end Toolsmith
