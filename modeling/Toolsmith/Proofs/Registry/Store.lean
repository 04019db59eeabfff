import Toolsmith.Proofs.Json.Reading
import Toolsmith.Proofs.Registry.Exchanges

/-!
# A registry that is a store of tools

A registry that does what it is asked for is a store: what it holds after some requests follows from
what it held before the last one. Its tools may have names that tell them apart. Then the store is
known by what it holds under every name, in whatever order it lists its tools.
-/

namespace Toolsmith

namespace Members

/-- A key that has been given twice has the second value. -/
theorem set_set (key : Text) (value value' : Json) (members : Members) :
    set key value' (set key value members) = set key value' members := by
  induction members with
  | nil => simp [set]
  | cons m members ih =>
    obtain ⟨k, v⟩ := m
    by_cases hk : k = key
    · simp [set, hk]
    · simp [set, hk, ih]

/-- A key that is present may be given its value before or after another one. -/
theorem set_comm {key other : Text} (hne : key ≠ other) (value value' : Json) {members : Members}
    (h : key ∈ members.map Prod.fst) :
    set key value (set other value' members) = set other value' (set key value members) := by
  induction members with
  | nil => cases h
  | cons m members ih =>
    obtain ⟨k, v⟩ := m
    by_cases hk : k = key
    · subst k
      simp [set, hne]
    · have hmem : key ∈ members.map Prod.fst :=
        (List.mem_cons.mp h).resolve_left fun heq => hk heq.symm
      by_cases hk' : k = other
      · simp [set, hk', hne.symm]
      · simp [set, hk, hk', ih hmem]

/-- Giving a key the value that it has changes nothing. -/
theorem set_eq_self {key : Text} {value : Json} {members : Members}
    (h : get? members key = some value) : set key value members = members := by
  induction members with
  | nil => cases h
  | cons m members ih =>
    obtain ⟨k, v⟩ := m
    rw [get?_cons] at h
    by_cases hk : k = key
    · subst k
      rw [if_pos rfl] at h
      rw [set, if_pos rfl, Option.some.inj h]
    · rw [if_neg (Ne.symm hk)] at h
      rw [set, if_neg hk, ih h]

/-- The members of an object where some keys have been given new values. -/
def overwrite (fields members : Members) : Members :=
  fields.foldl (fun members m => set m.1 m.2 members) members

/-- The first of the fields is given before the others. -/
theorem overwrite_cons (key : Text) (value : Json) (fields members : Members) :
    overwrite ((key, value) :: fields) members = overwrite fields (set key value members) :=
  rfl

/-- Overwriting repeats no key. -/
theorem nodup_overwrite {members : Members} (h : (members.map Prod.fst).Nodup)
    (fields : Members) : ((overwrite fields members).map Prod.fst).Nodup := by
  induction fields generalizing members with
  | nil => exact h
  | cons m fields ih => exact ih (nodup_set h m.1 m.2)

/-- Overwriting brings nothing but the fields. -/
theorem mem_overwrite {fields members : Members} {m : Text × Json}
    (h : m ∈ overwrite fields members) : m ∈ fields ∨ m ∈ members := by
  induction fields generalizing members with
  | nil => exact .inr h
  | cons first fields ih =>
    rcases ih h with h | h
    · exact .inl (List.mem_cons_of_mem _ h)
    · rcases mem_set h with rfl | h
      · exact .inl List.mem_cons_self
      · exact .inr h

/-- A key that is not there has no value. -/
theorem get?_eq_none {members : Members} {key : Text} (h : key ∉ members.map Prod.fst) :
    get? members key = none := by
  rw [get?, List.lookup_eq_none_iff]
  intro m hm
  simp only [bne_iff_ne, ne_eq]
  rintro rfl
  exact h (List.mem_map_of_mem hm)

/-- Fields have the values that they are given, and the other keys those that they had. -/
theorem get?_overwrite {fields : Members} (h : (fields.map Prod.fst).Nodup) (members : Members)
    (key : Text) :
    get? (overwrite fields members) key = (get? fields key).or (get? members key) := by
  induction fields generalizing members with
  | nil => rfl
  | cons m fields ih =>
    obtain ⟨k, v⟩ := m
    obtain ⟨hk, hfields⟩ := List.nodup_cons.mp h
    rw [overwrite_cons, ih hfields, get?_set, get?_cons]
    by_cases hkey : key = k
    · subst key
      rw [if_pos rfl, if_pos rfl, get?_eq_none hk]
      rfl
    · rw [if_neg hkey, if_neg hkey]

/-- A member is found under its key where no key is repeated. -/
theorem get?_of_mem {members : Members} (h : (members.map Prod.fst).Nodup) {m : Text × Json}
    (hm : m ∈ members) : get? members m.1 = some m.2 := by
  induction members with
  | nil => cases hm
  | cons first members ih =>
    obtain ⟨key, value⟩ := first
    obtain ⟨hkey, hmembers⟩ := List.nodup_cons.mp h
    rw [get?_cons]
    rcases List.mem_cons.mp hm with rfl | hm
    · rw [if_pos rfl]
    · rw [if_neg, ih hmembers hm]
      intro heq
      exact hkey (List.mem_map.mpr ⟨m, hm, heq⟩)

/-- Fields that are there already change nothing. -/
theorem overwrite_eq_self {fields members : Members}
    (h : ∀ m ∈ fields, get? members m.1 = some m.2) : overwrite fields members = members := by
  induction fields with
  | nil => rfl
  | cons m fields ih =>
    obtain ⟨hm, hfields⟩ := List.forall_mem_cons.mp h
    rw [overwrite_cons, set_eq_self hm]
    exact ih hfields

/-- A key that is present and is no field may be given its value before the fields. -/
theorem set_overwrite {key : Text} {fields members : Members} (hfields : key ∉ fields.map Prod.fst)
    (hkey : key ∈ members.map Prod.fst) (value : Json) :
    set key value (overwrite fields members) = overwrite fields (set key value members) := by
  induction fields generalizing members with
  | nil => rfl
  | cons m fields ih =>
    obtain ⟨k, v⟩ := m
    obtain ⟨hne, hrest⟩ := List.ne_and_not_mem_of_not_mem_cons hfields
    have hmem : key ∈ (set k v members).map Prod.fst := by
      rw [keys_set]
      split
      · exact hkey
      · exact List.mem_append_left _ hkey
    rw [overwrite_cons, ih hrest hmem, set_comm hne value v hkey]
    rfl

/-- Of fields with the same keys those that are given last stay. -/
theorem overwrite_overwrite {fields fields' : Members} (h : (fields.map Prod.fst).Nodup)
    (hsame : fields'.map Prod.fst = fields.map Prod.fst) (members : Members) :
    overwrite fields' (overwrite fields members) = overwrite fields' members := by
  induction fields generalizing fields' members with
  | nil =>
    rw [List.map_eq_nil_iff.mp hsame]
    rfl
  | cons m fields ih =>
    obtain ⟨k, v⟩ := m
    cases fields' with
    | nil => cases hsame
    | cons m' fields' =>
      obtain ⟨k', v'⟩ := m'
      simp only [List.map_cons, List.cons.injEq] at hsame
      obtain ⟨rfl, hsame⟩ := hsame
      obtain ⟨hk, hfields⟩ := List.nodup_cons.mp h
      have hmem : k' ∈ (set k' v members).map Prod.fst := by
        rw [keys_set]
        split
        · assumption
        · exact List.mem_append_right _ (List.mem_singleton_self _)
      rw [overwrite_cons, overwrite_cons, set_overwrite hk hmem, set_set, ih hfields hsame]
      rfl

end Members

namespace Registry

/-- The name of a tool, if it is a text. -/
def nameOf? (tool : Members) : Option Text :=
  (Members.get? tool (Text.ofString "name")).bind Json.text?

/-- The identifier of a tool. -/
def idOf? (tool : Members) : Option Json :=
  Members.get? tool (Text.ofString "id")

/-- Fields without an identifier leave the one of the tool that they overwrite. -/
theorem idOf?_overwrite {fields : Members} (h : (fields.map Prod.fst).Nodup)
    (hanonymous : Text.ofString "id" ∉ fields.map Prod.fst) (tool : Members) :
    idOf? (Members.overwrite fields tool) = idOf? tool := by
  rw [idOf?, Members.get?_overwrite h, Members.get?_eq_none hanonymous]
  rfl

/-- A way leads to a URL to which questions can be put, and from which answers can be read. -/
def IsOpen (client : Client) (way : Text) : Prop :=
  ∃ url, client.target way = .ok url ∧ requestFault? url none = none ∧ url.hasKind = true

/-- An identifier by which a tool can be asked for: it is no container, its texts have an encoding,
and the way to its tool is open. -/
structure IsId (client : Client) (id : Json) : Prop where
  plain : id.depth = 0
  encodable : id.Encodable
  isOpen : IsOpen client (toolWay id)

/-- The fields of a tool that is sent: texts that have an encoding, under distinct keys. None of
them is the identifier. -/
structure IsTool (fields : Members) : Prop where
  distinct : (fields.map Prod.fst).Nodup
  anonymous : Text.ofString "id" ∉ fields.map Prod.fst
  texts : ∀ m ∈ fields, m.1.encode.isSome = true ∧ ∃ t, m.2 = .text t ∧ t.encode.isSome = true

/-- A request is answered with a status and a content. -/
def Answers (client : Client) (sent : List Request) (request : Request) (status : Int)
    (v : Json) : Prop :=
  ∃ body, client.network sent request = .answer status body ∧ content body = .ok v

/-- A registry that is a store of tools. It is told by the tools that it holds after any requests.
Up to a number of requests it lists all its tools, adds a tool under a new identifier, overwrites
the fields of a tool, and removes a tool, as it is asked for. -/
structure Serves (client : Client) (store : List Request → List Members) (limit : Nat) : Prop where
  isOpen : IsOpen client toolsWay
  lists : ∀ {sent url request}, sent.length < limit →
    Puts client (Text.ofString "GET") toolsWay none url request →
    ∃ tools : List Members, Answers client sent request 200 (.array (tools.map .object)) ∧
      tools.Perm (store sent) ∧ (store (sent ++ [request])).Perm (store sent)
  creates : ∀ {sent url request fields}, sent.length < limit → IsTool fields →
    Puts client (Text.ofString "POST") toolsWay (some (.object fields)) url request →
    ∃ tool id, Answers client sent request 201 (.object tool) ∧ idOf? tool = some id ∧
      IsId client id ∧ (∀ other ∈ store sent, idOf? other ≠ some id) ∧
      (∀ m ∈ fields, Members.get? tool m.1 = some m.2) ∧
      (store (sent ++ [request])).Perm (tool :: store sent)
  changes : ∀ {sent url request fields tool id}, sent.length < limit → IsTool fields →
    tool ∈ store sent → idOf? tool = some id →
    Puts client (Text.ofString "PUT") (toolWay id) (some (.object fields)) url request →
    (∃ v, Answers client sent request 200 v) ∧
      ∃ others, (store sent).Perm (tool :: others) ∧
        (store (sent ++ [request])).Perm (Members.overwrite fields tool :: others)
  deletes : ∀ {sent url request tool id}, sent.length < limit →
    tool ∈ store sent → idOf? tool = some id →
    Puts client (Text.ofString "DELETE") (toolWay id) none url request →
    (∃ status v, (status = 200 ∨ status = 204) ∧ Answers client sent request status v) ∧
      (store sent).Perm (tool :: store (sent ++ [request]))

/-- Tools that are told apart by their names, which are texts. -/
structure HasNames (tools : List Members) : Prop where
  texts : ∀ tool ∈ tools, (nameOf? tool).isSome = true
  distinct : (tools.map nameOf?).Nodup

/-- The first tool of a name. -/
def toolNamed? (tools : List Members) (name : Text) : Option Members :=
  tools.find? fun tool => nameOf? tool = some name

variable {client : Client} {tools tools' : List Members} {name : Text} {tool : Members}

/-- Tools have names that tell them apart in any order. -/
theorem HasNames.perm (h : HasNames tools) (hperm : tools.Perm tools') : HasNames tools' :=
  ⟨fun tool htool => h.texts tool (hperm.mem_iff.mpr htool),
    (hperm.map nameOf?).nodup_iff.mp h.distinct⟩

/-- Some of tools with names have names as well. -/
theorem HasNames.filter (h : HasNames tools) (p : Members → Bool) : HasNames (tools.filter p) :=
  ⟨fun tool htool => h.texts tool (List.mem_of_mem_filter htool),
    h.distinct.sublist (List.filter_sublist.map nameOf?)⟩

/-- What is found under a name is one of the tools, and has the name. -/
theorem mem_of_toolNamed? (h : toolNamed? tools name = some tool) :
    tool ∈ tools ∧ nameOf? tool = some name := by
  unfold toolNamed? at h
  exact ⟨List.mem_of_find?_eq_some h, by simpa using List.find?_some h⟩

/-- A name under which no tool is found is the name of none. -/
theorem toolNamed?_eq_none :
    toolNamed? tools name = none ↔ ∀ tool ∈ tools, nameOf? tool ≠ some name := by
  rw [toolNamed?, List.find?_eq_none]
  simp

/-- A tool is found under its name, where names tell tools apart. -/
theorem HasNames.toolNamed?_eq_some (h : HasNames tools) :
    toolNamed? tools name = some tool ↔ tool ∈ tools ∧ nameOf? tool = some name := by
  refine ⟨mem_of_toolNamed?, fun h' => ?_⟩
  obtain ⟨hmem, hname⟩ := h'
  cases hfound : toolNamed? tools name with
  | none => exact absurd hname (toolNamed?_eq_none.mp hfound tool hmem)
  | some other =>
    obtain ⟨hother, hsame⟩ := mem_of_toolNamed? hfound
    rw [List.inj_on_of_nodup_map h.distinct hother hmem (hsame.trans hname.symm)]

/-- What is found under a name does not depend on the order. -/
theorem HasNames.toolNamed?_perm (h : HasNames tools) (hperm : tools.Perm tools') (name : Text) :
    toolNamed? tools name = toolNamed? tools' name := by
  cases hfound : toolNamed? tools' name with
  | none =>
    rw [toolNamed?_eq_none] at hfound ⊢
    exact fun tool htool => hfound tool (hperm.mem_iff.mp htool)
  | some tool =>
    obtain ⟨hmem, hname⟩ := (h.perm hperm).toolNamed?_eq_some.mp hfound
    exact h.toolNamed?_eq_some.mpr ⟨hperm.mem_iff.mpr hmem, hname⟩

/-- The first of some tools is found under its name, and the others under theirs. -/
theorem toolNamed?_cons (tool : Members) (tools : List Members) (name : Text) :
    toolNamed? (tool :: tools) name =
      if nameOf? tool = some name then some tool else toolNamed? tools name := by
  rw [toolNamed?, List.find?_cons]
  split
  · rename_i h
    rw [if_pos (of_decide_eq_true h)]
  · rename_i h
    rw [if_neg (of_decide_eq_false h), toolNamed?]

/-- Tools with names are the same if the same is found under every name. -/
theorem HasNames.perm_of_toolNamed? (h : HasNames tools) (h' : HasNames tools')
    (hsame : ∀ name, toolNamed? tools name = toolNamed? tools' name) : tools.Perm tools' := by
  refine (List.perm_ext_iff_of_nodup h.distinct.of_map h'.distinct.of_map).mpr fun tool => ?_
  constructor
  · intro htool
    obtain ⟨name, hname⟩ := Option.isSome_iff_exists.mp (h.texts tool htool)
    have hfound := h.toolNamed?_eq_some.mpr ⟨htool, hname⟩
    rw [hsame] at hfound
    exact (h'.toolNamed?_eq_some.mp hfound).1
  · intro htool
    obtain ⟨name, hname⟩ := Option.isSome_iff_exists.mp (h'.texts tool htool)
    have hfound := h'.toolNamed?_eq_some.mpr ⟨htool, hname⟩
    rw [← hsame] at hfound
    exact (h.toolNamed?_eq_some.mp hfound).1

/-- One more tool has a name of its own if none is found under it. -/
theorem HasNames.cons (h : HasNames tools) (hname : nameOf? tool = some name)
    (hnone : toolNamed? tools name = none) : HasNames (tool :: tools) := by
  refine ⟨List.forall_mem_cons.mpr ⟨by rw [hname]; rfl, h.texts⟩, ?_⟩
  rw [List.map_cons, List.nodup_cons, hname]
  refine ⟨fun hmem => ?_, h.distinct⟩
  obtain ⟨other, hother, hsame⟩ := List.mem_map.mp hmem
  exact toolNamed?_eq_none.mp hnone other hother hsame

/-- Without the first of them tools still have names, and nothing is found under its name. -/
theorem HasNames.of_cons (h : HasNames (tool :: tools)) :
    HasNames tools ∧ ∀ name, nameOf? tool = some name → toolNamed? tools name = none := by
  obtain ⟨hfirst, hrest⟩ := List.nodup_cons.mp h.distinct
  refine ⟨⟨fun other hother => h.texts other (List.mem_cons_of_mem _ hother), hrest⟩,
    fun name hname => toolNamed?_eq_none.mpr fun other hother hsame => hfirst ?_⟩
  rw [hname, ← hsame]
  exact List.mem_map_of_mem hother

/-- A tool can be sent where a question can be put. -/
theorem IsTool.sendable {fields : Members} (h : IsTool fields) {url : Url}
    (hurl : requestFault? url none = none) : requestFault? url (some (.object fields)) = none := by
  have hfinite : ∀ {fields : Members}, (∀ m ∈ fields, ∃ t, m.2 = Json.text t) →
      hasNotFinite.anyMember fields = false := by
    intro fields
    induction fields with
    | nil => exact fun _ => rfl
    | cons m fields ih =>
      intro h
      obtain ⟨⟨t, ht⟩, hfields⟩ := List.forall_mem_cons.mp h
      obtain ⟨key, v⟩ := m
      obtain rfl : v = .text t := ht
      rw [hasNotFinite.anyMember, ih hfields]
      rfl
  have hencodable : ∀ {fields : Members}, (∀ m ∈ fields, m.1.encode.isSome = true ∧
      ∃ t, m.2 = Json.text t ∧ t.encode.isSome = true) → isEncodable.allMembers fields = true := by
    intro fields
    induction fields with
    | nil => exact fun _ => rfl
    | cons m fields ih =>
      intro h
      obtain ⟨⟨hkey, t, ht, hencode⟩, hfields⟩ := List.forall_mem_cons.mp h
      obtain ⟨key, v⟩ := m
      obtain rfl : v = .text t := ht
      rw [isEncodable.allMembers, ih hfields, hkey]
      simpa [isEncodable] using hencode
  have htexts : ∀ m ∈ fields, ∃ t, m.2 = Json.text t := by
    intro m hm
    obtain ⟨-, t, ht, -⟩ := h.texts m hm
    exact ⟨t, ht⟩
  have hbody : bodyFault? (some (.object fields)) = none := by
    unfold bodyFault?
    have hnot : hasNotFinite (.object fields) = false := hfinite htexts
    have hall : isEncodable (.object fields) = true := hencodable h.texts
    simp [hnot, hall]
  rw [requestFault?, hbody]
  exact hurl

end Registry

end Toolsmith
