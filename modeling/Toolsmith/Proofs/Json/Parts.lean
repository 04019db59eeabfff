import Mathlib.Data.List.Nodup
import Toolsmith.Document.Pointer
import Toolsmith.Number.Integer
import Toolsmith.Proofs.Text.Encoding

/-!
# Parts of documents

A document's parts are itself, the items and members in it, and the parts of those. Properties that
hold of all parts are inherited by whatever is taken out of a document. Two of them matter for
reading what has been written: keys of an object are distinct and integers have few enough digits,
and texts hold no lone surrogates.
-/

namespace Toolsmith

namespace Json

/-- A value that stands somewhere in another, or is it. -/
inductive Part : Json → Json → Prop
  | self (v : Json) : Part v v
  | item {w v : Json} {items : List Json} (hv : v ∈ items) (h : Part w v) : Part w (array items)
  | member {w : Json} {m : Text × Json} {members : Members} (hm : m ∈ members) (h : Part w m.2) :
      Part w (object members)

/-- A part of a part is a part. -/
theorem Part.trans {u v w : Json} (h : Part u v) (h' : Part v w) : Part u w := by
  induction h' with
  | self => exact h
  | item hv _ ih => exact .item hv ih
  | member hm _ ih => exact .member hm ih

/-- What holds of every value without parts and is passed on from parts holds of every value. -/
theorem induction_parts {p : Json → Prop} (null : p null) (bool : ∀ b, p (bool b))
    (integer : ∀ n, p (integer n)) (number : ∀ x, p (number x)) (text : ∀ t, p (text t))
    (array : ∀ items, (∀ v ∈ items, p v) → p (array items))
    (object : ∀ members : Members, (∀ m ∈ members, p m.2) → p (object members)) : ∀ v, p v
  | .null => null
  | .bool b => bool b
  | .integer n => integer n
  | .number x => number x
  | .text t => text t
  | .array items => array items fun v _ =>
    induction_parts null bool integer number text array object v
  | .object members => object members fun m hm =>
    have hsmaller : sizeOf m.2 < 1 + sizeOf members := by
      have hmember := List.sizeOf_lt_of_mem hm
      have hpair : sizeOf m = 1 + sizeOf m.1 + sizeOf m.2 := rfl
      omega
    induction_parts null bool integer number text array object m.2
termination_by v => sizeOf v

/-- A property holds of a value and everything in it. -/
def All (p : Json → Prop) (v : Json) : Prop :=
  ∀ w, Part w v → p w

namespace All

variable {p : Json → Prop}

/-- A property of everything in a value holds of the value. -/
theorem self {v : Json} (h : All p v) : p v :=
  h v (.self v)

/-- A property of everything in a value holds of everything in its parts. -/
theorem of_part {v w : Json} (h : All p v) (hpart : Part w v) : All p w :=
  fun _ hu => h _ (hu.trans hpart)

/-- A property of everything in an array holds of everything in its items. -/
theorem item {v : Json} {items : List Json} (h : All p (.array items)) (hv : v ∈ items) :
    All p v :=
  h.of_part (.item hv (.self v))

/-- A property of everything in an object holds of everything in its members. -/
theorem member {m : Text × Json} {members : Members} (h : All p (.object members))
    (hm : m ∈ members) : All p m.2 :=
  h.of_part (.member hm (.self m.2))

/-- A property holds in an array if it holds of the array and in its items. -/
theorem of_items {items : List Json} (hself : p (.array items)) (h : ∀ v ∈ items, All p v) :
    All p (.array items) := by
  intro w hw
  cases hw with
  | self => exact hself
  | item hv hw => exact h _ hv _ hw

/-- A property holds in an object if it holds of the object and in its members. -/
theorem of_members {members : Members} (hself : p (.object members))
    (h : ∀ m ∈ members, All p m.2) : All p (.object members) := by
  intro w hw
  cases hw with
  | self => exact hself
  | member hm hw => exact h _ hm _ hw

/-- A text has no parts but itself. -/
theorem of_text {t : Text} (hself : p (.text t)) : All p (.text t) := by
  rintro w ⟨⟩
  exact hself

/-- A boolean has no parts but itself. -/
theorem of_bool {b : Bool} (hself : p (.bool b)) : All p (.bool b) := by
  rintro w ⟨⟩
  exact hself

/-- Null has no parts but itself. -/
theorem of_null (hself : p .null) : All p .null := by
  rintro w ⟨⟩
  exact hself

/-- An integer has no parts but itself. -/
theorem of_integer {n : Int} (hself : p (.integer n)) : All p (.integer n) := by
  rintro w ⟨⟩
  exact hself

/-- A double has no parts but itself. -/
theorem of_number {x : Binary64} (hself : p (.number x)) : All p (.number x) := by
  rintro w ⟨⟩
  exact hself

end All

/-- An object without a repeated key, an integer of few enough digits, or any other value. -/
def IsRegularNode : Json → Prop
  | integer n => (Text.ofNat n.natAbs).length ≤ Text.maxDigits
  | object members => (members.map Prod.fst).Nodup
  | _ => True

/-- A value that can be read: no object in it repeats a key, and no integer has too many digits. -/
def Regular (v : Json) : Prop :=
  v.All IsRegularNode

/-- A text, or an object whose keys, have an encoding, or any other value. -/
def IsEncodableNode : Json → Prop
  | text t => (Text.encode t).isSome = true
  | object members => ∀ m ∈ members, (Text.encode m.1).isSome = true
  | _ => True

/-- A value all of whose texts have an encoding. -/
def Encodable (v : Json) : Prop :=
  v.All IsEncodableNode

/-- The value under a key is a part of the object. -/
theorem Part.of_members_get? {members : Members} {key : Text} {v : Json}
    (h : members.get? key = some v) : Part v (.object members) := by
  obtain ⟨before, after, rfl, -⟩ := List.lookup_eq_some_iff.mp h
  exact .member (m := (key, v)) (by simp) (.self v)

/-- What a value has under a key is a part of it. -/
theorem Part.of_get? {node v : Json} {key : Text} (h : node.get? key = some v) : Part v node := by
  cases node with
  | object members => exact .of_members_get? h
  | _ => cases h

end Json

namespace Pointer

/-- What a way through nested objects leads to is a part of the value where it begins. -/
theorem part_of_follow {node v : Json} {way : List Text} (h : follow node way = some v) :
    v.Part node := by
  fun_induction follow node way with
  | case1 => cases h; exact .self _
  | case4 members key rest next hnull hget ih => exact (ih h).trans (.of_members_get? hget)
  | _ => cases h

/-- A value that replaces a reference is a part of the document, and any other replaces itself. -/
theorem part_of_deref? {document : Members} {node v : Json} (h : deref? document node = some v)
    (hnode : node.Part (.object document)) : v.Part (.object document) := by
  unfold deref? at h
  split at h
  · unfold resolve? at h
    split at h
    · exact part_of_follow h
    · cases h
  · cases h
    exact hnode

end Pointer

end Toolsmith
