import Toolsmith.Proofs.Json.Characters
import Toolsmith.Proofs.Json.RoundTrip
import Toolsmith.Proofs.Json.Writing

/-!
# Values that last

A value lasts if it has an encoding and is read back as it was written: its objects have distinct
keys, and its numbers are those of their digits. Its depth is another matter.
-/

namespace Toolsmith

namespace Json

/-- A value that is read back from a file as it was written, whatever its depth, and that has an
encoding. -/
structure Lasting (v : Json) : Prop where
  regular : v.Regular
  stable : v.Stable
  encodable : v.Encodable

namespace Lasting

/-- Parts of such values are such values. -/
theorem of_part {v w : Json} (h : v.Lasting) (hpart : w.Part v) : w.Lasting :=
  ⟨h.regular.of_part hpart, h.stable.of_part hpart, h.encodable.of_part hpart⟩

/-- Null lasts. -/
theorem of_null : null.Lasting :=
  ⟨.of_null trivial, .of_null trivial, .of_null trivial⟩

/-- A text that has an encoding lasts. -/
theorem of_text {t : Text} (h : (Text.encode t).isSome = true) : (text t).Lasting :=
  ⟨.of_text trivial, .of_text trivial, .of_text h⟩

/-- An array lasts if its items do. -/
theorem of_items {items : List Json} (h : ∀ v ∈ items, v.Lasting) : (array items).Lasting :=
  ⟨.of_items trivial fun v hv => (h v hv).regular, .of_items trivial fun v hv => (h v hv).stable,
    .of_items trivial fun v hv => (h v hv).encodable⟩

/-- An object lasts if its keys are distinct and have encodings, and its values last. -/
theorem of_members {members : Members} (hkeys : (members.map Prod.fst).Nodup)
    (h : ∀ m ∈ members, (Text.encode m.1).isSome = true ∧ m.2.Lasting) :
    (object members).Lasting :=
  ⟨.of_members hkeys fun m hm => (h m hm).2.regular,
    .of_members trivial fun m hm => (h m hm).2.stable,
    .of_members (fun m hm => (h m hm).1) fun m hm => (h m hm).2.encodable⟩

/-- A record lasts if its keys are distinct and its values last. -/
theorem of_record {fields : List (String × Json)}
    (hkeys : (fields.map fun field => Text.ofString field.1).Nodup)
    (h : ∀ field ∈ fields, field.2.Lasting) : (record fields).Lasting := by
  apply of_members
  · rwa [List.map_map]
  · intro m hm
    obtain ⟨field, hfield, rfl⟩ := List.mem_map.mp hm
    exact ⟨Text.encode_ofString_isSome field.1, h field hfield⟩

/-- The members of an object that lasts have distinct keys with encodings, and values that last. -/
theorem member {members : Members} (h : (object members).Lasting) {m : Text × Json}
    (hm : m ∈ members) : (Text.encode m.1).isSome = true ∧ m.2.Lasting :=
  ⟨h.encodable.self m hm, h.regular.member hm, h.stable.member hm, h.encodable.member hm⟩

/-- An object that lasts does so with a value for a key. -/
theorem set {members : Members} (h : (object members).Lasting) {key : Text} {v : Json}
    (hkey : (Text.encode key).isSome = true) (hv : v.Lasting) :
    (object (Members.set key v members)).Lasting := by
  refine of_members (Members.nodup_set h.regular.self key v) fun m hm => ?_
  rcases Members.mem_set hm with rfl | hm
  · exact ⟨hkey, hv⟩
  · exact h.member hm

/-- A value that lasts fits where there is room for its depth. -/
theorem fits {v : Json} (h : v.Lasting) {room : Nat} (hdepth : v.depth ≤ room) : v.Fits room :=
  ⟨h.regular.short, hdepth⟩

/-- A document that is read lasts if its texts have encodings. -/
theorem of_parse {t : Text} {v : Json} (h : parse t = .ok v) (hencodable : v.Encodable) :
    v.Lasting :=
  ⟨regular_of_parse h, stable_of_parse h, hencodable⟩

end Lasting

end Json

end Toolsmith
