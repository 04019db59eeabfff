import Toolsmith.Json.Printer
import Toolsmith.Proofs.Json.Reading

/-!
# What can be written

A value is written to a file exactly if it fits: no integer in it has too many digits, and it is
nested no deeper than the limit. Whatever has been read fits.
-/

namespace Toolsmith.Json

/-- An integer of few enough digits, or any other value. -/
def IsShortNode : Json → Prop
  | integer n => (Text.ofNat n.natAbs).length ≤ Text.maxDigits
  | _ => True

/-- A value without integers of too many digits. -/
def HasShortIntegers (v : Json) : Prop :=
  v.All IsShortNode

/-- A value that fits where some more arrays and objects may be opened. -/
structure Fits (room : Nat) (v : Json) : Prop where
  short : v.HasShortIntegers
  depth : v.depth ≤ room

/-- A value without parts fits, unless it is an integer of too many digits. -/
theorem Fits.of_depth_eq_zero {room : Nat} {v : Json} (h : IsShortNode v) (hdepth : v.depth = 0) :
    Fits room v :=
  ⟨.of_depth_eq_zero h hdepth, hdepth ▸ Nat.zero_le room⟩

/-- An array fits exactly if its items fit into what is left of the room. -/
theorem fits_array {room : Nat} {items : List Json} :
    Fits (room + 1) (.array items) ↔ ∀ v ∈ items, Fits room v := by
  constructor
  · intro h v hv
    exact ⟨h.short.item hv, itemsDepth_le.mp (Nat.le_of_succ_le_succ h.depth) v hv⟩
  · intro h
    exact ⟨.of_items trivial fun v hv => (h v hv).short,
      Nat.succ_le_succ (itemsDepth_le.mpr fun v hv => (h v hv).depth)⟩

/-- An object fits exactly if the values of its members fit into what is left of the room. -/
theorem fits_object {room : Nat} {members : Members} :
    Fits (room + 1) (.object members) ↔ ∀ m ∈ members, Fits room m.2 := by
  constructor
  · intro h m hm
    exact ⟨h.short.member hm, depth_object_le.mp h.depth m hm⟩
  · intro h
    exact ⟨.of_members trivial fun m hm => (h m hm).short,
      depth_object_le.mpr fun m hm => (h m hm).depth⟩

/-- An object fits with a value for a key if that value fits into what is left of the room. -/
theorem Fits.set {room : Nat} {members : Members} (h : Fits (room + 1) (.object members))
    {value : Json} (hvalue : Fits room value) (key : Text) :
    Fits (room + 1) (.object (Members.set key value members)) := by
  refine fits_object.mpr fun m hm => ?_
  rcases Members.mem_set hm with rfl | hm
  · exact hvalue
  · exact fits_object.mp h m hm

/-- A value fits where there is more room. -/
theorem Fits.mono {room more : Nat} {v : Json} (h : Fits room v) (hroom : room ≤ more) :
    Fits more v :=
  ⟨h.short, h.depth.trans hroom⟩

/-- Regular values have no integers of too many digits. -/
theorem Regular.short {v : Json} (h : v.Regular) : v.HasShortIntegers := by
  intro w hw
  have hnode := h w hw
  cases w <;> first | exact hnode | trivial

/-- Whatever is read fits. -/
theorem fits_of_parse {t : Text} {v : Json} (h : parse t = .ok v) : v.Fits maxDepth :=
  ⟨(regular_of_parse h).short, depth_le_of_parse h⟩

/-- There is no obstacle to writing items if there is none to writing each of them. -/
theorem itemsObstacle?_eq_none {room : Nat} {items : List Json} :
    itemsObstacle? room items = none ↔ ∀ v ∈ items, obstacle? room v = none := by
  induction items with
  | nil => simp [itemsObstacle?]
  | cons v items ih => rw [itemsObstacle?, Option.or_eq_none_iff, ih, List.forall_mem_cons]

/-- There is no obstacle to writing members if there is none to writing the value of each. -/
theorem membersObstacle?_eq_none {room : Nat} {members : Members} :
    membersObstacle? room members = none ↔ ∀ m ∈ members, obstacle? room m.2 = none := by
  induction members with
  | nil => simp [membersObstacle?]
  | cons m members ih =>
    obtain ⟨key, v⟩ := m
    rw [membersObstacle?, Option.or_eq_none_iff, ih, List.forall_mem_cons]

/-- There is no obstacle to writing a value exactly if it fits. -/
theorem obstacle?_eq_none {room : Nat} {v : Json} : obstacle? room v = none ↔ v.Fits room := by
  induction v using induction_parts generalizing room with
  | null => exact iff_of_true (by unfold obstacle?; rfl) (.of_depth_eq_zero trivial rfl)
  | bool b => exact iff_of_true (by unfold obstacle?; rfl) (.of_depth_eq_zero trivial rfl)
  | number x => exact iff_of_true (by unfold obstacle?; rfl) (.of_depth_eq_zero trivial rfl)
  | text t => exact iff_of_true (by unfold obstacle?; rfl) (.of_depth_eq_zero trivial rfl)
  | integer n =>
    unfold obstacle?
    by_cases hlong : Text.maxDigits < (Text.ofNat n.natAbs).length
    · rw [if_pos hlong]
      exact iff_of_false nofun fun h => Nat.not_le.mpr hlong h.short.self
    · rw [if_neg hlong]
      exact iff_of_true rfl (.of_depth_eq_zero (Nat.not_lt.mp hlong) rfl)
  | array items ih =>
    cases room with
    | zero => exact iff_of_false nofun fun h => Nat.not_succ_le_zero _ h.depth
    | succ room =>
      rw [obstacle?, itemsObstacle?_eq_none, fits_array]
      exact forall₂_congr fun v hv => ih v hv
  | object members ih =>
    cases room with
    | zero => exact iff_of_false nofun fun h => Nat.not_succ_le_zero _ h.depth
    | succ room =>
      rw [obstacle?, membersObstacle?_eq_none, fits_object]
      exact forall₂_congr fun m hm => ih m hm

/-- A value that fits is written as its text. -/
theorem Fits.dump {v : Json} (h : v.Fits maxDepth) : v.dump = .ok v.fileText := by
  unfold Json.dump
  rw [obstacle?_eq_none.mpr h]

/-- A value that does not fit cannot be written. -/
theorem exists_dump_eq_error {v : Json} (h : ¬v.Fits maxDepth) :
    ∃ obstacle, v.dump = .error obstacle := by
  obtain ⟨obstacle, hobstacle⟩ := Option.ne_none_iff_exists'.mp (mt obstacle?_eq_none.mp h)
  refine ⟨obstacle, ?_⟩
  unfold Json.dump
  rw [hobstacle]

/-- A value is written exactly if it fits, and then as its text. -/
theorem dump_eq_ok {v : Json} {t : Text} :
    v.dump = .ok t ↔ v.Fits maxDepth ∧ t = v.fileText := by
  constructor
  · intro h
    by_cases hfits : v.Fits maxDepth
    · rw [hfits.dump] at h
      exact ⟨hfits, (Except.ok.inj h).symm⟩
    · obtain ⟨obstacle, hobstacle⟩ := exists_dump_eq_error hfits
      rw [hobstacle] at h
      cases h
  · rintro ⟨hfits, rfl⟩
    exact hfits.dump

/-- The first obstacle to writing items is the first obstacle to writing one of them. -/
theorem exists_of_itemsObstacle? {room : Nat} {items : List Json} {obstacle : Obstacle}
    (h : itemsObstacle? room items = some obstacle) :
    ∃ v ∈ items, obstacle? room v = some obstacle := by
  induction items with
  | nil => cases h
  | cons v items ih =>
    rcases Option.or_eq_some_iff.mp h with hv | ⟨-, hrest⟩
    · exact ⟨v, List.mem_cons_self, hv⟩
    · obtain ⟨w, hw, hobstacle⟩ := ih hrest
      exact ⟨w, List.mem_cons_of_mem v hw, hobstacle⟩

/-- The first obstacle to writing members is the first obstacle to writing the value of one. -/
theorem exists_of_membersObstacle? {room : Nat} {members : Members} {obstacle : Obstacle}
    (h : membersObstacle? room members = some obstacle) :
    ∃ m ∈ members, obstacle? room m.2 = some obstacle := by
  induction members with
  | nil => cases h
  | cons m members ih =>
    rcases Option.or_eq_some_iff.mp h with hm | ⟨-, hrest⟩
    · exact ⟨m, List.mem_cons_self, hm⟩
    · obtain ⟨n, hn, hobstacle⟩ := ih hrest
      exact ⟨n, List.mem_cons_of_mem m hn, hobstacle⟩

/-- Where integers have few enough digits, they are no obstacle. -/
theorem HasShortIntegers.obstacle?_ne {room : Nat} {v : Json} (h : v.HasShortIntegers) :
    obstacle? room v ≠ some .tooManyDigits := by
  induction v using induction_parts generalizing room with
  | null => unfold obstacle?; exact nofun
  | bool b => unfold obstacle?; exact nofun
  | number x => unfold obstacle?; exact nofun
  | text t => unfold obstacle?; exact nofun
  | integer n =>
    unfold obstacle?
    rw [if_neg (Nat.not_lt.mpr h.self)]
    exact nofun
  | array items ih =>
    cases room with
    | zero => exact nofun
    | succ room =>
      intro hobstacle
      obtain ⟨v, hv, hlong⟩ := exists_of_itemsObstacle? hobstacle
      exact ih v hv (h.item hv) hlong
  | object members ih =>
    cases room with
    | zero => exact nofun
    | succ room =>
      intro hobstacle
      obtain ⟨m, hm, hlong⟩ := exists_of_membersObstacle? hobstacle
      exact ih m hm (h.member hm) hlong

/-- Where integers have few enough digits, a value cannot be written only if it is nested too
deeply. -/
theorem HasShortIntegers.dump_eq_error {v : Json} (h : v.HasShortIntegers)
    (hdepth : ¬v.depth ≤ maxDepth) : v.dump = .error .tooDeep := by
  have hne : obstacle? maxDepth v ≠ some .tooManyDigits := h.obstacle?_ne
  obtain ⟨obstacle, hobstacle⟩ := Option.ne_none_iff_exists'.mp
    (mt obstacle?_eq_none.mp fun hfits : v.Fits maxDepth => hdepth hfits.depth)
  unfold Json.dump
  rw [hobstacle] at hne ⊢
  cases obstacle with
  | tooManyDigits => exact absurd rfl hne
  | tooDeep => rfl

instance (room : Nat) (v : Json) : Decidable (v.Fits room) :=
  decidable_of_iff (obstacle? room v = none) obstacle?_eq_none

end Toolsmith.Json
