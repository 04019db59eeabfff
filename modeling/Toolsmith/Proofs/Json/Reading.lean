import Toolsmith.Proofs.Json.Numbers
import Toolsmith.Proofs.Json.Parts

/-!
# What reading gives

Every value that is read from a text is regular: its integers have few enough digits, its objects
repeat no key, and it is nested no deeper than the reader's limit.
-/

namespace Toolsmith

namespace Members

/-- The value of a key is that of the first member under it. -/
theorem get?_cons (k : Text) (v : Json) (members : Members) (key : Text) :
    get? ((k, v) :: members) key = if key = k then some v else get? members key := by
  by_cases h : key = k
  · simp [get?, h]
  · simp [get?, List.lookup_cons, beq_false_of_ne h, h]

/-- Giving a key a value keeps the other keys and puts a new one at the end. -/
theorem keys_set (key : Text) (value : Json) (members : Members) :
    (set key value members).map Prod.fst =
      if key ∈ members.map Prod.fst then members.map Prod.fst
      else members.map Prod.fst ++ [key] := by
  induction members with
  | nil => simp [set]
  | cons m members ih =>
    obtain ⟨k, v⟩ := m
    by_cases hk : k = key
    · simp [set, hk]
    · have hk' : key ≠ k := fun h => hk h.symm
      simp only [set, if_neg hk, List.map_cons, ih, List.mem_cons, hk', false_or]
      split <;> simp

/-- Giving a key a value repeats no key. -/
theorem nodup_set {members : Members} (h : (members.map Prod.fst).Nodup) (key : Text)
    (value : Json) : ((set key value members).map Prod.fst).Nodup := by
  rw [keys_set]
  split
  · exact h
  · rename_i hkey
    refine List.nodup_append.mpr ⟨h, List.nodup_singleton key, ?_⟩
    rintro k hk other hother rfl
    exact hkey (List.mem_singleton.mp hother ▸ hk)

/-- Every member was there before or is the one that was given. -/
theorem mem_set {key : Text} {value : Json} {members : Members} {m : Text × Json}
    (h : m ∈ set key value members) : m = (key, value) ∨ m ∈ members := by
  induction members with
  | nil => exact .inl (List.mem_singleton.mp h)
  | cons first members ih =>
    obtain ⟨k, v⟩ := first
    unfold set at h
    split at h
    · rename_i hk
      subst k
      rcases List.mem_cons.mp h with h | h
      · exact .inl h
      · exact .inr (List.mem_cons_of_mem _ h)
    · rcases List.mem_cons.mp h with h | h
      · exact .inr (h ▸ List.mem_cons_self)
      · exact (ih h).imp_right (List.mem_cons_of_mem _)

/-- The value of a key that has been given is the one given, and others are as before. -/
theorem get?_set (key other : Text) (value : Json) (members : Members) :
    get? (set key value members) other = if other = key then some value else get? members other := by
  induction members with
  | nil => exact get?_cons key value [] other
  | cons m members ih =>
    obtain ⟨k, v⟩ := m
    by_cases hk : k = key
    · subst k
      rw [set, if_pos rfl, get?_cons, get?_cons]
      split <;> rfl
    · rw [set, if_neg hk, get?_cons, get?_cons, ih]
      by_cases h : other = k
      · rw [if_pos h, if_pos h, if_neg (h ▸ hk)]
      · rw [if_neg h, if_neg h]

/-- The object of pairs repeats no key. -/
theorem nodup_ofPairs (pairs : List (Text × Json)) : ((ofPairs pairs).map Prod.fst).Nodup := by
  have hfold : ∀ (pairs : List (Text × Json)) (members : Members),
      (members.map Prod.fst).Nodup →
      ((pairs.foldl (fun members pair => set pair.1 pair.2 members) members).map
        Prod.fst).Nodup := by
    intro pairs
    induction pairs with
    | nil => exact fun _ h => h
    | cons pair pairs ih => exact fun members h => ih _ (nodup_set h pair.1 pair.2)
  exact hfold pairs [] List.nodup_nil

/-- Every member of the object of pairs is one of the pairs. -/
theorem mem_ofPairs {pairs : List (Text × Json)} {m : Text × Json} (h : m ∈ ofPairs pairs) :
    m ∈ pairs := by
  have hfold : ∀ (pairs : List (Text × Json)) (members : Members),
      m ∈ pairs.foldl (fun members pair => set pair.1 pair.2 members) members →
      m ∈ members ∨ m ∈ pairs := by
    intro pairs
    induction pairs with
    | nil => exact fun _ h => .inl h
    | cons pair pairs ih =>
      intro members h
      rcases ih _ h with h | h
      · exact (mem_set h).elim (fun h => .inr (h ▸ List.mem_cons_self)) .inl
      · exact .inr (List.mem_cons_of_mem _ h)
  exact (hfold pairs [] h).resolve_left List.not_mem_nil

/-- Pairs that repeat no key are the members of their object. -/
theorem ofPairs_eq_self {pairs : List (Text × Json)} (h : (pairs.map Prod.fst).Nodup) :
    ofPairs pairs = pairs := by
  have hset : ∀ (key : Text) (value : Json) (members : Members), key ∉ members.map Prod.fst →
      set key value members = members ++ [(key, value)] := by
    intro key value members hkey
    induction members with
    | nil => rfl
    | cons m members ih =>
      simp only [List.map_cons, List.mem_cons, not_or] at hkey
      obtain ⟨k, v⟩ := m
      have hk : ¬k = key := fun h => hkey.1 h.symm
      rw [set, if_neg hk, ih hkey.2, List.cons_append]
  have hfold : ∀ (pairs : List (Text × Json)) (members : Members),
      ((members ++ pairs).map Prod.fst).Nodup →
      pairs.foldl (fun members pair => set pair.1 pair.2 members) members =
        members ++ pairs := by
    intro pairs
    induction pairs with
    | nil => simp
    | cons pair pairs ih =>
      intro members h
      obtain ⟨key, value⟩ := pair
      have hkey : key ∉ members.map Prod.fst := by
        intro hmem
        rw [List.map_append, List.map_cons, List.nodup_append] at h
        exact h.2.2 _ hmem _ List.mem_cons_self rfl
      simp only [List.foldl_cons]
      rw [hset _ _ _ hkey, ih _ (by simpa using h), List.append_assoc]
      rfl
  exact hfold pairs [] h

end Members

namespace Json

/-- The depth of a list of items is bounded if that of every item is. -/
theorem itemsDepth_le {items : List Json} {n : Nat} :
    itemsDepth items ≤ n ↔ ∀ v ∈ items, v.depth ≤ n := by
  induction items with
  | nil => simp [itemsDepth]
  | cons v items ih => simp [itemsDepth, ih]

/-- The depth of a list of members is bounded if that of every value is. -/
theorem membersDepth_le {members : List (Text × Json)} {n : Nat} :
    membersDepth members ≤ n ↔ ∀ m ∈ members, m.2.depth ≤ n := by
  induction members with
  | nil => simp [membersDepth]
  | cons m members ih =>
    obtain ⟨key, v⟩ := m
    simp [membersDepth, ih]

/-- The depth of an object is bounded if that of every value is. -/
theorem depth_object_le {members : Members} {n : Nat} :
    (object members).depth ≤ n + 1 ↔ ∀ m ∈ members, m.2.depth ≤ n := by
  rw [depth, Nat.add_le_add_iff_right, membersDepth_le]

/-- Giving a key a value nests an object no deeper than its other values and the new one. -/
theorem depth_set_le {members : Members} {n : Nat} (h : (object members).depth ≤ n + 1)
    {value : Json} (hvalue : value.depth ≤ n) (key : Text) :
    (object (Members.set key value members)).depth ≤ n + 1 := by
  refine depth_object_le.mpr fun m hm => ?_
  rcases Members.mem_set hm with rfl | hm
  · exact hvalue
  · exact depth_object_le.mp h m hm

/-- What an object has under a key is nested less deeply than the object. -/
theorem depth_lt_of_get? {members : Members} {key : Text} {v : Json}
    (h : members.get? key = some v) : v.depth < (object members).depth := by
  obtain ⟨before, after, rfl, -⟩ := List.lookup_eq_some_iff.mp h
  rw [depth, Nat.lt_succ_iff]
  exact membersDepth_le.mp (Nat.le_refl _) (key, v) (by simp)

/-- A part is nested no deeper than the whole. -/
theorem Part.depth_le {v w : Json} (h : Part v w) : v.depth ≤ w.depth := by
  induction h with
  | self => exact Nat.le_refl _
  | item hv _ ih => exact (ih.trans (itemsDepth_le.mp (Nat.le_refl _) _ hv)).trans (Nat.le_succ _)
  | member hm _ ih =>
    exact (ih.trans (membersDepth_le.mp (Nat.le_refl _) _ hm)).trans (Nat.le_succ _)

/-- What a number begins with are digits. -/
theorem wholePart_digits (t : Text) : ∀ c ∈ (wholePart t).1, c.isAsciiDigit = true := by
  unfold wholePart
  split
  · simp only [List.mem_singleton, forall_eq]
    decide
  · unfold spanDigits
    rw [List.span_eq_takeWhile_dropWhile]
    exact fun c hc => List.mem_takeWhile_imp hc

/-- What holds of a value without parts holds of all its parts. -/
theorem All.of_depth_eq_zero {p : Json → Prop} {v : Json} (h : p v) (hdepth : v.depth = 0) :
    v.All p := by
  cases v with
  | null => exact .of_null h
  | bool b => exact .of_bool h
  | integer n => exact .of_integer h
  | number x => exact .of_number h
  | text t => exact .of_text h
  | array items => cases hdepth
  | object members => cases hdepth

/-- A number that is read has no parts. -/
theorem depth_of_numeral {negative : Bool} {t rest : Text} {v : Json}
    (h : numeral negative t = .ok (v, rest)) : v.depth = 0 := by
  unfold numeral at h
  simp only at h
  split at h
  · cases h
  split at h
  · split at h
    · cases h
    · cases h
      rfl
  · cases h
    rfl

/-- A property of values that whatever is read has: words, numbers that are read, all texts, all
arrays, and objects that repeat no key. -/
structure IsRead (p : Json → Prop) : Prop where
  null : p .null
  bool : ∀ b, p (.bool b)
  nan : p (.number .nan)
  infinite : ∀ negative, p (.number (.infinite negative))
  numeral : ∀ negative t v rest, Json.numeral negative t = .ok (v, rest) → p v
  text : ∀ t, p (.text t)
  array : ∀ items, p (.array items)
  object : ∀ members, (members.map Prod.fst).Nodup → p (.object members)

/-- A scalar that is read has such a property, and no parts. -/
theorem IsRead.of_scalar {p : Json → Prop} (hp : IsRead p) {t rest : Text} {v : Json}
    (h : scalar t = .ok (v, rest)) : v.All p ∧ v.depth = 0 := by
  have hnumeral : ∀ {negative t}, Json.numeral negative t = .ok (v, rest) →
      v.All p ∧ v.depth = 0 := fun h =>
    ⟨.of_depth_eq_zero (hp.numeral _ _ _ _ h) (depth_of_numeral h), depth_of_numeral h⟩
  unfold scalar at h
  split at h
  · cases h; exact ⟨.of_null hp.null, rfl⟩
  · cases h; exact ⟨.of_bool (hp.bool true), rfl⟩
  · cases h; exact ⟨.of_bool (hp.bool false), rfl⟩
  · cases h; exact ⟨.of_number hp.nan, rfl⟩
  · cases h; exact ⟨.of_number (hp.infinite false), rfl⟩
  · cases h; exact ⟨.of_number (hp.infinite true), rfl⟩
  · split at h <;> exact hnumeral h

/-- With this fuel all parts of what is read have a property, and it is nested within the room that
is left. -/
structure ReadsAll (p : Json → Prop) (fuel : Nat) : Prop where
  value : ∀ {room t v rest}, Json.value fuel room t = .ok (v, rest) → v.All p ∧ v.depth ≤ room
  items : ∀ {room t vs rest}, Json.items fuel room t = .ok (vs, rest) →
    ∀ v ∈ vs, v.All p ∧ v.depth ≤ room
  pairs : ∀ {room t ms rest}, Json.pairs fuel room t = .ok (ms, rest) →
    ∀ m ∈ ms, m.2.All p ∧ m.2.depth ≤ room

/-- A value is read with one more unit of fuel than its parts. -/
theorem ReadsAll.value_succ {p : Json → Prop} (hp : IsRead p) {fuel : Nat} (h : ReadsAll p fuel)
    {room : Nat} {t rest : Text} {v : Json} (hread : Json.value (fuel + 1) room t = .ok (v, rest)) :
    v.All p ∧ v.depth ≤ room := by
  unfold Json.value at hread
  split at hread
  · split at hread
    · cases hread
      exact ⟨.of_text (hp.text _), Nat.zero_le _⟩
    · cases hread
  · cases hread
  · cases hread
  · split at hread
    · cases hread
      exact ⟨.of_items (hp.array _) (by simp), by simp [depth, itemsDepth]⟩
    · split at hread
      · rename_i hitems
        cases hread
        have hparts := h.items hitems
        exact ⟨.of_items (hp.array _) fun v hv => (hparts v hv).1,
          Nat.succ_le_succ (itemsDepth_le.mpr fun v hv => (hparts v hv).2)⟩
      · cases hread
  · split at hread
    · cases hread
      exact ⟨.of_members (hp.object _ List.nodup_nil) (by simp), by simp [depth, membersDepth]⟩
    · split at hread
      · rename_i hpairs
        cases hread
        have hparts := h.pairs hpairs
        exact ⟨.of_members (hp.object _ (Members.nodup_ofPairs _))
            fun m hm => (hparts m (Members.mem_ofPairs hm)).1,
          Nat.succ_le_succ (membersDepth_le.mpr fun m hm =>
            (hparts m (Members.mem_ofPairs hm)).2)⟩
      · cases hread
  · obtain ⟨hall, hdepth⟩ := hp.of_scalar hread
    exact ⟨hall, by omega⟩

/-- Items are read with one more unit of fuel than the first of them and those behind it. -/
theorem ReadsAll.items_succ {p : Json → Prop} {fuel : Nat} (h : ReadsAll p fuel) {room : Nat}
    {t rest : Text} {vs : List Json} (hread : Json.items (fuel + 1) room t = .ok (vs, rest)) :
    ∀ v ∈ vs, v.All p ∧ v.depth ≤ room := by
  unfold Json.items at hread
  split at hread
  · cases hread
  · rename_i hvalue
    have hfirst := h.value hvalue
    split at hread
    · cases hread
      simpa using hfirst
    · split at hread
      · rename_i hmore
        cases hread
        exact List.forall_mem_cons.mpr ⟨hfirst, h.items hmore⟩
      · cases hread
    · cases hread

/-- Members are read with one more unit of fuel than the first of them and those behind it. -/
theorem ReadsAll.pairs_succ {p : Json → Prop} {fuel : Nat} (h : ReadsAll p fuel) {room : Nat}
    {t rest : Text} {ms : List (Text × Json)}
    (hread : Json.pairs (fuel + 1) room t = .ok (ms, rest)) :
    ∀ m ∈ ms, m.2.All p ∧ m.2.depth ≤ room := by
  unfold Json.pairs at hread
  split at hread
  · split at hread
    · cases hread
    · split at hread
      · split at hread
        · cases hread
        · rename_i hvalue
          have hfirst := h.value hvalue
          split at hread
          · cases hread
            simpa using hfirst
          · split at hread
            · rename_i hmore
              cases hread
              exact List.forall_mem_cons.mpr ⟨hfirst, h.pairs hmore⟩
            · cases hread
          · cases hread
      · cases hread
  · cases hread

/-- Whatever the fuel, all parts of what is read have such a property. -/
theorem IsRead.readsAll {p : Json → Prop} (hp : IsRead p) (fuel : Nat) : ReadsAll p fuel := by
  induction fuel with
  | zero =>
    constructor <;> intro room t _ rest hread
    · cases hread
    · cases hread
    · cases hread
  | succ fuel ih => exact ⟨ih.value_succ hp, ih.items_succ, ih.pairs_succ⟩

/-- All parts of a document that is read have such a property, and it is nested no deeper than the
limit. -/
theorem IsRead.of_parse {p : Json → Prop} (hp : IsRead p) {t : Text} {v : Json}
    (h : parse t = .ok v) : v.All p ∧ v.depth ≤ maxDepth := by
  unfold parse at h
  split at h
  · cases h
  · rename_i hread
    split at h
    · cases h
      exact (hp.readsAll _).value hread
    · cases h

/-- A number that is read is an integer of few enough digits or a double. -/
theorem isRegularNode_of_numeral {negative : Bool} {t rest : Text} {v : Json}
    (h : numeral negative t = .ok (v, rest)) : IsRegularNode v := by
  have hdigits := wholePart_digits t
  unfold numeral at h
  simp only at h
  split at h
  · cases h
  split at h
  · split at h
    · cases h
    · rename_i hlength
      cases h
      have hvalue := Text.digitsValue_lt hdigits
      have hlength := Text.length_ofNat_le (k := Text.maxDigits) (by decide)
        (Nat.lt_of_lt_of_le hvalue (Nat.pow_le_pow_right (by decide) (Nat.not_lt.mp hlength)))
      show (Text.ofNat (Int.natAbs _)).length ≤ _
      split <;> simpa using hlength
  · cases h
    trivial

/-- Whatever is read is regular. -/
theorem isRead_regular : IsRead IsRegularNode where
  null := trivial
  bool _ := trivial
  nan := trivial
  infinite _ := trivial
  numeral _ _ _ _ h := isRegularNode_of_numeral h
  text _ := trivial
  array _ := trivial
  object _ h := h

/-- A document that is read is regular. -/
theorem regular_of_parse {t : Text} {v : Json} (h : parse t = .ok v) : v.Regular :=
  (isRead_regular.of_parse h).1

/-- A document that is read is nested no deeper than the limit. -/
theorem depth_le_of_parse {t : Text} {v : Json} (h : parse t = .ok v) : v.depth ≤ maxDepth :=
  (isRead_regular.of_parse h).2

end Json

end Toolsmith
