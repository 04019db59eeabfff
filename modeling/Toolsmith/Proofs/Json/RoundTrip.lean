import Toolsmith.Proofs.Json.Reading
import Toolsmith.Proofs.Json.Strings

/-!
# Documents that are written are read back

A document is read back from both forms in which it is written. Its texts, keys, integers and its
order stay as they are, and so do the doubles of whatever has been read. The form of files keeps
lone surrogates, and the form of one line is only for documents without them.
-/

namespace Toolsmith

namespace Json

mutual

/-- The value that is read where a value has been written. -/
def reread : Json → Json
  | number x => number x.reread
  | array items => array (rereadItems items)
  | object members => object (rereadMembers members)
  | v => v

/-- The items that are read where items have been written. -/
def rereadItems : List Json → List Json
  | [] => []
  | v :: rest => reread v :: rereadItems rest

/-- The members that are read where members have been written. -/
def rereadMembers : List (Text × Json) → List (Text × Json)
  | [] => []
  | (key, v) :: rest => (key, reread v) :: rereadMembers rest

end

/-- The items that are read are those of the items. -/
theorem rereadItems_eq_map (items : List Json) : rereadItems items = items.map reread := by
  induction items with
  | nil => rfl
  | cons v items ih => rw [rereadItems, ih, List.map_cons]

/-- The members that are read have the keys as they were. -/
theorem rereadMembers_eq_map (members : Members) :
    rereadMembers members = members.map fun m => (m.1, m.2.reread) := by
  induction members with
  | nil => rfl
  | cons m members ih =>
    obtain ⟨key, v⟩ := m
    rw [rereadMembers, ih, List.map_cons]

/-- The keys that are read are those that were written. -/
theorem keys_rereadMembers (members : Members) :
    (rereadMembers members).map Prod.fst = members.map Prod.fst := by
  rw [rereadMembers_eq_map, List.map_map]
  rfl

/-- A number that is read as itself, or any other value. -/
def IsStableNode : Json → Prop
  | number x => x.reread = x
  | _ => True

/-- A value all of whose doubles are read as they were written. -/
def Stable (v : Json) : Prop :=
  v.All IsStableNode

/-- A value whose doubles survive is read back as it was. -/
theorem reread_eq_self (v : Json) (h : v.Stable) : v.reread = v := by
  induction v using induction_parts with
  | null => rfl
  | bool b => rfl
  | integer n => rfl
  | number x => exact congrArg number h.self
  | text t => rfl
  | array items ih =>
    have hitems : items.map reread = items := by
      rw [List.map_congr_left fun v hv => ih v hv (h.item hv), List.map_id']
    rw [reread, rereadItems_eq_map, hitems]
  | object members ih =>
    have hmembers : members.map (fun m => (m.1, m.2.reread)) = members := by
      rw [List.map_congr_left fun m hm => congrArg (Prod.mk m.1) (ih m hm (h.member hm)),
        List.map_id']
    rw [reread, rereadMembers_eq_map, hmembers]

/-- A number that is read is read as itself where it has been written. -/
theorem isStableNode_of_numeral {negative : Bool} {t rest : Text} {v : Json}
    (h : numeral negative t = .ok (v, rest)) : IsStableNode v := by
  unfold numeral at h
  simp only at h
  split at h
  · cases h
  split at h
  · split at h
    · cases h
    · cases h
      trivial
  · cases h
    exact reread_eq_of_isValid (Binary64.isValid_ofDecimal _ _ _)

/-- The doubles of whatever is read survive. -/
theorem isRead_stable : IsRead IsStableNode where
  null := trivial
  bool _ := trivial
  nan := rfl
  infinite negative := reread_eq_of_isValid (x := .infinite negative) trivial
  numeral _ _ _ _ h := isStableNode_of_numeral h
  text _ := trivial
  array _ := trivial
  object _ _ := trivial

/-- The doubles of a document that is read survive. -/
theorem stable_of_parse {t : Text} {v : Json} (h : parse t = .ok v) : v.Stable :=
  (isRead_stable.of_parse h).1

/-- A code point with which a word or a number may begin. -/
def StartsScalar (c : CodePoint) : Prop :=
  c.isAsciiDigit = true ∨
    c ∈ [CodePoint.char 'n', .char 't', .char 'f', .char 'N', .char 'I', .char '-']

/-- What follows a word was preceded by it. -/
theorem head_of_afterWord? {word : String} {first : CodePoint} {letters t rest : Text}
    (hword : Text.ofString word = first :: letters) (h : afterWord? word t = some rest) :
    t.head? = some first :=
  Classical.not_not.mp fun hne => by rw [afterWord?_eq_none word hword hne] at h; cases h

/-- A number begins with a digit. -/
theorem head_of_numeral {negative : Bool} {t rest : Text} {v : Json}
    (h : numeral negative t = .ok (v, rest)) : ∃ c ∈ t.head?, c.isAsciiDigit = true := by
  have hwhole : (wholePart t).1 ≠ [] := by
    intro hempty
    unfold numeral at h
    simp only [hempty, List.isEmpty_nil, if_true] at h
    cases h
  unfold wholePart at hwhole
  split at hwhole
  · exact ⟨.char '0', rfl, by decide⟩
  · unfold spanDigits at hwhole
    rw [List.span_eq_takeWhile_dropWhile] at hwhole
    cases t with
    | nil => exact absurd rfl hwhole
    | cons c t =>
      refine ⟨c, rfl, ?_⟩
      by_contra hc
      simp [hc] at hwhole

/-- A word or a number begins with one of few code points. -/
theorem head_of_scalar {t rest : Text} {v : Json} (h : scalar t = .ok (v, rest)) :
    ∃ c ∈ t.head?, StartsScalar c := by
  unfold scalar at h
  split at h
  · exact ⟨.char 'n', head_of_afterWord? rfl ‹_›, .inr (by decide)⟩
  · exact ⟨.char 't', head_of_afterWord? rfl ‹_›, .inr (by decide)⟩
  · exact ⟨.char 'f', head_of_afterWord? rfl ‹_›, .inr (by decide)⟩
  · exact ⟨.char 'N', head_of_afterWord? rfl ‹_›, .inr (by decide)⟩
  · exact ⟨.char 'I', head_of_afterWord? rfl ‹_›, .inr (by decide)⟩
  · exact ⟨.char '-', head_of_afterWord? rfl ‹_›, .inr (by decide)⟩
  · split at h
    · exact ⟨_, rfl, .inr (by decide)⟩
    · obtain ⟨c, hc, hdigit⟩ := head_of_numeral h
      exact ⟨c, hc, .inl hdigit⟩

/-- A code point with which a word or a number begins is no blank, quote or bracket. -/
theorem StartsScalar.ne {c d : CodePoint} (hc : StartsScalar c)
    (hd : d ∈ [CodePoint.char '"', .char '[', .char '\x7b', .char ']', .char '\x7d', .char ' ',
      .char '\t', .char '\n', .char '\r']) : c ≠ d := by
  rintro rfl
  rcases hc with hc | hc
  · revert hc
    revert c
    decide
  · revert hc
    revert c
    decide

/-- A code point with which a word or a number begins is no blank. -/
theorem StartsScalar.isGap {c : CodePoint} (hc : StartsScalar c) : Json.isGap c = false := by
  unfold Json.isGap
  simp [hc.ne (d := .char ' ') (by decide), hc.ne (d := .char '\t') (by decide),
    hc.ne (d := .char '\n') (by decide), hc.ne (d := .char '\r') (by decide)]

/-- A value that begins as a word or a number is read as one. -/
theorem value_eq_scalar {t : Text} (h : ∃ c ∈ t.head?, StartsScalar c) (fuel room : Nat) :
    value (fuel + 1) room t = scalar t := by
  obtain ⟨c, hc, hstart⟩ := h
  unfold value
  split
  · exact absurd (Option.some.inj hc).symm (hstart.ne (by decide))
  · exact absurd (Option.some.inj hc).symm (hstart.ne (by decide))
  · exact absurd (Option.some.inj hc).symm (hstart.ne (by decide))
  · exact absurd (Option.some.inj hc).symm (hstart.ne (by decide))
  · exact absurd (Option.some.inj hc).symm (hstart.ne (by decide))
  · rfl

/-- A word or a number is a value. -/
theorem value_scalar {t rest : Text} {v : Json} (h : scalar t = .ok (v, rest)) (fuel room : Nat) :
    value (fuel + 1) room t = .ok (v, rest) :=
  (value_eq_scalar (head_of_scalar h) fuel room).trans h

/-- A value begins with no blank and no closing bracket. -/
theorem head_of_value {fuel room : Nat} {t rest : Text} {v : Json}
    (h : value fuel room t = .ok (v, rest)) :
    ∃ c ∈ t.head?, isGap c = false ∧ c ≠ .char ']' := by
  cases fuel with
  | zero => cases h
  | succ fuel =>
    unfold value at h
    split at h
    · exact ⟨_, rfl, by decide, by decide⟩
    · cases h
    · cases h
    · exact ⟨_, rfl, by decide, by decide⟩
    · exact ⟨_, rfl, by decide, by decide⟩
    · obtain ⟨c, hc, hstart⟩ := head_of_scalar h
      exact ⟨c, hc, hstart.isGap, hstart.ne (by decide)⟩

/-- The items of an array begin with no blank and no closing bracket. -/
theorem head_of_items {fuel room : Nat} {t rest : Text} {vs : List Json}
    (h : items fuel room t = .ok (vs, rest)) :
    ∃ c ∈ t.head?, isGap c = false ∧ c ≠ .char ']' := by
  cases fuel with
  | zero => cases h
  | succ fuel =>
    unfold items at h
    split at h
    · cases h
    · exact head_of_value ‹_›

/-- Blanks are passed over up to a code point that is none. -/
theorem skipGap_append (gaps : Text) {t : Text} (hgaps : ∀ c ∈ gaps, isGap c = true)
    (ht : ∀ c ∈ t.head?, isGap c = false) : skipGap (gaps ++ t) = t := by
  unfold skipGap
  rw [List.dropWhile_append_of_pos hgaps]
  cases t with
  | nil => rfl
  | cons c t => rw [List.dropWhile_cons_of_neg (by simp [ht c rfl])]

namespace Layout

/-- What stands at the edge of a container is blank. -/
theorem isGap_of_mem_edge {layout : Layout} {depth : Nat} {c : CodePoint}
    (h : c ∈ layout.edge depth) : isGap c = true := by
  unfold edge at h
  split at h
  · rcases List.mem_cons.mp h with rfl | h
    · rfl
    · rw [List.eq_of_mem_replicate h]
      rfl
  · cases h

/-- What stands between parts is a comma and blanks. -/
theorem comma_eq (layout : Layout) (depth : Nat) :
    ∃ gaps, layout.comma depth = .char ',' :: gaps ∧ ∀ c ∈ gaps, isGap c = true := by
  refine ⟨_, rfl, fun c hc => ?_⟩
  split at hc
  · rename_i hbroken
    have hedge : c ∈ layout.edge depth := by rwa [edge, if_pos hbroken]
    exact isGap_of_mem_edge hedge
  · rw [List.mem_singleton.mp hc]
    rfl

/-- A number ends where the edge of a container and a bracket follow. -/
theorem endsNumber_edge (layout : Layout) (depth : Nat) {c : CodePoint} (after : Text)
    (hc : c = .char ']' ∨ c = .char '\x7d') : EndsNumber (layout.edge depth ++ c :: after) := by
  unfold edge
  split
  · intro d hd
    cases hd
    decide
  · intro d hd
    cases hd
    rcases hc with rfl | rfl <;> decide

end Layout

mutual

/-- The text after a value is where it ends. -/
theorem written_eq_append (layout : Layout) (depth : Nat) (after : Text) :
    ∀ v : Json, written layout depth after v = written layout depth [] v ++ after
  | .array [] => rfl
  | .array (v :: rest) => by
    rw [written, written, written_eq_append layout (depth + 1) (writtenItems _ _ after rest) v,
      writtenItems_eq_append layout depth after rest,
      written_eq_append layout (depth + 1) (writtenItems _ _ [] rest) v]
    simp only [List.append_assoc]
  | .object [] => rfl
  | .object ((key, v) :: rest) => by
    rw [written, written, written_eq_append layout (depth + 1) (writtenMembers _ _ after rest) v,
      writtenMembers_eq_append layout depth after rest,
      written_eq_append layout (depth + 1) (writtenMembers _ _ [] rest) v]
    simp only [List.append_assoc]
  | .null => by simp [written]
  | .bool b => by simp [written]
  | .integer n => by simp [written]
  | .number x => by simp [written]
  | .text t => by simp [written]

/-- The text after an array is where its items end. -/
theorem writtenItems_eq_append (layout : Layout) (depth : Nat) (after : Text) :
    ∀ items : List Json,
      writtenItems layout depth after items = writtenItems layout depth [] items ++ after
  | [] => by simp [writtenItems]
  | v :: rest => by
    rw [writtenItems, writtenItems,
      written_eq_append layout (depth + 1) (writtenItems _ _ after rest) v,
      writtenItems_eq_append layout depth after rest,
      written_eq_append layout (depth + 1) (writtenItems _ _ [] rest) v]
    simp only [List.append_assoc]

/-- The text after an object is where its members end. -/
theorem writtenMembers_eq_append (layout : Layout) (depth : Nat) (after : Text) :
    ∀ members : List (Text × Json),
      writtenMembers layout depth after members = writtenMembers layout depth [] members ++ after
  | [] => by simp [writtenMembers]
  | (key, v) :: rest => by
    rw [writtenMembers, writtenMembers,
      written_eq_append layout (depth + 1) (writtenMembers _ _ after rest) v,
      writtenMembers_eq_append layout depth after rest,
      written_eq_append layout (depth + 1) (writtenMembers _ _ [] rest) v]
    simp only [List.append_assoc]

end

/-- What stands after a value is no longer than both together. -/
theorem length_le_written (layout : Layout) (depth : Nat) (after : Text) (v : Json) :
    after.length ≤ (written layout depth after v).length := by
  rw [written_eq_append, List.length_append]
  omega

/-- What follows the first item of an array ends a number. -/
theorem endsNumber_writtenItems (layout : Layout) (depth : Nat) (after : Text)
    (rest : List Json) : EndsNumber (writtenItems layout depth after rest) := by
  cases rest with
  | nil => exact layout.endsNumber_edge depth after (.inl rfl)
  | cons v rest =>
    obtain ⟨gaps, hcomma, -⟩ := layout.comma_eq (depth + 1)
    rw [writtenItems, hcomma]
    rintro c ⟨⟩
    decide

/-- What follows the first member of an object ends a number. -/
theorem endsNumber_writtenMembers (layout : Layout) (depth : Nat) (after : Text)
    (rest : List (Text × Json)) : EndsNumber (writtenMembers layout depth after rest) := by
  cases rest with
  | nil => exact layout.endsNumber_edge depth after (.inr rfl)
  | cons m rest =>
    obtain ⟨gaps, hcomma, -⟩ := layout.comma_eq (depth + 1)
    obtain ⟨key, v⟩ := m
    rw [writtenMembers, hcomma]
    rintro c ⟨⟩
    decide

/-- A value is read back, whatever stands after it, if there is room for its depth. Every code
point of its text takes at most two steps. -/
def ReadsBack (layout : Layout) (v : Json) : Prop :=
  ∀ depth after fuel room, EndsNumber after → v.depth ≤ room →
    2 * (written layout depth after v).length ≤ fuel →
    value fuel room (written layout depth after v) = .ok (v.reread, after)

/-- A value without parts is read back if it is read as a word or a number. -/
theorem ReadsBack.of_scalar {layout : Layout} {v : Json}
    (hwritten : ∀ depth after, written layout depth after v = scalarText layout.plain v ++ after)
    (hscalar : ∀ after, EndsNumber after →
      scalar (scalarText layout.plain v ++ after) = .ok (v.reread, after)) :
    ReadsBack layout v := by
  intro depth after fuel room hafter _ hfuel
  have hread := hscalar after hafter
  obtain ⟨c, hc, -⟩ := head_of_scalar hread
  have hlength : 0 < (scalarText layout.plain v ++ after).length := by
    refine List.length_pos_iff.mpr fun hnil => ?_
    rw [hnil] at hc
    cases hc
  rw [hwritten] at hfuel ⊢
  obtain ⟨fuel, rfl⟩ : ∃ n, fuel = n + 1 := ⟨fuel - 1, by omega⟩
  exact value_scalar hread fuel room

/-- A string is read back. On a line of ASCII it has to have an encoding. -/
theorem ReadsBack.of_text {layout : Layout} {t : Text}
    (h : layout.plain = true ∨ (Text.encode t).isSome = true) : ReadsBack layout (.text t) := by
  intro depth after fuel room _ _ hfuel
  have hlong := length_le_flatMap_escapePoint layout.plain t
  have hwritten : written layout depth after (.text t) =
      .char '"' :: (t.flatMap (escapePoint layout.plain) ++ .char '"' :: after) := by
    simp [written, scalarText, stringText]
  rw [hwritten] at hfuel ⊢
  simp only [List.length_cons, List.length_append] at hfuel
  obtain ⟨fuel, rfl⟩ : ∃ n, fuel = n + 1 := ⟨fuel - 1, by omega⟩
  have hroom : t.length < fuel := by omega
  have hbody := stringBody_stringText h hroom after
  unfold value
  simp only [hbody]
  rfl

/-- A string takes more places than it has code points. -/
theorem length_lt_stringText (plain : Bool) (t : Text) : t.length < (stringText plain t).length := by
  have hlong := length_le_flatMap_escapePoint plain t
  simp only [stringText, List.length_append, List.length_cons]
  omega

/-- Between two parts stand a comma and blanks. -/
theorem skipGap_comma (layout : Layout) (depth : Nat) {t : Text}
    (ht : ∀ c ∈ t.head?, isGap c = false) :
    ∃ rest, skipGap (layout.comma depth ++ t) = .char ',' :: rest ∧ skipGap rest = t := by
  obtain ⟨gaps, hcomma, hgaps⟩ := layout.comma_eq depth
  refine ⟨gaps ++ t, ?_, skipGap_append gaps hgaps ht⟩
  rw [hcomma]
  exact skipGap_append [] (by simp) (by rintro c ⟨⟩; rfl)

/-- What stands between two parts is not empty. -/
theorem Layout.length_comma_pos (layout : Layout) (depth : Nat) :
    0 < (layout.comma depth).length :=
  Nat.succ_pos _

/-- An integer begins as a number. -/
theorem head_of_ofInt (n : Int) (after : Text) :
    ∃ c ∈ (Text.ofInt n ++ after).head?, StartsScalar c := by
  cases n with
  | ofNat m =>
    obtain ⟨c, digits, heq, hc⟩ := exists_ofNat_eq_cons m
    exact ⟨c, by simp [Text.ofInt, heq], .inl hc⟩
  | negSucc m => exact ⟨.char '-', rfl, .inr (by decide)⟩

/-- What is written for a value begins with no blank and no closing bracket. -/
theorem head_of_written (layout : Layout) (depth : Nat) (after : Text) (v : Json) :
    ∃ c ∈ (written layout depth after v).head?, isGap c = false ∧ c ≠ .char ']' := by
  cases v with
  | null => exact ⟨_, rfl, by decide, by decide⟩
  | bool b => cases b <;> exact ⟨_, rfl, by decide, by decide⟩
  | integer n =>
    obtain ⟨c, hc, hstart⟩ := head_of_ofInt n after
    exact ⟨c, hc, hstart.isGap, hstart.ne (by decide)⟩
  | number x =>
    obtain ⟨y, -, hread⟩ := exists_scalar_render x
    obtain ⟨c, hc, hstart⟩ := head_of_scalar (hread [] (by rintro c ⟨⟩))
    rw [List.append_nil] at hc
    refine ⟨c, ?_, hstart.isGap, hstart.ne (by decide)⟩
    rw [written, scalarText, List.head?_append, hc]
    all_goals simp
  | text t => exact ⟨.char '"', rfl, by decide, by decide⟩
  | array items => cases items <;> exact ⟨.char '[', rfl, by decide, by decide⟩
  | object members => cases members <;> exact ⟨.char '\x7b', rfl, by decide, by decide⟩

/-- Between two items stand a comma and blanks. -/
theorem skipGap_writtenItems (layout : Layout) (depth : Nat) (after : Text) (w : Json)
    (rest : List Json) :
    ∃ tail, skipGap (writtenItems layout depth after (w :: rest)) = .char ',' :: tail ∧
      skipGap tail = written layout (depth + 1) (writtenItems layout depth after rest) w := by
  obtain ⟨c, hc, hgap, -⟩ := head_of_written layout (depth + 1)
    (writtenItems layout depth after rest) w
  rw [writtenItems]
  exact skipGap_comma layout (depth + 1) fun d hd => Option.mem_unique hc hd ▸ hgap

/-- A comma before an item makes a text longer. -/
theorem length_lt_writtenItems (layout : Layout) (depth : Nat) (after : Text) (w : Json)
    (rest : List Json) :
    (written layout (depth + 1) (writtenItems layout depth after rest) w).length <
      (writtenItems layout depth after (w :: rest)).length := by
  have hcomma := layout.length_comma_pos (depth + 1)
  rw [writtenItems, List.length_append]
  omega

/-- Between two members stand a comma and blanks. -/
theorem skipGap_writtenMembers (layout : Layout) (depth : Nat) (after key : Text) (v : Json)
    (rest : List (Text × Json)) :
    ∃ tail, skipGap (writtenMembers layout depth after ((key, v) :: rest)) = .char ',' :: tail ∧
      skipGap tail = stringText layout.plain key ++ Text.ofString ": " ++
        written layout (depth + 1) (writtenMembers layout depth after rest) v := by
  rw [writtenMembers, List.append_assoc, List.append_assoc, ← List.append_assoc (stringText _ _)]
  exact skipGap_comma layout (depth + 1) (by rintro c ⟨⟩; rfl)

/-- A comma before a member makes a text longer. -/
theorem length_lt_writtenMembers (layout : Layout) (depth : Nat) (after key : Text) (v : Json)
    (rest : List (Text × Json)) :
    (stringText layout.plain key ++ Text.ofString ": " ++
        written layout (depth + 1) (writtenMembers layout depth after rest) v).length <
      (writtenMembers layout depth after ((key, v) :: rest)).length := by
  have hcomma := layout.length_comma_pos (depth + 1)
  rw [writtenMembers]
  simp only [List.length_append]
  omega

/-- Items are read back if each of them is. -/
theorem items_written {layout : Layout} {depth room : Nat} {after : Text} {v : Json}
    {rest : List Json} (h : ∀ w ∈ v :: rest, ReadsBack layout w ∧ w.depth ≤ room) {fuel : Nat}
    (hfuel : 2 * (written layout (depth + 1) (writtenItems layout depth after rest) v).length + 1 ≤
      fuel) :
    items fuel room (written layout (depth + 1) (writtenItems layout depth after rest) v) =
      .ok (rereadItems (v :: rest), after) := by
  induction rest generalizing v fuel with
  | nil =>
    obtain ⟨fuel, rfl⟩ : ∃ n, fuel = n + 1 := ⟨fuel - 1, by omega⟩
    obtain ⟨hv, hdepth⟩ := h v List.mem_cons_self
    have hvalue := hv (depth + 1) _ fuel room (endsNumber_writtenItems layout depth after [])
      hdepth (by omega)
    have hend : skipGap (writtenItems layout depth after []) = .char ']' :: after :=
      skipGap_append _ (fun _ => Layout.isGap_of_mem_edge) (by rintro c ⟨⟩; rfl)
    unfold items
    simp only [hvalue, hend]
    rfl
  | cons w rest ih =>
    obtain ⟨fuel, rfl⟩ : ∃ n, fuel = n + 1 := ⟨fuel - 1, by omega⟩
    obtain ⟨hv, hdepth⟩ := h v List.mem_cons_self
    have hlonger := length_le_written layout (depth + 1)
      (writtenItems layout depth after (w :: rest)) v
    have hvalue := hv (depth + 1) _ fuel room
      (endsNumber_writtenItems layout depth after (w :: rest)) hdepth (by omega)
    have hlength := length_lt_writtenItems layout depth after w rest
    have hmorefuel : 2 * (written layout (depth + 1) (writtenItems layout depth after rest)
        w).length + 1 ≤ fuel := by
      omega
    have hmore := ih (fun u hu => h u (List.mem_cons_of_mem _ hu)) hmorefuel
    obtain ⟨tail, hskip, hstart⟩ := skipGap_writtenItems layout depth after w rest
    unfold items
    simp only [hvalue, hskip, hstart, hmore]
    rfl

/-- A member is read by its key and its value, and then by what stands after it. -/
theorem pairs_key {plain : Bool} {key t : Text} {fuel : Nat} (room : Nat)
    (h : plain = true ∨ (Text.encode key).isSome = true) (hfuel : key.length < fuel)
    (ht : ∃ c ∈ t.head?, isGap c = false) :
    pairs (fuel + 1) room (stringText plain key ++ Text.ofString ": " ++ t) =
      match value fuel room t with
      | .error defect => .error defect
      | .ok (v, rest) =>
        match skipGap rest with
        | .char '\x7d' :: rest => .ok ([(key, v)], rest)
        | .char ',' :: rest =>
          match pairs fuel room (skipGap rest) with
          | .ok (ms, rest) => .ok ((key, v) :: ms, rest)
          | .error defect => .error defect
        | _ => .error .malformed := by
  obtain ⟨c, hc, hgap⟩ := ht
  have hbody := stringBody_stringText h hfuel (.char ':' :: .char ' ' :: t)
  have hstart : skipGap (.char ' ' :: t) = t :=
    skipGap_append [.char ' '] (by decide) fun d hd => Option.mem_unique hc hd ▸ hgap
  have htext : stringText plain key ++ Text.ofString ": " ++ t =
      .char '"' :: (key.flatMap (escapePoint plain) ++ .char '"' :: .char ':' :: .char ' ' :: t) := by
    simp [stringText, Text.ofString]
  have hvalue : value fuel room t = value fuel room (skipGap (.char ' ' :: t)) := by rw [hstart]
  rw [htext, pairs, hbody, hvalue]
  rfl

/-- The members of an object are read back if each of their values is. On a line of ASCII the keys
have to have an encoding. -/
theorem pairs_written {layout : Layout} {depth room : Nat} {after key : Text} {v : Json}
    {rest : List (Text × Json)}
    (h : ∀ m ∈ (key, v) :: rest, ReadsBack layout m.2 ∧ m.2.depth ≤ room)
    (hkeys : ∀ m ∈ (key, v) :: rest, layout.plain = true ∨ (Text.encode m.1).isSome = true)
    {fuel : Nat}
    (hfuel : 2 * (stringText layout.plain key ++ Text.ofString ": " ++
      written layout (depth + 1) (writtenMembers layout depth after rest) v).length + 1 ≤ fuel) :
    pairs fuel room (stringText layout.plain key ++ Text.ofString ": " ++
      written layout (depth + 1) (writtenMembers layout depth after rest) v) =
      .ok (rereadMembers ((key, v) :: rest), after) := by
  induction rest generalizing key v fuel with
  | nil =>
    obtain ⟨fuel, rfl⟩ : ∃ n, fuel = n + 1 := ⟨fuel - 1, by omega⟩
    obtain ⟨hv, hdepth⟩ : ReadsBack layout v ∧ v.depth ≤ room := h _ List.mem_cons_self
    have hlong := length_lt_stringText layout.plain key
    simp only [List.length_append] at hfuel
    have hkeyfuel : key.length < fuel := by omega
    have hvalue := hv (depth + 1) _ fuel room (endsNumber_writtenMembers layout depth after [])
      hdepth (by omega)
    have hend : skipGap (writtenMembers layout depth after []) = .char '\x7d' :: after :=
      skipGap_append _ (fun _ => Layout.isGap_of_mem_edge) (by rintro c ⟨⟩; rfl)
    obtain ⟨c, hc, hgap, -⟩ := head_of_value hvalue
    rw [pairs_key room (hkeys (key, v) List.mem_cons_self) hkeyfuel ⟨c, hc, hgap⟩]
    simp only [hvalue, hend]
    rfl
  | cons m rest ih =>
    obtain ⟨fuel, rfl⟩ : ∃ n, fuel = n + 1 := ⟨fuel - 1, by omega⟩
    obtain ⟨other, w⟩ := m
    obtain ⟨hv, hdepth⟩ : ReadsBack layout v ∧ v.depth ≤ room := h _ List.mem_cons_self
    have hlong := length_lt_stringText layout.plain key
    have hlonger := length_le_written layout (depth + 1)
      (writtenMembers layout depth after ((other, w) :: rest)) v
    simp only [List.length_append] at hfuel
    have hkeyfuel : key.length < fuel := by omega
    have hvalue := hv (depth + 1) _ fuel room
      (endsNumber_writtenMembers layout depth after ((other, w) :: rest)) hdepth (by omega)
    have hlength := length_lt_writtenMembers layout depth after other w rest
    have hmorefuel : 2 * (stringText layout.plain other ++ Text.ofString ": " ++
        written layout (depth + 1) (writtenMembers layout depth after rest) w).length + 1 ≤
          fuel := by
      omega
    have hmore := ih (fun m hm => h m (List.mem_cons_of_mem _ hm))
      (fun m hm => hkeys m (List.mem_cons_of_mem _ hm)) hmorefuel
    obtain ⟨tail, hskip, hstart⟩ := skipGap_writtenMembers layout depth after other w rest
    obtain ⟨c, hc, hgap, -⟩ := head_of_value hvalue
    rw [pairs_key room (hkeys (key, v) List.mem_cons_self) hkeyfuel ⟨c, hc, hgap⟩]
    simp only [hvalue, hskip, hstart, hmore]
    rfl

/-- An array is read by its items. -/
theorem value_array {fuel room : Nat} {t after : Text} {vs : List Json}
    (h : items fuel room (skipGap t) = .ok (vs, after)) :
    value (fuel + 1) (room + 1) (.char '[' :: t) = .ok (.array vs, after) := by
  obtain ⟨c, hc, -, hne⟩ := head_of_items h
  have hopen : ∀ rest, skipGap t ≠ .char ']' :: rest := by
    intro rest heq
    rw [heq] at hc
    exact hne (Option.some.inj hc).symm
  rw [value]
  split
  · rename_i heq
    exact absurd heq (hopen _)
  · rw [h]

/-- An object is read by its members. -/
theorem value_object {fuel room : Nat} {t after : Text} {ms : List (Text × Json)}
    (h : pairs fuel room (skipGap t) = .ok (ms, after)) :
    value (fuel + 1) (room + 1) (.char '\x7b' :: t) =
      .ok (.object (Members.ofPairs ms), after) := by
  have hopen : ∀ rest, skipGap t ≠ .char '\x7d' :: rest := by
    intro rest heq
    rw [heq] at h
    cases fuel <;> cases h
  rw [value]
  split
  · rename_i heq
    exact absurd heq (hopen _)
  · rw [h]

/-- An array is read back if each of its items is. -/
theorem ReadsBack.of_items {layout : Layout} {items : List Json}
    (h : ∀ v ∈ items, ReadsBack layout v) : ReadsBack layout (.array items) := by
  intro depth after fuel room _ hroom hfuel
  obtain ⟨room, rfl⟩ : ∃ n, room = n + 1 := ⟨room - 1, by rw [Json.depth] at hroom; omega⟩
  have hitems := itemsDepth_le.mp (Nat.le_of_succ_le_succ hroom)
  cases items with
  | nil =>
    obtain ⟨fuel, rfl⟩ : ∃ n, fuel = n + 1 := ⟨fuel - 1, by
      rw [written] at hfuel
      simp [Text.ofString] at hfuel
      omega⟩
    rfl
  | cons v rest =>
    obtain ⟨fuel, rfl⟩ : ∃ n, fuel = n + 1 := ⟨fuel - 1, by
      rw [written] at hfuel
      simp at hfuel
      omega⟩
    rw [written] at hfuel ⊢
    simp only [List.cons_append, List.length_cons, List.length_append] at hfuel ⊢
    have hread : Json.items fuel room
        (written layout (depth + 1) (writtenItems layout depth after rest) v) =
          .ok (rereadItems (v :: rest), after) :=
      items_written (fun w hw => ⟨h w hw, hitems w hw⟩) (by omega)
    obtain ⟨c, hc, hgap, -⟩ := head_of_items hread
    refine value_array ?_
    rw [skipGap_append _ (fun _ => Layout.isGap_of_mem_edge)
      fun d hd => Option.mem_unique hc hd ▸ hgap]
    exact hread

/-- An object is read back if it repeats no key and each of its values is read back. On a line of
ASCII the keys have to have an encoding. -/
theorem ReadsBack.of_members {layout : Layout} {members : List (Text × Json)}
    (hkeys : (members.map Prod.fst).Nodup)
    (hencodable : ∀ m ∈ members, layout.plain = true ∨ (Text.encode m.1).isSome = true)
    (h : ∀ m ∈ members, ReadsBack layout m.2) : ReadsBack layout (.object members) := by
  intro depth after fuel room _ hroom hfuel
  obtain ⟨room, rfl⟩ : ∃ n, room = n + 1 := ⟨room - 1, by rw [Json.depth] at hroom; omega⟩
  have hmembers := membersDepth_le.mp (Nat.le_of_succ_le_succ hroom)
  cases members with
  | nil =>
    obtain ⟨fuel, rfl⟩ : ∃ n, fuel = n + 1 := ⟨fuel - 1, by
      rw [written] at hfuel
      simp [Text.ofString] at hfuel
      omega⟩
    rfl
  | cons m rest =>
    obtain ⟨key, v⟩ := m
    obtain ⟨fuel, rfl⟩ : ∃ n, fuel = n + 1 := ⟨fuel - 1, by
      rw [written] at hfuel
      simp at hfuel
      omega⟩
    rw [written] at hfuel ⊢
    simp only [List.cons_append, List.append_assoc, List.length_cons, List.length_append]
      at hfuel ⊢
    have hread : pairs fuel room (stringText layout.plain key ++ Text.ofString ": " ++
        written layout (depth + 1) (writtenMembers layout depth after rest) v) =
          .ok (rereadMembers ((key, v) :: rest), after) :=
      pairs_written (fun m hm => ⟨h m hm, hmembers m hm⟩) hencodable
        (by simp only [List.length_append]; omega)
    have hself : Members.ofPairs (rereadMembers ((key, v) :: rest)) =
        rereadMembers ((key, v) :: rest) :=
      Members.ofPairs_eq_self (by rw [keys_rereadMembers]; exact hkeys)
    rw [reread, ← hself]
    refine value_object ?_
    rw [skipGap_append _ (fun _ => Layout.isGap_of_mem_edge) (by rintro c ⟨⟩; rfl),
      ← List.append_assoc]
    exact hread

/-- Every regular value is read back from both forms, that of one line only if all its texts have
an encoding. -/
theorem readsBack (layout : Layout) (v : Json) (hregular : v.Regular)
    (hencodable : layout.plain = true ∨ v.Encodable) : ReadsBack layout v := by
  induction v using induction_parts with
  | null => exact .of_scalar (fun _ _ => rfl) fun _ _ => rfl
  | bool b => cases b <;> exact .of_scalar (fun _ _ => rfl) fun _ _ => rfl
  | integer n =>
    have hshort : ¬Text.maxDigits < (Text.ofNat n.natAbs).length := Nat.not_lt.mpr hregular.self
    exact .of_scalar (fun _ _ => rfl) fun _ h => (scalar_ofInt n h).trans (if_neg hshort)
  | number x => exact .of_scalar (fun _ _ => rfl) fun _ h => scalar_render x h
  | text t => exact .of_text (hencodable.imp_right All.self)
  | array items ih =>
    exact .of_items fun v hv => ih v hv (hregular.item hv) (hencodable.imp_right fun h => h.item hv)
  | object members ih =>
    refine .of_members hregular.self (fun m hm => hencodable.imp_right fun h => h.self m hm) ?_
    exact fun m hm => ih m hm (hregular.member hm) (hencodable.imp_right fun h => h.member hm)

/-- A value with blanks after it is read back, if it is not nested too deeply. -/
theorem parse_written {layout : Layout} {v : Json} (hregular : v.Regular) (hstable : v.Stable)
    (hencodable : layout.plain = true ∨ v.Encodable) (hdepth : v.depth ≤ maxDepth) {after : Text}
    (hends : EndsNumber after) (hafter : ∀ c ∈ after, isGap c = true) :
    parse (written layout 0 after v) = .ok v := by
  have hread := readsBack layout v hregular hencodable 0 after
    (2 * (written layout 0 after v).length + 2) maxDepth hends hdepth (by omega)
  obtain ⟨c, hc, hgap, -⟩ := head_of_value hread
  have hstart : skipGap (written layout 0 after v) = written layout 0 after v :=
    skipGap_append [] (by simp) fun d hd => Option.mem_unique hc hd ▸ hgap
  have hend : skipGap after = [] := by
    have hskip := skipGap_append after (t := []) hafter (by simp)
    rwa [List.append_nil] at hskip
  unfold parse
  rw [hstart]
  simp only [hread, hend, reread_eq_self v hstable]
  rfl

/-- The text of a file is read back as the document that was written. -/
theorem parse_fileText {v : Json} (hregular : v.Regular) (hstable : v.Stable)
    (hdepth : v.depth ≤ maxDepth) : parse v.fileText = .ok v :=
  parse_written hregular hstable (.inl rfl) hdepth (by rintro c ⟨⟩; decide) (by decide)

/-- A line of ASCII is read back as the document that was written. -/
theorem parse_oneLine {v : Json} (hregular : v.Regular) (hstable : v.Stable)
    (hencodable : v.Encodable) (hdepth : v.depth ≤ maxDepth) : parse v.oneLine = .ok v :=
  parse_written hregular hstable (.inr hencodable) hdepth (by rintro c ⟨⟩) (by simp)

end Json

end Toolsmith
