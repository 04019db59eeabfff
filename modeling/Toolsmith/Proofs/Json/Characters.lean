import Toolsmith.Proofs.Json.Numbers
import Toolsmith.Proofs.Json.Parts
import Toolsmith.Proofs.Json.Strings

/-!
# The characters of a written document

A file that holds a document has no line ends but line feeds, and a document on one line is visible
ASCII. So a file is read back as it was written, and only a document without lone surrogates can be
written to one.
-/

namespace Toolsmith

namespace Json

/-- A code point that a line of a document shows: no control character, and one of ASCII unless
others are kept. -/
def IsShown (plain : Bool) (c : CodePoint) : Prop :=
  0x20 ≤ c.code ∧ (plain = true ∨ c.code < 0x7F)

instance (plain : Bool) (c : CodePoint) : Decidable (IsShown plain c) :=
  inferInstanceAs (Decidable (_ ∧ _))

/-- A visible character of ASCII is shown in both forms. -/
theorem IsShown.any {c : CodePoint} (h : IsShown false c) (plain : Bool) : IsShown plain c :=
  ⟨h.1, .inr (h.2.resolve_left (by decide))⟩

/-- A digit is shown. -/
theorem isShown_digitPoint {d : Nat} (h : d < 16) : IsShown false (Text.digitPoint d) := by
  revert d
  decide

/-- The digits of a number are shown. -/
theorem isShown_ofNat {n : Nat} {c : CodePoint} (h : c ∈ Text.ofNat n) : IsShown false c := by
  obtain ⟨d, hd, rfl⟩ := Text.mem_ofNat h
  exact isShown_digitPoint (by omega)

/-- An integer is shown. -/
theorem isShown_ofInt {n : Int} {c : CodePoint} (h : c ∈ Text.ofInt n) : IsShown false c := by
  cases n with
  | ofNat n => exact isShown_ofNat h
  | negSucc n =>
    rcases List.mem_cons.mp h with rfl | h
    · decide
    · exact isShown_ofNat h

/-- Zeros are shown. -/
theorem isShown_zeros {n : Nat} {c : CodePoint} (h : c ∈ List.replicate n (CodePoint.char '0')) :
    IsShown false c := by
  rw [List.eq_of_mem_replicate h]
  decide

/-- Digits are shown with the point or the exponent that they are given. -/
theorem isShown_layout {digits : Text} {point : Int} {c : CodePoint}
    (hdigits : ∀ c ∈ digits, IsShown false c) (h : c ∈ Binary64.layout digits point) :
    IsShown false c := by
  have htake : ∀ n, ∀ c ∈ digits.take n, IsShown false c :=
    fun n c hc => hdigits c (List.mem_of_mem_take hc)
  have hdrop : ∀ n, ∀ c ∈ digits.drop n, IsShown false c :=
    fun n c hc => hdigits c (List.mem_of_mem_drop hc)
  unfold Binary64.layout at h
  split at h
  · split at h
    · simp only [List.cons_append, List.mem_cons, List.mem_append] at h
      rcases h with rfl | rfl | h | h
      · decide
      · decide
      · exact isShown_zeros h
      · exact hdigits c h
    · simp only at h
      split at h
      · simp only [List.mem_append, List.mem_cons, List.not_mem_nil, or_false] at h
        rcases h with (h | h) | rfl | rfl
        · exact hdigits c h
        · exact isShown_zeros h
        · decide
        · decide
      · rcases List.mem_append.mp h with h | h
        · exact htake _ c h
        · rcases List.mem_cons.mp h with rfl | h
          · decide
          · exact hdrop _ c h
  · simp only [List.mem_append, List.mem_cons, List.not_mem_nil, or_false] at h
    rcases h with ((h | rfl | rfl) | h) | h
    · split at h
      · exact hdigits c h
      · rcases List.mem_append.mp h with h | h
        · exact htake 1 c h
        · rcases List.mem_cons.mp h with rfl | h
          · decide
          · exact hdrop 1 c h
    · decide
    · split <;> decide
    · exact isShown_zeros h
    · exact isShown_ofNat h

/-- A double is shown. -/
theorem isShown_render {x : Binary64} {c : CodePoint} (h : c ∈ x.render documentSpelling) :
    IsShown false c := by
  have hsign : ∀ negative, ∀ c ∈ Binary64.render.sign negative, IsShown false c := by decide
  cases x with
  | nan =>
    revert c
    decide
  | infinite negative =>
    revert c
    cases negative <;> decide
  | finite negative significand exponent =>
    have hzero : ∀ c ∈ Text.ofString "0.0", IsShown false c := by decide
    simp only [Binary64.render] at h
    split at h
    · rcases List.mem_append.mp h with h | h
      · exact hsign _ c h
      · exact hzero c h
    · rcases List.mem_append.mp h with h | h
      · exact hsign _ c h
      · exact isShown_layout (fun _ => isShown_ofNat) h

/-- The escape of a unit is shown. -/
theorem isShown_unitEscape {unit : Nat} {c : CodePoint} (h : c ∈ unitEscape unit) :
    IsShown false c := by
  have hstart : ∀ c ∈ Text.ofString "\\u", IsShown false c := by decide
  rcases List.mem_append.mp h with h | h
  · exact hstart c h
  · obtain ⟨d, hd, rfl⟩ := Text.mem_ofHex h
    exact isShown_digitPoint hd

/-- A short escape is shown. -/
theorem isShown_shortEscape {point : CodePoint} {escape : Text}
    (h : shortEscape? point = some escape) : ∀ c ∈ escape, IsShown false c := by
  unfold shortEscape? at h
  repeat' split at h
  all_goals first
    | (cases h; decide)
    | (cases h; exact fun c => isShown_unitEscape)
    | cases h

/-- A code point that stands in a string is shown. -/
theorem isShown_escapePoint {plain : Bool} {point c : CodePoint} (h : c ∈ escapePoint plain point) :
    IsShown plain c := by
  unfold escapePoint at h
  split at h
  · exact (isShown_shortEscape ‹_› c h).any plain
  · rename_i hnone
    obtain ⟨-, -, -, hcode⟩ := shortEscape?_eq_none hnone
    split at h
    · rename_i hkept
      simp only [Bool.or_eq_true, decide_eq_true_eq] at hkept
      rw [List.mem_singleton.mp h]
      exact ⟨Nat.not_lt.mp hcode, hkept⟩
    · unfold wideEscape at h
      split at h
      · exact (isShown_unitEscape h).any plain
      · rcases List.mem_append.mp h with h | h
        · exact (isShown_unitEscape h).any plain
        · exact (isShown_unitEscape h).any plain

/-- A string is shown. -/
theorem isShown_stringText {plain : Bool} {t : Text} {c : CodePoint} (h : c ∈ stringText plain t) :
    IsShown plain c := by
  simp only [stringText, List.cons_append, List.mem_cons, List.mem_append, List.mem_flatMap,
    List.not_mem_nil, or_false] at h
  rcases h with rfl | ⟨point, -, h⟩ | rfl
  · exact IsShown.any (by decide) plain
  · exact isShown_escapePoint h
  · exact IsShown.any (by decide) plain

/-- A value without parts is shown. -/
theorem isShown_scalarText {plain : Bool} {v : Json} {c : CodePoint}
    (h : c ∈ scalarText plain v) : IsShown plain c := by
  unfold scalarText at h
  split at h
  · refine IsShown.any ?_ plain
    revert c
    decide
  · refine IsShown.any ?_ plain
    revert c
    decide
  · exact (isShown_ofInt h).any plain
  · exact (isShown_render h).any plain
  · exact isShown_stringText h
  · refine IsShown.any ?_ plain
    revert c
    decide

/-- A code point that stands in a document: it is shown on a line, or ends one. -/
def Layout.Shows (layout : Layout) (c : CodePoint) : Prop :=
  (c = .char '\n' ∧ layout.broken = true) ∨ IsShown layout.plain c

namespace Layout

/-- A visible character of ASCII stands in every document. -/
theorem Shows.of_isShown {layout : Layout} {c : CodePoint} (h : IsShown false c) :
    layout.Shows c :=
  .inr (h.any _)

/-- What stands at the edge of a container is shown. -/
theorem shows_edge {layout : Layout} {depth : Nat} {c : CodePoint} (h : c ∈ layout.edge depth) :
    layout.Shows c := by
  unfold edge at h
  split at h
  · rcases List.mem_cons.mp h with rfl | h
    · exact .inl ⟨rfl, ‹_›⟩
    · rw [List.eq_of_mem_replicate h]
      exact .of_isShown (by decide)
  · cases h

/-- What stands between two parts is shown. -/
theorem shows_comma {layout : Layout} {depth : Nat} {c : CodePoint} (h : c ∈ layout.comma depth) :
    layout.Shows c := by
  rcases List.mem_cons.mp h with rfl | h
  · exact .of_isShown (by decide)
  · split at h
    · rename_i hbroken
      have hedge : c ∈ layout.edge depth := by rwa [edge, if_pos hbroken]
      exact shows_edge hedge
    · rw [List.mem_singleton.mp h]
      exact .of_isShown (by decide)

/-- The mark after a key is shown. -/
theorem shows_colon {layout : Layout} {c : CodePoint} (h : c ∈ Text.ofString ": ") :
    layout.Shows c := by
  refine .of_isShown ?_
  revert c
  decide

end Layout

/-- A value without parts is shown, if what stands after it is. -/
theorem Layout.shows_scalarText {layout : Layout} {v : Json} {after : Text}
    (hafter : ∀ c ∈ after, layout.Shows c) :
    ∀ c ∈ scalarText layout.plain v ++ after, layout.Shows c :=
  List.forall_mem_append.mpr ⟨fun _ h => .inr (isShown_scalarText h), hafter⟩

mutual

/-- A written value is shown, if what stands after it is. -/
theorem shows_written {layout : Layout} (depth : Nat) {after : Text}
    (hafter : ∀ c ∈ after, layout.Shows c) :
    ∀ v : Json, ∀ c ∈ written layout depth after v, layout.Shows c
  | .array [] => List.forall_mem_append.mpr ⟨fun c hc => .of_isShown (by revert c; decide), hafter⟩
  | .array (v :: rest) => by
    rw [written, List.cons_append, List.forall_mem_cons, List.forall_mem_append]
    exact ⟨.of_isShown (by decide), fun _ => Layout.shows_edge,
      shows_written (depth + 1) (shows_writtenItems depth hafter rest) v⟩
  | .object [] => List.forall_mem_append.mpr ⟨fun c hc => .of_isShown (by revert c; decide), hafter⟩
  | .object ((key, v) :: rest) => by
    rw [written]
    simp only [List.cons_append, List.append_assoc, List.forall_mem_cons, List.forall_mem_append]
    exact ⟨.of_isShown (by decide), fun _ => Layout.shows_edge,
      fun _ h => .inr (isShown_stringText h), fun _ => Layout.shows_colon,
      shows_written (depth + 1) (shows_writtenMembers depth hafter rest) v⟩
  | .null => Layout.shows_scalarText hafter
  | .bool _ => Layout.shows_scalarText hafter
  | .integer _ => Layout.shows_scalarText hafter
  | .number _ => Layout.shows_scalarText hafter
  | .text _ => Layout.shows_scalarText hafter

/-- What follows an item is shown. -/
theorem shows_writtenItems {layout : Layout} (depth : Nat) {after : Text}
    (hafter : ∀ c ∈ after, layout.Shows c) :
    ∀ items : List Json, ∀ c ∈ writtenItems layout depth after items, layout.Shows c
  | [] => by
    rw [writtenItems, List.forall_mem_append, List.forall_mem_cons]
    exact ⟨fun _ => Layout.shows_edge, .of_isShown (by decide), hafter⟩
  | v :: rest => by
    rw [writtenItems, List.forall_mem_append]
    exact ⟨fun _ => Layout.shows_comma,
      shows_written (depth + 1) (shows_writtenItems depth hafter rest) v⟩

/-- What follows a member is shown. -/
theorem shows_writtenMembers {layout : Layout} (depth : Nat) {after : Text}
    (hafter : ∀ c ∈ after, layout.Shows c) :
    ∀ members : List (Text × Json), ∀ c ∈ writtenMembers layout depth after members, layout.Shows c
  | [] => by
    rw [writtenMembers, List.forall_mem_append, List.forall_mem_cons]
    exact ⟨fun _ => Layout.shows_edge, .of_isShown (by decide), hafter⟩
  | (key, v) :: rest => by
    rw [writtenMembers]
    simp only [List.append_assoc, List.forall_mem_append]
    exact ⟨fun _ => Layout.shows_comma, fun _ h => .inr (isShown_stringText h),
      fun _ => Layout.shows_colon,
      shows_written (depth + 1) (shows_writtenMembers depth hafter rest) v⟩

end

/-- A file that holds a document has no line ends but line feeds. -/
theorem not_mem_fileText (v : Json) : CodePoint.char '\r' ∉ v.fileText := by
  intro h
  have hend : ∀ c ∈ [CodePoint.char '\n'], Layout.ofFile.Shows c := by
    simp only [List.mem_singleton, forall_eq]
    exact .inl ⟨rfl, rfl⟩
  rcases shows_written 0 hend v _ h with h | h
  · exact absurd h.1 (by decide)
  · exact absurd h.1 (by decide)

/-- A document on one line is visible ASCII. -/
theorem isShown_oneLine {v : Json} {c : CodePoint} (h : c ∈ v.oneLine) : IsShown false c := by
  have hshows : Layout.ofLine.Shows c := shows_written 0 (by rintro c ⟨⟩) v c h
  exact hshows.resolve_left fun hbroken => absurd hbroken.2 (by decide)

/-- What is shown of ASCII is a character. -/
theorem IsShown.isChar {c : CodePoint} (h : IsShown false c) : c.toChar?.isSome = true :=
  CodePoint.isChar_iff.mpr (by have hbound := h.2.resolve_left (by decide); omega)

/-- A text that is shown as ASCII has an encoding. -/
theorem encode_isSome_of_isShown {t : Text} (h : ∀ c ∈ t, IsShown false c) :
    t.encode.isSome = true :=
  Text.encode_isSome_iff.mpr fun c hc => (h c hc).isChar

/-- A decimal number has an encoding. -/
theorem encode_ofNat (n : Nat) : (Text.ofNat n).encode.isSome = true :=
  encode_isSome_of_isShown fun _ => isShown_ofNat

/-- A document on one line has an encoding. -/
theorem encode_oneLine (v : Json) : v.oneLine.encode.isSome = true :=
  encode_isSome_of_isShown fun _ => isShown_oneLine

/-- Only characters have short escapes. -/
theorem isChar_of_shortEscape {point : CodePoint} (h : (shortEscape? point).isSome = true) :
    point.toChar?.isSome = true := by
  cases point with
  | char c => rfl
  | surrogate unit =>
    have hcode : (CodePoint.surrogate unit).code = 0xD800 + unit.val := rfl
    have hnone : shortEscape? (.surrogate unit) = none := by
      unfold shortEscape?
      rw [if_neg (by simp), if_neg (by simp), if_neg (by simp), if_neg (by simp), if_neg (by simp),
        if_neg (by omega), if_neg (by omega), if_neg (by omega)]
    rw [hnone] at h
    cases h

/-- A code point of a string of a file stands for a character exactly if characters write it. -/
theorem isChar_escapePoint {point : CodePoint} :
    (∀ c ∈ escapePoint true point, c.toChar?.isSome = true) ↔ point.toChar?.isSome = true := by
  unfold escapePoint
  split
  · rename_i escape hescape
    have hpoint := isChar_of_shortEscape (by rw [hescape]; rfl : (shortEscape? point).isSome = true)
    exact ⟨fun _ => hpoint, fun _ c hc => (isShown_shortEscape hescape c hc).isChar⟩
  · simp

/-- A string of a file has an encoding exactly if its text has one. -/
theorem encode_stringText {t : Text} :
    (stringText true t).encode.isSome = true ↔ t.encode.isSome = true := by
  have hquote : (CodePoint.char '"').toChar?.isSome = true := rfl
  simp only [stringText, Text.encode_isSome_iff, List.cons_append, List.forall_mem_cons,
    List.forall_mem_append, List.mem_flatMap, hquote, true_and, List.mem_singleton, forall_eq,
    and_true]
  constructor
  · exact fun h c hc => isChar_escapePoint.mp fun d hd => h d ⟨c, hc, hd⟩
  · rintro h d ⟨c, hc, hd⟩
    exact isChar_escapePoint.mpr (h c hc) d hd

/-- The texts of an array have encodings exactly if those of its items have. -/
theorem encodable_array {items : List Json} :
    (array items).Encodable ↔ ∀ v ∈ items, v.Encodable :=
  ⟨fun h _ hv => h.item hv, All.of_items trivial⟩

/-- The texts of an object have encodings exactly if its keys and those of its values have. -/
theorem encodable_object {members : Members} :
    (object members).Encodable ↔
      ∀ m ∈ members, (Text.encode m.1).isSome = true ∧ m.2.Encodable :=
  ⟨fun h m hm => ⟨h.self m hm, h.member hm⟩,
    fun h => .of_members (fun m hm => (h m hm).1) fun m hm => (h m hm).2⟩

/-- What a document of ASCII shows is a character. -/
theorem Layout.Shows.isChar {broken : Bool} {c : CodePoint}
    (h : Layout.Shows ⟨false, broken⟩ c) : c.toChar?.isSome = true := by
  rcases h with ⟨rfl, -⟩ | h
  · rfl
  · exact h.isChar

/-- What stands at the edge of a container has an encoding. -/
theorem encode_edge (layout : Layout) (depth : Nat) : (layout.edge depth).encode.isSome = true :=
  Text.encode_isSome_iff.mpr fun c hc =>
    (Layout.shows_edge hc : Layout.Shows ⟨false, layout.broken⟩ c).isChar

/-- What stands between two parts has an encoding. -/
theorem encode_comma (layout : Layout) (depth : Nat) :
    (layout.comma depth).encode.isSome = true :=
  Text.encode_isSome_iff.mpr fun c hc =>
    (Layout.shows_comma hc : Layout.Shows ⟨false, layout.broken⟩ c).isChar

/-- A value without parts and without a text has an encoding. -/
theorem encode_scalarText {layout : Layout} (hplain : layout.plain = true) {v : Json}
    (hshown : ∀ c ∈ scalarText true v, IsShown false c) (hv : v.Encodable) (after : Text) :
    (scalarText layout.plain v ++ after).encode.isSome = true ↔
      v.Encodable ∧ after.encode.isSome = true := by
  rw [hplain, Text.encode_isSome_append]
  simp only [encode_isSome_of_isShown hshown, hv]

mutual

/-- A value can be written to a file exactly if all its texts have encodings. -/
theorem encode_written {layout : Layout} (hplain : layout.plain = true) (depth : Nat)
    (after : Text) :
    ∀ v : Json, (written layout depth after v).encode.isSome = true ↔
      v.Encodable ∧ after.encode.isSome = true
  | .array [] => by
    rw [written, Text.encode_isSome_append, encodable_array]
    simp
  | .array (v :: rest) => by
    rw [written, encodable_array, List.forall_mem_cons, List.cons_append, Text.encode_isSome_char,
      Text.encode_isSome_append, encode_written hplain (depth + 1) _ v,
      encode_writtenItems hplain depth after rest]
    simp only [encode_edge, true_and, and_assoc]
  | .object [] => by
    rw [written, Text.encode_isSome_append, encodable_object]
    simp
  | .object ((key, v) :: rest) => by
    rw [written, encodable_object, List.forall_mem_cons, List.cons_append, List.cons_append,
      List.cons_append, Text.encode_isSome_char, Text.encode_isSome_append,
      Text.encode_isSome_append, Text.encode_isSome_append, hplain, encode_stringText,
      encode_written hplain (depth + 1) _ v, encode_writtenMembers hplain depth after rest]
    simp only [encode_edge, Text.encode_ofString_isSome, true_and, and_true, and_assoc]
  | .null => encode_scalarText hplain (by decide) (.of_null trivial) after
  | .bool b => encode_scalarText hplain (by cases b <;> decide) (.of_bool trivial) after
  | .integer n => encode_scalarText hplain (fun _ => isShown_ofInt) (.of_integer trivial) after
  | .number x => encode_scalarText hplain (fun _ => isShown_render) (.of_number trivial) after
  | .text t => by
    show (stringText layout.plain t ++ after).encode.isSome = true ↔ _
    rw [hplain, Text.encode_isSome_append, encode_stringText]
    exact and_congr_left' ⟨fun h => .of_text h, All.self⟩

/-- The items after the first can be written to a file exactly if all their texts have
encodings. -/
theorem encode_writtenItems {layout : Layout} (hplain : layout.plain = true) (depth : Nat)
    (after : Text) :
    ∀ items : List Json, (writtenItems layout depth after items).encode.isSome = true ↔
      (∀ v ∈ items, v.Encodable) ∧ after.encode.isSome = true
  | [] => by
    rw [writtenItems, Text.encode_isSome_append, Text.encode_isSome_char]
    simp [encode_edge]
  | v :: rest => by
    rw [writtenItems, List.forall_mem_cons, Text.encode_isSome_append,
      encode_written hplain (depth + 1) _ v, encode_writtenItems hplain depth after rest]
    simp only [encode_comma, true_and, and_assoc]

/-- The members after the first can be written to a file exactly if all their keys and texts have
encodings. -/
theorem encode_writtenMembers {layout : Layout} (hplain : layout.plain = true) (depth : Nat)
    (after : Text) :
    ∀ members : List (Text × Json),
      (writtenMembers layout depth after members).encode.isSome = true ↔
        (∀ m ∈ members, (Text.encode m.1).isSome = true ∧ m.2.Encodable) ∧
          after.encode.isSome = true
  | [] => by
    rw [writtenMembers, Text.encode_isSome_append, Text.encode_isSome_char]
    simp [encode_edge]
  | (key, v) :: rest => by
    rw [writtenMembers, List.forall_mem_cons, Text.encode_isSome_append,
      Text.encode_isSome_append, Text.encode_isSome_append, hplain, encode_stringText,
      encode_written hplain (depth + 1) _ v, encode_writtenMembers hplain depth after rest]
    simp only [encode_comma, Text.encode_ofString_isSome, true_and, and_true, and_assoc]

end

/-- A document can be written to a file exactly if all its texts have encodings. -/
theorem encode_fileText {v : Json} : v.fileText.encode.isSome = true ↔ v.Encodable := by
  unfold fileText
  rw [encode_written rfl]
  exact and_iff_left rfl

end Json

end Toolsmith
