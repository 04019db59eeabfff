import Toolsmith.Proofs.Naming.Suffix
import Toolsmith.Proofs.Unit.Literal
import Toolsmith.Unit.Context

/-!
# The identifiers of a unit

Every input of a unit has an identifier made of a fixed beginning and word characters, whatever the
input is called. Different inputs have different identifiers. A reader of the unit takes them for
nothing but code.
-/

namespace Toolsmith

/-- An identifier of an input: the common beginning, and then word characters. -/
def IsIdentifier (t : Text) : Prop :=
  ∃ rest, t = Text.ofString "param_" ++ rest ∧ ∀ c ∈ rest, c.isWord = true

namespace Binding

/-- The preferred identifier is one. -/
theorem isIdentifier_preferred (name : Text) : IsIdentifier (preferred name) := by
  refine ⟨_, rfl, fun c hc => ?_⟩
  obtain ⟨d, -, rfl⟩ := List.mem_map.mp hc
  split
  · assumption
  · decide

/-- An identifier stays one with a number as its suffix. -/
theorem isIdentifier_numbered {t : Text} (h : IsIdentifier t) (number : Nat) :
    IsIdentifier (Naming.numbered t number) := by
  have hdigit : ∀ d < 10, (Text.digitPoint d).isWord = true := by decide
  obtain ⟨rest, rfl, hrest⟩ := h
  refine ⟨rest ++ .char '_' :: Text.ofNat number, List.append_assoc _ _ _, fun c hc => ?_⟩
  rcases List.mem_append.mp hc with hc | hc
  · exact hrest c hc
  · rcases List.mem_cons.mp hc with rfl | hc
    · decide
    · obtain ⟨d, hd, rfl⟩ := Text.mem_ofNat hc
      exact hdigit d hd

/-- A fresh identifier is one. -/
theorem isIdentifier_fresh (taken : List Text) (name : Text) : IsIdentifier (fresh taken name) := by
  unfold fresh
  simp only
  split
  · exact isIdentifier_numbered (isIdentifier_preferred name) _
  · exact isIdentifier_preferred name

/-- What is found for a name is the identifier of a binding. -/
theorem exists_of_lookup {bindings : List Binding} {name identifier : Text}
    (h : lookup bindings name = some identifier) :
    ∃ b ∈ bindings, b.identifier = identifier := by
  obtain ⟨b, hfind, hidentifier⟩ := Option.map_eq_some_iff.mp h
  exact ⟨b, List.mem_of_find?_eq_some hfind, hidentifier⟩

/-- A name that is bound is found. -/
theorem isSome_lookup {bindings : List Binding} {name : Text} (h : name ∈ bindings.map Binding.name) :
    (lookup bindings name).isSome = true := by
  obtain ⟨b, hb, rfl⟩ := List.mem_map.mp h
  rw [lookup, Option.isSome_map, List.find?_isSome]
  exact ⟨b, hb, by simp⟩

/-- One more binding has an identifier, and it is for the name. -/
theorem add_spec {bindings : List Binding} (h : ∀ b ∈ bindings, IsIdentifier b.identifier)
    (name : Text) :
    (∀ b ∈ add bindings name, IsIdentifier b.identifier) ∧
      (add bindings name).map Binding.name = bindings.map Binding.name ++ [name] := by
  refine ⟨List.forall_mem_append.mpr ⟨h, List.forall_mem_singleton.mpr ?_⟩, by simp [add]⟩
  cases hlookup : lookup bindings name with
  | none => exact isIdentifier_fresh _ name
  | some identifier =>
    obtain ⟨b, hb, rfl⟩ := exists_of_lookup hlookup
    exact h b hb

/-- The last of several names is bound after the others. -/
theorem ofNames_concat (names : List Text) (name : Text) :
    ofNames (names ++ [name]) = add (ofNames names) name := by
  rw [ofNames, List.foldl_append]
  rfl

/-- Every name gets a binding of its own, and every binding an identifier. -/
theorem ofNames_spec (names : List Text) :
    (∀ b ∈ ofNames names, IsIdentifier b.identifier) ∧
      (ofNames names).map Binding.name = names := by
  induction names using List.reverseRecOn with
  | nil => exact ⟨nofun, rfl⟩
  | append_singleton names name ih =>
    obtain ⟨hidentifiers, hnames⟩ := ih
    obtain ⟨hall, heq⟩ := add_spec hidentifiers name
    rw [ofNames_concat]
    exact ⟨hall, by rw [heq, hnames]⟩

/-- What is found for a name is bound to it. -/
theorem mem_of_lookup {bindings : List Binding} {name identifier : Text}
    (h : lookup bindings name = some identifier) : ⟨name, identifier⟩ ∈ bindings := by
  obtain ⟨b, hfind, rfl⟩ := Option.map_eq_some_iff.mp h
  have hname : b.name = name := beq_iff_eq.mp (List.find?_some hfind :)
  subst name
  exact List.mem_of_find?_eq_some hfind

/-- An identifier at which the search for a fresh one ends: the preferred one if it is not taken,
and otherwise the preferred one with the number that a search from two on ends at. -/
def IsFresh (taken : List Text) (name identifier : Text) : Prop :=
  (preferred name ∉ taken ∧ identifier = preferred name) ∨
    (preferred name ∈ taken ∧ ∃ last, Naming.Search taken (preferred name) 2 last ∧
      identifier = Naming.numbered (preferred name) last)

/-- The search for a fresh identifier ends, whatever is taken. -/
theorem isFresh_fresh (taken : List Text) (name : Text) : IsFresh taken name (fresh taken name) := by
  unfold fresh
  simp only
  split
  · rename_i htaken
    exact .inr ⟨List.contains_iff_mem.mp htaken, _,
      Naming.search_firstFree (Nat.lt_succ_self _) _ _, rfl⟩
  · rename_i hfree
    exact .inl ⟨fun hmem => hfree (List.contains_iff_mem.mpr hmem), rfl⟩

/-- A fresh identifier is not taken. -/
theorem fresh_not_mem (taken : List Text) (name : Text) : fresh taken name ∉ taken := by
  obtain ⟨hfree, heq⟩ | ⟨-, last, hsearch, heq⟩ := isFresh_fresh taken name
  · rwa [heq]
  · rw [heq]
    exact hsearch.isLeast.1.2

/-- Bindings of which two have the same identifier exactly if they have the same name. -/
def AreInjective (bindings : List Binding) : Prop :=
  ∀ a ∈ bindings, ∀ b ∈ bindings, a.identifier = b.identifier ↔ a.name = b.name

/-- One more binding has an identifier that only its name has. -/
theorem AreInjective.add {bindings : List Binding} (h : AreInjective bindings) (name : Text) :
    AreInjective (add bindings name) := by
  unfold Binding.add
  simp only
  generalize hidentifier : (lookup bindings name).getD (fresh (bindings.map identifier) name) = new
  have hnew : ∀ b ∈ bindings, b.identifier = new ↔ b.name = name := by
    intro b hb
    cases hlookup : lookup bindings name with
    | some found =>
      rw [hlookup, Option.getD_some] at hidentifier
      subst hidentifier
      exact h b hb _ (mem_of_lookup hlookup)
    | none =>
      rw [hlookup, Option.getD_none] at hidentifier
      constructor
      · intro heq
        have hmem := List.mem_map_of_mem (f := identifier) hb
        rw [heq, ← hidentifier] at hmem
        exact absurd hmem (fresh_not_mem _ name)
      · rintro rfl
        have hbound := isSome_lookup (List.mem_map_of_mem (f := Binding.name) hb)
        rw [hlookup] at hbound
        cases hbound
  intro a ha b hb
  rcases List.mem_append.mp ha with ha | ha <;> rcases List.mem_append.mp hb with hb | hb
  · exact h a ha b hb
  · obtain rfl := List.mem_singleton.mp hb
    exact hnew a ha
  · obtain rfl := List.mem_singleton.mp ha
    rw [eq_comm, hnew b hb]
    exact eq_comm
  · obtain rfl := List.mem_singleton.mp ha
    obtain rfl := List.mem_singleton.mp hb
    exact iff_of_true rfl rfl

/-- Bindings that are made for names are injective. -/
theorem areInjective_ofNames (names : List Text) : AreInjective (ofNames names) := by
  induction names using List.reverseRecOn with
  | nil => exact nofun
  | append_singleton names name ih =>
    rw [ofNames_concat]
    exact ih.add name

/-- The name that an identifier stands for. -/
def nameOf? (bindings : List Binding) (identifier : Text) : Option Text :=
  (bindings.find? (·.identifier == identifier)).map name

/-- The identifier of a binding stands for its name. -/
theorem AreInjective.nameOf?_eq {bindings : List Binding} (h : AreInjective bindings) {b : Binding}
    (hb : b ∈ bindings) : nameOf? bindings b.identifier = some b.name := by
  have hsome : (bindings.find? (·.identifier == b.identifier)).isSome = true :=
    List.find?_isSome.mpr ⟨b, hb, beq_self_eq_true _⟩
  obtain ⟨found, hfound⟩ := Option.isSome_iff_exists.mp hsome
  have hidentifier : found.identifier = b.identifier := beq_iff_eq.mp (List.find?_some hfound :)
  rw [nameOf?, hfound, Option.map_some,
    (h found (List.mem_of_find?_eq_some hfound) b hb).mp hidentifier]

end Binding

namespace Program

/-- A part of a word is no mark and begins no comment. -/
theorem isCode_of_isWord {c : CodePoint} (h : c.isWord = true) : IsCode c := by
  have hquote : (CodePoint.char '"').isWord = false := by decide
  have hapostrophe : (CodePoint.char '\'').isWord = false := by decide
  have hcomment : (CodePoint.char '#').isWord = false := by decide
  constructor
  · unfold isMark
    simp only [Bool.or_eq_false_iff, decide_eq_false_iff_not]
    constructor
    · rintro rfl
      rw [hquote] at h
      cases h
    · rintro rfl
      rw [hapostrophe] at h
      cases h
  · rintro rfl
    rw [hcomment] at h
    cases h

instance (c : CodePoint) : Decidable (IsCode c) :=
  inferInstanceAs (Decidable (_ ∧ _))

/-- An identifier is code. -/
theorem isCode_identifier {t : Text} (h : IsIdentifier t) : ∀ c ∈ t, IsCode c := by
  have hstart : ∀ c ∈ Text.ofString "param_", IsCode c := by decide
  obtain ⟨rest, rfl, hrest⟩ := h
  exact List.forall_mem_append.mpr ⟨hstart, fun c hc => isCode_of_isWord (hrest c hc)⟩

end Program

end Toolsmith
