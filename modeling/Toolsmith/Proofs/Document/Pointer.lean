import Toolsmith.Proofs.Json.Parts
import Toolsmith.Proofs.Text.Pieces

/-!
# Texts of references

A reference is written with the keys on the way to its target. In a key, `~0` is written for a tilde
and then `~1` for a slash, so a key holds no slash when it is written and the tildes of `~1` are
told apart from its own. The keys are read back one by one, and a reference leads where they do.
-/

namespace Toolsmith.Pointer

variable {document : Members} {keys : List Text} {node v : Json}

/-- A key as it is written in a reference. -/
def escape (key : Text) : Text :=
  Text.replace (Text.ofString "/") (Text.ofString "~1")
    (Text.replace (Text.ofString "~") (Text.ofString "~0") key)

/-- The text of a reference along a way of keys. -/
def text (keys : List Text) : Text :=
  Text.ofString "#/" ++ Text.join (Text.ofString "/") (keys.map escape)

/-- A way through nested objects that leads to a value, where nothing on the way is null. -/
inductive Leads : Json → List Text → Json → Prop
  | here {v : Json} : Leads v [] v
  | step {members : Members} {key : Text} {keys : List Text} {next v : Json}
      (hmember : members.get? key = some next) (hnull : next ≠ .null) (hrest : Leads next keys v) :
      Leads (.object members) (key :: keys) v

/-- A way that breaks: some key on it is not looked up in an object, is not found or has null as its
value. -/
inductive Breaks : Json → List Text → Prop
  | noObject {v : Json} {key : Text} {keys : List Text} (h : ∀ members, v ≠ .object members) :
      Breaks v (key :: keys)
  | missing {members : Members} {key : Text} {keys : List Text} (h : members.get? key = none) :
      Breaks (.object members) (key :: keys)
  | null {members : Members} {key : Text} {keys : List Text} (h : members.get? key = some .null) :
      Breaks (.object members) (key :: keys)
  | later {members : Members} {key : Text} {keys : List Text} {next : Json}
      (hmember : members.get? key = some next) (hrest : Breaks next keys) :
      Breaks (.object members) (key :: keys)

/-- A key is read back as it was written. -/
theorem unescape_escape (key : Text) : unescape (escape key) = key := by
  have htilde : ∀ t : Text, Text.replace (Text.ofString "~0") (Text.ofString "~")
      (Text.replace (Text.ofString "~") (Text.ofString "~0") t) = t := fun t =>
    Text.replace_replace (a := .char '~') (b := .char '0') (by decide) (.inl rfl)
  have hslash : ∀ t : Text, ¬Text.ofString "~1" <:+: t →
      Text.replace (Text.ofString "~1") (Text.ofString "/")
        (Text.replace (Text.ofString "/") (Text.ofString "~1") t) = t := fun t ht =>
    Text.replace_replace (a := .char '~') (b := .char '1') (by decide) (.inr ht)
  rw [unescape, escape, hslash _ ?_, htilde]
  -- every tilde of the key has been written with a zero behind it
  exact Text.not_infix_replace (a := .char '~') (b := .char '0') (c := .char '1') (by decide)
    (by decide)

/-- A key holds no slash when it is written. -/
theorem slash_not_mem_escape (key : Text) : CodePoint.char '/' ∉ escape key :=
  Text.not_mem_replace (a := .char '/') (by decide)

/-- The keys of a way are read back from its text. -/
theorem map_unescape_splitOn (h : keys ≠ []) :
    (Text.splitOn (.char '/') (Text.join (Text.ofString "/") (keys.map escape))).map unescape =
      keys := by
  have hpieces : Text.splitOn (.char '/') (Text.join (Text.ofString "/") (keys.map escape)) =
      keys.map escape := by
    refine Text.splitOn_join (mt List.map_eq_nil_iff.mp h) fun piece hpiece => ?_
    obtain ⟨key, -, rfl⟩ := List.mem_map.mp hpiece
    exact slash_not_mem_escape key
  rw [hpieces, List.map_map]
  exact List.map_id'' unescape_escape keys

/-- A reference is followed along its keys. -/
theorem resolve?_text_eq (document : Members) (h : keys ≠ []) :
    resolve? document (.text (text keys)) = follow (.object document) keys := by
  have hfollow : resolve? document (.text (text keys)) = follow (.object document)
      ((Text.splitOn (.char '/') (Text.join (Text.ofString "/") (keys.map escape))).map unescape) :=
    rfl
  rw [hfollow, map_unescape_splitOn h]

/-- Following keys gives the value to which they lead. -/
theorem follow_eq_some_iff : follow node keys = some v ↔ Leads node keys v := by
  constructor
  · intro h
    fun_induction follow node keys with
    | case1 node =>
      cases h
      exact .here
    | case2 => cases h
    | case3 => cases h
    | case4 members key rest next hnull hmember ih => exact .step hmember hnull (ih h)
    | case5 => cases h
  · intro h
    induction h with
    | here => rfl
    | @step members key keys next v hmember hnull _ ih =>
      rw [follow, hmember]
      cases next with
      | null => exact absurd rfl hnull
      | _ => exact ih

/-- Following keys gives nothing exactly if the way breaks. -/
theorem follow_eq_none_iff : follow node keys = none ↔ Breaks node keys := by
  constructor
  · intro h
    fun_induction follow node keys with
    | case1 => cases h
    | case2 members key rest hmissing => exact .missing hmissing
    | case3 members key rest hnull => exact .null hnull
    | case4 members key rest next _ hmember ih => exact .later hmember (ih h)
    | case5 node key rest hobject => exact .noObject fun members => hobject members
  · intro h
    induction h with
    | @noObject v _ _ h =>
      cases v with
      | object members => exact absurd rfl (h members)
      | _ => rfl
    | missing h => rw [follow, h]
    | null h => rw [follow, h]
    | @later members key keys next hmember _ ih =>
      rw [follow, hmember]
      cases next with
      | null => rfl
      | _ => exact ih

/-- The reference with the text of a way of keys has as its target the value to which the keys lead,
and has none exactly if the way breaks. No other way has this text. -/
theorem resolve?_text (document : Members) (h : keys ≠ []) :
    (∀ v, resolve? document (.text (text keys)) = some v ↔ Leads (.object document) keys v) ∧
      (resolve? document (.text (text keys)) = none ↔ Breaks (.object document) keys) ∧
      ∀ others, others ≠ [] → text others = text keys → others = keys := by
  rw [resolve?_text_eq document h]
  refine ⟨fun v => follow_eq_some_iff, follow_eq_none_iff, fun others hothers heq => ?_⟩
  have hway := List.append_cancel_left heq
  rw [← map_unescape_splitOn hothers, hway, map_unescape_splitOn h]

/-- Keys with slashes, tildes and nothing in them. -/
def sampleKeys : List Text :=
  ["a/~b", "~01", ""].map Text.ofString

/-- Nested objects with a value at the end of the keys, and a null beside the way. -/
def sampleObject (v : Json) : Members :=
  [(Text.ofString "a/~b", .object
    [(Text.ofString "/", .null), (Text.ofString "~01", .object [([], v)])])]

/-- The keys are escaped in the text of their way, which leads through nested objects and breaks at
null. -/
theorem resolve?_text_sampleKeys :
    sampleKeys ≠ [] ∧ text sampleKeys = Text.ofString "#/a~1~0b/~001/" ∧
      resolve? (sampleObject (.integer 1)) (.text (text sampleKeys)) = some (.integer 1) ∧
      resolve? (sampleObject .null) (.text (text sampleKeys)) = none ∧
      ∀ others, others ≠ [] → text others = text sampleKeys → others = sampleKeys := by
  have hkeys : sampleKeys ≠ [] := List.cons_ne_nil _ _
  refine ⟨hkeys, by decide, ?_, ?_, (resolve?_text [] hkeys).2.2⟩
  · exact ((resolve?_text _ hkeys).1 _).mpr
      (.step rfl nofun (.step rfl nofun (.step rfl nofun .here)))
  · exact (resolve?_text _ hkeys).2.1.mpr (.later rfl (.later rfl (.null rfl)))

end Toolsmith.Pointer
