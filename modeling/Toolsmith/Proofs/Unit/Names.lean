import Toolsmith.Proofs.Text.Style
import Toolsmith.Proofs.Unit.Body
import Toolsmith.Proofs.Unit.Inputs

/-!
# Identifiers as names of a program

A program reads its identifiers in their plain form. What is a part of a word need not be a part of
a name, and identifiers that differ may have the same plain form. A unit with inputs that are called
so is no program, or it gives one input the value of another. Names that are spelled plainly do no
harm: neither the spelling nor a number after it brings a character that is read as another.
-/

namespace Toolsmith

/-- A name of a program that begins with a letter and goes on with characters that may stand in a
name. It is no keyword. -/
structure IsName (t : Text) : Prop where
  spelled : ∃ first rest, t = first :: rest ∧ first.isAsciiLetter = true ∧
    ∀ c ∈ rest, c.continuesName = true
  free : ∀ word ∈ Source.keywords, t ≠ Text.ofString word

/-- An identifier is a name exactly if all its characters may stand in one. -/
theorem IsIdentifier.isName_iff {t : Text} (h : IsIdentifier t) :
    IsName t ↔ ∀ c ∈ t, c.continuesName = true := by
  have hfree := (Source.not_infix_of_isIdentifier h).2
  have hfirst : (CodePoint.char 'p').continuesName = true := by decide +kernel
  obtain ⟨rest, rfl, -⟩ := h
  have hcons : Text.ofString "param_" ++ rest = .char 'p' :: (Text.ofString "aram_" ++ rest) := rfl
  constructor
  · rintro ⟨⟨first, others, hspelled, -, hothers⟩, -⟩
    rw [hcons] at hspelled ⊢
    obtain ⟨-, rfl⟩ := List.cons_eq_cons.mp hspelled
    exact List.forall_mem_cons.mpr ⟨hfirst, hothers⟩
  · intro hall
    rw [hcons] at hall
    exact ⟨⟨_, _, hcons, by decide, (List.forall_mem_cons.mp hall).2⟩, hfree⟩

namespace Binding

variable {b : Binding}

/-- The preferred identifier of a name is made of characters that may stand in a name exactly if the
parts of words in the name are. -/
theorem forall_continuesName_preferred (name : Text) :
    (∀ c ∈ preferred name, c.continuesName = true) ↔
      ∀ c ∈ name, c.isWord = true → c.continuesName = true := by
  have hstart : ∀ c ∈ Text.ofString "param_", c.continuesName = true := by decide +kernel
  have hline : (CodePoint.char '_').continuesName = true := by decide +kernel
  rw [preferred, List.forall_mem_append, and_iff_right hstart, List.forall_mem_map]
  refine forall₂_congr fun c _ => ?_
  split
  · rename_i hword
    exact (imp_iff_right hword).symm
  · rename_i hword
    exact iff_of_true hline fun h => absurd h hword

/-- What a number brings to an identifier. -/
theorem mem_suffix {k : Nat} {c : CodePoint} (h : c ∈ CodePoint.char '_' :: Text.ofNat k) :
    c ∈ Text.ofString "_0123456789" := by
  have hdigit : ∀ d < 10, Text.digitPoint d ∈ Text.ofString "_0123456789" := by decide
  rcases List.mem_cons.mp h with rfl | h
  · decide
  · obtain ⟨d, hd, rfl⟩ := Text.mem_ofNat h
    exact hdigit d hd

/-- A number after a text stays as it is in the plain form. -/
theorem plainForm_numbered (t : Text) (k : Nat) :
    (Naming.numbered t k).plainForm = Naming.numbered t.plainForm k := by
  have hascii : ∀ c ∈ Text.ofString "_0123456789", c.isAscii = true := by decide
  exact Text.plainForm_append
    (fun c hc => CodePoint.isSettled_of_isAscii (hascii c (mem_suffix hc))) t

/-- A name all of whose parts of words are settled is spelled plainly. -/
theorem plainForm_preferred {name : Text} (h : ∀ c ∈ name, c.isWord = true → c.IsSettled) :
    (preferred name).plainForm = preferred name := by
  have hascii : ∀ c ∈ Text.ofString "param_", c.isAscii = true := by decide
  have hstart : ∀ c ∈ Text.ofString "param_", c.IsSettled := fun c hc =>
    CodePoint.isSettled_of_isAscii (hascii c hc)
  refine Text.plainForm_eq_self (List.forall_mem_append.mpr ⟨hstart, List.forall_mem_map.mpr ?_⟩)
  intro c hc
  split
  · exact h c hc ‹_›
  · exact hstart _ (by decide)

/-- A number after a text brings no character that may not stand in a name. -/
theorem forall_continuesName_numbered (t : Text) (k : Nat) :
    (∀ c ∈ Naming.numbered t k, c.continuesName = true) ↔ ∀ c ∈ t, c.continuesName = true := by
  have hsuffix : ∀ c ∈ Text.ofString "_0123456789", c.continuesName = true := by decide +kernel
  rw [Naming.numbered, List.forall_mem_append]
  exact and_iff_left fun c hc => hsuffix c (mem_suffix hc)

/-- An identifier is a name exactly if the parts of words in the name of its input may stand in
one. -/
theorem IsMade.isName_iff (h : b.IsMade) :
    IsName b.identifier ↔ ∀ c ∈ b.name, c.isWord = true → c.continuesName = true := by
  rw [← forall_continuesName_preferred]
  rcases h with h | ⟨k, h⟩
  · rw [h, (isIdentifier_preferred b.name).isName_iff]
  · rw [h, (isIdentifier_numbered (isIdentifier_preferred b.name) k).isName_iff,
      forall_continuesName_numbered]

/-- A binding as a program reads it, with the plain form of the identifier. -/
def plain (b : Binding) : Binding :=
  ⟨b.name, b.identifier.plainForm⟩

/-- An identifier that was made for a name which is spelled plainly is plain. -/
theorem IsMade.plainForm_eq (h : b.IsMade)
    (hname : (preferred b.name).plainForm = preferred b.name) :
    b.identifier.plainForm = b.identifier := by
  rcases h with h | ⟨k, h⟩
  · rw [h, hname]
  · rw [h, plainForm_numbered, hname]

end Binding

namespace Context

variable {op : Operation}

/-- Where the names of a query hold no surrogates there is a unit. Each of its identifiers is a name
of a program exactly if the parts of words in the name of the input may stand in one. Two inputs
have the same identifier exactly if they have the same name. To a program, which reads identifiers
in their plain form, every input keeps its value exactly if no two inputs of different names have
identifiers of the same plain form. So it is where the names are spelled plainly: then the plain
forms are the identifiers themselves. -/
theorem exists_isName (h : ∀ p ∈ op.queryParameters, ∀ unit, CodePoint.surrogate unit ∉ p.name) :
    ∃ c, ofOperation op = .ok c ∧
      c.bindings.map Binding.name = (Input.ofOperation op).map Input.name ∧
      (∀ b ∈ c.bindings,
        IsName b.identifier ↔ ∀ x ∈ b.name, x.isWord = true → x.continuesName = true) ∧
      Binding.AreInjective c.bindings ∧
      (Binding.KeepInputs (c.bindings.map Binding.plain) ↔
        ∀ a ∈ c.bindings, ∀ b ∈ c.bindings,
          a.identifier.plainForm = b.identifier.plainForm → a.name = b.name) ∧
      ((∀ b ∈ c.bindings, (Binding.preferred b.name).plainForm = Binding.preferred b.name) →
        c.bindings.map Binding.plain = c.bindings ∧
          Binding.KeepInputs (c.bindings.map Binding.plain)) := by
  obtain ⟨⟨c, hc, hscoped⟩, -⟩ := exists_isScoped h
  have hmade : ∀ b ∈ c.bindings, b.IsMade := by
    rw [(of_ofOperation hc).1]
    exact Binding.isMade_of_mem_ofNames _
  refine ⟨c, hc, hscoped.names, fun b hb => (hmade b hb).isName_iff, hscoped.injective, ?_,
    fun hplain => ?_⟩
  · rw [Binding.keepInputs_iff, List.forall_mem_map]
    refine forall₂_congr fun a _ => ?_
    rw [List.forall_mem_map]
    rfl
  · have hsame : c.bindings.map Binding.plain = c.bindings := by
      have hidentifier : ∀ b ∈ c.bindings, b.plain = b := fun b hb => by
        rw [Binding.plain, (hmade b hb).plainForm_eq (hplain b hb)]
      rw [List.map_congr_left hidentifier, List.map_id'']
      exact fun _ => rfl
    rw [hsame]
    exact ⟨rfl, Binding.keepInputs_of_forall fun a ha b hb => (hscoped.injective a ha b hb).mp⟩

/-- An operation whose query has parameters of the given names. -/
def queryOperation (names : List String) : Operation :=
  { crowdedOperation with
    path := Text.ofString "/a"
    pathParameters := []
    queryParameters := names.map fun name => .ofPlaceholder (Text.ofString name)
    hasBody := false }

/-- A raised digit makes an identifier that is no name, and a joined letter one that is read as that
of another input. Names of ASCII do no harm. -/
theorem exists_isName_styled :
    (∃ c, ofOperation (queryOperation ["x²", "ﬁ", "fi"]) = .ok c ∧
      c.bindings.map Binding.identifier =
        ["param_x²", "param_ﬁ", "param_fi"].map Text.ofString ∧
      ¬IsName (Text.ofString "param_x²") ∧ ¬Binding.KeepInputs (c.bindings.map Binding.plain)) ∧
    ∃ c, ofOperation (queryOperation ["a", "x y", "x-y"]) = .ok c ∧
      c.bindings.map Binding.identifier =
        ["param_a", "param_x_y", "param_x_y_2"].map Text.ofString ∧
      (∀ b ∈ c.bindings, IsName b.identifier) ∧
      Binding.KeepInputs (c.bindings.map Binding.plain) := by
  constructor
  · have hstyled : Binding.ofNames (inputNames (queryOperation ["x²", "ﬁ", "fi"])) =
        [⟨.ofString "x²", .ofString "param_x²"⟩, ⟨.ofString "ﬁ", .ofString "param_ﬁ"⟩,
          ⟨.ofString "fi", .ofString "param_fi"⟩] := by
      decide +kernel
    have hjoined : (Text.ofString "ﬁ").plainLetters = Text.ofString "fi" := by decide +kernel
    have hraised : CodePoint.char '²' ∈ Text.ofString "x²" ∧ (CodePoint.char '²').isWord = true ∧
        (CodePoint.char '²').continuesName = false := by
      decide +kernel
    have hascii : ∀ c ∈ Text.ofString "param_" ++ Text.ofString "fi", c.isAscii = true := by decide
    have hform : (Text.ofString "param_ﬁ").plainForm = (Text.ofString "param_fi").plainForm := by
      have hsettled : ∀ c ∈ Text.ofString "param_" ++ Text.ofString "fi", c.IsSettled :=
        fun c hc => CodePoint.isSettled_of_isAscii (hascii c hc)
      have hletters : (Text.ofString "param_" ++ Text.ofString "ﬁ").plainLetters =
          (Text.ofString "param_" ++ Text.ofString "fi").plainLetters := by
        rw [Text.plainLetters_eq_self hsettled, Text.plainLetters_append, hjoined,
          Text.plainLetters_eq_self (List.forall_mem_append.mp hsettled).1]
      exact congrArg (fun t => Composition.join (Composition.orderMarks t)) hletters
    have hnames : ∀ p ∈ (queryOperation ["x²", "ﬁ", "fi"]).queryParameters, ∀ unit,
        CodePoint.surrogate unit ∉ p.name := surrogate_not_mem_ofPlaceholder _
    obtain ⟨c, hc, -, hname, -, hkeep, -⟩ := exists_isName hnames
    have hbindings := (of_ofOperation hc).1.trans hstyled
    rw [hbindings] at hname
    refine ⟨c, hc, by rw [hbindings]; rfl, fun h => ?_, fun h => ?_⟩
    · have hpart := (hname _ List.mem_cons_self).mp h _ hraised.1 hraised.2.1
      rw [hraised.2.2] at hpart
      cases hpart
    · rw [hkeep, hbindings] at h
      have hsame := h _ (List.mem_cons_of_mem _ List.mem_cons_self) _
        (List.mem_cons_of_mem _ (List.mem_cons_of_mem _ List.mem_cons_self)) hform
      exact absurd hsame (by decide)
  · have hplain : ∀ name ∈ inputNames (queryOperation ["a", "x y", "x-y"]), ∀ x ∈ name,
        x.isAscii = true ∧ (x.isWord = true → x.continuesName = true) := by
      decide +kernel
    have hnames : ∀ p ∈ (queryOperation ["a", "x y", "x-y"]).queryParameters, ∀ unit,
        CodePoint.surrogate unit ∉ p.name := surrogate_not_mem_ofPlaceholder _
    obtain ⟨c, hc, hbound, hname, -, -, hkeep⟩ := exists_isName hnames
    have hparts : ∀ b ∈ c.bindings, ∀ x ∈ b.name,
        x.isAscii = true ∧ (x.isWord = true → x.continuesName = true) := by
      intro b hb
      refine hplain b.name ?_
      rw [inputNames_eq, ← hbound]
      exact List.mem_map_of_mem hb
    refine ⟨c, hc, by rw [(of_ofOperation hc).1]; decide +kernel,
      fun b hb => (hname b hb).mpr fun x hx => (hparts b hb x hx).2, ?_⟩
    exact (hkeep fun b hb => Binding.plainForm_preferred fun x hx _ =>
      CodePoint.isSettled_of_isAscii (hparts b hb x hx).1).2

end Context

end Toolsmith
