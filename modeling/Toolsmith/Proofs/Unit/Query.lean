import Toolsmith.Proofs.Text.Percent
import Toolsmith.Proofs.Unit.Scoping

/-!
# The keys of a query

A unit writes the keys of its query as they stand in its source, so they must not hold anything that
has a meaning in an address. The key of a parameter is its name percent-encoded, and an equals sign:
the name is read back from what stands before the sign, and no name brings a delimiter of its own.
-/

namespace Toolsmith

namespace CodePoint

variable {c : CodePoint}

/-- The letters lie between two numbers. -/
theorem code_of_isAsciiLetter (h : c.isAsciiLetter = true) : 0x41 ≤ c.code ∧ c.code ≤ 0x7A := by
  cases c with
  | surrogate unit => cases h
  | char c =>
    change 0x41 ≤ c.toNat ∧ c.toNat ≤ 0x7A
    rcases Bool.or_eq_true_iff.mp h with hupper | hlower
    · have hcase : 'A'.val ≤ c.val ∧ c.val ≤ 'Z'.val := of_decide_eq_true hupper
      rw [UInt32.le_iff_toNat_le, UInt32.le_iff_toNat_le] at hcase
      change 0x41 ≤ c.toNat ∧ c.toNat ≤ 0x5A at hcase
      omega
    · have hcase : 'a'.val ≤ c.val ∧ c.val ≤ 'z'.val :=
        (Bool.and_eq_true_iff.mp hlower).imp of_decide_eq_true of_decide_eq_true
      rw [UInt32.le_iff_toNat_le, UInt32.le_iff_toNat_le] at hcase
      change 0x61 ≤ c.toNat ∧ c.toNat ≤ 0x7A at hcase
      omega

/-- The digits lie between two numbers. -/
theorem code_of_isAsciiDigit (h : c.isAsciiDigit = true) : 0x30 ≤ c.code ∧ c.code ≤ 0x39 := by
  cases c with
  | surrogate unit => cases h
  | char c =>
    simp only [isAsciiDigit, Char.isDigit, Bool.and_eq_true, decide_eq_true_eq,
      UInt32.le_iff_toNat_le, ge_iff_le] at h
    exact h

end CodePoint

namespace QueryKey

variable {key other : QueryKey} {name otherName : Text} {c : CodePoint}

/-- A code point that may stand in a key before the equals sign. -/
def IsNamePoint (c : CodePoint) : Prop :=
  c.isAsciiLetter = true ∨ c.isAsciiDigit = true ∨ c ∈ Text.ofString "_.-~!*'()%"

/-- A code point that divides the parts of an address, a blank, a control character or one beyond
ASCII. -/
def IsDelimiter (c : CodePoint) : Prop :=
  c ∈ Text.ofString "&=#?/" ∨ c.code ≤ 0x20 ∨ 0x7F ≤ c.code

instance (c : CodePoint) : Decidable (IsDelimiter c) :=
  inferInstanceAs (Decidable (_ ∨ _ ∨ _))

/-- What may stand in a key before the equals sign is no delimiter. -/
theorem IsNamePoint.not_isDelimiter (h : IsNamePoint c) : ¬IsDelimiter c := by
  have hmarks : ∀ c ∈ Text.ofString "_.-~!*'()%", ¬IsDelimiter c := by decide
  have hnumbers : ∀ c ∈ Text.ofString "&=#?/", c.code < 0x30 ∨ (0x39 < c.code ∧ c.code < 0x41) := by
    decide
  rcases h with hletter | hdigit | hmark
  · have hcode := CodePoint.code_of_isAsciiLetter hletter
    rintro (hmem | hlow | hhigh)
    · have hnumber := hnumbers c hmem
      omega
    · omega
    · omega
  · have hcode := CodePoint.code_of_isAsciiDigit hdigit
    rintro (hmem | hlow | hhigh)
    · have hnumber := hnumbers c hmem
      omega
    · omega
    · omega
  · exact hmarks c hmark

/-- A key that stands for a name: a text without delimiters and then an equals sign, where the text
is the name when its escapes are read as bytes and these as UTF-8. -/
def StandsFor (key : QueryKey) (name : Text) : Prop :=
  ∃ encoded, key.start = encoded ++ [.char '='] ∧
    (∀ c ∈ encoded, IsNamePoint c ∧ ¬IsDelimiter c) ∧
    Text.decode (Text.escapedBytes 0 encoded) = some name

/-- Keys with the same text stand for the same name. -/
theorem StandsFor.eq_of_start_eq (h : key.StandsFor name) (h' : other.StandsFor otherName)
    (heq : key.start = other.start) : name = otherName := by
  obtain ⟨encoded, hstart, -, hreads⟩ := h
  obtain ⟨encoded', hstart', -, hreads'⟩ := h'
  rw [hstart, hstart'] at heq
  obtain rfl := List.append_cancel_right heq
  exact Option.some.inj (hreads.symm.trans hreads')

end QueryKey

namespace Context

variable {op : Operation} {c : Context} {bindings : List Binding}

/-- The key of a parameter stands for the name of the parameter. -/
theorem standsFor_of_queryKey? {p : Parameter} {key : QueryKey}
    (h : queryKey? bindings p = some key) : key.StandsFor p.name := by
  have hsafe : CodePoint.char '%' ∉ querySafe := by decide
  have hmarks : ∀ c ∈ Text.ofString "_.-~" ++ querySafe ++ [.char '%'],
      c ∈ Text.ofString "_.-~!*'()%" := by
    decide
  obtain ⟨encoded, hencoded, rfl⟩ := Option.map_eq_some_iff.mp h
  have hpoint : ∀ c ∈ encoded, QueryKey.IsNamePoint c := by
    intro c hc
    rcases Text.mem_of_percentEncode hencoded hc with hletter | hdigit | hmark
    · exact .inl hletter
    · exact .inr (.inl hdigit)
    · refine .inr (.inr (hmarks c ?_))
      simpa [or_assoc] using hmark
  exact ⟨encoded, rfl, fun c hc => ⟨hpoint c hc, (hpoint c hc).not_isDelimiter⟩,
    Text.decode_escapedBytes hsafe hencoded⟩

/-- Parameters with the same name have the same key. -/
theorem eq_of_queryKey? {p q : Parameter} {key other : QueryKey}
    (h : queryKey? bindings p = some key) (h' : queryKey? bindings q = some other)
    (hname : p.name = q.name) : key = other := by
  unfold queryKey? at h h'
  rw [hname] at h
  exact Option.some.inj (h.symm.trans h')

/-- Where the names of a query hold no surrogates there is a unit, and its keys stand for them, one
for each in order. Two parameters have the same key exactly if they have the same name. -/
theorem exists_query (h : ∀ p ∈ op.queryParameters, ∀ unit, CodePoint.surrogate unit ∉ p.name) :
    ∃ c, ofOperation op = .ok c ∧
      List.Forall₂ (fun p key => key.StandsFor p.name) op.queryParameters c.query ∧
      ∀ a ∈ op.queryParameters.zip c.query, ∀ b ∈ op.queryParameters.zip c.query,
        a.2.start = b.2.start ↔ a.1.name = b.1.name := by
  obtain ⟨⟨c, hc, -⟩, -⟩ := exists_isScoped h
  obtain ⟨query, hquery, rfl⟩ := ofOperation_eq_ok.mp hc
  have hkeys := forall₂_queryKey? hquery
  have hstands : List.Forall₂ (fun p key => key.StandsFor p.name) op.queryParameters query :=
    hkeys.imp fun p key hkey => standsFor_of_queryKey? hkey
  refine ⟨_, hc, hstands, fun a ha b hb => ⟨fun hstart => ?_, fun hname => ?_⟩⟩
  · exact (List.forall₂_zip hstands ha).eq_of_start_eq (List.forall₂_zip hstands hb) hstart
  · rw [eq_of_queryKey? (List.forall₂_zip hkeys ha) (List.forall₂_zip hkeys hb) hname]

/-- An operation whose query has names with delimiters, with an escape, beyond ASCII and beyond the
first plane, and one that is empty. -/
def delimitedOperation : Operation :=
  { crowdedOperation with
    queryParameters := ["a&b=c#/?", "%41 +\n", "é€", "𝄞~", ""].map fun name =>
      .ofPlaceholder (Text.ofString name) }

/-- The names are escaped in the keys of the query, and so is the escape in one of them. -/
theorem exists_query_delimited :
    (∀ p ∈ delimitedOperation.queryParameters, ∀ unit, CodePoint.surrogate unit ∉ p.name) ∧
      ∃ c, ofOperation delimitedOperation = .ok c ∧
        c.query.map QueryKey.start = ["a%26b%3Dc%23%2F%3F=", "%2541%20%2B%0A=", "%C3%A9%E2%82%AC=",
          "%F0%9D%84%9E~=", "="].map Text.ofString ∧
        List.Forall₂ (fun p key => key.StandsFor p.name) delimitedOperation.queryParameters
          c.query ∧
        ∀ a ∈ delimitedOperation.queryParameters.zip c.query,
          ∀ b ∈ delimitedOperation.queryParameters.zip c.query,
            a.2.start = b.2.start ↔ a.1.name = b.1.name := by
  have hnames : ∀ p ∈ delimitedOperation.queryParameters, ∀ unit,
      CodePoint.surrogate unit ∉ p.name := surrogate_not_mem_ofPlaceholder _
  have hread : (ofOperation delimitedOperation).toOption.map (fun c => c.query.map QueryKey.start) =
      some (["a%26b%3Dc%23%2F%3F=", "%2541%20%2B%0A=", "%C3%A9%E2%82%AC=", "%F0%9D%84%9E~=",
        "="].map Text.ofString) := by
    decide +kernel
  obtain ⟨c, hc, hstands, hkeys⟩ := exists_query hnames
  rw [hc] at hread
  exact ⟨hnames, c, hc, Option.some.inj hread, hstands, hkeys⟩

end Context

end Toolsmith
