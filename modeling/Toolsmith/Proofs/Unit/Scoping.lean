import Toolsmith.Proofs.Document.Listing
import Toolsmith.Proofs.Unit.PathExpression

/-!
# The identifiers of a unit are bound

A unit reads each of its inputs once, under the name by which the input is published, and binds it
to an identifier. No keyword and no name of the lines that all units share is such an identifier,
and every identifier in the expression for the path, in the query and in the body is bound.
-/

namespace Toolsmith

namespace Program

/-- What stands in no line as it is spelled out stands in no line. -/
theorem Spells.not_infix {lines : List String} {spelling : List (List Char)} {part : Text}
    (h : Spells lines spelling)
    (hpart : ∀ characters ∈ spelling, Text.includes part (characters.map .char) = false) :
    ∀ line ∈ lines, ¬part <:+: Text.ofString line := by
  induction h with
  | nil => exact List.forall_mem_nil _
  | cons characters _ ih =>
    obtain ⟨hfirst, hrest⟩ := List.forall_mem_cons.mp hpart
    refine List.forall_mem_cons.mpr ⟨fun hinfix => ?_, ih hrest⟩
    rw [Text.ofString, String.toList_ofList, ← Text.includes_eq_true, hfirst] at hinfix
    cases hinfix

end Program

namespace Source

/-- The lines that all units share, and what stands before the names of the host and the token. -/
def shared : List String :=
  introduction ++ ["HOST_VARIABLE = ", "TOKEN_VARIABLE = ", "TIMEOUT = 30.0", "ERROR_MAP = \x7b"] ++
    helpers ++ ["    query_parts = []"] ++ queryEnd ++ headers ++
    ["    body_data = None",
      "        headers[\"Content-Length\"] = str(len(body_data.encode(\"utf-8\")))"] ++
    requestStart ++ requestTarget ++ Program.bodyArgumentLines ++ ending

/-- The words that cannot be names in a program. -/
def keywords : List String :=
  ["False", "None", "True", "and", "as", "assert", "async", "await", "break", "class", "continue",
    "def", "del", "elif", "else", "except", "finally", "for", "from", "global", "if", "import", "in",
    "is", "lambda", "nonlocal", "not", "or", "pass", "raise", "return", "try", "while", "with",
    "yield"]

/-- An identifier of an input stands in no line that all units share, and is no keyword. -/
theorem not_infix_of_isIdentifier {t : Text} (h : IsIdentifier t) :
    (∀ line ∈ shared, ¬t <:+: Text.ofString line) ∧ ∀ word ∈ keywords, t ≠ Text.ofString word := by
  have hshared : ∀ line ∈ shared, ¬Text.ofString "param_" <:+: Text.ofString line := by
    refine Program.Spells.not_infix (by repeat constructor) ?_
    decide +kernel
  have hkeywords : ∀ word ∈ keywords, ¬Text.ofString "param_" <+: Text.ofString word := by
    decide
  obtain ⟨rest, rfl, -⟩ := h
  refine ⟨fun line hline hinfix => hshared line hline ?_, fun word hword heq => ?_⟩
  · exact (List.prefix_append (Text.ofString "param_") rest).isInfix.trans hinfix
  · exact hkeywords word hword (heq ▸ List.prefix_append _ rest)

end Source

namespace Binding

/-- A search for a fresh identifier ends at one identifier only. -/
theorem isFresh_iff {taken : List Text} {name identifier : Text} :
    IsFresh taken name identifier ↔ identifier = fresh taken name := by
  refine ⟨fun h => ?_, fun h => h ▸ isFresh_fresh taken name⟩
  unfold fresh
  simp only
  obtain ⟨hfree, rfl⟩ | ⟨htaken, last, hsearch, rfl⟩ := h
  · rw [if_neg fun hmem => hfree (List.contains_iff_mem.mp hmem)]
  · rw [if_pos (List.contains_iff_mem.mpr htaken), hsearch.eq_firstFree]

end Binding

namespace Context

variable {op : Operation} {c : Context}

/-- How the inputs of an operation are bound in its unit. -/
structure IsScoped (op : Operation) (c : Context) : Prop where
  /-- There is one binding for each input that is published, in the same order. -/
  names : c.bindings.map Binding.name = (Input.ofOperation op).map Input.name
  injective : Binding.AreInjective c.bindings
  identifiers : ∀ b ∈ c.bindings, IsIdentifier b.identifier
  apart : ∀ b ∈ c.bindings, (∀ line ∈ Source.shared, ¬b.identifier <:+: Text.ofString line) ∧
    ∀ word ∈ Source.keywords, b.identifier ≠ Text.ofString word
  /-- The calls in the expression for the path are for bound identifiers. -/
  path : ∃ parts, Program.parts? c.pathExpression = some parts ∧
    ∀ identifier, .argument identifier ∈ parts → ∃ b ∈ c.bindings, b.identifier = identifier
  /-- Every parameter of the query has a key with the identifier that is bound to it. -/
  query : List.Forall₂ (fun p key => ⟨p.name, key.identifier⟩ ∈ c.bindings) op.queryParameters
    c.query
  body : c.sendsBody = true → ∃ identifier, c.bodyIdentifier = some identifier ∧
    ⟨bodyName, identifier⟩ ∈ c.bindings

/-- The inputs of a unit are those that are published. -/
theorem inputNames_eq (op : Operation) : inputNames op = (Input.ofOperation op).map Input.name := by
  unfold inputNames Input.ofOperation
  rw [List.map_append, List.map_append, List.map_map, List.map_map]
  congr 1
  split <;> rfl

/-- The keys of a query are made from its parameters, one for each. -/
theorem forall₂_queryKey? {bindings : List Binding} {parameters : List Parameter}
    {query : List QueryKey} (h : parameters.mapM (queryKey? bindings) = some query) :
    List.Forall₂ (fun p key => queryKey? bindings p = some key) parameters query := by
  have hkeys := map_queryKey? h
  rwa [← List.forall₂_eq_eq_eq, List.forall₂_map_left_iff, List.forall₂_map_right_iff] at hkeys

/-- The key of a parameter has the identifier that is bound to the parameter. -/
theorem mem_of_queryKey? {bindings : List Binding} {p : Parameter} {key : QueryKey}
    (hbound : p.name ∈ bindings.map Binding.name) (h : queryKey? bindings p = some key) :
    ⟨p.name, key.identifier⟩ ∈ bindings := by
  obtain ⟨identifier, hlookup⟩ := Option.isSome_iff_exists.mp (Binding.isSome_lookup hbound)
  obtain ⟨encoded, -, rfl⟩ := Option.map_eq_some_iff.mp h
  simp only [hlookup, Option.getD_some]
  exact Binding.mem_of_lookup hlookup

/-- The inputs of an operation with a unit are bound in it. -/
theorem isScoped_of_ofOperation (h : ofOperation op = .ok c) : c.IsScoped op := by
  obtain ⟨hidentifiers, hnames⟩ := Binding.ofNames_spec (inputNames op)
  have hparts := parts?_pathExpression h
  obtain ⟨query, hquery, rfl⟩ := ofOperation_eq_ok.mp h
  refine ⟨hnames.trans (inputNames_eq op), Binding.areInjective_ofNames _, hidentifiers,
    fun b hb => Source.not_infix_of_isIdentifier (hidentifiers b hb),
    ⟨_, hparts, fun identifier hid => exists_of_mem_pathParts hid⟩, ?_, fun hbody => ?_⟩
  · have hbound : ∀ p ∈ op.queryParameters,
        p.name ∈ (Binding.ofNames (inputNames op)).map Binding.name := by
      intro p hp
      rw [hnames]
      exact List.mem_append_left _ (List.mem_append_right _ (List.mem_map_of_mem hp))
    have hkeys := (List.forall₂_and_left _ _).mpr ⟨hbound, forall₂_queryKey? hquery⟩
    exact hkeys.imp fun p key hkey => mem_of_queryKey? hkey.1 hkey.2
  · have hmem : bodyName ∈ (Binding.ofNames (inputNames op)).map Binding.name := by
      have hhas : op.hasBody = true := (Bool.and_eq_true_iff.mp hbody).1
      rw [hnames]
      exact List.mem_append_right _ (by rw [if_pos hhas]; exact List.mem_singleton_self _)
    obtain ⟨identifier, hlookup⟩ := Option.isSome_iff_exists.mp (Binding.isSome_lookup hmem)
    exact ⟨identifier, hlookup, Binding.mem_of_lookup hlookup⟩

/-- Every operation the names of whose query hold no surrogates has a unit in which its inputs are
bound. The search for a fresh identifier ends whatever is taken. -/
theorem exists_isScoped
    (h : ∀ p ∈ op.queryParameters, ∀ unit, CodePoint.surrogate unit ∉ p.name) :
    (∃ c, ofOperation op = .ok c ∧ c.IsScoped op) ∧
      ∀ taken name identifier, Binding.IsFresh taken name identifier ↔
        identifier = Binding.fresh taken name := by
  have hencode : ∀ p ∈ op.queryParameters, p.name.encode.isSome = true := by
    intro p hp
    refine Text.encode_isSome_iff.mpr fun point hpoint => ?_
    cases point with
    | char c => rfl
    | surrogate unit => exact absurd hpoint (h p hp unit)
  obtain ⟨c, hc⟩ := exists_ofOperation hencode
  exact ⟨⟨c, hc, isScoped_of_ofOperation hc⟩, fun taken name identifier => Binding.isFresh_iff⟩

/-- Names that are spelled out hold no surrogates. -/
theorem surrogate_not_mem_ofPlaceholder (names : List String) :
    ∀ p ∈ names.map fun name => Parameter.ofPlaceholder (Text.ofString name), ∀ unit,
      CodePoint.surrogate unit ∉ p.name := by
  intro p hp unit hunit
  obtain ⟨name, -, rfl⟩ := List.mem_map.mp hp
  obtain ⟨c, -, hc⟩ := List.mem_map.mp hunit
  cases hc

/-- An operation with names that are written alike as identifiers, and with one that comes twice. -/
def crowdedOperation : Operation where
  service := Text.ofString "s"
  displayName := none
  method := Text.ofString "POST"
  path := Text.ofString "/\x7ba b\x7d"
  operationId := none
  summary := []
  description := []
  pathParameters := [.ofPlaceholder (Text.ofString "a b"), .ofPlaceholder (Text.ofString "class")]
  queryParameters := [.ofPlaceholder (Text.ofString "a-b"), .ofPlaceholder (Text.ofString "a b"),
    .ofPlaceholder (Text.ofString "a_b_2")]
  hasBody := true
  bodyDescription := .null
  basePath := []
  toolName := []

/-- The crowded operation has a unit, with an identifier for every name. -/
theorem exists_isScoped_crowded :
    (∀ p ∈ crowdedOperation.queryParameters, ∀ unit, CodePoint.surrogate unit ∉ p.name) ∧
      (Binding.ofNames (inputNames crowdedOperation)).map Binding.identifier =
        ["param_a_b", "param_class", "param_a_b_2", "param_a_b", "param_a_b_2_2",
          "param_requestBody"].map Text.ofString ∧
      ∃ c, ofOperation crowdedOperation = .ok c ∧ c.IsScoped crowdedOperation := by
  have hnames : ∀ p ∈ crowdedOperation.queryParameters, ∀ unit,
      CodePoint.surrogate unit ∉ p.name := by
    intro p hp unit hunit
    have hchars : ∀ p ∈ crowdedOperation.queryParameters, ∀ c ∈ p.name, c.toChar?.isSome = true := by
      decide
    exact absurd (hchars p hp _ hunit) Bool.false_ne_true
  exact ⟨hnames, by decide +kernel, (exists_isScoped hnames).1⟩

end Context

end Toolsmith
