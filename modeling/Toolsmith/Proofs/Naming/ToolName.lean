import Mathlib.Data.List.Forall2
import Toolsmith.Proofs.Text.Pieces
import Toolsmith.Proofs.Tool
import Toolsmith.Publish.Cleanup

/-!
# Names of generated tools

A tool's name has an area, a resource, a method and an operation between hyphens. Cleaning a name
leaves its hyphens and its method, and a number is put behind it. So every generated name has the
shape by which publishing knows one, and its tool is deleted once no manifest has the name.
-/

namespace Toolsmith

namespace Publish

/-- A tool is to be deleted if its name is a text that is neither kept nor new, and is a generated
one. -/
theorem isDoomed_eq_true {keep new : List Json} {members : Members} {name : Text}
    (hname : Members.get? members (Text.ofString "name") = some (.text name))
    (hkeep : Json.text name ∉ keep) (hnew : Json.text name ∉ new)
    (hgenerated : Naming.isGenerated name = true) :
    isDoomed keep new (.object members) = .ok true := by
  have hamong {names : List Json} (hnames : Json.text name ∉ names) :
      isAmong names (.text name) = .ok false := by
    have hnone : names.any (Json.text name).sameKey = false := by
      refine Bool.eq_false_iff.mpr fun hany => ?_
      obtain ⟨v, hv, hsame⟩ := List.any_eq_true.mp hany
      cases v with
      | text t =>
        obtain rfl : name = t := beq_iff_eq.mp hsame
        exact hnames hv
      | _ => cases hsame
    rw [isAmong, hnone]
    rfl
  rw [isDoomed, hname, Option.getD_some, hamong hkeep, hamong hnew, isGeneratedName, hgenerated]
  rfl

end Publish

namespace Naming

variable {method name : Text}

/-- A name with an area, a resource, a method and an operation between hyphens. -/
def HasShape (method name : Text) : Prop :=
  ∃ area resource operation : Text,
    name = area ++ .char '-' :: (resource ++ .char '-' :: (method ++ .char '-' :: operation))

/-- What generation and publishing rely on in the name of a tool for an operation with a method. -/
structure IsToolName (method name : Text) : Prop where
  nonempty : name ≠ []
  points : ∀ c ∈ name, IsNamePoint c
  method : .char '-' :: method.upper ++ [.char '-'] <:+: name
  generated : isGenerated name = true
  notKept : Json.text name ∉ Publish.kept
  /-- A tool of the registry with the name is to be deleted once no manifest has the name. -/
  outdated : ∀ new members, Json.text name ∉ new →
    Members.get? members (Text.ofString "name") = some (.text name) →
    Publish.isDoomed Publish.kept new (.object members) = .ok true

/-- A cleaned text is cleaned piece by piece. -/
theorem clean_append (s t : Text) : clean (s ++ t) = clean s ++ clean t :=
  List.map_append

/-- Cleaning leaves the five methods. -/
theorem clean_upper_of_mem_methods {word : String} (h : word ∈ Operation.methods.map Prod.snd) :
    clean (Text.ofString word).upper = (Text.ofString word).upper := by
  have hall : ∀ word ∈ Operation.methods.map Prod.snd,
      clean (Text.ofString word).upper = (Text.ofString word).upper := by
    decide +kernel
  exact hall word h

/-- The shared name of an operation has the shape of a generated one. -/
theorem hasShape_sharedName {op : Operation}
    (h : ∃ word ∈ Operation.methods.map Prod.snd, op.method = Text.ofString word) :
    HasShape op.method.upper (sharedName op) := by
  obtain ⟨word, hword, hmethod⟩ := h
  have hclean : clean op.method.upper = op.method.upper := by
    rw [hmethod]
    exact clean_upper_of_mem_methods hword
  refine ⟨clean (area op.service op.displayName), clean (resource op.path),
    clean (operationName op.method op.operationId op.path), ?_⟩
  rw [sharedName, rawName]
  simp only [Text.join, List.append_assoc, clean_append, hclean]
  rfl

/-- A name keeps its shape when a number is put behind it. -/
theorem HasShape.numbered (h : HasShape method name) (number : Nat) :
    HasShape method (numbered name number) := by
  obtain ⟨area, resource, operation, rfl⟩ := h
  refine ⟨area, resource, operation ++ .char '_' :: Text.ofNat number, ?_⟩
  simp [Naming.numbered]

/-- A name of the shape has at least three hyphens. -/
theorem HasShape.isGenerated (h : HasShape method name) : isGenerated name = true := by
  obtain ⟨area, resource, operation, rfl⟩ := h
  rw [Naming.isGenerated, decide_eq_true_eq, Text.length_splitOn]
  simp only [List.count_append, List.count_cons_self]
  omega

/-- A name of the shape holds the method between hyphens. -/
theorem HasShape.infix (h : HasShape method name) :
    .char '-' :: method ++ [.char '-'] <:+: name := by
  obtain ⟨area, resource, operation, rfl⟩ := h
  exact ⟨area ++ .char '-' :: resource, operation, by simp⟩

/-- Tools that are kept have no generated names. -/
theorem not_mem_kept (h : isGenerated name = true) : Json.text name ∉ Publish.kept := by
  have hkept : ∀ word ∈ ["get_workers", "Retrieve_Requisitions"],
      Naming.isGenerated (Text.ofString word) = false := by
    decide
  intro hmem
  have hword : ∃ word ∈ ["get_workers", "Retrieve_Requisitions"], name = Text.ofString word := by
    simpa [Publish.kept, Json.ofString] using hmem
  obtain ⟨word, hword, rfl⟩ := hword
  rw [hkept word hword] at h
  cases h

/-- A name of the shape that holds nothing but name points is all that is relied on. -/
theorem HasShape.isToolName (h : HasShape method.upper name) (hpoints : ∀ c ∈ name, IsNamePoint c) :
    IsToolName method name where
  nonempty := by
    rintro rfl
    exact absurd h.infix.length_le (by simp)
  points := hpoints
  method := h.infix
  generated := h.isGenerated
  notKept := not_mem_kept h.isGenerated
  outdated _ _ hnew hname :=
    Publish.isDoomed_eq_true hname (not_mem_kept h.isGenerated) hnew h.isGenerated

/-- Every wish is given as it is or with a number. -/
theorem forall₂_distinctAfter (taken : Taken) (wishes : List Text) :
    List.Forall₂ (fun wish name => name = wish ∨ ∃ number, name = numbered wish number) wishes
      (distinctAfter taken wishes) := by
  induction wishes generalizing taken with
  | nil => exact .nil
  | cons wish wishes ih =>
    have hgiven : (taken.give wish).1 = wish ∨
        ∃ number, (taken.give wish).1 = numbered wish number := by
      unfold Taken.give
      split
      · exact .inr ⟨_, rfl⟩
      · exact .inl rfl
    exact .cons hgiven (ih _)

/-- The names that operations are given are put into them in order. -/
theorem forall₂_zip_toolName {Given : Text → Text → Prop} {operations : List Operation}
    {names : List Text} (h : List.Forall₂ Given (operations.map sharedName) names) :
    List.Forall₂ (fun op named =>
        named = { op with toolName := named.toolName } ∧ Given (sharedName op) named.toolName)
      operations ((operations.zip names).map fun op => { op.1 with toolName := op.2 }) := by
  induction operations generalizing names with
  | nil =>
    cases h
    exact .nil
  | cons op operations ih =>
    obtain - | ⟨hname, hnames⟩ := h
    exact .cons ⟨rfl, hname⟩ (ih hnames)

/-- The operations of a document are given distinct names of generated tools, in order. Nothing else
about them changes. -/
theorem nameAll_ofDocument (document : Members) (service : Text) (displayName : Option Text) :
    ((nameAll (Operation.ofDocument document service displayName)).map
        Operation.toolName).Nodup ∧
      List.Forall₂ (fun op named =>
          named = { op with toolName := named.toolName } ∧ IsToolName op.method named.toolName)
        (Operation.ofDocument document service displayName)
        (nameAll (Operation.ofDocument document service displayName)) := by
  refine ⟨nodup_nameAll _, ?_⟩
  have hshapes : ∀ op ∈ Operation.ofDocument document service displayName,
      HasShape op.method.upper (sharedName op) :=
    fun _ hop => hasShape_sharedName (Operation.method_of_mem_ofDocument hop)
  have hnamed := forall₂_zip_toolName (forall₂_distinctAfter ⟨[], []⟩
    ((Operation.ofDocument document service displayName).map sharedName))
  refine ((List.forall₂_and_left _ _).mpr ⟨hshapes, hnamed⟩).imp ?_
  rintro op named ⟨hshape, hcopy, hgiven⟩
  refine ⟨hcopy, ?_⟩
  rcases hgiven with hname | ⟨number, hname⟩
  · rw [hname]
    exact hshape.isToolName (isNamePoint_clean _)
  · rw [hname]
    exact (hshape.numbered number).isToolName (isNamePoint_numbered (isNamePoint_clean _) number)

end Naming

end Toolsmith
