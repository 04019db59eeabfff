import Toolsmith.Proofs.Unit.PathExpression

/-!
# Where requests go

A unit sends its request, with the token, to the address that is made of the host and the value of
the expression for the path, with nothing in between. So it is the first character of the base path
that keeps the host apart. It is a slash if the text that declares the base path is rooted, and the
request goes to the host whatever the inputs are. Any other text goes on with the name of the host,
and the request goes elsewhere.
-/

namespace Toolsmith

/-- The value of a part, where a call for an identifier gives the value of its input. -/
def PathPart.value (values : Text → Text) : PathPart → Text
  | literal t => t
  | argument identifier => values identifier

namespace Context

variable {document : Members} {service host : Text} {displayName : Option Text} {op : Operation}

/-- The address of a request to a host, given the value of the expression for the path. -/
def address (host path : Text) : Text :=
  Text.ofString "https://" ++ host ++ path

/-- What an address names as its host: what stands between the scheme and the next slash. -/
def addressed (url : Text) : Text :=
  (url.drop (Text.ofString "https://").length).takeWhile fun c => c != .char '/'

/-- An address names the host as long as its path begins with a slash. -/
theorem addressed_address {path : Text} (hhost : CodePoint.char '/' ∉ host) (hpath : path ≠ []) :
    addressed (address host path) = host ↔ path.head? = some (.char '/') := by
  have hkept : ∀ c ∈ host, (c != CodePoint.char '/') = true := by
    intro c hc
    refine bne_iff_ne.mpr ?_
    rintro rfl
    exact hhost hc
  obtain ⟨c, rest, rfl⟩ := List.exists_cons_of_ne_nil hpath
  rw [addressed, address, List.append_assoc, List.drop_left, List.takeWhile_append_of_pos hkept,
    List.head?_cons, Option.some.injEq, List.append_right_eq_self, List.takeWhile_eq_nil_iff]
  simp

/-- The parts of the expression for a path begin with the base path. -/
theorem exists_literal_pathParts (bindings : List Binding) (h : op.basePath ≠ []) :
    ∃ more rest, pathParts op bindings = .literal (op.basePath ++ more) :: rest := by
  have hpieces : ∀ (pieces : List Template.Piece) (more : Text), ∃ more' rest,
      PathPart.ofPieces bindings (op.basePath ++ more) pieces =
        .literal (op.basePath ++ more') :: rest := by
    intro pieces
    have hliteral : ∀ more : Text,
        PathPart.ofLiteral (op.basePath ++ more) = [.literal (op.basePath ++ more)] := by
      intro more
      rw [PathPart.ofLiteral, if_neg]
      rw [List.isEmpty_iff, List.append_eq_nil_iff]
      exact fun hnil => h hnil.1
    induction pieces with
    | nil =>
      intro more
      exact ⟨more, [], hliteral more⟩
    | cons piece pieces ih =>
      intro more
      cases piece with
      | point c =>
        rw [PathPart.ofPieces, List.append_assoc]
        exact ih _
      | placeholder name =>
        rw [PathPart.ofPieces]
        split
        · rw [hliteral]
          exact ⟨more, _, rfl⟩
        · rw [List.append_assoc, List.append_assoc op.basePath]
          exact ih _
  unfold pathParts
  split
  · exact ⟨op.path, [], rfl⟩
  · obtain ⟨more, rest, hparts⟩ := hpieces (Template.pieces op.path) []
    rw [List.append_nil] at hparts
    exact ⟨more, rest, hparts⟩

/-- A base path begins with a slash exactly if the text that declares it is rooted: if there is no
such text, or it is empty, begins with a slash, or is an absolute address of a server. Exactly then
the units of the document's operations send their requests to the host that they are given, with any
values for the inputs and any query. -/
theorem address_names_host_iff (document : Members) (service : Text) (displayName : Option Text) :
    (∀ dialect, (BasePath.resolve document service dialect).head? = some (.char '/') ↔
      ∀ t, BasePath.text? document dialect = some t → BasePath.IsRooted dialect t) ∧
    ∀ op ∈ Operation.ofDocument document service displayName, ∀ c, ofOperation op = .ok c →
      ∃ parts, Program.parts? c.pathExpression = some parts ∧
        ∀ host values query, CodePoint.char '/' ∉ host →
          (addressed (address host (parts.flatMap (PathPart.value values) ++ query)) = host ↔
            ∀ t, BasePath.text? document (Dialect.of document) = some t →
              BasePath.IsRooted (Dialect.of document) t) := by
  refine ⟨fun dialect => BasePath.head?_resolve_iff service, fun op hop c hc => ?_⟩
  refine ⟨_, parts?_pathExpression hc, fun host values query hhost => ?_⟩
  have hbase := Operation.basePath_ne_nil hop
  obtain ⟨more, rest, hparts⟩ := exists_literal_pathParts c.bindings hbase
  obtain ⟨_, _, _, _, _, -, -, -, hnode⟩ := Operation.exists_of_mem_ofDocument hop
  have hresolve : op.basePath = BasePath.resolve document service (Dialect.of document) := by
    rw [hnode]
    rfl
  have hpath : (pathParts op c.bindings).flatMap (PathPart.value values) ++ query =
      op.basePath ++ (more ++ (rest.flatMap (PathPart.value values) ++ query)) := by
    rw [hparts, List.flatMap_cons, PathPart.value]
    simp only [List.append_assoc]
  rw [hpath, addressed_address hhost fun hnil => hbase (List.append_eq_nil_iff.mp hnil).1,
    List.head?_append_of_ne_nil _ hbase, hresolve]
  exact BasePath.head?_resolve_iff service

/-- A document whose declared path has no slash before it. -/
def strayDocument : Members :=
  [(Text.ofString "swagger", .text (Text.ofString "2.0")),
    (Text.ofString "basePath", .text (Text.ofString ".example")),
    (Text.ofString "paths", .object [(Text.ofString "/a", .object
      [(Text.ofString "get", .object [])])])]

/-- A unit whose document declares no path sends its requests to its host. One whose document
declares a path without a slash before it sends them to a longer host. -/
theorem address_names_host_samples :
    (∃ op ∈ Operation.ofDocument Operation.sampleDocument [] none, ∃ c, ofOperation op = .ok c ∧
      ∃ parts, Program.parts? c.pathExpression = some parts ∧ ∀ values query,
        addressed (address (Text.ofString "host")
          (parts.flatMap (PathPart.value values) ++ query)) = Text.ofString "host") ∧
    BasePath.resolve strayDocument [] .swagger2 = Text.ofString ".example" ∧
    ∃ op ∈ Operation.ofDocument strayDocument [] none, ∃ c, ofOperation op = .ok c ∧
      ∃ parts, Program.parts? c.pathExpression = some parts ∧ ∀ values query,
        addressed (address (Text.ofString "host")
          (parts.flatMap (PathPart.value values) ++ query)) ≠ Text.ofString "host" := by
  have hhost : CodePoint.char '/' ∉ Text.ofString "host" := by decide
  refine ⟨?_, by decide, ?_⟩
  · have hread : (Operation.ofDocument Operation.sampleDocument [] none).map (fun op =>
        (ofOperation op).toOption.map sendsBody) = [some false] := by
      decide +kernel
    obtain ⟨op, hop, c, hc, -⟩ := exists_of_map_ofOperation hread
    obtain ⟨parts, hparts, hsent⟩ :=
      (address_names_host_iff Operation.sampleDocument [] none).2 op hop c hc
    refine ⟨op, hop, c, hc, parts, hparts, fun values query => (hsent _ values query hhost).mpr ?_⟩
    rw [show BasePath.text? Operation.sampleDocument (Dialect.of Operation.sampleDocument) = none
      by decide]
    exact nofun
  · have hread : (Operation.ofDocument strayDocument [] none).map (fun op =>
        (ofOperation op).toOption.map sendsBody) = [some false] := by
      decide +kernel
    obtain ⟨op, hop, c, hc, -⟩ := exists_of_map_ofOperation hread
    obtain ⟨parts, hparts, hsent⟩ := (address_names_host_iff strayDocument [] none).2 op hop c hc
    refine ⟨op, hop, c, hc, parts, hparts, fun values query heq => ?_⟩
    have hrooted := (hsent _ values query hhost).mp heq (Text.ofString ".example") (by decide)
    exact absurd hrooted (by decide)

end Context

end Toolsmith
