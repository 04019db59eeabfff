import Mathlib.Data.List.Nodup
import Toolsmith.Proofs.Document.Body
import Toolsmith.Proofs.Document.Template

/-!
# Parameters of operations

The parameters of an operation's path are those that the path has placeholders for, whatever is
declared. Those of its query are what is declared, each at its first declaration.
-/

namespace Toolsmith

namespace Declaration

variable {document : Members} {raw : Json} {d e : Declaration} {seen declared : List Declaration}

/-- A value that declares a parameter, itself or by what it refers to: an object with a name that
is not empty and with a location, both texts. -/
structure IsDeclared (document : Members) (raw : Json) (d : Declaration) : Prop where
  target : Pointer.deref? document raw = some (.object d.members)
  name : d.members.get? (Text.ofString "name") = some (.text d.name)
  named : d.name ≠ []
  location : d.members.get? (Text.ofString "in") = some (.text d.location)

/-- A declaration is read from what declares it, and from nothing else. -/
theorem ofJson?_eq_some : ofJson? document raw = some d ↔ IsDeclared document raw d := by
  constructor
  · intro h
    unfold ofJson? at h
    split at h
    · rename_i members htarget
      split at h
      · rename_i c rest location hname hlocation
        cases h
        exact ⟨htarget, hname, List.cons_ne_nil c rest, hlocation⟩
      · cases h
    · cases h
  · rintro ⟨htarget, hname, hnamed, hlocation⟩
    obtain ⟨name, location, members⟩ := d
    obtain ⟨c, rest, rfl⟩ := List.exists_cons_of_ne_nil hnamed
    simp only at htarget hname hlocation
    simp only [ofJson?, htarget, hname, hlocation]

/-- Declarations are of the same parameter if they agree in name and location. -/
theorem sameParameter_eq_true :
    d.sameParameter e = true ↔ d.name = e.name ∧ d.location = e.location := by
  rw [sameParameter, Bool.and_eq_true, beq_iff_eq, beq_iff_eq]

/-- The declarations that no declaration of the same parameter comes before, in their order. -/
def firsts (declared : List Declaration) : List Declaration :=
  (declared.zipIdx.filter fun d => !(declared.take d.2).any d.1.sameParameter).map Prod.fst

/-- What is left of declarations after others are those that come after none of the same
parameter. -/
theorem distinctAfter_eq (before rest : List Declaration)
    (hseen : ∀ d : Declaration, seen.any d.sameParameter = before.any d.sameParameter) :
    distinctAfter seen rest =
      ((rest.zipIdx before.length).filter fun d =>
        !((before ++ rest).take d.2).any d.1.sameParameter).map Prod.fst := by
  induction rest generalizing seen before with
  | nil => rfl
  | cons first rest ih =>
    have hbefore : (before ++ first :: rest).take before.length = before := List.take_left
    have hassoc : before ++ first :: rest = (before ++ [first]) ++ rest :=
      List.append_cons before first rest
    have hlength : before.length + 1 = (before ++ [first]).length := by simp
    rw [distinctAfter, List.zipIdx_cons, List.filter_cons]
    simp only [hbefore, hseen]
    -- what has been seen before the rest has the same parameters as what comes before it
    have hpass : before.any first.sameParameter = true → ∀ d : Declaration,
        seen.any d.sameParameter = (before ++ [first]).any d.sameParameter := by
      intro hfirst d
      rw [List.any_append, hseen, Bool.eq_iff_iff, Bool.or_eq_true]
      refine ⟨.inl, fun h => h.elim id fun hlast => ?_⟩
      obtain ⟨e, he, hsame⟩ := List.any_eq_true.mp hfirst
      obtain ⟨f, hf, hd⟩ := List.any_eq_true.mp hlast
      obtain rfl := List.mem_singleton.mp hf
      rw [sameParameter_eq_true] at hsame hd
      exact List.any_eq_true.mpr ⟨e, he, sameParameter_eq_true.mpr
        ⟨hd.1.trans hsame.1, hd.2.trans hsame.2⟩⟩
    have htake : ∀ d : Declaration,
        (first :: seen).any d.sameParameter = (before ++ [first]).any d.sameParameter := by
      intro d
      rw [List.any_append, List.any_cons, List.any_cons, List.any_nil, Bool.or_false,
        hseen, Bool.or_comm]
    cases hfirst : before.any first.sameParameter with
    | true =>
      rw [if_pos rfl, if_neg (by simp), ih _ (hpass hfirst), hlength, hassoc]
    | false =>
      rw [if_neg (by simp), if_pos (by simp), List.map_cons, ih _ htake, hlength, hassoc]

/-- Merged declarations are the first ones of their parameters. -/
theorem merged_eq_firsts (document pathItem operation : Members) :
    merged document pathItem operation =
      firsts ((rawList pathItem ++ rawList operation).filterMap (ofJson? document)) :=
  distinctAfter_eq [] _ fun _ => rfl

/-- Declarations that are left are of parameters that have not been seen, and of different ones. -/
theorem pairwise_distinctAfter (seen declared : List Declaration) :
    (distinctAfter seen declared).Pairwise (fun d e => d.sameParameter e = false) ∧
      ∀ d ∈ distinctAfter seen declared, seen.any d.sameParameter = false := by
  induction declared generalizing seen with
  | nil => exact ⟨.nil, List.forall_mem_nil _⟩
  | cons first rest ih =>
    rw [distinctAfter]
    cases hfirst : seen.any first.sameParameter with
    | true => exact ih seen
    | false =>
      obtain ⟨hpairwise, hnew⟩ := ih (first :: seen)
      simp only [List.any_cons, Bool.or_eq_false_iff] at hnew
      refine ⟨List.pairwise_cons.mpr ⟨fun d hd => ?_, hpairwise⟩,
        List.forall_mem_cons.mpr ⟨hfirst, fun d hd => (hnew d hd).2⟩⟩
      have hother := (hnew d hd).1
      rw [Bool.eq_false_iff, ne_eq, sameParameter_eq_true] at hother ⊢
      exact fun hsame => hother ⟨hsame.1.symm, hsame.2.symm⟩

/-- Merged declarations of one location have different names. -/
theorem nodup_merged (document pathItem operation : Members) (location : Text) :
    (((merged document pathItem operation).filter fun d => d.location == location).map
      Declaration.name).Nodup := by
  have hpairwise := (pairwise_distinctAfter []
    ((rawList pathItem ++ rawList operation).filterMap (ofJson? document))).1
  refine List.pairwise_map.mpr ((hpairwise.filter _).imp_of_mem fun hd he hother hname => ?_)
  rw [Bool.eq_false_iff, ne_eq, sameParameter_eq_true] at hother
  have hlocation := beq_iff_eq.mp (List.mem_filter.mp hd).2
  exact hother ⟨hname, hlocation.trans (beq_iff_eq.mp (List.mem_filter.mp he).2).symm⟩

/-- A declared parameter has the name of its declaration. -/
theorem map_name_toParameter (document : Members) (declared : List Declaration) :
    (declared.map (toParameter document)).map Parameter.name = declared.map Declaration.name :=
  List.map_map

end Declaration

namespace Parameter

variable {path : Text} {declared aligned : List Parameter} {names : List Text}

/-- The parameters with one more for a placeholder, unless there is one already. -/
def cover (aligned : List Parameter) (name : Text) : List Parameter :=
  if aligned.any (·.name == name) then aligned else aligned ++ [ofPlaceholder name]

/-- The parameters of a path are the declared ones that it has placeholders for, and then those
that cover the placeholders. -/
theorem align_eq (path : Text) (declared : List Parameter) :
    align path declared = (Template.placeholders path).foldl cover
      (declared.filter fun p => (Template.placeholders path).contains p.name) :=
  rfl

/-- A parameter has a name exactly if it is found under it. -/
theorem any_name_eq_true {name : Text} :
    (aligned.any (·.name == name)) = true ↔ name ∈ aligned.map Parameter.name := by
  simp only [List.any_eq_true, beq_iff_eq, List.mem_map]

/-- A placeholder that is covered has one parameter, and the others stay. -/
theorem cover_spec (h : (aligned.map Parameter.name).Nodup) (name : Text) :
    ((cover aligned name).map Parameter.name).Nodup ∧
      (∀ other, other ∈ (cover aligned name).map Parameter.name ↔
        other ∈ aligned.map Parameter.name ∨ other = name) ∧
      ∀ p ∈ cover aligned name, p ∈ aligned ∨ p = ofPlaceholder name := by
  unfold cover
  split
  · rename_i hthere
    have hmem := any_name_eq_true.mp hthere
    refine ⟨h, fun other => ⟨.inl, fun hother => hother.elim id ?_⟩, fun p hp => .inl hp⟩
    rintro rfl
    exact hmem
  · rename_i hnew
    have hnew : name ∉ aligned.map Parameter.name := fun hmem => hnew (any_name_eq_true.mpr hmem)
    have hname : (ofPlaceholder name).name = name := rfl
    rw [List.map_append, List.map_singleton, hname]
    refine ⟨List.nodup_append.mpr ⟨h, List.nodup_singleton name, fun other hother last hlast => ?_⟩,
      by simp, by simp⟩
    obtain rfl := List.mem_singleton.mp hlast
    rintro rfl
    exact hnew hother

/-- Placeholders that are covered one after another have one parameter each. -/
theorem foldl_cover_spec (h : (aligned.map Parameter.name).Nodup) (names : List Text) :
    ((names.foldl cover aligned).map Parameter.name).Nodup ∧
      (∀ other, other ∈ (names.foldl cover aligned).map Parameter.name ↔
        other ∈ aligned.map Parameter.name ∨ other ∈ names) ∧
      ∀ p ∈ names.foldl cover aligned, p ∈ aligned ∨ ∃ name ∈ names, p = ofPlaceholder name := by
  induction names generalizing aligned with
  | nil => simp [h]
  | cons name names ih =>
    obtain ⟨hnodup, hnames, hmem⟩ := cover_spec h name
    obtain ⟨hnodup', hnames', hmem'⟩ := ih hnodup
    refine ⟨hnodup', fun other => ?_, fun p hp => ?_⟩
    · rw [List.foldl_cons, hnames', hnames, List.mem_cons, or_assoc]
    · rcases hmem' p hp with hp | ⟨other, hother, rfl⟩
      · rcases hmem p hp with hp | rfl
        · exact .inl hp
        · exact .inr ⟨name, List.mem_cons_self, rfl⟩
      · exact .inr ⟨other, List.mem_cons_of_mem _ hother, rfl⟩

/-- Where declared parameters have different names, those of the path have different names, which
are those of its placeholders. Each is declared or made for a placeholder. -/
theorem align_spec (path : Text) (h : (declared.map Parameter.name).Nodup) :
    ((align path declared).map Parameter.name).Nodup ∧
      (∀ name, name ∈ (align path declared).map Parameter.name ↔
        name ∈ Template.placeholders path) ∧
      ∀ p ∈ align path declared, p ∈ declared ∨ ∃ name, p = ofPlaceholder name := by
  have hsublist : List.Sublist
      (declared.filter fun p => (Template.placeholders path).contains p.name) declared :=
    List.filter_sublist
  obtain ⟨hnodup, hnames, hmem⟩ :=
    foldl_cover_spec (h.sublist (hsublist.map Parameter.name)) (Template.placeholders path)
  refine ⟨hnodup, fun name => ?_, fun p hp => ?_⟩
  · rw [align_eq, hnames, or_iff_right_of_imp]
    intro hname
    obtain ⟨p, hp, rfl⟩ := List.mem_map.mp hname
    exact List.contains_iff_mem.mp (List.mem_filter.mp hp).2
  · rcases hmem p hp with hp | ⟨name, -, rfl⟩
    · exact .inl (hsublist.subset hp)
    · exact .inr ⟨name, rfl⟩

end Parameter

namespace Operation

/-- What the parameters of an operation are, where it is described by a node of a path. -/
structure HasParameters (document pathItem node : Members) (op : Operation) : Prop where
  /-- No two parameters of the path have the same name. -/
  pathNames : (op.pathParameters.map Parameter.name).Nodup
  /-- Their names are those that are found between braces. -/
  placeholders : ∃ names, Template.Finds op.path names ∧
    ∀ name, name ∈ op.pathParameters.map Parameter.name ↔ name ∈ names
  /-- All of them are required. -/
  required : ∀ p ∈ op.pathParameters, p.required = true
  /-- No two parameters of the query have the same name. -/
  queryNames : (op.queryParameters.map Parameter.name).Nodup
  /-- They are what the path and then the operation declares for the query, each at its first
  declaration. -/
  query : op.queryParameters =
    ((Declaration.firsts ((Declaration.rawList pathItem ++ Declaration.rawList node).filterMap
        (Declaration.ofJson? document))).filter fun d =>
      d.location == Text.ofString "query").map (Declaration.toParameter document)

/-- Every operation of a document is described by a node of a path, and has the parameters that
they declare and that the path has placeholders for. -/
theorem hasParameters_ofDocument {document : Members} {service : Text} {displayName : Option Text}
    {op : Operation} (h : op ∈ ofDocument document service displayName) :
    ∃ pathItem node key method, (op.path, Json.object pathItem) ∈ paths document ∧
      (key, method) ∈ methods ∧ op.method = Text.ofString method ∧
      Members.get? pathItem (Text.ofString key) = some (.object node) ∧
      op.HasParameters document pathItem node := by
  obtain ⟨path, pathItem, node, key, method, hpath, hmethod, hnode, rfl⟩ :=
    exists_of_mem_ofDocument h
  have hnames (location : String) : ((((Declaration.merged document pathItem node).filter fun d =>
      d.location == Text.ofString location).map (Declaration.toParameter document)).map
        Parameter.name).Nodup := by
    rw [Declaration.map_name_toParameter]
    exact Declaration.nodup_merged document pathItem node _
  obtain ⟨hpathNames, hplaceholders, hmade⟩ := Parameter.align_spec path (hnames "path")
  refine ⟨pathItem, node, key, method, hpath, hmethod, rfl, hnode, hpathNames,
    ⟨_, Template.finds_placeholders path, hplaceholders⟩, fun p hp => ?_, hnames "query", ?_⟩
  · rcases hmade p hp with hdeclared | ⟨name, rfl⟩
    · obtain ⟨d, hd, rfl⟩ := List.mem_map.mp hdeclared
      show (d.inPath || _) = true
      rw [Declaration.inPath, (List.mem_filter.mp hd).2, Bool.true_or]
    · rfl
  · show List.map _ (List.filter _ (Declaration.merged document pathItem node)) = _
    rw [Declaration.merged_eq_firsts]

/-- A document with an operation whose parameters are declared twice, wrongly or not at all. -/
def sampleDocument : Members :=
  let text (key value : String) : Text × Json := (Text.ofString key, .ofString value)
  let declare (name location : String) : Json := .object [text "name" name, text "in" location]
  let list (items : List Json) : Text × Json := (Text.ofString "parameters", .array items)
  let node := [list [declare "q" "query", declare "r" "query", declare "" "query", .null]]
  let item := [list [declare "id" "path", declare "gone" "path", declare "q" "query",
    .object [text "$ref" "#/nowhere"]], (Text.ofString "get", .object node)]
  [(Text.ofString "paths",
    .object [(Text.ofString "/a/\x7bid\x7d/\x7bx\x7by\x7d/\x7bid\x7d/\x7b\x7d", .object item)])]

/-- The operation has one parameter for each placeholder, and those of its query are what is
declared first. -/
theorem hasParameters_sampleDocument :
    ∃ op ∈ ofDocument sampleDocument [] none,
      op.pathParameters.map Parameter.name = [Text.ofString "id", Text.ofString "x\x7by"] ∧
      op.queryParameters.map Parameter.name = [Text.ofString "q", Text.ofString "r"] ∧
      ∃ pathItem node key method, (op.path, Json.object pathItem) ∈ paths sampleDocument ∧
        (key, method) ∈ methods ∧ op.method = Text.ofString method ∧
        Members.get? pathItem (Text.ofString key) = some (.object node) ∧
        op.HasParameters sampleDocument pathItem node := by
  obtain ⟨op, hop, hpath, hquery⟩ : ∃ op ∈ ofDocument sampleDocument [] none,
      op.pathParameters.map Parameter.name = [Text.ofString "id", Text.ofString "x\x7by"] ∧
      op.queryParameters.map Parameter.name = [Text.ofString "q", Text.ofString "r"] := by
    decide +kernel
  exact ⟨op, hop, hpath, hquery, hasParameters_ofDocument hop⟩

end Operation

end Toolsmith
