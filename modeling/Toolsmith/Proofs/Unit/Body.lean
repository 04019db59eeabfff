import Toolsmith.Proofs.Unit.Scoping

/-!
# The body of a request

An operation may take a body that its method does not send. Its unit reads the body like any other
input and does nothing with it: the line that reads it is all by which the unit differs from that of
the same operation without a body. Where the method sends the body, the unit sends what it has read.
-/

namespace Toolsmith

namespace Binding

variable {bindings : List Binding} {name : Text}

/-- A name that is bound keeps its identifier when more are bound. -/
theorem lookup_append (h : name ∈ bindings.map Binding.name) (more : List Binding) :
    lookup (bindings ++ more) name = lookup bindings name := by
  obtain ⟨identifier, hlookup⟩ := Option.isSome_iff_exists.mp (isSome_lookup h)
  obtain ⟨b, hfind, rfl⟩ := Option.map_eq_some_iff.mp hlookup
  rw [hlookup, lookup, List.find?_append, hfind]
  rfl

/-- A binding with an identifier that was made for its name. -/
def IsMade (b : Binding) : Prop :=
  b.identifier = preferred b.name ∨ ∃ k, b.identifier = Naming.numbered (preferred b.name) k

/-- One more binding has an identifier that was made for its name. -/
theorem isMade_of_mem_add (h : ∀ b ∈ bindings, b.IsMade) :
    ∀ b ∈ add bindings name, b.IsMade := by
  refine List.forall_mem_append.mpr ⟨h, List.forall_mem_singleton.mpr ?_⟩
  cases hlookup : lookup bindings name with
  | some identifier => exact h _ (mem_of_lookup hlookup)
  | none =>
    rw [Option.getD_none]
    obtain ⟨-, heq⟩ | ⟨-, last, -, heq⟩ := isFresh_fresh (bindings.map identifier) name
    · exact .inl heq
    · exact .inr ⟨last, heq⟩

/-- Identifiers are made for their names. -/
theorem isMade_of_mem_ofNames (names : List Text) : ∀ b ∈ ofNames names, b.IsMade := by
  induction names using List.reverseRecOn with
  | nil => exact nofun
  | append_singleton names name ih =>
    rw [ofNames_concat]
    exact isMade_of_mem_add ih

/-- A name that stands in its identifier as it is, without an underscore. -/
def IsBare (name : Text) : Prop :=
  ∀ c ∈ name, c.isWord = true ∧ c ≠ .char '_'

instance (name : Text) : Decidable (IsBare name) :=
  inferInstanceAs (Decidable (∀ c ∈ name, _))

/-- A name is that of a bare one if it is written like it in an identifier. -/
theorem IsBare.eq_of_map {t : Text} (h : IsBare name)
    (heq : t.map (fun c => if c.isWord then c else .char '_') = name) : t = name := by
  have hsame : ∀ c ∈ t, (if c.isWord then c else CodePoint.char '_') = c := by
    intro c hc
    have hmem : (if c.isWord then c else CodePoint.char '_') ∈ name := by
      rw [← heq]
      exact List.mem_map_of_mem hc
    split
    · rfl
    · rename_i hword
      rw [if_neg hword] at hmem
      exact absurd rfl (h _ hmem).2
  rw [← heq]
  exact ((List.map_congr_left hsame).trans (List.map_id t)).symm

/-- The preferred identifier of a bare name is made for no other name. -/
theorem IsMade.name_eq {b : Binding} (h : b.IsMade) (hname : IsBare name)
    (hidentifier : b.identifier = Text.ofString "param_" ++ name) : b.name = name := by
  rcases h with h | ⟨k, h⟩
  · rw [h, preferred, List.append_cancel_left_eq] at hidentifier
    exact hname.eq_of_map hidentifier
  · -- a number stands behind an underscore
    rw [h, Naming.numbered, preferred, List.append_assoc, List.append_cancel_left_eq] at hidentifier
    have hmem : CodePoint.char '_' ∈ name := by
      rw [← hidentifier]
      exact List.mem_append_right _ List.mem_cons_self
    exact absurd rfl (hname _ hmem).2

/-- A bare name stands in its preferred identifier as it is. -/
theorem IsBare.preferred_eq (h : IsBare name) :
    preferred name = Text.ofString "param_" ++ name := by
  have hsame : ∀ c ∈ name, (if c.isWord then c else CodePoint.char '_') = c :=
    fun c hc => if_pos (h c hc).1
  rw [preferred, (List.map_congr_left hsame).trans (List.map_id name)]

/-- A bare name that is bound has its preferred identifier, whatever else is bound. -/
theorem IsBare.identifier_eq (hname : IsBare name) (names : List Text) :
    ∀ b ∈ ofNames names, b.name = name → b.identifier = Text.ofString "param_" ++ name := by
  induction names using List.reverseRecOn with
  | nil => exact nofun
  | append_singleton names last ih =>
    rw [ofNames_concat]
    refine List.forall_mem_append.mpr ⟨ih, List.forall_mem_singleton.mpr ?_⟩
    rintro rfl
    cases hlookup : lookup (ofNames names) last with
    | some identifier => exact ih _ (mem_of_lookup hlookup) rfl
    | none =>
      rw [Option.getD_none]
      obtain ⟨-, heq⟩ | ⟨htaken, -⟩ := isFresh_fresh ((ofNames names).map identifier) last
      · rw [heq, hname.preferred_eq]
      · -- the preferred identifier is not taken, since the name is not bound
        obtain ⟨b, hb, hidentifier⟩ := List.mem_map.mp htaken
        rw [hname.preferred_eq] at hidentifier
        have hbound := isSome_lookup (List.mem_map_of_mem (f := Binding.name) hb)
        rw [(isMade_of_mem_ofNames names b hb).name_eq hname hidentifier, hlookup] at hbound
        cases hbound

end Binding

namespace PathPart

variable {bindings other : List Binding}

/-- The parts of a template depend only on the identifiers of its placeholders. -/
theorem ofPieces_congr {pending : Text} {pieces : List Template.Piece}
    (h : ∀ name ∈ pieces.filterMap Template.Piece.name?,
      Binding.lookup other name = Binding.lookup bindings name) :
    ofPieces other pending pieces = ofPieces bindings pending pieces := by
  fun_induction ofPieces bindings pending pieces with
  | case1 pending => rfl
  | case2 pending c rest ih => exact ih h
  | case3 pending name rest identifier hlookup ih =>
    obtain ⟨hname, hrest⟩ := List.forall_mem_cons.mp h
    rw [ofPieces, hname, hlookup, ih hrest]
  | case4 pending name rest hlookup ih =>
    obtain ⟨hname, hrest⟩ := List.forall_mem_cons.mp h
    rw [ofPieces, hname, hlookup, ih hrest]

end PathPart

namespace Source

/-- The text of a unit up to the lines that read its inputs, and these. -/
def reading (c : Context) : Text :=
  opening c ++ fixed introduction ++ ambient ++ hintTable c.hints ++ fixed helpers ++
    c.bindings.flatMap bindingLine

/-- The lines of a unit that build the address and the headers, from the blank line before the path
on. -/
def addressing (c : Context) : Text :=
  line [] ++ line [Text.ofString "    api_path = ", c.pathExpression] ++ queryPart c.query ++
    fixed headers

/-- The lines of a unit that make the request. -/
def asking (c : Context) : Text :=
  fixed requestStart ++ line [Text.ofString "                ", c.method.quoted, [.char ',']] ++
    fixed requestTarget

/-- The line that reads the body. -/
def bodyReading : Text :=
  Text.ofString "    param_requestBody = inputs.get('requestBody')\n"

/-- The fixed lines of a unit that sends no body. -/
def bodiless : List String :=
  introduction ++ helpers ++ ["    query_parts = []"] ++ queryEnd ++ headers ++ requestStart ++
    requestTarget ++ ending

/-- The fixed lines of a unit that sends no body neither prepare one nor give its length. -/
theorem not_infix_bodiless : ∀ word ∈ ["body_data", "Content-Length"], ∀ line ∈ bodiless,
    ¬Text.ofString word <:+: Text.ofString line := by
  have hspelled : ∃ spelling, Program.Spells bodiless spelling ∧
      ∀ word ∈ ["body_data", "Content-Length"], ∀ characters ∈ spelling,
        Text.includes (Text.ofString word) (characters.map .char) = false := by
    refine ⟨_, by repeat constructor, ?_⟩
    decide +kernel
  obtain ⟨spelling, hspells, hwords⟩ := hspelled
  exact fun word hword => hspells.not_infix (hwords word hword)

/-- A unit reads its inputs, builds the address and makes the request. It prepares the body before
the request and hands it to the request if it sends one. -/
theorem ofContext_eq_reading (c : Context) :
    ofContext c = reading c ++ addressing c ++
      (if c.sendsBody then bodyLines (c.bodyIdentifier.getD []) else []) ++ asking c ++
      (if c.sendsBody then bodyArgument else []) ++ fixed ending := by
  simp only [ofContext, reading, addressing, asking, List.append_assoc]

end Source

/-- The operation with a body or without one. -/
def Operation.withBody (op : Operation) (hasBody : Bool) : Operation :=
  { op with hasBody := hasBody }

namespace Context

variable {op : Operation} {bindings other : List Binding}

/-- The identifier of the body. -/
def bodyLocal : Text := Text.ofString "param_requestBody"

/-- The body is always bound to the same identifier. -/
theorem identifier_eq_bodyLocal {names : List Text} {identifier : Text}
    (h : ⟨bodyName, identifier⟩ ∈ Binding.ofNames names) : identifier = bodyLocal := by
  have hbare : Binding.IsBare bodyName := by decide +kernel
  exact hbare.identifier_eq names _ h rfl

/-- With a body there is one binding more, which comes last. -/
theorem ofNames_withBody (op : Operation) :
    Binding.ofNames (inputNames (op.withBody true)) =
      Binding.ofNames (inputNames (op.withBody false)) ++ [⟨bodyName, bodyLocal⟩] := by
  have hnames : inputNames (op.withBody true) = inputNames (op.withBody false) ++ [bodyName] := by
    simp [inputNames, Operation.withBody]
  obtain ⟨identifier, hadd⟩ : ∃ identifier, Binding.ofNames (inputNames (op.withBody true)) =
      Binding.ofNames (inputNames (op.withBody false)) ++ [⟨bodyName, identifier⟩] := by
    rw [hnames, Binding.ofNames_concat]
    exact ⟨_, rfl⟩
  have hmem : ⟨bodyName, identifier⟩ ∈ Binding.ofNames (inputNames (op.withBody true)) := by
    rw [hadd]
    exact List.mem_append_right _ (List.mem_singleton_self _)
  rw [hadd, identifier_eq_bodyLocal hmem]

/-- What is found for the body is its identifier. -/
theorem lookup_bodyName (op : Operation) :
    Binding.lookup (Binding.ofNames (inputNames (op.withBody true))) bodyName = some bodyLocal := by
  have hbound : bodyName ∈ (Binding.ofNames (inputNames (op.withBody true))).map Binding.name := by
    rw [ofNames_withBody, List.map_append]
    exact List.mem_append_right _ (List.mem_singleton_self _)
  obtain ⟨identifier, hlookup⟩ := Option.isSome_iff_exists.mp (Binding.isSome_lookup hbound)
  rw [hlookup, identifier_eq_bodyLocal (Binding.mem_of_lookup hlookup)]

/-- Nothing but the body has the identifier of the body. -/
theorem identifier_eq_bodyLocal_iff (op : Operation) :
    ∀ b ∈ Binding.ofNames (inputNames (op.withBody true)),
      b.identifier = bodyLocal ↔ b.name = bodyName := fun b hb =>
  Binding.areInjective_ofNames _ b hb _ (Binding.mem_of_lookup (lookup_bodyName op))

/-- A parameter has the same identifier whether or not there is a body. -/
theorem lookup_withBody {name : Text} (h : name ∈ inputNames (op.withBody false)) :
    Binding.lookup (Binding.ofNames (inputNames (op.withBody true))) name =
      Binding.lookup (Binding.ofNames (inputNames (op.withBody false))) name := by
  rw [ofNames_withBody]
  apply Binding.lookup_append
  rwa [(Binding.ofNames_spec _).2]

/-- The keys of a query depend only on the identifiers of its parameters. -/
theorem mapM_queryKey?_congr {parameters : List Parameter}
    (h : ∀ p ∈ parameters, Binding.lookup other p.name = Binding.lookup bindings p.name) :
    parameters.mapM (queryKey? other) = parameters.mapM (queryKey? bindings) := by
  induction parameters with
  | nil => rfl
  | cons p parameters ih =>
    obtain ⟨hfirst, hrest⟩ := List.forall_mem_cons.mp h
    rw [List.mapM_cons, List.mapM_cons, ih hrest, queryKey?, hfirst]
    rfl

/-- With a body there is a unit with the same keys as without one. -/
theorem exists_withBody {c : Context} (h : ofOperation (op.withBody false) = .ok c) :
    ∃ query, c = ofQuery (op.withBody false) query ∧
      ofOperation (op.withBody true) = .ok (ofQuery (op.withBody true) query) := by
  obtain ⟨query, hquery, rfl⟩ := ofOperation_eq_ok.mp h
  refine ⟨query, rfl, ofOperation_eq_ok.mpr ⟨query, ?_, rfl⟩⟩
  rw [← hquery]
  refine mapM_queryKey?_congr fun p hp => lookup_withBody ?_
  exact List.mem_append_left _ (List.mem_append_right _ (List.mem_map_of_mem hp))

/-- The expression for a path depends only on the identifiers of its placeholders. -/
theorem pathExpressionFor_congr
    (h : ∀ name ∈ Template.placeholders op.path,
      Binding.lookup other name = Binding.lookup bindings name) :
    pathExpressionFor op other = pathExpressionFor op bindings := by
  unfold pathExpressionFor
  split
  · rfl
  · rw [PathPart.ofPieces_congr h]

/-- The expression for a path whose placeholders are parameters of the path is the same with a body
as without one. -/
theorem pathExpression_withBody (query : List QueryKey)
    (h : ∀ name ∈ Template.placeholders op.path, name ∈ op.pathParameters.map Parameter.name) :
    (ofQuery (op.withBody true) query).pathExpression =
      (ofQuery (op.withBody false) query).pathExpression := by
  have hlookup : ∀ name ∈ Template.placeholders op.path,
      Binding.lookup (Binding.ofNames (inputNames (op.withBody true))) name =
        Binding.lookup (Binding.ofNames (inputNames (op.withBody false))) name := fun name hname =>
    lookup_withBody (List.mem_append_left _ (List.mem_append_left _ (h name hname)))
  exact pathExpressionFor_congr hlookup

end Context

namespace Source

variable {op : Operation}

/-- With a body, the line that reads it comes after those that read the parameters. -/
theorem reading_withBody (op : Operation) (query : List QueryKey) :
    reading (.ofQuery (op.withBody true) query) =
      reading (.ofQuery (op.withBody false) query) ++ bodyReading := by
  have hline : bindingLine ⟨Context.bodyName, Context.bodyLocal⟩ = bodyReading := by decide +kernel
  have hbindings : (Context.ofQuery (op.withBody true) query).bindings =
      (Context.ofQuery (op.withBody false) query).bindings ++
        [⟨Context.bodyName, Context.bodyLocal⟩] := Context.ofNames_withBody op
  rw [reading, hbindings, List.flatMap_append, ← List.append_assoc, List.flatMap_singleton, hline]
  rfl

/-- The lines that build the address are the same with a body as without one. -/
theorem addressing_withBody (query : List QueryKey)
    (h : ∀ name ∈ Template.placeholders op.path, name ∈ op.pathParameters.map Parameter.name) :
    addressing (.ofQuery (op.withBody true) query) =
      addressing (.ofQuery (op.withBody false) query) := by
  unfold addressing
  rw [Context.pathExpression_withBody query h]
  rfl

/-- The unit of an operation that sends no body. -/
theorem ofContext_of_not_sendsBody {c : Context} (h : c.sendsBody = false) :
    ofContext c = reading c ++ addressing c ++ asking c ++ fixed ending := by
  rw [ofContext_eq_reading, h]
  simp only [Bool.false_eq_true, if_false, List.append_nil]

/-- The unit of an operation that sends a body. -/
theorem ofContext_of_sendsBody {c : Context} (h : c.sendsBody = true) :
    ofContext c = reading c ++ addressing c ++ bodyLines (c.bodyIdentifier.getD []) ++ asking c ++
      bodyArgument ++ fixed ending := by
  rw [ofContext_eq_reading, h, if_pos rfl, if_pos rfl]

/-- Where the names of a query hold no surrogates there is a unit with a body and one without, and
the first reads one input more, which alone has the identifier of the body. For a method that sends
no body, and a path whose placeholders are its parameters, the line that reads it is all by which
they differ, and neither prepares a body or gives its length. For one that sends a body, it is what
the identifier stands for that is sent. -/
theorem ofOperation_withBody
    (h : ∀ p ∈ op.queryParameters, ∀ unit, CodePoint.surrogate unit ∉ p.name) :
    ∃ c d, Context.ofOperation (op.withBody false) = .ok c ∧
      Context.ofOperation (op.withBody true) = .ok d ∧
      d.bindings = c.bindings ++ [⟨Context.bodyName, Context.bodyLocal⟩] ∧
      (∀ b ∈ d.bindings, b.identifier = Context.bodyLocal ↔ b.name = Context.bodyName) ∧
      (op.method ∉ Context.bodyMethods →
        (∀ name ∈ Template.placeholders op.path, name ∈ op.pathParameters.map Parameter.name) →
        ofOperation (op.withBody false) =
            .ok (reading c ++ addressing c ++ asking c ++ fixed ending) ∧
          ofOperation (op.withBody true) =
            .ok (reading c ++ bodyReading ++ addressing c ++ asking c ++ fixed ending) ∧
          ∀ word ∈ ["body_data", "Content-Length"], ∀ line ∈ bodiless,
            ¬Text.ofString word <:+: Text.ofString line) ∧
      (op.method ∈ Context.bodyMethods →
        ofOperation (op.withBody true) =
          .ok (reading c ++ bodyReading ++ addressing d ++ bodyLines Context.bodyLocal ++
            asking c ++ bodyArgument ++ fixed ending)) := by
  have hnames : ∀ p ∈ (op.withBody false).queryParameters, ∀ unit,
      CodePoint.surrogate unit ∉ p.name := h
  obtain ⟨⟨c, hc, -⟩, -⟩ := Context.exists_isScoped hnames
  obtain ⟨query, rfl, hd⟩ := Context.exists_withBody hc
  have hreading := reading_withBody op query
  have hsends : (Context.ofQuery (op.withBody true) query).sendsBody =
      Context.bodyMethods.contains op.method :=
    Bool.true_and (Context.bodyMethods.contains op.method)
  have hlocal : (Context.ofQuery (op.withBody true) query).bodyIdentifier =
      some Context.bodyLocal := Context.lookup_bodyName op
  refine ⟨_, _, hc, hd, Context.ofNames_withBody op, Context.identifier_eq_bodyLocal_iff op,
    fun hmethod hpath => ⟨?_, ?_, not_infix_bodiless⟩, fun hmethod => ?_⟩
  · have hnone : (Context.ofQuery (op.withBody false) query).sendsBody = false :=
      Bool.false_and (Context.bodyMethods.contains op.method)
    rw [ofOperation, hc, Except.map, ofContext_of_not_sendsBody hnone]
  · rw [← List.contains_iff_mem, Bool.not_eq_true] at hmethod
    rw [ofOperation, hd, Except.map, ofContext_of_not_sendsBody (hsends.trans hmethod), hreading,
      addressing_withBody query hpath]
    rfl
  · rw [← List.contains_iff_mem] at hmethod
    rw [ofOperation, hd, Except.map, ofContext_of_sendsBody (hsends.trans hmethod), hreading,
      hlocal]
    rfl

/-- An operation with a parameter of the query that is called like the body. -/
def namesakeOperation (method : String) : Operation :=
  { Context.crowdedOperation with
    method := Text.ofString method
    queryParameters := ["requestBody", "request_Body"].map fun name =>
      .ofPlaceholder (Text.ofString name) }

/-- A unit that gets its data does not send the body that it reads, although it sends a parameter of
the same name, and a unit that posts data sends it. -/
theorem ofOperation_withBody_namesake :
    (∀ method, ∀ p ∈ (namesakeOperation method).queryParameters, ∀ unit,
      CodePoint.surrogate unit ∉ p.name) ∧
      (∃ c, Context.ofOperation ((namesakeOperation "GET").withBody false) = .ok c ∧
        ofOperation ((namesakeOperation "GET").withBody false) =
          .ok (reading c ++ addressing c ++ asking c ++ fixed ending) ∧
        ofOperation ((namesakeOperation "GET").withBody true) =
          .ok (reading c ++ bodyReading ++ addressing c ++ asking c ++ fixed ending) ∧
        ∀ word ∈ ["body_data", "Content-Length"], ∀ line ∈ bodiless,
          ¬Text.ofString word <:+: Text.ofString line) ∧
      ∃ c d, Context.ofOperation ((namesakeOperation "POST").withBody true) = .ok d ∧
        d.bindings.map Binding.identifier = ["param_a_b", "param_class", "param_requestBody",
          "param_request_Body", "param_requestBody"].map Text.ofString ∧
        ofOperation ((namesakeOperation "POST").withBody true) =
          .ok (reading c ++ bodyReading ++ addressing d ++ bodyLines Context.bodyLocal ++
            asking c ++ bodyArgument ++ fixed ending) := by
  have hnames : ∀ method, ∀ p ∈ (namesakeOperation method).queryParameters, ∀ unit,
      CodePoint.surrogate unit ∉ p.name := fun _ =>
    Context.surrogate_not_mem_ofPlaceholder ["requestBody", "request_Body"]
  have hplaceholders : ∀ name ∈ Template.placeholders (namesakeOperation "GET").path,
      name ∈ (namesakeOperation "GET").pathParameters.map Parameter.name := by
    decide +kernel
  obtain ⟨c, -, hc, -, -, -, hget, -⟩ := ofOperation_withBody (hnames "GET")
  obtain ⟨c', d, -, hd, -, -, -, hpost⟩ := ofOperation_withBody (hnames "POST")
  refine ⟨hnames, ⟨c, hc, hget (by decide +kernel) hplaceholders⟩, c', d, hd, ?_,
    hpost (by decide +kernel)⟩
  rw [(Context.of_ofOperation hd).1]
  decide +kernel

end Source

end Toolsmith
