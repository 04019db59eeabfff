import Toolsmith.Proofs.Action
import Toolsmith.Proofs.Document.BasePath
import Toolsmith.Proofs.Document.Parameters
import Toolsmith.Proofs.Unit.Safety

/-!
# The expression for a path

A unit makes the path of its request by an expression: literals and calls, each of which encodes the
value of an input, with plus signs between them. The text of the expression is read back here as a
reader of programs sees it. Written as a template again, with a placeholder for every call, it is
the base path followed by the path of the operation, so nothing is lost and nothing comes twice.
-/

namespace Toolsmith

namespace Program

/-- What stands before the identifier in a call. -/
def callStart : List Token :=
  outside (Text.ofString "quote(_text(")

/-- What stands behind the identifier in a call. -/
def callEnd : List Token :=
  outside (Text.ofString "), safe=") ++ .literal true [] :: outside (Text.ofString ")")

/-- What stands between the parts of an expression. -/
def plus : List Token :=
  outside (Text.ofString " + ")

/-- The word at the beginning of a program, and what follows it. -/
def word : List Token → Text × List Token
  | .code c :: rest =>
    if c.isWord then
      let (more, after) := word rest
      (c :: more, after)
    else ([], .code c :: rest)
  | tokens => ([], tokens)

/-- The part of an expression that a program begins with, and what follows it: a literal, or a call
for an identifier. -/
def part? : List Token → Option (PathPart × List Token)
  | .literal true t :: rest => some (.literal t, rest)
  | tokens =>
    (callStart.isPrefixOf? tokens).bind fun rest =>
      let (identifier, after) := word rest
      (callEnd.isPrefixOf? after).map fun rest => (.argument identifier, rest)

/-- The parts of an expression that is not empty. -/
def sum? : Nat → List Token → Option (List PathPart)
  | 0, _ => none
  | fuel + 1, tokens =>
    (part? tokens).bind fun (part, rest) =>
      if rest.isEmpty then some [part]
      else (plus.isPrefixOf? rest).bind fun rest => (sum? fuel rest).map (part :: ·)

/-- The parts of an expression, if its text is that of literals and calls with plus signs between
them. An empty text has no parts. -/
def parts? (t : Text) : Option (List PathPart) :=
  (tokens? t).bind fun tokens =>
    if tokens.isEmpty then some [] else sum? tokens.length tokens

/-- A text that is read as a whole is read up to any place in it. -/
theorem exists_of_scan_append {mode last : Mode} {s t : Text} {tokens : List Token}
    (h : scan mode (s ++ t) = some (tokens, last)) :
    ∃ before next after, scan mode s = some (before, next) ∧
      scan next t = some (after, last) ∧ tokens = before ++ after := by
  induction s generalizing mode tokens with
  | nil => exact ⟨[], mode, tokens, rfl, h, rfl⟩
  | cons c s ih =>
    rw [List.cons_append, scan] at h
    cases hstep : mode.step c with
    | none =>
      rw [hstep] at h
      cases h
    | some found =>
      obtain ⟨first, next⟩ := found
      rw [hstep] at h
      obtain ⟨⟨more, end'⟩, hmore, heq⟩ := Option.map_eq_some_iff.mp h
      cases heq
      obtain ⟨before, mode', after, hbefore, hafter, rfl⟩ := ih hmore
      refine ⟨first ++ before, mode', after, ?_, hafter, (List.append_assoc _ _ _).symm⟩
      rw [scan, hstep]
      simp only [hbefore, Option.map_some]

/-- A code point outside literals after which a reader stays there is one token. -/
theorem eq_code_of_codeStep {afterWord : Bool} {next : CodePoint} {found : List Token}
    (h : codeStep afterWord next = some (found, .code false)) : found = [.code next] := by
  unfold codeStep at h
  split at h
  · cases h
  · split at h
    · cases h
    · exact ((Prod.mk.inj (Option.some.inj h)).1).symm

/-- A code point in a short literal after which a reader is outside ends the literal. -/
theorem exists_eq_literal_of_shortStep {plain : Bool} {mark next : CodePoint} {raw : Text}
    {after : List Token} (h : shortStep plain mark raw next = some (after, .code false)) :
    ∃ t, after = [.literal plain t] := by
  unfold shortStep at h
  split at h
  · obtain ⟨t, -, heq⟩ := Option.map_eq_some_iff.mp h
    exact ⟨t, (Prod.mk.inj heq).1.symm⟩
  · split at h <;> cases h

/-- A code point in a block after which a reader is outside ends the block. -/
theorem exists_eq_block_of_blockStep {plain : Bool} {mark next : CodePoint} {raw : Text}
    {marks : Nat} {after : List Token}
    (h : blockStep plain mark raw marks next = some (after, .code false)) :
    ∃ t, after = [.block plain t] := by
  unfold blockStep at h
  split at h
  · split at h
    · obtain ⟨t, -, heq⟩ := Option.map_eq_some_iff.mp h
      exact ⟨t, (Prod.mk.inj heq).1.symm⟩
    · cases h
  · cases h

/-- A code point that a reader takes for itself, and after which it is outside literals, stands
outside literals or behind an empty one. -/
theorem code_or_two_of_step {mode : Mode} {next : CodePoint} {before tokens after : List Token}
    (h : mode.step next = some (after, .code false))
    (htokens : tokens ++ [.code next] = before ++ after) :
    (∃ afterWord, mode = .code afterWord ∧ after = [.code next]) ∨
      ∃ plain mark, mode = .two plain mark ∧ after = [.literal plain [], .code next] := by
  -- behind a mark that ends a literal the literal is the last token
  have hlast : ∀ {token : Token}, after = [token] → token = .code next := by
    rintro token rfl
    exact (List.singleton_inj.mp (List.append_inj' htokens rfl).2).symm
  cases mode with
  | code afterWord => exact .inl ⟨afterWord, rfl, eq_code_of_codeStep h⟩
  | one plain mark =>
    rw [Mode.step] at h
    split at h
    · cases h
    · obtain ⟨t, heq⟩ := exists_eq_literal_of_shortStep h
      cases hlast heq
  | two plain mark =>
    rw [Mode.step] at h
    split at h
    · cases h
    · obtain ⟨⟨found, mode⟩, hfound, heq⟩ := Option.map_eq_some_iff.mp h
      obtain ⟨rfl, rfl⟩ := Prod.mk.inj heq
      exact .inr ⟨plain, mark, rfl, by rw [eq_code_of_codeStep hfound]⟩
  | short plain mark raw escaped =>
    cases escaped with
    | false =>
      obtain ⟨t, heq⟩ := exists_eq_literal_of_shortStep h
      cases hlast heq
    | true => cases h
  | block plain mark raw escaped marks =>
    cases escaped with
    | false =>
      obtain ⟨t, heq⟩ := exists_eq_block_of_blockStep h
      cases hlast heq
    | true => cases h

/-- What is read before a code point outside literals is read on its own. -/
theorem tokens?_of_readsAs {t : Text} {next : CodePoint} {tokens : List Token}
    (h : ReadsAs (t ++ [next]) (tokens ++ [.code next])) : tokens? t = some tokens := by
  obtain ⟨before, mode, after, hbefore, hafter, htokens⟩ := exists_of_scan_append h
  have hstep : mode.step next = some (after, .code false) := by
    rw [scan] at hafter
    cases hstep : mode.step next with
    | none =>
      rw [hstep] at hafter
      cases hafter
    | some found =>
      rw [hstep] at hafter
      simpa [scan] using hafter
  unfold tokens?
  rw [hbefore]
  -- the last code point stands for itself only outside literals and behind an empty one
  obtain ⟨afterWord, rfl, rfl⟩ | ⟨plain, mark, rfl, rfl⟩ :
      (∃ afterWord, mode = .code afterWord ∧ after = [.code next]) ∨
        ∃ plain mark, mode = .two plain mark ∧ after = [.literal plain [], .code next] :=
    code_or_two_of_step hstep htokens
  · rw [(List.append_inj' htokens rfl).1]
  · have hsplit : tokens ++ [.code next] = (before ++ [.literal plain []]) ++ [.code next] := by
      rw [htokens, List.append_assoc]
      rfl
    rw [(List.append_inj' hsplit rfl).1]

/-- A word ends where something else begins. -/
theorem word_append {t : Text} (h : ∀ c ∈ t, c.isWord = true) {rest : List Token}
    (hrest : word rest = ([], rest)) : word (outside t ++ rest) = (t, rest) := by
  induction t with
  | nil => exact hrest
  | cons c t ih =>
    obtain ⟨hc, ht⟩ := List.forall_mem_cons.mp h
    show word (.code c :: (outside t ++ rest)) = _
    rw [word, if_pos hc, ih ht]

/-- A part is read back wherever it stands. -/
theorem part?_append {part : PathPart}
    (h : ∀ identifier, part = .argument identifier → IsIdentifier identifier) (rest : List Token) :
    part? (partTokens part ++ rest) = some (part, rest) := by
  cases part with
  | literal t => rfl
  | argument identifier =>
    have hwords : ∀ c ∈ identifier, c.isWord = true := by
      have hstart : ∀ c ∈ Text.ofString "param_", c.isWord = true := by decide
      obtain ⟨more, rfl, hmore⟩ := h identifier rfl
      exact List.forall_mem_append.mpr ⟨hstart, hmore⟩
    have htokens : partTokens (.argument identifier) ++ rest =
        callStart ++ (outside identifier ++ (callEnd ++ rest)) := by
      simp [partTokens, callStart, callEnd, outside]
    have hword : word (callEnd ++ rest) = ([], callEnd ++ rest) := rfl
    have hstart := List.isPrefixOf?_eq_some_iff_append_eq.mpr htokens.symm
    have hend : callEnd.isPrefixOf? (callEnd ++ rest) = some rest :=
      List.isPrefixOf?_eq_some_iff_append_eq.mpr rfl
    have hcall : part? (partTokens (.argument identifier) ++ rest) =
        (callStart.isPrefixOf? (partTokens (.argument identifier) ++ rest)).bind fun rest =>
          let (identifier, after) := word rest
          (callEnd.isPrefixOf? after).map fun rest => (.argument identifier, rest) := rfl
    rw [hcall, hstart, Option.bind_some]
    simp only [word_append hwords hword, hend, Option.map_some]

/-- There are no fewer tokens than parts. -/
theorem length_le_partsTokens (parts : List PathPart) :
    parts.length ≤ (partsTokens parts).length := by
  have hpart : ∀ part, 1 ≤ (partTokens part).length := by
    intro part
    cases part with
    | literal t => exact Nat.le_refl 1
    | argument identifier =>
      rw [partTokens, List.length_append, List.length_cons]
      omega
  fun_induction partsTokens parts with
  | case1 => exact Nat.le_refl 0
  | case2 part => exact hpart part
  | case3 part next rest ih =>
    have hfirst := hpart part
    rw [List.length_append, List.length_append, List.length_cons]
    omega

/-- The parts of an expression are read back. -/
theorem sum?_partsTokens {parts : List PathPart} {fuel : Nat} (hne : parts ≠ [])
    (hfuel : parts.length ≤ fuel)
    (h : ∀ identifier, .argument identifier ∈ parts → IsIdentifier identifier) :
    sum? fuel (partsTokens parts) = some parts := by
  fun_induction partsTokens parts generalizing fuel with
  | case1 => exact absurd rfl hne
  | case2 part =>
    obtain ⟨fuel, rfl⟩ := Nat.exists_eq_add_one.mpr hfuel
    have hpart : part? (partTokens part ++ []) = some (part, []) :=
      part?_append (fun identifier hid => h identifier (hid ▸ List.mem_singleton_self part)) []
    rw [List.append_nil] at hpart
    rw [sum?, hpart, Option.bind_some]
    rfl
  | case3 part next rest ih =>
    obtain ⟨fuel, rfl⟩ := Nat.exists_eq_add_one.mpr (Nat.lt_of_lt_of_le (Nat.succ_pos _) hfuel)
    have hrest : sum? fuel (partsTokens (next :: rest)) = some (next :: rest) :=
      ih (List.cons_ne_nil _ _) (Nat.le_of_succ_le_succ hfuel)
        fun identifier hid => h identifier (List.mem_cons_of_mem _ hid)
    have hpart : part? (partTokens part ++ (plus ++ partsTokens (next :: rest))) =
        some (part, plus ++ partsTokens (next :: rest)) :=
      part?_append (fun identifier hid => h identifier (hid ▸ List.mem_cons_self)) _
    have hplus : plus.isPrefixOf? (plus ++ partsTokens (next :: rest)) =
        some (partsTokens (next :: rest)) := List.isPrefixOf?_eq_some_iff_append_eq.mpr rfl
    have hmore : (plus ++ partsTokens (next :: rest)).isEmpty = false := rfl
    have htokens : outside (Text.ofString " + ") = plus := rfl
    rw [List.append_assoc, htokens, sum?, hpart, Option.bind_some]
    simp only [hmore, Bool.false_eq_true, if_false, hplus, hrest, Option.bind_some, Option.map_some]

/-- Parts with plus signs between them are read back from their text. -/
theorem parts?_join {parts : List PathPart}
    (h : ∀ identifier, .argument identifier ∈ parts → IsIdentifier identifier) :
    parts? (Text.join (Text.ofString " + ") (parts.map PathPart.expression)) = some parts := by
  have hnext : IsCode (.char '\n') := by decide
  rw [parts?, tokens?_of_readsAs (readsAs_parts h hnext (by decide)), Option.bind_some]
  cases parts with
  | nil => rfl
  | cons part rest =>
    have hlength := length_le_partsTokens (part :: rest)
    have hmore : (partsTokens (part :: rest)).isEmpty = false := by
      rw [List.isEmpty_eq_false_iff]
      intro hnil
      rw [hnil] at hlength
      exact absurd hlength (Nat.not_succ_le_zero _)
    rw [hmore, if_neg Bool.false_ne_true]
    exact sum?_partsTokens (List.cons_ne_nil _ _) hlength h

end Program

namespace PathPart

variable {bindings : List Binding}

/-- Parts written as a template: a literal as it is, and a call as the placeholder of the name that
its identifier stands for. -/
def template? (bindings : List Binding) : List PathPart → Option Text
  | [] => some []
  | .literal t :: rest => (template? bindings rest).map (t ++ ·)
  | .argument identifier :: rest =>
    (Binding.nameOf? bindings identifier).bind fun name =>
      (template? bindings rest).map ((Template.Piece.placeholder name).text ++ ·)

/-- The identifier of a call. -/
def identifier? : PathPart → Option Text
  | literal _ => none
  | argument identifier => some identifier

/-- An empty literal is left out, and stands for nothing. -/
theorem template?_ofLiteral (t : Text) (parts : List PathPart) :
    template? bindings (ofLiteral t ++ parts) = (template? bindings parts).map (t ++ ·) := by
  unfold ofLiteral
  split
  · rename_i hempty
    rw [List.isEmpty_iff.mp hempty, List.nil_append]
    cases template? bindings parts <;> rfl
  · rfl

/-- The parts of a template are written as the template again. -/
theorem template?_ofPieces (h : Binding.AreInjective bindings) (pending : Text)
    (pieces : List Template.Piece) :
    template? bindings (ofPieces bindings pending pieces) =
      some (pending ++ pieces.flatMap Template.Piece.text) := by
  fun_induction ofPieces bindings pending pieces with
  | case1 pending =>
    have hliteral : template? bindings (ofLiteral pending ++ []) = some (pending ++ []) :=
      template?_ofLiteral pending []
    rw [List.append_nil] at hliteral
    exact hliteral
  | case2 pending c rest ih =>
    rw [ih, List.flatMap_cons, List.append_assoc]
    rfl
  | case3 pending name rest identifier hlookup ih =>
    have hname := h.nameOf?_eq (Binding.mem_of_lookup hlookup)
    rw [template?_ofLiteral, template?, hname, ih, List.flatMap_cons]
    rfl
  | case4 pending name rest hlookup ih =>
    have hplaceholder : pending ++ .char '\x7b' :: name ++ [.char '\x7d'] =
        pending ++ (Template.Piece.placeholder name).text := by
      simp [Template.Piece.text]
    rw [hplaceholder] at ih ⊢
    rw [ih, List.flatMap_cons, List.append_assoc]

/-- The calls for a template are those for its placeholders, if all of these are bound. -/
theorem forall₂_identifier?_ofPieces {pending : Text} {pieces : List Template.Piece}
    (h : ∀ name ∈ pieces.filterMap Template.Piece.name?, name ∈ bindings.map Binding.name) :
    List.Forall₂ (fun identifier name => ⟨name, identifier⟩ ∈ bindings)
      ((ofPieces bindings pending pieces).filterMap identifier?)
      (pieces.filterMap Template.Piece.name?) := by
  have hliteral : ∀ t : Text, (ofLiteral t).filterMap identifier? = [] := by
    intro t
    unfold ofLiteral
    split <;> rfl
  fun_induction ofPieces bindings pending pieces with
  | case1 pending =>
    rw [hliteral]
    exact .nil
  | case2 pending c rest ih => exact ih h
  | case3 pending name rest identifier hlookup ih =>
    rw [List.filterMap_append, hliteral]
    exact .cons (Binding.mem_of_lookup hlookup)
      (ih fun other hother => h other (List.mem_cons_of_mem _ hother))
  | case4 pending name rest hlookup ih =>
    have hbound := Binding.isSome_lookup (h name List.mem_cons_self)
    rw [hlookup] at hbound
    cases hbound

end PathPart

/-- The base path of a document's operation is not empty. -/
theorem Operation.basePath_ne_nil {document : Members} {service : Text} {displayName : Option Text}
    {op : Operation} (h : op ∈ ofDocument document service displayName) : op.basePath ≠ [] := by
  obtain ⟨_, _, _, _, _, _, _, _, rfl⟩ := exists_of_mem_ofDocument h
  exact BasePath.resolve_ne_nil _ _ _

namespace Context

variable {op : Operation} {c : Context}

/-- The parts of the expression for an operation's path. -/
def pathParts (op : Operation) (bindings : List Binding) : List PathPart :=
  if op.pathParameters.isEmpty then [.literal (op.basePath ++ op.path)]
  else PathPart.ofPieces bindings op.basePath (Template.pieces op.path)

/-- The expression for a path is that of its parts, with plus signs between them. -/
theorem pathExpressionFor_eq (op : Operation) (bindings : List Binding) :
    pathExpressionFor op bindings =
      Text.join (Text.ofString " + ") ((pathParts op bindings).map PathPart.expression) := by
  unfold pathExpressionFor pathParts
  split <;> rfl

/-- What the parts of a unit are made from. -/
theorem of_ofOperation (h : ofOperation op = .ok c) :
    c.bindings = Binding.ofNames (inputNames op) ∧
      c.pathExpression = pathExpressionFor op c.bindings := by
  obtain ⟨query, -, rfl⟩ := ofOperation_eq_ok.mp h
  exact ⟨rfl, rfl⟩

/-- The calls in the parts are for bound identifiers. -/
theorem exists_of_mem_pathParts {bindings : List Binding} {identifier : Text}
    (h : .argument identifier ∈ pathParts op bindings) :
    ∃ b ∈ bindings, b.identifier = identifier := by
  unfold pathParts at h
  split at h
  · cases List.mem_singleton.mp h
  · exact Program.exists_of_mem_ofPieces h

/-- The expression for a path is read as its parts. -/
theorem parts?_pathExpression (h : ofOperation op = .ok c) :
    Program.parts? c.pathExpression = some (pathParts op c.bindings) := by
  obtain ⟨hbindings, hpath⟩ := of_ofOperation h
  rw [hpath, pathExpressionFor_eq]
  refine Program.parts?_join fun identifier hid => ?_
  obtain ⟨b, hb, rfl⟩ := exists_of_mem_pathParts hid
  rw [hbindings] at hb
  exact (Binding.ofNames_spec _).1 b hb

/-- The parts of the expression for a path, written as a template, are the base path and the
path. -/
theorem template?_pathParts (op : Operation) {bindings : List Binding}
    (h : Binding.AreInjective bindings) :
    PathPart.template? bindings (pathParts op bindings) = some (op.basePath ++ op.path) := by
  unfold pathParts
  split
  · rw [PathPart.template?, PathPart.template?, Option.map_some, List.append_nil]
  · rw [PathPart.template?_ofPieces h, Template.flatMap_text_pieces]

/-- The calls in the expression for the path of a document's operation are those for its
placeholders. -/
theorem forall₂_identifier?_pathParts {bindings : List Binding}
    (hbound : ∀ name ∈ Template.placeholders op.path, name ∈ op.pathParameters.map Parameter.name)
    (h : bindings.map Binding.name = inputNames op) :
    List.Forall₂ (fun identifier name => ⟨name, identifier⟩ ∈ bindings)
      ((pathParts op bindings).filterMap PathPart.identifier?) (Template.placeholders op.path) := by
  unfold pathParts
  split
  · rename_i hnone
    have hempty : Template.placeholders op.path = [] := by
      refine List.eq_nil_iff_forall_not_mem.mpr fun name hname => ?_
      have hmem := hbound name hname
      rw [List.isEmpty_iff.mp hnone] at hmem
      cases hmem
    rw [hempty]
    exact .nil
  · refine PathPart.forall₂_identifier?_ofPieces fun name hname => ?_
    rw [h]
    exact List.mem_append_left _ (List.mem_append_left _ (hbound name hname))

/-- The calls of an expression for a path are in order those for the placeholders of the path: each
is for the identifier of a parameter of the path, which has the name of the placeholder. -/
structure CallsPlaceholders (op : Operation) (c : Context) (parts : List PathPart) : Prop where
  nonempty : parts ≠ []
  calls : ∃ names, Template.Finds op.path names ∧
    (∀ name ∈ names, ∃ p ∈ op.pathParameters, p.name = name) ∧
    List.Forall₂ (fun identifier name => ⟨name, identifier⟩ ∈ c.bindings)
      (parts.filterMap PathPart.identifier?) names

/-- The expression for a path is a sum of literals and calls. With literals as they are and every
call as the placeholder of the name that its identifier stands for, it is the base path and then the
path. For an operation of a document the sum is not empty, and its calls are those for the
placeholders of the path. -/
theorem pathExpression_spells (h : ofOperation op = .ok c) :
    ∃ parts, Program.parts? c.pathExpression = some parts ∧
      c.pathExpression = Text.join (Text.ofString " + ") (parts.map PathPart.expression) ∧
      PathPart.template? c.bindings parts = some (op.basePath ++ op.path) ∧
      ∀ document service displayName, op ∈ Operation.ofDocument document service displayName →
        CallsPlaceholders op c parts := by
  obtain ⟨hbindings, hpath⟩ := of_ofOperation h
  have hinjective : Binding.AreInjective c.bindings := by
    rw [hbindings]
    exact Binding.areInjective_ofNames _
  have hnames : c.bindings.map Binding.name = inputNames op := by
    rw [hbindings]
    exact (Binding.ofNames_spec _).2
  have htemplate := template?_pathParts op hinjective
  refine ⟨pathParts op c.bindings, parts?_pathExpression h, by rw [hpath, pathExpressionFor_eq],
    htemplate, fun document service displayName hop => ?_⟩
  obtain ⟨pathItem, node, -, -, -, -, -, -, hparameters⟩ := Operation.hasParameters_ofDocument hop
  obtain ⟨names, hfinds, hparts⟩ := hparameters.placeholders
  obtain rfl := hfinds.eq_placeholders
  have hbound : ∀ name ∈ Template.placeholders op.path,
      name ∈ op.pathParameters.map Parameter.name := fun name hname => (hparts name).mpr hname
  refine ⟨fun hnil => ?_, _, hfinds, fun name hname => List.mem_map.mp (hbound name hname),
    forall₂_identifier?_pathParts hbound hnames⟩
  -- without parts there would be no base path
  rw [hnil, PathPart.template?, Option.some.injEq, eq_comm, List.append_eq_nil_iff] at htemplate
  exact Operation.basePath_ne_nil hop htemplate.1

/-- The only operation of a list has a unit if something is found in one. -/
theorem exists_of_map_ofOperation {α : Type} {f : Context → α} {operations : List Operation} {a : α}
    (h : operations.map (fun op => (ofOperation op).toOption.map f) = [some a]) :
    ∃ op ∈ operations, ∃ c, ofOperation op = .ok c ∧ f c = a := by
  obtain ⟨op, rfl, hfound⟩ := List.map_eq_singleton_iff.mp h
  obtain ⟨c, hc, hvalue⟩ := Option.map_eq_some_iff.mp hfound
  exact ⟨op, List.mem_singleton_self op, c, Action.eq_ok_of_toOption hc, hvalue⟩

/-- A placeholder that comes twice is called for twice, and one whose name is no word by another
identifier. -/
theorem spells_sampleDocument :
    ∃ op ∈ Operation.ofDocument Operation.sampleDocument [] none, ∃ c, ofOperation op = .ok c ∧
      c.pathExpression = Text.ofString "'/ccx/api//v1/super/a/' + quote(_text(param_id), safe=\"\")"
        ++ Text.ofString " + '/' + quote(_text(param_x_y), safe=\"\") + '/'"
        ++ Text.ofString " + quote(_text(param_id), safe=\"\") + '/\x7b\x7d'" ∧
      ∃ parts, Program.parts? c.pathExpression = some parts ∧
        PathPart.template? c.bindings parts = some (op.basePath ++ op.path) ∧
        CallsPlaceholders op c parts := by
  have hread : (Operation.ofDocument Operation.sampleDocument [] none).map (fun op =>
      (ofOperation op).toOption.map pathExpression) =
      [some (Text.ofString "'/ccx/api//v1/super/a/' + quote(_text(param_id), safe=\"\")"
        ++ Text.ofString " + '/' + quote(_text(param_x_y), safe=\"\") + '/'"
        ++ Text.ofString " + quote(_text(param_id), safe=\"\") + '/\x7b\x7d'")] := by
    decide +kernel
  obtain ⟨op, hop, c, hc, hpath⟩ := exists_of_map_ofOperation hread
  obtain ⟨parts, hparts, -, htemplate, hcalls⟩ := pathExpression_spells hc
  exact ⟨op, hop, c, hc, hpath, parts, hparts, htemplate, hcalls _ _ _ hop⟩

end Context

end Toolsmith
