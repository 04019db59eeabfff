import Toolsmith.Proofs.Tool
import Toolsmith.Proofs.Unit.LineCount

/-!
# Units are safe from injection

A unit is program text that is made from a document which anyone may have written. What comes from
the document stands in the opening text, in literals of one line and in identifiers, and a reader of
the unit sees it there as it was: no text of a document ends a literal early or adds a line.
-/

namespace Toolsmith

namespace Program

/-- Text outside literals. -/
def outside (t : Text) : List Token :=
  t.map .code

/-- The parts of fixed lines. -/
def fixedTokens (lines : List String) : List Token :=
  (tokens? (Source.fixed lines)).getD []

/-- The parts of a hint's line. -/
def hintTokens (hint : Hint) : List Token :=
  outside (Text.ofString "    " ++ Text.ofNat hint.status ++ Text.ofString ": ") ++
    .literal true hint.text :: outside (Text.ofString ",\n")

/-- The parts of the line that reads an input. -/
def bindingTokens (b : Binding) : List Token :=
  outside (Text.ofString "    " ++ b.identifier ++ Text.ofString " = inputs.get(") ++
    .literal true b.name :: outside (Text.ofString ")\n")

/-- The parts of a piece of the expression for a path. -/
def partTokens : PathPart → List Token
  | .literal t => [.literal true t]
  | .argument identifier =>
    outside (Text.ofString "quote(_text(" ++ identifier ++ Text.ofString "), safe=") ++
      .literal true [] :: outside (Text.ofString ")")

/-- The parts of the expression for a path. -/
def partsTokens : List PathPart → List Token
  | [] => []
  | [part] => partTokens part
  | part :: next :: rest =>
    partTokens part ++ outside (Text.ofString " + ") ++ partsTokens (next :: rest)

/-- The parts of the expression for an operation's path. -/
def pathTokens (op : Operation) (bindings : List Binding) : List Token :=
  if op.pathParameters.isEmpty then [.literal true (op.basePath ++ op.path)]
  else partsTokens (PathPart.ofPieces bindings op.basePath (Template.pieces op.path))

/-- The parts of the lines that add a key to the query. -/
def queryTokens (key : QueryKey) : List Token :=
  outside (Text.ofString "    if " ++ key.identifier ++
      Text.ofString " is not None:\n        query_parts.append(") ++
    .literal true key.start ::
    outside (Text.ofString " + quote(_text(" ++ key.identifier ++ Text.ofString "), safe=") ++
    .literal true Context.querySafe :: outside (Text.ofString "))\n")

/-- The parts of the lines that build the query. -/
def queryPartTokens (keys : List QueryKey) : List Token :=
  if keys.isEmpty then []
  else fixedTokens ["    query_parts = []"] ++ keys.flatMap queryTokens ++ fixedTokens Source.queryEnd

/-- The parts of the lines that prepare a body. -/
def bodyTokens (identifier : Text) : List Token :=
  fixedTokens ["    body_data = None"] ++
    outside (Text.ofString "    if " ++ identifier ++ Text.ofString " is not None:\n" ++
      Text.ofString "        body_data = " ++ identifier ++ Text.ofString " if isinstance(" ++
      identifier ++ Text.ofString ", str) else json.dumps(" ++ identifier ++ Text.ofString ")\n") ++
    fixedTokens ["        headers[\"Content-Length\"] = str(len(body_data.encode(\"utf-8\")))"]

/-- The line that hands the body to the request. -/
def bodyArgumentLines : List String :=
  ["                content=body_data.encode(\"utf-8\") if body_data is not None else None,"]

/-- The parts of a unit after its opening text. -/
def unitTokens (op : Operation) (c : Context) : List Token :=
  fixedTokens ("" :: Source.introduction.drop 3) ++
    (outside (Text.ofString "HOST_VARIABLE = ") ++ .literal true Context.hostVariable ::
      outside (Text.ofString "\nTOKEN_VARIABLE = ") ++ .literal true Context.tokenVariable ::
      outside (Text.ofString "\nTIMEOUT = 30.0\n\n")) ++
    fixedTokens ["ERROR_MAP = \x7b"] ++ c.hints.flatMap hintTokens ++
    fixedTokens Source.helpers ++ c.bindings.flatMap bindingTokens ++
    (outside (Text.ofString "\n    api_path = ") ++ pathTokens op c.bindings ++
      outside (Text.ofString "\n")) ++
    queryPartTokens c.query ++ fixedTokens Source.headers ++
    (if c.sendsBody then bodyTokens (c.bodyIdentifier.getD []) else []) ++
    fixedTokens Source.requestStart ++
    (outside (Text.ofString "                ") ++ .literal true c.method ::
      outside (Text.ofString ",\n")) ++
    fixedTokens Source.requestTarget ++
    (if c.sendsBody then fixedTokens bodyArgumentLines else []) ++
    fixedTokens Source.ending

/-- Fixed lines without line ends in them, all of whose literals end. -/
def IsFixed (lines : List String) : Prop :=
  (scan (.code false) (Source.fixed lines)).map Prod.snd = some (.code false) ∧
    ∀ l ∈ lines, Text.IsLine (Text.ofString l)

instance (lines : List String) : Decidable (IsFixed lines) :=
  inferInstanceAs (Decidable (_ ∧ ∀ l ∈ lines, ∀ c ∈ Text.ofString l, _))

/-- Lines that are spelled out. The characters of a literal are known where it is spelled out, so
they need not be decoded from its bytes. -/
inductive Spells : List String → List (List Char) → Prop
  | nil : Spells [] []
  | cons {lines : List String} {spelling : List (List Char)} (characters : List Char)
      (rest : Spells lines spelling) :
      Spells (String.ofList characters :: lines) (characters :: spelling)

/-- The texts of lines are what is spelled out. -/
theorem Spells.map_ofString {lines : List String} {spelling : List (List Char)}
    (h : Spells lines spelling) : lines.map Text.ofString = spelling.map (List.map .char) := by
  induction h with
  | nil => rfl
  | cons characters _ ih =>
    rw [List.map_cons, List.map_cons, ih, Text.ofString, String.toList_ofList]

/-- Lines hold no line ends if there are none in what is spelled out. -/
theorem Spells.isLine {lines : List String} {spelling : List (List Char)}
    (h : Spells lines spelling)
    (hlines : ∀ characters ∈ spelling, Text.IsLine (characters.map .char)) :
    ∀ l ∈ lines, Text.IsLine (Text.ofString l) := by
  rw [← List.forall_mem_map (f := Text.ofString), h.map_ofString, List.forall_mem_map]
  exact hlines

/-- Lines are fixed if they are so as they are spelled out. -/
theorem Spells.isFixed {lines : List String} {spelling : List (List Char)}
    (h : Spells lines spelling)
    (hscan : (scan (.code false) (spelling.flatMap fun characters =>
      characters.map .char ++ [.char '\n'])).map Prod.snd = some (.code false))
    (hlines : ∀ characters ∈ spelling, Text.IsLine (characters.map .char)) : IsFixed lines := by
  have hfixed : Source.fixed lines =
      (lines.map Text.ofString).flatMap fun line => line ++ [.char '\n'] := by
    rw [List.flatMap_map]
    rfl
  refine ⟨?_, h.isLine hlines⟩
  rw [hfixed, h.map_ofString, List.flatMap_map]
  exact hscan

/-- The lines that stand in a unit whatever the document says are fixed. -/
structure FixedParts : Prop where
  tableStart : IsFixed ["ERROR_MAP = \x7b"]
  helpers : IsFixed Source.helpers
  queryStart : IsFixed ["    query_parts = []"]
  queryEnd : IsFixed Source.queryEnd
  headers : IsFixed Source.headers
  bodyStart : IsFixed ["    body_data = None"]
  bodyEnd :
    IsFixed ["        headers[\"Content-Length\"] = str(len(body_data.encode(\"utf-8\")))"]
  bodyArgument : IsFixed bodyArgumentLines
  requestStart : IsFixed Source.requestStart
  requestTarget : IsFixed Source.requestTarget
  ending : IsFixed Source.ending

theorem fixedParts : FixedParts := by
  constructor <;> refine Spells.isFixed (by repeat constructor) ?_ ?_ <;> decide +kernel

/-- Fixed lines are read if their literals end. -/
theorem readsAs_fixed {lines : List String} (h : IsFixed lines) :
    ReadsAs (Source.fixed lines) (fixedTokens lines) := by
  obtain ⟨⟨tokens, mode⟩, hscan, rfl⟩ := Option.map_eq_some_iff.mp h.1
  have hread : ReadsAs (Source.fixed lines) tokens := hscan
  rw [fixedTokens, hread.tokens?]
  exact hscan

/-- A text outside literals after which a literal may begin. -/
def IsOutside (t : Text) : Prop :=
  (∀ c ∈ t, IsCode c) ∧ ∀ c ∈ t.getLast?, c.isWord = false

instance (t : Text) : Decidable (IsOutside t) :=
  inferInstanceAs (Decidable (_ ∧ _))

/-- A text outside literals may go on with one after which a literal may begin. -/
theorem IsOutside.of_append {s t : Text} (hs : ∀ c ∈ s, IsCode c) (ht : IsOutside t)
    (hne : t ≠ []) : IsOutside (s ++ t) := by
  refine ⟨List.forall_mem_append.mpr ⟨hs, ht.1⟩, fun c hc => ht.2 c ?_⟩
  rwa [List.getLast?_append_of_ne_nil s hne] at hc

/-- What follows a code point of a text outside literals is outside literals. -/
theorem IsOutside.tail {c : CodePoint} {t : Text} (h : IsOutside (c :: t)) : IsOutside t := by
  refine ⟨fun d hd => h.1 d (List.mem_cons_of_mem _ hd), fun d hd => h.2 d ?_⟩
  rw [List.getLast?_cons, Option.mem_def.mp hd]
  rfl

/-- A text outside literals is read as it is. -/
theorem readsAs_outside {t : Text} (h : IsOutside t) : ReadsAs t (outside t) :=
  readsAs_code h.1 h.2

/-- A literal is read between texts outside literals. -/
theorem readsAs_between {before : Text} (hbefore : IsOutside before) (t : Text) (next : CodePoint)
    (after : Text) (hafter : IsOutside (next :: after)) (hnext : next.isWord = false) :
    ReadsAs (before ++ (t.quoted ++ next :: after))
      (outside before ++ .literal true t :: outside (next :: after)) := by
  have hquoted := readsAs_quoted t next (hafter.1 next List.mem_cons_self) hnext
  have hall := (readsAs_outside hbefore).append (hquoted.append (readsAs_outside hafter.tail))
  rwa [List.append_assoc, List.singleton_append] at hall

/-- The digits of a number are outside literals. -/
theorem isCode_ofNat {n : Nat} : ∀ c ∈ Text.ofNat n, IsCode c := by
  have hdigit : ∀ d < 10, IsCode (Text.digitPoint d) := by decide
  intro c hc
  obtain ⟨d, hd, rfl⟩ := Text.mem_ofNat hc
  exact hdigit d hd

/-- The line of a hint is read. -/
theorem readsAs_hintLine (hint : Hint) : ReadsAs (Source.hintLine hint) (hintTokens hint) := by
  have hbefore : IsOutside (Text.ofString "    " ++ Text.ofNat hint.status ++
      Text.ofString ": ") :=
    .of_append (List.forall_mem_append.mpr ⟨by decide, isCode_ofNat⟩) (by decide) (by decide)
  have hread := readsAs_between hbefore hint.text (.char ',') [.char '\n'] (by decide) (by decide)
  have htext : Source.hintLine hint = Text.ofString "    " ++ Text.ofNat hint.status ++
      Text.ofString ": " ++ (hint.text.quoted ++ [.char ',', .char '\n']) := by
    simp [Source.hintLine, Source.line, Text.ofString]
  rw [htext]
  exact hread

/-- The line that reads an input is read. -/
theorem readsAs_bindingLine {b : Binding} (h : IsIdentifier b.identifier) :
    ReadsAs (Source.bindingLine b) (bindingTokens b) := by
  have hbefore : IsOutside (Text.ofString "    " ++ b.identifier ++
      Text.ofString " = inputs.get(") :=
    .of_append (List.forall_mem_append.mpr ⟨by decide, isCode_identifier h⟩) (by decide) (by decide)
  have hread := readsAs_between hbefore b.name (.char ')') [.char '\n'] (by decide) (by decide)
  have htext : Source.bindingLine b = Text.ofString "    " ++ b.identifier ++
      Text.ofString " = inputs.get(" ++ (b.name.quoted ++ [.char ')', .char '\n']) := by
    simp [Source.bindingLine, Source.line, Text.ofString]
  rw [htext]
  exact hread

/-- A piece of the expression for a path is read before a code point that is no part of a word. -/
theorem readsAs_expression {part : PathPart}
    (h : ∀ identifier, part = .argument identifier → IsIdentifier identifier) (next : CodePoint)
    (hnext : IsCode next) (hword : next.isWord = false) :
    ReadsAs (part.expression ++ [next]) (partTokens part ++ [.code next]) := by
  cases part with
  | literal t => exact readsAs_quoted t next hnext hword
  | argument identifier =>
    have hbefore : IsOutside (Text.ofString "quote(_text(" ++ identifier ++
        Text.ofString "), safe=") :=
      .of_append (List.forall_mem_append.mpr ⟨by decide, isCode_identifier (h _ rfl)⟩) (by decide)
        (by decide)
    have hempty :
        ReadsAs (Text.ofString "\"\")") (.literal true [] :: outside (Text.ofString ")")) := by
      unfold ReadsAs
      decide
    have hafter : ReadsAs [next] [.code next] :=
      readsAs_outside ⟨by simpa using hnext, by simpa using hword⟩
    have hall := (readsAs_outside hbefore).append (hempty.append hafter)
    have htext : (PathPart.argument identifier).expression ++ [next] =
        Text.ofString "quote(_text(" ++ identifier ++ Text.ofString "), safe=" ++
          (Text.ofString "\"\")" ++ [next]) := by
      simp [PathPart.expression, Text.ofString]
    rw [htext]
    simpa [partTokens] using hall

/-- The expression for a path is read before a code point that is no part of a word. -/
theorem readsAs_parts {parts : List PathPart}
    (h : ∀ identifier, .argument identifier ∈ parts → IsIdentifier identifier) {next : CodePoint}
    (hnext : IsCode next) (hword : next.isWord = false) :
    ReadsAs (Text.join (Text.ofString " + ") (parts.map PathPart.expression) ++ [next])
      (partsTokens parts ++ [.code next]) := by
  induction parts with
  | nil =>
    have hend : ReadsAs [next] [.code next] :=
      readsAs_outside ⟨by simpa using hnext, by simpa using hword⟩
    exact hend
  | cons part parts ih =>
    cases parts with
    | nil =>
      exact readsAs_expression (fun id hid => h id (hid ▸ List.mem_cons_self)) next hnext hword
    | cons other rest =>
      have hidentifier : ∀ id, part = .argument id → IsIdentifier id := fun id hid =>
        h id (hid ▸ List.mem_cons_self)
      have hpart := readsAs_expression hidentifier (.char ' ') (by decide) (by decide)
      have hplus := readsAs_outside (t := Text.ofString "+ ") (by decide)
      have hrest := ih fun id hid => h id (List.mem_cons_of_mem _ hid)
      have hall := hpart.append (hplus.append hrest)
      simpa [Text.join, partsTokens, outside, Text.ofString] using hall

/-- The pieces of a path take their identifiers from the bindings. -/
theorem exists_of_mem_ofPieces {bindings : List Binding} {pending : Text}
    {pieces : List Template.Piece} {identifier : Text}
    (h : .argument identifier ∈ PathPart.ofPieces bindings pending pieces) :
    ∃ b ∈ bindings, b.identifier = identifier := by
  have hliteral : ∀ t : Text, .argument identifier ∉ PathPart.ofLiteral t := by
    intro t hmem
    unfold PathPart.ofLiteral at hmem
    split at hmem
    · cases hmem
    · cases List.mem_singleton.mp hmem
  fun_induction PathPart.ofPieces bindings pending pieces with
  | case1 pending => exact absurd h (hliteral pending)
  | case2 pending c rest ih => exact ih h
  | case3 pending name rest identifier' hlookup ih =>
    rcases List.mem_append.mp h with h | h
    · exact absurd h (hliteral pending)
    · rcases List.mem_cons.mp h with h | h
      · cases h
        exact Binding.exists_of_lookup hlookup
      · exact ih h
  | case4 pending name rest hlookup ih => exact ih h

/-- The line that builds the path is read. -/
theorem readsAs_pathLine (op : Operation) {bindings : List Binding}
    (h : ∀ b ∈ bindings, IsIdentifier b.identifier) :
    ReadsAs (Source.line [] ++
        Source.line [Text.ofString "    api_path = ", Context.pathExpressionFor op bindings])
      (outside (Text.ofString "\n    api_path = ") ++ pathTokens op bindings ++
        outside (Text.ofString "\n")) := by
  have hbefore := readsAs_outside (t := Text.ofString "\n    api_path = ") (by decide)
  have hpath : ReadsAs (Context.pathExpressionFor op bindings ++ [.char '\n'])
      (pathTokens op bindings ++ [.code (.char '\n')]) := by
    unfold Context.pathExpressionFor pathTokens
    split
    · exact readsAs_quoted _ _ (by decide) (by decide)
    · refine readsAs_parts (fun identifier hid => ?_) (by decide) (by decide)
      obtain ⟨b, hb, rfl⟩ := exists_of_mem_ofPieces hid
      exact h b hb
  have hall := hbefore.append hpath
  have htext : Source.line [] ++
      Source.line [Text.ofString "    api_path = ", Context.pathExpressionFor op bindings] =
      Text.ofString "\n    api_path = " ++
        (Context.pathExpressionFor op bindings ++ [.char '\n']) := by
    simp [Source.line, Text.ofString]
  rw [htext, List.append_assoc]
  exact hall

/-- The lines that add a key to the query are read. -/
theorem readsAs_queryLines {key : QueryKey} (h : IsIdentifier key.identifier) :
    ReadsAs (Source.queryLines key) (queryTokens key) := by
  have hidentifier := isCode_identifier h
  have hbefore : IsOutside (Text.ofString "    if " ++ key.identifier ++
      Text.ofString " is not None:\n        query_parts.append(") :=
    .of_append (List.forall_mem_append.mpr ⟨by decide, hidentifier⟩) (by decide) (by decide)
  have hmiddle : IsOutside (Text.ofString " + quote(_text(" ++ key.identifier ++
      Text.ofString "), safe=") :=
    .of_append (List.forall_mem_append.mpr ⟨by decide, hidentifier⟩) (by decide) (by decide)
  have hstart := (readsAs_outside hbefore).append
    (readsAs_quoted key.start (.char ' ') (by decide) (by decide))
  have hrest : IsOutside (Text.ofString "+ quote(_text(" ++ key.identifier ++
      Text.ofString "), safe=") :=
    hmiddle.tail
  have hend := readsAs_between hrest Context.querySafe (.char ')') (Text.ofString ")\n")
    (by decide) (by decide)
  have hall := hstart.append hend
  have htext : Source.queryLines key = Text.ofString "    if " ++ key.identifier ++
      Text.ofString " is not None:\n        query_parts.append(" ++
      (key.start.quoted ++ [.char ' ']) ++ (Text.ofString "+ quote(_text(" ++ key.identifier ++
      Text.ofString "), safe=" ++
      (Context.querySafe.quoted ++ .char ')' :: Text.ofString ")\n")) := by
    simp [Source.queryLines, Source.line, Text.ofString]
  rw [htext]
  simpa [queryTokens, outside, Text.ofString] using hall

/-- The lines that build the query are read. -/
theorem readsAs_queryPart {keys : List QueryKey} (h : ∀ key ∈ keys, IsIdentifier key.identifier) :
    ReadsAs (Source.queryPart keys) (queryPartTokens keys) := by
  unfold Source.queryPart queryPartTokens
  split
  · rfl
  · exact ((readsAs_fixed fixedParts.queryStart).append
      (readsAs_flatMap fun key hkey => readsAs_queryLines (h key hkey))).append
      (readsAs_fixed fixedParts.queryEnd)

/-- The lines that prepare a body are read. -/
theorem readsAs_bodyLines {identifier : Text} (h : IsIdentifier identifier) :
    ReadsAs (Source.bodyLines identifier) (bodyTokens identifier) := by
  have hidentifier := isCode_identifier h
  have hmiddle : IsOutside (Text.ofString "    if " ++ identifier ++
      Text.ofString " is not None:\n" ++ Text.ofString "        body_data = " ++ identifier ++
      Text.ofString " if isinstance(" ++ identifier ++ Text.ofString ", str) else json.dumps(" ++
      identifier ++ Text.ofString ")\n") := by
    refine .of_append ?_ (by decide) (by decide)
    simp only [List.forall_mem_append, and_assoc]
    exact ⟨by decide, hidentifier, by decide, by decide, hidentifier, by decide, hidentifier,
      by decide, hidentifier⟩
  have hall := ((readsAs_fixed fixedParts.bodyStart).append (readsAs_outside hmiddle)).append
    (readsAs_fixed fixedParts.bodyEnd)
  have htext : Source.bodyLines identifier = Source.fixed ["    body_data = None"] ++
      (Text.ofString "    if " ++ identifier ++
      Text.ofString " is not None:\n" ++ Text.ofString "        body_data = " ++ identifier ++
      Text.ofString " if isinstance(" ++ identifier ++ Text.ofString ", str) else json.dumps(" ++
      identifier ++ Text.ofString ")\n") ++ Source.fixed
        ["        headers[\"Content-Length\"] = str(len(body_data.encode(\"utf-8\")))"] := by
    simp [Source.bodyLines, Source.line, Text.ofString]
  rw [htext]
  exact hall

/-- The line of the method is read. -/
theorem readsAs_methodLine (method : Text) :
    ReadsAs (Source.line [Text.ofString "                ", method.quoted, [.char ',']])
      (outside (Text.ofString "                ") ++ .literal true method ::
        outside (Text.ofString ",\n")) := by
  have hbefore : IsOutside (Text.ofString "                ") := by decide
  have hread := readsAs_between hbefore method (.char ',') [.char '\n'] (by decide) (by decide)
  have htext : Source.line [Text.ofString "                ", method.quoted, [.char ',']] =
      Text.ofString "                " ++ (method.quoted ++ [.char ',', .char '\n']) := by
    simp [Source.line]
  rw [htext]
  exact hread

/-- The lines of the variables are read. -/
theorem readsAs_ambient :
    ReadsAs Source.ambient
      (outside (Text.ofString "HOST_VARIABLE = ") ++ .literal true Context.hostVariable ::
        outside (Text.ofString "\nTOKEN_VARIABLE = ") ++ .literal true Context.tokenVariable ::
        outside (Text.ofString "\nTIMEOUT = 30.0\n\n")) := by
  unfold ReadsAs
  decide +kernel

end Program

namespace Source

/-- The text that opens a unit, between its marks. -/
def docText (c : Context) : Text :=
  let request := c.method ++ .char ' ' :: c.path
  (if c.summary.isEmpty then request else c.summary) ++ Text.ofString "\n\n" ++ request ++
    Text.ofString "\n\nGenerated by toolgen; edits are overwritten on the next run.\n"

/-- What follows the opening text of a unit. -/
def afterOpening (c : Context) : Text :=
  fixed ("" :: introduction.drop 3) ++ ambient ++ hintTable c.hints ++ fixed helpers ++
    c.bindings.flatMap bindingLine ++ line [] ++
    line [Text.ofString "    api_path = ", c.pathExpression] ++ queryPart c.query ++
    fixed headers ++ (if c.sendsBody then bodyLines (c.bodyIdentifier.getD []) else []) ++
    fixed requestStart ++ line [Text.ofString "                ", c.method.quoted, [.char ',']] ++
    fixed requestTarget ++ (if c.sendsBody then bodyArgument else []) ++ fixed ending

/-- A unit is its opening text between marks, and what follows it. -/
theorem ofContext_eq (c : Context) :
    ofContext c = Text.triple ++ docText c ++ Text.triple ++ afterOpening c := by
  have hintroduction : fixed introduction =
      Text.ofString "\nGenerated by toolgen; edits are overwritten on the next run.\n" ++
        Text.triple ++ fixed ("" :: introduction.drop 3) := by
    decide +kernel
  have hopening : opening c ++
      Text.ofString "\nGenerated by toolgen; edits are overwritten on the next run.\n" =
        Text.triple ++ docText c := by
    simp [opening, docText, line, Text.triple, Text.ofString]
  unfold ofContext afterOpening
  rw [hintroduction, ← hopening]
  simp only [List.append_assoc]

end Source

namespace Context

/-- The parts of an operation's unit, given the keys of its query. -/
def ofQuery (op : Operation) (query : List QueryKey) : Context where
  summary := docLine (if op.summary.isEmpty then op.description else op.summary)
  method := op.method
  path := docLine op.path
  bindings := Binding.ofNames (inputNames op)
  pathExpression := pathExpressionFor op (Binding.ofNames (inputNames op))
  query := query
  sendsBody := sendsBodyFor op
  bodyIdentifier := Binding.lookup (Binding.ofNames (inputNames op)) bodyName
  hints := hintsFor (Naming.areaOfService op.service)

/-- An operation has a unit if its query has keys, and then the other parts are always the same. -/
theorem ofOperation_eq_ok {op : Operation} {c : Context} :
    ofOperation op = .ok c ↔
      ∃ query, op.queryParameters.mapM (queryKey? (Binding.ofNames (inputNames op))) = some query ∧
        c = ofQuery op query := by
  unfold ofOperation
  simp only
  constructor
  · intro h
    split at h
    · cases h
    · rename_i query hquery
      cases h
      exact ⟨query, hquery, rfl⟩
  · rintro ⟨query, hquery, rfl⟩
    rw [hquery]
    rfl

/-- What is known of the parts of an operation's unit: every input has an identifier, and the texts
of the opening text are fit for it. -/
structure IsProper (op : Operation) (c : Context) : Prop where
  bindings : ∀ b ∈ c.bindings, IsIdentifier b.identifier
  query : ∀ key ∈ c.query, IsIdentifier key.identifier
  body : c.sendsBody = true → IsIdentifier (c.bodyIdentifier.getD [])
  path : c.pathExpression = pathExpressionFor op c.bindings
  hints : c.hints.length = 7
  summaryLine : Text.IsOpeningLine c.summary
  pathLine : Text.IsOpeningLine c.path
  methodLine : Text.IsOpeningLine c.method

/-- A query has one key for every parameter, in order. -/
theorem map_queryKey? {bindings : List Binding} {parameters : List Parameter}
    {query : List QueryKey} (h : parameters.mapM (queryKey? bindings) = some query) :
    parameters.map (queryKey? bindings) = query.map some := by
  induction parameters generalizing query with
  | nil =>
    cases h
    rfl
  | cons p parameters ih =>
    rw [List.mapM_cons] at h
    obtain ⟨key, hkey, h⟩ := Option.bind_eq_some_iff.mp h
    obtain ⟨rest, hrest, h⟩ := Option.bind_eq_some_iff.mp h
    cases h
    rw [List.map_cons, List.map_cons, hkey, ih hrest]

/-- The keys of a query have the identifiers of their parameters. -/
theorem isIdentifier_queryKey {bindings : List Binding}
    (hbindings : ∀ b ∈ bindings, IsIdentifier b.identifier) {p : Parameter}
    (hp : p.name ∈ bindings.map Binding.name) {key : QueryKey}
    (h : queryKey? bindings p = some key) : IsIdentifier key.identifier := by
  obtain ⟨encoded, -, rfl⟩ := Option.map_eq_some_iff.mp h
  obtain ⟨identifier, hlookup⟩ := Option.isSome_iff_exists.mp (Binding.isSome_lookup hp)
  obtain ⟨b, hb, rfl⟩ := Binding.exists_of_lookup hlookup
  show IsIdentifier ((Binding.lookup bindings p.name).getD [])
  rw [hlookup]
  exact hbindings b hb

/-- The parts of the unit of an operation with a method of letters are proper. -/
theorem isProper_ofOperation {op : Operation} {c : Context}
    (hmethod : Text.IsOpeningLine op.method) (h : ofOperation op = .ok c) : c.IsProper op := by
  obtain ⟨hidentifiers, hnames⟩ := Binding.ofNames_spec (inputNames op)
  obtain ⟨query, hquery, rfl⟩ := ofOperation_eq_ok.mp h
  refine ⟨hidentifiers, fun key hkey => ?_, fun hbody => ?_, rfl, rfl,
    Text.isOpeningLine_docLine _, Text.isOpeningLine_docLine _, hmethod⟩
  · have hmem : some key ∈ op.queryParameters.map
        (queryKey? (Binding.ofNames (inputNames op))) := by
      rw [map_queryKey? hquery]
      exact List.mem_map_of_mem hkey
    obtain ⟨p, hp, hpkey⟩ := List.mem_map.mp hmem
    refine isIdentifier_queryKey hidentifiers ?_ hpkey
    rw [hnames]
    exact List.mem_append_left _ (List.mem_append_right _ (List.mem_map_of_mem hp))
  · have hmem : bodyName ∈ (Binding.ofNames (inputNames op)).map Binding.name := by
      rw [hnames]
      have hhas : op.hasBody = true := (Bool.and_eq_true_iff.mp hbody).1
      exact List.mem_append_right _ (by rw [if_pos hhas]; exact List.mem_singleton_self _)
    obtain ⟨identifier, hlookup⟩ := Option.isSome_iff_exists.mp (Binding.isSome_lookup hmem)
    obtain ⟨b, hb, rfl⟩ := Binding.exists_of_lookup hlookup
    show IsIdentifier ((Binding.lookup _ bodyName).getD [])
    rw [hlookup]
    exact hidentifiers b hb

end Context

namespace Program

/-- What follows the opening text of a unit is read. -/
theorem readsAs_afterOpening {op : Operation} {c : Context} (h : c.IsProper op) :
    ReadsAs (Source.afterOpening c) (unitTokens op c) := by
  have hbody : ReadsAs (if c.sendsBody then Source.bodyLines (c.bodyIdentifier.getD []) else [])
      (if c.sendsBody then bodyTokens (c.bodyIdentifier.getD []) else []) := by
    split
    · exact readsAs_bodyLines (h.body ‹_›)
    · rfl
  have hargument : ReadsAs (if c.sendsBody then Source.bodyArgument else [])
      (if c.sendsBody then fixedTokens bodyArgumentLines else []) := by
    split
    · exact readsAs_fixed fixedParts.bodyArgument
    · rfl
  have hpath := readsAs_pathLine op h.bindings
  rw [← h.path] at hpath
  have hhints : ReadsAs (Source.hintTable c.hints)
      (fixedTokens ["ERROR_MAP = \x7b"] ++ c.hints.flatMap hintTokens) :=
    (readsAs_fixed fixedParts.tableStart).append
      (readsAs_flatMap fun hint _ => readsAs_hintLine hint)
  have hbindings := readsAs_flatMap fun b hb => readsAs_bindingLine (h.bindings b hb)
  have hintroduction : ReadsAs (Source.fixed ("" :: Source.introduction.drop 3)) _ :=
    readsAs_fixed (by decide +kernel)
  have hhelpers := readsAs_fixed fixedParts.helpers
  have hheaders := readsAs_fixed fixedParts.headers
  have hrequest := readsAs_fixed fixedParts.requestStart
  have htarget := readsAs_fixed fixedParts.requestTarget
  have hending := readsAs_fixed fixedParts.ending
  have hall := hintroduction.append <| readsAs_ambient.append <| hhints.append <|
    hhelpers.append <| hbindings.append <| hpath.append <| (readsAs_queryPart h.query).append <|
    hheaders.append <| hbody.append <| hrequest.append <| (readsAs_methodLine c.method).append <|
    htarget.append <| hargument.append hending
  unfold Source.afterOpening unitTokens
  simpa only [List.append_assoc] using hall

end Program

namespace Source

/-- The opening text of a unit holds no three double quotes in a row and no backslash, and it ends
with a line end. -/
theorem docText_spec {op : Operation} {c : Context} (h : c.IsProper op) :
    ∃ t, docText c = t ++ [.char '\n'] ∧ ¬Text.triple <:+: t ∧ CodePoint.char '\\' ∉ t := by
  have hrequest : Text.IsOpeningLine (c.method ++ .char ' ' :: c.path) :=
    h.methodLine.append h.pathLine
  have hheading : Text.IsOpeningLine
      (if c.summary.isEmpty then c.method ++ .char ' ' :: c.path else c.summary) := by
    split
    · exact hrequest
    · exact h.summaryLine
  generalize hline : (if c.summary.isEmpty then c.method ++ .char ' ' :: c.path else c.summary) =
    heading at hheading
  refine ⟨heading ++ .char '\n' :: .char '\n' :: (c.method ++ .char ' ' :: c.path) ++ .char '\n' ::
    .char '\n' :: Text.ofString "Generated by toolgen; edits are overwritten on the next run.",
    ?_, ?_, ?_⟩
  · rw [docText, hline]
    simp [Text.ofString]
  · have hfeed : CodePoint.char '\n' ∉ Text.triple := by decide
    have hfeeds : ∀ s t : Text, Text.triple <:+: s ++ .char '\n' :: .char '\n' :: t →
        Text.triple <:+: s ∨ Text.triple <:+: t := by
      intro s t hst
      rcases Text.infix_append_cons hfeed hst with hst | hst
      · exact .inl hst
      · rcases Text.infix_append_cons (s := []) hfeed hst with hst | hst
        · exact absurd hst (by decide)
        · exact .inr hst
    intro htriple
    rcases hfeeds _ _ htriple with htriple | htriple
    · rcases hfeeds _ _ htriple with htriple | htriple
      · exact hheading.1 htriple
      · exact hrequest.1 htriple
    · exact absurd htriple (by decide)
  · have hlast : CodePoint.char '\\' ∉
        Text.ofString "Generated by toolgen; edits are overwritten on the next run." := by
      decide
    simp only [List.mem_append, List.mem_cons, not_or]
    exact ⟨⟨fun hmem => (hheading.2 _ hmem).2 rfl, by decide, by decide,
      fun hmem => (h.methodLine.2 _ hmem).2 rfl, by decide, fun hmem => (h.pathLine.2 _ hmem).2 rfl⟩,
      by decide, by decide, hlast⟩

/-- The first three double quotes in a row after those that open a unit are those that close its
opening text. -/
theorem closing_of_triple_prefix {t rest : Text} (ht : ¬Text.triple <:+: t) {i : Nat} (hi : 3 ≤ i)
    (h : Text.triple <+:
      (Text.triple ++ (t ++ [CodePoint.char '\n']) ++ Text.triple ++ rest).drop i) :
    3 + (t ++ [CodePoint.char '\n']).length ≤ i := by
  by_contra hearly
  rw [List.length_append, List.length_singleton] at hearly
  obtain ⟨j, rfl⟩ : ∃ j, i = Text.triple.length + j := ⟨i - 3, by
    have hlength : Text.triple.length = 3 := rfl
    omega⟩
  have hlength : Text.triple.length = 3 := rfl
  rw [List.append_assoc, List.append_assoc, ← List.drop_drop, List.drop_left,
    List.append_assoc, List.drop_append_of_le_length (by omega)] at h
  have hinside : Text.triple <+: t.drop j := Text.prefix_of_prefix_append_cons (by decide) h
  exact ht (hinside.isInfix.trans (List.drop_suffix j t).isInfix)

/-- A piece of the expression for a path stands on one line. -/
theorem isLine_expression {part : PathPart}
    (h : ∀ identifier, part = .argument identifier → IsIdentifier identifier) :
    Text.IsLine part.expression := by
  cases part with
  | literal t => exact Text.isLine_quoted t
  | argument identifier =>
    exact Text.IsLine.append (Text.IsLine.append (by decide) (Text.isLine_identifier (h _ rfl)))
      (by decide)

/-- Texts of one line make one with what stands between them. -/
theorem isLine_join {sep : Text} (hsep : Text.IsLine sep) {parts : List Text}
    (h : ∀ part ∈ parts, Text.IsLine part) : Text.IsLine (Text.join sep parts) := by
  induction parts with
  | nil => exact List.forall_mem_nil _
  | cons part parts ih =>
    obtain ⟨hpart, hparts⟩ := List.forall_mem_cons.mp h
    cases parts with
    | nil => exact hpart
    | cons other rest => exact (hpart.append hsep).append (ih hparts)

/-- The expression for a path stands on one line. -/
theorem isLine_pathExpressionFor (op : Operation) {bindings : List Binding}
    (h : ∀ b ∈ bindings, IsIdentifier b.identifier) :
    Text.IsLine (Context.pathExpressionFor op bindings) := by
  unfold Context.pathExpressionFor
  split
  · exact Text.isLine_quoted _
  · refine isLine_join (by decide) fun text htext => ?_
    obtain ⟨part, hpart, rfl⟩ := List.mem_map.mp htext
    refine isLine_expression fun identifier hid => ?_
    obtain ⟨b, hb, rfl⟩ := Program.exists_of_mem_ofPieces (hid ▸ hpart)
    exact h b hb

/-- The lines that build the query. -/
theorem hasLines_queryPart {keys : List QueryKey} (h : ∀ key ∈ keys, IsIdentifier key.identifier) :
    Text.HasLines (if keys.length = 0 then 0 else 2 * keys.length + 3) (queryPart keys) := by
  have hkey : ∀ key ∈ keys, Text.HasLines 2 (queryLines key) := by
    intro key hkey
    have hidentifier := Text.isLine_identifier (h key hkey)
    refine Text.HasLines.append (m := 1) (n := 1) (Text.hasLines_line ?_) (Text.hasLines_line ?_)
    · simp only [List.forall_mem_cons]
      exact ⟨by decide, hidentifier, by decide, List.forall_mem_nil _⟩
    · simp only [List.forall_mem_cons]
      exact ⟨by decide, Text.isLine_quoted _, by decide, hidentifier, by decide,
        Text.isLine_quoted _, by decide, List.forall_mem_nil _⟩
  unfold queryPart
  cases keys with
  | nil => exact ⟨rfl, List.forall_mem_nil _⟩
  | cons key keys =>
    have hall := ((Text.hasLines_fixed Program.fixedParts.queryStart.2).append
      (Text.hasLines_flatMap hkey)).append (Text.hasLines_fixed Program.fixedParts.queryEnd.2)
    have hcount : ["    query_parts = []"].length + 2 * (key :: keys).length + queryEnd.length =
        2 * (key :: keys).length + 3 := by
      simp only [queryEnd, List.length_cons, List.length_nil]
      omega
    rw [hcount] at hall
    exact hall

/-- The lines of the opening text. -/
theorem hasLines_opening {op : Operation} {c : Context} (h : c.IsProper op) :
    Text.HasLines 3 (opening c) := by
  have hrequest : Text.IsLine (c.method ++ .char ' ' :: c.path) := fun d hd =>
    ((h.methodLine.append h.pathLine).2 d hd).1
  refine Text.HasLines.append (m := 2) (n := 1) (.append (m := 1) (n := 1) ?_ ?_) ?_
  · refine Text.hasLines_line ?_
    simp only [List.forall_mem_cons]
    refine ⟨by decide, ?_, List.forall_mem_nil _⟩
    split
    · exact hrequest
    · exact fun d hd => (h.summaryLine.2 d hd).1
  · exact Text.hasLines_line (List.forall_mem_nil _)
  · exact Text.hasLines_line (List.forall_mem_singleton.mpr hrequest)

/-- The lines of the variables. -/
theorem hasLines_ambient : Text.HasLines 4 ambient := by
  unfold Text.HasLines
  decide +kernel

/-- The lines of the table of hints. -/
theorem hasLines_hintTable (hints : List Hint) :
    Text.HasLines (1 + 1 * hints.length) (hintTable hints) := by
  refine (Text.hasLines_fixed Program.fixedParts.tableStart.2).append
    (Text.hasLines_flatMap fun hint _ => ?_)
  refine Text.hasLines_line ?_
  simp only [List.forall_mem_cons]
  exact ⟨by decide, Text.isLine_ofNat _, by decide, Text.isLine_quoted _, by decide,
    List.forall_mem_nil _⟩

/-- The lines that read the inputs. -/
theorem hasLines_bindings {bindings : List Binding}
    (h : ∀ b ∈ bindings, IsIdentifier b.identifier) :
    Text.HasLines (1 * bindings.length) (bindings.flatMap bindingLine) := by
  refine Text.hasLines_flatMap fun b hb => Text.hasLines_line ?_
  simp only [List.forall_mem_cons]
  exact ⟨by decide, Text.isLine_identifier (h b hb), by decide, Text.isLine_quoted _, by decide,
    List.forall_mem_nil _⟩

/-- The line that builds the path. -/
theorem hasLines_pathLine {op : Operation} {c : Context} (h : c.IsProper op) :
    Text.HasLines 1 (line [Text.ofString "    api_path = ", c.pathExpression]) := by
  refine Text.hasLines_line ?_
  simp only [List.forall_mem_cons]
  refine ⟨by decide, ?_, List.forall_mem_nil _⟩
  rw [h.path]
  exact isLine_pathExpressionFor op h.bindings

/-- The lines that prepare a body. -/
theorem hasLines_bodyLines {identifier : Text} (h : IsIdentifier identifier) :
    Text.HasLines 4 (bodyLines identifier) := by
  have hidentifier := Text.isLine_identifier h
  refine Text.HasLines.append (m := 3) (n := 1) (.append (m := 2) (n := 1)
    (.append (m := 1) (n := 1) (Text.hasLines_fixed Program.fixedParts.bodyStart.2)
      (Text.hasLines_line ?_))
    (Text.hasLines_line ?_)) (Text.hasLines_fixed Program.fixedParts.bodyEnd.2)
  · simp only [List.forall_mem_cons]
    exact ⟨by decide, hidentifier, by decide, List.forall_mem_nil _⟩
  · simp only [List.forall_mem_cons]
    exact ⟨by decide, hidentifier, by decide, hidentifier, by decide, hidentifier, by decide,
      List.forall_mem_nil _⟩

/-- The line of the method. -/
theorem hasLines_methodLine (method : Text) :
    Text.HasLines 1 (line [Text.ofString "                ", method.quoted, [.char ',']]) := by
  refine Text.hasLines_line ?_
  simp only [List.forall_mem_cons]
  exact ⟨by decide, Text.isLine_quoted _, by decide, List.forall_mem_nil _⟩

/-- The number of lines of a unit with the given numbers of inputs and of keys of its query. -/
def lineCount (inputs keys : Nat) (sendsBody : Bool) : Nat :=
  94 + inputs + (if keys = 0 then 0 else 2 * keys + 3) + if sendsBody then 5 else 0

/-- The lines of a unit are as many as its inputs, its keys and its body ask for. -/
theorem hasLines_ofContext {op : Operation} {c : Context} (h : c.IsProper op) :
    Text.HasLines (lineCount c.bindings.length c.query.length c.sendsBody) (ofContext c) := by
  have hbody : Text.HasLines (if c.sendsBody then 4 else 0)
      (if c.sendsBody then bodyLines (c.bodyIdentifier.getD []) else []) := by
    split
    · exact hasLines_bodyLines (h.body ‹_›)
    · exact ⟨rfl, List.forall_mem_nil _⟩
  have hargument : Text.HasLines (if c.sendsBody then 1 else 0)
      (if c.sendsBody then bodyArgument else []) := by
    split
    · exact Text.hasLines_fixed Program.fixedParts.bodyArgument.2
    · exact ⟨rfl, List.forall_mem_nil _⟩
  have hintroduction : Text.HasLines introduction.length (fixed introduction) := by
    refine Text.hasLines_fixed (Program.Spells.isLine (by repeat constructor) ?_)
    decide +kernel
  have hhelpers := Text.hasLines_fixed Program.fixedParts.helpers.2
  have hheaders := Text.hasLines_fixed Program.fixedParts.headers.2
  have hrequest := Text.hasLines_fixed Program.fixedParts.requestStart.2
  have htarget := Text.hasLines_fixed Program.fixedParts.requestTarget.2
  have hending := Text.hasLines_fixed Program.fixedParts.ending.2
  have hempty : Text.HasLines 1 (line []) := Text.hasLines_line (List.forall_mem_nil _)
  have hall := (hasLines_opening h).append <| hintroduction.append <| hasLines_ambient.append <|
    (hasLines_hintTable c.hints).append <| hhelpers.append <|
    (hasLines_bindings h.bindings).append <| hempty.append <| (hasLines_pathLine h).append <|
    (hasLines_queryPart h.query).append <| hheaders.append <| hbody.append <| hrequest.append <|
    (hasLines_methodLine c.method).append <| htarget.append <| hargument.append hending
  have hlines : introduction.length = 12 ∧ helpers.length = 33 ∧ headers.length = 5 ∧
      requestStart.length = 4 ∧ requestTarget.length = 2 ∧ ending.length = 20 :=
    ⟨rfl, rfl, rfl, rfl, rfl, rfl⟩
  obtain ⟨hone, htwo, hthree, hfour, hfive, hsix⟩ := hlines
  refine Text.HasLines.of_eq (by unfold ofContext; simpa only [List.append_assoc] using hall) ?_
  rw [h.hints, hone, htwo, hthree, hfour, hfive, hsix, lineCount]
  cases c.sendsBody
  · simp only [Bool.false_eq_true, if_false]
    omega
  · simp only [if_true]
    omega

/-- A unit in which no text of its document can do harm. Its opening text is closed by the first
three double quotes in a row after those that open it, and there is no backslash in it. A reader
sees the opening text, and after it the texts of the document as literals of one line, each as it
was. The identifiers are made of word characters, and the number of lines depends on the numbers of
inputs and of keys and on whether there is a body. -/
structure IsSafe (op : Operation) (c : Context) (source : Text) : Prop where
  opened : Text.triple ++ docText c ++ Text.triple <+: source
  closed : ∀ i, 3 ≤ i → Text.triple <+: source.drop i → 3 + (docText c).length ≤ i
  unescaped : CodePoint.char '\\' ∉ docText c
  read : Program.tokens? source = some (.block true (docText c) :: Program.unitTokens op c)
  inputs : ∀ b ∈ c.bindings, IsIdentifier b.identifier
  keys : ∀ key ∈ c.query, IsIdentifier key.identifier
  body : c.sendsBody = true → IsIdentifier (c.bodyIdentifier.getD [])
  lines : Text.HasLines (lineCount c.bindings.length c.query.length c.sendsBody) source

/-- A unit with proper parts is safe. -/
theorem isSafe_ofContext {op : Operation} {c : Context} (h : c.IsProper op) :
    IsSafe op c (ofContext c) := by
  obtain ⟨t, hdoc, htriple, hslash⟩ := docText_spec h
  refine ⟨?_, fun i hi hprefix => ?_, ?_, ?_, h.bindings, h.query, h.body, hasLines_ofContext h⟩
  · rw [ofContext_eq]
    exact List.prefix_append _ _
  · rw [hdoc]
    rw [ofContext_eq, hdoc] at hprefix
    exact closing_of_triple_prefix htriple hi hprefix
  · rw [hdoc]
    simpa using hslash
  · have hread := (Program.readsAs_triple hslash htriple).append (Program.readsAs_afterOpening h)
    rw [ofContext_eq, hdoc, hread.tokens?, List.singleton_append]

end Source

namespace Tool

/-- The unit of a tool of a document is made from proper parts. -/
theorem exists_isProper {service : Service} {document : Members} {tools : List Tool}
    (h : ofDocument service document = .ok tools) {tool : Tool} (htool : tool ∈ tools) :
    ∃ c, Context.ofOperation tool.operation = .ok c ∧ c.IsProper tool.operation ∧
      Source.ofContext c = tool.source := by
  have hwords : ∀ method ∈ Operation.methods.map Prod.snd,
      Text.IsOpeningLine (Text.ofString method) := by
    unfold Text.IsOpeningLine
    decide
  obtain ⟨op, hop, htoolop⟩ := exists_operation h htool
  obtain ⟨method, hmethod, heq⟩ := Operation.method_of_mem_ofDocument hop
  have hline : Text.IsOpeningLine tool.operation.method := by
    rw [htoolop, heq]
    exact hwords method hmethod
  have hsource := (of_ofDocument h).2 tool htool
  unfold Source.ofOperation at hsource
  cases hc : Context.ofOperation tool.operation with
  | error fault => rw [hc] at hsource; cases hsource
  | ok c =>
    rw [hc] at hsource
    exact ⟨c, rfl, Context.isProper_ofOperation hline hc, Except.ok.inj hsource⟩

/-- The unit of a tool of a document holds no carriage return. -/
theorem not_mem_source {service : Service} {document : Members} {tools : List Tool}
    (h : ofDocument service document = .ok tools) {tool : Tool} (htool : tool ∈ tools) :
    CodePoint.char '\r' ∉ tool.source := by
  obtain ⟨c, -, hproper, hunit⟩ := exists_isProper h htool
  intro hmem
  rw [← hunit] at hmem
  have hfeed := (Source.hasLines_ofContext hproper).2 _ hmem (by decide)
  exact absurd hfeed (by decide)

/-- In the unit of every tool of every document, no text of the document, of the service's name or
of its display name can do harm. -/
theorem isSafe_ofDocument {service : Service} {document : Members} {tools : List Tool}
    (h : ofDocument service document = .ok tools) :
    ∀ tool ∈ tools, ∃ c, Context.ofOperation tool.operation = .ok c ∧
      Source.IsSafe tool.operation c tool.source := by
  intro tool htool
  obtain ⟨c, hc, hproper, hunit⟩ := exists_isProper h htool
  refine ⟨c, hc, ?_⟩
  rw [← hunit]
  exact Source.isSafe_ofContext hproper

/-- A document whose texts are full of quotes, backslashes and line ends. -/
def hostileDocument : Members :=
  [(Text.ofString "paths", .record [("/a\"\"\"b\\/\x7bx\n'\x7d", .record [("get", .record [
    ("summary", .ofString "\"\"\"\"\n\"\"\"; import os #\\"),
    ("parameters", .array [
      .record [("name", .ofString "x\n'"), ("in", .ofString "path")],
      .record [("name", .ofString "q\"'\r"), ("in", .ofString "query")]])])])])]

/-- The hostile document has a tool, whose unit is safe. -/
theorem isSafe_hostile :
    ∃ tools, ofDocument ⟨.ofString "it's", .ofString "v1", .null, .null⟩ hostileDocument =
        .ok tools ∧ tools.length = 1 ∧ ∀ tool ∈ tools, ∃ c,
      Context.ofOperation tool.operation = .ok c ∧ Source.IsSafe tool.operation c tool.source := by
  have hlength : (ofDocument ⟨.ofString "it's", .ofString "v1", .null, .null⟩
      hostileDocument).toOption.map List.length = some 1 := by
    decide +kernel
  obtain ⟨tools, htools, hone⟩ := Option.map_eq_some_iff.mp hlength
  cases hread : ofDocument ⟨.ofString "it's", .ofString "v1", .null, .null⟩ hostileDocument with
  | error fault => rw [hread] at htools; cases htools
  | ok found =>
    rw [hread] at htools
    obtain rfl : found = tools := Option.some.inj htools
    exact ⟨found, rfl, hone, isSafe_ofDocument hread⟩

end Tool

end Toolsmith
