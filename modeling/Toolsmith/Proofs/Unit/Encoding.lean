import Toolsmith.Proofs.Json.Characters
import Toolsmith.Proofs.Unit.Safety

/-!
# The encoding of a unit

Literals and identifiers hold no lone surrogates, whatever the texts of a document hold. Only the
opening text of a unit is put down as it is, so a unit can be written exactly if that text can.
-/

namespace Toolsmith

namespace Text

/-- Texts with encodings make one with an encoding. -/
theorem encode_flatten {pieces : List Text} (h : ∀ piece ∈ pieces, piece.encode.isSome = true) :
    (encode pieces.flatten).isSome = true := by
  rw [encode_isSome_iff]
  intro c hc
  obtain ⟨piece, hpiece, hc⟩ := List.mem_flatten.mp hc
  exact encode_isSome_iff.mp (h piece hpiece) c hc

/-- Texts with encodings, made one by one, make one with an encoding. -/
theorem encode_flatMap {α : Type} {f : α → Text} {parts : List α}
    (h : ∀ part ∈ parts, (f part).encode.isSome = true) :
    (encode (parts.flatMap f)).isSome = true := by
  rw [List.flatMap_def]
  exact encode_flatten (List.forall_mem_map.mpr h)

/-- Texts with encodings make one with what stands between them. -/
theorem encode_join {sep : Text} (hsep : sep.encode.isSome = true) {parts : List Text}
    (h : ∀ part ∈ parts, part.encode.isSome = true) : (join sep parts).encode.isSome = true := by
  induction parts with
  | nil => rfl
  | cons part parts ih =>
    obtain ⟨hpart, hparts⟩ := List.forall_mem_cons.mp h
    cases parts with
    | nil => exact hpart
    | cons other rest =>
      exact encode_isSome_append.mpr ⟨encode_isSome_append.mpr ⟨hpart, hsep⟩, ih hparts⟩

/-- A hexadecimal number has an encoding. -/
theorem encode_ofHex (width n : Nat) : (ofHex width n).encode.isSome = true := by
  rw [encode_isSome_iff]
  intro c hc
  obtain ⟨d, hd, rfl⟩ := mem_ofHex hc
  exact Json.IsShown.isChar (Json.isShown_digitPoint hd)

/-- What stands between quotes has an encoding. -/
theorem encode_quotePoint {mark : CodePoint} (hmark : Program.isMark mark = true)
    (point : CodePoint) : (quotePoint mark point).encode.isSome = true := by
  have hquote : mark.toChar?.isSome = true := by
    simp only [Program.isMark, Bool.or_eq_true, decide_eq_true_eq] at hmark
    rcases hmark with rfl | rfl <;> rfl
  have hescaped : ∀ (s : String) (width : Nat),
      (ofString s ++ ofHex width point.code).encode.isSome = true := fun s width =>
    encode_isSome_append.mpr ⟨encode_ofString_isSome s, encode_ofHex width _⟩
  unfold quotePoint
  split
  · rename_i hself
    simp only [Bool.or_eq_true, decide_eq_true_eq] at hself
    rw [encode_isSome_char]
    rcases hself with rfl | rfl
    · exact encode_isSome_iff.mpr (List.forall_mem_singleton.mpr hquote)
    · rfl
  split
  · exact encode_ofString_isSome _
  split
  · exact encode_ofString_isSome _
  split
  · exact encode_ofString_isSome _
  split
  · rename_i hprintable
    exact encode_isSome_iff.mpr (List.forall_mem_singleton.mpr (isChar_of_isPrintable hprintable))
  split
  · exact hescaped _ 2
  split
  · exact hescaped _ 4
  · exact hescaped _ 8

/-- The literal of a text has an encoding, whatever the text holds. -/
theorem encode_quoted (t : Text) : t.quoted.encode.isSome = true := by
  have hmark := Program.isMark_quoteMark t
  have hquote : t.quoteMark.toChar?.isSome = true := by
    unfold quoteMark
    split <;> rfl
  rw [encode_isSome_iff]
  intro c hc
  simp only [quoted, List.cons_append, List.mem_cons, List.mem_append, List.mem_flatMap,
    List.not_mem_nil, or_false] at hc
  rcases hc with rfl | ⟨point, -, hc⟩ | rfl
  · exact hquote
  · exact encode_isSome_iff.mp (encode_quotePoint hmark point) c hc
  · exact hquote

/-- An identifier has an encoding. -/
theorem encode_identifier {t : Text} (h : IsIdentifier t) : t.encode.isSome = true := by
  obtain ⟨rest, rfl, hrest⟩ := h
  refine encode_isSome_append.mpr ⟨encode_ofString_isSome _, encode_isSome_iff.mpr ?_⟩
  exact fun c hc => isChar_of_isWord (hrest c hc)

end Text

namespace Source

/-- A line has an encoding if its pieces have. -/
theorem encode_line {pieces : List Text} (h : ∀ piece ∈ pieces, piece.encode.isSome = true) :
    (line pieces).encode.isSome = true :=
  Text.encode_isSome_append.mpr ⟨Text.encode_flatten h, rfl⟩

/-- Fixed lines have an encoding. -/
theorem encode_fixed (lines : List String) : (fixed lines).encode.isSome = true := by
  refine Text.encode_flatMap fun line _ => ?_
  exact Text.encode_isSome_append.mpr ⟨Text.encode_ofString_isSome line, rfl⟩

/-- The lines of the variables have an encoding. -/
theorem encode_ambient : ambient.encode.isSome = true := by
  refine Text.encode_isSome_append.mpr ⟨Text.encode_isSome_append.mpr ⟨?_, ?_⟩, encode_fixed _⟩
  all_goals
    apply encode_line
    simp only [List.forall_mem_cons]
    exact ⟨Text.encode_ofString_isSome _, Text.encode_quoted _, List.forall_mem_nil _⟩

/-- The table of hints has an encoding. -/
theorem encode_hintTable (hints : List Hint) : (hintTable hints).encode.isSome = true := by
  refine Text.encode_isSome_append.mpr ⟨encode_fixed _, Text.encode_flatMap fun hint _ => ?_⟩
  refine encode_line ?_
  simp only [List.forall_mem_cons]
  exact ⟨Text.encode_ofString_isSome _, Json.encode_ofNat _, Text.encode_ofString_isSome _,
    Text.encode_quoted _, Text.encode_ofString_isSome _, List.forall_mem_nil _⟩

/-- The lines that read the inputs have an encoding. -/
theorem encode_bindings {bindings : List Binding} (h : ∀ b ∈ bindings, IsIdentifier b.identifier) :
    (Text.encode (bindings.flatMap bindingLine)).isSome = true := by
  refine Text.encode_flatMap fun b hb => encode_line ?_
  simp only [List.forall_mem_cons]
  exact ⟨Text.encode_ofString_isSome _, Text.encode_identifier (h b hb),
    Text.encode_ofString_isSome _, Text.encode_quoted _, Text.encode_ofString_isSome _,
    List.forall_mem_nil _⟩

/-- The expression for a path has an encoding. -/
theorem encode_pathExpressionFor (op : Operation) {bindings : List Binding}
    (h : ∀ b ∈ bindings, IsIdentifier b.identifier) :
    (Context.pathExpressionFor op bindings).encode.isSome = true := by
  unfold Context.pathExpressionFor
  split
  · exact Text.encode_quoted _
  · refine Text.encode_join (Text.encode_ofString_isSome _) (List.forall_mem_map.mpr ?_)
    intro part hpart
    cases part with
    | literal t => exact Text.encode_quoted t
    | argument identifier =>
      obtain ⟨b, hb, rfl⟩ := Program.exists_of_mem_ofPieces hpart
      exact Text.encode_isSome_append.mpr ⟨Text.encode_isSome_append.mpr
        ⟨Text.encode_ofString_isSome _, Text.encode_identifier (h b hb)⟩,
        Text.encode_ofString_isSome _⟩

/-- The lines that build the query have an encoding. -/
theorem encode_queryPart {keys : List QueryKey} (h : ∀ key ∈ keys, IsIdentifier key.identifier) :
    (queryPart keys).encode.isSome = true := by
  have hlines : ∀ key ∈ keys, (queryLines key).encode.isSome = true := by
    intro key hkey
    have hidentifier := Text.encode_identifier (h key hkey)
    refine Text.encode_isSome_append.mpr ⟨encode_line ?_, encode_line ?_⟩
    · simp only [List.forall_mem_cons]
      exact ⟨Text.encode_ofString_isSome _, hidentifier, Text.encode_ofString_isSome _,
        List.forall_mem_nil _⟩
    · simp only [List.forall_mem_cons]
      exact ⟨Text.encode_ofString_isSome _, Text.encode_quoted _, Text.encode_ofString_isSome _,
        hidentifier, Text.encode_ofString_isSome _, Text.encode_quoted _,
        Text.encode_ofString_isSome _, List.forall_mem_nil _⟩
  unfold queryPart
  split
  · rfl
  · exact Text.encode_isSome_append.mpr ⟨Text.encode_isSome_append.mpr
      ⟨encode_fixed _, Text.encode_flatMap hlines⟩, encode_fixed _⟩

/-- The lines that prepare a body have an encoding. -/
theorem encode_bodyLines {identifier : Text} (h : IsIdentifier identifier) :
    (bodyLines identifier).encode.isSome = true := by
  have hidentifier := Text.encode_identifier h
  refine Text.encode_isSome_append.mpr ⟨Text.encode_isSome_append.mpr
    ⟨Text.encode_isSome_append.mpr ⟨encode_fixed _, encode_line ?_⟩, encode_line ?_⟩,
    encode_fixed _⟩
  · simp only [List.forall_mem_cons]
    exact ⟨Text.encode_ofString_isSome _, hidentifier, Text.encode_ofString_isSome _,
      List.forall_mem_nil _⟩
  · simp only [List.forall_mem_cons]
    exact ⟨Text.encode_ofString_isSome _, hidentifier, Text.encode_ofString_isSome _, hidentifier,
      Text.encode_ofString_isSome _, hidentifier, Text.encode_ofString_isSome _,
      List.forall_mem_nil _⟩

/-- The opening text has an encoding if its summary and its path have. -/
theorem encode_opening {c : Context} (hmethod : c.method.encode.isSome = true) :
    (opening c).encode.isSome = true ↔
      c.summary.encode.isSome = true ∧ c.path.encode.isSome = true := by
  have hline : ∀ pieces, (line pieces).encode.isSome = true ↔
      (Text.encode pieces.flatten).isSome = true := fun pieces => by
    rw [line, Text.encode_isSome_append, and_iff_left (by rfl)]
  have hempty : (Text.encode []).isSome = true := rfl
  unfold opening
  simp only [Text.encode_isSome_append, hline, List.flatten_cons, List.flatten_nil, hempty, hmethod,
    Text.encode_ofString_isSome, Text.encode_isSome_char, true_and, and_true]
  cases c.summary with
  | nil =>
    simp only [List.isEmpty_nil, if_true, Text.encode_isSome_append, Text.encode_isSome_char,
      hmethod, hempty, true_and, and_self]
  | cons point rest => simp only [List.isEmpty_cons, Bool.false_eq_true, if_false]

/-- A unit with proper parts has an encoding exactly if its opening text has. -/
theorem encode_ofContext {op : Operation} {c : Context} (h : c.IsProper op) :
    (ofContext c).encode.isSome = true ↔ (opening c).encode.isSome = true := by
  have hempty : (line []).encode.isSome = true := encode_line (List.forall_mem_nil _)
  have hpath : (line [Text.ofString "    api_path = ", c.pathExpression]).encode.isSome = true := by
    refine encode_line ?_
    simp only [List.forall_mem_cons]
    rw [h.path]
    exact ⟨Text.encode_ofString_isSome _, encode_pathExpressionFor op h.bindings,
      List.forall_mem_nil _⟩
  have hmethod : (line [Text.ofString "                ", c.method.quoted,
      [.char ',']]).encode.isSome = true := by
    refine encode_line ?_
    simp only [List.forall_mem_cons]
    exact ⟨Text.encode_ofString_isSome _, Text.encode_quoted _, rfl, List.forall_mem_nil _⟩
  have hbody : (if c.sendsBody then bodyLines (c.bodyIdentifier.getD []) else []).encode.isSome =
      true := by
    split
    · exact encode_bodyLines (h.body ‹_›)
    · rfl
  have hargument : (if c.sendsBody then bodyArgument else []).encode.isSome = true := by
    split
    · exact encode_fixed _
    · rfl
  unfold ofContext
  simp only [Text.encode_isSome_append, encode_fixed, encode_ambient, encode_hintTable,
    encode_bindings h.bindings, encode_queryPart h.query, hempty, hpath, hmethod, hbody, hargument,
    and_true]

end Source

namespace Tool

/-- The unit of a tool can be written exactly if its summary line and its path can. -/
theorem encode_source {service : Service} {document : Members} {tools : List Tool}
    (h : ofDocument service document = .ok tools) {tool : Tool} (htool : tool ∈ tools) :
    tool.source.encode.isSome = true ↔
      (Context.docLine (if tool.operation.summary.isEmpty then tool.operation.description
        else tool.operation.summary)).encode.isSome = true ∧
      (Context.docLine tool.operation.path).encode.isSome = true := by
  obtain ⟨c, hc, hproper, hunit⟩ := exists_isProper h htool
  obtain ⟨op, hop, htoolop⟩ := exists_operation h htool
  obtain ⟨method, -, heq⟩ := Operation.method_of_mem_ofDocument hop
  have hmethod : tool.operation.method.encode.isSome = true := by
    rw [htoolop, heq]
    exact Text.encode_ofString_isSome method
  obtain ⟨query, -, rfl⟩ := Context.ofOperation_eq_ok.mp hc
  rw [← hunit, Source.encode_ofContext hproper, Source.encode_opening hmethod]
  rfl

end Tool

end Toolsmith
