import Toolsmith.Naming.ToolName
import Toolsmith.Proofs.Document.Template
import Toolsmith.Proofs.Text.Pieces

/-!
# Names from the segments of a path

Two parts of a tool's name come from its path: the resource, and the operation where that has no
identifier. The resource passes over segments that begin with a brace. The operation takes the
placeholders out of the path before it is cut, so that slashes come to stand side by side. In a path
that is made of segments both find the same ones that stand for themselves; the resource is named
after the first of them and the operation after the last.
-/

namespace Toolsmith.Naming

/-- What a segment of a path may hold: a text that is not empty, without slashes and braces. -/
structure IsPlain (t : Text) : Prop where
  ne_nil : t ≠ []
  no_slash : CodePoint.char '/' ∉ t
  no_opening : CodePoint.char '\x7b' ∉ t
  no_closing : CodePoint.char '\x7d' ∉ t

instance : DecidablePred IsPlain := fun t =>
  decidable_of_iff (t ≠ [] ∧ CodePoint.char '/' ∉ t ∧ CodePoint.char '\x7b' ∉ t ∧
      CodePoint.char '\x7d' ∉ t)
    ⟨fun h => ⟨h.1, h.2.1, h.2.2.1, h.2.2.2⟩,
      fun h => ⟨h.ne_nil, h.no_slash, h.no_opening, h.no_closing⟩⟩

/-- A segment of a path: a text that stands for itself, or the placeholder of a name. -/
inductive Segment where
  | literal (text : Text) (plain : IsPlain text)
  | placeholder (name : Text) (plain : IsPlain name)

namespace Segment

/-- A segment as it stands in a path. -/
def text : Segment → Text
  | literal text _ => text
  | placeholder name _ => .char '\x7b' :: (name ++ [.char '\x7d'])

/-- The text of a segment that stands for itself. -/
def literal? : Segment → Option Text
  | literal text _ => some text
  | placeholder _ _ => none

end Segment

/-- The segments that stand for themselves, in order. -/
def literals (path : List Segment) : List Text :=
  path.filterMap Segment.literal?

/-- The path of segments: each stands after a slash, and a closed path ends with one more. -/
def pathOf (closed : Bool) : List Segment → Text
  | [] => if closed then [.char '/'] else []
  | segment :: rest => .char '/' :: (segment.text ++ pathOf closed rest)

/-- The part of a name that stands for a segment; `Root` where there is none. -/
def namePart : Option Text → Text
  | some segment => segment.upperFirst
  | none => Text.ofString "Root"

/-- A text that is empty or goes on with a slash. -/
def IsCut (t : Text) : Prop :=
  t = [] ∨ ∃ rest, t = .char '/' :: rest

variable {t rest : Text} {segment : Segment} {path : List Segment} {closed : Bool}

/-- The path of segments is empty or begins with a slash. -/
theorem isCut_pathOf (closed : Bool) (path : List Segment) : IsCut (pathOf closed path) := by
  cases path with
  | nil =>
    cases closed with
    | false => exact .inl rfl
    | true => exact .inr ⟨[], rfl⟩
  | cons segment rest => exact .inr ⟨_, rfl⟩

/-- A slash at the beginning cuts nothing off. -/
theorem segments_slash (rest : Text) : segments (.char '/' :: rest) = segments rest := by
  rw [segments, Text.splitOn, if_pos rfl, List.filter_cons_of_neg (by simp)]
  rfl

/-- What stands before a slash, or before the end, is a segment. -/
theorem segments_append (hne : t ≠ []) (hslash : CodePoint.char '/' ∉ t) (hrest : IsCut rest) :
    segments (t ++ rest) = t :: segments rest := by
  rcases hrest with rfl | ⟨more, rfl⟩
  · rw [List.append_nil, segments, Text.splitOn_eq_singleton hslash,
      List.filter_cons_of_pos (by simpa using hne)]
    rfl
  · rw [segments, Text.splitOn_append hslash, List.filter_cons_of_pos (by simpa using hne),
      segments_slash]
    rfl

/-- A segment is not empty. -/
theorem Segment.text_ne_nil (segment : Segment) : segment.text ≠ [] := by
  cases segment with
  | literal text plain => exact plain.ne_nil
  | placeholder name plain => exact List.cons_ne_nil _ _

/-- A segment holds no slash. -/
theorem Segment.slash_not_mem_text (segment : Segment) : CodePoint.char '/' ∉ segment.text := by
  cases segment with
  | literal text plain => exact plain.no_slash
  | placeholder name plain => simpa [Segment.text] using plain.no_slash

/-- A segment begins with a brace exactly if it does not stand for itself. -/
theorem Segment.head?_text (segment : Segment) :
    (segment.text.head? != some (.char '\x7b')) = segment.literal?.isSome := by
  cases segment with
  | literal text plain =>
    have hhead : text.head? ≠ some (.char '\x7b') := fun hhead =>
      plain.no_opening (List.mem_of_mem_head? hhead)
    simpa [Segment.text, Segment.literal?] using hhead
  | placeholder name plain => rfl

/-- A path is cut into its segments. -/
theorem segments_pathOf (closed : Bool) (path : List Segment) :
    segments (pathOf closed path) = path.map Segment.text := by
  induction path with
  | nil => cases closed <;> rfl
  | cons segment path ih =>
    rw [pathOf, segments_slash, segments_append segment.text_ne_nil segment.slash_not_mem_text
      (isCut_pathOf closed path), ih, List.map_cons]

/-- The first segment that begins with no brace is the first that stands for itself. -/
theorem find?_text (path : List Segment) :
    (path.map Segment.text).find? (fun segment => segment.head? != some (.char '\x7b')) =
      (literals path).head? := by
  induction path with
  | nil => rfl
  | cons segment path ih =>
    rw [List.map_cons, List.find?_cons, segment.head?_text, ih]
    cases segment <;> rfl

/-- The resource of a path is named after the first segment that stands for itself. -/
theorem resource_pathOf (closed : Bool) (path : List Segment) :
    resource (pathOf closed path) = namePart (literals path).head? := by
  rw [resource, segments_pathOf, find?_text]
  cases (literals path).head? <;> rfl

/-- What holds no opening brace stays when placeholders are taken out. -/
theorem withoutPlaceholders_append (h : CodePoint.char '\x7b' ∉ t) :
    Template.withoutPlaceholders (t ++ rest) = t ++ Template.withoutPlaceholders rest := by
  induction t with
  | nil => rfl
  | cons c t ih =>
    obtain ⟨hc, ht⟩ := List.ne_and_not_mem_of_not_mem_cons h
    have hpieces : Template.pieces (c :: (t ++ rest)) =
        .point c :: Template.pieces (t ++ rest) :=
      Template.pieces_of_not_begins fun name after hbegins => hc (List.cons.inj hbegins.1).1.symm
    have hrest := ih ht
    rw [Template.withoutPlaceholders] at hrest ⊢
    rw [List.cons_append, hpieces, Template.fill, List.flatMap_cons]
    exact congrArg (c :: ·) hrest

/-- Nothing stays of a placeholder. -/
theorem withoutPlaceholders_placeholder {name : Text} (h : IsPlain name) :
    Template.withoutPlaceholders (.char '\x7b' :: (name ++ .char '\x7d' :: rest)) =
      Template.withoutPlaceholders rest := by
  have hbegins : Template.Begins (.char '\x7b' :: (name ++ .char '\x7d' :: rest)) name rest :=
    ⟨rfl, h.ne_nil, h.no_closing⟩
  rw [Template.withoutPlaceholders, Template.pieces_of_begins hbegins]
  rfl

/-- Of a segment in front of a path what stands for itself stays when placeholders are taken out. -/
theorem withoutPlaceholders_segment (segment : Segment) (rest : Text) :
    Template.withoutPlaceholders (.char '/' :: (segment.text ++ rest)) =
      .char '/' :: (segment.literal?.getD [] ++ Template.withoutPlaceholders rest) := by
  have hslash : Template.withoutPlaceholders (.char '/' :: (segment.text ++ rest)) =
      .char '/' :: Template.withoutPlaceholders (segment.text ++ rest) :=
    withoutPlaceholders_append (t := [.char '/']) (by decide)
  rw [hslash]
  cases segment with
  | literal text plain => rw [Segment.text, withoutPlaceholders_append plain.no_opening]; rfl
  | placeholder name plain =>
    have hbraces : (Segment.placeholder name plain).text ++ rest =
        .char '\x7b' :: (name ++ .char '\x7d' :: rest) := by
      simp [Segment.text]
    rw [hbraces, withoutPlaceholders_placeholder plain]
    rfl

/-- The path is empty or begins with a slash also when placeholders are taken out. -/
theorem isCut_withoutPlaceholders (closed : Bool) (path : List Segment) :
    IsCut (Template.withoutPlaceholders (pathOf closed path)) := by
  cases path with
  | nil =>
    cases closed with
    | false => exact .inl rfl
    | true => exact .inr ⟨[], rfl⟩
  | cons segment rest =>
    rw [pathOf, withoutPlaceholders_segment]
    exact .inr ⟨_, rfl⟩

/-- What is left of a path without placeholders is cut into the segments that stand for
themselves: the slashes about a placeholder cut nothing off. -/
theorem segments_withoutPlaceholders (closed : Bool) (path : List Segment) :
    segments (Template.withoutPlaceholders (pathOf closed path)) = literals path := by
  induction path with
  | nil => cases closed <;> rfl
  | cons segment path ih =>
    rw [pathOf, withoutPlaceholders_segment, segments_slash]
    cases segment with
    | literal text plain =>
      rw [Segment.literal?, Option.getD_some, segments_append plain.ne_nil plain.no_slash
        (isCut_withoutPlaceholders closed path), ih]
      rfl
    | placeholder name plain => exact ih

/-- An operation without an identifier is named after the last segment that stands for itself. -/
theorem operationName_pathOf (method : Text) {operationId : Option Text}
    (hid : operationId.getD [] = []) (closed : Bool) (path : List Segment) :
    operationName method operationId (pathOf closed path) =
      method.lower ++ namePart (literals path).getLast? := by
  have hroot : (Text.ofString "root").upperFirst = Text.ofString "Root" := by decide +kernel
  have hlast : operationName method operationId (pathOf closed path) = method.lower ++
      ((literals path).getLast?.getD (Text.ofString "root")).upperFirst := by
    rw [← segments_withoutPlaceholders closed path]
    cases operationId with
    | none => rfl
    | some id =>
      cases id with
      | nil => rfl
      | cons c id => cases hid
  rw [hlast]
  cases (literals path).getLast? with
  | none => rw [Option.getD_none, hroot]; rfl
  | some segment => rfl

/-- The resource and the operation of a tool come from the same segments of its path, those that
stand for themselves. The resource is named after the first of them. The operation is named after
the method and the last of them, unless it has an identifier. -/
theorem rawName_pathOf (service method : Text) (displayName : Option Text)
    {operationId : Option Text} (hid : operationId.getD [] = []) (closed : Bool)
    (path : List Segment) :
    resource (pathOf closed path) = namePart (literals path).head? ∧
      operationName method operationId (pathOf closed path) =
        method.lower ++ namePart (literals path).getLast? ∧
      rawName service method operationId (pathOf closed path) displayName =
        Text.join (Text.ofString "-") [area service displayName, namePart (literals path).head?,
          method.upper, method.lower ++ namePart (literals path).getLast?] := by
  have hresource := resource_pathOf closed path
  have hoperation := operationName_pathOf method hid closed path
  refine ⟨hresource, hoperation, ?_⟩
  rw [rawName, hresource, hoperation]

/-- A path with placeholders at its beginning, side by side and before a slash at its end. -/
def samplePath : List Segment :=
  [.placeholder (Text.ofString "tenant") (by decide), .literal (Text.ofString "workers") (by decide),
    .placeholder (Text.ofString "ID") (by decide), .placeholder (Text.ofString "v") (by decide),
    .literal (Text.ofString "leavesOfAbsence") (by decide),
    .placeholder (Text.ofString "key") (by decide)]

/-- A name from a path on which placeholders stand before, between and behind its literals. -/
theorem rawName_samplePath :
    pathOf true samplePath = Text.ofString
        "/\x7btenant\x7d/workers/\x7bID\x7d/\x7bv\x7d/leavesOfAbsence/\x7bkey\x7d/" ∧
      (none : Option Text).getD [] = [] ∧
      rawName (Text.ofString "absence") (Text.ofString "get") none (pathOf true samplePath) none =
        Text.ofString "Absence-Workers-GET-getLeavesOfAbsence" := by
  have hid : (none : Option Text).getD [] = [] := rfl
  obtain ⟨-, -, hname⟩ := rawName_pathOf (Text.ofString "absence") (Text.ofString "get") none hid true
    samplePath
  refine ⟨by decide, hid, hname.trans ?_⟩
  decide +kernel

end Toolsmith.Naming
