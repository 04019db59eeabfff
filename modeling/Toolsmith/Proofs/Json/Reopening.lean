import Toolsmith.Proofs.Files.Contents

/-!
# What is read where a document has been written

A document without doubles is written to a file and read back as it is, if it fits: its integers
have few enough digits, and it is not nested too deeply. Otherwise nothing is written.
-/

namespace Toolsmith

namespace Json

/-- Any value but a double. -/
def IsExactNode : Json → Prop
  | number _ => False
  | _ => True

/-- A value without doubles. -/
def IsExact (v : Json) : Prop :=
  v.All IsExactNode

/-- An object that repeats no key, or any other value. -/
def HasDistinctKeysNode : Json → Prop
  | object members => (members.map Prod.fst).Nodup
  | _ => True

/-- A value in which no object repeats a key. -/
def HasDistinctKeys (v : Json) : Prop :=
  v.All HasDistinctKeysNode

/-- A value that repeats no key and has integers of few enough digits can be read. -/
theorem HasDistinctKeys.regular {v : Json} (h : v.HasDistinctKeys) (hshort : v.HasShortIntegers) :
    v.Regular := by
  intro w hw
  have hnode := h w hw
  have hlength := hshort w hw
  cases w <;> first | exact hnode | exact hlength

/-- A value without doubles is read as it was written. -/
theorem IsExact.stable {v : Json} (h : v.IsExact) : v.Stable := by
  intro w hw
  have hnode := h w hw
  cases w <;> first | exact hnode.elim | trivial

/-- A document whose texts hold line ends of several kinds, and whose values look alike. -/
def lineEnds : Json :=
  object [([.char '\r', .ofCode 0x85, .ofCode 1],
      array [bool true, integer 1, ofString "1", text [.char '\n', .ofCode 0x2028, .char '"']]),
    ([], object [])]

/-- What holds of each value in the document with line ends holds of all of them. -/
theorem all_lineEnds {p : Json → Prop} (hbool : ∀ b, p (.bool b)) (hinteger : p (.integer 1))
    (htext : ∀ t, p (.text t)) (harray : ∀ items, p (.array items)) (hempty : p (.object []))
    (hself : p lineEnds) : lineEnds.All p := by
  refine .of_members hself ?_
  simp only [List.forall_mem_cons, List.not_mem_nil, false_implies, implies_true, and_true]
  refine ⟨.of_items (harray _) ?_, .of_members hempty (by simp)⟩
  simp only [List.forall_mem_cons, List.not_mem_nil, false_implies, implies_true, and_true]
  exact ⟨.of_bool (hbool true), .of_integer hinteger, .of_text (htext _), .of_text (htext _)⟩

/-- Arrays in one another, with an empty one innermost. -/
def nested : Nat → Json
  | 0 => array []
  | n + 1 => array [nested n]

/-- Arrays in one another are as deep as there are arrays. -/
theorem depth_nested (n : Nat) : (nested n).depth = n + 1 := by
  induction n with
  | zero => rfl
  | succ n ih => rw [nested, depth, itemsDepth, itemsDepth, ih, Nat.max_zero]

/-- What holds of all arrays holds of everything in nested ones. -/
theorem all_nested {p : Json → Prop} (h : ∀ items, p (.array items)) (n : Nat) :
    (nested n).All p := by
  induction n with
  | zero => exact .of_items (h _) (by simp)
  | succ n ih => exact .of_items (h _) (by simpa using ih)

end Json

namespace Action

/-- A document that fits is read back from the file that it has been written to. -/
theorem readDocument_of_writeDocument {v : Json} (hexact : v.IsExact) (hkeys : v.HasDistinctKeys)
    {path : Path} (hpath : path.IsDirect) {w w' : World} {u : Unit}
    (h : writeDocument path v w = .ok u w') :
    readText path w' = .ok v.fileText w' ∧ readDocument path w' = .ok v w' := by
  obtain ⟨hfits, hwrite⟩ := writeDocument_eq_ok.mp h
  obtain ⟨files, rfl, -, hholds⟩ := writeText_spec hpath hwrite
  have htext := hholds.text? (Json.not_mem_fileText v)
  have hdocument := hholds.document? (hkeys.regular hfits.short) hexact.stable hfits.depth
  exact ⟨readText_eq_ok_text?.mpr ⟨htext, rfl⟩, readDocument_eq_ok_document?.mpr ⟨hdocument, rfl⟩⟩

/-- A document without doubles that fits is written by its text, which has an encoding, wherever a
file can be written; and it is read back from there, with the same text. A document that does not
fit has no text, and it is not written anywhere. -/
theorem writeDocument_readDocument {v : Json} (hexact : v.IsExact) (hkeys : v.HasDistinctKeys)
    (hencodable : v.Encodable) {path : Path} (hpath : path.IsDirect) (w : World) :
    (v.Fits Json.maxDepth → ∃ t bytes, v.dump = .ok t ∧ t.encode = some bytes ∧
      (∀ files, w.files.write path bytes = .ok files →
        writeDocument path v w = .ok () { w with files }) ∧
      ∀ u w', writeDocument path v w = .ok u w' →
        readText path w' = .ok t w' ∧ readDocument path w' = .ok v w') ∧
    (¬v.Fits Json.maxDepth → ∃ obstacle, v.dump = .error obstacle ∧
      writeDocument path v w = .error (.ofObstacle obstacle) w) := by
  constructor
  · intro hfits
    obtain ⟨bytes, hbytes⟩ := Option.isSome_iff_exists.mp (Json.encode_fileText.mpr hencodable)
    refine ⟨v.fileText, bytes, hfits.dump, hbytes, fun files hwrite => ?_, fun u w' h => ?_⟩
    · exact writeDocument_eq_ok.mpr ⟨hfits, writeText_eq_ok.mpr ⟨bytes, files, hbytes, hwrite, rfl⟩⟩
    · exact readDocument_of_writeDocument hexact hkeys hpath h
  · intro hfits
    obtain ⟨obstacle, hobstacle⟩ := Json.exists_dump_eq_error hfits
    exact ⟨obstacle, hobstacle, writeDocument_of_dump hobstacle⟩

/-- A file beside the others is reached by its name alone. -/
theorem isDirect_document : Path.IsDirect [Text.ofString "index.json"] := by
  unfold Path.IsDirect
  decide

/-- The document with line ends is written and read back. -/
theorem writeDocument_readDocument_lineEnds :
    ∃ w', writeDocument [Text.ofString "index.json"] Json.lineEnds (.ofFiles .empty) = .ok () w' ∧
      readDocument [Text.ofString "index.json"] w' = .ok Json.lineEnds w' := by
  have hexact : Json.lineEnds.IsExact :=
    Json.all_lineEnds (fun _ => trivial) trivial (fun _ => trivial) (fun _ => trivial) trivial trivial
  have hkeys : Json.lineEnds.HasDistinctKeys :=
    Json.all_lineEnds (fun _ => trivial) trivial (fun _ => trivial) (fun _ => trivial)
      List.nodup_nil (by unfold Json.lineEnds Json.HasDistinctKeysNode; decide)
  have hencodable : Json.lineEnds.Encodable := Json.encode_fileText.mp (by decide)
  obtain ⟨hwrites, -⟩ := writeDocument_readDocument hexact hkeys hencodable isDirect_document
    (.ofFiles .empty)
  obtain ⟨t, bytes, -, -, hwrite, hread⟩ := hwrites (by decide)
  have hok := hwrite _ rfl
  exact ⟨_, hok, (hread _ _ hok).2⟩

/-- A document without doubles, in which no key is repeated and all texts have encodings, that is
not written to a file of an empty tree. -/
structure IsUnwritten (v : Json) (fault : Fault) : Prop where
  isExact : v.IsExact
  keys : v.HasDistinctKeys
  encodable : v.Encodable
  unwritten : writeDocument [Text.ofString "index.json"] v (.ofFiles .empty) =
    .error fault (.ofFiles .empty)

/-- An integer of too many digits is not written, and neither are arrays in one another beyond the
limit. -/
theorem isUnwritten_integer_and_nested :
    IsUnwritten (.integer (10 ^ Text.maxDigits)) (.longInteger none) ∧
      IsUnwritten (Json.nested Json.maxDepth) .tooDeep := by
  have hlong : ¬(Text.ofNat (10 ^ Text.maxDigits : Int).natAbs).length ≤ Text.maxDigits := by
    rw [Int.natAbs_pow, show (10 : Int).natAbs = 10 from rfl]
    exact Nat.not_le.mpr (Text.lt_length_ofNat_pow Text.maxDigits)
  have hdeep : ¬(Json.nested Json.maxDepth).depth ≤ Json.maxDepth := by
    rw [Json.depth_nested]
    exact Nat.not_succ_le_self _
  constructor
  · have hdump : (Json.integer (10 ^ Text.maxDigits)).dump = .error .tooManyDigits := by
      unfold Json.dump Json.obstacle?
      rw [if_pos (Nat.not_le.mp hlong)]
    exact ⟨.of_integer trivial, .of_integer trivial, .of_integer trivial,
      writeDocument_of_dump hdump⟩
  · have hshort : (Json.nested Json.maxDepth).HasShortIntegers := Json.all_nested (fun _ => trivial) _
    exact ⟨Json.all_nested (fun _ => trivial) _, Json.all_nested (fun _ => trivial) _,
      Json.all_nested (fun _ => trivial) _, writeDocument_of_dump (hshort.dump_eq_error hdeep)⟩

end Action

end Toolsmith
