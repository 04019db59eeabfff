import Mathlib.Algebra.Group.Nat.Defs
import Toolsmith.Proofs.Text.Encoding
import Toolsmith.Proofs.Unit.Reading

/-!
# Quoted texts are read back

The literal of a text stands for the text wherever it stands in a program: it ends at its own last
mark, whatever the text holds, and reading its escapes gives the text back.
-/

namespace Toolsmith.Program

/-- Digits may be read in two groups. -/
theorem hexNumber?_add (j k n : Nat) (t : Text) :
    hexNumber? (j + k) n t = (hexNumber? j n t).bind fun (n, rest) => hexNumber? k n rest := by
  induction j generalizing n t with
  | zero => simp [hexNumber?]
  | succ j ih =>
    rw [Nat.add_right_comm]
    cases t with
    | nil => rfl
    | cons c t =>
      rw [hexNumber?, hexNumber?, Option.bind_assoc]
      congr 1
      funext d
      exact ih _ t

/-- The digits of a number are read back. -/
theorem hexNumber?_ofHex (width : Nat) {n : Nat} (h : n < 16 ^ (width + 1)) (rest : Text) :
    hexNumber? (width + 1) 0 (Text.ofHex (width + 1) n ++ rest) = some (n, rest) := by
  induction width generalizing n rest with
  | zero =>
    rw [Text.ofHex_one (by omega)]
    simp [hexNumber?, Text.hexValue?_digitPoint (by omega : n < 16)]
  | succ width ih =>
    have hlow : n % 16 < 16 := Nat.mod_lt _ (by decide)
    have hhigh : n / 16 < 16 ^ (width + 1) := by
      rw [Nat.div_lt_iff_lt_mul (by decide)]
      rwa [Nat.pow_succ] at h
    rw [Text.ofHex_succ, List.append_assoc, hexNumber?_add, ih hhigh]
    simp only [Option.bind_some, List.singleton_append, hexNumber?,
      Text.hexValue?_digitPoint hlow, Nat.div_add_mod']

/-- A number that is some code point's names it. -/
theorem named?_code (point : CodePoint) (rest : Text) :
    named? point.code rest = some ([point], rest) := by
  rw [named?, if_pos point.code_lt, CodePoint.ofCode_code]

/-- An escape by a letter and the digits of a code point is read as that code point. -/
theorem escape?_ofHex {letter : Char} {width : Nat}
    (h : (letter, width) ∈ [('x', 1), ('u', 3), ('U', 7)]) {point : CodePoint}
    (hpoint : point.code < 16 ^ (width + 1)) (rest : Text) :
    escape? (.char letter :: (Text.ofHex (width + 1) point.code ++ rest)) =
      some ([point], rest) := by
  have hread := hexNumber?_ofHex width hpoint rest
  generalize Text.ofHex (width + 1) point.code ++ rest = digits at hread
  have hescape : escape? (.char letter :: digits) =
      (hexNumber? (width + 1) 0 digits).bind fun (n, rest) => named? n rest := by
    simp only [List.mem_cons, Prod.mk.injEq, List.not_mem_nil, or_false] at h
    rcases h with ⟨rfl, rfl⟩ | ⟨rfl, rfl⟩ | ⟨rfl, rfl⟩ <;> simp [escape?]
  rw [hescape, hread, Option.bind_some]
  exact named?_code point rest

/-- A code point between the marks of a literal that is read as itself. -/
def IsPlain (mark c : CodePoint) : Prop :=
  c ≠ mark ∧ c ≠ .char '\\' ∧ c ≠ .char '\n' ∧ c ≠ .char '\r'

instance (mark c : CodePoint) : Decidable (IsPlain mark c) :=
  inferInstanceAs (Decidable (_ ∧ _))

/-- Digits are read as themselves. -/
theorem isPlain_ofHex {mark : CodePoint} (hmark : isMark mark = true) {width n : Nat} :
    ∀ c ∈ Text.ofHex width n, IsPlain mark c := by
  have hdigits : ∀ d < 16, ∀ mark ∈ [CodePoint.char '"', .char '\''],
      IsPlain mark (Text.digitPoint d) := by
    decide
  intro c hc
  obtain ⟨d, hd, rfl⟩ := Text.mem_ofHex hc
  exact hdigits d hd mark (by simpa [isMark] using hmark)

/-- Between its marks a code point stands as it is, or a backslash begins an escape for it that the
mark does not end. -/
theorem quotePoint_cases {mark : CodePoint} (hmark : isMark mark = true) (point : CodePoint) :
    (Text.quotePoint mark point = [point] ∧ IsPlain mark point) ∨
      ∃ first more, Text.quotePoint mark point = .char '\\' :: first :: more ∧
        (∀ c ∈ more, IsPlain mark c) ∧
        ∀ rest, escape? (first :: (more ++ rest)) = some ([point], rest) := by
  unfold Text.quotePoint
  split
  · rename_i hself
    refine .inr ⟨point, [], rfl, nofun, fun rest => ?_⟩
    have hpoint : point = .char '\\' ∨ point = .char '\'' ∨ point = .char '"' := by
      simp only [isMark, Bool.or_eq_true, decide_eq_true_eq] at hmark hself
      rcases hself with rfl | rfl
      · exact .inr hmark.symm
      · exact .inl rfl
    have hbreak : point ≠ .char '\n' := by
      rintro rfl
      revert hpoint
      decide
    rw [escape?, if_neg hbreak, if_pos hpoint]
    rfl
  rename_i hself
  split
  · subst point
    exact .inr ⟨.char 'n', [], rfl, nofun, fun _ => rfl⟩
  rename_i hfeed
  split
  · subst point
    exact .inr ⟨.char 'r', [], rfl, nofun, fun _ => rfl⟩
  rename_i hreturn
  split
  · subst point
    exact .inr ⟨.char 't', [], rfl, nofun, fun _ => rfl⟩
  split
  · simp only [Bool.or_eq_true, decide_eq_true_eq, not_or] at hself
    exact .inl ⟨rfl, hself.1, hself.2, hfeed, hreturn⟩
  split
  · exact .inr ⟨.char 'x', Text.ofHex 2 point.code, rfl, isPlain_ofHex hmark,
      escape?_ofHex (by simp) ‹_›⟩
  split
  · exact .inr ⟨.char 'u', Text.ofHex 4 point.code, rfl, isPlain_ofHex hmark,
      escape?_ofHex (by simp) (by omega)⟩
  · have hbound := point.code_lt
    exact .inr ⟨.char 'U', Text.ofHex 8 point.code, rfl, isPlain_ofHex hmark,
      escape?_ofHex (by simp) (by omega)⟩

/-- What stands between the marks of a literal is read as the text that was quoted. -/
theorem unescape?_flatMap {mark : CodePoint} (hmark : isMark mark = true) (t : Text) {fuel : Nat}
    (hfuel : (t.flatMap (Text.quotePoint mark)).length ≤ fuel) :
    unescape? fuel (t.flatMap (Text.quotePoint mark)) = some t := by
  induction t generalizing fuel with
  | nil => cases fuel <;> rfl
  | cons point t ih =>
    rw [List.flatMap_cons] at hfuel ⊢
    rcases quotePoint_cases hmark point with ⟨heq, -, hslash, -⟩ | ⟨first, more, heq, -, hescape⟩
    · rw [heq, List.singleton_append] at hfuel ⊢
      simp only [List.length_cons] at hfuel
      obtain ⟨fuel, rfl⟩ : ∃ n, fuel = n + 1 := ⟨fuel - 1, by omega⟩
      rw [unescape?, if_neg hslash, ih (by omega)]
      rfl
    · rw [heq] at hfuel ⊢
      simp only [List.cons_append, List.length_cons, List.length_append] at hfuel ⊢
      obtain ⟨fuel, rfl⟩ : ∃ n, fuel = n + 1 := ⟨fuel - 1, by omega⟩
      rw [unescape?, if_pos rfl]
      simp only [hescape]
      rw [ih (by omega)]
      rfl

/-- Reading goes on after a part of a text where it has left off. -/
theorem scan_append {mode next last : Mode} {s t : Text} {tokens more : List Token}
    (hs : scan mode s = some (tokens, next)) (ht : scan next t = some (more, last)) :
    scan mode (s ++ t) = some (tokens ++ more, last) := by
  induction s generalizing mode tokens with
  | nil =>
    cases hs
    exact ht
  | cons c s ih =>
    rw [scan] at hs
    rw [List.cons_append, scan]
    split at hs
    · cases hs
    · rename_i first after hstep
      obtain ⟨⟨later, end'⟩, hscan, heq⟩ := Option.map_eq_some_iff.mp hs
      cases heq
      simp only [ih hscan, Option.map_some, List.append_assoc]

/-- A single code point is read by one step. -/
theorem scan_singleton {mode next : Mode} {c : CodePoint} {tokens : List Token}
    (h : mode.step c = some (tokens, next)) : scan mode [c] = some (tokens, next) := by
  rw [scan]
  simp only [h]
  simp [scan]

/-- Between the marks of a literal, plain code points are kept as they are. -/
theorem scan_short_plain {mark : CodePoint} {t : Text} (h : ∀ c ∈ t, IsPlain mark c) (raw : Text) :
    scan (.short true mark raw false) t = some ([], .short true mark (raw ++ t) false) := by
  induction t generalizing raw with
  | nil => rw [List.append_nil]; rfl
  | cons c t ih =>
    obtain ⟨⟨hmark, hslash, hfeed, hreturn⟩, ht⟩ := List.forall_mem_cons.mp h
    have hstep : (Mode.short true mark raw false).step c =
        some ([], .short true mark (raw ++ [c]) false) := by
      show shortStep true mark raw c = _
      rw [shortStep, if_neg hmark, if_neg (by simp [hfeed, hreturn])]
      simp [hslash]
    rw [scan]
    simp only [hstep, ih ht]
    simp

/-- Between the marks of a literal, what stands for a code point is kept as it is. -/
theorem scan_short_quotePoint {mark : CodePoint} (hmark : isMark mark = true) (point : CodePoint)
    (raw : Text) :
    scan (.short true mark raw false) (Text.quotePoint mark point) =
      some ([], .short true mark (raw ++ Text.quotePoint mark point) false) := by
  rcases quotePoint_cases hmark point with ⟨heq, hplain⟩ | ⟨first, more, heq, hmore, -⟩
  · rw [heq]
    exact scan_short_plain (by simpa using hplain) raw
  · have hslash : mark ≠ .char '\\' := by
      rintro rfl
      cases hmark
    have hstep : (Mode.short true mark raw false).step (.char '\\') =
        some ([], .short true mark (raw ++ [.char '\\']) true) := by
      show shortStep true mark raw (.char '\\') = _
      rw [shortStep, if_neg hslash.symm, if_neg (by decide)]
      rfl
    have hnext : (Mode.short true mark (raw ++ [.char '\\']) true).step first =
        some ([], .short true mark (raw ++ [.char '\\'] ++ [first]) false) := rfl
    rw [heq, scan]
    simp only [hstep]
    rw [scan]
    simp only [hnext, scan_short_plain hmore]
    simp

/-- Between the marks of a literal, what stands for a text is kept as it is. -/
theorem scan_short_flatMap {mark : CodePoint} (hmark : isMark mark = true) (t raw : Text) :
    scan (.short true mark raw false) (t.flatMap (Text.quotePoint mark)) =
      some ([], .short true mark (raw ++ t.flatMap (Text.quotePoint mark)) false) := by
  induction t generalizing raw with
  | nil => rw [List.flatMap_nil, List.append_nil]; rfl
  | cons point t ih =>
    have hrest := ih (raw ++ Text.quotePoint mark point)
    rw [List.flatMap_cons, ← List.append_assoc]
    exact scan_append (scan_short_quotePoint hmark point raw) hrest

/-- A code point outside literals that begins none, and no comment either. -/
def IsCode (c : CodePoint) : Prop :=
  isMark c = false ∧ c ≠ .char '#'

/-- A text that a reader reads from outside literals to outside literals, not after a word. -/
def ReadsAs (t : Text) (tokens : List Token) : Prop :=
  scan (.code false) t = some (tokens, .code false)

/-- Texts that are read one after another are read together. -/
theorem ReadsAs.append {s t : Text} {tokens more : List Token} (hs : ReadsAs s tokens)
    (ht : ReadsAs t more) : ReadsAs (s ++ t) (tokens ++ more) :=
  scan_append hs ht

/-- A text that is read stands for its parts. -/
theorem ReadsAs.tokens? {t : Text} {tokens : List Token} (h : ReadsAs t tokens) :
    tokens? t = some tokens := by
  unfold Program.tokens?
  rw [h]

/-- Code points outside literals are read as they are. -/
theorem scan_code {t : Text} (h : ∀ c ∈ t, IsCode c) (afterWord : Bool) :
    scan (.code afterWord) t =
      some (t.map .code, .code ((t.getLast?.map CodePoint.isWord).getD afterWord)) := by
  induction t generalizing afterWord with
  | nil => rfl
  | cons c t ih =>
    obtain ⟨⟨hmark, hcomment⟩, ht⟩ := List.forall_mem_cons.mp h
    have hstep : (Mode.code afterWord).step c = some ([.code c], .code c.isWord) := by
      show codeStep afterWord c = _
      rw [codeStep, if_neg (by simp [hmark]), if_neg hcomment]
    rw [scan]
    simp only [hstep, ih ht]
    cases t with
    | nil => simp
    | cons d t => simp [List.getLast?_cons]

/-- Code points outside literals are read as they are, if the last of them is no part of a word. -/
theorem readsAs_code {t : Text} (h : ∀ c ∈ t, IsCode c)
    (hlast : ∀ c ∈ t.getLast?, c.isWord = false) : ReadsAs t (t.map .code) := by
  unfold ReadsAs
  rw [scan_code h]
  cases hend : t.getLast? with
  | none => rfl
  | some last => simp [hlast last hend]

/-- Parts that are read are read together. -/
theorem readsAs_flatMap {α : Type} {f : α → Text} {g : α → List Token} {parts : List α}
    (h : ∀ part ∈ parts, ReadsAs (f part) (g part)) :
    ReadsAs (parts.flatMap f) (parts.flatMap g) := by
  induction parts with
  | nil => rfl
  | cons part parts ih =>
    obtain ⟨hpart, hparts⟩ := List.forall_mem_cons.mp h
    exact hpart.append (ih hparts)

/-- The mark of a quoted text is one. -/
theorem isMark_quoteMark (t : Text) : isMark t.quoteMark = true := by
  unfold Text.quoteMark
  split <;> rfl

/-- What stands for a text that is not empty does not begin with the mark. -/
theorem exists_flatMap_quotePoint {mark : CodePoint} (hmark : isMark mark = true)
    (point : CodePoint) (t : Text) :
    ∃ first more, (point :: t).flatMap (Text.quotePoint mark) = first :: more ∧ first ≠ mark := by
  rw [List.flatMap_cons]
  rcases quotePoint_cases hmark point with ⟨heq, hplain⟩ | ⟨first, more, heq, -⟩
  · rw [heq]
    exact ⟨point, _, rfl, hplain.1⟩
  · rw [heq]
    refine ⟨.char '\\', _, rfl, ?_⟩
    rintro rfl
    cases hmark

/-- A literal of one line that is not empty is read up to its mark. -/
theorem scan_literal {mark first : CodePoint} {t more raw : Text}
    (hraw : scan (.short true mark [] false) raw = some ([], .short true mark raw false))
    (hcons : raw = first :: more) (hfirst : first ≠ mark)
    (hcontent : content? raw = some t) :
    scan (.one true mark) (raw ++ [mark]) = some ([.literal true t], .code false) := by
  have hopen : scan (.one true mark) raw = some ([], .short true mark raw false) := by
    have hstep : (Mode.one true mark).step first = (Mode.short true mark [] false).step first := by
      show (if first = mark then _ else _) = _
      rw [if_neg hfirst]
      rfl
    rw [← hraw, hcons, scan, scan, hstep]
  have hclose : (Mode.short true mark raw false).step mark =
      some ([.literal true t], .code false) := by
    show shortStep true mark raw mark = _
    rw [shortStep, if_pos rfl, hcontent]
    rfl
  exact scan_append hopen (scan_singleton hclose)

/-- The literal of a text is read as the text, if no mark follows it. -/
theorem readsAs_quoted (t : Text) (next : CodePoint) (hnext : IsCode next)
    (hword : next.isWord = false) :
    ReadsAs (t.quoted ++ [next]) [.literal true t, .code next] := by
  have hmark := isMark_quoteMark t
  have hcode : codeStep false next = some ([.code next], .code false) := by
    rw [codeStep, if_neg (by simp [hnext.1]), if_neg hnext.2, hword]
  cases t with
  | nil =>
    have hne : next ≠ .char '\'' := by
      rintro rfl
      exact absurd hnext.1 (by decide)
    have hopen : scan (.code false) [.char '\'', .char '\''] =
        some ([], .two true (.char '\'')) := by
      decide
    have hstep : (Mode.two true (.char '\'')).step next =
        some ([.literal true [], .code next], .code false) := by
      show (if next = .char '\'' then _ else _) = _
      rw [if_neg hne, hcode]
      rfl
    exact scan_append hopen (scan_singleton hstep)
  | cons point rest =>
    have hopen : scan (.code false) [Text.quoteMark (point :: rest)] =
        some ([], .one true (Text.quoteMark (point :: rest))) := by
      refine scan_singleton ?_
      show codeStep false _ = _
      rw [codeStep, if_pos hmark]
      rfl
    obtain ⟨first, more, heq, hfirst⟩ := exists_flatMap_quotePoint hmark point rest
    have hraw := scan_short_flatMap hmark (point :: rest) []
    rw [List.nil_append] at hraw
    have hread := scan_literal hraw heq hfirst (unescape?_flatMap hmark _ (Nat.le_refl _))
    have hafter : scan (.code false) [next] = some ([.code next], .code false) :=
      scan_singleton hcode
    have hall := scan_append hopen (scan_append hread hafter)
    unfold ReadsAs Text.quoted
    rwa [← List.append_assoc] at hall

end Toolsmith.Program
