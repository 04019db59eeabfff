import Toolsmith.Catalog.Links
import Toolsmith.Proofs.Catalog.Addresses
import Toolsmith.Proofs.Text.Cutting

/-!
# Links of a page

The links of a page are found from left to right and do not overlap. A link has a name, which goes
as far as the page has word characters, and a version, which goes as far as it has digits. So the
name and the version of a link can be told from its key, where one is joined to the other by a mark
that names may hold themselves.
-/

namespace Toolsmith.Catalog

/-- A text that begins with the link of a name and digits, after which `rest` comes. The digits go
as far as they can. -/
structure Begins (t name digits rest : Text) : Prop where
  text : t = linkStart ++ (name ++ .char '/' :: .char 'v' :: (digits ++ rest))
  name_ne : name ≠ []
  name_word : ∀ c ∈ name, CodePoint.isWord c = true
  digits_ne : digits ≠ []
  digits_decimal : ∀ c ∈ digits, CodePoint.isDecimal c = true
  ends : ∀ c ∈ rest.head?, CodePoint.isDecimal c = false

/-- The names and versions of links that are found in a text from left to right. -/
inductive Finds : Text → List (Text × Text) → Prop
  | nil : Finds [] []
  | pass {c : CodePoint} {rest : Text} {links : List (Text × Text)}
      (hnone : ∀ name digits after, ¬Begins (c :: rest) name digits after)
      (hrest : Finds rest links) : Finds (c :: rest) links
  | take {t name digits rest : Text} {links : List (Text × Text)}
      (hbegins : Begins t name digits rest) (hrest : Finds rest links) :
      Finds t ((name, .char 'v' :: digits) :: links)

/-- The name and the digits of a link at the beginning of a text are those that are cut out. -/
theorem link?_eq_some {t name digits : Text} {size : Nat} :
    link? t = some (name, digits, size) ↔ ∃ rest, Begins t name digits rest ∧
      size = linkStart.length + name.length + 2 + digits.length := by
  constructor
  · intro h
    unfold link? at h
    split at h
    · rename_i hstart
      obtain ⟨rest, rfl⟩ := List.isPrefixOf_iff_prefix.mp hstart
      simp only [List.drop_left, Text.drop_takeWhile] at h
      have hname := List.takeWhile_append_dropWhile (p := CodePoint.isWord) (l := rest)
      split at h
      · rename_i after hafter
        split at h
        · cases h
        · rename_i hne
          cases h
          rw [hafter] at hname
          have hdigits := List.takeWhile_append_dropWhile (p := CodePoint.isDecimal) (l := after)
          rw [Bool.not_eq_true, Bool.or_eq_false_iff, List.isEmpty_eq_false_iff,
            List.isEmpty_eq_false_iff] at hne
          refine ⟨after.dropWhile CodePoint.isDecimal, ⟨?_, hne.1, ?_, hne.2, ?_, ?_⟩, rfl⟩
          · rw [hdigits, hname]
          · exact fun c hc => List.mem_takeWhile_imp hc
          · exact fun c hc => List.mem_takeWhile_imp hc
          · exact Text.head_of_dropWhile after
      · cases h
    · cases h
  · rintro ⟨rest, ⟨rfl, hname, hword, hdigits, hdecimal, hends⟩, rfl⟩
    have htakeName : (name ++ .char '/' :: .char 'v' :: (digits ++ rest)).takeWhile
        CodePoint.isWord = name :=
      Text.takeWhile_append_of_head hword fun c hc => by
        rw [← Option.some.inj hc]
        decide
    have htakeDigits := Text.takeWhile_append_of_head hdecimal hends
    unfold link?
    rw [if_pos (List.isPrefixOf_iff_prefix.mpr (List.prefix_append _ _))]
    simp only [List.drop_left, htakeName, htakeDigits]
    rw [if_neg]
    simp [hname, hdigits]

/-- Code points of the last link are passed over. -/
theorem linksAfter_eq_drop (skip : Nat) (t : Text) :
    linksAfter skip t = linksAfter 0 (t.drop skip) := by
  induction t generalizing skip with
  | nil => simp [linksAfter]
  | cons c rest ih =>
    cases skip with
    | zero => rfl
    | succ skip =>
      rw [linksAfter, List.drop_succ_cons]
      exact ih skip

/-- A link at the beginning of a text is the first. -/
theorem links_of_begins {t name digits rest : Text} (h : Begins t name digits rest) :
    linksAfter 0 t = (name, .char 'v' :: digits) :: linksAfter 0 rest := by
  have hfirst := link?_eq_some.mpr ⟨rest, h, rfl⟩
  have htext := h.text
  cases t with
  | nil => cases htext
  | cons c t =>
    let size := linkStart.length + name.length + 2 + digits.length
    have hsplit : c :: t = (linkStart ++ (name ++ .char '/' :: .char 'v' :: digits)) ++ rest := by
      rw [htext]
      simp
    have hlength : (linkStart ++ (name ++ .char '/' :: .char 'v' :: digits)).length =
        size - 1 + 1 := by
      have hstart : linkStart.length = 9 := rfl
      simp only [size, List.length_append, List.length_cons]
      omega
    have hdrop : t.drop (size - 1) = rest := by
      calc t.drop (size - 1)
          = (c :: t).drop (size - 1 + 1) := List.drop_succ_cons.symm
        _ = rest := by rw [← hlength, hsplit, List.drop_left]
    rw [linksAfter, hfirst]
    simp only
    rw [linksAfter_eq_drop, hdrop]

/-- A code point that begins no link is passed over. -/
theorem links_of_not_begins {c : CodePoint} {rest : Text}
    (h : ∀ name digits after, ¬Begins (c :: rest) name digits after) :
    linksAfter 0 (c :: rest) = linksAfter 0 rest := by
  cases hfirst : link? (c :: rest) with
  | none => rw [linksAfter, hfirst]
  | some link =>
    obtain ⟨name, digits, size⟩ := link
    obtain ⟨after, hbegins, -⟩ := link?_eq_some.mp hfirst
    exact absurd hbegins (h name digits after)

/-- The links of a page are those that are found in it. -/
theorem finds_links (page : Text) : Finds page (linksAfter 0 page) := by
  induction hlength : page.length using Nat.strongRecOn generalizing page with
  | ind length ih =>
    subst hlength
    cases page with
    | nil => exact .nil
    | cons c rest =>
      by_cases hbegins : ∃ name digits after, Begins (c :: rest) name digits after
      · obtain ⟨name, digits, after, hbegins⟩ := hbegins
        rw [links_of_begins hbegins]
        refine .take hbegins (ih after.length ?_ after rfl)
        rw [hbegins.text]
        simp only [List.length_append, List.length_cons]
        omega
      · have hnone : ∀ name digits after, ¬Begins (c :: rest) name digits after :=
          fun name digits after h => hbegins ⟨name, digits, after, h⟩
        rw [links_of_not_begins hnone]
        exact .pass hnone (ih rest.length (Nat.lt_succ_self _) rest rfl)

/-- No other links are found in a page. -/
theorem Finds.eq_links {page : Text} {links : List (Text × Text)} (h : Finds page links) :
    links = linksAfter 0 page := by
  induction h with
  | nil => rfl
  | pass hnone _ ih => rw [links_of_not_begins hnone, ih]
  | take hbegins _ ih => rw [links_of_begins hbegins, ih]

/-- The name and the version of a link: word characters, and a letter before digits. -/
def IsLink (link : Text × Text) : Prop :=
  (link.1 ≠ [] ∧ ∀ c ∈ link.1, CodePoint.isWord c = true) ∧
    link.2.head? = some (.char 'v') ∧ link.2.tail ≠ [] ∧
      ∀ c ∈ link.2.tail, CodePoint.isDecimal c = true

instance : DecidablePred IsLink := fun link =>
  inferInstanceAs (Decidable ((link.1 ≠ [] ∧ ∀ c ∈ link.1, CodePoint.isWord c = true) ∧
    link.2.head? = some (.char 'v') ∧ link.2.tail ≠ [] ∧
      ∀ c ∈ link.2.tail, CodePoint.isDecimal c = true))

/-- What is found in a page are links. -/
theorem Finds.isLink {page : Text} {links : List (Text × Text)} (h : Finds page links) :
    ∀ link ∈ links, IsLink link := by
  induction h with
  | nil => exact List.forall_mem_nil _
  | pass _ _ ih => exact ih
  | take hbegins _ ih =>
    exact List.forall_mem_cons.mpr ⟨⟨⟨hbegins.name_ne, hbegins.name_word⟩, rfl,
      hbegins.digits_ne, hbegins.digits_decimal⟩, ih⟩

/-- Pairs that occur for the first time are each listed at their first place. -/
theorem firstOccurrences_eq (seen pairs : List (Text × Text)) :
    firstOccurrences seen pairs = (pairs.filter fun pair => !seen.contains pair).eraseDups := by
  induction pairs generalizing seen with
  | nil => rfl
  | cons pair rest ih =>
    rw [firstOccurrences, ih, ih]
    by_cases hseen : seen.contains pair = true
    · rw [if_pos hseen, List.filter_cons_of_neg (by rw [hseen]; decide)]
    · rw [if_neg hseen, List.filter_cons_of_pos (by simpa using hseen), List.eraseDups_cons,
        List.filter_filter]
      congr 3
      funext other
      rw [List.contains_cons, Bool.not_or]

/-- The service that a link leads to. -/
def ofLink (link : Text × Text) : Service :=
  .ofNameAndVersion link.1 link.2

/-- The services that a page links to are those of its links, each at its first place only. -/
theorem Finds.linked_eq {page : Text} {links : List (Text × Text)} (h : Finds page links) :
    linked page = links.eraseDups.map ofLink := by
  rw [linked, firstOccurrences_eq, ← h.eq_links]
  simp only [List.contains_nil, Bool.not_false, List.filter_true]
  rfl

/-- A page links to no services exactly if it has no links. -/
theorem linked_eq_nil {page : Text} : linked page = [] ↔ linksAfter 0 page = [] := by
  rw [(finds_links page).linked_eq]
  cases linksAfter 0 page with
  | nil => exact iff_of_true rfl rfl
  | cons link links =>
    rw [List.eraseDups_cons]
    exact iff_of_false (List.cons_ne_nil _ _) (List.cons_ne_nil _ _)

/-- The version of a link is a letter before digits. -/
theorem IsLink.exists_digits {link : Text × Text} (h : IsLink link) :
    ∃ digits, link = (link.1, .char 'v' :: digits) ∧
      ∀ c ∈ digits, CodePoint.isDecimal c = true := by
  obtain ⟨name, version⟩ := link
  obtain ⟨-, hletter, -, hdigits⟩ := h
  cases version with
  | nil => cases hletter
  | cons c digits =>
    obtain rfl := Option.some.inj hletter
    exact ⟨digits, rfl, hdigits⟩

/-- The digits at the end of a text can be told from what is before them, which ends in a letter. -/
theorem eq_of_append_digits {before before' digits digits' : Text}
    (hdigits : ∀ c ∈ digits, CodePoint.isDecimal c = true)
    (hdigits' : ∀ c ∈ digits', CodePoint.isDecimal c = true)
    (h : before ++ .char 'v' :: digits = before' ++ .char 'v' :: digits') :
    before = before' ∧ digits = digits' := by
  have htake : ∀ {digits before : Text}, (∀ c ∈ digits, CodePoint.isDecimal c = true) →
      (before ++ .char 'v' :: digits).reverse.takeWhile CodePoint.isDecimal = digits.reverse := by
    intro digits before hdigits
    rw [List.reverse_append, List.reverse_cons, List.append_assoc]
    refine Text.takeWhile_append_of_head (fun c hc => hdigits c (List.mem_reverse.mp hc))
      fun c hc => ?_
    rw [← Option.some.inj hc]
    decide
  have hreverse : digits.reverse = digits'.reverse := by
    rw [← htake hdigits, h, htake hdigits']
  obtain rfl := List.reverse_injective hreverse
  exact ⟨List.append_cancel_right h, rfl⟩

/-- A link can be told from its key, also where its name holds the mark between name and version. -/
theorem IsLink.eq_of_key_eq {link other : Text × Text} (h : IsLink link) (hother : IsLink other)
    (hkey : (ofLink link).key = (ofLink other).key) : link = other := by
  obtain ⟨digits, hlink, hdigits⟩ := h.exists_digits
  obtain ⟨digits', hlink', hdigits'⟩ := hother.exists_digits
  rw [hlink, hlink'] at hkey
  have hkeys : (link.1 ++ [.char '_']) ++ .char 'v' :: digits =
      (other.1 ++ [.char '_']) ++ .char 'v' :: digits' := by
    rw [List.append_assoc, List.append_assoc]
    exact hkey
  obtain ⟨hnames, rfl⟩ := eq_of_append_digits hdigits hdigits' hkeys
  rw [hlink, hlink', List.append_cancel_right hnames]

/-- The key of a link is a component of a path. -/
theorem IsLink.isComponent_key {link : Text × Text} (h : IsLink link) :
    Path.IsComponent (ofLink link).key := by
  obtain ⟨digits, hlink, hdigits⟩ := h.exists_digits
  have hmark := Workplace.mem_key (ofLink link)
  constructor
  · intro hnil
    rw [hnil] at hmark
    cases hmark
  · intro hslash
    rw [hlink] at hslash
    rcases List.mem_append.mp hslash with hslash | hslash
    · exact absurd (h.1.2 _ hslash) (by decide)
    · have hversion : CodePoint.char '/' ∈ CodePoint.char '_' :: CodePoint.char 'v' :: digits :=
        hslash
      have hmem : CodePoint.char '/' ∈ digits := by simpa using hversion
      exact absurd (hdigits _ hmem) (by decide)
  · intro heq
    rw [heq] at hmark
    exact absurd hmark (by decide)
  · intro heq
    rw [heq] at hmark
    exact absurd hmark (by decide)

end Toolsmith.Catalog
