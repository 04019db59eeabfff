import Toolsmith.Proofs.Document.BasePath
import Toolsmith.Proofs.Text.Numeral

/-!
# The normal form of a base path

The tenant placeholders of a declared path are filled in from left to right, in one pass. A
placeholder that is left would begin at a brace that was kept and end at the first closing brace
behind it. If nothing was filled in between, the brace began a placeholder from the start; if
something was, that was a later part of the same name, and so the whole name spells the tenant. So
one pass leaves none, and dropping slashes at the end makes none.
-/

namespace Toolsmith

namespace Template

variable {filling t rest name out : Text}

/-- A name that spells `tenant` somewhere, in any letter case. -/
def SpellsTenant (name : Text) : Prop :=
  ∃ word, word <:+: name ∧ word.map CodePoint.asciiLower = Text.ofString "tenant"

/-- A text that holds the placeholder of a tenant. -/
def HoldsTenant (t : Text) : Prop :=
  ∃ part name rest, part <:+ t ∧ Begins part name rest ∧ SpellsTenant name

/-- What is written for a text when its tenant placeholders are filled from left to right. -/
inductive Fills (filling : Text) : Text → Text → Prop
  | nil : Fills filling [] []
  | pass {c : CodePoint} {rest out : Text}
      (hnone : ∀ name after, Begins (c :: rest) name after → ¬SpellsTenant name)
      (hrest : Fills filling rest out) : Fills filling (c :: rest) (c :: out)
  | take {t name rest out : Text} (hbegins : Begins t name rest) (htenant : SpellsTenant name)
      (hrest : Fills filling rest out) : Fills filling t (filling ++ out)

/-- The names that are looked for are those that spell the tenant. -/
theorem isTenantName_iff : isTenantName name = true ↔ SpellsTenant name := by
  unfold isTenantName SpellsTenant
  rw [Text.includes_eq_true, List.infix_map_iff]
  simp only [eq_comm]

/-- A name with a part that spells the tenant spells it. -/
theorem SpellsTenant.mono {part : Text} (h : SpellsTenant part) (hpart : part <:+: name) :
    SpellsTenant name := by
  obtain ⟨word, hword, hspells⟩ := h
  exact ⟨word, hword.trans hpart, hspells⟩

/-- A name that spells the tenant is not empty. -/
theorem SpellsTenant.ne_nil (h : SpellsTenant name) : name ≠ [] := by
  rintro rfl
  obtain ⟨word, hword, hspells⟩ := h
  rw [List.infix_nil.mp hword] at hspells
  exact absurd hspells (by decide)

/-- The first closing brace of a text is in one place. -/
theorem closing_inj {name' rest' : Text} (hname : CodePoint.char '\x7d' ∉ name)
    (hname' : CodePoint.char '\x7d' ∉ name')
    (h : name ++ .char '\x7d' :: rest = name' ++ .char '\x7d' :: rest') :
    name = name' ∧ rest = rest' := by
  have hfirst := enclosed?_eq_some.mpr ⟨rest, rfl, hname⟩
  rw [h, enclosed?_eq_some.mpr ⟨rest', rfl, hname'⟩, Option.some.injEq] at hfirst
  subst hfirst
  exact ⟨rfl, (List.cons.inj (List.append_cancel_left h)).2⟩

/-- A placeholder of a tenant at the beginning is filled in. -/
theorem fillTenants_of_begins (h : Begins t name rest) (htenant : SpellsTenant name) :
    fillTenants filling t = filling ++ fillTenants filling rest := by
  obtain ⟨rfl, -, hname⟩ := h
  rw [fillTenants, scan, if_pos rfl, enclosed?_eq_some.mpr ⟨rest, rfl, hname⟩,
    Option.filter_some, if_pos (isTenantName_iff.mpr htenant)]
  simp only
  rw [scan_eq_drop, List.drop_length_add_append]
  rfl

/-- A code point that begins no placeholder of a tenant is kept. -/
theorem fillTenants_of_not_begins {c : CodePoint}
    (h : ∀ name after, Begins (c :: rest) name after → ¬SpellsTenant name) :
    fillTenants filling (c :: rest) = c :: fillTenants filling rest := by
  rw [fillTenants, scan]
  split
  · rename_i hc
    cases hfirst : (enclosed? rest).filter isTenantName with
    | none => rfl
    | some name =>
      obtain ⟨hclosed, htenant⟩ := Option.filter_eq_some_iff.mp hfirst
      obtain ⟨after, hrest, hname⟩ := enclosed?_eq_some.mp hclosed
      have hspells := isTenantName_iff.mp htenant
      exact absurd hspells (h name after ⟨by rw [hc, hrest], hspells.ne_nil, hname⟩)
  · rfl

/-- The tenant placeholders of a text are filled from left to right. -/
theorem fills_fillTenants (filling t : Text) : Fills filling t (fillTenants filling t) := by
  induction hlength : t.length using Nat.strongRecOn generalizing t with
  | ind length ih =>
    subst hlength
    by_cases htenant : ∃ name rest, Begins t name rest ∧ SpellsTenant name
    · obtain ⟨name, rest, hbegins, htenant⟩ := htenant
      rw [fillTenants_of_begins hbegins htenant]
      refine .take hbegins htenant (ih rest.length ?_ rest rfl)
      rw [hbegins.1]
      simp
      omega
    · have hnone : ∀ name after, Begins t name after → ¬SpellsTenant name :=
        fun name after hbegins hspells => htenant ⟨name, after, hbegins, hspells⟩
      cases t with
      | nil => exact .nil
      | cons c rest =>
        rw [fillTenants_of_not_begins hnone]
        exact .pass hnone (ih rest.length (Nat.lt_succ_self _) rest rfl)

namespace Fills

/-- There is one way to fill the placeholders. -/
theorem eq_fillTenants (h : Fills filling t out) : out = fillTenants filling t := by
  induction h with
  | nil => rfl
  | pass hnone _ ih => rw [fillTenants_of_not_begins hnone, ih]
  | take hbegins htenant _ ih => rw [fillTenants_of_begins hbegins htenant, ih]

/-- A text without closing braces is kept. -/
theorem eq_of_not_mem (h : Fills filling t out) (ht : CodePoint.char '\x7d' ∉ t) : out = t := by
  induction h with
  | nil => rfl
  | pass _ _ ih => rw [ih fun hmem => ht (List.mem_cons_of_mem _ hmem)]
  | take hbegins _ _ _ =>
    rw [hbegins.1] at ht
    exact absurd (by simp) ht

/-- A text up to its first closing brace is kept if it does not spell the tenant: a placeholder that
begins there ends at this brace, and its name is a part of the text. -/
theorem exists_eq_append (h : Fills filling t out) (ht : t = name ++ .char '\x7d' :: rest)
    (hname : CodePoint.char '\x7d' ∉ name) (hspells : ¬SpellsTenant name) :
    ∃ more, out = name ++ .char '\x7d' :: more := by
  induction h generalizing name with
  | nil => simp at ht
  | @pass c _ out _ _ ih =>
    cases name with
    | nil =>
      obtain ⟨rfl, -⟩ := List.cons.inj ht
      exact ⟨out, rfl⟩
    | cons d name =>
      obtain ⟨rfl, hafter⟩ := List.cons.inj ht
      obtain ⟨more, rfl⟩ := ih hafter (fun hmem => hname (List.mem_cons_of_mem _ hmem))
        fun hpart => hspells (hpart.mono (List.suffix_cons _ _).isInfix)
      exact ⟨more, rfl⟩
  | take hbegins htenant _ _ =>
    obtain ⟨htaken, -, htakenName⟩ := hbegins
    have hplace : CodePoint.char '\x7d' ∉ CodePoint.char '\x7b' :: _ :=
      List.not_mem_cons_of_ne_of_not_mem (by decide) htakenName
    obtain ⟨rfl, -⟩ := closing_inj hplace hname (htaken.symm.trans ht)
    exact absurd (htenant.mono (List.suffix_cons _ _).isInfix) hspells

/-- A text does not lose all code points with a property that the filling has too. -/
theorem exists_mem {p : CodePoint → Prop} (h : Fills filling t out) (hfilling : ∃ c ∈ filling, p c)
    (ht : ∃ c ∈ t, p c) : ∃ c ∈ out, p c := by
  induction h with
  | nil => exact ht
  | pass _ _ ih =>
    obtain ⟨c, hc, hp⟩ := ht
    rcases List.mem_cons.mp hc with rfl | hc
    · exact ⟨c, List.mem_cons_self, hp⟩
    · obtain ⟨d, hd, hp⟩ := ih ⟨c, hc, hp⟩
      exact ⟨d, List.mem_cons_of_mem _ hd, hp⟩
  | take _ _ _ _ =>
    obtain ⟨c, hc, hp⟩ := hfilling
    exact ⟨c, List.mem_append_left _ hc, hp⟩

/-- What is filled in holds no placeholder of a tenant, if the filling has no opening brace. -/
theorem not_holdsTenant (h : Fills filling t out) (hfilling : CodePoint.char '\x7b' ∉ filling) :
    ¬HoldsTenant out := by
  induction h with
  | nil =>
    rintro ⟨part, name, rest, hpart, ⟨rfl, -, -⟩, -⟩
    cases List.suffix_nil.mp hpart
  | @pass c after out hnone hafter ih =>
    rintro ⟨part, name, rest, hpart, hbegins, hspells⟩
    rcases List.suffix_cons_iff.mp hpart with rfl | hlater
    · obtain ⟨heq, -, hname⟩ := hbegins
      obtain ⟨rfl, hout⟩ := List.cons.inj heq
      -- the name that the brace had before anything was filled in
      by_cases hclosing : CodePoint.char '\x7d' ∈ after
      · obtain ⟨former, later, hafterEq, hformer⟩ := List.eq_append_cons_of_mem hclosing
        have hformerSpells : ¬SpellsTenant former := fun hformerSpells =>
          hnone former later ⟨by rw [hafterEq], hformerSpells.ne_nil, hformer⟩ hformerSpells
        obtain ⟨more, hmore⟩ := hafter.exists_eq_append hafterEq hformer hformerSpells
        obtain ⟨rfl, -⟩ := closing_inj hname hformer (hout.symm.trans hmore)
        exact hformerSpells hspells
      · rw [hafter.eq_of_not_mem hclosing] at hout
        rw [hout] at hclosing
        exact hclosing (by simp)
    · exact ih ⟨part, name, rest, hlater, hbegins, hspells⟩
  | @take _ _ _ out _ _ _ ih =>
    rintro ⟨part, name, rest, ⟨before, hbefore⟩, hbegins, hspells⟩
    rcases List.append_eq_append_iff.mp hbefore with ⟨front, hfront, hpart⟩ | ⟨back, -, hout⟩
    · cases front with
      | nil => exact ih ⟨part, name, rest, by simp [hpart], hbegins, hspells⟩
      | cons c front =>
        rw [hbegins.1] at hpart
        obtain ⟨rfl, -⟩ := List.cons.inj hpart
        exact hfilling (by simp [hfront])
    · exact ih ⟨part, name, rest, ⟨back, hout.symm⟩, hbegins, hspells⟩

end Fills

/-- The beginning of a text without a placeholder of a tenant has none. -/
theorem HoldsTenant.mono {front : Text} (h : HoldsTenant front) (hfront : front <+: t) :
    HoldsTenant t := by
  obtain ⟨part, name, rest, ⟨before, rfl⟩, ⟨rfl, hnil, hname⟩, hspells⟩ := h
  obtain ⟨after, rfl⟩ := hfront
  exact ⟨_, name, rest ++ after, ⟨before, by simp⟩, ⟨rfl, hnil, hname⟩, hspells⟩

end Template

namespace Binary64

/-- Digits that are laid out do not vanish. -/
theorem layout_ne_nil {digits : Text} (point : Int) (h : digits ≠ []) :
    layout digits point ≠ [] := by
  obtain ⟨c, digits, rfl⟩ := List.exists_cons_of_ne_nil h
  unfold layout
  split
  · split
    · exact List.cons_ne_nil _ _
    · simp only
      split <;> simp
  · simp only
    split <;> simp

/-- The text of a number is not empty. -/
theorem render_ne_nil (x : Binary64) : x.render Json.displaySpelling ≠ [] := by
  cases x with
  | nan => exact List.cons_ne_nil _ _
  | infinite negative =>
    exact List.append_ne_nil_of_right_ne_nil _ (List.cons_ne_nil _ _)
  | finite negative significand exponent =>
    rw [render]
    split
    · exact List.append_ne_nil_of_right_ne_nil _ (List.cons_ne_nil _ _)
    · exact List.append_ne_nil_of_right_ne_nil _ (layout_ne_nil _ (Text.ofNat_ne_nil _))

end Binary64

namespace Json

/-- The literal of a value is not empty. -/
theorem literal_ne_nil (v : Json) : v.literal ≠ [] := by
  cases v with
  | null => exact List.cons_ne_nil _ _
  | bool b => cases b <;> exact List.cons_ne_nil _ _
  | integer n =>
    cases n with
    | ofNat n => exact Text.ofNat_ne_nil n
    | negSucc n => exact List.cons_ne_nil _ _
  | number x => exact x.render_ne_nil
  | text t => exact List.cons_ne_nil _ _
  | array items => exact List.cons_ne_nil _ _
  | object members => exact List.cons_ne_nil _ _

end Json

namespace BasePath

variable {document : Members} {service : Text} {dialect : Dialect} {t : Text}

/-- The paths that a document declares: the address of its first server, if that begins with no
scheme; the path of that address, if it does and is not refused; or the base path of the older
dialect. -/
inductive Declares (document : Members) : Dialect → Text → Prop
  | relative {server : Members} {more : List Json} {url : Text}
      (hservers : document.get? (Text.ofString "servers") = some (.array (.object server :: more)))
      (hurl : server.get? (Text.ofString "url") = some (.text url))
      (hscheme : Address.afterScheme? url = none) : Declares document .openapi3 url
  | absolute {server : Members} {more : List Json} {url rest path : Text}
      (hservers : document.get? (Text.ofString "servers") = some (.array (.object server :: more)))
      (hurl : server.get? (Text.ofString "url") = some (.text url))
      (hscheme : Address.afterScheme? url = some rest) (hpath : Address.path? rest = some path) :
      Declares document .openapi3 path
  | basePath {path : Text} (hpath : document.get? (Text.ofString "basePath") = some (.text path)) :
      Declares document .swagger2 path

/-- A path that a document declares is the declared path. -/
theorem Declares.eq_declared (h : Declares document dialect t) : t = declared document dialect := by
  cases h with
  | relative hservers hurl hscheme =>
    simp only [declared, hservers, Json.get?, hurl, ofAddress, hscheme]
  | absolute hservers hurl hscheme hpath =>
    simp only [declared, hservers, Json.get?, hurl, ofAddress, hscheme, hpath, Option.getD_some]
  | basePath hpath => simp only [declared, hpath]

/-- A declared path that is not empty is one that the document declares. -/
theorem declares_declared (h : declared document dialect ≠ []) :
    Declares document dialect (declared document dialect) := by
  cases dialect with
  | swagger2 =>
    unfold declared at h ⊢
    simp only at h ⊢
    split at h
    · rename_i path hpath
      exact .basePath hpath
    · exact absurd rfl h
  | openapi3 =>
    unfold declared at h ⊢
    simp only at h ⊢
    split at h
    · rename_i server servers hservers
      split at h
      · rename_i url hurl
        obtain ⟨members, rfl, hurl⟩ : ∃ members, server = .object members ∧
            Members.get? members (Text.ofString "url") = some (.text url) := by
          cases server with
          | object members => exact ⟨members, rfl, hurl⟩
          | _ => cases hurl
        cases hscheme : Address.afterScheme? url with
        | none =>
          rw [ofAddress, hscheme]
          exact .relative hservers hurl hscheme
        | some rest =>
          simp only [ofAddress, hscheme] at h ⊢
          cases hpath : Address.path? rest with
          | none => exact absurd (by rw [hpath, Option.getD_none]) h
          | some path => exact .absolute hservers hurl hscheme hpath
      · exact absurd rfl h
    · exact absurd rfl h

/-- The version in a default path is not empty and does not begin with a digit. -/
theorem version_spec (document : Members) :
    version document ≠ [] ∧ ∀ c ∈ (version document).head?, c.isDigit = false := by
  have hmarked : ∀ shown : Text, shown ≠ [] →
      (if shown.head?.any CodePoint.isDigit then .char 'v' :: shown else shown) ≠ [] ∧
        ∀ c ∈ (if shown.head?.any CodePoint.isDigit then .char 'v' :: shown else shown).head?,
          c.isDigit = false := by
    intro shown hshown
    split
    · refine ⟨List.cons_ne_nil _ _, fun c hc => ?_⟩
      cases hc
      decide
    · rename_i hdigit
      exact ⟨hshown, fun c hc => by simpa [Option.mem_def.mp hc] using hdigit⟩
  refine hmarked _ ?_
  split
  · exact List.cons_ne_nil _ _
  · exact List.cons_ne_nil _ _
  · exact List.cons_ne_nil _ _
  · rename_i v _ hempty _
    cases v with
    | text t => exact fun hnil => hempty (congrArg _ hnil)
    | _ => exact Json.literal_ne_nil _

/-- A default path does not end with a slash. -/
theorem getLast?_default (document : Members) (service : Text) :
    (default document service).getLast? = some (.char 'r') := by
  rw [default, List.getLast?_append_of_ne_nil _ (List.cons_ne_nil _ _)]
  rfl

/-- A base path does not end with a slash. -/
theorem getLast?_resolve (document : Members) (service : Text) (dialect : Dialect) :
    (resolve document service dialect).getLast? ≠ some (.char '/') := by
  unfold resolve
  simp only
  split
  · rw [getLast?_default]
    decide
  · intro hlast
    have hslash := Text.getLast_of_trimEnd (p := (· == CodePoint.char '/')) _ _ hlast
    simp at hslash

/-- If something else than slashes is declared, the base path is what is left when the placeholders
are filled and slashes at the end dropped. -/
theorem resolve_eq_trimEnd (service : Text) (h : ∃ c ∈ declared document dialect, c ≠ .char '/') :
    resolve document service dialect = Text.trimEnd (· == .char '/')
      (Template.fillTenants tenant (declared document dialect)) := by
  obtain ⟨c, hc, hslash⟩ := (Template.fills_fillTenants tenant _).exists_mem
    ⟨.char 's', by decide, by decide⟩ h
  have hkept := Text.trimEnd_ne_nil (p := (· == CodePoint.char '/')) hc
    (beq_eq_false_iff_ne.mpr hslash)
  unfold resolve
  simp only
  rw [if_neg (by rwa [List.isEmpty_iff])]

/-- If nothing but slashes is declared, the base path is the default path. -/
theorem resolve_eq_default (service : Text)
    (h : ∀ c ∈ declared document dialect, c = .char '/') :
    resolve document service dialect = default document service := by
  have hnone : CodePoint.char '\x7d' ∉ declared document dialect := fun hmem =>
    absurd (h _ hmem) (by decide)
  have hfill := (Template.fills_fillTenants tenant _).eq_of_not_mem hnone
  have hempty : Text.trimEnd (· == .char '/') (declared document dialect) = [] := by
    refine List.rdropWhile_eq_nil_iff.mpr fun c hc => ?_
    exact beq_iff_eq.mpr (h c hc)
  rw [resolve, hfill, hempty]
  rfl

/-- A base path is not empty and does not end with a slash. If the document declares a path that is
not empty and does not only consist of slashes, the base path is this path with its tenant
placeholders filled from left to right and without slashes at its end, and it holds no placeholder
of a tenant. In all other cases it is the default path of the service, with a version that is not
empty and does not begin with a digit. -/
theorem resolve_normalizes (document : Members) (service : Text) (dialect : Dialect) :
    (resolve document service dialect ≠ [] ∧
        (resolve document service dialect).getLast? ≠ some (.char '/')) ∧
      (∀ path, Declares document dialect path → (∃ c ∈ path, c ≠ .char '/') →
        ¬Template.HoldsTenant (resolve document service dialect) ∧
          ∃ slashes : Text, (∀ c ∈ slashes, c = .char '/') ∧
            ∀ filled, Template.Fills (Text.ofString "super") path filled ↔
              filled = resolve document service dialect ++ slashes) ∧
      ((∀ path, Declares document dialect path → ∀ c ∈ path, c = .char '/') →
        ∃ version : Text, version ≠ [] ∧ (∀ c ∈ version.head?, c.isDigit = false) ∧
          resolve document service dialect = Text.ofString "/ccx/api/" ++ service ++
            .char '/' :: version ++ Text.ofString "/super") := by
  refine ⟨⟨resolve_ne_nil document service dialect, getLast?_resolve document service dialect⟩,
    fun path hpath hsome => ?_, fun hslashes => ?_⟩
  · obtain rfl := hpath.eq_declared
    have hfills := Template.fills_fillTenants tenant (declared document dialect)
    have htrim := resolve_eq_trimEnd service hsome
    obtain ⟨slashes, hsplit, hslash⟩ := Text.exists_trimEnd_append (· == CodePoint.char '/')
      (Template.fillTenants tenant (declared document dialect))
    rw [← htrim] at hsplit
    refine ⟨fun hholds => ?_, slashes, fun c hc => beq_iff_eq.mp (hslash c hc), fun filled => ?_⟩
    · exact hfills.not_holdsTenant (by decide) (hholds.mono ⟨slashes, hsplit.symm⟩)
    · rw [← hsplit]
      exact ⟨Template.Fills.eq_fillTenants, fun h => h ▸ hfills⟩
  · have hdeclared : ∀ c ∈ declared document dialect, c = .char '/' := fun c hc =>
      hslashes _ (declares_declared (List.ne_nil_of_mem hc)) c hc
    obtain ⟨hversion, hdigit⟩ := version_spec document
    exact ⟨version document, hversion, hdigit, resolve_eq_default service hdeclared⟩

/-- A document of the older dialect whose path has braces in braces and one that is not closed. -/
def bracedDocument : Members :=
  [(Text.ofString "swagger", .text (Text.ofString "2.0")),
    (Text.ofString "basePath", .text
      (Text.ofString "/\x7b\x7bTENANT\x7d/\x7ba\x7btenant\x7d\x7d/\x7btenant//"))]

/-- A document of the newer dialect whose server has an address that is refused. -/
def refusedDocument : Members :=
  let url := Text.ofString "https://[/\x7btenant\x7d"
  [(Text.ofString "servers", .array [.object [(Text.ofString "url", .text url)]]),
    (Text.ofString "info", .object [(Text.ofString "version", .integer 2)])]

/-- Braces in braces are filled once and one that is not closed is left, and a service whose server
has a refused address has the default path. -/
theorem resolve_normalizes_samples :
    (Declares bracedDocument .swagger2
        (Text.ofString "/\x7b\x7bTENANT\x7d/\x7ba\x7btenant\x7d\x7d/\x7btenant//") ∧
      resolve bracedDocument [] .swagger2 = Text.ofString "/super/super\x7d/\x7btenant" ∧
      ¬Template.HoldsTenant (resolve bracedDocument [] .swagger2)) ∧
    (resolve refusedDocument (Text.ofString "s") .openapi3 = Text.ofString "/ccx/api/s/v2/super" ∧
      ∃ version : Text, version ≠ [] ∧ (∀ c ∈ version.head?, c.isDigit = false) ∧
        resolve refusedDocument (Text.ofString "s") .openapi3 = Text.ofString "/ccx/api/" ++
          Text.ofString "s" ++ .char '/' :: version ++ Text.ofString "/super") := by
  have hbraced : Declares bracedDocument .swagger2
      (Text.ofString "/\x7b\x7bTENANT\x7d/\x7ba\x7btenant\x7d\x7d/\x7btenant//") := .basePath rfl
  have hrefused : ∀ path, Declares refusedDocument .openapi3 path → ∀ c ∈ path, c = .char '/' := by
    intro path hpath c hc
    rw [hpath.eq_declared, show declared refusedDocument .openapi3 = [] by decide] at hc
    cases hc
  refine ⟨⟨hbraced, by decide, ?_⟩, by decide, ?_⟩
  · exact ((resolve_normalizes bracedDocument [] .swagger2).2.1 _ hbraced
      ⟨.char 'a', by decide, by decide⟩).1
  · exact (resolve_normalizes refusedDocument (Text.ofString "s") .openapi3).2.2 hrefused

end BasePath

end Toolsmith
