import Toolsmith.Document.BasePath
import Toolsmith.Proofs.Document.Template
import Toolsmith.Proofs.Text.Cutting

/-!
# Where a base path begins

A base path is never empty. It begins with a slash if the document declares no path, the absolute
address of a server, or a path that begins with a slash. Every other text that a document declares
is kept at its beginning, so the base path begins as the text does.
-/

namespace Toolsmith

namespace Template

variable {accept : Text → Bool} {filling rest : Text}

/-- A template that begins with no brace begins as before when its placeholders are filled. -/
theorem fill_scan_cons {c : CodePoint} (h : c ≠ .char '\x7b') :
    fill filling (scan accept 0 (c :: rest)) = c :: fill filling (scan accept 0 rest) := by
  rw [scan, if_neg h]
  rfl

/-- A template that begins with a brace keeps it when its placeholders are filled, or begins with
the filling. -/
theorem fill_scan_brace :
    ∃ more, fill filling (scan accept 0 (.char '\x7b' :: rest)) = filling ++ more ∨
      fill filling (scan accept 0 (.char '\x7b' :: rest)) = .char '\x7b' :: more := by
  rw [scan, if_pos rfl]
  split
  · exact ⟨_, .inl rfl⟩
  · exact ⟨_, .inr rfl⟩

end Template

namespace Address

/-- An address is absolute if it begins with one of two schemes. -/
theorem isSome_afterScheme? {url : Text} :
    (afterScheme? url).isSome = true ↔
      Text.ofString "http://" <+: url ∨ Text.ofString "https://" <+: url := by
  unfold afterScheme?
  simp only
  split
  · rename_i hplain
    simp [List.isPrefixOf_iff_prefix.mp hplain]
  · rename_i hplain
    rw [List.isPrefixOf_iff_prefix] at hplain
    split
    · rename_i hsecure
      simp [List.isPrefixOf_iff_prefix.mp hsecure]
    · rename_i hsecure
      rw [List.isPrefixOf_iff_prefix] at hsecure
      simp [hplain, hsecure]

/-- The path of an absolute address is empty or begins with a slash. -/
theorem path?_rooted {rest path : Text} (h : path? rest = some path) :
    path = [] ∨ path.head? = some (.char '/') := by
  unfold path? at h
  simp only [Text.drop_takeWhile] at h
  split at h
  · cases h
    generalize rest.filter _ = url
    have hend := Text.head_of_dropWhile (p := fun c => !endsAuthority c) url
    cases hafter : url.dropWhile fun c => !endsAuthority c with
    | nil => exact .inl rfl
    | cons c after =>
      have hc := hend c (by rw [hafter]; rfl)
      simp only [Bool.not_eq_false', endsAuthority, Bool.or_eq_true, beq_iff_eq] at hc
      obtain (rfl | rfl) | rfl := hc
      · exact .inr rfl
      · exact .inl rfl
      · exact .inl rfl
  · cases h

end Address

namespace BasePath

variable {document : Members} {dialect : Dialect}

/-- The text with which a document declares its path: the address of its first server, or its base
path. -/
def text? (document : Members) : Dialect → Option Text
  | .openapi3 =>
    match document.get? (Text.ofString "servers") with
    | some (.array (server :: _)) =>
      match server.get? (Text.ofString "url") with
      | some (.text url) => some url
      | _ => none
    | _ => none
  | .swagger2 =>
    match document.get? (Text.ofString "basePath") with
    | some (.text path) => some path
    | _ => none

/-- A text that declares no path, or one that begins with a slash: the text is empty or begins with
a slash, or it is the absolute address of a server. -/
def IsRooted (dialect : Dialect) (t : Text) : Prop :=
  t = [] ∨ t.head? = some (.char '/') ∨
    dialect = .openapi3 ∧ (Text.ofString "http://" <+: t ∨ Text.ofString "https://" <+: t)

instance (dialect : Dialect) (t : Text) : Decidable (IsRooted dialect t) :=
  inferInstanceAs (Decidable (_ ∨ _ ∨ _ ∧ (_ ∨ _)))

/-- The path that a declaring text stands for. -/
def ofText : Dialect → Text → Text
  | .openapi3, url => ofAddress url
  | .swagger2, path => path

/-- The declared path is the one that the declaring text stands for, if there is such a text. -/
theorem declared_eq (document : Members) (dialect : Dialect) :
    declared document dialect = ((text? document dialect).map (ofText dialect)).getD [] := by
  cases dialect with
  | openapi3 =>
    unfold declared text?
    simp only
    cases document.get? (Text.ofString "servers") with
    | none => rfl
    | some v =>
      cases v with
      | array servers =>
        cases servers with
        | nil => rfl
        | cons server _ =>
          simp only
          cases server.get? (Text.ofString "url") with
          | none => rfl
          | some url => cases url <;> rfl
      | _ => rfl
  | swagger2 =>
    unfold declared text?
    simp only
    cases document.get? (Text.ofString "basePath") with
    | none => rfl
    | some v => cases v <;> rfl

/-- The path that a text stands for is empty or begins with a slash exactly if the text is
rooted. -/
theorem ofText_rooted {t : Text} :
    (ofText dialect t = [] ∨ (ofText dialect t).head? = some (.char '/')) ↔ IsRooted dialect t := by
  cases dialect with
  | swagger2 => simp [ofText, IsRooted]
  | openapi3 =>
    rw [IsRooted, ← Address.isSome_afterScheme?]
    cases hscheme : Address.afterScheme? t with
    | none => simp [ofText, ofAddress, hscheme]
    | some rest =>
      refine iff_of_true ?_ (.inr (.inr ⟨rfl, rfl⟩))
      simp only [ofText, ofAddress, hscheme]
      cases hpath : Address.path? rest with
      | none => exact .inl rfl
      | some path => exact Address.path?_rooted hpath

/-- The declared path is empty or begins with a slash exactly if the declaring text is rooted. -/
theorem declared_rooted :
    (declared document dialect = [] ∨ (declared document dialect).head? = some (.char '/')) ↔
      ∀ t, text? document dialect = some t → IsRooted dialect t := by
  rw [declared_eq]
  cases text? document dialect with
  | none => exact iff_of_true (.inl rfl) nofun
  | some t => simpa using ofText_rooted

/-- A base path is not empty. -/
theorem resolve_ne_nil (document : Members) (service : Text) (dialect : Dialect) :
    resolve document service dialect ≠ [] := by
  unfold resolve
  simp only
  split
  · exact List.cons_ne_nil _ _
  · rename_i hpath
    rwa [List.isEmpty_iff] at hpath

/-- A base path begins with a slash if the declared path is empty or begins with one. -/
theorem head?_resolve_of_rooted (service : Text)
    (h : declared document dialect = [] ∨ (declared document dialect).head? = some (.char '/')) :
    (resolve document service dialect).head? = some (.char '/') := by
  unfold resolve
  simp only
  split
  · rfl
  · rename_i hpath
    rw [List.isEmpty_iff] at hpath
    rw [Text.head?_trimEnd hpath]
    rcases h with hnil | hslash
    · rw [hnil] at hpath
      exact absurd rfl hpath
    · obtain ⟨rest, hrest⟩ := List.head?_eq_some_iff.mp hslash
      rw [hrest, Template.fillTenants, Template.fill_scan_cons (by decide)]
      rfl

/-- A base path does not begin with a slash if the declared path begins with something else. -/
theorem head?_resolve_of_cons (service : Text) {c : CodePoint} {rest : Text}
    (h : declared document dialect = c :: rest) (hc : c ≠ .char '/') :
    (resolve document service dialect).head? ≠ some (.char '/') := by
  obtain ⟨d, more, hfill, hd⟩ : ∃ d more,
      Template.fillTenants tenant (declared document dialect) = d :: more ∧ d ≠ .char '/' := by
    rw [h, Template.fillTenants]
    by_cases hbrace : c = .char '\x7b'
    · subst c
      obtain ⟨more, htenant | hkept⟩ :=
        @Template.fill_scan_brace Template.isTenantName tenant rest
      · exact ⟨.char 's', _, htenant, by decide⟩
      · exact ⟨.char '\x7b', _, hkept, by decide⟩
    · exact ⟨c, _, Template.fill_scan_cons hbrace, hc⟩
  have hkept : Text.trimEnd (· == .char '/')
      (Template.fillTenants tenant (declared document dialect)) ≠ [] :=
    Text.trimEnd_ne_nil (by rw [hfill]; exact List.mem_cons_self) (beq_eq_false_iff_ne.mpr hd)
  unfold resolve
  simp only
  rw [if_neg (by rwa [List.isEmpty_iff]), Text.head?_trimEnd hkept, hfill]
  simpa using hd

/-- A base path begins with a slash exactly if the text that declares it is rooted. -/
theorem head?_resolve_iff (service : Text) :
    (resolve document service dialect).head? = some (.char '/') ↔
      ∀ t, text? document dialect = some t → IsRooted dialect t := by
  rw [← declared_rooted]
  refine ⟨fun h => ?_, head?_resolve_of_rooted service⟩
  cases hdeclared : declared document dialect with
  | nil => exact .inl rfl
  | cons c rest =>
    by_contra hnot
    refine head?_resolve_of_cons service hdeclared ?_ h
    rintro rfl
    exact hnot (.inr rfl)

end BasePath

end Toolsmith
