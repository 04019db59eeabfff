import Mathlib.Data.List.TakeDrop
import Mathlib.Data.List.TakeWhile
import Toolsmith.Registry.Client

/-!
# URLs of one kind

Whether a URL says of what kind it is shows at the beginning of its text. The ways to the tools of a
registry lead to URLs whose texts have that beginning in common, so all of them are of a kind or
none is.
-/

namespace Toolsmith

namespace Text

/-- A beginning that holds what is looked for is cut where it is cut alone. -/
theorem takeWhile_append_of_any {p : CodePoint → Bool} {common : Text}
    (h : common.any (fun c => !p c) = true) (rest : Text) :
    (common ++ rest).takeWhile p = common.takeWhile p ∧
      (common.takeWhile p).length < common.length := by
  have hlength : (common.takeWhile p).length ≠ common.length := by
    intro heq
    have hall := List.all_takeWhile (l := common) (p := p)
    rw [(List.takeWhile_prefix p).eq_of_length heq] at hall
    obtain ⟨c, hc, hnot⟩ := List.any_eq_true.mp h
    simp [List.all_eq_true.mp hall c hc] at hnot
  rw [List.takeWhile_append, if_neg hlength]
  have hle := (List.takeWhile_prefix (l := common) p).length_le
  exact ⟨rfl, by omega⟩

/-- The encoding of a text begins with that of its beginning. -/
theorem exists_encode_of_append {s t : Text} {bytes : Bytes} (h : (s ++ t).encode = some bytes) :
    ∃ first rest, s.encode = some first ∧ bytes = first ++ rest := by
  induction s generalizing bytes with
  | nil => exact ⟨[], bytes, rfl, rfl⟩
  | cons c s ih =>
    cases c with
    | surrogate unit => cases h
    | char c =>
      obtain ⟨more, hmore, rfl⟩ := Option.map_eq_some_iff.mp h
      obtain ⟨first, rest, hfirst, rfl⟩ := ih hmore
      exact ⟨Text.charBytes c ++ first, rest, by rw [Text.encode, hfirst]; rfl,
        (List.append_assoc _ _ _).symm⟩

/-- A slash is encoded as one byte. -/
theorem slash_mem_encode {t : Text} {bytes : Bytes} (h : t.encode = some bytes)
    (hmem : CodePoint.char '/' ∈ t) : (47 : UInt8) ∈ bytes := by
  induction t generalizing bytes with
  | nil => exact absurd hmem List.not_mem_nil
  | cons c t ih =>
    cases c with
    | surrogate unit => cases h
    | char c =>
      obtain ⟨more, hmore, rfl⟩ := Option.map_eq_some_iff.mp h
      rcases List.mem_cons.mp hmem with heq | hmem
      · cases heq
        exact List.mem_append_left _ (by decide)
      · exact List.mem_append_right _ (ih hmore hmem)

end Text

namespace Url

/-- Where two texts have a beginning in common at which the search for a kind ends, both URLs are of
a kind or neither is. -/
theorem hasKind_congr {u v : Url} {common r s : Text} (hu : u.toText = common ++ r)
    (hv : v.toText = common ++ s)
    (hends : common.any (fun c => c == .char ':' || c == .char '/') = true) :
    u.hasKind = v.hasKind := by
  have hany : common.any (fun c => !!(c == .char ':' || c == .char '/')) = true := by
    simpa only [Bool.not_not] using hends
  have hkind := Text.takeWhile_append_of_any
    (p := fun c => !(c == .char ':' || c == .char '/')) hany
  unfold hasKind
  simp only
  rw [hu, hv, (hkind r).1, (hkind s).1, List.getElem?_append_left (hkind r).2,
    List.getElem?_append_left (hkind r).2]

/-- A beginning of a text is a beginning of what it is percent-encoded as. -/
theorem quote_append {safe s t q : Text} (h : quote safe (s ++ t) = .ok q) :
    ∃ a b, quote safe s = .ok a ∧ q = a ++ b := by
  unfold quote Text.percentEncode at h
  cases hbytes : (s ++ t).encode with
  | none =>
    rw [hbytes] at h
    cases h
  | some bytes =>
    rw [hbytes] at h
    cases h
    obtain ⟨first, rest, hfirst, rfl⟩ := Text.exists_encode_of_append hbytes
    refine ⟨first.flatMap (Text.percentByte safe), rest.flatMap (Text.percentByte safe), ?_, ?_⟩
    · rw [quote, Text.percentEncode, hfirst]
      rfl
    · exact List.flatMap_append

/-- A slash stays a slash where it is safe. -/
theorem slash_mem_quote {safe t q : Text} (hsafe : CodePoint.char '/' ∈ safe)
    (h : quote safe t = .ok q) (hmem : CodePoint.char '/' ∈ t) : CodePoint.char '/' ∈ q := by
  have hbyte : CodePoint.char '/' ∈ Text.percentByte safe 47 := by
    have hany : (safe.any fun point => point.isAscii && point.code == (47 : UInt8).toNat) = true :=
      List.any_eq_true.mpr ⟨_, hsafe, by decide⟩
    rw [Text.percentByte, hany, Bool.or_true, if_pos rfl]
    decide
  unfold quote Text.percentEncode at h
  cases hbytes : t.encode with
  | none =>
    rw [hbytes] at h
    cases h
  | some bytes =>
    rw [hbytes] at h
    cases h
    exact List.mem_flatMap.mpr ⟨47, Text.slash_mem_encode hbytes hmem, hbyte⟩

/-- What the parts of a URL are made of. The user, the host and the socket come from the scheme and
the authority, and with neither of these the path is as it was written. -/
structure IsMade (scheme authority path : Text) (query : Option Text) (url : Url) : Prop where
  scheme_eq : url.scheme = scheme.map CodePoint.asciiLower
  user_eq : quote userSafe ((splitAtLast (.char '@') authority).1.getD []) = .ok url.user
  host_eq : Host.normal? (splitHost (splitAtLast (.char '@') authority).2).1 = some url.host
  socket_eq : socketIn? scheme (splitHost (splitAtLast (.char '@') authority).2).2 = some url.socket
  path_eq : ∃ taken, quote pathSafe taken = .ok url.path ∧
    (scheme = [] → url.authority = [] → taken = path)
  query_eq : quoteSome querySafe query = .ok url.query

/-- An authority that is empty has no part. -/
theorem parts_of_authority_eq_nil {url : Url} (h : url.authority = []) :
    url.user = [] ∧ url.host = [] ∧ url.socket = none := by
  unfold authority at h
  obtain ⟨hfront, hsocket⟩ := List.append_eq_nil_iff.mp h
  obtain ⟨huser, hhost⟩ := List.append_eq_nil_iff.mp hfront
  refine ⟨?_, ?_, ?_⟩
  · by_contra hne
    simp [hne] at huser
  · by_contra hne
    split at hhost
    · cases hhost
    · exact hne hhost
  · cases hs : url.socket with
    | none => rfl
    | some n =>
      rw [hs] at hsocket
      cases hsocket

/-- A URL is made of the parts that it is given. -/
theorem isMade_of_ofParts {scheme authority path : Text} {query fragment : Option Text} {url : Url}
    (h : ofParts scheme authority path query fragment = .ok url) :
    IsMade scheme authority path query url := by
  unfold ofParts at h
  simp only at h
  cases huser : quote userSafe ((splitAtLast (.char '@') authority).1.getD []) with
  | error fault =>
    rw [huser] at h
    cases h
  | ok user =>
    rw [huser] at h
    simp only [bind, Except.bind] at h
    split at h
    · rename_i host socket hhost hsocket
      split at h
      · rename_i hfits
        cases hpath : quote pathSafe (if scheme.isEmpty && !(!user.isEmpty || !host.isEmpty ||
            socket.isSome) then path else normalPath path) with
        | error fault =>
          rw [hpath] at h
          cases h
        | ok path' =>
          rw [hpath] at h
          cases hquery : quoteSome querySafe query with
          | error fault =>
            rw [hquery] at h
            cases h
          | ok query' =>
            rw [hquery] at h
            cases hfragment : quoteSome fragmentSafe fragment with
            | error fault =>
              rw [hfragment] at h
              cases h
            | ok fragment' =>
              rw [hfragment] at h
              cases h
              refine ⟨rfl, huser, hhost, hsocket, ⟨_, hpath, fun hscheme hauthority => ?_⟩, hquery⟩
              obtain ⟨hnone, hnone', hnone''⟩ := parts_of_authority_eq_nil hauthority
              simp only at hnone hnone' hnone''
              simp [hscheme, hnone, hnone', hnone'']
      · cases h
    · cases h

/-- A beginning without a mark stays before it. -/
theorem splitAt_append {mark : CodePoint} {t : Text} (h : mark ∉ t) (rest : Text) :
    splitAt mark (t ++ rest) = (t ++ (splitAt mark rest).1, (splitAt mark rest).2) := by
  have hall : ∀ c ∈ t, (c != mark) = true := by
    intro c hc
    simp only [bne_iff_ne, ne_eq]
    rintro rfl
    exact h hc
  have hdrop : ∀ n, (t ++ rest).drop (t.length + n) = rest.drop n :=
    fun _ => List.drop_length_add_append _
  unfold splitAt
  simp only [List.takeWhile_append_of_pos hall, List.length_append, Nat.add_assoc, hdrop,
    Nat.add_lt_add_iff_left]

/-- A mark splits what stands before it from all that follows. -/
theorem splitAt_mark {mark : CodePoint} {t : Text} (h : mark ∉ t) (rest : Text) :
    splitAt mark (t ++ mark :: rest) = (t, some rest) := by
  rw [splitAt_append h]
  simp [splitAt]

/-- A part that is there is percent-encoded. -/
theorem quoteSome_eq_ok {safe t : Text} {part? : Option Text}
    (h : quoteSome safe (some t) = .ok part?) : ∃ q, quote safe t = .ok q ∧ part? = some q := by
  rw [quoteSome] at h
  cases hq : quote safe t with
  | error fault =>
    rw [hq] at h
    cases h
  | ok q =>
    rw [hq] at h
    cases h
    exact ⟨q, rfl, rfl⟩

/-- A URL with another path and query is made of its own scheme and authority. -/
theorem isMade_of_withPathAndQuery {directory url : Url} {t : Text}
    (h : directory.withPathAndQuery t = .ok url) :
    IsMade directory.scheme directory.authority (splitAt (.char '?') t).1
      (splitAt (.char '?') t).2 url := by
  unfold withPathAndQuery at h
  simp only at h
  split at h
  · cases h
  · exact isMade_of_ofParts h

/-- One scheme and one authority are made to one scheme and one authority. -/
theorem IsMade.front_eq {scheme authority path path' : Text} {query query' : Option Text}
    {u v : Url} (hu : IsMade scheme authority path query u)
    (hv : IsMade scheme authority path' query' v) :
    v.scheme = u.scheme ∧ v.authority = u.authority := by
  have huser : v.user = u.user := Except.ok.inj (hv.user_eq.symm.trans hu.user_eq)
  have hhost : v.host = u.host := Option.some.inj (hv.host_eq.symm.trans hu.host_eq)
  have hsocket : v.socket = u.socket := Option.some.inj (hv.socket_eq.symm.trans hu.socket_eq)
  refine ⟨hv.scheme_eq.trans hu.scheme_eq.symm, ?_⟩
  rw [Url.authority, Url.authority, huser, hhost, hsocket]

/-- Where no scheme and no authority stand before it, the path is the one that is given. -/
theorem IsMade.quote_path {scheme authority path : Text} {query : Option Text} {url : Url}
    (h : IsMade scheme authority path query url) (hscheme : url.scheme = [])
    (hauthority : url.authority = []) : quote pathSafe path = .ok url.path := by
  have hempty : scheme = [] := List.map_eq_nil_iff.mp (h.scheme_eq.symm.trans hscheme)
  obtain ⟨taken, hpath, htaken⟩ := h.path_eq
  rwa [htaken hempty hauthority] at hpath

/-- Two texts with a beginning in common in which there is a slash. -/
def ShareSlash (s t : Text) : Prop :=
  ∃ common a b, CodePoint.char '/' ∈ common ∧ s = common ++ a ∧ t = common ++ b

/-- What follows two texts does not touch their beginning. -/
theorem ShareSlash.append {s t : Text} (h : ShareSlash s t) (a b : Text) :
    ShareSlash (s ++ a) (t ++ b) := by
  obtain ⟨common, r, r', hslash, rfl, rfl⟩ := h
  exact ⟨common, r ++ a, r' ++ b, hslash, List.append_assoc _ _ _, List.append_assoc _ _ _⟩

/-- URLs whose texts have a slash in common are both of a kind, or neither is. -/
theorem hasKind_of_shareSlash {u v : Url} (h : ShareSlash u.toText v.toText) :
    u.hasKind = v.hasKind := by
  obtain ⟨common, a, b, hslash, hu, hv⟩ := h
  exact hasKind_congr hu hv (List.any_eq_true.mpr ⟨_, hslash, by decide⟩)

/-- Paths with a slash in common have one when they are percent-encoded. -/
theorem shareSlash_quote {common r s q q' : Text} (h : quote pathSafe (common ++ r) = .ok q)
    (h' : quote pathSafe (common ++ s) = .ok q') (hslash : CodePoint.char '/' ∈ common) :
    ShareSlash q q' := by
  obtain ⟨a, b, ha, rfl⟩ := quote_append h
  obtain ⟨a', b', ha', rfl⟩ := quote_append h'
  obtain rfl : a = a' := Except.ok.inj (ha.symm.trans ha')
  exact ⟨a, b, b', slash_mem_quote (by decide) ha hslash, rfl, rfl⟩

/-- Queries with a beginning in common have one when they are percent-encoded, and so have the texts
of one path and these queries. -/
theorem shareSlash_marked {first query r s path : Text} {query? query?' : Option Text}
    (hpath : quote pathSafe first = .ok path)
    (h : quoteSome querySafe (some (query ++ r)) = .ok query?)
    (h' : quoteSome querySafe (some (query ++ s)) = .ok query?')
    (hslash : CodePoint.char '/' ∈ first ++ .char '?' :: query) :
    ShareSlash (path ++ marked '?' query?) (path ++ marked '?' query?') := by
  obtain ⟨q, hq, rfl⟩ := quoteSome_eq_ok h
  obtain ⟨q', hq', rfl⟩ := quoteSome_eq_ok h'
  obtain ⟨a, b, ha, rfl⟩ := quote_append hq
  obtain ⟨a', b', ha', rfl⟩ := quote_append hq'
  obtain rfl : a = a' := Except.ok.inj (ha.symm.trans ha')
  refine ⟨path ++ .char '?' :: a, b, b', ?_, by simp [marked], by simp [marked]⟩
  rcases List.mem_append.mp hslash with hmem | hmem
  · exact List.mem_append_left _ (slash_mem_quote (by decide) hpath hmem)
  · rcases List.mem_cons.mp hmem with heq | hmem
    · cases heq
    · exact List.mem_append_right _ (List.mem_cons_of_mem _
        (slash_mem_quote (by decide) ha hmem))

/-- With no scheme and no authority before them, paths with a slash in common are in URLs whose
texts have one. -/
theorem shareSlash_toText {directory u v : Url} {common r s : Text}
    (hu : directory.withPathAndQuery (common ++ r) = .ok u)
    (hv : directory.withPathAndQuery (common ++ s) = .ok v)
    (hslash : CodePoint.char '/' ∈ common) (hscheme : u.scheme = []) (hauthority : u.authority = []) :
    ShareSlash u.toText v.toText := by
  have hmade := isMade_of_withPathAndQuery hu
  have hmade' := isMade_of_withPathAndQuery hv
  obtain ⟨hscheme', hauthority'⟩ := hmade.front_eq hmade'
  rw [hscheme] at hscheme'
  rw [hauthority] at hauthority'
  have hpath := hmade.quote_path hscheme hauthority
  have hpath' := hmade'.quote_path hscheme' hauthority'
  have hquery := hmade.query_eq
  have hquery' := hmade'.query_eq
  have htext : ∀ {url : Url}, url.scheme = [] → url.authority = [] →
      url.toText = url.path ++ marked '?' url.query ++ marked '#' url.fragment := by
    intro url h h'
    rw [toText, h, h']
    rfl
  rw [htext hscheme hauthority, htext hscheme' hauthority']
  refine .append ?_ _ _
  -- The query begins in the part that the paths have in common, or behind it.
  by_cases hmark : CodePoint.char '?' ∈ common
  · obtain ⟨first, query, rfl, hfirst⟩ := List.eq_append_cons_of_mem hmark
    simp only [List.append_assoc, List.cons_append, splitAt_mark hfirst] at hpath hquery
    simp only [List.append_assoc, List.cons_append, splitAt_mark hfirst] at hpath' hquery'
    have hsame : v.path = u.path := Except.ok.inj (hpath'.symm.trans hpath)
    rw [hsame]
    exact shareSlash_marked hpath hquery hquery' hslash
  · rw [splitAt_append hmark] at hpath hpath'
    exact (shareSlash_quote hpath hpath' hslash).append _ _

/-- The URLs of two paths with a beginning in common are both of a kind, or neither is. -/
theorem hasKind_withPathAndQuery {directory u v : Url} {common r s : Text}
    (hu : directory.withPathAndQuery (common ++ r) = .ok u)
    (hv : directory.withPathAndQuery (common ++ s) = .ok v)
    (hslash : CodePoint.char '/' ∈ common) : u.hasKind = v.hasKind := by
  obtain ⟨hscheme, hauthority⟩ :=
    (isMade_of_withPathAndQuery hu).front_eq (isMade_of_withPathAndQuery hv)
  -- The first part that is there decides: the scheme, the authority or the path.
  by_cases hkind : u.scheme = []
  · by_cases hplace : u.authority = []
    · exact hasKind_of_shareSlash (shareSlash_toText hu hv hslash hkind hplace)
    · have htext : ∀ {url : Url}, url.scheme = [] → url.authority = u.authority →
          url.toText = Text.ofString "//" ++ (url.authority ++ url.path ++
            marked '?' url.query ++ marked '#' url.fragment) := by
        intro url h h'
        simp [toText, h, h', hplace]
      exact hasKind_congr (htext hkind rfl) (htext (hscheme.trans hkind) hauthority) (by decide)
  · have htext : ∀ {url : Url}, url.scheme = u.scheme →
        url.toText = (u.scheme ++ [.char ':']) ++
          ((if url.authority.isEmpty then [] else Text.ofString "//" ++ url.authority) ++
            url.path ++ marked '?' url.query ++ marked '#' url.fragment) := by
      intro url h
      simp [toText, h, hkind]
    exact hasKind_congr (htext rfl) (htext hscheme) (by simp)

/-- The URL of a way that begins like that to the tools has a path that does. -/
theorem ofText_toolsWay {rest : Text} {way : Url}
    (h : ofText (Registry.toolsWay ++ rest) = .ok way) :
    ∃ more, way.pathAndQuery.dropWhile (· == .char '/') = Text.ofString "api/" ++ more := by
  unfold ofText at h
  split at h
  · cases h
  · rw [splitAt_append (by decide)] at h
    simp only at h
    rw [splitAt_append (by decide)] at h
    simp only at h
    generalize (splitAt (.char '?') _).1 = r at h
    obtain ⟨tail, htail⟩ : ∃ tail, Registry.toolsWay ++ r = .char '/' :: .char 'a' :: tail :=
      ⟨_, rfl⟩
    have hscheme : splitScheme (Registry.toolsWay ++ r) = ([], Registry.toolsWay ++ r) := by
      rw [htail]
      rfl
    have hauthority : splitAuthority (Registry.toolsWay ++ r) = ([], Registry.toolsWay ++ r) := by
      rw [htail]
      rfl
    rw [hscheme] at h
    simp only [hauthority] at h
    have hmade := isMade_of_ofParts h
    have hempty : way.authority = [] := by
      have huser : way.user = [] := (Except.ok.inj hmade.user_eq).symm
      have hhost : way.host = [] := (Option.some.inj hmade.host_eq).symm
      have hsocket : way.socket = none := (Option.some.inj hmade.socket_eq).symm
      rw [authority, huser, hhost, hsocket]
      rfl
    obtain ⟨taken, hpath, htaken⟩ := hmade.path_eq
    rw [htaken rfl hempty] at hpath
    obtain ⟨a, b, ha, hab⟩ := quote_append hpath
    obtain rfl : Registry.toolsWay = a := Except.ok.inj ha
    have hne : way.path.isEmpty = false := by
      rw [hab]
      rfl
    rw [pathAndQuery, hne, hab]
    exact ⟨_, rfl⟩

end Url

end Toolsmith
