import Mathlib.Data.List.Forall2
import Toolsmith.Catalog.Index
import Toolsmith.Proofs.Files.Contents
import Toolsmith.Proofs.Json.Lasting

/-!
# The index is read back

An index that has been written is read as the services that were written, in their order, except
that a display name or an address that is empty is none then. So a service that has been read is
written in one way only, and what is written of an index that has been read stays the same from then
on.
-/

namespace Toolsmith

/-- A value, or null where it is the empty text. -/
def Json.filled : Json → Json
  | .text [] => .null
  | v => v

namespace Service

/-- A service as an index can hold it: name and version are texts, and so are the display name and
the address, or they are null. All these texts have encodings. -/
structure IsPlain (service : Service) : Prop where
  name : ∃ t, service.name = .text t ∧ t.encode.isSome = true
  version : ∃ t, service.version = .text t ∧ t.encode.isSome = true
  displayName : service.displayName = .null ∨
    ∃ t, service.displayName = .text t ∧ t.encode.isSome = true
  schemaUrl : service.schemaUrl = .null ∨
    ∃ t, service.schemaUrl = .text t ∧ t.encode.isSome = true

/-- A service without a display name or an address that is empty. -/
def filled (service : Service) : Service :=
  { service with displayName := service.displayName.filled, schemaUrl := service.schemaUrl.filled }

/-- The null value or a text is null if it is empty. -/
theorem orNull_eq_filled {v : Json} (h : v = .null ∨ ∃ t, v = .text t ∧ t.encode.isSome = true) :
    v.orNull = v.filled := by
  rcases h with rfl | ⟨t, rfl, -⟩
  · rfl
  · cases t <;> rfl

/-- A value of a service that is null or a text lasts. -/
theorem lasting_of_null_or_text {v : Json}
    (h : v = .null ∨ ∃ t, v = .text t ∧ t.encode.isSome = true) : v.Lasting ∧ v.depth ≤ 0 := by
  rcases h with rfl | ⟨t, rfl, hencode⟩
  · exact ⟨.of_null, Nat.le_refl 0⟩
  · exact ⟨.of_text hencode, Nat.le_refl 0⟩

/-- A service is read from its own entry as it is, but for what is empty. -/
theorem ofJson_toJson {service : Service} (h : service.IsPlain) :
    ofJson service.toJson = .ok service.filled := by
  rw [filled, ← orNull_eq_filled h.displayName, ← orNull_eq_filled h.schemaUrl]
  unfold toJson
  by_cases hdisplay : service.displayName.isTrue = true
  · rw [if_pos hdisplay]
    rfl
  · have hnone : service.displayName.orNull = .null := if_neg hdisplay
    rw [if_neg hdisplay, hnone]
    rfl

/-- The entry of a service lasts. -/
theorem lasting_toJson {service : Service} (h : service.IsPlain) :
    service.toJson.Lasting ∧ service.toJson.depth ≤ 1 := by
  let fields := [("name", service.name), ("version", service.version)] ++
    (if service.displayName.isTrue then [("displayName", service.displayName)] else []) ++
    [("schemaUrl", service.schemaUrl)]
  have hkeys : (fields.map fun field => Text.ofString field.1).Nodup := by
    unfold fields
    split
    · show (["name", "version", "displayName", "schemaUrl"].map Text.ofString).Nodup
      decide
    · show (["name", "version", "schemaUrl"].map Text.ofString).Nodup
      decide
  have hfields : ∀ field ∈ fields, field.2.Lasting ∧ field.2.depth ≤ 0 := by
    refine List.forall_mem_append.mpr ⟨List.forall_mem_append.mpr ⟨?_, ?_⟩, ?_⟩
    · refine List.forall_mem_cons.mpr ⟨?_, List.forall_mem_singleton.mpr ?_⟩
      · exact lasting_of_null_or_text (.inr h.name)
      · exact lasting_of_null_or_text (.inr h.version)
    · split
      · exact List.forall_mem_singleton.mpr (lasting_of_null_or_text h.displayName)
      · exact List.forall_mem_nil _
    · exact List.forall_mem_singleton.mpr (lasting_of_null_or_text h.schemaUrl)
  constructor
  · exact .of_record hkeys fun field hfield => (hfields field hfield).1
  · refine Nat.succ_le_succ (Json.membersDepth_le.mpr ?_)
    exact List.forall_mem_map.mpr fun field hfield => (hfields field hfield).2

/-- A service that has been read from an entry has no empty display name and no empty address. -/
theorem filled_of_ofJson {entry : Json} {service : Service} (h : ofJson entry = .ok service) :
    service.filled = service := by
  have hfilled : ∀ v : Json, v.orNull.filled = v.orNull := by
    intro v
    unfold Json.orNull
    split
    · rename_i htrue
      unfold Json.filled
      split
      · cases htrue
      · rfl
    · rfl
  unfold ofJson at h
  split at h
  · split at h
    · cases h
    · cases h
    · cases h
      unfold filled
      rw [hfilled, hfilled]
  · cases h

end Service

namespace Catalog

variable {w w' : World} {services : List Service}

/-- Services are read from entries one by one. -/
theorem ofEntries_eq_ok {entries : List Json} :
    ofEntries entries = .ok services ↔
      List.Forall₂ (fun entry service => Service.ofJson entry = .ok service) entries services := by
  unfold ofEntries
  induction entries generalizing services with
  | nil =>
    rw [List.mapM_nil, List.forall₂_nil_left_iff]
    exact ⟨fun h => (Except.ok.inj h).symm, fun h => by rw [h]; rfl⟩
  | cons entry entries ih =>
    rw [List.mapM_cons, List.forall₂_cons_left_iff]
    cases hentry : Service.ofJson entry with
    | error fault =>
      constructor
      · exact fun h => by cases h
      · rintro ⟨service, rest, h, -⟩
        cases h
    | ok first =>
      constructor
      · intro h
        cases hrest : entries.mapM Service.ofJson with
        | error fault =>
          rw [hrest] at h
          cases h
        | ok rest =>
          rw [hrest] at h
          cases h
          exact ⟨first, rest, rfl, ih.mp hrest, rfl⟩
      · rintro ⟨service, rest, h, hrest, rfl⟩
        cases h
        rw [ih.mpr hrest]
        rfl

/-- An index is read from its own document as it is, but for what is empty. -/
theorem ofIndex_toIndex (h : ∀ service ∈ services, service.IsPlain) :
    ofIndex (toIndex services) = .ok (services.map Service.filled) := by
  refine ofEntries_eq_ok.mpr ?_
  rw [List.forall₂_map_left_iff, List.forall₂_map_right_iff]
  exact List.forall₂_same.mpr fun service hservice => Service.ofJson_toJson (h service hservice)

/-- The document of an index lasts. -/
theorem lasting_toIndex (h : ∀ service ∈ services, service.IsPlain) :
    (toIndex services).Lasting ∧ (toIndex services).depth ≤ Json.maxDepth := by
  constructor
  · apply Json.Lasting.of_items
    exact List.forall_mem_map.mpr fun service hservice =>
      (Service.lasting_toJson (h service hservice)).1
  · have hdepth : (toIndex services).depth ≤ 2 :=
      Nat.succ_le_succ (Json.itemsDepth_le.mpr (List.forall_mem_map.mpr fun service hservice =>
        (Service.lasting_toJson (h service hservice)).2))
    exact hdepth.trans (by decide)

/-- The index is below the working directory. -/
theorem isDirect_index : Path.IsDirect Workplace.index := by
  unfold Path.IsDirect
  decide

/-- The index is read from the document in its file. -/
theorem readIndex_eq_ok :
    readIndex w = .ok services w' ↔
      ∃ document, w.files.document? Workplace.index = some document ∧
        ofIndex document = .ok services ∧ w = w' := by
  unfold readIndex
  rw [Action.bind_eq_ok]
  constructor
  · rintro ⟨there, v, hthere, h⟩
    obtain ⟨-, rfl⟩ := Action.fileExists_eq_ok.mp hthere
    cases there with
    | false => exact (Action.throw_eq_ok.mp h).elim
    | true =>
      obtain ⟨document, v', hread, h⟩ := Action.bind_eq_ok.mp h
      obtain ⟨hdocument, rfl⟩ := Action.readDocument_eq_ok_document?.mp hread
      obtain ⟨hservices, rfl⟩ := Action.ofExcept_eq_ok.mp h
      exact ⟨document, hdocument, hservices, rfl⟩
  · rintro ⟨document, hdocument, hservices, rfl⟩
    have hthere := Tree.exists?_of_document? isDirect_index hdocument
    refine ⟨true, w, Action.fileExists_eq_ok.mpr ⟨hthere, rfl⟩, ?_⟩
    exact Action.bind_eq_ok.mpr ⟨document, w,
      Action.readDocument_eq_ok_document?.mpr ⟨hdocument, rfl⟩,
      Action.ofExcept_eq_ok.mpr ⟨hservices, rfl⟩⟩

/-- Services that have been read from an index have no empty display names and no empty
addresses. -/
theorem filled_of_ofIndex {document : Json} (h : ofIndex document = .ok services) :
    services.map Service.filled = services := by
  unfold ofIndex at h
  split at h
  · have hentries := ofEntries_eq_ok.mp h
    clear h
    induction hentries with
    | nil => rfl
    | cons hentry _ ih => rw [List.map_cons, Service.filled_of_ofJson hentry, ih]
  · cases h
    rfl
  · cases h
    rfl
  · cases h

/-- The index can be written where the working directory is there and no directory stands in the
place of the index. -/
theorem exists_writeIndex (h : ∀ service ∈ services, service.IsPlain)
    (hroot : w.files.get? [] = some .directory)
    (hfree : w.files.get? Workplace.index ≠ some .directory) :
    ∃ files, writeIndex services w = .ok () { w with files } := by
  obtain ⟨hlasting, hdepth⟩ := lasting_toIndex h
  have hway : w.files.HasWay Workplace.index := by
    intro before hbefore hne
    rcases List.prefix_cons_iff.mp hbefore with rfl | ⟨rest, rfl, hrest⟩
    · exact hroot
    · rw [List.prefix_nil.mp hrest] at hne
      exact absurd rfl hne
  exact (Action.writeDocument_returns_iff isDirect_index).mpr
    ⟨⟨.mono ⟨by decide, by decide⟩ w.files.ample, hway⟩, hfree, hlasting.encodable,
      hlasting.fits hdepth⟩

/-- The index can be written where a file stands in its place already. -/
theorem exists_writeIndex_of_read (h : ∀ service ∈ services, service.IsPlain) {bytes : Bytes}
    (hread : w.files.read Workplace.index = .ok bytes) :
    ∃ files, writeIndex services w = .ok () { w with files } := by
  obtain ⟨⟨-, hway⟩, hfile⟩ := (Tree.read_eq_ok isDirect_index).mp hread
  have hroot := hway [] List.nil_prefix (by decide)
  exact exists_writeIndex h hroot (Tree.ne_directory_of_file hfile)

/-- An index that has been written is read as the services that were written, but for what is
empty. -/
theorem readIndex_of_writeIndex (h : ∀ service ∈ services, service.IsPlain) {u : Unit}
    (hwrite : writeIndex services w = .ok u w') :
    readIndex w' = .ok (services.map Service.filled) w' ∧
      ∃ files, w' = { w with files } ∧
        files.Holds Workplace.index (toIndex services).fileText := by
  obtain ⟨hlasting, hdepth⟩ := lasting_toIndex h
  obtain ⟨-, htext⟩ := Action.writeDocument_eq_ok.mp hwrite
  obtain ⟨files, rfl, -, hholds⟩ := Action.writeText_spec isDirect_index htext
  have hdocument := hholds.document? hlasting.regular hlasting.stable hdepth
  exact ⟨readIndex_eq_ok.mpr ⟨_, hdocument, ofIndex_toIndex h, rfl⟩, files, rfl, hholds⟩

/-- The index is kept by its file. Services that are written are read as they were, in their order,
but for what is empty; and services that have been read from an index are read again after they have
been written, and written again as the same bytes. -/
theorem index_round_trips (w : World) :
    (∀ services : List Service, (∀ service ∈ services, service.IsPlain) →
      w.files.get? [] = some .directory → w.files.get? Workplace.index ≠ some .directory →
      ∃ files, writeIndex services w = .ok () { w with files } ∧
        readIndex { w with files } = .ok (services.map Service.filled) { w with files }) ∧
    ∀ services w', readIndex w = .ok services w' → (∀ service ∈ services, service.IsPlain) →
      w' = w ∧ ∃ first second bytes,
        writeIndex services w = .ok () { w with files := first } ∧
        readIndex { w with files := first } = .ok services { w with files := first } ∧
        writeIndex services { w with files := first } = .ok () { w with files := second } ∧
        first.read Workplace.index = .ok bytes ∧ second.read Workplace.index = .ok bytes := by
  constructor
  · intro services h hroot hfree
    obtain ⟨files, hwrite⟩ := exists_writeIndex h hroot hfree
    exact ⟨files, hwrite, (readIndex_of_writeIndex h hwrite).1⟩
  · intro services w' hread h
    obtain ⟨document, hdocument, hservices, rfl⟩ := readIndex_eq_ok.mp hread
    have hfilled := filled_of_ofIndex hservices
    obtain ⟨old, hold⟩ := Tree.exists_read_of_document? hdocument
    obtain ⟨first, hwrite⟩ := exists_writeIndex_of_read h hold
    obtain ⟨hreread, _, hfirst, bytes, hencode, hbytes⟩ := readIndex_of_writeIndex h hwrite
    obtain rfl : first = _ := congrArg World.files hfirst
    obtain ⟨second, hwrite'⟩ := exists_writeIndex_of_read (w := { w with files := first }) h hbytes
    obtain ⟨-, _, hsecond, bytes', hencode', hbytes'⟩ := readIndex_of_writeIndex h hwrite'
    obtain rfl : second = _ := congrArg World.files hsecond
    -- Both files hold the text of one document.
    rw [hencode] at hencode'
    cases hencode'
    rw [hfilled] at hreread
    exact ⟨rfl, first, second, bytes, hwrite, hreread, hwrite', hbytes, hbytes'⟩

/-- A service with an empty display name and without an address. -/
def unshownService : Service :=
  { Service.ofNameAndVersion (Text.ofString "hr") (Text.ofString "v1") with
    displayName := .text [] }

/-- An index of such a service is written and read; what has been read is written and read again,
and written once more as the same bytes. -/
theorem index_round_trips_unshownService :
    ∃ files, writeIndex [unshownService] (.ofFiles .empty) = .ok () (.ofFiles files) ∧
      readIndex (.ofFiles files) = .ok [unshownService.filled] (.ofFiles files) ∧
      ∃ first second bytes,
        writeIndex [unshownService.filled] (.ofFiles files) = .ok () (.ofFiles first) ∧
        readIndex (.ofFiles first) = .ok [unshownService.filled] (.ofFiles first) ∧
        writeIndex [unshownService.filled] (.ofFiles first) = .ok () (.ofFiles second) ∧
        first.read Workplace.index = .ok bytes ∧ second.read Workplace.index = .ok bytes := by
  have hname : (Text.ofString "hr").encode.isSome = true := Text.encode_ofString_isSome _
  have hversion : (Text.ofString "v1").encode.isSome = true := Text.encode_ofString_isSome _
  have hplain : unshownService.IsPlain :=
    ⟨⟨_, rfl, hname⟩, ⟨_, rfl, hversion⟩, .inr ⟨[], rfl, rfl⟩, .inl rfl⟩
  have hfilled : unshownService.filled.IsPlain :=
    ⟨⟨_, rfl, hname⟩, ⟨_, rfl, hversion⟩, .inl rfl, .inl rfl⟩
  obtain ⟨files, hwrite, hread⟩ := (index_round_trips (.ofFiles .empty)).1 [unshownService]
    (List.forall_mem_singleton.mpr hplain) rfl (by decide)
  obtain ⟨-, hagain⟩ := (index_round_trips (.ofFiles files)).2 _ _ hread
    (List.forall_mem_singleton.mpr hfilled)
  exact ⟨files, hwrite, hread, hagain⟩

end Catalog

end Toolsmith
