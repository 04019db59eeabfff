import Mathlib.Logic.Function.Basic
import Toolsmith.Proofs.Unit.Scoping

/-!
# What the identifiers of a unit stand for

A unit reads its inputs line by line, and each line sets an identifier. Inputs of different names
have identifiers of their own, so that no line undoes another. Inputs of the same name share one and
are set together: a parameter of the path and one of the query may have the same name, and so may a
parameter and the body.
-/

namespace Toolsmith

namespace Binding

variable {bindings : List Binding} {b : Binding}

/-- What the identifiers stand for after the lines that read the inputs, where `locals` is what they
stand for before. -/
def run (inputs : Text → Json) : List Binding → (Text → Option Json) → Text → Option Json
  | [], locals => locals
  | b :: rest, locals =>
    run inputs rest (Function.update locals b.identifier (some (inputs b.name)))

/-- The lines leave alone what they do not set. -/
theorem run_of_not_mem (inputs : Text → Json) (locals : Text → Option Json) {identifier : Text}
    (h : identifier ∉ bindings.map Binding.identifier) :
    run inputs bindings locals identifier = locals identifier := by
  induction bindings generalizing locals with
  | nil => rfl
  | cons first rest ih =>
    obtain ⟨hne, hrest⟩ := List.ne_and_not_mem_of_not_mem_cons h
    rw [run, ih _ hrest, Function.update_of_ne hne]

/-- After the lines every identifier stands for the input that it is bound to, whatever the inputs
are. -/
def KeepInputs (bindings : List Binding) : Prop :=
  ∀ inputs locals, ∀ b ∈ bindings, run inputs bindings locals b.identifier = some (inputs b.name)

/-- Where no two names have the same identifier, no line undoes another. -/
theorem keepInputs_of_forall
    (h : ∀ a ∈ bindings, ∀ b ∈ bindings, a.identifier = b.identifier → a.name = b.name) :
    KeepInputs bindings := by
  intro inputs locals
  induction bindings generalizing locals with
  | nil => exact List.forall_mem_nil _
  | cons first rest ih =>
    have hlater := ih
      (fun a ha b hb => h a (List.mem_cons_of_mem _ ha) b (List.mem_cons_of_mem _ hb))
      (Function.update locals first.identifier (some (inputs first.name)))
    refine List.forall_mem_cons.mpr ⟨?_, hlater⟩
    by_cases hagain : first.identifier ∈ rest.map Binding.identifier
    · -- a later line sets the identifier again, for the same name
      obtain ⟨b, hb, hidentifier⟩ := List.mem_map.mp hagain
      have hname := h b (List.mem_cons_of_mem _ hb) first List.mem_cons_self hidentifier
      have hlast := hlater b hb
      rwa [hidentifier, hname] at hlast
    · rw [run, run_of_not_mem _ _ hagain, Function.update_self]

/-- Every identifier stands for its input exactly if no two names have the same identifier. -/
theorem keepInputs_iff : KeepInputs bindings ↔
    ∀ a ∈ bindings, ∀ b ∈ bindings, a.identifier = b.identifier → a.name = b.name := by
  refine ⟨fun h a ha b hb hidentifier => ?_, keepInputs_of_forall⟩
  -- an input that is set alone tells the names apart
  have hsame := h (fun name => .bool (name = a.name)) (fun _ => none) a ha
  rw [hidentifier, h _ _ b hb] at hsame
  simpa [eq_comm] using hsame

/-- Values that are the same where the names are, one for each. -/
def Agree (names : List Text) (wanted : List Json) : Prop :=
  ∀ a ∈ names.zip wanted, ∀ b ∈ names.zip wanted, a.1 = b.1 → a.2 = b.2

/-- There are inputs with the values that are wanted exactly if these agree. -/
theorem exists_map_eq_iff {names : List Text} {wanted : List Json}
    (hlength : names.length = wanted.length) :
    (∃ inputs : Text → Json, names.map inputs = wanted) ↔ Agree names wanted := by
  constructor
  · rintro ⟨inputs, rfl⟩ a ha b hb hname
    have hvalues : List.Forall₂ (fun name v => inputs name = v) names (names.map inputs) :=
      List.forall₂_map_right_iff.mpr (List.forall₂_same.mpr fun _ _ => rfl)
    rw [← List.forall₂_zip hvalues ha, ← List.forall₂_zip hvalues hb, hname]
  · intro h
    refine ⟨fun name => (((names.zip wanted).find? (·.1 == name)).map Prod.snd).getD .null, ?_⟩
    rw [← List.forall₂_eq_eq_eq, List.forall₂_map_left_iff, List.forall₂_iff_zip]
    refine ⟨hlength, fun {name v} hmem => ?_⟩
    have hsome : ((names.zip wanted).find? (·.1 == name)).isSome = true :=
      List.find?_isSome.mpr ⟨_, hmem, beq_self_eq_true name⟩
    obtain ⟨found, hfound⟩ := Option.isSome_iff_exists.mp hsome
    rw [hfound, Option.map_some, Option.getD_some]
    exact h _ (List.mem_of_find?_eq_some hfound) _ hmem (beq_iff_eq.mp (List.find?_some hfound :))

/-- Whatever is wanted agrees exactly if the names differ. -/
theorem forall_agree_iff {names : List Text} :
    (∀ wanted : List Json, names.length = wanted.length → Agree names wanted) ↔ names.Nodup := by
  constructor
  · intro h
    refine List.pairwise_iff_getElem.mpr fun i j hi hj hlt hname => ?_
    -- one value is wanted at the first place and another one everywhere else
    obtain ⟨wanted, hwanted⟩ : ∃ wanted, wanted =
        (List.range names.length).map fun k => Json.bool (k = i) := ⟨_, rfl⟩
    have hlength : names.length = wanted.length := by
      rw [hwanted, List.length_map, List.length_range]
    have hzip : ∀ k (hk : k < names.length), (names[k], Json.bool (k = i)) ∈ names.zip wanted := by
      intro k hk
      refine List.mem_iff_getElem.mpr ⟨k, by rwa [List.length_zip, ← hlength, Nat.min_self], ?_⟩
      simp only [hwanted, List.getElem_zip, List.getElem_map, List.getElem_range]
    have hsame := h wanted hlength _ (hzip i hi) _ (hzip j hj) hname
    simp only [Json.bool.injEq, decide_true, true_eq_decide_iff] at hsame
    omega
  · intro hnodup wanted hlength a ha b hb hname
    obtain ⟨i, hi, rfl⟩ := List.mem_iff_getElem.mp ha
    obtain ⟨j, hj, rfl⟩ := List.mem_iff_getElem.mp hb
    simp only [List.getElem_zip] at hname ⊢
    obtain rfl := hnodup.getElem_inj_iff.mp hname
    rfl

/-- The lines read the values that are wanted, one for each. -/
def Reads (bindings : List Binding) (inputs : Text → Json) (wanted : List Json) : Prop :=
  bindings.map (fun b => run inputs bindings (fun _ => none) b.identifier) = wanted.map some

/-- Where every identifier stands for its input, the lines read what is wanted for some inputs
exactly if the same is wanted for all inputs of one name. -/
theorem KeepInputs.exists_reads_iff (h : KeepInputs bindings) {wanted : List Json}
    (hlength : bindings.length = wanted.length) :
    (∃ inputs, Reads bindings inputs wanted) ↔ Agree (bindings.map Binding.name) wanted := by
  rw [← exists_map_eq_iff (by rw [List.length_map, hlength])]
  refine exists_congr fun inputs => ?_
  have hread : bindings.map (fun b => run inputs bindings (fun _ => none) b.identifier) =
      ((bindings.map Binding.name).map inputs).map some := by
    rw [List.map_map, List.map_map]
    exact List.map_congr_left fun b hb => h inputs _ b hb
  rw [Reads, hread]
  exact (List.map_injective_iff.mpr (Option.some_injective _)).eq_iff

end Binding

namespace Operation

variable {op : Operation}

/-- No parameter of the query has the name of one of the path, and where there is a body no
parameter has its name. -/
def HasOwnNames (op : Operation) : Prop :=
  (∀ p ∈ op.queryParameters, p.name ∉ op.pathParameters.map Parameter.name) ∧
    (op.hasBody = true → ∀ p ∈ op.pathParameters ++ op.queryParameters, p.name ≠ Context.bodyName)

/-- The inputs of an operation have different names if those of the path have, those of the query
have, and no name comes in two places. -/
theorem nodup_inputNames_iff (hpath : (op.pathParameters.map Parameter.name).Nodup)
    (hquery : (op.queryParameters.map Parameter.name).Nodup) :
    ((Input.ofOperation op).map Input.name).Nodup ↔ op.HasOwnNames := by
  rw [← Context.inputNames_eq, Context.inputNames, List.nodup_append, List.nodup_append,
    ← List.map_append]
  constructor
  · rintro ⟨⟨-, -, hplaces⟩, -, hbody⟩
    refine ⟨fun p hp hmem => hplaces _ hmem _ (List.mem_map_of_mem hp) rfl, fun hhas p hp => ?_⟩
    refine hbody _ (List.mem_map_of_mem hp) _ ?_
    rw [if_pos hhas]
    exact List.mem_singleton_self _
  · rintro ⟨hplaces, hbody⟩
    refine ⟨⟨hpath, hquery, ?_⟩, ?_, fun name hname other hother => ?_⟩
    · rintro name hname other hother rfl
      obtain ⟨p, hp, rfl⟩ := List.mem_map.mp hother
      exact hplaces p hp hname
    · split
      · exact List.nodup_singleton _
      · exact List.nodup_nil
    · obtain ⟨p, hp, rfl⟩ := List.mem_map.mp hname
      split at hother
      · rename_i hhas
        obtain rfl := List.mem_singleton.mp hother
        exact hbody hhas p hp
      · cases hother

end Operation

namespace Context

/-- The unit of an operation of a document reads its inputs by their names. No two parameters of the
path have the same name, and no two of the query. All inputs have different names exactly if no name
comes in two places, and exactly then every input can be set on its own. Otherwise inputs of one
name share an identifier, and can be set to the values that are the same for all of them. -/
theorem reads_ofDocument {document : Members} {service : Text} {displayName : Option Text}
    {op : Operation} (hop : op ∈ Operation.ofDocument document service displayName) :
    (op.pathParameters.map Parameter.name).Nodup ∧ (op.queryParameters.map Parameter.name).Nodup ∧
      (((Input.ofOperation op).map Input.name).Nodup ↔ op.HasOwnNames) ∧
      ((∀ p ∈ op.queryParameters, ∀ unit, CodePoint.surrogate unit ∉ p.name) →
        ∃ c, ofOperation op = .ok c ∧
          c.bindings.map Binding.name = (Input.ofOperation op).map Input.name ∧
          Binding.AreInjective c.bindings ∧
          (∀ wanted, c.bindings.length = wanted.length →
            ((∃ inputs, Binding.Reads c.bindings inputs wanted) ↔
              Binding.Agree ((Input.ofOperation op).map Input.name) wanted)) ∧
          ((∀ wanted, c.bindings.length = wanted.length →
            ∃ inputs, Binding.Reads c.bindings inputs wanted) ↔ op.HasOwnNames)) := by
  obtain ⟨_, _, _, _, -, -, -, -, hparameters⟩ := Operation.hasParameters_ofDocument hop
  have hown := Operation.nodup_inputNames_iff hparameters.pathNames hparameters.queryNames
  refine ⟨hparameters.pathNames, hparameters.queryNames, hown, fun hnames => ?_⟩
  obtain ⟨⟨c, hc, hscoped⟩, -⟩ := exists_isScoped hnames
  have hkeep : Binding.KeepInputs c.bindings := Binding.keepInputs_iff.mpr fun a ha b hb =>
    (hscoped.injective a ha b hb).mp
  have hreads : ∀ wanted, c.bindings.length = wanted.length →
      ((∃ inputs, Binding.Reads c.bindings inputs wanted) ↔
        Binding.Agree ((Input.ofOperation op).map Input.name) wanted) := by
    intro wanted hlength
    rw [hkeep.exists_reads_iff hlength, hscoped.names]
  refine ⟨c, hc, hscoped.names, hscoped.injective, hreads, ?_⟩
  rw [← hown, ← Binding.forall_agree_iff, ← hscoped.names, List.length_map]
  refine forall_congr' fun wanted => forall_congr' fun hlength => ?_
  rw [hreads wanted hlength, hscoped.names]

/-- Every input of the sample's operation can be set on its own. -/
theorem reads_sampleDocument :
    ∃ op ∈ Operation.ofDocument Operation.sampleDocument [] none, op.HasOwnNames ∧
      (∀ p ∈ op.queryParameters, ∀ unit, CodePoint.surrogate unit ∉ p.name) ∧
      ∃ c, ofOperation op = .ok c ∧ c.bindings.length = 4 ∧
        ∀ wanted, c.bindings.length = wanted.length →
          ∃ inputs, Binding.Reads c.bindings inputs wanted := by
  obtain ⟨op, hop, hinputs, hchars⟩ : ∃ op ∈ Operation.ofDocument Operation.sampleDocument [] none,
      (Input.ofOperation op).map Input.name = ["id", "x\x7by", "q", "r"].map Text.ofString ∧
      ∀ p ∈ op.queryParameters, ∀ c ∈ p.name, c.toChar?.isSome = true := by
    decide +kernel
  have hnames : ∀ p ∈ op.queryParameters, ∀ unit, CodePoint.surrogate unit ∉ p.name :=
    fun p hp unit hunit => absurd (hchars p hp _ hunit) Bool.false_ne_true
  obtain ⟨-, -, hown, hunit⟩ := reads_ofDocument hop
  have hapart : op.HasOwnNames := hown.mp (by rw [hinputs]; decide +kernel)
  obtain ⟨c, hc, hbound, -, -, hall⟩ := hunit hnames
  have hlength : c.bindings.length = 4 := by
    rw [← List.length_map Binding.name, hbound, hinputs]
    rfl
  exact ⟨op, hop, hapart, hnames, c, hc, hlength, hall.mpr hapart⟩

/-- A document with an operation that has a parameter of the query with the name of one of the path,
and one that has a parameter with the name of the body. -/
def sharedDocument : Members :=
  let declare (name location : String) : Json :=
    .record [("name", .ofString name), ("in", .ofString location)]
  [(Text.ofString "paths", .record [
    ("/a/\x7bid\x7d", .record [("get", .record [
      ("parameters", .array [declare "id" "path", declare "id" "query"])])]),
    ("/b", .record [("post", .record [
      ("parameters", .array [declare "requestBody" "query"]),
      ("requestBody", .record [("description", .ofString "b")])])])])]

/-- Inputs of one operation may have the same name. -/
theorem not_nodup_sharedDocument :
    (Operation.ofDocument sharedDocument (Text.ofString "s") none).map
        (fun op => (Input.ofOperation op).map Input.name) =
      [["id", "id"].map Text.ofString, ["requestBody", "requestBody"].map Text.ofString] ∧
    ¬∀ op ∈ Operation.ofDocument sharedDocument (Text.ofString "s") none,
      ((Input.ofOperation op).map Input.name).Nodup := by
  constructor <;> decide +kernel

end Context

end Toolsmith
