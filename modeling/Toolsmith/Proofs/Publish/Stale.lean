import Toolsmith.Proofs.Publish.Entries
import Toolsmith.Proofs.Registry.Memory
import Toolsmith.Proofs.Text.Pieces

/-!
# Which tools are deleted

Cleaning up deletes tools by their names alone. Every name with three hyphens is taken for that of a
generated tool, whoever gave it, unless it is kept or new. Requests are sent for the tools with such
names and for no other ones, in the order of the list, one for each until there is none left or one
of them stops the run.
-/

namespace Toolsmith.Publish

open Registry (nameOf?)

variable {client : Registry.Client} {w w' : World} {keep new : List Text} {tools : List Members}

/-- A name that is taken for that of a generated tool which is there no longer. -/
def IsStale (keep new : List Text) (name : Text) : Prop :=
  3 ≤ name.count (.char '-') ∧ name ∉ keep ∧ name ∉ new

instance (keep new : List Text) (name : Text) : Decidable (IsStale keep new name) :=
  inferInstanceAs (Decidable (_ ∧ _ ∧ _))

/-- The tools of a list with stale names. -/
def stale (keep new : List Text) (tools : List Members) : List Members :=
  tools.filter fun tool => (nameOf? tool).any fun name => IsStale keep new name

/-- A text is among names that are texts if it is one of them. -/
theorem isAmong_texts (names : List Text) (name : Text) :
    isAmong (names.map .text) (.text name) = .ok (decide (name ∈ names)) := by
  have hany : (names.map Json.text).any (Json.text name).sameKey = decide (name ∈ names) := by
    rw [List.any_map, Bool.eq_iff_iff, List.any_eq_true, decide_eq_true_eq]
    constructor
    · rintro ⟨other, hother, hsame⟩
      exact beq_iff_eq.mp hsame ▸ hother
    · exact fun h => ⟨name, h, beq_self_eq_true name⟩
  rw [isAmong, hany]
  rfl

/-- A name has the shape of a generated one if it has three hyphens. -/
theorem isGenerated_eq (name : Text) :
    Naming.isGenerated name = decide (3 ≤ name.count (.char '-')) := by
  rw [Naming.isGenerated, Text.length_splitOn]
  exact decide_eq_decide.mpr Nat.succ_le_succ_iff

/-- A tool with a name is to be deleted if its name is stale. -/
theorem isDoomed_of_name {tool : Members} {name : Text} (h : nameOf? tool = some name) :
    isDoomed (keep.map .text) (new.map .text) (.object tool) =
      .ok (decide (IsStale keep new name)) := by
  obtain ⟨v, hget, htext⟩ := Option.bind_eq_some_iff.mp h
  obtain rfl : v = .text name := by
    cases v with
    | text t => exact congrArg _ (Option.some.inj htext)
    | _ => cases htext
  rw [isDoomed, hget, Option.getD_some, isAmong_texts, isAmong_texts, isGeneratedName,
    isGenerated_eq]
  by_cases hkeep : name ∈ keep
  · have hfresh : ¬IsStale keep new name := fun hstale => hstale.2.1 hkeep
    rw [decide_eq_true hkeep, decide_eq_false hfresh]
    rfl
  · by_cases hnew : name ∈ new
    · have hfresh : ¬IsStale keep new name := fun hstale => hstale.2.2 hnew
      rw [decide_eq_false hkeep, decide_eq_true hnew, decide_eq_false hfresh]
      rfl
    · have hshape : 3 ≤ name.count (.char '-') ↔ IsStale keep new name :=
        (and_iff_left ⟨hkeep, hnew⟩).symm
      rw [decide_eq_false hkeep, decide_eq_false hnew, decide_eq_decide.mpr hshape]
      rfl

/-- Of tools with names those with stale names are to be deleted. -/
theorem doomed_eq_stale (h : ∀ tool ∈ tools, (nameOf? tool).isSome = true) :
    doomed (keep.map .text) (new.map .text) (tools.map .object) =
      .ok ((stale keep new tools).map .object) := by
  induction tools with
  | nil => rfl
  | cons tool tools ih =>
    obtain ⟨htool, htools⟩ := List.forall_mem_cons.mp h
    obtain ⟨name, hname⟩ := Option.isSome_iff_exists.mp htool
    rw [List.map_cons, doomed, isDoomed_of_name hname, ih htools, stale, stale, List.filter_cons,
      hname, Option.any_some]
    by_cases hstale : IsStale keep new name
    · rw [decide_eq_true hstale, if_pos rfl]
      rfl
    · rw [decide_eq_false hstale, if_neg Bool.false_ne_true]
      rfl

/-- A deletion that stops has sent requests for the tools before the one at which it stops, and
maybe for that one. -/
theorem deleteAll_eq_error {tools : List Json} {sofar : Deletions} {fault : Fault}
    (h : deleteAll client sofar tools w = .error fault w') :
    ∃ done rest log, tools = done ++ rest ∧ List.Forall₂ (Deletes client) done log ∧
      Registry.Talks client log w w' ∧ w'.files = w.files := by
  induction tools generalizing sofar w with
  | nil => cases h
  | cons tool tools ih =>
    have hnone : w' = w → ∃ done rest log, tool :: tools = done ++ rest ∧
        List.Forall₂ (Deletes client) done log ∧ Registry.Talks client log w w' ∧
        w'.files = w.files := by
      rintro rfl
      exact ⟨[], tool :: tools, [], rfl, .nil, .of_sent_eq rfl, rfl⟩
    rcases Action.bind_eq_error.mp h with hneed | ⟨id, v, hneed, h⟩
    · exact hnone (Action.ofExcept_eq_error.mp hneed).2.symm
    obtain ⟨hid, rfl⟩ := Action.ofExcept_eq_ok.mp hneed
    have hdeletes : ∀ {url request},
        Registry.Puts client (Text.ofString "DELETE") (Registry.toolWay id) none url request →
        Deletes client tool ⟨request, client.network w.sent request⟩ :=
      fun hputs => ⟨id, _, need_eq_ok_iff.mp hid, hputs⟩
    rcases Action.bind_eq_error.mp h with hask | ⟨answer, v', hask, hrest⟩
    · rcases Registry.ask_eq_error hask with hsame | ⟨url, request, hputs, -, rfl⟩
      · exact hnone hsame
      · exact ⟨[tool], tools, _, rfl, .cons (hdeletes hputs) .nil,
          Registry.talks_sentOne client w request, rfl⟩
    · obtain ⟨url, request, hputs, -, rfl⟩ := Registry.ask_eq_ok.mp hask
      obtain ⟨done, rest, log, rfl, hlog, htalks, hfiles⟩ := ih hrest
      exact ⟨tool :: done, rest, _, rfl, .cons (hdeletes hputs) hlog,
        (Registry.talks_sentOne client w request).trans htalks, hfiles⟩

/-- Cleaning up sends nothing but requests for the deletion of tools with stale names, in order and
one for each: for all of them if it returns, and for the first of them if it stops. It leaves all
files, and counts the tools for which there is an answer that they are deleted. -/
theorem cleanUp_deletes (client : Registry.Client) (keep new : List Text) (w : World)
    (h : ∀ tool ∈ tools, (nameOf? tool).isSome = true) :
    ∃ done rest log, stale keep new tools = done ++ rest ∧
      List.Forall₂ (fun tool => Deletes client (.object tool)) done log ∧
      Registry.Talks client log w (Action.left
        (cleanUp client (keep.map .text) (new.map .text) (tools.map .object) w)) ∧
      (Action.left (cleanUp client (keep.map .text) (new.map .text) (tools.map .object) w)).files =
        w.files ∧
      ∀ deletions w', cleanUp client (keep.map .text) (new.map .text) (tools.map .object) w =
          .ok deletions w' →
        rest = [] ∧ deletions.deleted = log.countP fun e => e.hasStatus [200, 204] := by
  have hcleanUp : cleanUp client (keep.map .text) (new.map .text) (tools.map .object) =
      deleteAll client ⟨0, 0⟩ ((stale keep new tools).map .object) := by
    rw [cleanUp, doomed_eq_stale h]
    rfl
  rw [hcleanUp]
  cases hrun : deleteAll client ⟨0, 0⟩ ((stale keep new tools).map .object) w with
  | ok deletions w' =>
    obtain ⟨log, hlog, htalks, hfiles, hdeleted⟩ := deleteAll_eq_ok hrun
    refine ⟨stale keep new tools, [], log, (List.append_nil _).symm,
      List.forall₂_map_left_iff.mp hlog, htalks, hfiles, ?_⟩
    rintro _ _ ⟨⟩
    exact ⟨rfl, by rw [hdeleted, Nat.zero_add]⟩
  | error fault w' =>
    obtain ⟨done, rest, log, hsplit, hlog, htalks, hfiles⟩ := deleteAll_eq_error hrun
    obtain ⟨front, back, hparts, rfl, rfl⟩ := List.map_eq_append_iff.mp hsplit
    exact ⟨front, back, log, hparts, List.forall₂_map_left_iff.mp hlog, htalks, hfiles, nofun⟩

/-- Tools of a registry: a generated one that is new, one that is kept, and two that have been made
by hand, with two and with three hyphens in their names. -/
def handmadeTools : List Members :=
  ["A-B-GET-c", "get_workers", "my-own-tool", "my-own-tool-x"].map fun name =>
    [(Text.ofString "id", .ofString name), (Text.ofString "name", .ofString name)]

/-- Of the tools of the registry the one that has been made by hand and has three hyphens in its
name is deleted. -/
theorem cleanUp_deletes_handmade :
    (∀ tool ∈ handmadeTools, (nameOf? tool).isSome = true) ∧
      ∃ deletions w' log, cleanUp Registry.Memory.client
          (["get_workers"].map fun name => .text (Text.ofString name))
          (["A-B-GET-c"].map fun name => .text (Text.ofString name))
          (handmadeTools.map .object) (.ofFiles .empty) = .ok deletions w' ∧
        deletions.deleted = 1 ∧
        List.Forall₂ (fun tool => Deletes Registry.Memory.client (.object tool))
          [[(Text.ofString "id", .ofString "my-own-tool-x"),
            (Text.ofString "name", .ofString "my-own-tool-x")]] log ∧
        Registry.Talks Registry.Memory.client log (.ofFiles .empty) w' := by
  have hnames : ∀ tool ∈ handmadeTools, (nameOf? tool).isSome = true := by decide
  have hchecked : Action.returns
      (cleanUp Registry.Memory.client ((["get_workers"].map Text.ofString).map .text)
        ((["A-B-GET-c"].map Text.ofString).map .text) (handmadeTools.map .object))
      (.ofFiles .empty) (fun deletions _ => deletions.deleted = 1) = true := by
    decide +kernel
  obtain ⟨deletions, w', hrun, hdeleted⟩ := Action.exists_of_returns hchecked
  obtain ⟨done, rest, log, hstale, hlog, htalks, -, hreturns⟩ := cleanUp_deletes
    Registry.Memory.client (["get_workers"].map Text.ofString) (["A-B-GET-c"].map Text.ofString)
    (.ofFiles .empty) hnames
  obtain ⟨rfl, -⟩ := hreturns _ _ hrun
  rw [List.append_nil] at hstale
  rw [hrun] at htalks
  subst hstale
  exact ⟨hnames, deletions, w', log, hrun, of_decide_eq_true hdeleted, hlog, htalks⟩

end Toolsmith.Publish
