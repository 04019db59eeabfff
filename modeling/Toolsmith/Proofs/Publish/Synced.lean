import Toolsmith.Proofs.Publish.Items
import Toolsmith.Proofs.Registry.Store

/-!
# What publishing does to a store

Publishing an item overwrites the fields of the tool of its name, or adds one. After many items the
tools of their names have the fields of the last item of each name, and all other tools are as they
were.
-/

namespace Toolsmith.Publish

open Registry (HasNames toolNamed? nameOf? idOf?)

variable {before middle after tools : List Members} {done more : List (Item × Nat)} {item : Item}

/-- The last item of a name, with its turn. -/
def lastOf? (done : List (Item × Nat)) (name : Text) : Option (Item × Nat) :=
  done.reverse.find? fun p => p.1.name = name

/-- There is no last item of a name if no item has the name. -/
theorem lastOf?_eq_none {name : Text} :
    lastOf? done name = none ↔ ∀ p ∈ done, p.1.name ≠ name := by
  rw [lastOf?, List.find?_eq_none]
  simp

/-- The last item of a name comes from the second of two lists if that has one. -/
theorem lastOf?_append (done more : List (Item × Nat)) (name : Text) :
    lastOf? (done ++ more) name = (lastOf? more name).or (lastOf? done name) := by
  rw [lastOf?, List.reverse_append, List.find?_append]
  rfl

/-- The only item is the last one of its name. -/
theorem lastOf?_singleton (p : Item × Nat) (name : Text) :
    lastOf? [p] name = if p.1.name = name then some p else none := by
  unfold lastOf?
  rw [List.reverse_singleton, List.find?_cons]
  by_cases h : p.1.name = name
  · simp [h]
  · simp [h]

/-- A tool has the fields that it is sent with. -/
def Holds (fields tool : Members) : Prop :=
  ∀ m ∈ fields, Members.get? tool m.1 = some m.2

/-- A tool whose fields have been overwritten has them. -/
theorem holds_overwrite {fields : Members} (h : (fields.map Prod.fst).Nodup) (tool : Members) :
    Holds fields (Members.overwrite fields tool) := by
  intro m hm
  rw [Members.get?_overwrite h, Members.get?_of_mem h hm]
  rfl

/-- The keys of the fields that items are sent with. -/
theorem Item.keys_members (item : Item) (turn : Nat) :
    (item.members turn).map Prod.fst =
      ["name", "description", "schema", "func", "color"].map Text.ofString :=
  rfl

/-- The keys of the fields are distinct. -/
theorem Item.nodup_members (item : Item) (turn : Nat) :
    ((item.members turn).map Prod.fst).Nodup := by
  rw [keys_members]
  decide

/-- A tool that has the fields of an item has its name. -/
theorem Holds.nameOf? {turn : Nat} {tool : Members} (h : Holds (item.members turn) tool) :
    Registry.nameOf? tool = some item.name := by
  have hname := h (Text.ofString "name", .text item.name) List.mem_cons_self
  rw [Registry.nameOf?, hname]
  rfl

/-- A tool whose fields have been overwritten has the identifier that it had. -/
theorem Item.idOf?_overwrite (item : Item) (turn : Nat) (tool : Members) :
    idOf? (Members.overwrite (item.members turn) tool) = idOf? tool := by
  refine Registry.idOf?_overwrite (item.nodup_members turn) ?_ tool
  rw [keys_members]
  decide

/-- The fields of an item are those of a tool that can be sent. -/
theorem Item.isTool (h : item.Encodes) (turn : Nat) : Registry.IsTool (item.members turn) where
  distinct := item.nodup_members turn
  anonymous := by
    rw [keys_members]
    decide
  texts := by
    unfold members
    simp only [List.forall_mem_cons]
    exact ⟨⟨by decide, _, rfl, h.name⟩, ⟨by decide, _, rfl, h.description⟩,
      ⟨by decide, _, rfl, Json.encode_oneLine _⟩, ⟨by decide, _, rfl, h.source⟩,
      ⟨by decide, _, rfl, Text.encode_ofString_isSome _⟩, List.forall_mem_nil _⟩

/-- A store after some items have been published, compared with the store before. Under the name of
an item there is the tool that was there, with the fields of the last item of the name, or else a
new tool with these fields. Under any other name there is what was there. -/
structure Synced (before : List Members) (done : List (Item × Nat)) (after : List Members) :
    Prop where
  names : HasNames after
  kept : ∀ name, lastOf? done name = none → toolNamed? after name = toolNamed? before name
  changed : ∀ name p tool, lastOf? done name = some p → toolNamed? before name = some tool →
    toolNamed? after name = some (Members.overwrite (p.1.members p.2) tool)
  created : ∀ name p, lastOf? done name = some p → toolNamed? before name = none →
    ∃ tool, toolNamed? after name = some tool ∧ Holds (p.1.members p.2) tool

/-- Before the first item a store is as it was. -/
theorem Synced.nil (h : HasNames before) : Synced before [] before where
  names := h
  kept _ _ := rfl
  changed _ _ _ hlast := by cases hlast
  created _ _ hlast := by cases hlast

/-- A tool that was there is there under its name, with its identifier. -/
theorem Synced.exists_toolNamed? {name : Text} {tool : Members} (h : Synced before done after)
    (hbefore : toolNamed? before name = some tool) :
    ∃ tool', toolNamed? after name = some tool' ∧ idOf? tool' = idOf? tool := by
  cases hlast : lastOf? done name with
  | none => exact ⟨tool, (h.kept name hlast).trans hbefore, rfl⟩
  | some p =>
    exact ⟨_, h.changed name p tool hlast hbefore, p.1.idOf?_overwrite p.2 tool⟩

/-- A name under which nothing was found has nothing under it, if it is no item's. -/
theorem Synced.toolNamed?_eq_none {name : Text} (h : Synced before done after)
    (hdone : ∀ p ∈ done, p.1.name ≠ name) (hbefore : toolNamed? before name = none) :
    toolNamed? after name = none :=
  (h.kept name (lastOf?_eq_none.mpr hdone)).trans hbefore

/-- The order of the tools before does not matter. -/
theorem Synced.perm (h : Synced before done after) (hbefore : HasNames before)
    (hperm : before.Perm middle) : Synced middle done after := by
  have hsame := hbefore.toolNamed?_perm hperm
  exact ⟨h.names, fun name hlast => (h.kept name hlast).trans (hsame name),
    fun name p tool hlast hmiddle => h.changed name p tool hlast ((hsame name).trans hmiddle),
    fun name p hlast hmiddle => h.created name p hlast ((hsame name).trans hmiddle)⟩

/-- Some items are published after others. -/
theorem Synced.trans (h : Synced before done middle) (h' : Synced middle more after) :
    Synced before (done ++ more) after := by
  refine ⟨h'.names, fun name hlast => ?_, fun name p tool hlast hbefore => ?_,
    fun name p hlast hbefore => ?_⟩
  · rw [lastOf?_append, Option.or_eq_none_iff] at hlast
    rw [h'.kept name hlast.1, h.kept name hlast.2]
  · rw [lastOf?_append, Option.or_eq_some_iff] at hlast
    rcases hlast with hlast | ⟨hnone, hlast⟩
    · cases hdone : lastOf? done name with
      | none => exact h'.changed name p tool hlast ((h.kept name hdone).trans hbefore)
      | some q =>
        have hmiddle := h.changed name q tool hdone hbefore
        have hlater : Members.overwrite (p.1.members p.2)
            (Members.overwrite (q.1.members q.2) tool) =
              Members.overwrite (p.1.members p.2) tool :=
          Members.overwrite_overwrite (q.1.nodup_members q.2)
            ((p.1.keys_members p.2).trans (q.1.keys_members q.2).symm) tool
        rw [h'.changed name p _ hlast hmiddle, hlater]
    · rw [h'.kept name hnone, h.changed name p tool hlast hbefore]
  · rw [lastOf?_append, Option.or_eq_some_iff] at hlast
    rcases hlast with hlast | ⟨hnone, hlast⟩
    · cases hmiddle : toolNamed? middle name with
      | none => exact h'.created name p hlast hmiddle
      | some tool => exact ⟨_, h'.changed name p tool hlast hmiddle,
          holds_overwrite (p.1.nodup_members p.2) tool⟩
    · rw [h'.kept name hnone]
      exact h.created name p hlast hbefore

/-- One item is published if the tool of its name has its fields and all others stay. -/
theorem Synced.singleton {turn : Nat} (hnames : HasNames after)
    (hothers : ∀ name ≠ item.name, toolNamed? after name = toolNamed? before name)
    (hchanged : ∀ tool, toolNamed? before item.name = some tool →
      toolNamed? after item.name = some (Members.overwrite (item.members turn) tool))
    (hcreated : toolNamed? before item.name = none →
      ∃ tool, toolNamed? after item.name = some tool ∧ Holds (item.members turn) tool) :
    Synced before [(item, turn)] after := by
  have hlast : ∀ {name p}, lastOf? [(item, turn)] name = some p →
      item.name = name ∧ p = (item, turn) := by
    intro name p h
    rw [lastOf?_singleton] at h
    split at h
    · rename_i heq
      exact ⟨heq, (Option.some.inj h).symm⟩
    · cases h
  refine ⟨hnames, fun name hnone => hothers name ?_, fun name p tool h => ?_, fun name p h => ?_⟩
  · rintro rfl
    simp [lastOf?_singleton] at hnone
  · obtain ⟨rfl, rfl⟩ := hlast h
    exact hchanged tool
  · obtain ⟨rfl, rfl⟩ := hlast h
    exact hcreated

/-- One item is published by overwriting the fields of the tool of its name. -/
theorem Synced.of_change {tool : Members} {others : List Members} {turn : Nat}
    (h : HasNames before) (hname : nameOf? tool = some item.name)
    (hbefore : before.Perm (tool :: others))
    (hafter : after.Perm (Members.overwrite (item.members turn) tool :: others)) :
    Synced before [(item, turn)] after := by
  have hnew : nameOf? (Members.overwrite (item.members turn) tool) = some item.name :=
    (holds_overwrite (item.nodup_members turn) tool).nameOf?
  obtain ⟨hothers, hnone⟩ := (h.perm hbefore).of_cons
  have hnames := (hothers.cons hnew (hnone item.name hname)).perm hafter.symm
  have hfound := h.toolNamed?_eq_some.mpr ⟨hbefore.mem_iff.mpr List.mem_cons_self, hname⟩
  refine .singleton hnames (fun name hne => ?_) (fun old hold => ?_) fun hnot => ?_
  · rw [hnames.toolNamed?_perm hafter, h.toolNamed?_perm hbefore, Registry.toolNamed?_cons,
      Registry.toolNamed?_cons, hnew, hname, if_neg (by simpa using hne.symm),
      if_neg (by simpa using hne.symm)]
  · obtain rfl : tool = old := Option.some.inj (hfound.symm.trans hold)
    exact hnames.toolNamed?_eq_some.mpr ⟨hafter.mem_iff.mpr List.mem_cons_self, hnew⟩
  · rw [hfound] at hnot
    cases hnot

/-- One item is published by adding a tool with its fields, where none has its name. -/
theorem Synced.of_create {tool : Members} {turn : Nat} (h : HasNames before)
    (hnone : toolNamed? before item.name = none) (htool : Holds (item.members turn) tool)
    (hafter : after.Perm (tool :: before)) : Synced before [(item, turn)] after := by
  have hnames := (h.cons htool.nameOf? hnone).perm hafter.symm
  refine .singleton hnames (fun name hne => ?_) (fun old hold => ?_) fun _ => ?_
  · rw [hnames.toolNamed?_perm hafter, Registry.toolNamed?_cons, htool.nameOf?,
      if_neg (by simpa using hne.symm)]
  · rw [hnone] at hold
    cases hold
  · have hmem := hafter.mem_iff.mpr List.mem_cons_self
    exact ⟨tool, hnames.toolNamed?_eq_some.mpr ⟨hmem, htool.nameOf?⟩, htool⟩

/-- Where all tools of items are there with their last fields, publishing the items again changes
nothing. -/
theorem Synced.perm_of_again (h : Synced before done after) (h' : Synced after done tools) :
    tools.Perm after := by
  refine h'.names.perm_of_toolNamed? h.names fun name => ?_
  cases hlast : lastOf? done name with
  | none => exact h'.kept name hlast
  | some p =>
    obtain ⟨tool, htool, hholds⟩ : ∃ tool, toolNamed? after name = some tool ∧
        Holds (p.1.members p.2) tool := by
      cases hbefore : toolNamed? before name with
      | none => exact h.created name p hlast hbefore
      | some tool => exact ⟨_, h.changed name p tool hlast hbefore,
          holds_overwrite (p.1.nodup_members p.2) tool⟩
    rw [h'.changed name p tool hlast htool, htool, Members.overwrite_eq_self hholds]

end Toolsmith.Publish
