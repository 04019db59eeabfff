import Mathlib.Order.Bounds.Basic
import Toolsmith.Proofs.Naming.Distinct

/-!
# The least free number

A name that is taken gets a number. Nothing bounds the search for it, which ends because different
numbers make different names and only so many names are taken. The counter of a name goes on from
the number it was given last. Other names may have come in between, but no name is ever given back,
so every number up to the counter stays taken, and a search from one would end at the same number.
-/

namespace Toolsmith.Naming

variable {taken given other wishes names : List Text} {wish name : Text}

/-- A search for a free number, without a bound: from a number on it passes over those whose names
are taken, and it ends at the first one whose name is not. -/
inductive Search (taken : List Text) (name : Text) : Nat → Nat → Prop
  | stop {number : Nat} (hfree : numbered name number ∉ taken) : Search taken name number number
  | next {number last : Nat} (htaken : numbered name number ∈ taken)
      (hrest : Search taken name (number + 1) last) : Search taken name number last

/-- A search ends at the least number that is free. -/
theorem Search.isLeast {number last : Nat} (h : Search taken name number last) :
    IsLeast {k | number ≤ k ∧ numbered name k ∉ taken} last := by
  induction h with
  | stop hfree => exact ⟨⟨Nat.le_refl _, hfree⟩, fun k hk => hk.1⟩
  | @next number last htaken _ ih =>
    refine ⟨⟨by have := ih.1.1; omega, ih.1.2⟩, fun k hk => ih.2 ⟨?_, hk.2⟩⟩
    have hne : k ≠ number := by
      rintro rfl
      exact hk.2 htaken
    have hle := hk.1
    omega

/-- Every search ends, and the bounded one ends where it does. -/
theorem search_firstFree {fuel : Nat} (h : taken.length < fuel) (name : Text) (number : Nat) :
    Search taken name number (firstFree taken name fuel number) := by
  -- the bound is not reached, since the number that is found is free
  have hfree := firstFree_not_mem h name number
  clear h
  induction fuel generalizing number with
  | zero => exact .stop hfree
  | succ fuel ih =>
    unfold firstFree at hfree ⊢
    split at hfree
    · rename_i htaken
      rw [if_pos htaken]
      exact .next (List.contains_iff_mem.mp htaken) (ih _ hfree)
    · rename_i hnot
      rw [if_neg hnot]
      exact .stop hfree

/-- A search ends at one number only. -/
theorem Search.eq_firstFree {number last : Nat} (h : Search taken name number last) :
    last = firstFree taken name (taken.length + 1) number :=
  h.isLeast.unique (search_firstFree (Nat.lt_succ_self _) name number).isLeast

/-- A run that gives names for wishes one after another: a wish is kept if it is new, and otherwise
numbered by a search that goes on from the counter of the wish. -/
inductive Runs : Taken → List Text → List Text → Prop
  | done {taken : Taken} : Runs taken [] []
  | keep {taken : Taken} {wish : Text} {wishes names : List Text} (hnew : wish ∉ taken.names)
      (hrest : Runs ⟨wish :: taken.names, taken.counters⟩ wishes names) :
      Runs taken (wish :: wishes) (wish :: names)
  | number {taken : Taken} {wish : Text} {wishes names : List Text} {last : Nat}
      (htaken : wish ∈ taken.names)
      (hsearch : Search taken.names wish (taken.counter wish + 1) last)
      (hrest : Runs ⟨numbered wish last :: taken.names, (wish, last) :: taken.counters⟩
        wishes names) :
      Runs taken (wish :: wishes) (numbered wish last :: names)

/-- A wish that is new is kept. -/
theorem Taken.give_of_not_mem {taken : Taken} (h : wish ∉ taken.names) :
    taken.give wish = (wish, ⟨wish :: taken.names, taken.counters⟩) := by
  unfold give
  rw [if_neg fun hmem => h (List.contains_iff_mem.mp hmem)]

/-- A wish that is taken is numbered by a search from its counter. -/
theorem Taken.give_of_search {taken : Taken} {last : Nat} (h : wish ∈ taken.names)
    (hsearch : Search taken.names wish (taken.counter wish + 1) last) :
    taken.give wish = (numbered wish last,
      ⟨numbered wish last :: taken.names, (wish, last) :: taken.counters⟩) := by
  unfold give
  rw [if_pos (List.contains_iff_mem.mpr h), ← hsearch.eq_firstFree]

/-- Every run ends, and with the names that are given. -/
theorem runs_iff {taken : Taken} :
    Runs taken wishes names ↔ names = distinctAfter taken wishes := by
  constructor
  · intro h
    induction h with
    | done => rfl
    | keep hnew _ ih => rw [distinctAfter, Taken.give_of_not_mem hnew, ih]
    | number htaken hsearch _ ih => rw [distinctAfter, Taken.give_of_search htaken hsearch, ih]
  · rintro rfl
    induction wishes generalizing taken with
    | nil => exact .done
    | cons wish wishes ih =>
      rw [distinctAfter]
      by_cases hmem : wish ∈ taken.names
      · have hsearch := search_firstFree (Nat.lt_succ_self taken.names.length) wish
          (taken.counter wish + 1)
        rw [Taken.give_of_search hmem hsearch]
        exact .number hmem hsearch ih
      · rw [Taken.give_of_not_mem hmem]
        exact .keep hmem ih

/-- The name of a wish where others are given already: the wish itself if it is new, and otherwise
the wish with the least positive number that makes it new. -/
def IsLeastName (given : List Text) (wish name : Text) : Prop :=
  (wish ∉ given ∧ name = wish) ∨
    (wish ∈ given ∧ ∃ k, IsLeast {k | 0 < k ∧ numbered wish k ∉ given} k ∧ name = numbered wish k)

/-- Which name is the least depends only on what is given. -/
theorem IsLeastName.congr (h : IsLeastName given wish name) (hsame : ∀ t, t ∈ given ↔ t ∈ other) :
    IsLeastName other wish name := by
  unfold IsLeastName at h ⊢
  simpa only [hsame] using h

/-- There is one least name. -/
theorem IsLeastName.unique {name' : Text} (h : IsLeastName given wish name)
    (h' : IsLeastName given wish name') : name = name' := by
  obtain ⟨hnew, rfl⟩ | ⟨hold, k, hleast, rfl⟩ := h
  · obtain ⟨-, rfl⟩ | ⟨hold, -⟩ := h'
    · rfl
    · exact absurd hold hnew
  · obtain ⟨hnew, -⟩ | ⟨-, k', hleast', rfl⟩ := h'
    · exact absurd hold hnew
    · rw [hleast.unique hleast']

/-- A number that is given to a name is its counter. -/
theorem Taken.counter_cons (taken : Taken) (names : List Text) (wish name : Text) (last : Nat) :
    Taken.counter ⟨names, (wish, last) :: taken.counters⟩ name =
      if name = wish then last else taken.counter name := by
  unfold Taken.counter
  rw [List.lookup_cons]
  split
  · rename_i hname
    rw [if_pos (beq_iff_eq.mp hname), Option.getD_some]
  · rename_i hname
    rw [if_neg (beq_eq_false_iff_ne.mp hname)]

/-- All numbers of a name up to its counter are taken. -/
def Taken.IsCounted (taken : Taken) : Prop :=
  ∀ name k, 0 < k → k ≤ taken.counter name → numbered name k ∈ taken.names

/-- The name that is given is the least one, and the counters stay behind taken numbers. -/
theorem Taken.IsCounted.give {taken : Taken} (h : taken.IsCounted) (wish : Text) :
    IsLeastName taken.names wish (taken.give wish).1 ∧ (taken.give wish).2.IsCounted := by
  by_cases hmem : wish ∈ taken.names
  · have hsearch := search_firstFree (Nat.lt_succ_self taken.names.length) wish
      (taken.counter wish + 1)
    generalize firstFree _ _ _ _ = last at hsearch
    rw [Taken.give_of_search hmem hsearch]
    obtain ⟨⟨hle, hfree⟩, hlower⟩ := hsearch.isLeast
    have hleast : IsLeast {k | 0 < k ∧ numbered wish k ∉ taken.names} last := by
      refine ⟨⟨by omega, hfree⟩, fun k hk => hlower ⟨?_, hk.2⟩⟩
      by_contra hbehind
      exact hk.2 (h wish k hk.1 (by omega))
    refine ⟨.inr ⟨hmem, last, hleast, rfl⟩, fun name k hpos hk => ?_⟩
    rw [Taken.counter_cons] at hk
    split at hk
    · subst name
      -- a number below the one that is given is taken, since that one is the least free number
      by_contra hfree
      obtain ⟨hne, hfree⟩ := List.ne_and_not_mem_of_not_mem_cons hfree
      have hlast : last ≤ k := hleast.2 ⟨hpos, hfree⟩
      exact hne (congrArg (numbered wish) (Nat.le_antisymm hk hlast))
    · exact List.mem_cons_of_mem _ (h name k hpos hk)
  · rw [Taken.give_of_not_mem hmem]
    exact ⟨.inl ⟨hmem, rfl⟩, fun name k hpos hk => List.mem_cons_of_mem _ (h name k hpos hk)⟩

/-- What names for wishes are that are the least ones, one after another. -/
structure AreLeast (wishes names : List Text) : Prop where
  /-- Every wish has a name. -/
  length : names.length = wishes.length
  /-- It is the least one where those before it are given. -/
  least : ∀ i wish name, wishes[i]? = some wish → names[i]? = some name →
    IsLeastName (names.take i) wish name

/-- The names that are given after others are the least ones. -/
theorem Taken.IsCounted.isLeastName {taken : Taken} (h : taken.IsCounted) {i : Nat}
    (hwish : wishes[i]? = some wish) (hname : (distinctAfter taken wishes)[i]? = some name) :
    IsLeastName ((distinctAfter taken wishes).take i ++ taken.names) wish name := by
  induction wishes generalizing taken i with
  | nil => simp at hwish
  | cons first wishes ih =>
    obtain ⟨hleast, hcounted⟩ := h.give first
    rw [distinctAfter] at hname ⊢
    cases i with
    | zero =>
      simp only [List.getElem?_cons_zero, Option.some.injEq] at hwish hname
      rw [← hwish, ← hname]
      exact hleast
    | succ i =>
      rw [List.getElem?_cons_succ] at hwish hname
      refine (ih hcounted hwish hname).congr fun t => ?_
      rw [(taken.give_spec first).2]
      simp only [List.take_succ_cons, List.mem_append, List.mem_cons]
      tauto

/-- Least names are the same for the same wishes. -/
theorem AreLeast.unique {names' : List Text} (h : AreLeast wishes names)
    (h' : AreLeast wishes names') : names = names' := by
  refine List.ext_getElem? fun i => ?_
  induction i using Nat.strongRecOn with
  | ind i ih =>
    have htake : names.take i = names'.take i := by
      refine List.ext_getElem? fun j => ?_
      rw [List.getElem?_take, List.getElem?_take]
      split
      · rename_i hlt
        exact ih j hlt
      · rfl
    by_cases hi : i < wishes.length
    · have hlength : i < names.length := by rw [h.length]; exact hi
      have hlength' : i < names'.length := by rw [h'.length]; exact hi
      have hleast := h.least i _ _ (List.getElem?_eq_getElem hi) (List.getElem?_eq_getElem hlength)
      have hleast' := h'.least i _ _ (List.getElem?_eq_getElem hi)
        (List.getElem?_eq_getElem hlength')
      rw [htake] at hleast
      rw [List.getElem?_eq_getElem hlength, List.getElem?_eq_getElem hlength',
        hleast.unique hleast']
    · have hlength : names.length ≤ i := by rw [h.length]; omega
      have hlength' : names'.length ≤ i := by rw [h'.length]; omega
      rw [List.getElem?_eq_none hlength, List.getElem?_eq_none hlength']

/-- Distinct names are the least ones. -/
theorem areLeast_distinct (wishes : List Text) : AreLeast wishes (distinct wishes) := by
  have hcounted : Taken.IsCounted ⟨[], []⟩ := fun name k hpos hk =>
    absurd (Nat.lt_of_lt_of_le hpos hk) (Nat.lt_irrefl 0)
  refine ⟨length_distinctAfter _ wishes, fun i wish name hwish hname => ?_⟩
  have hleast := hcounted.isLeastName hwish hname
  rwa [List.append_nil] at hleast

/-- The first ones of least names are the least names of the first wishes. -/
theorem AreLeast.take (h : AreLeast wishes names) (n : Nat) :
    AreLeast (wishes.take n) (names.take n) := by
  refine ⟨by rw [List.length_take, List.length_take, h.length], fun i wish name hwish hname => ?_⟩
  rw [List.getElem?_take, Option.ite_none_right_eq_some] at hwish hname
  have htake : (names.take n).take i = names.take i := by
    rw [List.take_take, Nat.min_eq_left (Nat.le_of_lt hwish.1)]
  rw [htake]
  exact h.least i wish name hwish.2 hname.2

/-- Names that differ are the least ones for themselves. -/
theorem areLeast_self (h : names.Nodup) : AreLeast names names := by
  refine ⟨rfl, fun i wish name hwish hname => ?_⟩
  obtain rfl : wish = name := Option.some.inj (hwish.symm.trans hname)
  refine .inl ⟨fun hmem => ?_, rfl⟩
  obtain ⟨j, hj⟩ := List.mem_iff_getElem?.mp hmem
  rw [List.getElem?_take, Option.ite_none_right_eq_some] at hj
  obtain ⟨hi, -⟩ := List.getElem?_eq_some_iff.mp hwish
  exact List.nodup_iff_getElem?_ne_getElem?.mp h j i hj.1 hi (hj.2.trans hwish.symm)

/-- Giving names ends for every list of wishes. The names are distinct, and each is the wish itself
or the wish with the least positive number that makes it new, as if every search began at one. So
the names of the first wishes are the first names, and names that are distinct are kept. -/
theorem distinct_spec (wishes : List Text) :
    (∀ names, Runs ⟨[], []⟩ wishes names ↔ names = distinct wishes) ∧
      AreLeast wishes (distinct wishes) ∧ (distinct wishes).Nodup ∧
      (∀ n, distinct (wishes.take n) = (distinct wishes).take n) ∧
      distinct (distinct wishes) = distinct wishes := by
  have hleast := areLeast_distinct wishes
  refine ⟨fun names => runs_iff, hleast, nodup_distinct wishes, fun n => ?_, ?_⟩
  · exact (areLeast_distinct _).unique (hleast.take n)
  · exact (areLeast_distinct _).unique (areLeast_self (nodup_distinct wishes))

example : distinct (["A", "A", "A_1", "A"].map Text.ofString) =
    ["A", "A_1", "A_1_1", "A_2"].map Text.ofString := by
  decide

end Toolsmith.Naming
