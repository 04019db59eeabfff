import Mathlib.Data.List.Nodup
import Toolsmith.Naming.Distinct
import Toolsmith.Proofs.Text.Numeral

/-!
# Given names are distinct

Among more numbers than there are names taken, one makes a free name. So every name that is given
is new, and the tools of a service have names of their own. Their characters are those of
identifiers and the hyphen.
-/

namespace Toolsmith

/-- The digits of different numbers differ. -/
theorem Text.ofNat_injective {m n : Nat} (h : ofNat m = ofNat n) : m = n := by
  rw [← digitsValue_ofNat m, h, digitsValue_ofNat]

namespace Naming

/-- Different numbers make different names. -/
theorem numbered_injective {name : Text} {m n : Nat} (h : numbered name m = numbered name n) :
    m = n := by
  have hsuffix := List.append_cancel_left h
  exact Text.ofNat_injective (List.cons.inj hsuffix).2

/-- The search ends with a free name, or has seen taken ones only. -/
theorem firstFree_spec (taken : List Text) (name : Text) (fuel number : Nat) :
    numbered name (firstFree taken name fuel number) ∉ taken ∨
      ∀ k < fuel, numbered name (number + k) ∈ taken := by
  induction fuel generalizing number with
  | zero => exact .inr fun k hk => absurd hk (Nat.not_lt_zero k)
  | succ fuel ih =>
    unfold firstFree
    split
    · rename_i htaken
      rcases ih (number + 1) with hfree | hseen
      · exact .inl hfree
      · refine .inr fun k hk => ?_
        cases k with
        | zero => exact List.contains_iff_mem.mp htaken
        | succ k =>
          have hmem := hseen k (by omega)
          rwa [Nat.add_assoc, Nat.add_comm 1 k] at hmem
    · rename_i hfree
      exact .inl fun hmem => hfree (List.contains_iff_mem.mpr hmem)

/-- Among more numbers than there are names taken, one makes a free name. -/
theorem firstFree_not_mem {taken : List Text} {fuel : Nat} (h : taken.length < fuel) (name : Text)
    (number : Nat) : numbered name (firstFree taken name fuel number) ∉ taken := by
  rcases firstFree_spec taken name fuel number with hfree | hseen
  · exact hfree
  · have hnodup : ((List.range fuel).map fun k => numbered name (number + k)).Nodup := by
      refine List.nodup_range.map fun j k hjk => ?_
      have hnumber := numbered_injective hjk
      omega
    have hsubset : ((List.range fuel).map fun k => numbered name (number + k)) ⊆ taken := by
      intro other hother
      obtain ⟨k, hk, rfl⟩ := List.mem_map.mp hother
      exact hseen k (List.mem_range.mp hk)
    have hlength := hnodup.length_le_of_subset hsubset
    rw [List.length_map, List.length_range] at hlength
    omega

/-- A name that is given is new, and it is taken from then on. -/
theorem Taken.give_spec (taken : Taken) (wish : Text) :
    (taken.give wish).1 ∉ taken.names ∧
      (taken.give wish).2.names = (taken.give wish).1 :: taken.names := by
  unfold give
  split
  · exact ⟨firstFree_not_mem (Nat.lt_succ_self _) wish _, rfl⟩
  · rename_i hfree
    exact ⟨fun hmem => hfree (List.contains_iff_mem.mpr hmem), rfl⟩

/-- Names that are given are new and distinct. -/
theorem nodup_distinctAfter (taken : Taken) (wishes : List Text) :
    (distinctAfter taken wishes).Nodup ∧ ∀ name ∈ distinctAfter taken wishes, name ∉ taken.names := by
  induction wishes generalizing taken with
  | nil => exact ⟨List.nodup_nil, nofun⟩
  | cons wish wishes ih =>
    obtain ⟨hnew, htaken⟩ := taken.give_spec wish
    obtain ⟨hnodup, hrest⟩ := ih (taken.give wish).2
    rw [htaken] at hrest
    simp only [List.mem_cons, not_or] at hrest
    refine ⟨List.nodup_cons.mpr ⟨fun hmem => (hrest _ hmem).1 rfl, hnodup⟩, ?_⟩
    intro name hname
    rcases List.mem_cons.mp hname with rfl | hname
    · exact hnew
    · exact (hrest name hname).2

/-- Names for wishes are distinct. -/
theorem nodup_distinct (wishes : List Text) : (distinct wishes).Nodup :=
  (nodup_distinctAfter ⟨[], []⟩ wishes).1

/-- Every wish gets a name. -/
theorem length_distinctAfter (taken : Taken) (wishes : List Text) :
    (distinctAfter taken wishes).length = wishes.length := by
  induction wishes generalizing taken with
  | nil => rfl
  | cons wish wishes ih => exact congrArg (· + 1) (ih _)

/-- A code point that the names of tools may hold. -/
def IsNamePoint (c : CodePoint) : Prop :=
  (isIdPoint c || c == .char '-') = true

/-- Numbered names hold nothing new but the underscore and digits. -/
theorem isNamePoint_numbered {name : Text} (h : ∀ c ∈ name, IsNamePoint c) (number : Nat) :
    ∀ c ∈ numbered name number, IsNamePoint c := by
  intro c hc
  rcases List.mem_append.mp hc with hc | hc
  · exact h c hc
  · rcases List.mem_cons.mp hc with rfl | hc
    · rfl
    · obtain ⟨d, hd, rfl⟩ := Text.mem_ofNat hc
      simp [IsNamePoint, isIdPoint, Text.isAsciiDigit_digitPoint hd]

/-- Names hold what the wishes hold, the underscore and digits. -/
theorem isNamePoint_distinctAfter (taken : Taken) {wishes : List Text}
    (h : ∀ wish ∈ wishes, ∀ c ∈ wish, IsNamePoint c) :
    ∀ name ∈ distinctAfter taken wishes, ∀ c ∈ name, IsNamePoint c := by
  induction wishes generalizing taken with
  | nil => nofun
  | cons wish wishes ih =>
    obtain ⟨hwish, hrest⟩ := List.forall_mem_cons.mp h
    have hgiven : ∀ c ∈ (taken.give wish).1, IsNamePoint c := by
      unfold Taken.give
      split
      · exact isNamePoint_numbered hwish _
      · exact hwish
    exact List.forall_mem_cons.mpr ⟨hgiven, ih _ hrest⟩

/-- A cleaned name holds nothing but name points. -/
theorem isNamePoint_clean (name : Text) : ∀ c ∈ clean name, IsNamePoint c := by
  intro c hc
  obtain ⟨d, -, rfl⟩ := List.mem_map.mp hc
  split
  · assumption
  · rfl

/-- The operations keep everything but their tool names, which are distinct. -/
theorem map_toolName_nameAll (operations : List Operation) :
    (nameAll operations).map Operation.toolName = distinct (operations.map sharedName) := by
  have hlength : (distinct (operations.map sharedName)).length = operations.length := by
    rw [distinct, length_distinctAfter, List.length_map]
  unfold nameAll
  rw [List.map_map]
  exact List.map_snd_zip (Nat.le_of_eq hlength)

/-- The tool names of named operations are distinct. -/
theorem nodup_nameAll (operations : List Operation) :
    ((nameAll operations).map Operation.toolName).Nodup := by
  rw [map_toolName_nameAll]
  exact nodup_distinct _

/-- The tool names of named operations hold nothing but name points. -/
theorem isNamePoint_nameAll {operations : List Operation} {op : Operation}
    (h : op ∈ nameAll operations) : ∀ c ∈ op.toolName, IsNamePoint c := by
  have hname : op.toolName ∈ distinct (operations.map sharedName) := by
    rw [← map_toolName_nameAll]
    exact List.mem_map_of_mem h
  refine isNamePoint_distinctAfter _ (fun wish hwish => ?_) _ hname
  obtain ⟨other, -, rfl⟩ := List.mem_map.mp hwish
  exact isNamePoint_clean _

/-- Every operation is named. -/
theorem length_nameAll (operations : List Operation) :
    (nameAll operations).length = operations.length := by
  rw [← List.length_map (f := Operation.toolName), map_toolName_nameAll, distinct,
    length_distinctAfter, List.length_map]

end Naming

end Toolsmith
