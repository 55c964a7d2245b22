import Mathlib.Data.List.Nodup
import Mathlib.Data.List.Perm.Basic
import Mathlib.Data.List.Range
import Mathlib.Logic.Function.Basic

/-!
# Pools of slots

A pool is a row of slots, each with a flag that says whether it is in use and room for data.
Beside it stands an account of who holds what: the slots handed out and not given back, each with
the data put into it.  The file says what taking a slot and giving it back do to the account.
-/

namespace AntennaMgmt.Lib

variable {α : Type*}

/-- The account agrees with the pool: no slot is held twice, the slots in use are those held, and
what was put into a slot is still at the front of it. -/
structure Accounts (inUse : List Bool) (data : ℕ → List α) (held : List (ℕ × List α)) : Prop where
  distinct : (held.map Prod.fst).Nodup
  inUse_iff : ∀ i, inUse[i]? = some true ↔ i ∈ held.map Prod.fst
  contents : ∀ p ∈ held, p.2 <+: data p.1

namespace Accounts

variable {inUse : List Bool} {data : ℕ → List α} {held : List (ℕ × List α)} {i : ℕ}

/-- Nobody holds a slot of an unused pool. -/
lemma unused (n : ℕ) (data : ℕ → List α) : Accounts (List.replicate n false) data [] where
  distinct := List.nodup_nil
  inUse_iff := by
    intro i
    simp [List.getElem?_replicate]
  contents := by simp

/-- A free slot is taken and data are put into it. -/
lemma take (h : Accounts inUse data held) (hfree : inUse[i]? = some false) (xs rest : List α) :
    Accounts (inUse.set i true) (Function.update data i (xs ++ rest)) ((i, xs) :: held) := by
  have hlt : i < inUse.length := (List.getElem?_eq_some_iff.1 hfree).1
  have hnot : i ∉ held.map Prod.fst := by
    intro hmem
    have htrue := (h.inUse_iff i).2 hmem
    rw [hfree] at htrue
    cases htrue
  refine ⟨?_, ?_, ?_⟩
  · rw [List.map_cons, List.nodup_cons]
    exact ⟨hnot, h.distinct⟩
  · intro j
    rw [List.map_cons, List.mem_cons, List.getElem?_set]
    split_ifs with hij
    · simp [hij]
    · rw [h.inUse_iff j]
      simp [Ne.symm hij]
  · rintro p hp
    rcases List.mem_cons.1 hp with rfl | hold
    · rw [Function.update_self]
      exact List.prefix_append xs rest
    · have hne : p.1 ≠ i := by
        rintro rfl
        exact hnot (List.mem_map_of_mem hold)
      rw [Function.update_of_ne hne]
      exact h.contents p hold

/-- A slot is given back. -/
lemma give (h : Accounts inUse data held) (i : ℕ) :
    Accounts (inUse.set i false) data (held.filter fun p => p.1 ≠ i) := by
  refine ⟨?_, ?_, ?_⟩
  · exact h.distinct.sublist (List.filter_sublist.map _)
  · intro j
    have hmem : j ∈ (held.filter fun p => p.1 ≠ i).map Prod.fst ↔
        j ∈ held.map Prod.fst ∧ j ≠ i := by
      simp only [List.mem_map, List.mem_filter, decide_eq_true_eq]
      constructor
      · rintro ⟨p, ⟨hp, hne⟩, rfl⟩
        exact ⟨⟨p, hp, rfl⟩, hne⟩
      · rintro ⟨⟨p, hp, rfl⟩, hne⟩
        exact ⟨p, ⟨hp, hne⟩, rfl⟩
    rw [hmem, List.getElem?_set, ← h.inUse_iff j]
    split_ifs with hij hin
    · simp [hij]
    · simp [hij]
    · simp [Ne.symm hij]
  · intro p hp
    exact h.contents p (List.mem_of_mem_filter hp)

/-- When no slot is free, as many are held as there are. -/
lemma length_eq (h : Accounts inUse data held) (hfull : false ∉ inUse) :
    held.length = inUse.length := by
  have hperm : (held.map Prod.fst).Perm (List.range inUse.length) := by
    refine (List.perm_ext_iff_of_nodup h.distinct List.nodup_range).2 fun j => ?_
    rw [← h.inUse_iff j, List.mem_range]
    constructor
    · intro hj
      exact (List.getElem?_eq_some_iff.1 hj).1
    · intro hj
      have hne : inUse[j] ≠ false := fun hfalse => hfull (hfalse ▸ List.getElem_mem hj)
      rw [List.getElem?_eq_getElem hj, Bool.of_not_eq_false hne]
  rw [← List.length_map (f := Prod.fst), hperm.length_eq, List.length_range]

end Accounts

end AntennaMgmt.Lib
