import Mathlib.Data.Fin.Tuple.Basic
import Mathlib.Data.Fintype.Card
import Mathlib.Logic.Function.Basic

/-!
# Tables of keyed slots

A table is a function from the slots to their contents.  Some slots are in use, and the ones
in use carry a key.  The file says what writing one slot does to the facts such tables are kept
for: that no key stands in two used slots, whether some slot has a property, and how many
slots are in use.
-/

namespace AntennaMgmt.Lib

variable {ι α κ : Type*} {used : α → Bool} {key : α → κ} {t : ι → α} {i : ι} {a : α}

/-- The first slot that satisfies the test.  Irreducible, so that nothing unrolls the search on
a table that is not given. -/
@[irreducible] def findSlot {n : ℕ} (p : Fin n → Bool) : Option (Fin n) := Fin.find? p

lemma findSlot_some {n : ℕ} {p : Fin n → Bool} {i : Fin n} (h : findSlot p = some i) :
    p i = true := by
  rw [findSlot] at h
  exact (Fin.find?_eq_some_iff.1 h).1

lemma findSlot_none {n : ℕ} {p : Fin n → Bool} (h : findSlot p = none) (i : Fin n) :
    p i = false := by
  rw [findSlot] at h
  exact Fin.find?_eq_none_iff.1 h i

/-- No slot before the one found satisfies the test. -/
lemma findSlot_le {n : ℕ} {p : Fin n → Bool} {i j : Fin n} (h : findSlot p = some i)
    (hj : p j = true) : i ≤ j := by
  rw [findSlot] at h
  by_contra hlt
  have hfalse := (Fin.find?_eq_some_iff.1 h).2 j (not_le.1 hlt)
  rw [hj] at hfalse
  cases hfalse

/-- The search finds the slot when it is the only one that satisfies the test. -/
lemma findSlot_of_unique {n : ℕ} {p : Fin n → Bool} {i : Fin n} (hi : p i = true)
    (hunique : ∀ j, p j = true → j = i) : findSlot p = some i := by
  cases h : findSlot p with
  | none =>
    rw [findSlot_none h i] at hi
    cases hi
  | some j => rw [hunique j (findSlot_some h)]

/-- No key stands in two used slots. -/
def KeysDistinct (used : α → Bool) (key : α → κ) (t : ι → α) : Prop :=
  ∀ i j, used (t i) → used (t j) → key (t i) = key (t j) → i = j

/-- A table without used slots. -/
lemma KeysDistinct.of_unused (h : ∀ i, used (t i) = false) : KeysDistinct used key t := by
  intro i j hi _ _
  simp [h i] at hi

section Update

variable [DecidableEq ι]

/-- Writing a slot keeps the keys distinct when no other used slot has the new key. -/
lemma KeysDistinct.update (h : KeysDistinct used key t)
    (ha : used a → ∀ j ≠ i, used (t j) → key (t j) ≠ key a) :
    KeysDistinct used key (Function.update t i a) := by
  intro j k hj hk hkey
  rcases eq_or_ne j i with rfl | hji <;> rcases eq_or_ne k j with rfl | hkj
  · rfl
  · rw [Function.update_self] at hj hkey
    rw [Function.update_of_ne hkj] at hk hkey
    exact absurd hkey.symm (ha hj k hkj hk)
  · rfl
  · rw [Function.update_of_ne hji] at hj hkey
    rcases eq_or_ne k i with rfl | hki
    · rw [Function.update_self] at hk hkey
      exact absurd hkey (ha hk j hji hj)
    · rw [Function.update_of_ne hki] at hk hkey
      exact h j k hj hk hkey

/-- Freeing a slot keeps the keys distinct. -/
lemma KeysDistinct.update_unused (h : KeysDistinct used key t) (ha : used a = false) :
    KeysDistinct used key (Function.update t i a) :=
  h.update fun hused => by simp [ha] at hused

/-- Rewriting a used slot under its own key keeps the keys distinct. -/
lemma KeysDistinct.update_same (h : KeysDistinct used key t) (hi : used (t i))
    (hkey : key a = key (t i)) : KeysDistinct used key (Function.update t i a) := by
  refine h.update fun _ j hji hj hja => hji (h j i hj hi ?_)
  rw [hja, hkey]

end Update

/-- Some slot satisfies `P`. -/
def Somewhere (P : α → Prop) (t : ι → α) : Prop := ∃ i, P (t i)

/-- Some slot other than `i` satisfies `P`. -/
def Elsewhere (P : α → Prop) (t : ι → α) (i : ι) : Prop := ∃ j ≠ i, P (t j)

lemma somewhere_iff {P : α → Prop} (i : ι) : Somewhere P t ↔ P (t i) ∨ Elsewhere P t i := by
  constructor
  · rintro ⟨j, hj⟩
    rcases eq_or_ne j i with rfl | hne
    · exact .inl hj
    · exact .inr ⟨j, hne, hj⟩
  · rintro (hi | ⟨j, -, hj⟩)
    · exact ⟨i, hi⟩
    · exact ⟨j, hj⟩

lemma somewhere_update [DecidableEq ι] {P : α → Prop} :
    Somewhere P (Function.update t i a) ↔ P a ∨ Elsewhere P t i := by
  rw [somewhere_iff i, Function.update_self]
  refine or_congr_right (exists_congr fun j => and_congr_right fun hj => ?_)
  rw [Function.update_of_ne hj]

/-- The number of used slots. -/
def usedCount [Fintype ι] (used : α → Bool) (t : ι → α) : ℕ :=
  (Finset.univ.filter fun i => used (t i)).card

section Count

variable [Fintype ι]

lemma usedCount_le : usedCount used t ≤ Fintype.card ι :=
  Finset.card_le_univ _

lemma usedCount_of_unused (h : ∀ i, used (t i) = false) : usedCount used t = 0 := by
  simp [usedCount, h]

variable [DecidableEq ι]

/-- Taking a free slot counts one more. -/
lemma usedCount_update_take (hi : used (t i) = false) (ha : used a) :
    usedCount used (Function.update t i a) = usedCount used t + 1 := by
  have hset : (Finset.univ.filter fun j => used (Function.update t i a j)) =
      insert i (Finset.univ.filter fun j => used (t j)) := by
    ext j
    rcases eq_or_ne j i with rfl | hj
    · simp [ha]
    · simp [hj]
  rw [usedCount, hset, Finset.card_insert_of_notMem (by simp [hi]), usedCount]

/-- Rewriting a slot without taking or freeing it leaves the count. -/
lemma usedCount_update_same (h : used a = used (t i)) :
    usedCount used (Function.update t i a) = usedCount used t := by
  have hset : ∀ j, used (Function.update t i a j) = used (t j) := by
    intro j
    rcases eq_or_ne j i with rfl | hj
    · simp [h]
    · simp [hj]
  simp [usedCount, hset]

/-- Freeing a used slot counts one less. -/
lemma usedCount_update_free (hi : used (t i)) (ha : used a = false) :
    usedCount used (Function.update t i a) + 1 = usedCount used t := by
  have h := usedCount_update_take (t := Function.update t i a) (i := i) (a := t i)
    (by rw [Function.update_self, ha]) hi
  rw [← h]
  simp

end Count

end AntennaMgmt.Lib
