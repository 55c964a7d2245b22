import Mathlib.Data.Fin.Basic
import Mathlib.Data.List.Basic
import Mathlib.Data.List.Range
import Mathlib.Data.Nat.ModEq
import Mathlib.Logic.Function.Basic
import Mathlib.Tactic.Common

/-!
# Rings with a count

A ring of slots is kept with the index of the slot to be read next, that of the slot to be written
next, and the number of slots in use.  As long as the three agree, the ring is a queue.
-/

namespace AntennaMgmt.Lib

/-- A ring of `n` slots with its indices and its count. -/
structure RingQueue (n : ℕ) (α : Type*) where
  slots : Fin n → α
  head : Fin n
  tail : Fin n
  count : ℕ

namespace RingQueue

variable {n : ℕ} [NeZero n] {α : Type*}

/-- The ring with nothing in it. -/
def empty (a : α) : RingQueue n α := ⟨fun _ => a, 0, 0, 0⟩

/-- A new element at the tail. -/
def put (q : RingQueue n α) (a : α) : RingQueue n α :=
  { q with slots := Function.update q.slots q.tail a, tail := q.tail + 1, count := q.count + 1 }

/-- The element at the head. -/
def front (q : RingQueue n α) : α := q.slots q.head

/-- The element at the head given up; `f` says what becomes of its slot. -/
def take (q : RingQueue n α) (f : α → α) : RingQueue n α :=
  { q with
      slots := Function.update q.slots q.head (f q.front)
      head := q.head + 1
      count := q.count - 1 }

/-- The slot that is `i` places behind the head. -/
def place (q : RingQueue n α) (i : ℕ) : Fin n := q.head + Fin.ofNat n i

/-- The elements in use, from the head on. -/
def contents (q : RingQueue n α) : List α := (List.range q.count).map fun i => q.slots (q.place i)

/-- The indices and the count agree. -/
structure Agrees (q : RingQueue n α) : Prop where
  count_le : q.count ≤ n
  tail_eq : (q.head.val + q.count) % n = q.tail.val

variable {q : RingQueue n α}

@[simp] lemma length_contents : q.contents.length = q.count := by
  rw [contents, List.length_map, List.length_range]

lemma contents_eq_nil : q.contents = [] ↔ q.count = 0 := by
  rw [← List.length_eq_zero_iff, length_contents]

lemma val_place (q : RingQueue n α) (i : ℕ) : (q.place i).val = (q.head.val + i) % n := by
  rw [place, Fin.val_add, Fin.val_ofNat, Nat.add_mod_mod]

lemma val_add_one (i : Fin n) : (i + 1).val = (i.val + 1) % n := by
  rw [Fin.val_add, Fin.val_one', Nat.add_mod_mod]

lemma place_zero (q : RingQueue n α) : q.place 0 = q.head := by
  refine Fin.ext ?_
  rw [val_place, Nat.add_zero, Nat.mod_eq_of_lt q.head.isLt]

/-- Less than a round apart, different places are different slots. -/
lemma place_inj {i j : ℕ} (hi : i < n) (hj : j < n) (h : q.place i = q.place j) : i = j := by
  have hval := congrArg Fin.val h
  rw [val_place, val_place] at hval
  exact (Nat.ModEq.add_left_cancel' q.head.val hval).eq_of_lt_of_lt hi hj

lemma Agrees.tail_eq_place (h : q.Agrees) : q.tail = q.place q.count :=
  Fin.ext (by rw [val_place, h.tail_eq])

lemma agrees_empty (a : α) : (empty a : RingQueue n α).Agrees where
  count_le := Nat.zero_le n
  tail_eq := Nat.zero_mod n

/-- A put into a ring that is not full keeps the agreement. -/
lemma Agrees.put (h : q.Agrees) (hcount : q.count < n) (a : α) : (q.put a).Agrees where
  count_le := hcount
  tail_eq := by
    change (q.head.val + (q.count + 1)) % n = (q.tail + 1).val
    rw [val_add_one, ← h.tail_eq, Nat.mod_add_mod, Nat.add_assoc]

/-- So does a take from a ring that is not empty. -/
lemma Agrees.take (h : q.Agrees) (hcount : 0 < q.count) (f : α → α) : (q.take f).Agrees where
  count_le := (Nat.sub_le q.count 1).trans h.count_le
  tail_eq := by
    change ((q.head + 1).val + (q.count - 1)) % n = q.tail.val
    rw [val_add_one, Nat.mod_add_mod, ← h.tail_eq]
    congr 1
    omega

/-- What is put into a ring that is not full stands behind all the others. -/
lemma contents_put (h : q.Agrees) (hcount : q.count < n) (a : α) :
    (q.put a).contents = q.contents ++ [a] := by
  have hplace : ∀ i, (q.put a).place i = q.place i := fun _ => rfl
  have hslot : ∀ i ∈ List.range q.count,
      (q.put a).slots ((q.put a).place i) = q.slots (q.place i) := by
    intro i hi
    have hlt := List.mem_range.1 hi
    have hne : q.place i ≠ q.tail := by
      rw [h.tail_eq_place]
      exact fun heq => hlt.ne (place_inj (hlt.trans hcount) hcount heq)
    rw [hplace]
    exact Function.update_of_ne hne a q.slots
  have hlast : (q.put a).slots ((q.put a).place q.count) = a := by
    rw [hplace, ← h.tail_eq_place]
    exact Function.update_self q.tail a q.slots
  rw [contents, show (q.put a).count = q.count + 1 from rfl, List.range_succ, List.map_append,
    List.map_congr_left hslot, List.map_singleton, hlast, contents]

/-- The front of a ring that is not empty is the first of its elements, and a take leaves the
others. -/
lemma contents_take (h : q.Agrees) (hcount : 0 < q.count) (f : α → α) :
    q.contents = q.front :: (q.take f).contents := by
  obtain ⟨k, hk⟩ := Nat.exists_eq_add_of_lt hcount
  rw [Nat.zero_add] at hk
  have hle := h.count_le
  have hplace : ∀ i, (q.take f).place i = q.place (i + 1) := by
    intro i
    refine Fin.ext ?_
    rw [val_place, val_place]
    change ((q.head + 1).val + i) % n = _
    rw [val_add_one, Nat.mod_add_mod, Nat.add_assoc, Nat.add_comm 1]
  have hslot : ∀ i ∈ List.range k,
      q.slots (q.place (i + 1)) = (q.take f).slots ((q.take f).place i) := by
    intro i hi
    have hlt := List.mem_range.1 hi
    have hne : q.place (i + 1) ≠ q.head := by
      rw [← place_zero]
      exact fun heq => absurd (place_inj (by omega) (by omega) heq) (Nat.succ_ne_zero i)
    rw [hplace]
    exact (Function.update_of_ne hne _ q.slots).symm
  have hrest : (q.take f).contents =
      (List.range k).map fun i => (q.take f).slots ((q.take f).place i) := by
    rw [contents, show (q.take f).count = k by change q.count - 1 = k; omega]
  rw [hrest, ← List.map_congr_left hslot, contents, hk, List.range_succ_eq_map, List.map_cons,
    place_zero, List.map_map]
  rfl

end RingQueue

end AntennaMgmt.Lib
