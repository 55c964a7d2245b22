import AntennaMgmt.Lib.Transition
import Mathlib.Data.Set.Card
import Mathlib.Order.Interval.Set.Nat
import Mathlib.Order.Interval.Finset.Nat

/-!
# Rotated files

A log has a current file and numbered backups, the newest one with the number 1.  A rotation turns
the current file into a backup, moves the other backups up by one number, and drops the oldest one
when there are too many.  The file gives the rule by which the backups are the newest generations of
the log.
-/

namespace AntennaMgmt.Lib

variable {α : Type*}

/-- There are at most `max` backups, and the `i`-th one is the `i`-th newest generation; `gens` are
the generations that were rotated out, the newest one first. -/
structure KeepsNewest (max : ℕ) (gens : List α) (files : ℕ → Option α) : Prop where
  few : {i | 1 ≤ i ∧ files i ≠ none}.encard ≤ max
  newest : ∀ i, i < max → i < gens.length → files (i + 1) = gens[i]?

/-- A rotation: the generation `g` becomes the first backup, and each other one moves up, the last
one out. -/
structure Shifts (max : ℕ) (g : α) (files files' : ℕ → Option α) : Prop where
  first : files' 1 = some g
  later : ∀ i, 1 ≤ i → i < max → files' (i + 1) = files i
  above : ∀ i, max < i → files' i = files i

/-- There is room for `k` generations: the backups with numbers above `max` stay where they are, and
those that are not moved out are kept as well. -/
def Room (max k : ℕ) (files : ℕ → Option α) : Prop :=
  {i | max < i ∧ files i ≠ none}.encard + {i | 1 ≤ i ∧ i + k ≤ max ∧ files i ≠ none}.encard
    + (min k max : ℕ) ≤ max

variable {max k : ℕ} {g : α} {gens : List α} {files files' : ℕ → Option α}

/-- All backups, those above `max` and the others. -/
lemma encard_backups (files : ℕ → Option α) (max : ℕ) :
    {i | 1 ≤ i ∧ files i ≠ none}.encard =
      {i | max < i ∧ files i ≠ none}.encard +
        {i | 1 ≤ i ∧ i + 0 ≤ max ∧ files i ≠ none}.encard := by
  have hdisj : Disjoint {i | max < i ∧ files i ≠ none}
      {i | 1 ≤ i ∧ i + 0 ≤ max ∧ files i ≠ none} := by
    rw [Set.disjoint_left]
    rintro i ⟨habove, -⟩ ⟨-, hle, -⟩
    omega
  rw [← Set.encard_union_eq hdisj]
  congr 1
  ext i
  constructor
  · rintro ⟨hone, hsome⟩
    rcases Nat.lt_or_ge max i with hlt | hle
    · exact .inl ⟨hlt, hsome⟩
    · exact .inr ⟨hone, hle, hsome⟩
  · rintro (⟨hlt, hsome⟩ | ⟨hone, -, hsome⟩)
    · exact ⟨by omega, hsome⟩
    · exact ⟨hone, hsome⟩

/-- When no backup has a number above `max` there is room. -/
lemma Room.of_none_above (k : ℕ) (h : ∀ i, max < i → files i = none) : Room max k files := by
  have habove : {i | max < i ∧ files i ≠ none} = ∅ :=
    Set.eq_empty_of_forall_notMem fun i ⟨hlt, hsome⟩ => hsome (h i hlt)
  have hbelow : {i | 1 ≤ i ∧ i + k ≤ max ∧ files i ≠ none}.encard ≤ (max - k : ℕ) := by
    have hsub : {i | 1 ≤ i ∧ i + k ≤ max ∧ files i ≠ none} ⊆
        (Finset.Icc 1 (max - k) : Set ℕ) := by
      rintro i ⟨hone, hle, -⟩
      rw [Finset.coe_Icc, Set.mem_Icc]
      omega
    calc {i | 1 ≤ i ∧ i + k ≤ max ∧ files i ≠ none}.encard
        ≤ (Finset.Icc 1 (max - k) : Set ℕ).encard := Set.encard_le_encard hsub
      _ = (max - k : ℕ) := by
        rw [Set.encard_coe_eq_coe_finsetCard, Nat.card_Icc, Nat.add_sub_cancel]
  have hsum : max - k + min k max = max := by omega
  rw [Room, habove, Set.encard_empty, zero_add]
  calc {i | 1 ≤ i ∧ i + k ≤ max ∧ files i ≠ none}.encard + (min k max : ℕ)
      ≤ ((max - k : ℕ) : ℕ∞) + (min k max : ℕ) := by gcongr
    _ = max := by rw [← Nat.cast_add, hsum]

/-- Where no backup may be, there is none. -/
lemma KeepsNewest.not_zero (h : KeepsNewest 0 gens files) : files 1 = none := by
  by_contra hsome
  have hmem : 1 ∈ {i | 1 ≤ i ∧ files i ≠ none} := ⟨le_rfl, hsome⟩
  have hempty := Set.encard_eq_zero.1 (nonpos_iff_eq_zero.1 h.few)
  rw [hempty] at hmem
  exact hmem

namespace Shifts

/-- The current file does not count. -/
lemma congr (h : Shifts max g files files') {f f' : ℕ → Option α}
    (hf : ∀ i, 1 ≤ i → f i = files i) (hf' : ∀ i, 1 ≤ i → f' i = files' i) :
    Shifts max g f f' := by
  refine ⟨?_, fun i hi hlt => ?_, fun i hi => ?_⟩
  · rw [hf' 1 le_rfl, h.first]
  · rw [hf' (i + 1) (Nat.le_add_left 1 i), hf i hi, h.later i hi hlt]
  · rw [hf' i (by omega), hf i (by omega), h.above i hi]

/-- A rotation adds a generation to those that are kept. -/
lemma newest (h : Shifts max g files files')
    (hkept : ∀ i, i < max → i < gens.length → files (i + 1) = gens[i]?) :
    ∀ i, i < max → i < (g :: gens).length → files' (i + 1) = (g :: gens)[i]? := by
  intro i hi hlen
  cases i with
  | zero => exact h.first
  | succ i =>
    rw [h.later (i + 1) (Nat.le_add_left 1 i) hi, List.getElem?_cons_succ]
    exact hkept i (by omega) (by simpa using hlen)

/-- The old backups that are not above `max`, when `k` more generations are to come. -/
lemma below_eq (h : Shifts max g files files') (hk : k < max) :
    {i | 1 ≤ i ∧ i + k ≤ max ∧ files' i ≠ none} =
      insert 1 (Nat.succ '' {i | 1 ≤ i ∧ i + (k + 1) ≤ max ∧ files i ≠ none}) := by
  ext i
  rw [Set.mem_insert_iff, Set.mem_image]
  constructor
  · rintro ⟨hone, hle, hsome⟩
    rcases eq_or_ne i 1 with rfl | hne
    · exact .inl rfl
    · obtain ⟨j, rfl⟩ : ∃ j, i = j + 1 := ⟨i - 1, by omega⟩
      rw [h.later j (by omega) (by omega)] at hsome
      exact .inr ⟨j, ⟨by omega, by omega, hsome⟩, rfl⟩
  · rintro (rfl | ⟨j, ⟨hone, hle, hsome⟩, rfl⟩)
    · refine ⟨le_rfl, by omega, ?_⟩
      rw [h.first]
      exact Option.some_ne_none g
    · refine ⟨by omega, by omega, ?_⟩
      rwa [Nat.succ_eq_add_one, h.later j hone (by omega)]

/-- A rotation takes the room of a generation. -/
lemma encard_eq (h : Shifts max g files files') (k : ℕ) :
    {i | max < i ∧ files' i ≠ none}.encard + {i | 1 ≤ i ∧ i + k ≤ max ∧ files' i ≠ none}.encard
        + (min k max : ℕ) =
      {i | max < i ∧ files i ≠ none}.encard
        + {i | 1 ≤ i ∧ i + (k + 1) ≤ max ∧ files i ≠ none}.encard + (min (k + 1) max : ℕ) := by
  have habove : {i | max < i ∧ files' i ≠ none} = {i | max < i ∧ files i ≠ none} := by
    ext i
    exact and_congr_right fun hi => by rw [h.above i hi]
  rw [habove]
  rcases Nat.lt_or_ge k max with hk | hk
  · have hone : 1 ∉ Nat.succ '' {i | 1 ≤ i ∧ i + (k + 1) ≤ max ∧ files i ≠ none} := by
      rintro ⟨j, ⟨hj, -, -⟩, heq⟩
      omega
    have hle : k + 1 ≤ max := hk
    rw [h.below_eq hk, Set.encard_insert_of_notMem hone, Nat.succ_injective.encard_image,
      Nat.min_eq_left hk.le, Nat.min_eq_left hle, Nat.cast_add, Nat.cast_one, ← add_assoc,
      add_assoc _ 1, add_comm 1]
  · -- no old backup is left
    have hnone : ∀ (n : ℕ) (f : ℕ → Option α), max ≤ n →
        {i | 1 ≤ i ∧ i + n ≤ max ∧ f i ≠ none} = ∅ := by
      intro n f hn
      refine Set.eq_empty_of_forall_notMem ?_
      rintro i ⟨hone, hle, -⟩
      omega
    rw [hnone k files' hk, hnone (k + 1) files (by omega), Nat.min_eq_right hk,
      Nat.min_eq_right (by omega)]

end Shifts

/-! ### Runs of a log -/

/-- What happens to a log: something is written to the current file, or the given generation is
rotated out. -/
inductive LogEvent (α : Type*)
  | written
  | rotated (generation : α)

/-- The generations that were rotated out, the newest one first. -/
def generations : List (LogEvent α) → List α
  | [] => []
  | .written :: events => generations events
  | .rotated g :: events => generations events ++ [g]

/-- A log whose rotations keep up to `max` backups, if that is any number but 0. -/
structure Rotates {σ : Type*} (max : ℕ) (files : σ → ℕ → Option α)
    (step : σ → LogEvent α → σ → Prop) : Prop where
  written : ∀ s s', step s .written s' → ∀ i, 1 ≤ i → files s' i = files s i
  rotated : 0 < max → ∀ s g s', step s (.rotated g) s' → Shifts max g (files s) (files s')
  first : ∀ s g s', step s (.rotated g) s' → files s' 1 = some g

namespace Rotates

variable {σ : Type*} {files : σ → ℕ → Option α} {step : σ → LogEvent α → σ → Prop} {s t : σ}
  {events : List (LogEvent α)}

/-- Over a run the newest generations are kept. -/
lemma newest (h : Rotates max files step) (hmax : 0 < max) (hrun : Run step s events t)
    {gens : List α} (hkept : ∀ i, i < max → i < gens.length → files s (i + 1) = gens[i]?) :
    ∀ i, i < max → i < (generations events ++ gens).length →
      files t (i + 1) = (generations events ++ gens)[i]? := by
  induction hrun generalizing gens with
  | nil => exact hkept
  | @cons s s' t ev events hstep hrest ih =>
    cases ev with
    | written =>
      refine ih fun i hi hlen => ?_
      rw [h.written s s' hstep (i + 1) (Nat.le_add_left 1 i)]
      exact hkept i hi hlen
    | rotated g =>
      have hshifts := h.rotated hmax s g s' hstep
      have hlater := ih (hshifts.newest hkept)
      rwa [generations, List.append_assoc]

/-- The number of backups after a run. -/
lemma encard_backups (h : Rotates max files step) (hrun : Run step s events t)
    (hmax : 0 < max ∨ generations events = []) :
    {i | 1 ≤ i ∧ files t i ≠ none}.encard =
      {i | max < i ∧ files s i ≠ none}.encard
        + {i | 1 ≤ i ∧ i + (generations events).length ≤ max ∧ files s i ≠ none}.encard
        + (min (generations events).length max : ℕ) := by
  induction hrun with
  | nil s =>
    rw [generations, List.length_nil, Nat.zero_min, Nat.cast_zero, add_zero]
    exact Lib.encard_backups (files s) max
  | @cons s s' t ev events hstep hrest ih =>
    cases ev with
    | written =>
      have hsame := h.written s s' hstep
      have habove : {i | max < i ∧ files s' i ≠ none} = {i | max < i ∧ files s i ≠ none} := by
        ext i
        exact and_congr_right fun hi => by rw [hsame i (by omega)]
      have hbelow : ∀ k, {i | 1 ≤ i ∧ i + k ≤ max ∧ files s' i ≠ none} =
          {i | 1 ≤ i ∧ i + k ≤ max ∧ files s i ≠ none} := by
        intro k
        ext i
        exact and_congr_right fun hi => by rw [hsame i hi]
      rw [ih hmax, habove, hbelow]
      rfl
    | rotated g =>
      have hpos : 0 < max := hmax.resolve_right (List.append_ne_nil_of_right_ne_nil _ (by simp))
      rw [ih (.inl hpos), (h.rotated hpos s g s' hstep).encard_eq, generations, List.length_append,
        List.length_singleton]

/-- Once something has been rotated out there is a backup. -/
lemma first_ne_none (h : Rotates max files step) (hrun : Run step s events t)
    (hsome : generations events ≠ [] ∨ files s 1 ≠ none) : files t 1 ≠ none := by
  induction hrun with
  | nil => exact hsome.resolve_left fun hne => hne rfl
  | @cons s s' t ev events hstep hrest ih =>
    cases ev with
    | written =>
      refine ih (hsome.imp_right fun hfirst => ?_)
      rwa [h.written s s' hstep 1 le_rfl]
    | rotated g =>
      refine ih (.inr ?_)
      rw [h.first s g s' hstep]
      exact Option.some_ne_none g

/-- The newest generations are kept exactly when a backup may be kept, or nothing was rotated out,
and the old backups leave room. -/
lemma keepsNewest_iff (h : Rotates max files step) (hrun : Run step s events t) :
    KeepsNewest max (generations events) (files t) ↔
      (0 < max ∨ generations events = []) ∧ Room max (generations events).length (files s) := by
  constructor
  · intro hkept
    have hmax : 0 < max ∨ generations events = [] := by
      by_contra hnot
      obtain ⟨hmax, hne⟩ := not_or.1 hnot
      obtain rfl : max = 0 := Nat.eq_zero_of_not_pos hmax
      exact h.first_ne_none hrun (.inl hne) hkept.not_zero
    refine ⟨hmax, ?_⟩
    rw [Room, ← h.encard_backups hrun hmax]
    exact hkept.few
  · rintro ⟨hmax, hroom⟩
    refine ⟨?_, fun i hi hlen => ?_⟩
    · rw [h.encard_backups hrun hmax]
      exact hroom
    · rcases hmax with hpos | hnone
      · have hstart : ∀ i, i < max → i < ([] : List α).length →
            files s (i + 1) = ([] : List α)[i]? := fun i _ hlt => absurd hlt (Nat.not_lt_zero i)
        have hkept := h.newest hpos hrun hstart
        rw [List.append_nil] at hkept
        exact hkept i hi hlen
      · rw [hnone] at hlen
        exact absurd hlen (Nat.not_lt_zero i)

end Rotates

end AntennaMgmt.Lib
