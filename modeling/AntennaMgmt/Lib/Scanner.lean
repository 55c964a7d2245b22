import Mathlib.Data.List.Basic

/-!
# Scanning a stream for frames

A scanner goes through a stream.  At each position a format judges what it sees: a frame starts
there and is taken, nothing of interest starts there and one symbol is skipped, or more of the
stream is needed to tell.  A stream may be scanned as it comes in: when a judgement once made is
not changed by what follows, the frames and the leftover do not depend on how the stream is cut.
-/

namespace AntennaMgmt.Lib

variable {α : Type*}

/-- What a format says of the start of a stream. -/
inductive Verdict
  | more
  | skip
  | take (n : ℕ)
deriving DecidableEq, Repr

/-- A format whose verdicts stand, whatever follows. -/
structure ScanFormat (α : Type*) where
  judge : List α → Verdict
  take_le : ∀ {s n}, judge s = .take n → 0 < n ∧ n ≤ s.length
  skip_append : ∀ {s} (t), judge s = .skip → judge (s ++ t) = .skip
  take_append : ∀ {s n} (t), judge s = .take n → judge (s ++ t) = .take n

namespace ScanFormat

variable (F : ScanFormat α)

/-- The greedy scanner: the frames of a stream, and the leftover from the first position on that
more is needed to judge. -/
def scan : List α → List (List α) × List α
  | [] => ([], [])
  | a :: s =>
    match _h : F.judge (a :: s) with
    | .more => ([], a :: s)
    | .skip => scan s
    | .take n =>
      let rest := scan ((a :: s).drop n)
      ((a :: s).take n :: rest.1, rest.2)
termination_by s => s.length
decreasing_by
  · exact Nat.lt_succ_self _
  · have hpos := (F.take_le _h).1
    rw [List.length_drop, List.length_cons]
    omega

@[simp] lemma scan_nil : F.scan [] = ([], []) := by
  rw [scan]

variable {F}

lemma scan_more {s : List α} (h : F.judge s = .more) : F.scan s = ([], s) := by
  cases s with
  | nil => rw [scan_nil]
  | cons a s =>
    rw [scan]
    split <;> simp_all

lemma scan_skip {a : α} {s : List α} (h : F.judge (a :: s) = .skip) :
    F.scan (a :: s) = F.scan s := by
  rw [scan]
  split <;> simp_all

/-- Nothing is taken of an empty stream. -/
lemma ne_nil_of_take {s : List α} {n : ℕ} (h : F.judge s = .take n) : s ≠ [] := by
  obtain ⟨hpos, hle⟩ := F.take_le h
  exact List.ne_nil_of_length_pos (Nat.lt_of_lt_of_le hpos hle)

lemma scan_take {s : List α} {n : ℕ} (h : F.judge s = .take n) :
    F.scan s = (s.take n :: (F.scan (s.drop n)).1, (F.scan (s.drop n)).2) := by
  cases s with
  | nil => exact absurd rfl (F.ne_nil_of_take h)
  | cons a s =>
    rw [scan]
    split <;> simp_all

/-- The scanner proceeds by verdicts. -/
theorem scan_induction {P : List α → Prop} (nil : P [])
    (more : ∀ s, F.judge s = .more → P s)
    (skip : ∀ a s, F.judge (a :: s) = .skip → P s → P (a :: s))
    (take : ∀ s n, F.judge s = .take n → P (s.drop n) → P s) (s : List α) : P s := by
  induction hlen : s.length using Nat.strongRecOn generalizing s with
  | _ len ih =>
    cases hjudge : F.judge s with
    | more => exact more s hjudge
    | skip =>
      cases s with
      | nil => exact nil
      | cons a s => exact skip a s hjudge (ih s.length (by simp [← hlen]) s rfl)
    | take n =>
      obtain ⟨hpos, hle⟩ := F.take_le hjudge
      exact take s n hjudge (ih (s.drop n).length (by rw [List.length_drop]; omega) _ rfl)

/-- The leftover is empty or starts at a position that is not decided. -/
lemma scan_leftover (s : List α) : (F.scan s).2 = [] ∨ F.judge (F.scan s).2 = .more := by
  induction s using F.scan_induction with
  | nil => exact .inl (by rw [scan_nil])
  | more s h => exact .inr (by rw [scan_more h]; exact h)
  | skip a s h ih => rwa [scan_skip h]
  | take s n h ih => rwa [scan_take h]

/-- The leftover is the end of the stream. -/
lemma scan_suffix (s : List α) : (F.scan s).2 <:+ s := by
  induction s using F.scan_induction with
  | nil => simp only [scan_nil, List.suffix_refl]
  | more s h => simp only [scan_more h, List.suffix_refl]
  | skip a s h ih =>
    rw [scan_skip h]
    exact ih.trans (List.suffix_cons a s)
  | take s n h ih =>
    rw [scan_take h]
    exact ih.trans (List.drop_suffix n s)

/-- Every frame was taken where it stood. -/
lemma judge_of_mem_scan {s f : List α} (hf : f ∈ (F.scan s).1) :
    ∃ t, F.judge (f ++ t) = .take f.length := by
  induction s using F.scan_induction with
  | nil => rw [scan_nil] at hf; cases hf
  | more s h => rw [scan_more h] at hf; cases hf
  | skip a s h ih =>
    rw [scan_skip h] at hf
    exact ih hf
  | take s n h ih =>
    rw [scan_take h] at hf
    rcases List.mem_cons.1 hf with rfl | hlater
    · have hlen : (s.take n).length = n := List.length_take_of_le (F.take_le h).2
      exact ⟨s.drop n, by rw [List.take_append_drop, hlen, h]⟩
    · exact ih hlater

/-- The leftover alone is left over. -/
lemma scan_of_leftover (s : List α) : F.scan (F.scan s).2 = ([], (F.scan s).2) := by
  rcases F.scan_leftover s with h | h
  · rw [h, scan_nil]
  · exact scan_more h

/-- Positions that are skipped may be dropped at once. -/
lemma scan_drop {s : List α} {k : ℕ} (hk : k ≤ s.length)
    (h : ∀ i < k, F.judge (s.drop i) = .skip) : F.scan s = F.scan (s.drop k) := by
  induction k generalizing s with
  | zero => rfl
  | succ k ih =>
    cases s with
    | nil => rw [List.drop_nil]
    | cons a s =>
      rw [scan_skip (h 0 (Nat.succ_pos k))]
      exact ih (Nat.le_of_succ_le_succ hk) fun i hi => h (i + 1) (Nat.succ_lt_succ hi)

/-- What comes later is scanned together with the leftover. -/
theorem scan_append (s t : List α) : F.scan (s ++ t) =
    ((F.scan s).1 ++ (F.scan ((F.scan s).2 ++ t)).1, (F.scan ((F.scan s).2 ++ t)).2) := by
  induction s using F.scan_induction with
  | nil => rw [scan_nil]; rfl
  | more s h => rw [scan_more h]; rfl
  | skip a s h ih =>
    have hmore : F.judge (a :: (s ++ t)) = .skip := F.skip_append t h
    rw [scan_skip h, List.cons_append, scan_skip hmore, ih]
  | take s n h ih =>
    have hle := (F.take_le h).2
    rw [scan_take h, scan_take (F.take_append t h), List.take_append_of_le_length hle,
      List.drop_append_of_le_length hle, ih]
    rfl

variable (F)

/-- A receiver that scans each chunk as it comes in, behind what was left over. -/
def scanChunks : List α → List (List α) → List (List α) × List α
  | left, [] => ([], left)
  | left, c :: cs =>
    let now := F.scan (left ++ c)
    let later := scanChunks now.2 cs
    (now.1 ++ later.1, later.2)

variable {F}

/-- The cuts of a stream do not matter. -/
theorem scanChunks_eq {left : List α} (h : F.scan left = ([], left)) (cs : List (List α)) :
    F.scanChunks left cs = F.scan (left ++ cs.flatten) := by
  induction cs generalizing left with
  | nil => rw [scanChunks, List.flatten_nil, List.append_nil, h]
  | cons c cs ih =>
    simp only [scanChunks]
    rw [ih (F.scan_of_leftover _), List.flatten_cons, ← List.append_assoc,
      F.scan_append (left ++ c)]

end ScanFormat

end AntennaMgmt.Lib
