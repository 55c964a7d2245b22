import AntennaMgmt.Lib.Scanner
import Mathlib.Order.Nat
import Mathlib.Tactic.Common

/-!
# Scanning with stops

Some frames make a receiver stop: it takes the frame and looks at the rest of what has come in only
when more comes in.  Each chunk then gets the receiver past one such frame at most, so that where
it stands depends on how the stream was cut.  The file says which of the other frames it has passed
on: those with no more stops before them than the chunks before the last one have got it past.
-/

namespace AntennaMgmt.Lib.ScanFormat

variable {α : Type*} (F : ScanFormat α) (stops : List α → Bool)

/-- The frames up to the first one that stops, and the rest of the stream. -/
def scanStop : List α → List (List α) × List α
  | [] => ([], [])
  | a :: s =>
    match _h : F.judge (a :: s) with
    | .more => ([], a :: s)
    | .skip => scanStop s
    | .take n =>
      let f := (a :: s).take n
      if stops f then ([f], (a :: s).drop n)
      else
        let rest := scanStop ((a :: s).drop n)
        (f :: rest.1, rest.2)
termination_by s => s.length
decreasing_by
  · exact Nat.lt_succ_self _
  · have hpos := (F.take_le _h).1
    rw [List.length_drop, List.length_cons]
    omega

/-- A receiver that stops, chunk by chunk: the frames it takes and what it has not looked at. -/
def stopChunks : List α → List (List α) → List (List α) × List α
  | left, [] => ([], left)
  | left, c :: cs =>
    let now := F.scanStop stops (left ++ c)
    let later := stopChunks now.2 cs
    (now.1 ++ later.1, later.2)

/-- How many frames of a stream stop. -/
def stopCount (s : List α) : ℕ := (F.scan s).1.countP stops

/-- How many stops a receiver gets past that has got past `n` of them with the stream `s`, when
more chunks come in: one with each chunk, if it has come in. -/
def passedFrom : List α → ℕ → List (List α) → ℕ
  | _, n, [] => n
  | s, n, c :: cs => passedFrom (s ++ c) (min (n + 1) (F.stopCount stops (s ++ c))) cs

/-- How many stops the chunks get a receiver past. -/
def passed (cs : List (List α)) : ℕ := F.passedFrom stops [] 0 cs

/-- The frames that do not stop, each with the number of stops before it. -/
def ranked : ℕ → List (List α) → List (ℕ × List α)
  | _, [] => []
  | n, f :: fs => if stops f then ranked (n + 1) fs else (n, f) :: ranked n fs

/-- The frames with at most `n` stops before them. -/
def upTo (n : ℕ) (fs : List (List α)) : List (List α) :=
  ((ranked stops 0 fs).filter fun q => q.1 ≤ n).map Prod.snd

variable {F stops}

@[simp] lemma scanStop_nil : F.scanStop stops [] = ([], []) := by
  rw [scanStop]

lemma scanStop_more {s : List α} (h : F.judge s = .more) : F.scanStop stops s = ([], s) := by
  cases s with
  | nil => rw [scanStop_nil]
  | cons a s =>
    rw [scanStop]
    split <;> simp_all

lemma scanStop_skip {a : α} {s : List α} (h : F.judge (a :: s) = .skip) :
    F.scanStop stops (a :: s) = F.scanStop stops s := by
  rw [scanStop]
  split <;> simp_all

lemma scanStop_take {s : List α} {n : ℕ} (h : F.judge s = .take n) :
    F.scanStop stops s = if stops (s.take n) then ([s.take n], s.drop n)
      else (s.take n :: (F.scanStop stops (s.drop n)).1, (F.scanStop stops (s.drop n)).2) := by
  cases s with
  | nil => exact absurd rfl (F.ne_nil_of_take h)
  | cons a s =>
    rw [scanStop]
    split <;> simp_all

/-- Positions that are skipped may be dropped at once. -/
lemma scanStop_drop {s : List α} {k : ℕ} (hk : k ≤ s.length)
    (h : ∀ i < k, F.judge (s.drop i) = .skip) :
    F.scanStop stops s = F.scanStop stops (s.drop k) := by
  induction k generalizing s with
  | zero => rfl
  | succ k ih =>
    cases s with
    | nil => rw [List.drop_nil]
    | cons a s =>
      rw [scanStop_skip (h 0 (Nat.succ_pos k))]
      exact ih (Nat.le_of_succ_le_succ hk) fun i hi => h (i + 1) (Nat.succ_lt_succ hi)

/-- A stream without a frame so far may be scanned from what is left of it. -/
lemma scanStop_append {s : List α} (h : (F.scanStop stops s).1 = []) (t : List α) :
    F.scanStop stops (s ++ t) = F.scanStop stops ((F.scanStop stops s).2 ++ t) := by
  induction s using F.scan_induction with
  | nil => rw [scanStop_nil]
  | more s hjudge => rw [scanStop_more hjudge]
  | skip a s hjudge ih =>
    have hmore : F.judge (a :: (s ++ t)) = .skip := F.skip_append t hjudge
    rw [scanStop_skip hjudge] at h ⊢
    rw [List.cons_append, scanStop_skip hmore, ih h]
  | take s n hjudge ih =>
    rw [scanStop_take hjudge] at h
    split_ifs at h

variable (F stops) in
/-- How far a receiver gets in a stream: to the end without a stop, or up to its first stop. -/
inductive UpToStop (s : List α) : Prop
  | ended : (∀ f ∈ (F.scan s).1, stops f = false) → F.scanStop stops s = F.scan s → UpToStop s
  | stopped {fs : List (List α)} {f rest : List α} : (∀ g ∈ fs, stops g = false) →
      stops f = true → F.scanStop stops s = (fs ++ [f], rest) →
      F.scan s = (fs ++ f :: (F.scan rest).1, (F.scan rest).2) → UpToStop s

lemma upToStop (s : List α) : F.UpToStop stops s := by
  induction s using F.scan_induction with
  | nil => exact .ended (by simp) (by rw [scanStop_nil, scan_nil])
  | more s h => exact .ended (by simp [scan_more h]) (by rw [scanStop_more h, scan_more h])
  | skip a s h ih =>
    cases ih with
    | ended hnone hstop =>
      refine .ended ?_ ?_
      · rwa [scan_skip h]
      · rw [scanStop_skip h, scan_skip h, hstop]
    | @stopped fs f rest hnone hf hstop hscan =>
      refine @UpToStop.stopped _ _ _ _ fs f rest hnone hf ?_ ?_
      · rw [scanStop_skip h, hstop]
      · rw [scan_skip h, hscan]
  | take s n h ih =>
    by_cases hf : stops (s.take n) = true
    · refine @UpToStop.stopped _ _ _ _ [] _ _ nofun hf ?_ (scan_take h)
      rw [scanStop_take h, if_pos hf, List.nil_append]
    have hframe : stops (s.take n) = false := Bool.eq_false_iff.2 hf
    cases ih with
    | ended hnone hstop =>
      refine .ended ?_ ?_
      · rw [scan_take h]
        exact List.forall_mem_cons.2 ⟨hframe, hnone⟩
      · rw [scanStop_take h, if_neg hf, scan_take h, hstop]
    | @stopped fs f rest hnone hstops hstop hscan =>
      refine @UpToStop.stopped _ _ _ _ (s.take n :: fs) f rest
        (List.forall_mem_cons.2 ⟨hframe, hnone⟩) hstops ?_ ?_
      · rw [scanStop_take h, if_neg hf, hstop, List.cons_append]
      · rw [scan_take h, hscan, List.cons_append]

/-! ### Ranks -/

lemma ranked_append (n : ℕ) (fs gs : List (List α)) : ranked stops n (fs ++ gs) =
    ranked stops n fs ++ ranked stops (n + fs.countP stops) gs := by
  induction fs generalizing n with
  | nil => rfl
  | cons f fs ih =>
    rw [List.cons_append, ranked, ranked, List.countP_cons]
    split_ifs
    · rw [ih, Nat.add_assoc, Nat.add_comm 1]
    · rw [ih, List.cons_append, Nat.add_zero]

lemma le_of_mem_ranked {n : ℕ} {fs : List (List α)} {q : ℕ × List α}
    (hq : q ∈ ranked stops n fs) : n ≤ q.1 ∧ q.1 ≤ n + fs.countP stops := by
  induction fs generalizing n with
  | nil => cases hq
  | cons f fs ih =>
    rw [ranked] at hq
    rw [List.countP_cons]
    split_ifs at hq ⊢
    · have := ih hq
      omega
    · rcases List.mem_cons.1 hq with rfl | hq
      · exact ⟨le_rfl, by omega⟩
      · have := ih hq
        omega

lemma map_snd_ranked (n : ℕ) (fs : List (List α)) :
    (ranked stops n fs).map Prod.snd = fs.filter fun f => !stops f := by
  induction fs generalizing n with
  | nil => rfl
  | cons f fs ih =>
    rw [ranked, List.filter_cons]
    split_ifs with hf hnot hnot
    · simp [hf] at hnot
    · exact ih (n + 1)
    · rw [List.map_cons, ih]
    · simp [hf] at hnot

/-- The frames up to the first stop behind the `n`-th one. -/
lemma upTo_append {n : ℕ} {fs gs : List (List α)} (hfs : fs.countP stops = n + 1)
    (hlast : ∃ as f, fs = as ++ [f] ∧ stops f = true) :
    upTo stops n (fs ++ gs) = fs.filter fun f => !stops f := by
  obtain ⟨as, f, rfl, hf⟩ := hlast
  have has : as.countP stops = n := by
    rw [List.countP_append, List.countP_singleton, if_pos hf] at hfs
    omega
  have hhead : ranked stops 0 (as ++ [f]) = ranked stops 0 as := by
    rw [ranked_append, ranked, if_pos hf, ranked, List.append_nil]
  have hkeep : (ranked stops 0 as).filter (fun q => q.1 ≤ n) = ranked stops 0 as := by
    refine List.filter_eq_self.2 fun q hq => decide_eq_true ?_
    have := le_of_mem_ranked hq
    omega
  have hdrop : (ranked stops (0 + (as ++ [f]).countP stops) gs).filter (fun q => q.1 ≤ n) = [] := by
    refine List.filter_eq_nil_iff.2 fun q hq => ?_
    have := le_of_mem_ranked hq
    rw [decide_eq_true_eq]
    omega
  rw [upTo, ranked_append, List.filter_append, hdrop, List.append_nil, hhead, hkeep, ← hhead,
    map_snd_ranked]

/-- All frames when there are no more stops. -/
lemma upTo_of_le {n : ℕ} {fs : List (List α)} (hfs : fs.countP stops ≤ n) :
    upTo stops n fs = fs.filter fun f => !stops f := by
  have hkeep : (ranked stops 0 fs).filter (fun q => q.1 ≤ n) = ranked stops 0 fs := by
    refine List.filter_eq_self.2 fun q hq => decide_eq_true ?_
    have := le_of_mem_ranked hq
    omega
  rw [upTo, hkeep, map_snd_ranked]

/-- The frames up to two numbers of stops are the same when none has a number between the two. -/
lemma upTo_eq_iff {m n : ℕ} {fs : List (List α)} : upTo stops m fs = upTo stops n fs ↔
    ∀ q ∈ ranked stops 0 fs, q.1 ≤ m ↔ q.1 ≤ n := by
  constructor
  · intro h
    wlog hle : m ≤ n generalizing m n
    · exact fun q hq => (this h.symm (Nat.le_of_not_le hle) q hq).symm
    have hsub : ((ranked stops 0 fs).filter fun q => q.1 ≤ m).Sublist
        ((ranked stops 0 fs).filter fun q => q.1 ≤ n) := by
      refine List.monotone_filter_right _ fun q hq => ?_
      exact decide_eq_true ((of_decide_eq_true hq).trans hle)
    have hlen := congrArg List.length h
    rw [upTo, upTo, List.length_map, List.length_map] at hlen
    have heq := hsub.eq_of_length hlen
    intro q hq
    refine ⟨fun hm => hm.trans hle, fun hn => ?_⟩
    have hmem : q ∈ (ranked stops 0 fs).filter fun q => q.1 ≤ m := by
      rw [heq]
      exact List.mem_filter.2 ⟨hq, decide_eq_true hn⟩
    exact of_decide_eq_true (List.mem_filter.1 hmem).2
  · intro h
    rw [upTo, upTo]
    congr 1
    exact List.filter_congr fun q hq => by simp only [h q hq]

/-! ### Chunk by chunk -/

/-- Where a receiver stands that has taken the frames `fs` of the stream `s` and has not looked at
`left`. -/
def Stands (F : ScanFormat α) (s : List α) (fs : List (List α)) (left : List α) : Prop :=
  F.scan s = (fs ++ (F.scan left).1, (F.scan left).2)

variable {s left : List α} {fs : List (List α)}

/-- When a chunk comes in, the whole stream and what has not been looked at grow by it. -/
lemma Stands.grow (h : F.Stands s fs left) (c : List α) : F.Stands (s ++ c) fs (left ++ c) := by
  rw [Stands, scan_append s c, scan_append left c, h, List.append_assoc]

/-- What a receiver takes of a chunk: where it stands then, how many stops it has got past, and
which of the other frames it has taken. -/
lemma Stands.chunk (h : F.Stands s fs left) (c : List α) :
    let now := F.scanStop stops (left ++ c)
    F.Stands (s ++ c) (fs ++ now.1) now.2 ∧
      (fs ++ now.1).countP stops = min (fs.countP stops + 1) (F.stopCount stops (s ++ c)) ∧
      (fs ++ now.1).filter (fun f => !stops f) =
        upTo stops (fs.countP stops) (F.scan (s ++ c)).1 := by
  intro now
  have hgrow := h.grow c
  cases (upToStop (left ++ c) : F.UpToStop stops (left ++ c)) with
  | ended hnone hstop =>
    have hzero : (F.scan (left ++ c)).1.countP stops = 0 :=
      List.countP_eq_zero.2 fun f hf => by simp [hnone f hf]
    have hnow : now = F.scan (left ++ c) := hstop
    have hall : F.scan (s ++ c) = (fs ++ now.1, now.2) := by rw [hnow]; exact hgrow
    have hcount : (fs ++ now.1).countP stops = fs.countP stops := by
      rw [List.countP_append, hnow, hzero, Nat.add_zero]
    refine ⟨?_, ?_, ?_⟩
    · rw [Stands, hall, hnow, scan_of_leftover, List.append_nil]
    · rw [stopCount, hall, hcount]
      omega
    · rw [hall]
      exact (upTo_of_le hcount.le).symm
  | @stopped gs f rest hnone hf hstop hscan =>
    have hnow : now = (gs ++ [f], rest) := hstop
    have hall : F.scan (s ++ c) = (fs ++ now.1 ++ (F.scan rest).1, (F.scan rest).2) := by
      rw [hgrow, hscan, hnow]
      simp
    have hcount : (fs ++ now.1).countP stops = fs.countP stops + 1 := by
      have hzero : gs.countP stops = 0 := List.countP_eq_zero.2 fun g hg => by simp [hnone g hg]
      rw [hnow, List.countP_append, List.countP_append, hzero, List.countP_singleton, if_pos hf,
        Nat.zero_add]
    refine ⟨?_, ?_, ?_⟩
    · rw [Stands, hall, hnow]
    · have hle : (fs ++ now.1).countP stops ≤ F.stopCount stops (s ++ c) := by
        rw [stopCount, hall]
        exact (List.sublist_append_left _ _).countP_le
      rw [hcount] at hle ⊢
      exact (Nat.min_eq_left hle).symm
    · rw [hall]
      exact (upTo_append hcount ⟨fs ++ gs, f, by rw [hnow, List.append_assoc], hf⟩).symm

/-- The frames of all chunks that do not stop. -/
lemma Stands.chunks (h : F.Stands s fs left) (cs : List (List α)) (c : List α) :
    (fs ++ (F.stopChunks stops left (cs ++ [c])).1).filter (fun f => !stops f) =
      upTo stops (F.passedFrom stops s (fs.countP stops) cs)
        (F.scan (s ++ (cs ++ [c]).flatten)).1 := by
  induction cs generalizing s fs left with
  | nil =>
    simp only [List.nil_append, stopChunks, List.append_nil, List.flatten_cons, List.flatten_nil,
      passedFrom]
    exact (h.chunk c).2.2
  | cons d cs ih =>
    obtain ⟨hstands, hcount, -⟩ := h.chunk d
    have hrest := ih hstands
    rw [hcount, List.append_assoc, List.append_assoc] at hrest
    rw [List.cons_append, stopChunks, passedFrom, List.flatten_cons]
    exact hrest

/-- Which frames a receiver passes on that starts with nothing. -/
theorem stopChunks_eq (cs : List (List α)) :
    (F.stopChunks stops [] cs).1.filter (fun f => !stops f) =
      upTo stops (F.passed stops cs.dropLast) (F.scan cs.flatten).1 := by
  rcases List.eq_nil_or_concat' cs with rfl | ⟨init, c, rfl⟩
  · rw [stopChunks, List.flatten_nil, scan_nil]
    rfl
  · have hstands : F.Stands [] [] [] := by rw [Stands, scan_nil]; rfl
    rw [List.dropLast_concat]
    exact hstands.chunks init c

/-- **When the cuts of a stream do not matter.**  Two ways of cutting a stream make the receiver
pass on the same frames if and only if no frame has a number of stops before it that one of them
gets the receiver past before its last chunk and the other does not. -/
theorem stopChunks_eq_iff {cs ds : List (List α)} (h : cs.flatten = ds.flatten) :
    (F.stopChunks stops [] cs).1.filter (fun f => !stops f) =
        (F.stopChunks stops [] ds).1.filter (fun f => !stops f) ↔
      ∀ q ∈ ranked stops 0 (F.scan cs.flatten).1,
        q.1 ≤ F.passed stops cs.dropLast ↔ q.1 ≤ F.passed stops ds.dropLast := by
  rw [stopChunks_eq, stopChunks_eq, ← h]
  exact upTo_eq_iff

end AntennaMgmt.Lib.ScanFormat
