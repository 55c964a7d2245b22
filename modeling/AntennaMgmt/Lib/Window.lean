import AntennaMgmt.Lib.Scanner
import Mathlib.Order.Nat
import Mathlib.Tactic.Common

/-!
# Scanning in a bounded buffer

A receiver scans each read behind what it has kept of the reads before, in a buffer of limited
size.  When a read does not fit, what has been kept is thrown away.  The file says where the
frames stand that the receiver takes out of an endless stream, and that an intact frame which none
of the others overlaps is missed for one reason only: it was in the buffer, in part or as a whole,
when the buffer was emptied.
-/

namespace AntennaMgmt.Lib.ScanFormat

variable {α : Type*} (F : ScanFormat α)

/-- The frames of a stream whose first position is `base`, each with its position. -/
def scanAt : ℕ → List α → List (ℕ × List α)
  | _, [] => []
  | base, a :: s =>
    match _h : F.judge (a :: s) with
    | .more => []
    | .skip => scanAt (base + 1) s
    | .take n => (base, (a :: s).take n) :: scanAt (base + n) ((a :: s).drop n)
termination_by _ s => s.length
decreasing_by
  · exact Nat.lt_succ_self _
  · have hpos := (F.take_le _h).1
    rw [List.length_drop, List.length_cons]
    omega

variable {F}

@[simp] lemma scanAt_nil (base : ℕ) : F.scanAt base [] = [] := by
  rw [scanAt]

lemma scanAt_more {s : List α} (h : F.judge s = .more) (base : ℕ) : F.scanAt base s = [] := by
  cases s with
  | nil => rw [scanAt_nil]
  | cons a s =>
    rw [scanAt]
    split <;> simp_all

lemma scanAt_skip {a : α} {s : List α} (h : F.judge (a :: s) = .skip) (base : ℕ) :
    F.scanAt base (a :: s) = F.scanAt (base + 1) s := by
  rw [scanAt]
  split <;> simp_all

lemma scanAt_take {s : List α} {n : ℕ} (h : F.judge s = .take n) (base : ℕ) :
    F.scanAt base s = (base, s.take n) :: F.scanAt (base + n) (s.drop n) := by
  cases s with
  | nil => exact absurd rfl (F.ne_nil_of_take h)
  | cons a s =>
    rw [scanAt]
    split <;> simp_all

/-- Positions that are skipped may be dropped at once. -/
lemma scanAt_drop {s : List α} {k : ℕ} (hk : k ≤ s.length)
    (h : ∀ i < k, F.judge (s.drop i) = .skip) (base : ℕ) :
    F.scanAt base s = F.scanAt (base + k) (s.drop k) := by
  induction k generalizing s base with
  | zero => rfl
  | succ k ih =>
    cases s with
    | nil => rw [List.drop_nil, scanAt_nil, scanAt_nil]
    | cons a s =>
      rw [scanAt_skip (h 0 (Nat.succ_pos k)), Nat.add_comm k 1, ← Nat.add_assoc, Nat.add_comm 1 k]
      exact ih (Nat.le_of_succ_le_succ hk) (fun i hi => h (i + 1) (Nat.succ_lt_succ hi)) _

/-- Without their positions the frames are those of the scanner. -/
lemma map_snd_scanAt (base : ℕ) (s : List α) :
    (F.scanAt base s).map Prod.snd = (F.scan s).1 := by
  induction s using F.scan_induction generalizing base with
  | nil => rw [scanAt_nil, scan_nil]; rfl
  | more s h => rw [scanAt_more h, scan_more h]; rfl
  | skip a s h ih => rw [scanAt_skip h, scan_skip h, ih]
  | take s n h ih => rw [scanAt_take h, scan_take h, List.map_cons, ih]

/-- Where a frame stands: within what has been passed, and it was taken there. -/
lemma mem_scanAt {base : ℕ} {s : List α} {q : ℕ × List α} (hq : q ∈ F.scanAt base s) :
    base ≤ q.1 ∧ q.1 + q.2.length + (F.scan s).2.length ≤ base + s.length ∧
      F.judge (s.drop (q.1 - base)) = .take q.2.length := by
  induction s using F.scan_induction generalizing base with
  | nil => rw [scanAt_nil] at hq; cases hq
  | more s h => rw [scanAt_more h] at hq; cases hq
  | skip a s h ih =>
    rw [scanAt_skip h] at hq
    obtain ⟨hbase, hend, hjudge⟩ := ih hq
    have hpos : q.1 - base = q.1 - (base + 1) + 1 := by omega
    rw [scan_skip h, List.length_cons, hpos, List.drop_succ_cons]
    exact ⟨by omega, by omega, hjudge⟩
  | take s n h ih =>
    have hle := (F.take_le h).2
    rw [scanAt_take h] at hq
    rw [scan_take h]
    have hdrop : (s.drop n).length = s.length - n := List.length_drop
    rcases List.mem_cons.1 hq with rfl | hq
    · have hlen : (s.take n).length = n := List.length_take_of_le hle
      have hleft := (F.scan_suffix (s.drop n)).length_le
      refine ⟨Nat.le_refl _, by dsimp only; omega, ?_⟩
      rw [hlen, Nat.sub_self, List.drop_zero, h]
    · obtain ⟨hbase, hend, hjudge⟩ := ih hq
      have hpos : n + (q.1 - (base + n)) = q.1 - base := by omega
      rw [List.drop_drop, hpos] at hjudge
      exact ⟨by omega, by dsimp only; omega, hjudge⟩

/-- What has been passed belongs to a frame or has been skipped. -/
lemma passed_scanAt {base : ℕ} {s : List α} {p : ℕ} (hbase : base ≤ p)
    (hend : p + (F.scan s).2.length < base + s.length) :
    (∃ q ∈ F.scanAt base s, q.1 ≤ p ∧ p < q.1 + q.2.length) ∨
      F.judge (s.drop (p - base)) = .skip := by
  induction s using F.scan_induction generalizing base with
  | nil => rw [scan_nil, List.length_nil] at hend; omega
  | more s h => rw [scan_more h] at hend; dsimp only at hend; omega
  | skip a s h ih =>
    rcases Nat.eq_or_lt_of_le hbase with rfl | hlt
    · exact .inr (by rw [Nat.sub_self, List.drop_zero, h])
    · rw [scan_skip h, List.length_cons] at hend
      have hpos : p - base = p - (base + 1) + 1 := by omega
      rw [scanAt_skip h, hpos, List.drop_succ_cons]
      exact ih hlt (by omega)
  | take s n h ih =>
    have hle := (F.take_le h).2
    have hlen : (s.take n).length = n := List.length_take_of_le hle
    rw [scanAt_take h]
    by_cases hin : p < base + n
    · exact .inl ⟨_, List.mem_cons_self, hbase, by rw [hlen]; exact hin⟩
    · rw [scan_take h] at hend
      dsimp only at hend
      have hrest := @ih (base + n) (by omega) (by rw [List.length_drop]; omega)
      have hpos : n + (p - (base + n)) = p - base := by omega
      rw [List.drop_drop, hpos] at hrest
      rcases hrest with ⟨q, hq, hqp⟩ | hskip
      · exact .inl ⟨q, List.mem_cons_of_mem _ hq, hqp⟩
      · exact .inr hskip

/-! ### The receiver -/

variable (F) (N : ℕ) (reads : ℕ → List α)

/-- What has come in before the `n`-th read. -/
def received : ℕ → List α
  | 0 => []
  | n + 1 => received n ++ reads n

/-- What is in a buffer of size `N` that holds `held`, with the next read behind it. -/
def window (held read : List α) : List α :=
  if N < held.length + read.length then read else held ++ read

/-- What has been kept before the `n`-th read. -/
def held : ℕ → List α
  | 0 => []
  | n + 1 => (F.scan (window N (held n) (reads n))).2

/-- What the receiver scans after the `n`-th read. -/
def scanned (n : ℕ) : List α := window N (F.held N reads n) (reads n)

/-- The position in the stream of the first symbol that has been kept before the `n`-th read. -/
def heldFrom (n : ℕ) : ℕ := (received reads n).length - (F.held N reads n).length

/-- Likewise of the first symbol that is scanned after it. -/
def scannedFrom (n : ℕ) : ℕ := (received reads (n + 1)).length - (F.scanned N reads n).length

/-- The frames that are taken after the `n`-th read, each with its position in the stream. -/
def taken (n : ℕ) : List (ℕ × List α) := F.scanAt (F.scannedFrom N reads n) (F.scanned N reads n)

/-- The `n`-th read does not fit. -/
def Overflows (n : ℕ) : Prop := N < (F.held N reads n).length + (reads n).length

/-- The position `p` of the stream has been kept before the `n`-th read. -/
def Keeps (n p : ℕ) : Prop := F.heldFrom N reads n ≤ p ∧ p < (received reads n).length

/-- The frame `f` stands at the position `p` of the stream. -/
def StandsAt (f : List α) (p : ℕ) : Prop :=
  ∃ n, ∃ s t, received reads n = s ++ f ++ t ∧ s.length = p

/-- No other frame that is taken overlaps the frame `f` at the position `p`. -/
def Apart (f : List α) (p : ℕ) : Prop :=
  ∀ n, ∀ q ∈ F.taken N reads n, q = (p, f) ∨ q.1 + q.2.length ≤ p ∨ p + f.length ≤ q.1

variable {F N reads}

lemma received_le {m n : ℕ} (h : m ≤ n) : received reads m <+: received reads n := by
  induction n, h using Nat.le_induction with
  | base => exact List.prefix_rfl
  | succ n _ ih => exact ih.trans (List.prefix_append _ _)

lemma held_suffix (n : ℕ) : F.held N reads n <:+ received reads n := by
  induction n with
  | zero => exact List.suffix_rfl
  | succ n ih =>
    refine (F.scan_suffix _).trans ?_
    rw [received, window]
    split_ifs
    · exact List.suffix_append _ _
    · obtain ⟨s, hs⟩ := ih
      exact ⟨s, by rw [← hs, List.append_assoc]⟩

lemma scanned_suffix (n : ℕ) : F.scanned N reads n <:+ received reads (n + 1) := by
  rw [received, scanned, window]
  split_ifs
  · exact List.suffix_append _ _
  · have hheld : F.held N reads n <:+ received reads n := held_suffix n
    obtain ⟨s, hs⟩ := hheld
    exact ⟨s, by rw [← hs, List.append_assoc]⟩

lemma scannedFrom_of_overflows {n : ℕ} (h : F.Overflows N reads n) :
    F.scannedFrom N reads n = (received reads n).length := by
  have hscanned : F.scanned N reads n = reads n := if_pos h
  rw [scannedFrom, hscanned, received, List.length_append]
  omega

lemma scannedFrom_of_not_overflows {n : ℕ} (h : ¬ F.Overflows N reads n) :
    F.scannedFrom N reads n = F.heldFrom N reads n := by
  have hscanned : F.scanned N reads n = F.held N reads n ++ reads n := if_neg h
  rw [scannedFrom, heldFrom, hscanned, received, List.length_append, List.length_append]
  omega

lemma heldFrom_le_scannedFrom (n : ℕ) : F.heldFrom N reads n ≤ F.scannedFrom N reads n := by
  by_cases h : F.Overflows N reads n
  · rw [scannedFrom_of_overflows h]
    exact Nat.sub_le _ _
  · exact (scannedFrom_of_not_overflows h).ge

lemma scannedFrom_le_heldFrom (n : ℕ) : F.scannedFrom N reads n ≤ F.heldFrom N reads (n + 1) := by
  have hle : (F.held N reads (n + 1)).length ≤ (F.scanned N reads n).length :=
    (F.scan_suffix _).length_le
  rw [scannedFrom, heldFrom]
  omega

/-- What has once been passed is not kept again. -/
lemma heldFrom_mono {m n : ℕ} (h : m ≤ n) : F.heldFrom N reads m ≤ F.heldFrom N reads n := by
  induction n, h using Nat.le_induction with
  | base => exact le_rfl
  | succ n _ ih => exact ih.trans ((heldFrom_le_scannedFrom n).trans (scannedFrom_le_heldFrom n))

lemma scannedFrom_mono {m n : ℕ} (h : m ≤ n) :
    F.scannedFrom N reads m ≤ F.scannedFrom N reads n := by
  induction n, h using Nat.le_induction with
  | base => exact le_rfl
  | succ n _ ih =>
    exact ih.trans ((scannedFrom_le_heldFrom n).trans (heldFrom_le_scannedFrom (n + 1)))

/-- A frame is taken out of what is scanned, and is not kept. -/
lemma mem_taken {n : ℕ} {q : ℕ × List α} (hq : q ∈ F.taken N reads n) :
    F.scannedFrom N reads n ≤ q.1 ∧ q.1 + q.2.length ≤ F.heldFrom N reads (n + 1) := by
  obtain ⟨hfrom, hend, -⟩ := mem_scanAt hq
  have hheld : F.held N reads (n + 1) = (F.scan (F.scanned N reads n)).2 := rfl
  have hscanned : (F.scanned N reads n).length ≤ (received reads (n + 1)).length :=
    (scanned_suffix n).length_le
  refine ⟨hfrom, ?_⟩
  rw [heldFrom, hheld]
  rw [scannedFrom] at hend
  omega

/-- A position that is scanned and not kept belongs to a frame or has been skipped. -/
lemma taken_or_skipped {n p : ℕ} (hfrom : F.scannedFrom N reads n ≤ p)
    (hend : p < F.heldFrom N reads (n + 1)) :
    (∃ q ∈ F.taken N reads n, q.1 ≤ p ∧ p < q.1 + q.2.length) ∨
      F.judge ((received reads (n + 1)).drop p) = .skip := by
  have hheld : F.held N reads (n + 1) = (F.scan (F.scanned N reads n)).2 := rfl
  have hdrop : F.scanned N reads n = (received reads (n + 1)).drop (F.scannedFrom N reads n) :=
    List.suffix_iff_eq_drop.1 (scanned_suffix n)
  have hlen := congrArg List.length hdrop
  rw [List.length_drop] at hlen
  rw [heldFrom, hheld] at hend
  have hpassed := F.passed_scanAt hfrom (s := F.scanned N reads n) (by omega)
  rw [hdrop, List.drop_drop, ← hdrop, Nat.add_sub_cancel' hfrom] at hpassed
  exact hpassed

/-- A frame of the stream is never skipped. -/
lemma StandsAt.not_skipped {f : List α} {p : ℕ} (h : StandsAt reads f p)
    (hf : F.judge f = .take f.length) (n : ℕ) :
    F.judge ((received reads n).drop p) ≠ .skip := by
  intro hskip
  obtain ⟨m, s, t, hm, rfl⟩ := h
  obtain ⟨x, hx⟩ : received reads m <+: received reads (max m n) := received_le (le_max_left m n)
  obtain ⟨y, hy⟩ : received reads n <+: received reads (max m n) := received_le (le_max_right m n)
  have htake : F.judge ((received reads (max m n)).drop s.length) = .take f.length := by
    rw [← hx, hm, List.append_assoc, List.append_assoc, List.drop_left]
    exact F.take_append _ hf
  rw [← hy, List.drop_append, F.skip_append _ hskip] at htake
  cases htake

lemma le_length_received (hreads : ∀ n, reads n ≠ []) (n : ℕ) :
    n ≤ (received reads n).length := by
  induction n with
  | zero => exact Nat.zero_le _
  | succ n ih =>
    have hpos := List.length_pos_iff.2 (hreads n)
    rw [received, List.length_append]
    omega

/-- A frame that is taken has never been thrown away. -/
lemma not_keeps_of_mem_taken {f : List α} {n p : ℕ} (hf : 0 < f.length)
    (h : (p, f) ∈ F.taken N reads n) {k : ℕ} (hk : F.Overflows N reads k) :
    ¬ F.Keeps N reads k p := by
  rintro ⟨hfrom, hlt⟩
  obtain ⟨hscanned, hend⟩ := mem_taken h
  dsimp only at hscanned hend
  rw [← scannedFrom_of_overflows hk] at hlt
  rcases Nat.lt_or_ge n k with hafter | hbefore
  · have hle : F.heldFrom N reads (n + 1) ≤ F.heldFrom N reads k := heldFrom_mono hafter
    omega
  · have hle : F.scannedFrom N reads k ≤ F.scannedFrom N reads n := scannedFrom_mono hbefore
    omega

/-- **Which frames are missed.**  An intact frame of an endless stream that no other frame taken
overlaps is taken if and only if no read overflows the buffer while the first symbol of the frame
is in it. -/
theorem exists_mem_taken_iff (hreads : ∀ n, reads n ≠ []) {f : List α} {p : ℕ}
    (hf : F.judge f = .take f.length) (hat : StandsAt reads f p)
    (hapart : F.Apart N reads f p) :
    (∃ n, (p, f) ∈ F.taken N reads n) ↔
      ∀ n, F.Overflows N reads n → ¬ F.Keeps N reads n p := by
  have hpos : 0 < f.length := (F.take_le hf).1
  constructor
  · rintro ⟨n, hn⟩ k hk
    exact not_keeps_of_mem_taken hpos hn hk
  · intro hkept
    by_contra hmissed
    -- while it is not taken the frame is not passed
    have hwait (n : ℕ) : F.heldFrom N reads n ≤ p := by
      induction n with
      | zero => exact Nat.zero_le _
      | succ n ih =>
        have hscanned : F.scannedFrom N reads n ≤ p := by
          by_cases h : F.Overflows N reads n
          · rw [scannedFrom_of_overflows h]
            by_contra hlt
            exact hkept n h ⟨ih, not_le.1 hlt⟩
          · rwa [scannedFrom_of_not_overflows h]
        by_contra hpassed
        rcases taken_or_skipped hscanned (not_le.1 hpassed) with ⟨q, hq, hle, hlt⟩ | hskip
        · rcases hapart n q hq with rfl | hdisj | hdisj
          · exact hmissed ⟨n, hq⟩
          · omega
          · omega
        · exact hat.not_skipped hf (n + 1) hskip
    -- so that the buffer fills up
    have hlong := le_length_received hreads (p + N + 1)
    have hfull : F.Overflows N reads (p + N + 1) := by
      have hfrom := hwait (p + N + 1)
      rw [heldFrom] at hfrom
      rw [Overflows]
      omega
    exact hkept _ hfull ⟨hwait _, by omega⟩

end AntennaMgmt.Lib.ScanFormat
