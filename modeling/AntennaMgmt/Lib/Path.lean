import Mathlib.Data.List.TakeWhile
import Mathlib.Tactic.Common

/-!
# Paths and their segments

A separator cuts a string into segments, which may be empty; a segment stands between two
separators or at an end of the string.  A path is resolved segment by segment, without a look at
the file system: a segment names an entry of the directory reached so far, stays there or goes up
to its parent.  A directory is the list of the names that lead to it from the root.
-/

namespace AntennaMgmt.Lib

variable {α : Type*}

/-! ### The segments of a string -/

section Split

variable [DecidableEq α] {a : α} {l : List α}

lemma not_mem_takeWhile_ne (a : α) (l : List α) : a ∉ l.takeWhile (· ≠ a) := by
  intro h
  simpa using List.mem_takeWhile_imp h

lemma takeWhile_ne_eq_self (h : a ∉ l) : l.takeWhile (· ≠ a) = l := by
  rw [List.takeWhile_eq_self_iff]
  intro c hc
  simpa using ne_of_mem_of_not_mem hc h

lemma takeWhile_ne_append {w : List α} (h : a ∉ w) (rest : List α) :
    (w ++ a :: rest).takeWhile (· ≠ a) = w := by
  have hw : ∀ c ∈ w, decide (c ≠ a) = true := by
    intro c hc
    simpa using ne_of_mem_of_not_mem hc h
  rw [List.takeWhile_append_of_pos hw, List.takeWhile_cons_of_neg (by simp), List.append_nil]

/-- A string begins with its first segment. -/
lemma eq_takeWhile_append (h : a ∈ l) :
    l = l.takeWhile (· ≠ a) ++ a :: l.drop ((l.takeWhile (· ≠ a)).length + 1) := by
  induction l with
  | nil => simp at h
  | cons b l ih =>
    by_cases hb : b = a
    · simp [hb]
    · have hmem : a ∈ l := by simpa [Ne.symm hb] using h
      rw [List.takeWhile_cons_of_pos (by simpa using hb), List.cons_append]
      simpa using ih hmem

/-- What holds of a last segment, and for a segment and what follows it, holds of every string. -/
lemma segments_induction {motive : List α → Prop} (a : α) (last : ∀ l, a ∉ l → motive l)
    (more : ∀ w rest, a ∉ w → motive rest → motive (w ++ a :: rest)) (l : List α) : motive l := by
  induction hlen : l.length using Nat.strongRecOn generalizing l with
  | _ len ih =>
    by_cases hmem : a ∈ l
    · have hshort : (l.drop ((l.takeWhile (· ≠ a)).length + 1)).length < len := by
        have hpos : 0 < l.length := List.length_pos_of_mem hmem
        rw [List.length_drop]
        omega
      rw [eq_takeWhile_append hmem]
      exact more _ _ (not_mem_takeWhile_ne a l) (ih _ hshort _ rfl)
    · exact last l hmem

/-- The segments of a string. -/
lemma mem_splitOn_iff {seg : List α} : seg ∈ l.splitOn a ↔ a ∉ seg ∧ ∃ pre post,
    l = pre ++ seg ++ post ∧ (pre = [] ∨ pre.getLast? = some a) ∧
      (post = [] ∨ post.head? = some a) := by
  constructor
  · intro h
    induction l using segments_induction a with
    | last l hmem =>
      rw [List.splitOn_eq_singleton hmem, List.mem_singleton] at h
      subst h
      exact ⟨hmem, [], [], by simp, .inl rfl, .inl rfl⟩
    | more w rest hw ih =>
      rw [List.splitOn_append_cons_self_of_not_mem hw] at h
      rcases List.mem_cons.1 h with rfl | hlater
      · exact ⟨hw, [], a :: rest, rfl, .inl rfl, .inr rfl⟩
      · obtain ⟨hseg, pre, post, rfl, hpre, hpost⟩ := ih hlater
        refine ⟨hseg, w ++ a :: pre, post, by simp, .inr ?_, hpost⟩
        rcases hpre with rfl | hpre
        · simp
        · obtain ⟨q, rfl⟩ := List.getLast?_eq_some_iff.1 hpre
          rw [← List.cons_append, ← List.append_assoc, List.getLast?_concat]
  · rintro ⟨hseg, pre, post, rfl, hpre, hpost⟩
    have hrest : seg ∈ (seg ++ post).splitOn a := by
      rcases hpost with rfl | hpost
      · simp [List.splitOn_eq_singleton hseg]
      · obtain ⟨r, rfl⟩ := List.head?_eq_some_iff.1 hpost
        simp [List.splitOn_append_cons_self_of_not_mem hseg]
    rcases hpre with rfl | hpre
    · simpa using hrest
    · obtain ⟨r, rfl⟩ := List.getLast?_eq_some_iff.1 hpre
      rw [List.append_assoc, List.append_assoc, List.singleton_append,
        List.splitOn_append_cons_self]
      exact List.mem_append_right _ hrest

/-- What stands between two separators is a segment. -/
lemma mem_splitOn_of_between {seg : List α} (hseg : a ∉ seg) (h : a :: (seg ++ [a]) <:+: l) :
    seg ∈ l.splitOn a := by
  obtain ⟨pre, post, rfl⟩ := h
  exact mem_splitOn_iff.2 ⟨hseg, pre ++ [a], a :: post, by simp, .inr (by simp), .inr rfl⟩

omit [DecidableEq α] in
/-- What has no separator in it does not reach over one. -/
lemma infix_append_cons_iff {pat s t : List α} (h : a ∉ pat) :
    pat <:+: s ++ a :: t ↔ pat <:+: s ∨ pat <:+: t := by
  constructor
  · rintro ⟨pre, post, heq⟩
    rcases List.append_eq_append_iff.1 heq with ⟨u, rfl, -⟩ | ⟨u, hleft, hright⟩
    · exact .inl ⟨pre, u, rfl⟩
    · cases u with
      | nil => exact .inl ⟨pre, [], by simpa using hleft⟩
      | cons b u =>
        obtain ⟨rfl, rfl⟩ := List.cons.inj hright
        rcases List.append_eq_append_iff.1 hleft with ⟨v, rfl, hpat⟩ | ⟨v, rfl, hpat⟩
        · exact absurd (by simp [hpat]) h
        · cases v with
          | nil =>
            obtain rfl : a :: u = pat := hpat
            exact absurd List.mem_cons_self h
          | cons c v =>
            obtain ⟨rfl, rfl⟩ := List.cons.inj hpat
            exact .inr ⟨v, post, rfl⟩
  · rintro (hs | ht)
    · exact hs.trans (List.prefix_append s _).isInfix
    · exact ht.trans ((List.suffix_cons a t).trans (List.suffix_append s _)).isInfix

/-- A string that is cut off has the segments that it had, but for the last, which may be a
segment that is not one of the whole string. -/
lemma mem_splitOn_take_iff {seg : List α} {n : ℕ} (h : seg ∉ l.splitOn a) (hseg : a ∉ seg)
    (hn : seg.length < n) (hle : n ≤ l.length) :
    seg ∈ (l.take n).splitOn a ↔
      (l.drop (n - (seg.length + 1))).take (seg.length + 1) = a :: seg := by
  have hsplit : l.take n = l.take (n - (seg.length + 1)) ++
      (l.drop (n - (seg.length + 1))).take (seg.length + 1) := by
    rw [← List.take_add, Nat.sub_add_cancel hn]
  constructor
  · intro hmem
    obtain ⟨-, pre, post, htake, hpre, hpost⟩ := mem_splitOn_iff.1 hmem
    rcases hpost with rfl | hpost
    · rcases hpre with rfl | hpre
      · have hlen := congrArg List.length htake
        simp at hlen
        omega
      · obtain ⟨r, rfl⟩ := List.getLast?_eq_some_iff.1 hpre
        have htail : l.take n = r ++ a :: seg := by simpa using htake
        have hlast : ((l.drop (n - (seg.length + 1))).take (seg.length + 1)).length =
            (a :: seg).length := by
          simp
          omega
        exact (List.append_inj' (hsplit.symm.trans htail) hlast).2
    · -- a segment that is not the last is one of the whole string
      obtain ⟨r, rfl⟩ := List.head?_eq_some_iff.1 hpost
      refine absurd (mem_splitOn_iff.2 ⟨hseg, pre, a :: (r ++ l.drop n), ?_, hpre, .inr rfl⟩) h
      rw [← List.cons_append, ← List.append_assoc, ← htake, List.take_append_drop]
  · intro hlast
    refine mem_splitOn_iff.2 ⟨hseg, l.take (n - (seg.length + 1)) ++ [a], [], ?_, .inr ?_, .inl rfl⟩
    · rw [hsplit, hlast]
      simp
    · simp

end Split

/-! ### Resolution -/

/-- A segment of a path. -/
inductive Segment (α : Type*)
  | here
  | up
  | name (a : α)
deriving DecidableEq, Repr

namespace Segment

/-- One segment from the directory `dir`; the parent of the root is the root. -/
def step (dir : List α) : Segment α → List α
  | here => dir
  | up => dir.dropLast
  | name a => dir ++ [a]

/-- The directory that the segments lead to from `dir`. -/
def resolve (dir : List α) (segs : List (Segment α)) : List α := segs.foldl step dir

@[simp] lemma resolve_nil (dir : List α) : resolve dir [] = dir := rfl

@[simp] lemma resolve_cons (dir : List α) (seg : Segment α) (segs : List (Segment α)) :
    resolve dir (seg :: segs) = resolve (step dir seg) segs := rfl

/-- The segments never lead out of the directory that they start from, nor out of it and back. -/
def StaysInside (segs : List (Segment α)) : Prop :=
  ∀ (dir : List α) (k : ℕ), dir <+: resolve dir (segs.take k)

lemma prefix_step {dest dir : List α} {seg : Segment α} (h : dest <+: dir) (hseg : seg ≠ up) :
    dest <+: step dir seg := by
  cases seg with
  | here => exact h
  | up => exact absurd rfl hseg
  | name a => exact h.trans (List.prefix_append dir [a])

/-- Without a segment that goes up there is no way out. -/
lemma staysInside_of_up_not_mem {segs : List (Segment α)} (h : up ∉ segs) : StaysInside segs := by
  intro dest k
  have hinside (segs : List (Segment α)) (h : up ∉ segs) (dir : List α) (hdir : dest <+: dir) :
      dest <+: resolve dir segs := by
    induction segs generalizing dir with
    | nil => exact hdir
    | cons seg segs ih =>
      rw [List.mem_cons, not_or] at h
      exact ih h.2 (step dir seg) (prefix_step hdir (Ne.symm h.1))
  exact hinside (segs.take k) (fun hmem => h (List.mem_of_mem_take hmem)) dest List.prefix_rfl

end Segment

end AntennaMgmt.Lib
