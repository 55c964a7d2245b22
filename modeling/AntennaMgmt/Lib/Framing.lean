import Mathlib.Data.List.Basic

/-!
# Cutting a stream into frames

A stream of frames arrives in pieces that know nothing of the frame boundaries.  A frame format
says how long a header is and reads the size of a frame from it.  The file relates the bytes
received so far to the frames they complete: `Pending` is the state of a receiver that has
passed on every complete frame and holds the bytes of the next one.
-/

namespace AntennaMgmt.Lib

variable {α : Type*}

/-- A format with headers of a fixed length, from which the size of a frame is read. -/
structure FrameFormat (α : Type*) where
  header : ℕ
  size : List α → ℕ
  size_append : ∀ xs ys, header ≤ xs.length → size (xs ++ ys) = size xs

/-- A list that is one frame of the format: its header gives its own length. -/
structure FrameFormat.IsFrame (F : FrameFormat α) (f : List α) : Prop where
  header_le : F.header ≤ f.length
  size_eq : F.size f = f.length

namespace FrameFormat.IsFrame

variable {F : FrameFormat α} {f : List α}

/-- The size of a frame is known from its header on, whatever follows the frame. -/
lemma size_of_prefix (hf : F.IsFrame f) {p q rest : List α} (h : p ++ q = f ++ rest)
    (hp : F.header ≤ p.length) : F.size p = f.length := by
  rw [← F.size_append p q hp, h, F.size_append f rest hf.header_le, hf.size_eq]

end FrameFormat.IsFrame

/-! ### Taking a stream apart -/

namespace FrameFormat

/-- A complete frame is at the front of a stream. -/
def HasFrame (F : FrameFormat α) (xs : List α) : Prop :=
  F.header ≤ xs.length ∧ 0 < F.size xs ∧ F.size xs ≤ xs.length

instance (F : FrameFormat α) (xs : List α) : Decidable (F.HasFrame xs) :=
  inferInstanceAs (Decidable (_ ∧ _ ∧ _))

/-- The frames at the front of a stream, as long as one is complete. -/
def cut (F : FrameFormat α) (xs : List α) : List (List α) :=
  if F.HasFrame xs then xs.take (F.size xs) :: F.cut (xs.drop (F.size xs)) else []
termination_by xs.length
decreasing_by
  rename_i h
  obtain ⟨-, hpos, hle⟩ := h
  rw [List.length_drop]
  omega

variable {F : FrameFormat α}

lemma cut_of_not_hasFrame {xs : List α} (h : ¬ F.HasFrame xs) : F.cut xs = [] := by
  rw [cut, if_neg h]

/-- A frame at the front of a stream is taken off it. -/
lemma cut_append {f : List α} (hf : F.IsFrame f) (hpos : 0 < f.length) (rest : List α) :
    F.cut (f ++ rest) = f :: F.cut rest := by
  have hheader := hf.header_le
  have hsize : F.size (f ++ rest) = f.length := by
    rw [F.size_append f rest hheader, hf.size_eq]
  have hhas : F.HasFrame (f ++ rest) := by
    rw [HasFrame, hsize, List.length_append]
    omega
  rw [cut, if_pos hhas, hsize, List.take_left, List.drop_left]

/-- A stream of frames, with the beginning of another one behind them, falls apart into the
frames. -/
lemma cut_flatten_append {fs : List (List α)} (hfs : ∀ f ∈ fs, F.IsFrame f ∧ 0 < f.length)
    {p : List α} (hp : ¬ F.HasFrame p) : F.cut (fs.flatten ++ p) = fs := by
  induction fs with
  | nil => exact cut_of_not_hasFrame hp
  | cons f fs ih =>
    obtain ⟨hf, hpos⟩ := hfs f List.mem_cons_self
    rw [List.flatten_cons, List.append_assoc, cut_append hf hpos,
      ih fun g hg => hfs g (List.mem_cons_of_mem f hg)]

/-- The beginning of a frame does not have a frame. -/
lemma IsFrame.not_hasFrame {f p : List α} (hf : F.IsFrame f) (hp : p <+: f)
    (hlt : p.length < f.length) : ¬ F.HasFrame p := by
  rintro ⟨hheader, -, hsize⟩
  obtain ⟨q, rfl⟩ := hp
  have hfront : p ++ q = p ++ q ++ [] := (List.append_nil _).symm
  rw [hf.size_of_prefix hfront hheader] at hsize
  omega

end FrameFormat

/-! ### Waiting for frames -/

/-- `Pending fs p q`: `p` is what a receiver holds of the frames `fs` and `q` is what is still
to come; `p` holds no complete frame. -/
structure Pending (fs : List (List α)) (p q : List α) : Prop where
  stream : p ++ q = fs.flatten
  short : ∀ f gs, fs = f :: gs → p.length < f.length

namespace Pending

variable {fs : List (List α)} {p q : List α}

/-- With no frame outstanding nothing is held back. -/
lemma nil (h : Pending [] p q) : p = [] ∧ q = [] := by
  simpa using h.stream

/-- When the stream has ended, every frame is complete. -/
lemma frames_eq_nil (h : Pending fs p []) : fs = [] := by
  cases fs with
  | nil => rfl
  | cons f gs =>
    have hlen : p.length = (f ++ gs.flatten).length := by
      rw [← List.flatten_cons, ← h.stream, List.append_nil]
    have hshort := h.short f gs rfl
    rw [List.length_append] at hlen
    omega

end Pending

/-- How many of the first `n` bytes of the frames `fs` belong to a frame that they do not
complete. -/
def leftover : List (List α) → ℕ → ℕ
  | [], n => n
  | f :: fs, n => if f.length ≤ n then leftover fs (n - f.length) else n

lemma leftover_le (fs : List (List α)) (n : ℕ) : leftover fs n ≤ n := by
  induction fs generalizing n with
  | nil => exact Nat.le_refl n
  | cons f fs ih =>
    rw [leftover]
    split
    · exact Nat.le_trans (ih _) (Nat.sub_le n f.length)
    · exact Nat.le_refl n

/-- A receiver that has passed on the frames `ds` holds the leftover. -/
lemma Pending.leftover_eq {fs : List (List α)} {p q : List α} (h : Pending fs p q)
    (ds : List (List α)) : leftover (ds ++ fs) (ds.flatten.length + p.length) = p.length := by
  induction ds with
  | nil =>
    cases fs with
    | nil => simp [leftover]
    | cons f gs =>
      have hshort := h.short f gs rfl
      simp [leftover, Nat.not_le.2 hshort]
  | cons d ds ih =>
    have hle : d.length ≤ (d :: ds).flatten.length + p.length := by
      rw [List.flatten_cons, List.length_append]
      omega
    have hsub : (d :: ds).flatten.length + p.length - d.length =
        ds.flatten.length + p.length := by
      rw [List.flatten_cons, List.length_append]
      omega
    rw [List.cons_append, leftover, if_pos hle, hsub, ih]

end AntennaMgmt.Lib
