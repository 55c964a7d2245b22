import Mathlib.Data.List.Basic

/-!
# Machines that answer requests, and the bounded queue

A machine takes a request, moves on and answers.  When two machines are related so that every
request keeps the relation and gets the same answer from both, whole sessions get the same
answers.  The bounded queue is the machine that a ring of cells should behave like.
-/

namespace AntennaMgmt.Lib

section machines

variable {σ τ o ρ : Type*}

/-- The answers that a machine gives to a list of requests, and the state that it ends in. -/
def answers (step : σ → o → σ × ρ) : σ → List o → σ × List ρ
  | s, [] => (s, [])
  | s, a :: l =>
    let (s', r) := step s a
    let (t, rs) := answers step s' l
    (t, r :: rs)

lemma answers_nil (step : σ → o → σ × ρ) (s : σ) : answers step s [] = (s, []) := rfl

lemma answers_cons (step : σ → o → σ × ρ) (s : σ) (a : o) (l : List o) :
    answers step s (a :: l) =
      ((answers step (step s a).1 l).1, (step s a).2 :: (answers step (step s a).1 l).2) := rfl

/-- Machines that answer alike, request by request, answer alike in whole sessions. -/
theorem answers_eq_of_simulation {step : σ → o → σ × ρ} {step' : τ → o → τ × ρ}
    {R : σ → τ → Prop}
    (hR : ∀ s t a, R s t → R (step s a).1 (step' t a).1 ∧ (step s a).2 = (step' t a).2)
    {s : σ} {t : τ} (h : R s t) (l : List o) :
    R (answers step s l).1 (answers step' t l).1 ∧
      (answers step s l).2 = (answers step' t l).2 := by
  induction l generalizing s t with
  | nil => exact ⟨h, rfl⟩
  | cons a l ih =>
    obtain ⟨hnext, hanswer⟩ := hR s t a h
    obtain ⟨hend, hrest⟩ := ih hnext
    rw [answers_cons, answers_cons, hanswer, hrest]
    exact ⟨hend, rfl⟩

end machines

/-! ### The bounded queue -/

variable {α : Type*}

/-- What can be asked of a queue. -/
inductive QueueOp (α : Type*)
  | put (xs : List α)
  | get (n : ℕ)
  | remove (n : ℕ)
  | clear
  | size
  | isFull

/-- What it answers. -/
inductive QueueAnswer (α : Type*)
  | count (n : ℕ)
  | front (xs : List α) (n : ℕ)
  | full (b : Bool)
  | done
deriving DecidableEq

/-- The queue of capacity `cap` that holds `q`: elements are put at the end as far as there is
room, read and removed at the front. -/
def queueStep (cap : ℕ) (q : List α) : QueueOp α → List α × QueueAnswer α
  | .put xs =>
    let n := min xs.length (cap - q.length)
    (q ++ xs.take n, .count n)
  | .get n => (q, .front (q.take n) (min n q.length))
  | .remove n => (q.drop n, .count (min n q.length))
  | .clear => ([], .done)
  | .size => (q, .count q.length)
  | .isFull => (q, .full (q.length = cap))

end AntennaMgmt.Lib
