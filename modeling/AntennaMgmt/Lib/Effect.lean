import Mathlib.Data.Nat.Basic

/-!
# Programs that ask their environment

A program works on a state and asks questions whose answers it does not control: whether a send
succeeded, what was received, what time it is.  The questions of a run are numbered, and the
environment answers each by its number.  Loops whose end depends on the answers run on fuel; a
run whose fuel is used up has no value but keeps the state it reached, so that what is proved of
every run covers the runs that are still going on.

`wp x Q R s` says that `x`, started in `s` at any question, ends in `Q` or is still going on in
a state that satisfies `R`.
-/

namespace AntennaMgmt.Lib

/-- A program over the states `σ` with a value in `α`; the number is that of the next
question. -/
def Prog (σ α : Type) : Type := ℕ → σ → Option α × ℕ × σ

variable {σ α β : Type}

namespace Prog

/-- A program with a value and no effect. -/
def ret (a : α) : Prog σ α := fun n s => (some a, n, s)

/-- One program after the other. -/
def andThen (x : Prog σ α) (f : α → Prog σ β) : Prog σ β := fun n s =>
  match x n s with
  | (some a, n', s') => f a n' s'
  | (none, n', s') => (none, n', s')

instance : Monad (Prog σ) where
  pure := ret
  bind := andThen

/-- The next question. -/
def ask (answer : ℕ → α) : Prog σ α := fun n s => (some (answer n), n + 1, s)

/-- The state. -/
def get : Prog σ σ := fun n s => (some s, n, s)

/-- An assignment to the state. -/
def modify (f : σ → σ) : Prog σ Unit := fun n s => (some (), n, f s)

/-- The fuel is used up. -/
def stop : Prog σ α := fun n s => (none, n, s)

/-- `body`, repeated until it has a value. -/
def repeatUntil : ℕ → Prog σ (Option β) → Prog σ β
  | 0, _ => stop
  | fuel + 1, body => do
    match ← body with
    | some b => pure b
    | none => repeatUntil fuel body

/-- `body`, as often as the number says. -/
def times : ℕ → Prog σ Unit → Prog σ Unit
  | 0, _ => pure ()
  | n + 1, body => do
    body
    times n body

end Prog

/-- `x` from `s` ends in `Q`, or has used up its fuel in `R`. -/
def wp (x : Prog σ α) (Q : α → σ → Prop) (R : σ → Prop) (s : σ) : Prop :=
  ∀ n, (∀ a, (x n s).1 = some a → Q a (x n s).2.2) ∧ ((x n s).1 = none → R (x n s).2.2)

variable {Q Q' : α → σ → Prop} {R R' : σ → Prop} {s : σ}

lemma wp_mono {x : Prog σ α} (h : wp x Q R s) (hQ : ∀ a s', Q a s' → Q' a s')
    (hR : ∀ s', R s' → R' s') : wp x Q' R' s :=
  fun n => ⟨fun a ha => hQ a _ ((h n).1 a ha), fun hnone => hR _ ((h n).2 hnone)⟩

/-- What holds however a program stands holds of the state it has reached. -/
lemma wp.holds {P : σ → Prop} {x : Prog σ α} (h : wp x (fun _ => P) P s) (n : ℕ) :
    P (x n s).2.2 := by
  cases hx : (x n s).1 with
  | none => exact (h n).2 hx
  | some a => exact (h n).1 a hx

lemma wp_pure {a : α} (h : Q a s) : wp (pure a) Q R s := by
  intro n
  constructor
  · intro b hb
    cases hb
    exact h
  · nofun

lemma wp_bind {x : Prog σ α} {f : α → Prog σ β} {Q : β → σ → Prop}
    (h : wp x (fun a => wp (f a) Q R) R s) : wp (x >>= f) Q R s := by
  intro n
  change (∀ b, (x.andThen f n s).1 = some b → Q b (x.andThen f n s).2.2) ∧
    ((x.andThen f n s).1 = none → R (x.andThen f n s).2.2)
  obtain ⟨hval, hnone⟩ := h n
  rcases hx : x n s with ⟨_ | a, n', s'⟩
  · rw [hx] at hnone
    simp only [Prog.andThen, hx]
    exact ⟨nofun, fun _ => hnone rfl⟩
  · rw [hx] at hval
    simp only [Prog.andThen, hx]
    exact hval a rfl n'

lemma wp_ask {answer : ℕ → α} (h : ∀ n, Q (answer n) s) : wp (Prog.ask answer) Q R s := by
  intro n
  constructor
  · intro a ha
    cases ha
    exact h n
  · nofun

lemma wp_get {Q : σ → σ → Prop} (h : Q s s) : wp Prog.get Q R s := by
  intro n
  constructor
  · intro a ha
    cases ha
    exact h
  · nofun

lemma wp_modify {f : σ → σ} {Q : Unit → σ → Prop} (h : Q () (f s)) :
    wp (Prog.modify f) Q R s := by
  intro n
  constructor
  · intro a _
    exact h
  · nofun

lemma wp_stop (h : R s) : wp (Prog.stop : Prog σ α) Q R s :=
  fun _ => ⟨nofun, fun _ => h⟩

/-- What the body of a loop preserves holds when the loop ends and when its fuel does. -/
lemma wp_repeatUntil {I : σ → Prop} {body : Prog σ (Option α)}
    (hbody : ∀ s, I s → wp body (fun r s' => match r with
      | some a => Q a s'
      | none => I s') R s)
    (hstop : ∀ s, I s → R s) (fuel : ℕ) (hs : I s) :
    wp (Prog.repeatUntil fuel body) Q R s := by
  induction fuel generalizing s with
  | zero => exact wp_stop (hstop s hs)
  | succ fuel ih =>
    refine wp_bind (wp_mono (hbody s hs) ?_ fun _ h => h)
    intro r s' hr
    cases r with
    | some a => exact wp_pure hr
    | none => exact ih hr

lemma wp_times {I : σ → Prop} {body : Prog σ Unit}
    (hbody : ∀ s, I s → wp body (fun _ => I) R s) (n : ℕ) (hs : I s) :
    wp (Prog.times n body) (fun _ => I) R s := by
  induction n generalizing s with
  | zero => exact wp_pure hs
  | succ n ih => exact wp_bind (wp_mono (hbody s hs) (fun _ _ h => ih h) fun _ h => h)

/-! ### Programs that do not see a part of their state -/

/-- A program does the same from `φ s` as from `s`, and ends in the image of where it ended:
what `φ` changes is neither looked at nor undone. -/
def Commutes (φ : σ → σ) (x : Prog σ α) : Prop :=
  ∀ n s, x n (φ s) = ((x n s).1, (x n s).2.1, φ (x n s).2.2)

section Commutes

variable {φ : σ → σ}

lemma Commutes.pure (a : α) : Commutes φ (Pure.pure a : Prog σ α) := fun _ _ => rfl

lemma Commutes.ask (answer : ℕ → α) : Commutes φ (Prog.ask answer : Prog σ α) := fun _ _ => rfl

lemma Commutes.stop : Commutes φ (Prog.stop : Prog σ α) := fun _ _ => rfl

lemma Commutes.modify {f : σ → σ} (h : ∀ s, f (φ s) = φ (f s)) : Commutes φ (Prog.modify f) := by
  intro n s
  simp only [Prog.modify, h]

lemma Commutes.bind {x : Prog σ α} {f : α → Prog σ β} (hx : Commutes φ x)
    (hf : ∀ a, Commutes φ (f a)) : Commutes φ (x >>= f) := by
  intro n s
  change x.andThen f n (φ s) = _
  change _ = ((x.andThen f n s).1, (x.andThen f n s).2.1, φ (x.andThen f n s).2.2)
  rw [Prog.andThen, hx n s]
  rcases hres : x n s with ⟨_ | a, n', s'⟩
  · simp only [Prog.andThen, hres]
  · simp only [Prog.andThen, hres, hf a n' s']

/-- A use of the state that does not depend on what `φ` changes. -/
lemma Commutes.get_bind {f : σ → Prog σ β} (h : ∀ s, f (φ s) = f s) (hf : ∀ s, Commutes φ (f s)) :
    Commutes φ (Prog.get >>= f) := by
  intro n s
  change f (φ s) n (φ s) = _
  rw [h s, hf s n s]
  rfl

lemma Commutes.repeatUntil {body : Prog σ (Option α)} (h : Commutes φ body) (fuel : ℕ) :
    Commutes φ (Prog.repeatUntil fuel body) := by
  induction fuel with
  | zero => exact .stop
  | succ fuel ih =>
    refine h.bind fun r => ?_
    cases r with
    | some b => exact .pure b
    | none => exact ih

end Commutes

end AntennaMgmt.Lib
