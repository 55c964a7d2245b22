import AntennaMgmt.Lib.Transition

/-!
# Timers that count rounds

A loop raises a counter once a round.  When the counter has reached `n` it is set back and
something falls due, which is done later in the same round, or not at all.  The counter may be set
back at any other time.  What is done in this way is done at most once in `n` rounds.
-/

namespace AntennaMgmt.Lib

/-- Rounds, the latest first, of which each is at least `n` after those before it. -/
def Paced (n : ℕ) : List ℕ → Prop := List.Pairwise fun r r' => r' + n ≤ r

/-- The round, the counter, whether something is due, and the rounds in which it was done, the
latest first. -/
structure Timer where
  round : ℕ
  count : ℕ
  due : Bool
  fired : List ℕ
deriving DecidableEq

/-- What can happen to a timer. -/
inductive TimerAct
  | tick
  | reset
  | expire
  | drop
  | fire
deriving DecidableEq, Repr

namespace Timer

/-- At the start. -/
def init : Timer := ⟨0, 0, false, []⟩

/-- A step of a timer of `n` rounds. -/
def next (n : ℕ) (t : Timer) : TimerAct → Option Timer
  | .tick => if t.due then none else some { t with round := t.round + 1, count := t.count + 1 }
  | .reset => some { t with count := 0 }
  | .expire => if n ≤ t.count then some { t with count := 0, due := true } else none
  | .drop => some { t with due := false }
  | .fire => if t.due then some { t with due := false, fired := t.round :: t.fired } else none

/-- A step of a timer of `n` rounds. -/
def Step (n : ℕ) (t : Timer) (a : TimerAct) (t' : Timer) : Prop := t.next n a = some t'

/-- The counter does not run ahead of the rounds, and what is due has waited. -/
structure Sound (n : ℕ) (t : Timer) : Prop where
  paced : Paced n t.fired
  count_le : ∀ r ∈ t.fired, r + t.count ≤ t.round
  due_le : t.due = true → t.count = 0 ∧ ∀ r ∈ t.fired, r + n ≤ t.round

variable {n : ℕ} {t t' : Timer} {a : TimerAct}

lemma sound_init : init.Sound n where
  paced := List.Pairwise.nil
  count_le _ hr := nomatch hr
  due_le := nofun

lemma Sound.step (h : t.Sound n) (hstep : Step n t a t') : t'.Sound n := by
  unfold Step next at hstep
  cases a with
  | tick =>
    obtain ⟨hdue, hstep⟩ := Option.ite_none_left_eq_some.1 hstep
    obtain rfl := Option.some.inj hstep
    refine ⟨h.paced, fun r hr => ?_, fun hdue' => absurd hdue' hdue⟩
    have hle := h.count_le r hr
    dsimp only
    omega
  | reset =>
    obtain rfl := Option.some.inj hstep
    refine ⟨h.paced, fun r hr => ?_, fun hdue => ⟨rfl, (h.due_le hdue).2⟩⟩
    have hle := h.count_le r hr
    dsimp only
    omega
  | expire =>
    obtain ⟨hcount, hstep⟩ := Option.ite_none_right_eq_some.1 hstep
    obtain rfl := Option.some.inj hstep
    have hwait : ∀ r ∈ t.fired, r + n ≤ t.round := by
      intro r hr
      have hle := h.count_le r hr
      omega
    refine ⟨h.paced, fun r hr => ?_, fun _ => ⟨rfl, hwait⟩⟩
    have hle := h.count_le r hr
    dsimp only
    omega
  | drop =>
    obtain rfl := Option.some.inj hstep
    exact ⟨h.paced, h.count_le, nofun⟩
  | fire =>
    obtain ⟨hdue, hstep⟩ := Option.ite_none_right_eq_some.1 hstep
    obtain rfl := Option.some.inj hstep
    obtain ⟨hcount, hwait⟩ := h.due_le hdue
    refine ⟨List.pairwise_cons.2 ⟨hwait, h.paced⟩, fun r hr => ?_, nofun⟩
    dsimp only
    rcases List.mem_cons.1 hr with rfl | hr
    · omega
    · have hle := h.count_le r hr
      omega

/-- What a timer of `n` rounds sets off is `n` rounds apart. -/
lemma paced_of_run {l : List TimerAct} (h : Run (Step n) init l t) : Paced n t.fired :=
  (h.invariant (fun _ _ _ hs hstep => Sound.step hs hstep) sound_init).paced

end Timer

end AntennaMgmt.Lib
