import AntennaMgmt.Lib.Transition
import Mathlib.Logic.Function.Basic

/-!
# Single-flight gates

A flag says whether a task is under way.  A party may enter when the flag is down and raises it;
as long as it is inside it may write the task, hand its place over to another party, or lower the
flag and leave.  Then at most one party is inside at any time, the flag is up exactly while there
is one, and nobody else can touch the task.
-/

namespace AntennaMgmt.Lib

/-- A gate: the flag, what it guards, and who is inside. -/
structure Gate (κ τ : Type*) where
  closed : Bool
  task : τ
  inside : κ → Bool

namespace Gate

variable {κ τ : Type*}

/-- A step of the party `p`. -/
inductive Step [DecidableEq κ] : Gate κ τ → κ → Gate κ τ → Prop
  | pass (g : Gate κ τ) (p : κ) : Step g p g
  | enter {g : Gate κ τ} {p : κ} (task : τ) : g.closed = false →
      Step g p ⟨true, task, Function.update g.inside p true⟩
  | write {g : Gate κ τ} {p : κ} (task : τ) : g.inside p = true → Step g p { g with task := task }
  | hand {g : Gate κ τ} {p : κ} (q : κ) : g.inside p = true →
      Step g p { g with inside := Function.update (Function.update g.inside p false) q true }
  | leave {g : Gate κ τ} {p : κ} (task : τ) : g.inside p = true →
      Step g p ⟨false, task, Function.update g.inside p false⟩

/-- At most one party is inside, and the flag is up while there is one. -/
structure Inv (g : Gate κ τ) : Prop where
  unique : ∀ p q, g.inside p = true → g.inside q = true → p = q
  closed_iff : g.closed = true ↔ ∃ p, g.inside p = true

variable {g g' : Gate κ τ} {p q : κ}

lemma inv_of_open (hclosed : g.closed = false) (hinside : ∀ p, g.inside p = false) : g.Inv where
  unique p _ hp := by
    rw [hinside p] at hp
    cases hp
  closed_iff := by
    rw [hclosed]
    constructor
    · intro h
      cases h
    · rintro ⟨p, hp⟩
      rw [hinside p] at hp
      cases hp

/-- Nobody is inside an open gate. -/
lemma Inv.not_inside (h : g.Inv) (hclosed : g.closed = false) (p : κ) : g.inside p = false := by
  refine Bool.eq_false_iff.2 fun hp => ?_
  rw [h.closed_iff.2 ⟨p, hp⟩] at hclosed
  cases hclosed

/-- A gate with one party inside. -/
lemma inv_of_inside (hclosed : g.closed = true) (hp : g.inside p = true)
    (hother : ∀ q, q ≠ p → g.inside q = false) : g.Inv where
  unique := by
    have hall : ∀ q, g.inside q = true → q = p := by
      intro q hq
      by_contra hne
      rw [hother q hne] at hq
      cases hq
    exact fun q r hq hr => (hall q hq).trans (hall r hr).symm
  closed_iff := ⟨fun _ => ⟨p, hp⟩, fun _ => hclosed⟩

/-- The others are outside. -/
lemma Inv.other (h : g.Inv) (hp : g.inside p = true) (hne : q ≠ p) : g.inside q = false :=
  Bool.eq_false_iff.2 fun hq => hne (h.unique q p hq hp)

variable [DecidableEq κ]

/-- Every step keeps the invariant. -/
lemma Inv.step (h : g.Inv) (hstep : Step g p g') : g'.Inv := by
  cases hstep with
  | pass => exact h
  | enter task hopen =>
    refine inv_of_inside rfl (Function.update_self p true g.inside) fun q hne => ?_
    exact (Function.update_of_ne hne true g.inside).trans (h.not_inside hopen q)
  | write task hp => exact ⟨h.unique, h.closed_iff⟩
  | hand q hp =>
    set outside := Function.update g.inside p false with houtside
    have hnone : ∀ r, outside r = false := by
      intro r
      rcases eq_or_ne r p with rfl | hne
      · exact Function.update_self r false g.inside
      · exact (Function.update_of_ne hne false g.inside).trans (h.other hp hne)
    exact inv_of_inside (h.closed_iff.2 ⟨p, hp⟩) (Function.update_self q true outside)
      fun r hne => (Function.update_of_ne hne true outside).trans (hnone r)
  | leave task hp =>
    refine inv_of_open rfl fun q => ?_
    rcases eq_or_ne q p with rfl | hne
    · exact Function.update_self q false g.inside
    · exact (Function.update_of_ne hne false g.inside).trans (h.other hp hne)

/-- While the gate is closed, who is not inside changes nothing. -/
lemma Step.eq_of_outside (hstep : Step g p g') (hclosed : g.closed = true)
    (hp : g.inside p = false) : g' = g := by
  cases hstep with
  | pass => rfl
  | enter _ hopen =>
    rw [hclosed] at hopen
    cases hopen
  | write _ hinside =>
    rw [hp] at hinside
    cases hinside
  | hand _ hinside =>
    rw [hp] at hinside
    cases hinside
  | leave _ hinside =>
    rw [hp] at hinside
    cases hinside

end Gate

/-- Single flight in a state of a system with a gate: at most one party is active, the flag is up
exactly while there is one, the steps of the others leave the task and the active party alone, and
the active party can go on. -/
structure SingleFlight {σ α κ τ : Type*} (step : σ → α → σ → Prop) (party : α → κ)
    (gate : σ → Gate κ τ) (s : σ) : Prop where
  unique : ∀ p q, (gate s).inside p = true → (gate s).inside q = true → p = q
  closed_iff : (gate s).closed = true ↔ ∃ p, (gate s).inside p = true
  untouched : ∀ a s', step s a s' → (gate s).closed = true → (gate s).inside (party a) = false →
    (gate s').task = (gate s).task ∧ (gate s').inside = (gate s).inside
  goesOn : ∀ p, (gate s).inside p = true → ∃ a s', party a = p ∧ step s a s'

/-- A system whose steps are steps of its gate is single-flight wherever the active party can go
on. -/
lemma singleFlight_of_run {σ α κ τ : Type*} [DecidableEq κ] {step : σ → α → σ → Prop}
    {party : α → κ} {gate : σ → Gate κ τ}
    (hstep : ∀ s a s', step s a s' → Gate.Step (gate s) (party a) (gate s'))
    (hgoesOn : ∀ s p, (gate s).inside p = true → ∃ a s', party a = p ∧ step s a s') {s t : σ}
    {l : List α} (hrun : Run step s l t) (hs : (gate s).Inv) : SingleFlight step party gate t := by
  have hinv : (gate t).Inv :=
    hrun.invariant (fun s a s' (h : (gate s).Inv) hs => h.step (hstep s a s' hs)) hs
  refine ⟨hinv.unique, hinv.closed_iff, fun a s' hs hclosed houtside => ?_, hgoesOn t⟩
  rw [(hstep t a s' hs).eq_of_outside hclosed houtside]
  exact ⟨rfl, rfl⟩

/-! ### Calls and a worker -/

/-- The calls of some threads, each at a position, and one worker, around a shared task. -/
structure Flight (ι P τ : Type*) where
  task : τ
  pc : ι → P
  running : Bool

namespace Flight

variable {ι P τ : Type*}

/-- Who is inside the gate: the calls at certain positions, and the worker (`none`). -/
def holds (inside : P → Bool) (s : Flight ι P τ) : Option ι → Bool
  | none => s.running
  | some t => inside (s.pc t)

/-- The gate, whose flag is a part of the task. -/
def gate (closed : τ → Bool) (inside : P → Bool) (s : Flight ι P τ) : Gate (Option ι) τ :=
  ⟨closed s.task, s.task, s.holds inside⟩

variable [DecidableEq ι]

/-- Move one call. -/
def goto (s : Flight ι P τ) (t : ι) (x : P) : Flight ι P τ :=
  { s with pc := Function.update s.pc t x }

variable {closed : τ → Bool} {inside : P → Bool} {s : Flight ι P τ} {t : ι} {x : P} {task : τ}

lemma holds_goto (s : Flight ι P τ) (t : ι) (x : P) :
    (s.goto t x).holds inside = Function.update (s.holds inside) (some t) (inside x) := by
  ext p
  cases p with
  | none => rfl
  | some u =>
    rcases eq_or_ne u t with rfl | hne
    · rw [Function.update_self, holds, goto]
      exact congrArg inside (Function.update_self u x s.pc)
    · rw [Function.update_of_ne (by simpa using hne), holds, goto]
      exact congrArg inside (Function.update_of_ne hne x s.pc)

lemma holds_running (s : Flight ι P τ) (b : Bool) :
    { s with running := b }.holds inside = Function.update (s.holds inside) none b := by
  ext p
  cases p with
  | none => rfl
  | some u => rfl

lemma gate_goto (s : Flight ι P τ) (t : ι) (x : P) : (s.goto t x).gate closed inside =
    ⟨closed s.task, s.task, Function.update (s.holds inside) (some t) (inside x)⟩ := by
  rw [gate, holds_goto]
  rfl

/-- A call passes the gate. -/
lemma gate_enter (hopen : closed s.task = false) (htask : closed task = true)
    (hx : inside x = true) : Gate.Step (s.gate closed inside) (some t)
      (({ s with task := task }.goto t x).gate closed inside) := by
  rw [gate_goto, hx, htask]
  exact .enter task hopen

/-- A call inside the gate moves on and may write the task. -/
lemma gate_stay (hpc : inside (s.pc t) = true) (hx : inside x = true)
    (htask : closed task = closed s.task) : Gate.Step (s.gate closed inside) (some t)
      (({ s with task := task }.goto t x).gate closed inside) := by
  have hsame : Function.update (s.holds inside) (some t) true = s.holds inside := by
    rw [← hpc]
    exact Function.update_eq_self (some t) (s.holds inside)
  have hgate : ({ s with task := task }.goto t x).gate closed inside =
      { s.gate closed inside with task := task } := by
    rw [gate_goto, hx, htask]
    exact congrArg (Gate.mk _ _) hsame
  rw [hgate]
  exact .write task hpc

/-- A call opens the gate and leaves. -/
lemma gate_leave (hpc : inside (s.pc t) = true) (hx : inside x = false)
    (htask : closed task = false) : Gate.Step (s.gate closed inside) (some t)
      (({ s with task := task }.goto t x).gate closed inside) := by
  rw [gate_goto, hx, htask]
  exact .leave task hpc

/-- A call starts the worker and leaves the gate to it. -/
lemma gate_start (hpc : inside (s.pc t) = true) (hx : inside x = false) :
    Gate.Step (s.gate closed inside) (some t)
      (({ s with running := true }.goto t x).gate closed inside) := by
  rw [gate_goto, hx, holds_running, Function.update_comm (by simp)]
  exact .hand none hpc

/-- The worker writes the task. -/
lemma gate_work (hrunning : s.running = true) (htask : closed task = closed s.task) :
    Gate.Step (s.gate closed inside) none ({ s with task := task }.gate closed inside) := by
  have hgate : { s with task := task }.gate closed inside =
      { s.gate closed inside with task := task } := by
    rw [gate, htask]
    rfl
  rw [hgate]
  exact .write task hrunning

/-- The worker opens the gate and ends. -/
lemma gate_finish (hrunning : s.running = true) (htask : closed task = false) :
    Gate.Step (s.gate closed inside) none
      ({ s with task := task, running := false }.gate closed inside) := by
  have hgate : { s with task := task, running := false }.gate closed inside =
      ⟨false, task, Function.update (s.holds inside) none false⟩ := by
    rw [gate, htask, ← holds_running s false]
    rfl
  rw [hgate]
  exact .leave task hrunning

end Flight

end AntennaMgmt.Lib
