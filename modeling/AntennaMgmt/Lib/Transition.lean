import Mathlib.Data.List.Basic

/-!
# Runs of a labelled transition system

A transition system is a relation `step : σ → α → σ → Prop`; a run is a list of labels with
its two end states.  The file gives the induction rules of runs, the restriction of a system
to the steps that meet a condition, and the predicate `Along` that speaks about every step
of a run.  Nothing here depends on what the states and labels are.
-/

namespace AntennaMgmt.Lib

variable {σ α : Type*} {step step' : σ → α → σ → Prop}

/-- `Run step s l t`: the labels `l`, taken in order from `s`, lead to `t`. -/
inductive Run (step : σ → α → σ → Prop) : σ → List α → σ → Prop
  | nil (s : σ) : Run step s [] s
  | cons {s s' t : σ} {a : α} {l : List α} :
      step s a s' → Run step s' l t → Run step s (a :: l) t

/-- The steps of a system between states that satisfy `P`. -/
def within (step : σ → α → σ → Prop) (P : σ → Prop) (s : σ) (a : α) (s' : σ) : Prop :=
  step s a s' ∧ P s ∧ P s'

namespace Run

lemma append {s t u : σ} {l m : List α} (h : Run step s l t) (h' : Run step t m u) :
    Run step s (l ++ m) u := by
  induction h with
  | nil => exact h'
  | cons hstep _ ih => exact .cons hstep (ih h')

/-- One run after another. -/
lemma exists_append {s t u : σ} (h : ∃ l, Run step s l t) (h' : ∃ l, Run step t l u) :
    ∃ l, Run step s l u := by
  obtain ⟨l, hl⟩ := h
  obtain ⟨m, hm⟩ := h'
  exact ⟨l ++ m, hl.append hm⟩

lemma mono (hle : ∀ s a s', step s a s' → step' s a s') {s t : σ} {l : List α}
    (h : Run step s l t) : Run step' s l t := by
  induction h with
  | nil => exact .nil _
  | cons hstep _ ih => exact .cons (hle _ _ _ hstep) ih

/-- What holds at the start of a run and is preserved by every step holds at its end. -/
lemma invariant {I : σ → Prop} (hI : ∀ s a s', I s → step s a s' → I s') {s t : σ}
    {l : List α} (h : Run step s l t) (hs : I s) : I t := by
  induction h with
  | nil => exact hs
  | cons hstep _ ih => exact ih (hI _ _ _ hs hstep)

/-- A run of a system that is a function ends in one state. -/
lemma eq_of_functional (hdet : ∀ s a s' s'', step s a s' → step s a s'' → s' = s'') {s t u : σ}
    {l : List α} (h : Run step s l t) (h' : Run step s l u) : t = u := by
  induction h with
  | nil => cases h'; rfl
  | cons hstep _ ih =>
    cases h' with
    | cons hstep' hrest =>
      rw [hdet _ _ _ _ hstep' hstep] at hrest
      exact ih hrest

/-- What holds at the end of a run has held all along, or since one of its steps. -/
lemma since {P : σ → Prop} {s t : σ} {l : List α} (h : Run step s l t) (ht : P t) :
    P s ∧ Run (within step P) s l t ∨
      ∃ l₁ a l₂ u v, l = l₁ ++ a :: l₂ ∧ Run step s l₁ u ∧ ¬ P u ∧ step u a v ∧ P v ∧
        Run (within step P) v l₂ t := by
  induction h with
  | nil s => exact .inl ⟨ht, .nil s⟩
  | @cons s s' t a l hstep hrest ih =>
    rcases ih ht with ⟨hs', hwithin⟩ | ⟨l₁, b, l₂, u, v, rfl, hrun, hu, hb, hv, hwithin⟩
    · by_cases hs : P s
      · exact .inl ⟨hs, .cons ⟨hstep, hs, hs'⟩ hwithin⟩
      · exact .inr ⟨[], a, l, s, s', rfl, .nil s, hs, hstep, hs', hwithin⟩
    · exact .inr ⟨a :: l₁, b, l₂, u, v, rfl, .cons hstep hrun, hu, hb, hv, hwithin⟩

/-- A run within a set of states is a run. -/
lemma of_within {P : σ → Prop} {s t : σ} {l : List α} (h : Run (within step P) s l t) :
    Run step s l t :=
  h.mono fun _ _ _ hs => hs.1

/-- What every step within a set of states says about its label. -/
lemma forall_mem_within {P : σ → Prop} {Q : α → Prop}
    (hQ : ∀ s a s', step s a s' → P s → P s' → Q a) {s t : σ} {l : List α}
    (h : Run (within step P) s l t) : ∀ a ∈ l, Q a := by
  induction h with
  | nil => exact fun a ha => absurd ha List.not_mem_nil
  | cons hstep _ ih => exact List.forall_mem_cons.2 ⟨hQ _ _ _ hstep.1 hstep.2.1 hstep.2.2, ih⟩

/-- A run is followed by a run of another system when every step is, or leaves the relation as it
is. -/
lemma simulated {τ β : Type*} {stepT : τ → β → τ → Prop} {R : σ → τ → Prop}
    (hR : ∀ s a s' u, R s u → step s a s' → R s' u ∨ ∃ b u', stepT u b u' ∧ R s' u') {s t : σ}
    {u : τ} {l : List α} (h : Run step s l t) (hs : R s u) :
    ∃ m u', Run stepT u m u' ∧ R t u' := by
  induction h generalizing u with
  | nil => exact ⟨[], u, .nil u, hs⟩
  | cons hstep _ ih =>
    rcases hR _ _ _ _ hs hstep with hsame | ⟨b, u', hu, hs'⟩
    · exact ih hsame
    · obtain ⟨m, v, hrun, hv⟩ := ih hs'
      exact ⟨b :: m, v, .cons hu hrun, hv⟩

end Run

/-- The steps of a system that meet the condition `ok` on the state before and the label. -/
def restrict (step : σ → α → σ → Prop) (ok : σ → α → Prop) (s : σ) (a : α) (s' : σ) : Prop :=
  step s a s' ∧ ok s a

lemma Run.of_restrict {ok : σ → α → Prop} {s t : σ} {l : List α}
    (h : Run (restrict step ok) s l t) : Run step s l t :=
  h.mono fun _ _ _ hs => hs.1

/-- The steps of a partial function, taken in order. -/
lemma Run.of_foldlM {next : σ → α → Option σ} (hnext : ∀ s a s', next s a = some s' → step s a s')
    {s t : σ} {l : List α} (h : l.foldlM next s = some t) : Run step s l t := by
  induction l generalizing s with
  | nil =>
    obtain rfl := Option.some.inj h
    exact .nil s
  | cons a l ih =>
    rw [List.foldlM_cons] at h
    obtain ⟨s', hs', hrest⟩ := Option.bind_eq_some_iff.1 h
    exact .cons (hnext s a s' hs') (ih hrest)

/-- The end of a run of a step function over `l`, when all its steps are possible and meet the
condition. -/
def execute (next : σ → α → Option σ) (ok : σ → α → Prop) [∀ s a, Decidable (ok s a)] (s : σ)
    (l : List α) : Option σ :=
  l.foldlM (fun s a => if ok s a then next s a else none) s

lemma Run.of_execute {next : σ → α → Option σ} {ok : σ → α → Prop} [∀ s a, Decidable (ok s a)]
    {s t : σ} {l : List α} (h : execute next ok s l = some t) :
    Run (restrict (fun s a s' => next s a = some s') ok) s l t := by
  refine Run.of_foldlM (fun s a s' hs' => ?_) h
  obtain ⟨hok, hnext⟩ := Option.ite_none_right_eq_some.1 hs'
  exact ⟨hnext, hok⟩

/-- `Along step p s l`: on every way of taking the labels `l` from `s`, each step starts in a
state that satisfies `p` together with its label. -/
def Along (step : σ → α → σ → Prop) (p : σ → α → Prop) : σ → List α → Prop
  | _, [] => True
  | s, a :: l => p s a ∧ ∀ s', step s a s' → Along step p s' l

/-- Two step predicates agree along every run over `l` when they agree under an invariant, and
the steps that meet the first preserve it. -/
lemma along_congr_of {I : σ → Prop} {p q : σ → α → Prop} {l : List α}
    (hI : ∀ s, I s → ∀ a ∈ l, p s a → ∀ s', step s a s' → I s')
    (hpq : ∀ s, I s → ∀ a ∈ l, (p s a ↔ q s a)) {s : σ} (hs : I s) :
    Along step p s l ↔ Along step q s l := by
  induction l generalizing s with
  | nil => exact Iff.rfl
  | cons a l ih =>
    have ih' : ∀ {s : σ}, I s → (Along step p s l ↔ Along step q s l) :=
      ih (fun s hs b hb => hI s hs b (List.mem_cons_of_mem a hb))
        fun s hs b hb => hpq s hs b (List.mem_cons_of_mem a hb)
    have ha : a ∈ a :: l := List.mem_cons_self
    constructor
    · rintro ⟨hp, hrest⟩
      exact ⟨(hpq s hs a ha).1 hp, fun s' h => (ih' (hI s hs a ha hp s' h)).1 (hrest s' h)⟩
    · rintro ⟨hq, hrest⟩
      have hp := (hpq s hs a ha).2 hq
      exact ⟨hp, fun s' h => (ih' (hI s hs a ha hp s' h)).2 (hrest s' h)⟩

/-- Two step predicates that agree under an invariant agree along every run. -/
lemma along_congr {I : σ → Prop} {p q : σ → α → Prop}
    (hI : ∀ s a s', I s → step s a s' → I s') (hpq : ∀ s a, I s → (p s a ↔ q s a))
    {s : σ} (hs : I s) (l : List α) : Along step p s l ↔ Along step q s l :=
  along_congr_of (fun s h a _ _ s' => hI s a s' h) (fun s h a _ => hpq s a h) hs

end AntennaMgmt.Lib
