import AntennaMgmt.Version.System

/-!
# Who confirms a trial

A channel setup should confirm a version only when it reaches a process of that version.  The
process that performs an activation keeps running for some seconds; if no channel was set up
in it before, its first channel setup finds `current` and the record in agreement and confirms
a version that has not been started yet.
-/

namespace AntennaMgmt.Version

open AntennaMgmt.Lib

/-- The event confirms a trial: a channel setup in the process `p`, whose `g_trial_confirmed`
is still unset, finds a record of the version that `current` points to. -/
def Confirms (σ : Sys) (e : Event) (p : Process) : Prop :=
  e = .channelSetup ∧ σ.proc = some p ∧ p.flags.confirmed = false ∧
    ∃ t, trialRead σ.store.trialFile = some t ∧ σ.store.readCurrentLink = t.newDir

/-- The record is of the version that `current` points to. -/
def OnTrial (s : Store) : Prop :=
  ∃ t, trialRead s.trialFile = some t ∧ s.readCurrentLink = t.newDir

/-- The step is a channel setup that removes the record of the version that `current` points to. -/
structure RemovesConfirmed (σ : Sys) (e : Event) (σ' : Sys) : Prop where
  setup : e = .channelSetup
  onTrial : OnTrial σ.store
  removed : σ'.store.trialFile = none

/-- In every run over the events, the record of the current version is removed by a channel setup
only in a process that was started after the switch, and that therefore runs this version. -/
def ConfirmedByNew (σ₀ : Sys) (l : List Event) : Prop :=
  ∀ l₁ e l₂ σ σ', l = l₁ ++ e :: l₂ → Run Step σ₀ l₁ σ → Step σ e σ' → RemovesConfirmed σ e σ' →
    ∃ p, σ.proc = some p ∧ σ.switchedAt < p.startedAt ∧ p.running = σ.store.current

/-- Every step of the activation up to the new link succeeds. -/
def Activation.Switches (a : Activation) (s : Store) : Prop :=
  a.env.clockOk = true ∧ a.env.versionDirExists = true ∧ a.env.metadataOk = true ∧
    (s.readCurrentLink = [] ∨ a.env.rollbackDirOk = true) ∧ a.env.linkOk = true

/-- The process lives on, and no channel is set up. -/
def Event.LivesOn : Event → Prop
  | .activate _ => True
  | .uptime _ _ _ => True
  | _ => False

/-- The order of events that goes wrong: a process without a channel activates another version,
lives on, and gets its first channel setup while the record is of the current version. -/
def SetupBehindSwitch (σ₀ : Sys) (l : List Event) : Prop :=
  ∃ l₁ a l₂ l₃ σ₁ σ₂, l = l₁ ++ .activate a :: (l₂ ++ .channelSetup :: l₃) ∧
    Run Step σ₀ l₁ σ₁ ∧ (∀ p, σ₁.proc = some p → p.flags.confirmed = false) ∧
    a.Switches σ₁.store ∧ σ₁.store.current ≠ some a.target ∧ (∀ e ∈ l₂, e.LivesOn) ∧
    Run Step σ₁ (.activate a :: l₂) σ₂ ∧ OnTrial σ₂.store

/-- The order of the start of a process and the last switch shows in `hasSwitched`. -/
structure SwitchInv (σ : Sys) : Prop where
  before_now : σ.switchedAt < σ.now
  started : ∀ p, σ.proc = some p → p.startedAt < σ.now
  not_switched : ∀ p, σ.proc = some p → p.hasSwitched = false →
    σ.switchedAt < p.startedAt ∧ p.running = σ.store.current
  switched : ∀ p, σ.proc = some p → p.hasSwitched = true → p.startedAt < σ.switchedAt

lemma Sys.Initial.switchInv {σ : Sys} (h : σ.Initial) : SwitchInv σ := by
  obtain ⟨p, hp, hrun, hsw, hlt, hnow⟩ := h.proc
  refine ⟨hlt.trans hnow, fun q hq => ?_, fun q hq _ => ?_, fun q hq hq' => ?_⟩ <;>
    obtain rfl : q = p := Option.some.inj (hq.symm.trans hp)
  · exact hnow
  · exact ⟨hlt, hrun⟩
  · rw [hsw] at hq'
    cases hq'

/-- The switch of an event that leaves no process behind. -/
lemma SwitchInv.tick_none {σ : Sys} (h : SwitchInv σ) (s' : Store) :
    SwitchInv (σ.tick s' none) := by
  have hlt : (σ.tick s' none).switchedAt < σ.now + 1 := by
    have := h.before_now
    simp only [Sys.tick]
    split <;> omega
  have hnone : ∀ p, (σ.tick s' none).proc ≠ some p := fun p hp => Option.some_ne_none p hp.symm
  exact ⟨hlt, fun p hp => absurd hp (hnone p), fun p hp => absurd hp (hnone p),
    fun p hp => absurd hp (hnone p)⟩

/-- An event in a process that leaves the link alone. -/
lemma SwitchInv.tick_same {σ : Sys} (h : SwitchInv σ) {s' : Store} {p : Process}
    (hp : σ.proc = some p) (hcur : s'.current = σ.store.current) (flags : TrialFlags) :
    SwitchInv (σ.tick s' (some { p with flags := flags })) := by
  have hat : (σ.tick s' (some { p with flags := flags })).switchedAt = σ.switchedAt :=
    if_pos hcur
  refine ⟨?_, fun q hq => ?_, fun q hq hsw => ?_, fun q hq hsw => ?_⟩
  · rw [hat]
    exact h.before_now.trans (Nat.lt_succ_self _)
  all_goals cases hq
  · exact (h.started p hp).trans (Nat.lt_succ_self _)
  · rw [hat]
    obtain ⟨hlt, hrun⟩ := h.not_switched p hp hsw
    exact ⟨hlt, hrun.trans hcur.symm⟩
  · rw [hat]
    exact h.switched p hp hsw

/-- An activation marks the process exactly when it moves the link. -/
lemma SwitchInv.tick_switched {σ : Sys} (h : SwitchInv σ) {p : Process} (hp : σ.proc = some p)
    (s' : Store) : SwitchInv (σ.tick s' (some (σ.switched p s'))) := by
  by_cases hcur : s'.current = σ.store.current
  · have hsame : σ.switched p s' = { p with flags := p.flags } := by
      simp [Sys.switched, hcur]
    rw [hsame]
    exact h.tick_same hp hcur p.flags
  · have hat : (σ.tick s' (some (σ.switched p s'))).switchedAt = σ.now := if_neg hcur
    have hstart := h.started p hp
    refine ⟨hat ▸ Nat.lt_succ_self _, fun q hq => ?_, fun q hq hsw => ?_, fun q hq hsw => ?_⟩
    all_goals cases hq
    · exact hstart.trans (Nat.lt_succ_self _)
    · simp [Sys.switched, hcur] at hsw
    · rw [hat]
      exact hstart

lemma versionTrialOnUptime_current (n m : ℕ) (ok : Bool) (s : Store) (p : TrialFlags) :
    (versionTrialOnUptime n m ok s p).1.current = s.current := by
  unfold versionTrialOnUptime
  split_ifs
  · rfl
  · rfl
  · split
    · split <;> rfl
    · rfl

lemma versionManagerInit_current (s : Store) : (versionManagerInit s).current = s.current := by
  unfold versionManagerInit
  split
  · split <;> rfl
  · rfl

lemma switchInv_step {σ σ' : Sys} {e : Event} (h : SwitchInv σ) (hs : Step σ e σ') :
    SwitchInv σ' := by
  rcases step_cases hs with ⟨a, p, rfl, hp, rfl⟩ | ⟨a, k, p, rfl, hp, rfl⟩ | ⟨p, rfl, hp, rfl⟩ |
    ⟨n, m, ok, p, rfl, hp, rfl⟩ | ⟨p, rfl, hp, rfl⟩ | ⟨env, rfl, hp, rfl⟩ | ⟨rfl, hp, rfl⟩
  · exact h.tick_switched hp _
  · exact h.tick_none _
  · exact h.tick_same hp (versionTrialOnChannelEstablished_current _ _) _
  · exact h.tick_same hp (versionTrialOnUptime_current _ _ _ _ _) _
  · exact h.tick_none _
  · exact h.tick_none _
  · -- the new process is started behind the last switch
    have hcur := versionManagerInit_current σ.store
    have hlt := h.before_now
    refine ⟨?_, fun q hq => ?_, fun q hq _ => ?_, fun q hq hsw => ?_⟩
    · simp only [Sys.tick, hcur, if_true]
      omega
    all_goals cases hq
    · exact Nat.lt_succ_self _
    · simp only [Sys.tick, hcur, if_true]
      exact ⟨hlt, trivial⟩
    · cases hsw

/-! ### Where a setup is behind the switch -/

/-- What the region under `g_trial_mutex` does leaves the link alone. -/
lemma applyOps_trialOps_current (env : SwitchEnv) (target current timestamp : Bytes) (trial : Bool)
    (s : Store) :
    (s.applyOps (trialOps env target current timestamp trial)).current = s.current := by
  unfold trialOps SwitchEnv.trialRemove
  dsimp only
  split_ifs <;> rfl

/-- An activation replaces the link when every step up to there succeeds, and else leaves it. -/
lemma Activation.applyOps_current (a : Activation) (s : Store) :
    (a.Switches s ∧ (s.applyOps (a.ops s)).current = some a.target) ∨
      (¬ a.Switches s ∧ (s.applyOps (a.ops s)).current = s.current) := by
  have hops (target current : Bytes) (ops : List StoreOp) :
      s.applyOps (trialOps a.env target current a.timestamp true ++ ops) =
        (s.applyOps (trialOps a.env target current a.timestamp true)).applyOps ops := by
    rw [Store.applyOps, List.foldl_append, ← Store.applyOps, ← Store.applyOps]
  unfold Activation.Switches Activation.ops switchToVersion
  by_cases hclock : a.env.clockOk = true
  · by_cases hdir : a.env.versionDirExists = true
    · by_cases hmeta : a.env.metadataOk = true
      · by_cases hroll : s.readCurrentLink = [] ∨ a.env.rollbackDirOk = true
        · have hroll' : ¬ (s.readCurrentLink ≠ [] ∧ ¬ a.env.rollbackDirOk = true) := by tauto
          simp only [hclock, hdir, hmeta, hroll, hroll', not_true_eq_false, if_false, true_and]
          by_cases hlink : a.env.linkOk = true
          · refine .inl ⟨hlink, ?_⟩
            rw [if_pos hlink, hops]
            rfl
          · refine .inr ⟨hlink, ?_⟩
            have hlast (s' : Store) : (s'.applyOps a.env.trialRemove).current = s'.current := by
              unfold SwitchEnv.trialRemove
              split_ifs <;> rfl
            rw [if_neg hlink, hops, hlast, applyOps_trialOps_current]
        · have hroll' : s.readCurrentLink ≠ [] ∧ ¬ a.env.rollbackDirOk = true := by tauto
          refine .inr ⟨fun h => hroll h.2.2.2.1, ?_⟩
          simp only [hclock, hdir, hmeta, not_true_eq_false, if_false]
          rw [if_pos hroll']
          rfl
      · refine .inr ⟨fun h => hmeta h.2.2.1, ?_⟩
        simp only [hclock, hdir, hmeta, not_true_eq_false, if_false]
        rfl
    · refine .inr ⟨fun h => hdir h.2.1, ?_⟩
      simp only [hclock, hdir, not_true_eq_false, if_false]
      rfl
  · refine .inr ⟨fun h => hclock h.1, ?_⟩
    simp only [hclock]
    rfl

/-- A channel setup sets `g_trial_confirmed`. -/
lemma versionTrialOnChannelEstablished_confirmed (s : Store) (p : TrialFlags) :
    (versionTrialOnChannelEstablished s p).2.confirmed = true := by
  unfold versionTrialOnChannelEstablished
  split_ifs with hp
  · exact hp
  · rfl

lemma versionTrialOnUptime_confirmed (n m : ℕ) (ok : Bool) (s : Store) (p : TrialFlags) :
    (versionTrialOnUptime n m ok s p).2.confirmed = p.confirmed := by
  unfold versionTrialOnUptime
  split_ifs <;> rfl

/-- A process without a channel has moved the link. -/
def SwitchedEarly (σ : Sys) : Prop :=
  ∃ p, σ.proc = some p ∧ p.hasSwitched = true ∧ p.flags.confirmed = false

lemma not_switchedEarly_of_none {σ : Sys} (s' : Store) : ¬ SwitchedEarly (σ.tick s' none) := by
  rintro ⟨p, hp, -⟩
  cases hp

/-- What a process without a channel does lets it stay so only while it lives on. -/
lemma SwitchedEarly.livesOn {σ σ' : Sys} {e : Event} (h : SwitchedEarly σ') (hs : Step σ e σ')
    (hbefore : SwitchedEarly σ) : e.LivesOn := by
  rcases step_cases hs with ⟨a, p, rfl, hp, rfl⟩ | ⟨a, k, p, rfl, hp, rfl⟩ | ⟨p, rfl, hp, rfl⟩ |
    ⟨n, m, ok, p, rfl, hp, rfl⟩ | ⟨p, rfl, hp, rfl⟩ | ⟨env, rfl, hp, rfl⟩ | ⟨rfl, hp, rfl⟩
  · trivial
  · exact absurd h (not_switchedEarly_of_none _)
  · obtain ⟨q, hq, -, hconf⟩ := h
    obtain rfl := Option.some.inj hq
    rw [versionTrialOnChannelEstablished_confirmed] at hconf
    cases hconf
  · trivial
  · exact absurd h (not_switchedEarly_of_none _)
  · exact absurd h (not_switchedEarly_of_none _)
  · obtain ⟨q, hq, -⟩ := hbefore
    rw [hp] at hq
    cases hq

/-- A process without a channel comes to have moved the link by an activation that moves it. -/
lemma SwitchedEarly.activated {σ σ' : Sys} {e : Event} (h : SwitchedEarly σ') (hs : Step σ e σ')
    (hbefore : ¬ SwitchedEarly σ) :
    ∃ a, e = .activate a ∧ (∀ p, σ.proc = some p → p.flags.confirmed = false) ∧
      a.Switches σ.store ∧ σ.store.current ≠ some a.target := by
  rcases step_cases hs with ⟨a, p, rfl, hp, rfl⟩ | ⟨a, k, p, rfl, hp, rfl⟩ | ⟨p, rfl, hp, rfl⟩ |
    ⟨n, m, ok, p, rfl, hp, rfl⟩ | ⟨p, rfl, hp, rfl⟩ | ⟨env, rfl, hp, rfl⟩ | ⟨rfl, hp, rfl⟩
  · obtain ⟨q, hq, hsw, hconf⟩ := h
    obtain rfl := Option.some.inj hq
    have hmoved : (σ.store.applyOps (a.ops σ.store)).current ≠ σ.store.current := by
      intro hsame
      refine hbefore ⟨p, hp, ?_, hconf⟩
      simpa [Sys.switched, hsame] using hsw
    refine ⟨a, rfl, fun q hq => ?_, ?_⟩
    · obtain rfl := Option.some.inj (hp.symm.trans hq)
      exact hconf
    · rcases a.applyOps_current σ.store with ⟨hswitch, hcur⟩ | ⟨-, hcur⟩
      · exact ⟨hswitch, fun hsame => hmoved (hcur.trans hsame.symm)⟩
      · exact absurd hcur hmoved
  · exact absurd h (not_switchedEarly_of_none _)
  · obtain ⟨q, hq, -, hconf⟩ := h
    obtain rfl := Option.some.inj hq
    rw [versionTrialOnChannelEstablished_confirmed] at hconf
    cases hconf
  · obtain ⟨q, hq, hsw, hconf⟩ := h
    obtain rfl := Option.some.inj hq
    rw [versionTrialOnUptime_confirmed] at hconf
    exact absurd ⟨p, hp, hsw, hconf⟩ hbefore
  · exact absurd h (not_switchedEarly_of_none _)
  · exact absurd h (not_switchedEarly_of_none _)
  · obtain ⟨q, hq, hsw, -⟩ := h
    obtain rfl := Option.some.inj hq
    cases hsw

/-- An activation that moves the link, in a process without a channel. -/
lemma switchedEarly_of_activate {σ σ' : Sys} {a : Activation} (hs : Step σ (.activate a) σ')
    (hconf : ∀ p, σ.proc = some p → p.flags.confirmed = false) (hswitch : a.Switches σ.store)
    (hne : σ.store.current ≠ some a.target) : SwitchedEarly σ' := by
  obtain ⟨p, hp, rfl⟩ := Option.map_eq_some_iff.1 hs
  refine ⟨_, rfl, ?_, hconf p hp⟩
  rcases a.applyOps_current σ.store with ⟨-, hcur⟩ | ⟨hnot, -⟩
  · simp [Sys.switched, hcur, Ne.symm hne]
  · exact absurd hswitch hnot

lemma SwitchedEarly.step {σ σ' : Sys} {e : Event} (h : SwitchedEarly σ) (hs : Step σ e σ')
    (hlives : e.LivesOn) : SwitchedEarly σ' := by
  obtain ⟨p, hp, hsw, hconf⟩ := h
  cases e with
  | activate a =>
    obtain ⟨q, hq, rfl⟩ := Option.map_eq_some_iff.1 hs
    obtain rfl := Option.some.inj (hp.symm.trans hq)
    exact ⟨_, rfl, by simp [Sys.switched, hsw], hconf⟩
  | uptime n m ok =>
    obtain ⟨q, hq, rfl⟩ := Option.map_eq_some_iff.1 hs
    obtain rfl := Option.some.inj (hp.symm.trans hq)
    exact ⟨_, rfl, hsw, (versionTrialOnUptime_confirmed n m ok σ.store p.flags).trans hconf⟩
  | powerLoss | channelSetup | exit | guard | start => exact hlives.elim

lemma SwitchedEarly.run {σ σ' : Sys} {l : List Event} (hrun : Run Step σ l σ')
    (h : SwitchedEarly σ) (hlives : ∀ e ∈ l, e.LivesOn) : SwitchedEarly σ' := by
  induction hrun with
  | nil => exact h
  | cons hstep _ ih =>
    exact ih (h.step hstep (hlives _ List.mem_cons_self))
      fun e he => hlives e (List.mem_cons_of_mem _ he)

/-- The first channel setup of a process removes the record of the current version. -/
lemma removesConfirmed_step {σ : Sys} {p : Process} (hp : σ.proc = some p)
    (hconf : p.flags.confirmed = false) (htrial : OnTrial σ.store) :
    ∃ σ', Step σ .channelSetup σ' ∧ RemovesConfirmed σ .channelSetup σ' := by
  refine ⟨_, congrArg (Option.map _) hp, rfl, htrial, ?_⟩
  obtain ⟨t, ht, -⟩ := htrial
  simp only [Sys.tick, versionTrialOnChannelEstablished, hconf, ht]
  rfl

/-- No other does: `g_trial_confirmed` is set from the first one on. -/
lemma RemovesConfirmed.unconfirmed {σ σ' : Sys} {e : Event} (hs : Step σ e σ')
    (h : RemovesConfirmed σ e σ') : ∃ p, σ.proc = some p ∧ p.flags.confirmed = false := by
  obtain ⟨rfl, ⟨t, ht, -⟩, hremoved⟩ := h
  obtain ⟨p, hp, rfl⟩ := Option.map_eq_some_iff.1 hs
  refine ⟨p, hp, ?_⟩
  by_contra hconf
  have hsame : versionTrialOnChannelEstablished σ.store p.flags = (σ.store, p.flags) :=
    if_pos (by simpa using hconf)
  simp only [Sys.tick, hsame] at hremoved
  rw [hremoved] at ht
  cases ht

lemma run_switchInv {σ₀ σ : Sys} {l : List Event} (h : σ₀.Initial) (hrun : Run Step σ₀ l σ) :
    SwitchInv σ :=
  hrun.invariant (fun _ _ _ hinv hs => switchInv_step hinv hs) h.switchInv

/-- Over every sequence of events from a version that runs without a trial record, a trial is
confirmed by the new version only, if and only if no process gets its first channel setup behind
a switch of its own. -/
theorem confirmedByNew_iff_not_setupBehindSwitch {σ₀ : Sys} (h : σ₀.Initial) (l : List Event) :
    ConfirmedByNew σ₀ l ↔ ¬ SetupBehindSwitch σ₀ l := by
  constructor
  · rintro hnew ⟨l₁, a, l₂, l₃, σ₁, σ₂, rfl, hrun, hconf, hswitch, hne, hlives, hlater, htrial⟩
    -- the process is the one of the activation, and started before its switch
    have hearly : SwitchedEarly σ₂ := by
      cases hlater with
      | cons hstep hrest =>
        exact SwitchedEarly.run hrest (switchedEarly_of_activate hstep hconf hswitch hne) hlives
    obtain ⟨p, hp, hsw, hunconf⟩ := hearly
    obtain ⟨σ₃, hsetup, hremoves⟩ := removesConfirmed_step hp hunconf htrial
    have hall : Run Step σ₀ (l₁ ++ .activate a :: l₂) σ₂ := hrun.append hlater
    obtain ⟨q, hq, hlt, -⟩ := hnew _ _ l₃ σ₂ σ₃ (by simp) hall hsetup hremoves
    obtain rfl := Option.some.inj (hp.symm.trans hq)
    have hstarted := (run_switchInv h hall).switched p hp hsw
    omega
  · intro hnot l₁ e l₂ σ σ' hl hrun hstep hremoves
    obtain ⟨p, hp, hconf⟩ := hremoves.unconfirmed hstep
    obtain rfl := hremoves.setup
    cases hsw : p.hasSwitched with
    | false => exact ⟨p, hp, (run_switchInv h hrun).not_switched p hp hsw⟩
    | true =>
      -- the process has moved the link in one of its activations, and lived on since
      rcases hrun.since (P := SwitchedEarly) ⟨p, hp, hsw, hconf⟩ with
        ⟨hstart, -⟩ | ⟨m₁, b, m₂, u, v, rfl, hrun₁, hu, hb, hv, hwithin⟩
      · obtain ⟨q, hq, -, hunswitched, -⟩ := h.proc
        obtain ⟨r, hr, hswitched, -⟩ := hstart
        obtain rfl := Option.some.inj (hq.symm.trans hr)
        rw [hunswitched] at hswitched
        cases hswitched
      · obtain ⟨a, rfl, hunconf, hswitch, hne⟩ := hv.activated hb hu
        have hstays (σ : Sys) (e : Event) (σ' : Sys) (hs : Step σ e σ')
            (hbefore : SwitchedEarly σ) (hafter : SwitchedEarly σ') : e.LivesOn :=
          hafter.livesOn hs hbefore
        have hlives : ∀ e ∈ m₂, e.LivesOn := Run.forall_mem_within hstays hwithin
        refine absurd ⟨m₁, a, m₂, l₂, u, σ, ?_, hrun₁, hunconf, hswitch, hne, hlives,
          .cons hb hwithin.of_within, hremoves.onTrial⟩ hnot
        rw [hl, List.append_assoc, List.cons_append]

/-! ### An activation before the first channel setup -/

/-- The version `V1` runs and no channel was set up yet. -/
def runningV1 : Sys where
  store := ⟨some (ascii "/opt/vendor/versions/V1"), none, false⟩
  proc := some ⟨some (ascii "/opt/vendor/versions/V1"), .init, 1, false⟩
  now := 2
  switchedAt := 0

lemma initial_runningV1 : runningV1.Initial :=
  ⟨rfl, ⟨_, rfl, by decide⟩,
    ⟨_, rfl, rfl, rfl, by decide, by decide⟩⟩

/-- The request to activate `V2`, every step of which succeeds. -/
def activateV2 : Activation where
  version := ascii "V2"
  safe := by decide
  short := by decide
  timestamp := ascii "20250101_000000"
  timestamp_clean := by decide
  env := ⟨true, true, true, true, true, true, true, true⟩

/-- The record of the activation of `V2` over `V1`. -/
def trialV2 : Trial :=
  ⟨ascii "/opt/vendor/versions/V2", ascii "/opt/vendor/versions/V1", 0, ascii "20250101_000000"⟩

lemma clean_trialV2 : trialV2.Clean := by
  decide

/-- `V2` was activated over `V1` and runs on trial. -/
def afterActivation : Sys := (next runningV1 (.activate activateV2)).getD runningV1

lemma onTrial_afterActivation : OnTrial afterActivation.store :=
  ⟨trialV2, trialRead_trialText clean_trialV2, rfl⟩

lemma next_exit_afterActivation :
    next afterActivation .exit = some (afterActivation.tick afterActivation.store none) := rfl

/-- `V2` runs on trial, in a process of its own. -/
def runningV2 : Sys where
  store := afterActivation.store
  proc := some ⟨some trialV2.newDir, .init, 4, false⟩
  now := 5
  switchedAt := 2

lemma next_start_V2 :
    next (afterActivation.tick afterActivation.store none) .start = some runningV2 := by
  have hinit := versionManagerInit_record (s := afterActivation.store) (c := trialV2.newDir) rfl
    ⟨clean_trialV2.newDir_ne_nil, clean_trialV2.newDir⟩ clean_trialV2 rfl
  rw [if_neg (not_not.2 rfl)] at hinit
  show some (Sys.tick _ (versionManagerInit afterActivation.store) _) = _
  rw [hinit]
  rfl

/-- `V2` is activated, the service is restarted and a channel set up: the record is removed, by a
process of `V2`. -/
theorem confirmedByNew_iff_not_setupBehindSwitch_restarted :
    ConfirmedByNew runningV1 [.activate activateV2, .exit, .start, .channelSetup] ∧
      Run Step runningV1 [.activate activateV2, .exit, .start] runningV2 ∧
      ∃ σ, Step runningV2 .channelSetup σ ∧ RemovesConfirmed runningV2 .channelSetup σ := by
  refine ⟨(confirmedByNew_iff_not_setupBehindSwitch initial_runningV1 _).2 ?_,
    .cons rfl (.cons next_exit_afterActivation (.cons next_start_V2 (.nil _))),
    removesConfirmed_step rfl rfl onTrial_afterActivation⟩
  rintro ⟨l₁, a, l₂, l₃, σ₁, σ₂, hl, -, -, -, -, hlives, -⟩
  -- the process ends between the only activation and the setup
  rcases l₁ with _ | ⟨e₁, _ | ⟨e₂, _ | ⟨e₃, _ | ⟨e₄, l₁⟩⟩⟩⟩ <;>
    simp only [List.cons_append, List.nil_append, List.cons.injEq, Event.activate.injEq,
      reduceCtorEq, false_and, and_false] at hl
  · rcases l₂ with _ | ⟨e, l₂⟩ <;>
      simp only [List.cons_append, List.nil_append, List.cons.injEq, reduceCtorEq, false_and,
        and_false] at hl
    obtain ⟨-, rfl, -⟩ := hl
    exact hlives .exit List.mem_cons_self
  · exact absurd hl.2.2.2.2 (by simp)

/-- The process that activated `V2` confirms it. -/
theorem old_process_confirms :
    ∃ σ, σ.Initial ∧ ¬ ConfirmedByNew σ [.activate activateV2, .channelSetup] := by
  refine ⟨runningV1, initial_runningV1, fun h => ?_⟩
  have hactivated : Step runningV1 (.activate activateV2) afterActivation := rfl
  obtain ⟨σ, hsetup, hremoves⟩ := removesConfirmed_step (σ := afterActivation) rfl rfl
    onTrial_afterActivation
  obtain ⟨p, hp, hlt, -⟩ := h [.activate activateV2] .channelSetup [] afterActivation σ rfl
    (.cons hactivated (.nil _)) hsetup hremoves
  obtain rfl := Option.some.inj hp
  exact absurd hlt (by decide)

end AntennaMgmt.Version
