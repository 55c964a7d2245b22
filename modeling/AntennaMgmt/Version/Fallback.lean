import AntennaMgmt.Version.Activation

/-!
# What a trial falls back to

The record of a trial names the directory to fall back to.  It is the one that `current` pointed
to when the activation was made, whether that version was itself on trial or not: the record is
not looked at.
-/

namespace AntennaMgmt.Version

open AntennaMgmt.Lib

/-- There is no record of the version that `current` points to. -/
def NoPendingTrial (s : Store) : Prop :=
  ∀ t, trialRead s.trialFile = some t → s.readCurrentLink ≠ t.newDir

/-- The version `dir` is the running one and has no trial pending. -/
def RunsProven (σ : Sys) (dir : Bytes) : Prop :=
  σ.store.current = some dir ∧ (∃ p, σ.proc = some p ∧ p.running = some dir) ∧
    NoPendingTrial σ.store

/-- The event is an activation of the version in `dir`, cut short or not. -/
def Event.Activates (dir : Bytes) : Event → Prop
  | .activate a => a.target = dir
  | .powerLoss a _ => a.target = dir
  | _ => False

/-- There is a record of a trial of `new` that falls back to `prev`, written at `time`. -/
def HasRecord (new prev time : Bytes) (s : Store) : Prop :=
  ∃ t : Trial, s.trialFile = some (trialText t) ∧ t.Clean ∧ t.newDir = new ∧ t.prevDir = prev ∧
    t.time = time

/-- The step writes the record of a trial of `new` that falls back to `prev`: it is an activation
of `new` while `prev` is current, and the record is not there before it and there after it. -/
structure Arms (new prev time : Bytes) (σ : Sys) (e : Event) (σ' : Sys) : Prop where
  activates : e.Activates new
  current : σ.store.current = some prev
  ne : new ≠ prev
  running : σ.proc.isSome
  before : ¬ HasRecord new prev time σ.store
  after : HasRecord new prev time σ'.store

variable {new prev time : Bytes} {s : Store}

lemma not_hasRecord_of_none (h : s.trialFile = none) : ¬ HasRecord new prev time s := by
  rintro ⟨t, hfile, -⟩
  rw [h] at hfile
  cases hfile

lemma HasRecord.of_writeTrial {t : Trial} (ht : t.Clean)
    (h : HasRecord new prev time (s.writeTrial t)) :
    t.newDir = new ∧ t.prevDir = prev ∧ t.time = time := by
  obtain ⟨u, hfile, hu, hnames⟩ := h
  have hread := congrArg (fun file => file.map guardRead) hfile
  simp only [writeTrial_trialFile, Option.map_some, Option.some.injEq, guardRead_trialText ht,
    guardRead_trialText hu] at hread
  rw [hread]
  exact hnames

/-- A change by an activation leaves the record, drops it or arms the new one. -/
lemma HasRecord.of_applyOps {ops : List StoreOp} {target c timestamp : Bytes}
    (hclean : (⟨target, c, 0, timestamp⟩ : Trial).Clean)
    (hops : ∀ op ∈ ops, op = .putTrial ⟨target, c, 0, timestamp⟩ ∨ op = .dropTrial ∨
      op = .setCurrent target)
    (h : HasRecord new prev time (s.applyOps ops)) :
    HasRecord new prev time s ∨
      .putTrial ⟨target, c, 0, timestamp⟩ ∈ ops ∧ new = target ∧ prev = c := by
  induction ops generalizing s with
  | nil => exact .inl h
  | cons op ops ih =>
    rcases ih (fun op' hop' => hops op' (List.mem_cons_of_mem _ hop')) h with h | ⟨hmem, heq⟩
    · rcases hops op List.mem_cons_self with rfl | rfl | rfl
      · obtain ⟨hnew, hprev, -⟩ := HasRecord.of_writeTrial hclean h
        exact .inr ⟨List.mem_cons_self, hnew.symm, hprev.symm⟩
      · exact absurd h (not_hasRecord_of_none rfl)
      · exact .inl h
    · exact .inr ⟨List.mem_cons_of_mem _ hmem, heq⟩

/-- An activation, cut short or not, leaves the record, drops it or arms the new one. -/
lemma HasRecord.of_activation (a : Activation) (k : ℕ) {c : Bytes} (hcur : s.current = some c)
    (hc : CleanDir c) (h : HasRecord new prev time (s.applyOps ((a.ops s).take k))) :
    HasRecord new prev time s ∨ a.target = new ∧ s.current = some prev ∧ new ≠ prev := by
  have htarget := a.cleanDir_target
  have hclean : (⟨a.target, c, 0, a.timestamp⟩ : Trial).Clean :=
    ⟨htarget.ne_nil, htarget.field, hc.field, a.timestamp_clean, show 0 < 2 ^ 64 by decide⟩
  have hkinds : ∀ op ∈ (a.ops s).take k,
      (op = .putTrial ⟨a.target, c, 0, a.timestamp⟩ ∧ a.target ≠ c) ∨ op = .dropTrial ∨
        op = .setCurrent a.target := fun op hop => a.mem_ops hcur hc (List.mem_of_mem_take hop)
  rcases HasRecord.of_applyOps hclean (fun op hop => (hkinds op hop).imp_left And.left) h with
    h | ⟨hmem, rfl, rfl⟩
  · exact .inl h
  · rcases hkinds _ hmem with ⟨-, hne⟩ | hdrop | hset
    · exact .inr ⟨rfl, hcur, hne⟩
    · cases hdrop
    · cases hset

/-- The steps that are no activation write no names into a record. -/
lemma HasRecord.of_guard (hs : s.WF) (env : GuardEnv)
    (h : HasRecord new prev time (upgradeGuard env s)) : HasRecord new prev time s := by
  obtain ⟨c, hcur, hc⟩ := hs.current
  rcases hs.trial with hnone | ⟨t, ht, -, hfile⟩
  · rwa [upgradeGuard_none env hnone] at h
  · rw [upgradeGuard_record env hcur hc ht hfile] at h
    split_ifs at h with h₁ h₂ h₃ h₄ h₅
    · exact absurd h (not_hasRecord_of_none rfl)
    · have hnames := HasRecord.of_writeTrial (ht.succ h₂) h
      exact ⟨t, hfile, ht, hnames⟩
    · exact h
    · exact absurd h (not_hasRecord_of_none rfl)
    · exact absurd h (not_hasRecord_of_none rfl)
    · exact absurd h (not_hasRecord_of_none rfl)

lemma HasRecord.of_channelSetup (p : TrialFlags)
    (h : HasRecord new prev time (versionTrialOnChannelEstablished s p).1) :
    HasRecord new prev time s := by
  by_cases hsame : (versionTrialOnChannelEstablished s p).1.trialFile = s.trialFile
  · unfold HasRecord at h ⊢
    rwa [hsame] at h
  · exact absurd h (not_hasRecord_of_none (versionTrialOnChannelEstablished_trialFile hsame))

lemma HasRecord.of_uptime (hs : s.WF) (n m : ℕ) (ok : Bool) (p : TrialFlags)
    (h : HasRecord new prev time (versionTrialOnUptime n m ok s p).1) :
    HasRecord new prev time s := by
  obtain ⟨c, hcur, hc⟩ := hs.current
  rcases hs.trial with hnone | ⟨t, ht, -, hfile⟩
  · rwa [versionTrialOnUptime_none n m ok p hnone] at h
  · rw [versionTrialOnUptime_record n m ok hcur hc ht hfile] at h
    split_ifs at h
    · have hzero : ({ t with attempts := 0 } : Trial).Clean :=
        ⟨ht.newDir_ne_nil, ht.newDir, ht.prevDir, ht.time, show 0 < 2 ^ 64 by decide⟩
      have hnames := HasRecord.of_writeTrial hzero h
      exact ⟨t, hfile, ht, hnames⟩
    · exact h

lemma HasRecord.of_init (hs : s.WF) (h : HasRecord new prev time (versionManagerInit s)) :
    HasRecord new prev time s := by
  obtain ⟨c, hcur, hc⟩ := hs.current
  rcases hs.trial with hnone | ⟨t, ht, -, hfile⟩
  · rwa [versionManagerInit_none hnone] at h
  · rw [versionManagerInit_record hcur hc ht hfile] at h
    split_ifs at h
    · exact absurd h (not_hasRecord_of_none rfl)
    · exact h

/-- A record that was not there before the step was armed by it. -/
lemma arms_of_step {σ σ' : Sys} {e : Event} (hwf : σ.store.WF) (hs : Step σ e σ')
    (hbefore : ¬ HasRecord new prev time σ.store) (h : HasRecord new prev time σ'.store) :
    Arms new prev time σ e σ' := by
  obtain ⟨c, hcur, hc⟩ := hwf.current
  have hafter := h
  rcases step_cases hs with ⟨a, p, rfl, hp, rfl⟩ | ⟨a, k, p, rfl, hp, rfl⟩ | ⟨p, rfl, hp, rfl⟩ |
    ⟨n, m, ok, p, rfl, hp, rfl⟩ | ⟨p, rfl, hp, rfl⟩ | ⟨env, rfl, hp, rfl⟩ | ⟨rfl, hp, rfl⟩
  · have hall : HasRecord new prev time
        (σ.store.applyOps ((a.ops σ.store).take (a.ops σ.store).length)) := by
      rw [List.take_length]
      exact h
    obtain ⟨htarget, hprev, hne⟩ :=
      (HasRecord.of_activation a _ hcur hc hall).resolve_left hbefore
    exact ⟨htarget, hprev, hne, by rw [hp]; rfl, hbefore, hafter⟩
  · obtain ⟨htarget, hprev, hne⟩ := (HasRecord.of_activation a k hcur hc h).resolve_left hbefore
    exact ⟨htarget, hprev, hne, by rw [hp]; rfl, hbefore, hafter⟩
  · exact absurd (HasRecord.of_channelSetup p.flags h) hbefore
  · exact absurd (HasRecord.of_uptime hwf n m ok p.flags h) hbefore
  · exact absurd h hbefore
  · exact absurd (HasRecord.of_guard hwf env h) hbefore
  · exact absurd (HasRecord.of_init hwf h) hbefore

/-- Along every run from a version running without a trial record, the fallback of a record is the
directory that `current` pointed to, and not the new one, when the activation ran that wrote the
record; since then the record has been there.  When no trial of that version was pending and the
process had not itself moved `current`, it is a version that was running with no trial pending. -/
theorem fallback_was_current {σ₀ σ : Sys} (h : σ₀.Initial) {l : List Event}
    (hrun : Run Step σ₀ l σ) {t : Trial} (ht : trialRead σ.store.trialFile = some t) :
    ∃ l₁ e l₂ σ₁ σ₂, l = l₁ ++ e :: l₂ ∧ Run Step σ₀ l₁ σ₁ ∧ Step σ₁ e σ₂ ∧
      Arms t.newDir t.prevDir t.time σ₁ e σ₂ ∧
      Run (within Step fun τ => HasRecord t.newDir t.prevDir t.time τ.store) σ₂ l₂ σ ∧
      (NoPendingTrial σ₁.store → (∀ p, σ₁.proc = some p → p.hasSwitched = false) →
        RunsProven σ₁ t.prevDir) := by
  have hI : ∀ σ e σ', σ.store.WF ∧ SwitchInv σ → Step σ e σ' → σ'.store.WF ∧ SwitchInv σ' :=
    fun _ _ _ hinv hs => ⟨wf_step hinv.1 hs, switchInv_step hinv.2 hs⟩
  have hinit : σ₀.store.WF ∧ SwitchInv σ₀ := ⟨⟨h.current, .inl h.trialFile⟩, h.switchInv⟩
  have hrecord : HasRecord t.newDir t.prevDir t.time σ.store := by
    obtain ⟨-, hnone | ⟨u, hu, -, hfile⟩⟩ := (hrun.invariant hI hinit).1
    · rw [hnone] at ht
      cases ht
    · rw [hfile, trialRead_trialText hu, Option.some.injEq] at ht
      exact ⟨u, hfile, hu, by rw [← ht], by rw [← ht], by rw [← ht]⟩
  -- no record is there at the start, so one of the steps has armed it
  rcases hrun.since (P := fun σ => HasRecord t.newDir t.prevDir t.time σ.store) hrecord with
    ⟨hold, -⟩ | ⟨l₁, e, l₂, σ₁, σ₂, hl, hrun₁, hbefore, hstep, hafter, hlater⟩
  · exact absurd hold (not_hasRecord_of_none h.trialFile)
  · have hinv := hrun₁.invariant hI hinit
    have harms := arms_of_step hinv.1 hstep hbefore hafter
    refine ⟨l₁, e, l₂, σ₁, σ₂, hl, hrun₁, hstep, harms, hlater, fun hpending hswitched => ?_⟩
    obtain ⟨p, hp⟩ := Option.isSome_iff_exists.1 harms.running
    have hrunning := (hinv.2.not_switched p hp (hswitched p hp)).2
    exact ⟨harms.current, ⟨p, hp, hrunning.trans harms.current⟩, hpending⟩

lemma trialRead_afterActivation :
    trialRead afterActivation.store.trialFile = some trialV2 :=
  trialRead_trialText clean_trialV2

/-- The record of `V2` was written by its activation over `V1`, which ran with no trial pending. -/
theorem fallback_was_current_afterActivation :
    ∃ l₁ e l₂ σ₁ σ₂, [.activate activateV2] = l₁ ++ e :: l₂ ∧ Run Step runningV1 l₁ σ₁ ∧
      Arms trialV2.newDir trialV2.prevDir trialV2.time σ₁ e σ₂ ∧ RunsProven σ₁ trialV2.prevDir := by
  have hstep : Step runningV1 (.activate activateV2) afterActivation := rfl
  obtain ⟨l₁, e, l₂, σ₁, σ₂, hl, hrun, -, harms, -, hproven⟩ :=
    fallback_was_current initial_runningV1 (.cons hstep (.nil _)) trialRead_afterActivation
  obtain rfl : l₁ = [] := by
    rcases l₁ with _ | ⟨e₁, l₁⟩
    · rfl
    · simp at hl
  cases hrun
  refine ⟨[], e, l₂, runningV1, σ₂, hl, .nil _, harms, hproven ?_ ?_⟩
  · intro t ht
    cases ht
  · intro p hp
    obtain rfl := Option.some.inj hp
    rfl

/-! ### An activation while a trial is pending -/

/-- `V3` was activated over `V2`. -/
def afterSecondActivation : Sys := (next runningV2 (.activate activateV3)).getD runningV2

/-- The record that this activation has armed. -/
def trialV3 : Trial := armedTrial activateV3.target trialV2.newDir activateV3.timestamp

lemma clean_trialV3 : trialV3.Clean := by
  constructor <;> decide

/-- `V2` never runs without its trial pending, and still the trial of `V3` falls back to it. -/
theorem fallback_on_trial :
    ¬ ∀ σ₀ l σ t, σ₀.Initial → Run Step σ₀ l σ → trialRead σ.store.trialFile = some t →
      ∃ l₁ l₂ σ₁, l = l₁ ++ l₂ ∧ Run Step σ₀ l₁ σ₁ ∧ RunsProven σ₁ t.prevDir := by
  intro hall
  have hdet : ∀ (σ : Sys) e σ' σ'', Step σ e σ' → Step σ e σ'' → σ' = σ'' :=
    fun _ _ _ _ h h' => Option.some.inj (h.symm.trans h')
  have h₁ : Step runningV1 (.activate activateV2) afterActivation := rfl
  have h₂ : Step afterActivation .exit _ := next_exit_afterActivation
  have h₃ : Step _ .start runningV2 := next_start_V2
  have h₄ : Step runningV2 (.activate activateV3) afterSecondActivation := rfl
  have hread : trialRead afterSecondActivation.store.trialFile = some trialV3 :=
    trialRead_trialText clean_trialV3
  obtain ⟨l₁, l₂, σ₁, hl, hrun, hcur, ⟨p, hp, hrunning⟩, hpending⟩ :=
    hall runningV1 [.activate activateV2, .exit, .start, .activate activateV3]
      afterSecondActivation trialV3 initial_runningV1
      (.cons h₁ (.cons h₂ (.cons h₃ (.cons h₄ (.nil _))))) hread
  have hprev : trialV3.prevDir = trialV2.newDir := by decide
  rw [hprev] at hcur hrunning
  -- the states that the run goes through, one after the other
  rcases l₁ with _ | ⟨e₁, _ | ⟨e₂, _ | ⟨e₃, _ | ⟨e₄, _ | ⟨e₅, l₁⟩⟩⟩⟩⟩ <;>
    simp only [List.cons_append, List.nil_append, List.cons.injEq] at hl
  · obtain rfl := hrun.eq_of_functional hdet (.nil _)
    cases hp
    exact absurd hrunning (by decide)
  · obtain ⟨rfl, -⟩ := hl
    obtain rfl := hrun.eq_of_functional hdet (.cons h₁ (.nil _))
    cases hp
    exact absurd hrunning (by decide)
  · obtain ⟨rfl, rfl, -⟩ := hl
    obtain rfl := hrun.eq_of_functional hdet (.cons h₁ (.cons h₂ (.nil _)))
    cases hp
  · obtain ⟨rfl, rfl, rfl, -⟩ := hl
    obtain rfl := hrun.eq_of_functional hdet (.cons h₁ (.cons h₂ (.cons h₃ (.nil _))))
    exact hpending trialV2 (trialRead_trialText clean_trialV2) (by decide)
  · obtain ⟨rfl, rfl, rfl, rfl, -⟩ := hl
    obtain rfl := hrun.eq_of_functional hdet
      (.cons h₁ (.cons h₂ (.cons h₃ (.cons h₄ (.nil _)))))
    exact absurd hcur (by decide)
  · exact absurd hl.2.2.2.2 nofun

end AntennaMgmt.Version
