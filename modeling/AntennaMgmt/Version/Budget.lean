import AntennaMgmt.Version.Confirm
import Mathlib.Logic.Function.Iterate

/-!
# The start budget of a trial

Before each start the script counts the start in the record, until the budget is used up and it
falls back to the previous version.
-/

namespace AntennaMgmt.Version

open AntennaMgmt.Lib

/-- One of the next `n` runs of the script finds the budget used up, from `a` starts on. -/
def RunsOut (limit a n : ℕ) : Prop := ∃ i < n, shellLt (a + i) limit = false

/-- A limit that bash can compare. -/
lemma shellLt_of_lt {a limit : ℕ} (h : limit < 2 ^ 63) : shellLt a limit = decide (a < limit) := by
  rw [Bool.eq_iff_iff, shellLt_iff, decide_eq_true_iff]
  omega

lemma runsOut_iff {limit a n : ℕ} (h : limit < 2 ^ 63) (ha : a ≤ limit) :
    RunsOut limit a n ↔ limit < a + n := by
  constructor
  · rintro ⟨i, hi, hlt⟩
    rw [shellLt_of_lt h, decide_eq_false_iff_not] at hlt
    omega
  · intro hlt
    refine ⟨limit - a, by omega, ?_⟩
    rw [shellLt_of_lt h, decide_eq_false_iff_not]
    omega

/-- The first run of the script decides, or the later ones do. -/
lemma runsOut_succ {limit a n : ℕ} :
    RunsOut limit a (n + 1) ↔ shellLt a limit = false ∨ RunsOut limit (a + 1) n := by
  constructor
  · rintro ⟨i, hi, hlt⟩
    cases i with
    | zero => exact .inl hlt
    | succ i => exact .inr ⟨i, by omega, by rwa [Nat.add_right_comm]⟩
  · rintro (hlt | ⟨i, hi, hlt⟩)
    · exact ⟨0, by omega, hlt⟩
    · exact ⟨i + 1, by omega, by rwa [Nat.add_right_comm] at hlt⟩

/-- The next `n` runs of the script find the budget used up, from `a` starts on; a start counts
only when the record can be written. -/
def GuardEnv.UsesUp (env : GuardEnv) (a n : ℕ) : Prop :=
  if env.recordOk = true then RunsOut env.limit a n
  else 0 < n ∧ shellLt a env.limit = false

lemma GuardEnv.usesUp_succ {env : GuardEnv} {a n : ℕ} :
    env.UsesUp a (n + 1) ↔
      shellLt a env.limit = false ∨ env.UsesUp (if env.recordOk = true then a + 1 else a) n := by
  unfold GuardEnv.UsesUp
  split_ifs with hrec
  · exact runsOut_succ
  · constructor
    · exact fun h => .inl h.2
    · rintro (h | h)
      · exact ⟨Nat.succ_pos n, h⟩
      · exact ⟨Nat.succ_pos n, h.2⟩

/-- There is no version to fall back to, or the link cannot be replaced. -/
def GuardEnv.CannotFallBack (env : GuardEnv) (prev : Bytes) : Prop :=
  prev = [] ∨ env.hasExecutable prev = false ∨ env.linkOk = false

instance (env : GuardEnv) (prev : Bytes) : Decidable (env.CannotFallBack prev) :=
  inferInstanceAs (Decidable (_ ∨ _ ∨ _))

/-- The store after the budget is used up. -/
def fallBack (env : GuardEnv) (s : Store) (t : Trial) : Store :=
  if env.CannotFallBack t.prevDir then s.removeTrial
  else { current := some t.prevDir, trialFile := none, notice := true }

/-- What the script does when the budget is used up. -/
lemma fallBack_eq (env : GuardEnv) (s : Store) (t : Trial) :
    fallBack env s t =
      if t.prevDir = [] ∨ env.hasExecutable t.prevDir = false then s.removeTrial
      else if env.linkOk then { current := some t.prevDir, trialFile := none, notice := true }
      else s.removeTrial := by
  rw [fallBack]
  by_cases hprev : t.prevDir = [] ∨ env.hasExecutable t.prevDir = false
  · have hcannot : env.CannotFallBack t.prevDir := hprev.imp_right .inl
    rw [if_pos hcannot, if_pos hprev]
  · rw [if_neg hprev]
    by_cases hlink : env.linkOk = true
    · have hcan : ¬ env.CannotFallBack t.prevDir := by
        rintro (hnil | hexec | hfail)
        · exact hprev (.inl hnil)
        · exact hprev (.inr hexec)
        · rw [hlink] at hfail
          cases hfail
      rw [if_neg hcan, if_pos hlink]
    · have hcannot : env.CannotFallBack t.prevDir := .inr (.inr (by simpa using hlink))
      rw [if_pos hcannot, if_neg hlink]

lemma fallBack_trialFile (env : GuardEnv) (s : Store) (t : Trial) :
    (fallBack env s t).trialFile = none := by
  unfold fallBack
  split <;> rfl

lemma iterate_upgradeGuard_none (env : GuardEnv) {s : Store} (h : s.trialFile = none) (n : ℕ) :
    (upgradeGuard env)^[n] s = s :=
  Function.iterate_fixed (upgradeGuard_none env h) n

lemma Trial.Clean.succ {t : Trial} (h : t.Clean) {limit : ℕ}
    (hlt : shellLt t.attempts limit = true) :
    ({ t with attempts := t.attempts + 1 } : Trial).Clean := by
  have hsmall := (shellLt_iff.1 hlt).1
  exact ⟨h.newDir_ne_nil, h.newDir, h.prevDir, h.time, by simp only; omega⟩

/-- The script run `n` times on the record of the version that `current` names. -/
lemma iterate_upgradeGuard_cases (env : GuardEnv) (n : ℕ) {s : Store} {t : Trial}
    (hcur : s.current = some t.newDir) (ht : t.Clean) (hfile : s.trialFile = some (trialText t)) :
    ¬ env.UsesUp t.attempts n ∧ (upgradeGuard env)^[n] s =
        s.writeTrial { t with attempts := t.attempts + if env.recordOk = true then n else 0 } ∨
      env.UsesUp t.attempts n ∧ (upgradeGuard env)^[n] s = fallBack env s t := by
  induction n generalizing s t with
  | zero =>
    refine .inl ⟨?_, ?_⟩
    · unfold GuardEnv.UsesUp
      split_ifs
      · exact fun ⟨i, hi, _⟩ => absurd hi (Nat.not_lt_zero i)
      · exact fun h => absurd h.1 (Nat.not_lt_zero 0)
    · rw [Function.iterate_zero_apply, ite_self, Nat.add_zero, Store.writeTrial, ← hfile]
  | succ n ih =>
    have hc : CleanDir t.newDir := ⟨ht.newDir_ne_nil, ht.newDir⟩
    have hguard := upgradeGuard_record env hcur hc ht hfile
    rw [if_neg (not_not.2 rfl), ← fallBack_eq] at hguard
    rw [Function.iterate_succ_apply, hguard, GuardEnv.usesUp_succ]
    cases hlt : shellLt t.attempts env.limit with
    | false =>
      rw [if_neg Bool.false_ne_true, iterate_upgradeGuard_none env (fallBack_trialFile env s t)]
      exact .inr ⟨.inl rfl, rfl⟩
    | true =>
      rw [if_pos rfl]
      by_cases hrec : env.recordOk = true
      · -- the count in the record has moved on, everything else is the same
        have hadd : t.attempts + 1 + n = t.attempts + (n + 1) := by omega
        have hlater := @ih (s.writeTrial { t with attempts := t.attempts + 1 })
          { t with attempts := t.attempts + 1 } hcur (ht.succ hlt) rfl
        simp only [if_pos hrec] at hlater ⊢
        rcases hlater with ⟨hrun, hs⟩ | ⟨hrun, hs⟩
        · rw [hs, hadd]
          exact .inl ⟨fun h => h.elim Bool.noConfusion hrun, rfl⟩
        · rw [hs]
          exact .inr ⟨.inr hrun, rfl⟩
      · -- the start was not counted
        have hlater := ih hcur ht hfile
        simp only [if_neg hrec] at hlater ⊢
        rcases hlater with ⟨hrun, hs⟩ | ⟨hrun, hs⟩
        · exact .inl ⟨fun h => h.elim Bool.noConfusion hrun, hs⟩
        · exact .inr ⟨.inr hrun, hs⟩

/-- The script run `n` times when the record can be written. -/
lemma iterate_upgradeGuard_record {env : GuardEnv} (hrec : env.recordOk = true) (n : ℕ) {s : Store}
    {t : Trial} (hcur : s.current = some t.newDir) (ht : t.Clean)
    (hfile : s.trialFile = some (trialText t)) :
    ¬ RunsOut env.limit t.attempts n ∧
        (upgradeGuard env)^[n] s = s.writeTrial { t with attempts := t.attempts + n } ∨
      RunsOut env.limit t.attempts n ∧ (upgradeGuard env)^[n] s = fallBack env s t := by
  have hcases := iterate_upgradeGuard_cases env n hcur ht hfile
  simpa only [GuardEnv.UsesUp, if_pos hrec] using hcases

/-! ### Starts of the service -/

inductive ServiceEvent
  | guard
  | start
deriving DecidableEq, Repr

/-- The store and, for every start of the program so far, the version that was started. -/
structure Service where
  store : Store
  started : List (Option Bytes)

/-- A run of the script or a start of the program. -/
def serviceStep (env : GuardEnv) (v : Service) : ServiceEvent → Service
  | .guard => { v with store := upgradeGuard env v.store }
  | .start =>
    { store := versionManagerInit v.store, started := v.started ++ [v.store.current] }

def runService (env : GuardEnv) (v : Service) (es : List ServiceEvent) : Service :=
  es.foldl (serviceStep env) v

/-- The order of systemd: the script before every start of the program. -/
def serviceStarts (m : ℕ) : List ServiceEvent :=
  (List.replicate m [ServiceEvent.guard, ServiceEvent.start]).flatten

/-- The store of a trial after `g` runs of the script. -/
def budgetStore (env : GuardEnv) (s : Store) (t : Trial) (g : ℕ) : Store :=
  if g ≤ env.limit then s.writeTrial { t with attempts := g } else fallBack env s t

section

variable {env : GuardEnv} {s : Store} {t : Trial}

lemma iterate_upgradeGuard_budget (hrec : env.recordOk = true)
    (hlimit : env.limit < 2 ^ 63) (hcur : s.current = some t.newDir) (ht : t.Clean)
    (hzero : t.attempts = 0) (hfile : s.trialFile = some (trialText t)) (g : ℕ) :
    (upgradeGuard env)^[g] s = budgetStore env s t g := by
  have hruns : RunsOut env.limit t.attempts g ↔ ¬ g ≤ env.limit := by
    rw [runsOut_iff hlimit (hzero ▸ Nat.zero_le _), hzero]
    omega
  rcases iterate_upgradeGuard_record hrec g hcur ht hfile with ⟨hrun, hs⟩ | ⟨hrun, hs⟩
  · rw [hs, budgetStore, if_pos (not_not.1 (mt hruns.2 hrun)), hzero, Nat.zero_add]
  · rw [hs, budgetStore, if_neg (hruns.1 hrun)]

/-- A start of the program finds nothing stale. -/
lemma versionManagerInit_budget (hlimit : env.limit < 2 ^ 63) (hcur : s.current = some t.newDir)
    (ht : t.Clean) (g : ℕ) :
    versionManagerInit (budgetStore env s t g) = budgetStore env s t g := by
  unfold budgetStore
  split
  · have hg : ({ t with attempts := g } : Trial).Clean :=
      ⟨ht.newDir_ne_nil, ht.newDir, ht.prevDir, ht.time, by simp only; omega⟩
    have hinit := versionManagerInit_record (s := s.writeTrial { t with attempts := g }) hcur
      ⟨ht.newDir_ne_nil, ht.newDir⟩ hg rfl
    rw [hinit, if_neg (not_not.2 rfl)]
  · exact versionManagerInit_none (fallBack_trialFile env s t)

/-- Only the runs of the script count. -/
lemma runService_store (hrec : env.recordOk = true)
    (hlimit : env.limit < 2 ^ 63) (hcur : s.current = some t.newDir) (ht : t.Clean)
    (hzero : t.attempts = 0) (hfile : s.trialFile = some (trialText t))
    (es : List ServiceEvent) :
    (runService env ⟨s, []⟩ es).store = budgetStore env s t (es.count .guard) := by
  have hiter := iterate_upgradeGuard_budget hrec hlimit hcur ht hzero hfile
  induction es using List.reverseRecOn with
  | nil => exact hiter 0
  | append_singleton es e ih =>
    rw [runService, List.foldl_append, List.foldl_cons, List.foldl_nil, ← runService,
      List.count_append]
    cases e with
    | guard =>
      show upgradeGuard env (runService env ⟨s, []⟩ es).store = _
      rw [ih, ← hiter, ← Function.iterate_succ_apply' (upgradeGuard env), hiter]
      rfl
    | start =>
      show versionManagerInit (runService env ⟨s, []⟩ es).store = _
      rw [ih, versionManagerInit_budget hlimit hcur ht]
      rfl

lemma count_guard_serviceStarts (m : ℕ) : (serviceStarts m).count .guard = m := by
  induction m with
  | zero => rfl
  | succ m ih =>
    have hsplit : serviceStarts (m + 1) = [.guard, .start] ++ serviceStarts m := by
      rw [serviceStarts, List.replicate_succ, List.flatten_cons, ← serviceStarts]
    rw [hsplit, List.count_append, ih, Nat.add_comm]
    rfl

/-- The versions that the service starts: the one on trial as often as the budget allows. -/
lemma started_serviceStarts (hrec : env.recordOk = true)
    (hlimit : env.limit < 2 ^ 63) (hcur : s.current = some t.newDir) (ht : t.Clean)
    (hzero : t.attempts = 0) (hfile : s.trialFile = some (trialText t)) (m : ℕ) :
    (runService env ⟨s, []⟩ (serviceStarts m)).started =
      List.replicate (min m env.limit) (some t.newDir) ++
        List.replicate (m - env.limit) (fallBack env s t).current := by
  induction m with
  | zero => simp [serviceStarts, runService]
  | succ m ih =>
    have hsplit : serviceStarts (m + 1) = serviceStarts m ++ [.guard, .start] := by
      rw [serviceStarts, List.replicate_succ', List.flatten_append, List.flatten_singleton,
        ← serviceStarts]
    have hstore := runService_store hrec hlimit hcur ht hzero hfile
      (serviceStarts m ++ [.guard])
    rw [List.count_append, count_guard_serviceStarts] at hstore
    have hlog : (runService env ⟨s, []⟩ (serviceStarts (m + 1))).started =
        (runService env ⟨s, []⟩ (serviceStarts m)).started ++
          [(runService env ⟨s, []⟩ (serviceStarts m ++ [.guard])).store.current] := by
      rw [hsplit]
      simp only [runService, List.foldl_append, List.foldl_cons, List.foldl_nil, serviceStep]
    rw [hlog, ih, hstore, budgetStore]
    have hcount : m + List.count ServiceEvent.guard [ServiceEvent.guard] = m + 1 := rfl
    rw [hcount]
    by_cases hm : m + 1 ≤ env.limit
    · have hmin : min m env.limit = m := by omega
      have hmin' : min (m + 1) env.limit = m + 1 := by omega
      have hsub : m - env.limit = 0 := by omega
      have hsub' : m + 1 - env.limit = 0 := by omega
      rw [if_pos hm, hmin, hmin', hsub, hsub', List.replicate_succ', writeTrial_current, hcur]
      simp
    · have hmin : min m env.limit = env.limit := by omega
      have hmin' : min (m + 1) env.limit = env.limit := by omega
      have hsub' : m + 1 - env.limit = m - env.limit + 1 := by omega
      rw [if_neg hm, hmin, hmin', hsub', List.replicate_succ', List.append_assoc]

/-- The reset of the start count gives the whole budget back. -/
lemma versionTrialOnUptime_reset {stableSec uptimeSec : ℕ} {p : TrialFlags} {a : ℕ}
    (hup : stableSec ≤ uptimeSec) (hdone : p.stableDone = false) (hconf : p.confirmed = false)
    (hcur : s.current = some t.newDir) (ht : t.Clean) (ha : a < 2 ^ 32)
    (hfile : s.trialFile = some (trialText { t with attempts := a })) :
    (versionTrialOnUptime stableSec uptimeSec true s p).1 =
      s.writeTrial { t with attempts := 0 } := by
  have hta : ({ t with attempts := a } : Trial).Clean :=
    ⟨ht.newDir_ne_nil, ht.newDir, ht.prevDir, ht.time, by simp only; omega⟩
  rw [versionTrialOnUptime_record stableSec uptimeSec true hcur
    ⟨ht.newDir_ne_nil, ht.newDir⟩ hta hfile]
  simp only [hup, hdone, hconf, Nat.mod_eq_of_lt ha, true_and, and_true]
  by_cases hz : a = 0
  · subst hz
    rw [if_neg (not_not.2 rfl), Store.writeTrial, ← hfile]
  · rw [if_pos hz]

end

/-! ### After a confirmation -/

/-- The events that can write a new record. -/
def Event.IsActivation : Event → Prop
  | .activate _ => True
  | .powerLoss _ _ => True
  | _ => False

/-- Without a record and without an activation the link stays where it is. -/
lemma no_rollback_step {σ σ' : Sys} {e : Event} (hfile : σ.store.trialFile = none)
    (h : restrict Step (fun _ e => ¬ e.IsActivation) σ e σ') :
    σ'.store.trialFile = none ∧ σ'.store.current = σ.store.current := by
  obtain ⟨hs, hok⟩ := h
  rcases step_cases hs with ⟨a, p, rfl, hp, rfl⟩ | ⟨a, k, p, rfl, hp, rfl⟩ | ⟨p, rfl, hp, rfl⟩ |
    ⟨n, m, ok, p, rfl, hp, rfl⟩ | ⟨p, rfl, hp, rfl⟩ | ⟨env, rfl, hp, rfl⟩ | ⟨rfl, hp, rfl⟩
  · exact absurd trivial hok
  · exact absurd trivial hok
  · refine ⟨?_, versionTrialOnChannelEstablished_current _ _⟩
    by_cases hsame : (versionTrialOnChannelEstablished σ.store p.flags).1.trialFile =
        σ.store.trialFile
    · exact hsame.trans hfile
    · exact versionTrialOnChannelEstablished_trialFile hsame
  · exact ⟨(congrArg Store.trialFile (versionTrialOnUptime_none n m ok p.flags hfile)).trans hfile,
      versionTrialOnUptime_current _ _ _ _ _⟩
  · exact ⟨hfile, rfl⟩
  · have hguard := upgradeGuard_none env hfile
    exact ⟨(congrArg Store.trialFile hguard).trans hfile, congrArg Store.current hguard⟩
  · have hinit := versionManagerInit_none hfile
    exact ⟨(congrArg Store.trialFile hinit).trans hfile, congrArg Store.current hinit⟩

lemma no_rollback_run {σ σ' : Sys} {l : List Event} (hfile : σ.store.trialFile = none)
    (h : Run (restrict Step fun _ e => ¬ e.IsActivation) σ l σ') :
    σ'.store.trialFile = none ∧ σ'.store.current = σ.store.current := by
  refine h.invariant (I := fun τ => τ.store.trialFile = none ∧
    τ.store.current = σ.store.current) (fun τ e τ' hτ hs => ?_) ⟨hfile, rfl⟩
  obtain ⟨hfile', hcur⟩ := no_rollback_step hτ.1 hs
  exact ⟨hfile', hcur.trans hτ.2⟩

/-- A channel setup that confirms removes the record and leaves the link alone. -/
lemma confirms_step {σ σ' : Sys} {p : Process} (h : Confirms σ .channelSetup p)
    (hs : Step σ .channelSetup σ') :
    σ'.store.trialFile = none ∧ σ'.store.current = σ.store.current := by
  obtain ⟨-, hp, hconf, t, ht, -⟩ := h
  simp only [Step, next, hp, Option.map_some, Option.some.injEq] at hs
  subst hs
  refine ⟨?_, versionTrialOnChannelEstablished_current _ _⟩
  simp only [Sys.tick, versionTrialOnChannelEstablished, hconf, ht]
  rfl

/-! ### The protocol of the trial -/

/-- The trial protocol of the script and the process, for records whose names hold neither line
feed nor carriage return and for budgets that bash can compare.

With a budget of `N` starts and a fresh record of the version that `current` names: in every run
of script executions and program starts the first `N` executions count and the next one falls
back, so that the service starts the version on trial exactly `N` times.  The reset after a
stable uptime gives the whole budget back, a confirmed trial is not rolled back before another
activation, and each side reads back what the other wrote. -/
theorem trial_protocol {N : ℕ} (hN : 1 ≤ N) (hbash : N < 2 ^ 63) {env : GuardEnv}
    (hmax : env.maxStarts = some N) (hrec : env.recordOk = true) (hlink : env.linkOk = true)
    {t : Trial} (ht : t.Clean) (hzero : t.attempts = 0) (hprev : t.prevDir ≠ []) {s : Store}
    (hcur : s.current = some t.newDir) (hfile : s.trialFile = some (trialText t)) :
    (∀ es : List ServiceEvent,
      let s' := (runService env ⟨s, []⟩ es).store
      (es.count .guard ≤ N →
        s' = { s with trialFile := some (trialText { t with attempts := es.count .guard }) }) ∧
      (N < es.count .guard → s'.trialFile = none ∧
        s'.current = some (if env.hasExecutable t.prevDir then t.prevDir else t.newDir))) ∧
    (∀ m, (runService env ⟨s, []⟩ (serviceStarts m)).started =
      List.replicate (min m N) (some t.newDir) ++ List.replicate (m - N)
        (some (if env.hasExecutable t.prevDir then t.prevDir else t.newDir))) ∧
    (∀ (s₁ : Store) (a stableSec uptimeSec : ℕ) (p : TrialFlags), stableSec ≤ uptimeSec →
      p.stableDone = false → p.confirmed = false → a < 2 ^ 32 →
      s₁.current = some t.newDir → s₁.trialFile = some (trialText { t with attempts := a }) →
      (versionTrialOnUptime stableSec uptimeSec true s₁ p).1 =
        { s₁ with trialFile := some (trialText t) }) ∧
    (∀ (σ σ₁ σ₂ : Sys) (p : Process) (l : List Event), Confirms σ .channelSetup p →
      Step σ .channelSetup σ₁ → Run (restrict Step fun _ e => ¬ e.IsActivation) σ₁ l σ₂ →
      σ₂.store.trialFile = none ∧ σ₂.store.current = σ.store.current) ∧
    (∀ r : Trial, r.Clean → r.attempts < 2 ^ 32 →
      trialRead (some (trialText r)) = some r ∧ guardRead (trialText r) = r) := by
  have hlimit : env.limit = N := by
    have hone : shellLt N 1 = false := by
      rw [shellLt_of_lt (by decide), decide_eq_false_iff_not]
      omega
    simp only [GuardEnv.limit, hmax, hone, Bool.false_eq_true, if_false]
  have hlt : env.limit < 2 ^ 63 := by rwa [hlimit]
  have hfall : (fallBack env s t).current =
      some (if env.hasExecutable t.prevDir then t.prevDir else t.newDir) := by
    cases hexec : env.hasExecutable t.prevDir <;>
      simp [fallBack, GuardEnv.CannotFallBack, hprev, hexec, hlink, hcur]
  refine ⟨fun es => ?_, fun m => ?_, ?_, ?_, ?_⟩
  · have hstore := runService_store hrec hlt hcur ht hzero hfile es
    simp only [hstore, budgetStore, hlimit]
    refine ⟨fun hle => by rw [if_pos hle, Store.writeTrial], fun hgt => ?_⟩
    rw [if_neg (Nat.not_le.2 hgt)]
    exact ⟨fallBack_trialFile env s t, hfall⟩
  · rw [started_serviceStarts hrec hlt hcur ht hzero hfile, hlimit, hfall]
  · intro s₁ a stableSec uptimeSec p hup hdone hconf ha hcur₁ hfile₁
    have hreset := versionTrialOnUptime_reset hup hdone hconf hcur₁ ht ha hfile₁
    have hsame : { t with attempts := 0 } = t := by rw [← hzero]
    rw [hreset, hsame, Store.writeTrial]
  · intro σ σ₁ σ₂ p l hconf hs hrun
    obtain ⟨hnone, hcur₁⟩ := confirms_step hconf hs
    obtain ⟨hnone₂, hcur₂⟩ := no_rollback_run hnone hrun
    exact ⟨hnone₂, hcur₂.trans hcur₁⟩
  · intro r hr ha
    have hsame : { r with attempts := r.attempts % 2 ^ 32 } = r := by rw [Nat.mod_eq_of_lt ha]
    exact ⟨by rw [trialRead_trialText hr, hsame], guardRead_trialText hr⟩

/-- `V2` runs on trial, and both versions have an executable. -/
def storeV2 : Store := ⟨some trialV2.newDir, some (trialText trialV2), false⟩

def guardEnv (maxStarts : ℕ) : GuardEnv := ⟨some maxStarts, fun _ => true, true, true⟩

theorem trial_protocol_three_starts :
    (runService (guardEnv 3) ⟨storeV2, []⟩ (serviceStarts 5)).started =
      List.replicate 3 (some trialV2.newDir) ++ List.replicate 2 (some trialV2.prevDir) :=
  (trial_protocol (show 1 ≤ 3 by decide) (by decide) rfl rfl rfl clean_trialV2 rfl (by decide) rfl
    rfl).2.1 5

/-- A name that ends in a carriage return. -/
def trialCr : Trial := { trialV2 with newDir := trialV2.newDir ++ [cr] }

/-- A count that does not fit into `uint32_t`. -/
def trialWide : Trial := { trialV2 with attempts := 2 ^ 32 }

lemma clean_trialWide : trialWide.Clean := by
  decide

def storeWide : Store := ⟨some trialV2.newDir, some (trialText trialWide), false⟩

/-- Both readers drop a carriage return, the process reads a count of 2^32 starts as none and
does not reset it, and a budget that bash cannot compare ends at the first execution of the
script. -/
theorem trial_protocol_limits :
    (lf ∉ trialCr.newDir ∧ trialCr.newDir.length < 512 ∧
      trialRead (some (trialText trialCr)) ≠ some trialCr ∧
      guardRead (trialText trialCr) ≠ trialCr) ∧
    (trialRead (some (trialText trialWide)) = some trialV2 ∧
      (versionTrialOnUptime 120 120 true storeWide .init).1 = storeWide) ∧
    (upgradeGuard (guardEnv (2 ^ 63)) storeV2).current = some trialV2.prevDir := by
  have hdir : CleanDir trialV2.newDir := by decide
  refine ⟨⟨by decide, by decide, by decide, by decide⟩, ⟨?_, ?_⟩, ?_⟩
  · exact trialRead_trialText clean_trialWide
  · rw [versionTrialOnUptime_record 120 120 true rfl hdir clean_trialWide rfl]
    exact if_neg (by decide)
  · rw [upgradeGuard_record _ rfl hdir clean_trialV2 rfl]
    decide

end AntennaMgmt.Version
