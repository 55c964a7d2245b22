import AntennaMgmt.Version.Budget

/-!
# Activations that fail or are interrupted

A version on trial is protected by its record.  An activation that does not go through should
leave that record alone as long as the version stays current.  It does not: the record is
overwritten before the link is replaced and dropped when the replacement fails, and what an
interruption leaves behind looks stale to the script.
-/

namespace AntennaMgmt.Version

open AntennaMgmt.Lib

/-- The record protects the version `c` that `current` names, with `prev` to fall back to. -/
def Protects (s : Store) (c prev : Bytes) : Prop :=
  s.current = some c ∧ ∃ t, s.trialFile.map guardRead = some t ∧ t.newDir = c ∧ t.prevDir = prev

/-- A version that is protected in `s` and still current in `s'` has kept its protection. -/
def KeepsProtection (s s' : Store) : Prop :=
  ∀ c prev, Protects s c prev → s'.current = some c → Protects s' c prev

/-- The store after an activation that is cut short behind `k` changes, or fails by itself, and
`n` runs of the script. -/
def Activation.interrupted (a : Activation) (k n : ℕ) (env : GuardEnv) (s : Store) : Store :=
  (upgradeGuard env)^[n] (s.applyOps ((a.ops s).take k))

/-- The checks of `switch_to_version` in front of the first change succeed. -/
def Activation.Reached (a : Activation) : Prop :=
  a.env.clockOk = true ∧ a.env.versionDirExists = true ∧ a.env.metadataOk = true ∧
    a.env.rollbackDirOk = true

/-- The number of changes before the last step, for an activation of another version. -/
def Activation.changesBefore (a : Activation) : ℕ :=
  if a.env.previousIsDir = true then if a.env.recordOk = true then 1 else 0
  else if a.env.removeOk = true then 1 else 0

/-- An activation over `c` that makes no change: the link is made anew for the same version, or the
link fails, the record cannot be removed and no record of the new version was written. -/
def Activation.ChangesNothing (a : Activation) (c : Bytes) : Prop :=
  if a.env.linkOk = true then a.target = c
  else a.env.removeOk = false ∧
    ¬ (a.target ≠ c ∧ a.env.previousIsDir = true ∧ a.env.recordOk = true)

/-- When an activation leaves the protection of a version alone.

* Nothing was changed; then the script must not drop the record because the budget is used up and
  it cannot fall back.
* The link was switched away; then the script must not come back to the version, as it does
  when the budget of a newly armed trial is used up. -/
def Harmless (a : Activation) (k n : ℕ) (env : GuardEnv) (s : Store) : Prop :=
  ∀ c t, s.current = some c → s.trialFile.map guardRead = some t → t.newDir = c →
    (¬ a.Reached ∨ k = 0 ∨ a.ChangesNothing c) ∧
        ¬ (env.UsesUp t.attempts n ∧ env.CannotFallBack t.prevDir) ∨
      a.Reached ∧ a.target ≠ c ∧ a.env.linkOk = true ∧ a.changesBefore < k ∧
        ¬ (a.env.previousIsDir = true ∧ a.env.recordOk = true ∧ env.UsesUp 0 n ∧
          ¬ env.CannotFallBack c)

/-! ### Reachable stores are well formed -/

/-- The changes that keep a store well formed. -/
def StoreOp.WF : StoreOp → Prop
  | .putTrial t => t.Clean ∧ t.newDir ≠ t.prevDir
  | .dropTrial => True
  | .setCurrent dir => CleanDir dir

lemma Store.WF.removeTrial {s : Store} (h : s.WF) : s.removeTrial.WF := ⟨h.current, .inl rfl⟩

lemma Store.WF.writeTrial {s : Store} (h : s.WF) {t : Trial} (ht : t.Clean)
    (hne : t.newDir ≠ t.prevDir) : (s.writeTrial t).WF :=
  ⟨h.current, .inr ⟨t, ht, hne, rfl⟩⟩

lemma Store.WF.applyOps {s : Store} (h : s.WF) {ops : List StoreOp} (hops : ∀ op ∈ ops, op.WF) :
    (s.applyOps ops).WF := by
  induction ops generalizing s with
  | nil => exact h
  | cons op ops ih =>
    have hop := hops op List.mem_cons_self
    have hrest := fun op' hop' => hops op' (List.mem_cons_of_mem op hop')
    cases op with
    | putTrial t => exact ih (h.writeTrial (t := t) hop.1 hop.2) hrest
    | dropTrial => exact ih h.removeTrial hrest
    | setCurrent dir =>
      have hset : ({ s with current := some dir } : Store).WF := ⟨⟨dir, rfl, hop⟩, h.trial⟩
      exact ih hset hrest

lemma Store.WF.upgradeGuard {s : Store} (h : s.WF) (env : GuardEnv) :
    (upgradeGuard env s).WF := by
  obtain ⟨c, hcur, hc⟩ := h.current
  rcases h.trial with hnone | ⟨t, ht, hne, hfile⟩
  · rwa [upgradeGuard_none env hnone]
  · rw [upgradeGuard_record env hcur hc ht hfile]
    split_ifs with h₁ h₂ h₃ h₄ h₅
    · exact h.removeTrial
    · exact h.writeTrial (ht.succ h₂) hne
    · exact h
    · exact h.removeTrial
    · exact ⟨⟨t.prevDir, rfl, ⟨fun hnil => h₄ (.inl hnil), ht.prevDir⟩⟩, .inl rfl⟩
    · exact h.removeTrial

lemma Store.WF.channelEstablished {s : Store} (h : s.WF) (p : TrialFlags) :
    (versionTrialOnChannelEstablished s p).1.WF := by
  have hcur := versionTrialOnChannelEstablished_current s p
  refine ⟨by rw [hcur]; exact h.current, ?_⟩
  by_cases hsame : (versionTrialOnChannelEstablished s p).1.trialFile = s.trialFile
  · rw [hsame]
    exact h.trial
  · exact .inl (versionTrialOnChannelEstablished_trialFile hsame)

lemma Store.WF.uptime {s : Store} (h : s.WF) (n m : ℕ) (ok : Bool) (p : TrialFlags) :
    (versionTrialOnUptime n m ok s p).1.WF := by
  obtain ⟨c, hcur, hc⟩ := h.current
  rcases h.trial with hnone | ⟨t, ht, hne, hfile⟩
  · rwa [versionTrialOnUptime_none n m ok p hnone]
  · rw [versionTrialOnUptime_record n m ok hcur hc ht hfile]
    split_ifs
    · exact h.writeTrial ⟨ht.newDir_ne_nil, ht.newDir, ht.prevDir, ht.time, by simp only; omega⟩ hne
    · exact h

lemma Store.WF.init {s : Store} (h : s.WF) : (versionManagerInit s).WF := by
  obtain ⟨c, hcur, hc⟩ := h.current
  rcases h.trial with hnone | ⟨t, ht, -, hfile⟩
  · rwa [versionManagerInit_none hnone]
  · rw [versionManagerInit_record hcur hc ht hfile]
    split_ifs
    · exact h.removeTrial
    · exact h

/-- The record that an activation arms, from clean names. -/
lemma armedTrial_eq {a : Activation} {c : Bytes} (hc : CleanDir c) :
    armedTrial a.target c a.timestamp = ⟨a.target, c, 0, a.timestamp⟩ := by
  have htime : a.timestamp.take 31 = a.timestamp :=
    List.take_of_length_le (Nat.le_of_lt_succ a.timestamp_clean.length_lt)
  rw [armedTrial, a.cleanDir_target.take_eq, hc.take_eq, htime]

/-- What an activation of another version than `c` does to the record at first. -/
def Activation.firstOps (a : Activation) (c : Bytes) : List StoreOp :=
  if a.env.previousIsDir = true then
    if a.env.recordOk = true then [.putTrial ⟨a.target, c, 0, a.timestamp⟩] else []
  else a.env.trialRemove

/-- The last step of an activation. -/
def Activation.lastOps (a : Activation) : List StoreOp :=
  if a.env.linkOk = true then [.setCurrent a.target] else a.env.trialRemove

/-- Everything an activation from a clean current version can do. -/
lemma Activation.ops_cases (a : Activation) {s : Store} {c : Bytes} (hcur : s.current = some c)
    (hc : CleanDir c) :
    ¬ a.Reached ∧ a.ops s = [] ∨
    a.Reached ∧ a.target = c ∧ a.ops s = a.lastOps ∨
    a.Reached ∧ a.target ≠ c ∧ a.ops s = a.firstOps c ++ a.lastOps := by
  have harm := armedTrial_eq (a := a) hc
  have hread := readCurrentLink_eq hcur hc
  have hops : a.ops s = (switchToVersion a.env s a.version a.timestamp true).2 := rfl
  have hne := hc.ne_nil
  by_cases hreach : a.Reached
  · obtain ⟨h₁, h₂, h₃, h₄⟩ := hreach
    have hswitch : a.ops s = trialOps a.env a.target c a.timestamp true ++ a.lastOps := by
      rw [hops, switchToVersion, hread]
      simp only [h₁, h₂, h₃, h₄, not_true_eq_false, and_false, if_false, Activation.lastOps]
      split <;> rfl
    have hr : a.Reached := ⟨h₁, h₂, h₃, h₄⟩
    rw [hswitch, trialOps]
    by_cases hsame : a.target = c
    · refine .inr (.inl ⟨hr, hsame, ?_⟩)
      simp [hsame, hne]
    · have hsame' : c ≠ a.target := fun he => hsame he.symm
      refine .inr (.inr ⟨hr, hsame, ?_⟩)
      rw [Activation.firstOps]
      cases hdir : a.env.previousIsDir with
      | false => simp [hsame', hne]
      | true => simp [hsame', hne, harm]
  · refine .inl ⟨hreach, ?_⟩
    rw [hops, switchToVersion]
    simp only [Activation.Reached, not_and_or, Bool.not_eq_true] at hreach
    rcases hreach with h | h | h | h <;> simp only [h] <;> split_ifs <;> simp_all

lemma SwitchEnv.eq_of_mem_trialRemove {env : SwitchEnv} {op : StoreOp}
    (h : op ∈ env.trialRemove) : op = .dropTrial := by
  unfold SwitchEnv.trialRemove at h
  split_ifs at h
  · exact List.mem_singleton.1 h
  · cases h

/-- The kinds of changes that an activation from a clean current version makes. -/
lemma Activation.mem_ops (a : Activation) {s : Store} {c : Bytes} (hcur : s.current = some c)
    (hc : CleanDir c) {op : StoreOp} (hop : op ∈ a.ops s) :
    (op = .putTrial ⟨a.target, c, 0, a.timestamp⟩ ∧ a.target ≠ c) ∨ op = .dropTrial ∨
      op = .setCurrent a.target := by
  have hlast (h : op ∈ a.lastOps) : op = .dropTrial ∨ op = .setCurrent a.target := by
    unfold Activation.lastOps at h
    split_ifs at h
    · exact .inr (List.mem_singleton.1 h)
    · exact .inl (SwitchEnv.eq_of_mem_trialRemove h)
  rcases a.ops_cases hcur hc with ⟨-, hops⟩ | ⟨-, -, hops⟩ | ⟨-, hne, hops⟩ <;> rw [hops] at hop
  · cases hop
  · exact .inr (hlast hop)
  · rcases List.mem_append.1 hop with hfirst | hop
    · unfold Activation.firstOps at hfirst
      split_ifs at hfirst
      · exact .inl ⟨List.mem_singleton.1 hfirst, hne⟩
      · cases hfirst
      · exact .inr (.inl (SwitchEnv.eq_of_mem_trialRemove hfirst))
    · exact .inr (hlast hop)

/-- An activation keeps the store well formed, wherever it is cut short. -/
lemma Store.WF.activation {s : Store} (h : s.WF) (a : Activation) (k : ℕ) :
    (s.applyOps ((a.ops s).take k)).WF := by
  obtain ⟨c, hcur, hc⟩ := h.current
  have htarget := a.cleanDir_target
  refine h.applyOps fun op hop => ?_
  rcases a.mem_ops hcur hc (List.mem_of_mem_take hop) with ⟨rfl, hne⟩ | rfl | rfl
  · exact ⟨⟨htarget.ne_nil, htarget.field, hc.field, a.timestamp_clean,
      show 0 < 2 ^ 64 by decide⟩, hne⟩
  · trivial
  · exact htarget

lemma wf_step {σ σ' : Sys} {e : Event} (h : σ.store.WF) (hs : Step σ e σ') : σ'.store.WF := by
  rcases step_cases hs with ⟨a, p, rfl, hp, rfl⟩ | ⟨a, k, p, rfl, hp, rfl⟩ | ⟨p, rfl, hp, rfl⟩ |
    ⟨n, m, ok, p, rfl, hp, rfl⟩ | ⟨p, rfl, hp, rfl⟩ | ⟨env, rfl, hp, rfl⟩ | ⟨rfl, hp, rfl⟩
  · have hall := h.activation a (a.ops σ.store).length
    rwa [List.take_length] at hall
  · exact h.activation a k
  · exact h.channelEstablished p.flags
  · exact h.uptime n m ok p.flags
  · exact h
  · exact h.upgradeGuard env
  · exact h.init

lemma Reachable.wf {σ : Sys} (h : Reachable σ) : σ.store.WF := by
  obtain ⟨σ₀, l, hinit, hrun⟩ := h
  exact hrun.invariant (I := fun σ => σ.store.WF) (fun _ _ _ hwf hs => wf_step hwf hs)
    ⟨hinit.current, .inl hinit.trialFile⟩

/-! ### What the runs of the script make of the store -/

section

variable {env : GuardEnv} {s s' : Store} {t : Trial}

/-- Only a store with a record of its current version is protected. -/
lemma protects_iff {c prev : Bytes} (ht : t.Clean) (hfile : s.trialFile = some (trialText t)) :
    Protects s c prev ↔ s.current = some c ∧ t.newDir = c ∧ t.prevDir = prev := by
  simp only [Protects, hfile, Option.map_some, guardRead_trialText ht, Option.some.injEq,
    exists_eq_left']

lemma not_protects_of_none {c prev : Bytes} (hfile : s.trialFile = none) :
    ¬ Protects s c prev := by
  rintro ⟨-, u, hu, -⟩
  rw [hfile] at hu
  cases hu

/-- A record of another version than the current one goes with the first run, and the link
stays. -/
lemma iterate_upgradeGuard_stale (env : GuardEnv) {s : Store} {c : Bytes}
    (hcur : s.current = some c) (hc : CleanDir c) (ht : t.Clean)
    (hfile : s.trialFile = some (trialText t)) (hne : c ≠ t.newDir) (n : ℕ) :
    ((upgradeGuard env)^[n] s).current = some c ∧
      ∀ prev, ¬ Protects ((upgradeGuard env)^[n] s) c prev := by
  cases n with
  | zero =>
    refine ⟨hcur, fun prev hp => ?_⟩
    exact hne ((protects_iff ht hfile).1 hp).2.1.symm
  | succ n =>
    rw [Function.iterate_succ_apply, upgradeGuard_record env hcur hc ht hfile, if_pos hne,
      iterate_upgradeGuard_none env rfl]
    exact ⟨hcur, fun prev => not_protects_of_none rfl⟩

/-- Without a record nothing is protected, and the link stays. -/
lemma iterate_upgradeGuard_bare (env : GuardEnv) {s : Store} {c : Bytes} (hcur : s.current = some c)
    (hfile : s.trialFile = none) (n : ℕ) :
    ((upgradeGuard env)^[n] s).current = some c ∧
      ∀ prev, ¬ Protects ((upgradeGuard env)^[n] s) c prev := by
  rw [iterate_upgradeGuard_none env hfile]
  exact ⟨hcur, fun prev => not_protects_of_none hfile⟩

/-- A protected store. -/
lemma keepsProtection_iff (hcur : s.current = some t.newDir) (ht : t.Clean)
    (hfile : s.trialFile = some (trialText t)) :
    KeepsProtection s s' ↔
      (s'.current = some t.newDir → Protects s' t.newDir t.prevDir) := by
  constructor
  · exact fun h hcur' => h _ _ ((protects_iff ht hfile).2 ⟨hcur, rfl, rfl⟩) hcur'
  · intro h c prev hp hcur'
    obtain ⟨-, rfl, rfl⟩ := (protects_iff ht hfile).1 hp
    exact h hcur'

lemma keepsProtection_of_ne {W : Bytes} (hcur : s.current = some t.newDir) (ht : t.Clean)
    (hfile : s.trialFile = some (trialText t)) (hcur' : s'.current = some W)
    (hne : W ≠ t.newDir) : KeepsProtection s s' := by
  rw [keepsProtection_iff hcur ht hfile, hcur']
  exact fun h => absurd (Option.some.inj h) hne

lemma not_keepsProtection (hcur : s.current = some t.newDir) (ht : t.Clean)
    (hfile : s.trialFile = some (trialText t))
    (h : s'.current = some t.newDir ∧ ∀ prev, ¬ Protects s' t.newDir prev) :
    ¬ KeepsProtection s s' := by
  rw [keepsProtection_iff hcur ht hfile]
  exact fun hkeep => h.2 _ (hkeep h.1)

lemma Trial.Clean.add (ht : t.Clean) {n : ℕ} (hrun : ¬ env.UsesUp t.attempts n) :
    ({ t with attempts := t.attempts + if env.recordOk = true then n else 0 } : Trial).Clean := by
  refine ⟨ht.newDir_ne_nil, ht.newDir, ht.prevDir, ht.time, ?_⟩
  by_cases hrec : env.recordOk = true
  · simp only [if_pos hrec]
    rw [GuardEnv.UsesUp, if_pos hrec] at hrun
    cases n with
    | zero => exact ht.attempts_lt
    | succ n =>
      have hlt : shellLt (t.attempts + n) env.limit = true := by
        by_contra hlt
        exact hrun ⟨n, Nat.lt_succ_self n, by simpa using hlt⟩
      have hsmall := (shellLt_iff.1 hlt).1
      omega
  · simp only [if_neg hrec]
    exact ht.attempts_lt

variable (env) in
/-- An untouched record survives unless the budget is used up and the script cannot fall back. -/
lemma keepsProtection_untouched (hcur : s.current = some t.newDir) (ht : t.Clean)
    (hne : t.newDir ≠ t.prevDir) (hfile : s.trialFile = some (trialText t)) (n : ℕ) :
    KeepsProtection s ((upgradeGuard env)^[n] s) ↔
      ¬ (env.UsesUp t.attempts n ∧ env.CannotFallBack t.prevDir) := by
  rcases iterate_upgradeGuard_cases env n hcur ht hfile with ⟨hrun, hs⟩ | ⟨hrun, hs⟩
  · rw [keepsProtection_iff hcur ht hfile, hs]
    refine ⟨fun _ h => hrun h.1, fun _ _ => ?_⟩
    exact (protects_iff (ht.add hrun) rfl).2 ⟨hcur, rfl, rfl⟩
  · rw [hs, fallBack]
    split_ifs with hprev
    · have hbare : ¬ KeepsProtection s s.removeTrial :=
        not_keepsProtection hcur ht hfile ⟨hcur, fun prev => not_protects_of_none rfl⟩
      exact iff_of_false hbare fun h => h ⟨hrun, hprev⟩
    · exact iff_of_true (keepsProtection_of_ne hcur ht hfile rfl hne.symm) fun h => hprev h.2

variable (env) in
/-- The script comes back to the version before the switch exactly when the budget of the armed
trial is used up, and then without a record. -/
lemma keepsProtection_armed (hcur : s.current = some t.newDir) (ht : t.Clean)
    (hfile : s.trialFile = some (trialText t)) {u : Trial} (hu : u.Clean) (hzero : u.attempts = 0)
    (hprev : u.prevDir = t.newDir) (hne : u.newDir ≠ t.newDir) (s₁ : Store)
    (hcur₁ : s₁.current = some u.newDir) (hfile₁ : s₁.trialFile = some (trialText u)) (n : ℕ) :
    KeepsProtection s ((upgradeGuard env)^[n] s₁) ↔
      ¬ (env.UsesUp 0 n ∧ ¬ env.CannotFallBack t.newDir) := by
  have hcases := iterate_upgradeGuard_cases env n hcur₁ hu hfile₁
  rw [hzero] at hcases
  rcases hcases with ⟨hrun, hs⟩ | ⟨hrun, hs⟩
  · rw [hs]
    exact iff_of_true (keepsProtection_of_ne hcur ht hfile hcur₁ hne) fun h => hrun h.1
  · rw [hs, fallBack, hprev]
    split_ifs with hcannot
    · exact iff_of_true (keepsProtection_of_ne hcur ht hfile hcur₁ hne) fun h => h.2 hcannot
    · have hback : ¬ KeepsProtection s
          { current := some t.newDir, trialFile := none, notice := true } :=
        not_keepsProtection hcur ht hfile ⟨rfl, fun prev => not_protects_of_none rfl⟩
      exact iff_of_false hback fun h => h ⟨hrun, hcannot⟩

/-- The condition for a protected store. -/
lemma harmless_iff {a : Activation} {k n : ℕ} (hcur : s.current = some t.newDir) (ht : t.Clean)
    (hfile : s.trialFile = some (trialText t)) :
    Harmless a k n env s ↔
      (¬ a.Reached ∨ k = 0 ∨ a.ChangesNothing t.newDir) ∧
          ¬ (env.UsesUp t.attempts n ∧ env.CannotFallBack t.prevDir) ∨
        a.Reached ∧ a.target ≠ t.newDir ∧ a.env.linkOk = true ∧ a.changesBefore < k ∧
          ¬ (a.env.previousIsDir = true ∧ a.env.recordOk = true ∧ env.UsesUp 0 n ∧
            ¬ env.CannotFallBack t.newDir) := by
  have hrecord : s.trialFile.map guardRead = some t := by
    rw [hfile, Option.map_some, guardRead_trialText ht]
  constructor
  · exact fun h => h _ t hcur hrecord rfl
  · intro h c u hcur' hrecord' _
    obtain rfl : t.newDir = c := Option.some.inj (hcur.symm.trans hcur')
    obtain rfl : t = u := Option.some.inj (hrecord.symm.trans hrecord')
    exact h

end

section

variable {env : GuardEnv} {s : Store} {t : Trial} (hcur : s.current = some t.newDir) (ht : t.Clean)
  (hfile : s.trialFile = some (trialText t)) {a : Activation} (hreach : a.Reached)

include hcur ht hfile hreach

/-- An activation of the version that is current. -/
lemma keepsProtection_sameVersion (hne : t.newDir ≠ t.prevDir) (hsame : a.target = t.newDir)
    {k : ℕ} (hk : 0 < k) (n : ℕ) :
    KeepsProtection s ((upgradeGuard env)^[n] (s.applyOps (a.lastOps.take k))) ↔
      Harmless a k n env s := by
  have huntouched := keepsProtection_untouched env hcur ht hne hfile n
  rw [harmless_iff hcur ht hfile, Activation.ChangesNothing, Activation.lastOps]
  by_cases hlink : a.env.linkOk = true
  · have hset : s.applyOps [.setCurrent a.target] = s := by
      rw [Store.applyOps, List.foldl_cons, List.foldl_nil, StoreOp.apply, hsame, ← hcur]
    rw [if_pos hlink, if_pos hlink, List.take_of_length_le (Nat.succ_le_of_lt hk), hset]
    exact huntouched.trans (by simp [hsame])
  · rw [if_neg hlink, if_neg hlink, SwitchEnv.trialRemove]
    by_cases hremove : a.env.removeOk = true
    · rw [if_pos hremove, List.take_of_length_le (Nat.succ_le_of_lt hk)]
      have hbare := not_keepsProtection hcur ht hfile
        (iterate_upgradeGuard_bare env (s := s.removeTrial) hcur rfl n)
      exact iff_of_false hbare (by simp [hreach, hk.ne', hremove, hsame])
    · rw [if_neg hremove, List.take_nil]
      exact huntouched.trans (by simp [hremove, hsame])

/-- An activation of another version that leaves the record alone before the last step. -/
lemma keepsProtection_plainSwitch (hne : t.newDir ≠ t.prevDir) (hother : a.target ≠ t.newDir)
    (hnone : a.firstOps t.newDir = []) {k : ℕ} (hk : 0 < k) (n : ℕ) :
    KeepsProtection s ((upgradeGuard env)^[n] (s.applyOps (a.lastOps.take k))) ↔
      Harmless a k n env s := by
  have huntouched := keepsProtection_untouched env hcur ht hne hfile n
  have hunarmed : ¬ (a.env.previousIsDir = true ∧ a.env.recordOk = true) := by
    rintro ⟨hdir, hrec⟩
    rw [Activation.firstOps, if_pos hdir, if_pos hrec] at hnone
    cases hnone
  have hbefore : a.changesBefore = 0 := by
    unfold Activation.firstOps SwitchEnv.trialRemove at hnone
    unfold Activation.changesBefore
    split_ifs at hnone ⊢ <;> rfl
  rw [harmless_iff hcur ht hfile, Activation.ChangesNothing, Activation.lastOps, hbefore]
  by_cases hlink : a.env.linkOk = true
  · rw [if_pos hlink, if_pos hlink, List.take_of_length_le (Nat.succ_le_of_lt hk)]
    have hstale := iterate_upgradeGuard_stale env (s := { s with current := some a.target }) rfl
      a.cleanDir_target ht hfile hother n
    refine iff_of_true (keepsProtection_of_ne hcur ht hfile hstale.1 hother) ?_
    exact .inr ⟨hreach, hother, hlink, hk, fun h => hunarmed ⟨h.1, h.2.1⟩⟩
  · rw [if_neg hlink, if_neg hlink, SwitchEnv.trialRemove]
    by_cases hremove : a.env.removeOk = true
    · rw [if_pos hremove, List.take_of_length_le (Nat.succ_le_of_lt hk)]
      have hbare := not_keepsProtection hcur ht hfile
        (iterate_upgradeGuard_bare env (s := s.removeTrial) hcur rfl n)
      exact iff_of_false hbare (by simp [hreach, hk.ne', hremove, hlink])
    · rw [if_neg hremove, List.take_nil]
      have hchange : a.env.removeOk = false ∧
          ¬ (a.target ≠ t.newDir ∧ a.env.previousIsDir = true ∧ a.env.recordOk = true) :=
        ⟨by simpa using hremove, fun h => hunarmed h.2⟩
      exact huntouched.trans (by simp [hchange, hlink])

/-- An activation of another version that arms its trial. -/
lemma keepsProtection_armedSwitch (hother : a.target ≠ t.newDir)
    (hdir : a.env.previousIsDir = true) (hrec : a.env.recordOk = true) {k : ℕ} (hk : 0 < k)
    (n : ℕ) :
    KeepsProtection s ((upgradeGuard env)^[n] (s.applyOps
        ((.putTrial ⟨a.target, t.newDir, 0, a.timestamp⟩ :: a.lastOps).take k))) ↔
      Harmless a k n env s := by
  have htarget := a.cleanDir_target
  have hu : (⟨a.target, t.newDir, 0, a.timestamp⟩ : Trial).Clean :=
    ⟨htarget.ne_nil, htarget.field, ht.newDir, a.timestamp_clean, show 0 < 2 ^ 64 by decide⟩
  have hc : CleanDir t.newDir := ⟨ht.newDir_ne_nil, ht.newDir⟩
  have hstale := iterate_upgradeGuard_stale env
    (s := s.writeTrial ⟨a.target, t.newDir, 0, a.timestamp⟩) hcur hc hu rfl (Ne.symm hother) n
  have hlost := not_keepsProtection hcur ht hfile hstale
  have hbefore : a.changesBefore = 1 := by
    rw [Activation.changesBefore, if_pos hdir, if_pos hrec]
  obtain ⟨k, rfl⟩ := Nat.exists_eq_add_of_lt hk
  rw [Nat.zero_add, List.take_succ_cons, harmless_iff hcur ht hfile, Activation.ChangesNothing,
    Activation.lastOps, hbefore]
  cases k with
  | zero =>
    rw [List.take_zero]
    exact iff_of_false hlost (by simp [hreach, hother, hdir, hrec])
  | succ k =>
    by_cases hlink : a.env.linkOk = true
    · rw [if_pos hlink, if_pos hlink, List.take_succ_cons, List.take_nil]
      have harmed := keepsProtection_armed env hcur ht hfile hu rfl rfl hother
        ⟨some a.target, some (trialText ⟨a.target, t.newDir, 0, a.timestamp⟩), s.notice⟩
        rfl rfl n
      exact harmed.trans (by simp [hreach, hother, hlink, hdir, hrec])
    · rw [if_neg hlink, if_neg hlink, SwitchEnv.trialRemove]
      by_cases hremove : a.env.removeOk = true
      · rw [if_pos hremove, List.take_succ_cons, List.take_nil]
        have hbare := not_keepsProtection hcur ht hfile (iterate_upgradeGuard_bare env
          (s := (s.writeTrial ⟨a.target, t.newDir, 0, a.timestamp⟩).removeTrial) hcur rfl n)
        exact iff_of_false hbare (by simp [hreach, hremove, hlink])
      · rw [if_neg hremove, List.take_nil]
        exact iff_of_false hlost (by simp [hreach, hother, hdir, hrec, hlink])

/-- An activation of another version that drops the record first. -/
lemma keepsProtection_bareSwitch (hother : a.target ≠ t.newDir)
    (hdir : a.env.previousIsDir = false) (hremove : a.env.removeOk = true) {k : ℕ} (hk : 0 < k)
    (n : ℕ) :
    KeepsProtection s ((upgradeGuard env)^[n] (s.applyOps ((.dropTrial :: a.lastOps).take k))) ↔
      Harmless a k n env s := by
  have hlost := not_keepsProtection hcur ht hfile
    (iterate_upgradeGuard_bare env (s := s.removeTrial) hcur rfl n)
  have hbefore : a.changesBefore = 1 := by
    rw [Activation.changesBefore, hdir, if_neg Bool.false_ne_true, if_pos hremove]
  obtain ⟨k, rfl⟩ := Nat.exists_eq_add_of_lt hk
  rw [Nat.zero_add, List.take_succ_cons, harmless_iff hcur ht hfile, Activation.ChangesNothing,
    Activation.lastOps, hbefore]
  cases k with
  | zero =>
    rw [List.take_zero]
    exact iff_of_false hlost (by simp [hreach, hother, hremove])
  | succ k =>
    by_cases hlink : a.env.linkOk = true
    · rw [if_pos hlink, if_pos hlink, List.take_succ_cons, List.take_nil]
      have hgone := iterate_upgradeGuard_bare env (s := ⟨some a.target, none, s.notice⟩) rfl rfl n
      refine iff_of_true (keepsProtection_of_ne hcur ht hfile hgone.1 hother) ?_
      simp [hreach, hother, hlink, hdir]
    · rw [if_neg hlink, if_neg hlink, SwitchEnv.trialRemove, if_pos hremove,
        List.take_succ_cons, List.take_nil]
      exact iff_of_false hlost (by simp [hreach, hlink, hremove])

end

/-- The stores that an activation can leave behind a protected version, each followed by the
script: with the record untouched, with the link but no record, with the record of the target,
and switched away. -/
lemma keepsProtection_interrupted {env : GuardEnv} {s : Store} {t : Trial}
    (hcur : s.current = some t.newDir) (ht : t.Clean) (hne : t.newDir ≠ t.prevDir)
    (hfile : s.trialFile = some (trialText t)) (a : Activation) (k n : ℕ) :
    KeepsProtection s (a.interrupted k n env s) ↔ Harmless a k n env s := by
  have hc : CleanDir t.newDir := ⟨ht.newDir_ne_nil, ht.newDir⟩
  have huntouched := keepsProtection_untouched env hcur ht hne hfile n
  rw [Activation.interrupted]
  rcases Nat.eq_zero_or_pos k with rfl | hk
  · -- nothing has been changed yet
    rw [harmless_iff hcur ht hfile]
    exact huntouched.trans (by simp)
  rcases a.ops_cases hcur hc with ⟨hreach, hops⟩ | ⟨hreach, hsame, hops⟩ |
    ⟨hreach, hother, hops⟩ <;> rw [hops]
  · rw [List.take_nil, harmless_iff hcur ht hfile]
    exact huntouched.trans (by simp [hreach])
  · exact keepsProtection_sameVersion hcur ht hfile hreach hne hsame hk n
  · by_cases hdir : a.env.previousIsDir = true
    · by_cases hrec : a.env.recordOk = true
      · rw [Activation.firstOps, if_pos hdir, if_pos hrec]
        exact keepsProtection_armedSwitch hcur ht hfile hreach hother hdir hrec hk n
      · have hfirst : a.firstOps t.newDir = [] := by
          rw [Activation.firstOps, if_pos hdir, if_neg hrec]
        rw [hfirst]
        exact keepsProtection_plainSwitch hcur ht hfile hreach hne hother hfirst hk n
    · by_cases hremove : a.env.removeOk = true
      · rw [Activation.firstOps, if_neg hdir, SwitchEnv.trialRemove, if_pos hremove]
        exact keepsProtection_bareSwitch hcur ht hfile hreach hother (by simpa using hdir) hremove
          hk n
      · have hfirst : a.firstOps t.newDir = [] := by
          rw [Activation.firstOps, if_neg hdir, SwitchEnv.trialRemove, if_neg hremove]
        rw [hfirst]
        exact keepsProtection_plainSwitch hcur ht hfile hreach hne hother hfirst hk n

/-- In every reachable state an activation that fails or is cut short, followed by any number of
runs of the script, keeps the protection of the version that stays current if and only if it is
harmless. -/
theorem keepsProtection_iff_harmless {σ : Sys} (h : Reachable σ) (a : Activation) (k n : ℕ)
    (env : GuardEnv) :
    KeepsProtection σ.store (a.interrupted k n env σ.store) ↔ Harmless a k n env σ.store := by
  obtain ⟨⟨c, hcur, hc⟩, htrial⟩ := h.wf
  rcases htrial with hnone | ⟨t, ht, hne, hfile⟩
  · refine iff_of_true (fun c prev hp => absurd hp (not_protects_of_none hnone)) ?_
    intro c t hcur' hrecord
    rw [hnone] at hrecord
    cases hrecord
  by_cases hnew : t.newDir = c
  · subst hnew
    exact keepsProtection_interrupted hcur ht hne hfile a k n
  · -- a record of another version protects nothing
    refine iff_of_true (fun d prev hp => ?_) fun d u hcur' hrecord hd => ?_
    · obtain ⟨hcur', rfl, -⟩ := (protects_iff ht hfile).1 hp
      exact absurd (Option.some.inj (hcur'.symm.trans hcur)) hnew
    · rw [hfile, Option.map_some, guardRead_trialText ht, Option.some.injEq] at hrecord
      subst hrecord
      subst hd
      exact absurd (Option.some.inj (hcur'.symm.trans hcur)) hnew

/-! ### A power loss behind the new record -/

lemma reachable_afterActivation : Reachable afterActivation :=
  ⟨runningV1, [.activate activateV2], initial_runningV1, .cons rfl (.nil _)⟩

/-- The request to activate `V3`, every step of which succeeds. -/
def activateV3 : Activation where
  version := ascii "V3"
  safe := by decide
  short := by decide
  timestamp := ascii "20250101_000100"
  timestamp_clean := by decide
  env := ⟨true, true, true, true, true, true, true, true⟩

/-- The power fails behind the new link to `V3`, and the script runs three times: `V3` is current,
its trial falls back to `V2`, and nothing was promised for `V2`. -/
theorem keepsProtection_iff_harmless_afterSwitch :
    KeepsProtection afterActivation.store
        (activateV3.interrupted 2 3 (guardEnv 3) afterActivation.store) := by
  have hcur : afterActivation.store.current = some trialV2.newDir := rfl
  have hfile : afterActivation.store.trialFile = some (trialText trialV2) := rfl
  refine (keepsProtection_iff_harmless reachable_afterActivation activateV3 2 3 (guardEnv 3)).2
    ((harmless_iff hcur clean_trialV2 hfile).2 (.inr ⟨⟨rfl, rfl, rfl, rfl⟩, ?_, rfl, ?_, ?_⟩))
  · decide
  · decide
  · rintro ⟨-, -, hruns, -⟩
    exact absurd ((runsOut_iff (by decide) (Nat.zero_le _)).1 hruns) (by decide)

/-- The power fails behind the record of `V3`: `V2` stays current, and its record is gone even
before the script runs. -/
theorem power_loss_drops_protection :
    ∃ σ, Reachable σ ∧ ¬ KeepsProtection σ.store
      (activateV3.interrupted 1 0 (guardEnv 3) σ.store) := by
  refine ⟨afterActivation, reachable_afterActivation, ?_⟩
  have hcur : afterActivation.store.current = some trialV2.newDir := rfl
  have hfile : afterActivation.store.trialFile = some (trialText trialV2) := rfl
  rw [keepsProtection_interrupted hcur clean_trialV2 (by decide) hfile,
    harmless_iff hcur clean_trialV2 hfile]
  rintro (⟨hreach | hk | hsame, -⟩ | ⟨-, -, -, hk, -⟩)
  · exact hreach ⟨rfl, rfl, rfl, rfl⟩
  · exact absurd hk (by decide)
  · exact absurd (show activateV3.target = trialV2.newDir from hsame) (by decide)
  · exact absurd hk (by decide)

end AntennaMgmt.Version
