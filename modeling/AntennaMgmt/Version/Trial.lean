import AntennaMgmt.Version.TrialFile

/-!
# Activation, trial and automatic rollback

The link `current` names the version that the service starts.  `switch_to_version` writes the
trial record and replaces the link, `upgrade-guard.sh` runs before every start and counts it,
and the running process confirms the trial or resets the count.  The parts share nothing but
the link and the files below.
-/

namespace AntennaMgmt.Version

open AntennaMgmt.Lib

/-- The target of `VERSION_CURRENT_LINK`, the contents of `VERSION_TRIAL_FILE` and whether
`VERSION_AUTO_ROLLBACK_NOTICE` exists. -/
structure Store where
  current : Option Bytes
  trialFile : Option Bytes
  notice : Bool
deriving DecidableEq, Repr

/-- `trial_write` and the writer of the script: a new file renamed over the old one. -/
def Store.writeTrial (s : Store) (t : Trial) : Store := { s with trialFile := some (trialText t) }

/-- `trial_remove`. -/
def Store.removeTrial (s : Store) : Store := { s with trialFile := none }

/-- `read_current_link` into a buffer of 512 bytes. -/
def Store.readCurrentLink (s : Store) : Bytes := (s.current.getD []).take 511

/-! ### The script -/

/-- What `upgrade-guard.sh` meets: the number that the configuration gives for
`UPGRADE_TRIAL_MAX_STARTS`, the versions with an executable, and whether the record and the
link can be written. -/
structure GuardEnv where
  maxStarts : Option ℕ
  hasExecutable : Bytes → Bool
  recordOk : Bool
  linkOk : Bool

/-- `[ a -lt b ]`: false as well when an operand does not fit into 64 bits. -/
def shellLt (a b : ℕ) : Bool := a < 2 ^ 63 && b < 2 ^ 63 && a < b

/-- `max_starts`, with `DEFAULT_MAX_STARTS` for a missing or too small number. -/
def GuardEnv.limit (env : GuardEnv) : ℕ :=
  match env.maxStarts with
  | none => 3
  | some n => if shellLt n 1 then 3 else n

/-- `$(readlink "$CURRENT_LINK")`: trailing line feeds are dropped, a missing link reads as
empty. -/
def Store.shellCurrent (s : Store) : Bytes :=
  ((s.current.getD []).filter (· ≠ 0)).rdropWhile (· = lf)

/-- `upgrade-guard.sh`. -/
def upgradeGuard (env : GuardEnv) (s : Store) : Store :=
  match s.trialFile with
  | none => s
  | some text =>
    let t := guardRead text
    -- a record of a version that is not the current one is stale
    if t.newDir = [] ∨ s.shellCurrent ≠ t.newDir then s.removeTrial
    else if shellLt t.attempts env.limit then
      if env.recordOk then s.writeTrial { t with attempts := t.attempts + 1 } else s
    -- the starts are used up, and there may be nothing to fall back to
    else if t.prevDir = [] ∨ env.hasExecutable t.prevDir = false then s.removeTrial
    else if env.linkOk then { current := some t.prevDir, trialFile := none, notice := true }
    else s.removeTrial

/-! ### The running process -/

/-- `g_trial_confirmed` and `g_trial_stable_done` of one process. -/
structure TrialFlags where
  confirmed : Bool
  stableDone : Bool
deriving DecidableEq, Repr

/-- The flags of a new process. -/
def TrialFlags.init : TrialFlags := ⟨false, false⟩

/-- The trial part of `version_manager_init`: a record of another version is dropped. -/
def versionManagerInit (s : Store) : Store :=
  match trialRead s.trialFile with
  | some t => if s.readCurrentLink ≠ t.newDir then s.removeTrial else s
  | none => s

/-- `version_trial_on_channel_established`: the record is removed, be it confirmed or stale. -/
def versionTrialOnChannelEstablished (s : Store) (p : TrialFlags) : Store × TrialFlags :=
  if p.confirmed then (s, p)
  else
    -- whether the record is of the current version decides about the log only
    let s' := match trialRead s.trialFile with
      | some _ => s.removeTrial
      | none => s
    ({ s' with notice := false }, { p with confirmed := true })

/-- `version_trial_on_uptime`, with `g_trial_stable_sec` and the outcome of `trial_write`. -/
def versionTrialOnUptime (stableSec uptimeSec : ℕ) (recordOk : Bool) (s : Store)
    (p : TrialFlags) : Store × TrialFlags :=
  if uptimeSec < stableSec then (s, p)
  else if p.stableDone ∨ p.confirmed then (s, p)
  else
    let s' := match trialRead s.trialFile with
      | some t =>
        if t.attempts ≠ 0 ∧ s.readCurrentLink = t.newDir ∧ recordOk then
          s.writeTrial { t with attempts := 0 }
        else s
      | none => s
    (s', { p with stableDone := true })

/-! ### Activation -/

/-- `shell_safe_name`. -/
def shellSafeName (name : Bytes) : Bool :=
  name ≠ [] && name.length ≤ 255 &&
    name.all (fun c => (65 ≤ c.toNat && c.toNat ≤ 90) || (97 ≤ c.toNat && c.toNat ≤ 122) ||
      (48 ≤ c.toNat && c.toNat ≤ 57) || c.toNat = 46 || c.toNat = 95 || c.toNat = 45) &&
    name ≠ ascii "." && name ≠ ascii ".."

/-- `"%s/%s"` of `VERSION_BASE_DIR` and the version, in a buffer of 512 bytes. -/
def versionDir (version : Bytes) : Bytes := (ascii "/opt/vendor/versions/" ++ version).take 511

/-- The outcomes of what `switch_to_version` asks of the system, in its order; `removeOk` is the
outcome of `unlink` on the record. -/
structure SwitchEnv where
  clockOk : Bool
  versionDirExists : Bool
  metadataOk : Bool
  rollbackDirOk : Bool
  previousIsDir : Bool
  recordOk : Bool
  removeOk : Bool
  linkOk : Bool
deriving DecidableEq, Repr

/-- A change of the store that takes effect as a whole, also when the power fails. -/
inductive StoreOp
  | putTrial (t : Trial)
  | dropTrial
  | setCurrent (dir : Bytes)
deriving DecidableEq, Repr

def StoreOp.apply (s : Store) : StoreOp → Store
  | .putTrial t => s.writeTrial t
  | .dropTrial => s.removeTrial
  | .setCurrent dir => { s with current := some dir }

/-- The changes in their order. -/
def Store.applyOps (s : Store) (ops : List StoreOp) : Store := ops.foldl StoreOp.apply s

/-- The results of an activation. -/
inductive ActivateResult
  | success
  | notExist
  | corrupted
  | other
deriving DecidableEq, Repr

/-- The record that arms the trial of `target`. -/
def armedTrial (target current timestamp : Bytes) : Trial where
  newDir := target.take 511
  prevDir := current.take 511
  attempts := 0
  time := timestamp.take 31

/-- `trial_remove` in `switch_to_version`: the record stays when `unlink` fails. -/
def SwitchEnv.trialRemove (env : SwitchEnv) : List StoreOp :=
  if env.removeOk then [.dropTrial] else []

/-- The region of `switch_to_version` under `g_trial_mutex`: arm the trial, or drop a record
when there is nothing to fall back to, or keep things as they are for the running version. -/
def trialOps (env : SwitchEnv) (target current timestamp : Bytes) (trial : Bool) :
    List StoreOp :=
  let sameVersion := current ≠ [] ∧ current = target
  if trial ∧ ¬ sameVersion ∧ current ≠ [] ∧ env.previousIsDir then
    -- without its record the new version runs unprotected
    if env.recordOk then [.putTrial (armedTrial target current timestamp)] else []
  else if ¬ sameVersion then env.trialRemove
  else []

/-- `switch_to_version`: its result and the changes it makes, in order. -/
def switchToVersion (env : SwitchEnv) (s : Store) (version timestamp : Bytes) (trial : Bool) :
    ActivateResult × List StoreOp :=
  let target := versionDir version
  let current := s.readCurrentLink
  if ¬ env.clockOk then (.other, [])
  else if ¬ env.versionDirExists then (.notExist, [])
  else if ¬ env.metadataOk then (.corrupted, [])
  else if current ≠ [] ∧ ¬ env.rollbackDirOk then (.other, [])
  else if env.linkOk then (.success, trialOps env target current timestamp trial ++
    [.setCurrent target])
  else (.other, trialOps env target current timestamp trial ++ env.trialRemove)

/-! ### What the store looks like -/

/-- A directory name as `current` can hold it and the record can repeat it. -/
structure CleanDir (dir : Bytes) : Prop where
  ne_nil : dir ≠ []
  field : CleanField 512 dir

instance (dir : Bytes) : Decidable (CleanDir dir) :=
  decidable_of_iff (dir ≠ [] ∧ CleanField 512 dir) ⟨fun h => ⟨h.1, h.2⟩, fun h => ⟨h.1, h.2⟩⟩

/-- `current` names a version, and the trial file is absent or a record of a version and a
different one to fall back to. -/
structure Store.WF (s : Store) : Prop where
  current : ∃ c, s.current = some c ∧ CleanDir c
  trial : s.trialFile = none ∨
    ∃ t : Trial, t.Clean ∧ t.newDir ≠ t.prevDir ∧ s.trialFile = some (trialText t)

lemma CleanDir.take_eq {dir : Bytes} (h : CleanDir dir) : dir.take 511 = dir :=
  List.take_of_length_le (Nat.le_of_lt_succ h.field.length_lt)

lemma readCurrentLink_eq {s : Store} {c : Bytes} (h : s.current = some c) (hc : CleanDir c) :
    s.readCurrentLink = c := by
  rw [Store.readCurrentLink, h, Option.getD_some, hc.take_eq]

/-- The script and the process read the link alike. -/
lemma shellCurrent_eq {s : Store} {c : Bytes} (h : s.current = some c) (hc : CleanDir c) :
    s.shellCurrent = c := by
  have hzero : c.filter (· ≠ 0) = c :=
    List.filter_eq_self.2 fun b hb => decide_eq_true (hc.field.bytes b hb).1
  rw [Store.shellCurrent, h, Option.getD_some, hzero, List.rdropWhile_eq_self_iff]
  intro hne hlast
  exact hc.field.lf_not_mem (of_decide_eq_true hlast ▸ List.getLast_mem hne)

lemma isNameByte_clean {c : UInt8} (h : ((65 ≤ c.toNat && c.toNat ≤ 90) ||
    (97 ≤ c.toNat && c.toNat ≤ 122) || (48 ≤ c.toNat && c.toNat ≤ 57) || c.toNat = 46 ||
    c.toNat = 95 || c.toNat = 45) = true) : c ≠ 0 ∧ c ≠ cr ∧ c ≠ lf := by
  refine ⟨?_, ?_, ?_⟩ <;> rintro rfl <;> exact absurd h (by decide)

/-- The directory of a safe version name is clean. -/
lemma cleanDir_versionDir {version : Bytes} (hsafe : shellSafeName version = true)
    (hlen : version.length < 40) : CleanDir (versionDir version) := by
  have hbase : (ascii "/opt/vendor/versions/").length = 21 := by decide
  have htake : versionDir version = ascii "/opt/vendor/versions/" ++ version :=
    List.take_of_length_le (by rw [List.length_append, hbase]; omega)
  have hbytes : ∀ b ∈ version, b ≠ 0 ∧ b ≠ cr ∧ b ≠ lf := by
    simp only [shellSafeName, Bool.and_eq_true] at hsafe
    exact fun b hb => isNameByte_clean (List.all_eq_true.1 hsafe.1.1.2 b hb)
  have hprefix : CleanField 512 (ascii "/opt/vendor/versions/") := by decide
  rw [htake]
  refine ⟨by simp [ascii], ⟨fun b hb => ?_, by rw [List.length_append, hbase]; omega⟩⟩
  rcases List.mem_append.1 hb with hb | hb
  · exact hprefix.bytes b hb
  · exact hbytes b hb

/-! ### What each part does to such a store -/

@[simp] lemma removeTrial_current (s : Store) : s.removeTrial.current = s.current := rfl

@[simp] lemma removeTrial_trialFile (s : Store) : s.removeTrial.trialFile = none := rfl

@[simp] lemma writeTrial_current (s : Store) (t : Trial) :
    (s.writeTrial t).current = s.current := rfl

@[simp] lemma writeTrial_trialFile (s : Store) (t : Trial) :
    (s.writeTrial t).trialFile = some (trialText t) := rfl

lemma shellLt_iff {a b : ℕ} : shellLt a b = true ↔ a < 2 ^ 63 ∧ b < 2 ^ 63 ∧ a < b := by
  simp [shellLt, and_assoc]

/-- The script on a store without a record. -/
lemma upgradeGuard_none (env : GuardEnv) {s : Store} (h : s.trialFile = none) :
    upgradeGuard env s = s := by
  rw [upgradeGuard, h]

/-- The script on a record, the reading of the file done. -/
lemma upgradeGuard_record (env : GuardEnv) {s : Store} {c : Bytes} {t : Trial}
    (hcur : s.current = some c) (hc : CleanDir c) (ht : t.Clean)
    (hfile : s.trialFile = some (trialText t)) :
    upgradeGuard env s =
      if c ≠ t.newDir then s.removeTrial
      else if shellLt t.attempts env.limit then
        if env.recordOk then s.writeTrial { t with attempts := t.attempts + 1 } else s
      else if t.prevDir = [] ∨ env.hasExecutable t.prevDir = false then s.removeTrial
      else if env.linkOk then { current := some t.prevDir, trialFile := none, notice := true }
      else s.removeTrial := by
  simp only [upgradeGuard, hfile, guardRead_trialText ht, shellCurrent_eq hcur hc,
    ht.newDir_ne_nil, false_or]

/-- The start of a process on a record. -/
lemma versionManagerInit_record {s : Store} {c : Bytes} {t : Trial}
    (hcur : s.current = some c) (hc : CleanDir c) (ht : t.Clean)
    (hfile : s.trialFile = some (trialText t)) :
    versionManagerInit s = if c ≠ t.newDir then s.removeTrial else s := by
  simp only [versionManagerInit, hfile, trialRead_trialText ht, readCurrentLink_eq hcur hc]

lemma versionManagerInit_none {s : Store} (h : s.trialFile = none) :
    versionManagerInit s = s := by
  rw [versionManagerInit, h, trialRead]

/-- A channel setup never touches the link, and leaves a record only to a process that has
confirmed before. -/
lemma versionTrialOnChannelEstablished_current (s : Store) (p : TrialFlags) :
    (versionTrialOnChannelEstablished s p).1.current = s.current := by
  unfold versionTrialOnChannelEstablished
  split
  · rfl
  · split <;> rfl

lemma versionTrialOnChannelEstablished_trialFile {s : Store} {p : TrialFlags}
    (h : (versionTrialOnChannelEstablished s p).1.trialFile ≠ s.trialFile) :
    (versionTrialOnChannelEstablished s p).1.trialFile = none := by
  unfold versionTrialOnChannelEstablished at h ⊢
  split at h
  · exact absurd rfl h
  · rename_i hp
    rw [if_neg hp]
    revert h
    cases trialRead s.trialFile with
    | none => exact fun h => absurd rfl h
    | some t => exact fun _ => rfl

/-- The reset of the start count. -/
lemma versionTrialOnUptime_record (stableSec uptimeSec : ℕ) (recordOk : Bool) {s : Store}
    {p : TrialFlags} {c : Bytes} {t : Trial} (hcur : s.current = some c) (hc : CleanDir c)
    (ht : t.Clean) (hfile : s.trialFile = some (trialText t)) :
    (versionTrialOnUptime stableSec uptimeSec recordOk s p).1 =
      if stableSec ≤ uptimeSec ∧ p.stableDone = false ∧ p.confirmed = false ∧
          t.attempts % 2 ^ 32 ≠ 0 ∧ c = t.newDir ∧ recordOk = true then
        s.writeTrial { t with attempts := 0 }
      else s := by
  simp only [versionTrialOnUptime, hfile, trialRead_trialText ht, readCurrentLink_eq hcur hc]
  split_ifs <;> simp_all
  omega

lemma versionTrialOnUptime_none (stableSec uptimeSec : ℕ) (recordOk : Bool) {s : Store}
    (p : TrialFlags) (h : s.trialFile = none) :
    (versionTrialOnUptime stableSec uptimeSec recordOk s p).1 = s := by
  unfold versionTrialOnUptime
  split_ifs <;> simp [h, trialRead]

end AntennaMgmt.Version
