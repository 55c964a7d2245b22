import AntennaMgmt.Lib.Transition
import AntennaMgmt.Version.Trial

/-!
# The version system over several processes

The store survives the processes that act on it.  A run interleaves activations, interrupted
ones among them, with what the running process does, with its end, with the script and with
the start of the next process.
-/

namespace AntennaMgmt.Version

open AntennaMgmt.Lib

/-- A request to activate a software version, as `version_handle_activate_request` lets it
through, with what `switch_to_version` will meet. -/
structure Activation where
  version : Bytes
  safe : shellSafeName version = true
  short : version.length < 40
  timestamp : Bytes
  timestamp_clean : CleanField 32 timestamp
  env : SwitchEnv

/-- The directory of the version to activate. -/
def Activation.target (a : Activation) : Bytes := versionDir a.version

/-- The changes that `switch_to_version` makes for the request. -/
def Activation.ops (a : Activation) (s : Store) : List StoreOp :=
  (switchToVersion a.env s a.version a.timestamp true).2

lemma Activation.cleanDir_target (a : Activation) : CleanDir a.target :=
  cleanDir_versionDir a.safe a.short

/-- A running service process: the version it was started from, its flags, when it was started
and whether an activation in it has moved `current` since. -/
structure Process where
  running : Option Bytes
  flags : TrialFlags
  startedAt : ℕ
  hasSwitched : Bool

/-- The store, the process if one is running, the number of events so far and the last one that
moved `current`. -/
structure Sys where
  store : Store
  proc : Option Process
  now : ℕ
  switchedAt : ℕ

inductive Event
  | activate (a : Activation)
  | powerLoss (a : Activation) (k : ℕ)
  | channelSetup
  | uptime (stableSec uptimeSec : ℕ) (recordOk : Bool)
  | exit
  | guard (env : GuardEnv)
  | start

namespace Sys

/-- The event that leaves the store `s'` and the process `p'`. -/
def tick (σ : Sys) (s' : Store) (p' : Option Process) : Sys where
  store := s'
  proc := p'
  now := σ.now + 1
  switchedAt := if s'.current = σ.store.current then σ.switchedAt else σ.now

/-- The process after an activation in it that leaves the store `s'`. -/
def switched (σ : Sys) (p : Process) (s' : Store) : Process :=
  { p with hasSwitched := p.hasSwitched || s'.current ≠ σ.store.current }

end Sys

/-- The step function.  An activation runs to its end, or the power fails after `k` of its
changes; the script and the start of a process need that no process is running. -/
def next (σ : Sys) : Event → Option Sys
  | .activate a => σ.proc.map fun p =>
    let s' := σ.store.applyOps (a.ops σ.store)
    σ.tick s' (some (σ.switched p s'))
  | .powerLoss a k => σ.proc.map fun _ =>
    σ.tick (σ.store.applyOps ((a.ops σ.store).take k)) none
  | .channelSetup => σ.proc.map fun p =>
    let r := versionTrialOnChannelEstablished σ.store p.flags
    σ.tick r.1 (some { p with flags := r.2 })
  | .uptime stableSec uptimeSec recordOk => σ.proc.map fun p =>
    let r := versionTrialOnUptime stableSec uptimeSec recordOk σ.store p.flags
    σ.tick r.1 (some { p with flags := r.2 })
  | .exit => σ.proc.map fun _ => σ.tick σ.store none
  | .guard env => if σ.proc.isNone then some (σ.tick (upgradeGuard env σ.store) none) else none
  | .start =>
    if σ.proc.isNone then
      some (σ.tick (versionManagerInit σ.store)
        (some ⟨σ.store.current, .init, σ.now, false⟩))
    else none

/-- One event. -/
def Step (σ : Sys) (e : Event) (σ' : Sys) : Prop := next σ e = some σ'

/-- A version runs that was not switched since its start, and there is no trial record. -/
structure Sys.Initial (σ : Sys) : Prop where
  trialFile : σ.store.trialFile = none
  current : ∃ c, σ.store.current = some c ∧ CleanDir c
  proc : ∃ p, σ.proc = some p ∧ p.running = σ.store.current ∧ p.hasSwitched = false ∧
    σ.switchedAt < p.startedAt ∧ p.startedAt < σ.now

/-- The states of all runs. -/
def Reachable (σ : Sys) : Prop := ∃ σ₀ l, σ₀.Initial ∧ Run Step σ₀ l σ

/-- Everything one event can do. -/
lemma step_cases {σ σ' : Sys} {e : Event} (h : Step σ e σ') :
    (∃ a p, e = .activate a ∧ σ.proc = some p ∧
      σ' = σ.tick (σ.store.applyOps (a.ops σ.store))
        (some (σ.switched p (σ.store.applyOps (a.ops σ.store))))) ∨
    (∃ a k p, e = .powerLoss a k ∧ σ.proc = some p ∧
      σ' = σ.tick (σ.store.applyOps ((a.ops σ.store).take k)) none) ∨
    (∃ p, e = .channelSetup ∧ σ.proc = some p ∧
      σ' = σ.tick (versionTrialOnChannelEstablished σ.store p.flags).1
        (some { p with flags := (versionTrialOnChannelEstablished σ.store p.flags).2 })) ∨
    (∃ n m ok p, e = .uptime n m ok ∧ σ.proc = some p ∧
      σ' = σ.tick (versionTrialOnUptime n m ok σ.store p.flags).1
        (some { p with flags := (versionTrialOnUptime n m ok σ.store p.flags).2 })) ∨
    (∃ p, e = .exit ∧ σ.proc = some p ∧ σ' = σ.tick σ.store none) ∨
    (∃ env, e = .guard env ∧ σ.proc = none ∧ σ' = σ.tick (upgradeGuard env σ.store) none) ∨
    (e = .start ∧ σ.proc = none ∧
      σ' = σ.tick (versionManagerInit σ.store)
        (some ⟨σ.store.current, .init, σ.now, false⟩)) := by
  cases e with
  | activate a =>
    obtain ⟨p, hp, hs⟩ := Option.map_eq_some_iff.1 h
    exact .inl ⟨a, p, rfl, hp, hs.symm⟩
  | powerLoss a k =>
    obtain ⟨p, hp, hs⟩ := Option.map_eq_some_iff.1 h
    exact .inr (.inl ⟨a, k, p, rfl, hp, hs.symm⟩)
  | channelSetup =>
    obtain ⟨p, hp, hs⟩ := Option.map_eq_some_iff.1 h
    exact .inr (.inr (.inl ⟨p, rfl, hp, hs.symm⟩))
  | uptime n m ok =>
    obtain ⟨p, hp, hs⟩ := Option.map_eq_some_iff.1 h
    exact .inr (.inr (.inr (.inl ⟨n, m, ok, p, rfl, hp, hs.symm⟩)))
  | exit =>
    obtain ⟨p, hp, hs⟩ := Option.map_eq_some_iff.1 h
    exact .inr (.inr (.inr (.inr (.inl ⟨p, rfl, hp, hs.symm⟩))))
  | guard env =>
    simp only [Step, next, Option.ite_none_right_eq_some, Option.some.injEq,
      Option.isNone_iff_eq_none] at h
    exact .inr (.inr (.inr (.inr (.inr (.inl ⟨env, rfl, h.1, h.2.symm⟩)))))
  | start =>
    simp only [Step, next, Option.ite_none_right_eq_some, Option.some.injEq,
      Option.isNone_iff_eq_none] at h
    exact .inr (.inr (.inr (.inr (.inr (.inr ⟨rfl, h.1, h.2.symm⟩)))))

end AntennaMgmt.Version
