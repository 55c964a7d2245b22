import AntennaMgmt.Lib.Transition
import AntennaMgmt.Watchdog.Gpio

/-!
# The thread that feeds the watchdog

The main program starts and stops the feeding thread and takes its registers away when it ends.  The
thread looks at the `enabled` flag under the mutex, turns the pin over, and counts.  A step of the
model is one mutex region or one access to the mapping, so that runs are the interleavings of the
two threads; what must not happen, an access to a bank that is not mapped or a lock of a mutex that
does not exist, is recorded.
-/

namespace AntennaMgmt.Watchdog

open AntennaMgmt.Lib

/-- `WATCHDOG_FEED_FAIL_ALARM_THRESHOLD`. -/
def feedFailAlarmThreshold : ℕ := 3

/-- Where the main program stands: outside of the module, in `pthread_join`, or in the rest of
`fpga_watchdog_destroy`. -/
inductive CallerPc
  | idle
  | join (destroying : Bool)
  | unmap
  | destroyMutex
deriving DecidableEq, Repr

/-- Where the feeding thread stands. -/
inductive FeederPc
  | none
  | check
  | feedTest
  | feedRead
  | feedWrite (value : BitVec 32)
  | fed
  | failed
  | sleep
  | exited
deriving DecidableEq, Repr

/-- The calls of `alarm_trigger` and `alarm_clear` for `ALARM_CODE_WATCHDOG_FEED_FAIL`. -/
inductive AlarmCall
  | trigger
  | clear
deriving DecidableEq, Repr

/-- What must not happen. -/
inductive Fault
  | unmappedAccess
  | deadMutex
deriving DecidableEq, Repr

/-- `g_watchdog_mgr` with `g_watchdog_mutex_ready`, the hardware, where the threads stand, and what
has happened, the latest first.  `edges` counts the writes of the feeding thread since the module
was initialised. -/
structure WatchdogSys where
  mutexReady : Bool
  enabled : Bool
  feedCount : ℕ
  consecutiveFeedFails : ℕ
  cfg : GpioConfig
  hw : Hardware
  caller : CallerPc
  feeder : FeederPc
  alarms : List AlarmCall
  faults : List Fault
  edges : ℕ

/-- Before the first call, with the registers as they are. -/
def WatchdogSys.init (gpio iomux : Regs) : WatchdogSys where
  mutexReady := false
  enabled := false
  feedCount := 0
  consecutiveFeedFails := 0
  cfg := ⟨0, 0, 0, 0, 0⟩
  hw := ⟨false, false, gpio, iomux⟩
  caller := .idle
  feeder := .none
  alarms := []
  faults := []
  edges := 0

namespace WatchdogSys

/-- `fpga_watchdog_init`. -/
def fpgaWatchdogInit (s : WatchdogSys) (cfg : GpioConfig) (env : InitEnv) : Bool × WatchdogSys :=
  let s := { s with enabled := false, feedCount := 0, consecutiveFeedFails := 0 }
  if env.mutexInit = false then (false, s)
  else
    let (ready, hw) := watchdogGpioInit cfg env s.hw
    (ready, { s with mutexReady := ready, cfg := cfg, hw := hw, edges := 0 })

/-- `fpga_watchdog_start`; `created` says whether the thread could be created. -/
def fpgaWatchdogStart (s : WatchdogSys) (created : Bool) : WatchdogSys :=
  if s.mutexReady = false then s
  else if s.enabled then s
  else if created then
    { s with enabled := true, feedCount := 0, consecutiveFeedFails := 0, feeder := .check }
  else { s with enabled := false, feedCount := 0, consecutiveFeedFails := 0 }

/-- `fpga_watchdog_stop` up to `pthread_join`, on its own or in `fpga_watchdog_destroy`. -/
def fpgaWatchdogStop (s : WatchdogSys) (destroying : Bool) : WatchdogSys :=
  if s.mutexReady = true ∧ s.enabled = true then
    { s with enabled := false, caller := .join destroying }
  else if destroying then { s with caller := .unmap }
  else s

/-- The rest of `fpga_watchdog_stop` and `fpga_watchdog_destroy`. -/
def callerStep (s : WatchdogSys) : Option WatchdogSys :=
  match s.caller with
  | .idle => none
  | .join destroying =>
    if s.feeder = .exited then
      some { s with feeder := .none, caller := if destroying then .unmap else .idle }
    else none
  | .unmap =>
    some { s with
      hw := { s.hw with gpioMapped := false, iomuxMapped := false }
      caller := .destroyMutex }
  | .destroyMutex => some { s with mutexReady := false, caller := .idle }

/-- A region of the feeding thread under the mutex. -/
def locked (s s' : WatchdogSys) : WatchdogSys :=
  if s.mutexReady then s' else { s' with faults := .deadMutex :: s'.faults }

/-- An access of the feeding thread to the registers. -/
def mapped (s s' : WatchdogSys) : WatchdogSys :=
  if s.hw.gpioMapped then s' else { s' with faults := .unmappedAccess :: s'.faults }

/-- `watchdog_thread_func`. -/
def feederStep (s : WatchdogSys) : Option WatchdogSys :=
  match s.feeder with
  | .none | .exited => none
  | .check => some (s.locked { s with feeder := if s.enabled then .feedTest else .exited })
  | .feedTest => some { s with feeder := if s.hw.gpioMapped then .feedRead else .failed }
  | .feedRead =>
    some (s.mapped { s with feeder := .feedWrite (toggled s.cfg (s.hw.gpio s.cfg.drOffset)) })
  | .feedWrite value =>
    some (s.mapped { s with
      hw := { s.hw with gpio := Function.update s.hw.gpio s.cfg.drOffset value }
      edges := s.edges + 1
      feeder := .fed })
  | .fed =>
    some (s.locked { s with
      feedCount := (s.feedCount + 1) % 2 ^ 32
      alarms := if feedFailAlarmThreshold ≤ s.consecutiveFeedFails then .clear :: s.alarms
        else s.alarms
      consecutiveFeedFails := 0
      feeder := .sleep })
  | .failed =>
    let fails := (s.consecutiveFeedFails + 1) % 2 ^ 32
    some { s with
      consecutiveFeedFails := fails
      alarms := if fails = feedFailAlarmThreshold then .trigger :: s.alarms else s.alarms
      feeder := .sleep }
  | .sleep => some { s with feeder := .check }

/-- The calls of the main program. -/
inductive Call
  | init (cfg : GpioConfig) (env : InitEnv)
  | start (created : Bool)
  | stop
  | isRunning
  | destroy
deriving DecidableEq

/-- What a call does before it waits for the feeding thread, if it does. -/
def call (s : WatchdogSys) : Call → WatchdogSys
  | .init cfg env => (s.fpgaWatchdogInit cfg env).2
  | .start created => s.fpgaWatchdogStart created
  | .stop => s.fpgaWatchdogStop false
  | .isRunning => s
  | .destroy => s.fpgaWatchdogStop true

/-- A call begins, goes on, or the feeding thread takes a step. -/
inductive Act
  | call (c : Call)
  | caller
  | feeder
deriving DecidableEq

/-- A step.  A call begins when the one before is over. -/
def next (s : WatchdogSys) : Act → Option WatchdogSys
  | .call c => if s.caller = .idle then some (s.call c) else none
  | .caller => s.callerStep
  | .feeder => s.feederStep

/-- A step. -/
def Step (s : WatchdogSys) (a : Act) (s' : WatchdogSys) : Prop := s.next a = some s'

/-- Is it a call of `fpga_watchdog_init`? -/
def Act.isInit : Act → Bool
  | .call (.init _ _) => true
  | _ => false

/-- The module is initialised only while no thread feeds. -/
def Orderly (s : WatchdogSys) (a : Act) : Prop := a.isInit = true → s.feeder = .none

instance (s : WatchdogSys) (a : Act) : Decidable (s.Orderly a) :=
  inferInstanceAs (Decidable (_ → _))

/-! ### The thread and its registers -/

/-- A thread that feeds has its mutex and its registers, and the main program either lets it feed or
waits for it. -/
structure Safe (s : WatchdogSys) : Prop where
  faults : s.faults = []
  alarms : s.alarms = []
  fails : s.consecutiveFeedFails = 0
  feeding : s.feeder ≠ .none → s.mutexReady = true ∧ s.hw.gpioMapped = true ∧ s.feeder ≠ .failed
  caller : s.feeder ≠ .none →
    s.enabled = true ∧ s.caller = .idle ∧ s.feeder ≠ .exited ∨
      s.enabled = false ∧ ∃ destroying, s.caller = .join destroying
  ready : s.mutexReady = true → s.hw.gpioMapped = true ∨ s.caller = .destroyMutex

variable {s s' : WatchdogSys} {a : Act}

/-- A bank that was initialised is mapped. -/
lemma gpioMapped_of_watchdogGpioInit {cfg : GpioConfig} {env : InitEnv} {hw : Hardware}
    (h : (watchdogGpioInit cfg env hw).1 = true) :
    (watchdogGpioInit cfg env hw).2.gpioMapped = true := by
  unfold watchdogGpioInit configureIomux at h ⊢
  dsimp only at h ⊢
  split_ifs at h ⊢ <;> simp_all

lemma Safe.fpgaWatchdogInit (h : s.Safe) (hnone : s.feeder = .none) (cfg : GpioConfig)
    (env : InitEnv) : (s.fpgaWatchdogInit cfg env).2.Safe := by
  unfold WatchdogSys.fpgaWatchdogInit
  dsimp only
  split_ifs with hmutex
  · exact ⟨h.faults, h.alarms, rfl, fun hf => absurd hnone hf, fun hf => absurd hnone hf, h.ready⟩
  · exact ⟨h.faults, h.alarms, rfl, fun hf => absurd hnone hf, fun hf => absurd hnone hf,
      fun hready => .inl (gpioMapped_of_watchdogGpioInit hready)⟩

/-- Between two calls a mutex that exists has its registers. -/
lemma Safe.gpioMapped (h : s.Safe) (hidle : s.caller = .idle) (hready : s.mutexReady = true) :
    s.hw.gpioMapped = true := by
  rcases h.ready hready with hm | hd
  · exact hm
  · rw [hidle] at hd
    cases hd

/-- Between two calls a thread that exists is let feed. -/
lemma Safe.feeding_of_idle (h : s.Safe) (hidle : s.caller = .idle) (hf : s.feeder ≠ .none) :
    s.enabled = true ∧ s.feeder ≠ .exited := by
  rcases h.caller hf with ⟨hon, -, hexit⟩ | ⟨-, d, hd⟩
  · exact ⟨hon, hexit⟩
  · rw [hidle] at hd
    cases hd

lemma Safe.fpgaWatchdogStart (h : s.Safe) (hidle : s.caller = .idle) (created : Bool) :
    (s.fpgaWatchdogStart created).Safe := by
  unfold WatchdogSys.fpgaWatchdogStart
  split_ifs with hready henabled
  · exact h
  · exact h
  · have hmutex : s.mutexReady = true := by simpa using hready
    exact ⟨h.faults, h.alarms, rfl, fun _ => ⟨hmutex, h.gpioMapped hidle hmutex, nofun⟩,
      fun _ => .inl ⟨rfl, hidle, nofun⟩, h.ready⟩
  · exact ⟨h.faults, h.alarms, rfl, h.feeding,
      fun hf => absurd (h.feeding_of_idle hidle hf).1 henabled, h.ready⟩

lemma Safe.fpgaWatchdogStop (h : s.Safe) (hidle : s.caller = .idle) (destroying : Bool) :
    (s.fpgaWatchdogStop destroying).Safe := by
  unfold WatchdogSys.fpgaWatchdogStop
  split_ifs with hrunning hdestroy
  · exact ⟨h.faults, h.alarms, h.fails, h.feeding, fun _ => .inr ⟨rfl, destroying, rfl⟩,
      fun hready => .inl (h.gpioMapped hidle hready)⟩
  · have hnone : s.feeder = .none := by
      by_contra hf
      exact hrunning ⟨(h.feeding hf).1, (h.feeding_of_idle hidle hf).1⟩
    exact ⟨h.faults, h.alarms, h.fails, fun hf => absurd hnone hf, fun hf => absurd hnone hf,
      fun hready => .inl (h.gpioMapped hidle hready)⟩
  · exact h

/-- While the registers are taken away no thread feeds. -/
lemma Safe.feeder_none (h : s.Safe) (hidle : s.caller ≠ .idle) (hjoin : ∀ d, s.caller ≠ .join d) :
    s.feeder = .none := by
  by_contra hf
  rcases h.caller hf with ⟨-, hi, -⟩ | ⟨-, d, hd⟩
  · exact hidle hi
  · exact hjoin d hd

lemma Safe.callerStep (h : s.Safe) (hstep : s.callerStep = some s') : s'.Safe := by
  unfold WatchdogSys.callerStep at hstep
  cases hcaller : s.caller with
  | idle =>
    rw [hcaller] at hstep
    cases hstep
  | join destroying =>
    rw [hcaller] at hstep
    obtain ⟨hexit, hstep⟩ := Option.ite_none_right_eq_some.1 hstep
    cases hstep
    refine ⟨h.faults, h.alarms, h.fails, fun hf => absurd rfl hf, fun hf => absurd rfl hf,
      fun hready => .inl ?_⟩
    exact (h.feeding (by rw [hexit]; nofun)).2.1
  | unmap =>
    rw [hcaller] at hstep
    cases hstep
    have hnone : s.feeder = .none := h.feeder_none (by simp [hcaller]) (by simp [hcaller])
    exact ⟨h.faults, h.alarms, h.fails, fun hf => absurd hnone hf, fun hf => absurd hnone hf,
      fun _ => .inr rfl⟩
  | destroyMutex =>
    rw [hcaller] at hstep
    cases hstep
    have hnone : s.feeder = .none := h.feeder_none (by simp [hcaller]) (by simp [hcaller])
    exact ⟨h.faults, h.alarms, h.fails, fun hf => absurd hnone hf, fun hf => absurd hnone hf, nofun⟩

/-- A step of a thread that goes on feeding. -/
lemma Safe.feeds (h : s.Safe) (hf : s.feeder ≠ .none) (pc : FeederPc)
    (hpc : pc ≠ .failed ∧ pc ≠ .exited) (hw : Hardware) (count edges : ℕ)
    (hmapped : hw.gpioMapped = s.hw.gpioMapped) :
    Safe { s with feeder := pc, hw := hw, feedCount := count, edges := edges } := by
  obtain ⟨hready, hm, -⟩ := h.feeding hf
  refine ⟨h.faults, h.alarms, h.fails, fun _ => ⟨hready, hmapped.trans hm, hpc.1⟩, fun _ => ?_,
    fun _ => .inl (hmapped.trans hm)⟩
  exact (h.caller hf).imp_left fun ⟨hon, hidle, _⟩ => ⟨hon, hidle, hpc.2⟩

/-- The thread leaves its loop when it was told to. -/
lemma Safe.check (h : s.Safe) (hf : s.feeder ≠ .none) :
    Safe { s with feeder := if s.enabled then .feedTest else .exited } := by
  rcases h.caller hf with ⟨hon, -, -⟩ | ⟨hoff, hjoin⟩
  · rw [if_pos hon]
    exact h.feeds hf .feedTest ⟨nofun, nofun⟩ s.hw _ _ rfl
  · rw [if_neg (by rw [hoff]; decide)]
    obtain ⟨hready, hm, -⟩ := h.feeding hf
    exact ⟨h.faults, h.alarms, h.fails, fun _ => ⟨hready, hm, nofun⟩,
      fun _ => .inr ⟨hoff, hjoin⟩, h.ready⟩

lemma Safe.feederStep (h : s.Safe) (hstep : s.feederStep = some s') : s'.Safe := by
  by_cases hf : s.feeder = .none
  · rw [WatchdogSys.feederStep, hf] at hstep
    cases hstep
  obtain ⟨hready, hm, hfailed⟩ := h.feeding hf
  have hlocked : ∀ t, s.locked t = t := fun _ => if_pos hready
  have hmapped : ∀ t, s.mapped t = t := fun _ => if_pos hm
  unfold WatchdogSys.feederStep at hstep
  cases hfeeder : s.feeder with
  | none => exact absurd hfeeder hf
  | failed => exact absurd hfeeder hfailed
  | exited =>
    rw [hfeeder] at hstep
    cases hstep
  | check =>
    simp only [hfeeder, hlocked] at hstep
    cases hstep
    exact h.check hf
  | feedTest =>
    simp only [hfeeder, if_pos hm] at hstep
    cases hstep
    exact h.feeds hf .feedRead ⟨nofun, nofun⟩ s.hw _ _ rfl
  | feedRead | feedWrite v | sleep =>
    simp only [hfeeder, hmapped] at hstep
    cases hstep
    refine h.feeds hf _ ?_ _ _ _ rfl
    exact ⟨nofun, nofun⟩
  | fed =>
    simp only [hfeeder, hlocked] at hstep
    cases hstep
    have hfew : ¬ feedFailAlarmThreshold ≤ s.consecutiveFeedFails := by
      rw [h.fails]
      decide
    rw [if_neg hfew]
    have hsafe := h.feeds hf .sleep ⟨nofun, nofun⟩ s.hw ((s.feedCount + 1) % 2 ^ 32) s.edges rfl
    exact ⟨h.faults, h.alarms, rfl, hsafe.feeding, hsafe.caller, h.ready⟩

lemma Safe.step (h : s.Safe) (hstep : restrict Step Orderly s a s') : s'.Safe := by
  obtain ⟨hstep, horderly⟩ := hstep
  cases a with
  | call c =>
    obtain ⟨hidle, hstep⟩ := Option.ite_none_right_eq_some.1 hstep
    cases hstep
    cases c with
    | init cfg env => exact h.fpgaWatchdogInit (horderly rfl) cfg env
    | start created => exact h.fpgaWatchdogStart hidle created
    | stop => exact h.fpgaWatchdogStop hidle false
    | isRunning => exact h
    | destroy => exact h.fpgaWatchdogStop hidle true
  | caller => exact h.callerStep hstep
  | feeder => exact h.feederStep hstep

lemma safe_init (gpio iomux : Regs) : (init gpio iomux).Safe :=
  ⟨rfl, rfl, rfl, fun hf => absurd rfl hf, fun hf => absurd rfl hf, nofun⟩

/-- However the calls of the main program and the steps of the feeding thread take turns, the thread
never touches registers that are not mapped or a mutex that does not exist.  A feed fails for the
want of a mapping alone, so the alarm for failing feeds is never raised. -/
theorem watchdog_never_faults {gpio iomux : Regs} {l : List Act}
    (h : Run (restrict Step Orderly) (init gpio iomux) l s) :
    s.faults = [] ∧ s.alarms = [] ∧ s.consecutiveFeedFails = 0 := by
  have hsafe := h.invariant (fun _ _ _ hs hstep => Safe.step hs hstep) (safe_init gpio iomux)
  exact ⟨hsafe.faults, hsafe.alarms, hsafe.fails⟩

/-- The module is started, the thread feeds once, and the module is destroyed. -/
def fedOnce : List Act :=
  [.call (.init ⟨gpio0Base, 0x214, 8, 6, 1⟩ ⟨true, true, true, 0x200⟩), .call (.start true)] ++
    List.replicate 6 .feeder ++ [.call .destroy, .feeder, .caller, .caller, .caller]

theorem watchdog_never_faults_fedOnce :
    ∃ s : WatchdogSys, s.faults = [] ∧ s.edges = 1 ∧ s.mutexReady = false := by
  obtain ⟨s, hs, hend⟩ : ∃ s : WatchdogSys,
      execute next Orderly (init (fun _ => 0) fun _ => 0) fedOnce = some s ∧
        s.edges = 1 ∧ s.mutexReady = false := ⟨_, rfl, by decide⟩
  exact ⟨s, (watchdog_never_faults (.of_execute hs)).1, hend⟩

end WatchdogSys

end AntennaMgmt.Watchdog
