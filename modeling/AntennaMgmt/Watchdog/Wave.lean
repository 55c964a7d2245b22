import AntennaMgmt.Watchdog.Feeder

/-!
# The signal at the watchdog pin

The feeding thread reads a register and writes it back with one bit turned over.  Nothing else
writes the bank, so the pin alternates, starting low, and no other bit of the bank moves.
-/

namespace AntennaMgmt.Watchdog.WatchdogSys

open AntennaMgmt.Lib

/-- The bits of a bank that read `before` when the module was initialised, after `edges` feeds. -/
def wave (cfg : GpioConfig) (before : Regs) (edges off i : ℕ) : Bool :=
  if off = cfg.drOffset ∧ i = cfg.port then edges % 2 = 1
  else if off = cfg.ddrOffset ∧ i = cfg.port then true
  else (before off).getLsbD i

/-- The bank shows the signal, and a value on its way to the bank is the next edge. -/
structure Shaped (cfg : GpioConfig) (before : Regs) (s : WatchdogSys) : Prop where
  config : s.cfg = cfg
  bits : ∀ off i, (s.hw.gpio off).getLsbD i = wave cfg before s.edges off i
  flight : ∀ v, s.feeder = .feedWrite v → v = toggled cfg (s.hw.gpio cfg.drOffset)

/-- Everything but another initialisation. -/
def Settled (_ : WatchdogSys) (a : Act) : Prop := a.isInit = false

instance (s : WatchdogSys) (a : Act) : Decidable (s.Settled a) :=
  inferInstanceAs (Decidable (_ = _))

variable {cfg : GpioConfig} {before : Regs} {s s' : WatchdogSys} {a : Act}

lemma getLsbD_gpioSetDirection (hport : cfg.port < 32) (regs : Regs) (output : Bool) (off i : ℕ) :
    (gpioSetDirection cfg output regs off).getLsbD i =
      if off = cfg.ddrOffset ∧ i = cfg.port then output else (regs off).getLsbD i := by
  unfold gpioSetDirection
  by_cases hoff : off = cfg.ddrOffset
  · subst hoff
    rw [Function.update_self, getLsbD_setPin hport]
    simp
  · simp [hoff]

lemma getLsbD_gpioSetValue (hport : cfg.port < 32) (regs : Regs) (high : Bool) (off i : ℕ) :
    (gpioSetValue cfg high regs off).getLsbD i =
      if off = cfg.drOffset ∧ i = cfg.port then high else (regs off).getLsbD i := by
  unfold gpioSetValue
  by_cases hoff : off = cfg.drOffset
  · subst hoff
    rw [Function.update_self, getLsbD_setPin hport]
    simp
  · simp [hoff]

/-- An initialisation that succeeds makes the pin a low output. -/
lemma gpio_of_watchdogGpioInit {env : InitEnv} {hw : Hardware}
    (h : (watchdogGpioInit cfg env hw).1 = true) :
    (watchdogGpioInit cfg env hw).2.gpio =
      gpioSetValue cfg false (gpioSetDirection cfg true hw.gpio) := by
  unfold watchdogGpioInit configureIomux at h ⊢
  dsimp only at h ⊢
  split_ifs at h ⊢ <;> simp_all

lemma shaped_fpgaWatchdogInit {env : InitEnv} (hport : cfg.port < 32) (hnone : s.feeder = .none)
    (h : (s.fpgaWatchdogInit cfg env).1 = true) :
    Shaped cfg s.hw.gpio (s.fpgaWatchdogInit cfg env).2 := by
  unfold fpgaWatchdogInit at h ⊢
  dsimp only at h ⊢
  split_ifs at h ⊢ with hmutex
  refine ⟨rfl, fun off i => ?_, fun v hv => ?_⟩
  · dsimp only
    rw [gpio_of_watchdogGpioInit h, getLsbD_gpioSetValue hport, getLsbD_gpioSetDirection hport]
    simp [wave]
  · dsimp only at hv
    rw [hnone] at hv
    cases hv

/-- The pin before a feed, under the number of edges that it has seen. -/
lemma Shaped.level (h : s.Shaped cfg before) :
    (s.hw.gpio cfg.drOffset).getLsbD cfg.port = decide (s.edges % 2 = 1) := by
  rw [h.bits, wave, if_pos ⟨rfl, rfl⟩]

/-- The write of a feed is the next edge. -/
lemma Shaped.feed (hport : cfg.port < 32) (h : s.Shaped cfg before) {v : BitVec 32}
    (hv : s.feeder = .feedWrite v) (off i : ℕ) :
    (Function.update s.hw.gpio cfg.drOffset v off).getLsbD i =
      wave cfg before (s.edges + 1) off i := by
  by_cases hoff : off = cfg.drOffset
  · subst hoff
    rw [Function.update_self, h.flight v hv, toggled_eq_setPin hport, getLsbD_setPin hport, h.level]
    by_cases hi : i = cfg.port
    · have hflip : (!decide (s.edges % 2 = 1)) = decide ((s.edges + 1) % 2 = 1) := by
        rw [← decide_not]
        exact decide_eq_decide.2 (by omega)
      rw [if_pos hi, wave, if_pos ⟨rfl, hi⟩, hflip]
    · rw [if_neg hi, h.bits]
      simp [wave, hi]
  · rw [Function.update_of_ne hoff, h.bits]
    simp [wave, hoff]

/-- A step that leaves the bank alone. -/
lemma Shaped.of_same (h : s.Shaped cfg before) (hcfg : s'.cfg = s.cfg)
    (hgpio : s'.hw.gpio = s.hw.gpio) (hedges : s'.edges = s.edges)
    (hflight : ∀ v, s'.feeder = .feedWrite v → v = toggled cfg (s.hw.gpio cfg.drOffset)) :
    s'.Shaped cfg before :=
  ⟨hcfg.trans h.config, fun off i => by rw [hgpio, hedges, h.bits], fun v hv => by
    rw [hgpio, hflight v hv]⟩

lemma Shaped.feederStep (hport : cfg.port < 32) (h : s.Shaped cfg before)
    (hstep : s.feederStep = some s') : s'.Shaped cfg before := by
  unfold WatchdogSys.feederStep locked mapped at hstep
  cases hfeeder : s.feeder with
  | none | exited =>
    rw [hfeeder] at hstep
    cases hstep
  | feedRead =>
    rw [hfeeder] at hstep
    cases hstep
    split_ifs <;> refine h.of_same rfl rfl rfl fun v hv => ?_ <;> cases hv <;> rw [h.config]
  | feedWrite value =>
    rw [hfeeder] at hstep
    cases hstep
    split_ifs <;>
      exact ⟨h.config, fun off i => by rw [h.config]; exact h.feed hport hfeeder off i, by simp⟩
  | sleep =>
    rw [hfeeder] at hstep
    cases hstep
    exact h.of_same rfl rfl rfl (by simp)
  | check | feedTest | fed | failed =>
    rw [hfeeder] at hstep
    cases hstep
    split_ifs <;> exact h.of_same rfl rfl rfl (by simp)

lemma Shaped.callerStep (h : s.Shaped cfg before) (hstep : s.callerStep = some s') :
    s'.Shaped cfg before := by
  unfold WatchdogSys.callerStep at hstep
  cases hcaller : s.caller with
  | idle =>
    rw [hcaller] at hstep
    cases hstep
  | join destroying =>
    rw [hcaller] at hstep
    obtain ⟨-, hstep⟩ := Option.ite_none_right_eq_some.1 hstep
    cases hstep
    exact h.of_same rfl rfl rfl (by simp)
  | unmap | destroyMutex =>
    rw [hcaller] at hstep
    cases hstep
    exact h.of_same rfl rfl rfl h.flight

lemma Shaped.fpgaWatchdogStart (h : s.Shaped cfg before) (created : Bool) :
    (s.fpgaWatchdogStart created).Shaped cfg before := by
  unfold WatchdogSys.fpgaWatchdogStart
  split_ifs
  · exact h
  · exact h
  · exact h.of_same rfl rfl rfl (by simp)
  · exact h.of_same rfl rfl rfl h.flight

lemma Shaped.fpgaWatchdogStop (h : s.Shaped cfg before) (destroying : Bool) :
    (s.fpgaWatchdogStop destroying).Shaped cfg before := by
  unfold WatchdogSys.fpgaWatchdogStop
  split_ifs
  · exact h.of_same rfl rfl rfl h.flight
  · exact h.of_same rfl rfl rfl h.flight
  · exact h

lemma Shaped.step (hport : cfg.port < 32) (h : s.Shaped cfg before)
    (hstep : restrict Step Settled s a s') : s'.Shaped cfg before := by
  obtain ⟨hstep, hsettled⟩ := hstep
  cases a with
  | call c =>
    obtain ⟨-, hstep⟩ := Option.ite_none_right_eq_some.1 hstep
    cases hstep
    cases c with
    | init => cases hsettled
    | start created => exact h.fpgaWatchdogStart created
    | stop => exact h.fpgaWatchdogStop false
    | isRunning => exact h
    | destroy => exact h.fpgaWatchdogStop true
  | caller => exact h.callerStep hstep
  | feeder => exact h.feederStep hport hstep

/-- After an initialisation that succeeded, however starts, stops and the steps of the feeding
thread take turns, the pin is an output whose level says whether the number of feeds is odd, and
every other bit of the bank is as it was. -/
theorem pin_alternates {env : InitEnv} {l : List Act} {t : WatchdogSys} (hport : cfg.port < 32)
    (hnone : s.feeder = .none) (hinit : (s.fpgaWatchdogInit cfg env).1 = true)
    (h : Run (restrict Step Settled) (s.fpgaWatchdogInit cfg env).2 l t) (off i : ℕ) :
    (t.hw.gpio off).getLsbD i =
      if off = cfg.drOffset ∧ i = cfg.port then decide (t.edges % 2 = 1)
      else if off = cfg.ddrOffset ∧ i = cfg.port then true
      else (s.hw.gpio off).getLsbD i :=
  (h.invariant (fun _ _ _ hs hstep => Shaped.step hport hs hstep)
    (shaped_fpgaWatchdogInit hport hnone hinit)).bits off i

/-- Two feeds of a thread that is then stopped. -/
def fedTwice : List Act :=
  .call (.start true) :: List.replicate 12 .feeder ++ [.call .stop, .feeder, .caller]

theorem pin_alternates_fedTwice :
    ∃ t : WatchdogSys, t.edges = 2 ∧ (t.hw.gpio 0x00).getLsbD 6 = false := by
  obtain ⟨t, ht, hedges⟩ : ∃ t : WatchdogSys,
      execute next Settled ((init (fun _ => 0) fun _ => 0).fpgaWatchdogInit
        ⟨gpio0Base, 0x214, 8, 6, 0⟩ ⟨true, true, true, 0x200⟩).2 fedTwice = some t ∧
        t.edges = 2 := ⟨_, rfl, by decide⟩
  refine ⟨t, hedges, ?_⟩
  rw [pin_alternates (by decide) rfl (by decide) (.of_execute ht), hedges]
  decide

end AntennaMgmt.Watchdog.WatchdogSys
