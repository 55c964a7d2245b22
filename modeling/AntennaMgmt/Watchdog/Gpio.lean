import Mathlib.Algebra.Group.Nat.Defs
import Mathlib.Logic.Function.Basic
import Mathlib.Data.Nat.Notation
import Mathlib.Tactic.SplitIfs

/-!
# The GPIO pin of the watchdog

The pin is one bit of a register that it shares with other pins, and its function is four bits of a
register of the pin multiplexer.  The registers are read, changed and written back as a whole.
-/

namespace AntennaMgmt.Watchdog

/-- The registers behind a base address, by their offsets. -/
abbrev Regs := ℕ → BitVec 32

/-- `gpio_config_t`, without the pull bit, which only the log shows. -/
structure GpioConfig where
  gpioBase : ℕ
  pinMuxOffset : ℕ
  muxFuncBit : ℕ
  port : ℕ
  usePortb : ℕ
deriving DecidableEq, Repr

/-- `GPIO0_BASE`. -/
def gpio0Base : ℕ := 0x28004000

/-- `GPIO1_BASE`. -/
def gpio1Base : ℕ := 0x28005000

/-- `SWPORTB_DR_OFFSET` or `SWPORTA_DR_OFFSET`. -/
def GpioConfig.drOffset (cfg : GpioConfig) : ℕ := if cfg.usePortb ≠ 0 then 0x0C else 0x00

/-- `SWPORTB_DDR_OFFSET` or `SWPORTA_DDR_OFFSET`. -/
def GpioConfig.ddrOffset (cfg : GpioConfig) : ℕ := if cfg.usePortb ≠ 0 then 0x10 else 0x04

/-- `GPIO_FUNCTION_VALUE`. -/
def gpioFunctionValue : BitVec 32 := 0x2

/-- `temp |= (1 << port)` or `temp &= ~(1 << port)`. -/
def setPin (w : BitVec 32) (port : ℕ) (on : Bool) : BitVec 32 :=
  if on then w ||| (1#32 <<< port) else w &&& ~~~(1#32 <<< port)

/-- `gpio_set_direction` on a mapped register bank. -/
def gpioSetDirection (cfg : GpioConfig) (output : Bool) (regs : Regs) : Regs :=
  Function.update regs cfg.ddrOffset (setPin (regs cfg.ddrOffset) cfg.port output)

/-- `gpio_set_value` on a mapped register bank. -/
def gpioSetValue (cfg : GpioConfig) (high : Bool) (regs : Regs) : Regs :=
  Function.update regs cfg.drOffset (setPin (regs cfg.drOffset) cfg.port high)

/-- The value that `watchdog_feed` writes for the one that it has read. -/
def toggled (cfg : GpioConfig) (current : BitVec 32) : BitVec 32 :=
  if current &&& (1#32 <<< cfg.port) ≠ 0 then current &&& ~~~(1#32 <<< cfg.port)
  else current ||| (1#32 <<< cfg.port)

/-- The value that `configure_iomux` writes for the one that it has read. -/
def muxValue (cfg : GpioConfig) (current : BitVec 32) : BitVec 32 :=
  (current &&& ~~~(0xF#32 <<< cfg.muxFuncBit)) ||| (gpioFunctionValue <<< cfg.muxFuncBit)

/-- The hardware as the program sees it: which banks are mapped, and their registers. -/
structure Hardware where
  gpioMapped : Bool
  iomuxMapped : Bool
  gpio : Regs
  iomux : Regs

/-- What the system answers while the module is initialised: whether the mutex is made, whether the
two banks can be mapped, and what the multiplexer reads after it was written. -/
structure InitEnv where
  mutexInit : Bool
  gpioMap : Bool
  iomuxMap : Bool
  readBack : BitVec 32
deriving DecidableEq

/-- `configure_iomux`. -/
def configureIomux (cfg : GpioConfig) (env : InitEnv) (hw : Hardware) : Bool × Hardware :=
  let mapped := hw.iomuxMapped || env.iomuxMap
  let hw := { hw with iomuxMapped := mapped }
  if mapped = false then (false, hw)
  else
    let muxVal := muxValue cfg (hw.iomux cfg.pinMuxOffset)
    let hw := { hw with iomux := Function.update hw.iomux cfg.pinMuxOffset muxVal }
    (env.readBack = muxVal, hw)

/-- `watchdog_gpio_init`. -/
def watchdogGpioInit (cfg : GpioConfig) (env : InitEnv) (hw : Hardware) : Bool × Hardware :=
  let hw := { hw with gpioMapped := env.gpioMap }
  if env.gpioMap = false then (false, hw)
  else
    let (configured, hw) := configureIomux cfg env hw
    if configured = false then (false, hw)
    -- `gpio_set_direction` and `gpio_set_value` both refuse any other base
    else if cfg.gpioBase ≠ gpio0Base ∧ cfg.gpioBase ≠ gpio1Base then (false, hw)
    else (true, { hw with
      gpio := gpioSetValue cfg false (gpioSetDirection cfg true hw.gpio) })

/-! ### Single bits -/

lemma getLsbD_one_shiftLeft {port : ℕ} (hport : port < 32) (i : ℕ) :
    (1#32 <<< port).getLsbD i = decide (i = port) := by
  rw [← BitVec.twoPow_eq, BitVec.getLsbD_twoPow, decide_eq_true hport, Bool.true_and]
  exact decide_eq_decide.2 eq_comm

/-- A pin is set, and the others keep their levels. -/
lemma getLsbD_setPin {port : ℕ} (hport : port < 32) (w : BitVec 32) (on : Bool) (i : ℕ) :
    (setPin w port on).getLsbD i = if i = port then on else w.getLsbD i := by
  unfold setPin
  by_cases hi : i = port
  · subst hi
    cases on <;> simp [hport]
  · cases on with
    | true => simp [getLsbD_one_shiftLeft hport, hi]
    | false =>
      simp only [Bool.false_eq_true, if_false, BitVec.getLsbD_and, BitVec.getLsbD_not,
        getLsbD_one_shiftLeft hport, hi, decide_false, Bool.not_false, Bool.and_true]
      cases hw : w.getLsbD i with
      | false => rfl
      | true => simp [BitVec.lt_of_getLsbD hw]

/-- The test of `watchdog_feed` looks at the pin. -/
lemma and_shiftLeft_ne_zero {port : ℕ} (hport : port < 32) (w : BitVec 32) :
    w &&& (1#32 <<< port) ≠ 0 ↔ w.getLsbD port = true := by
  constructor
  · intro hne
    by_contra hlow
    refine hne (BitVec.eq_of_getLsbD_eq fun i _ => ?_)
    rw [BitVec.getLsbD_and, getLsbD_one_shiftLeft hport]
    by_cases hi : i = port
    · subst hi
      simpa using hlow
    · simp [hi]
  · intro hhigh heq
    have hbit := congrArg (BitVec.getLsbD · port) heq
    rw [BitVec.getLsbD_and, getLsbD_one_shiftLeft hport, hhigh] at hbit
    simp at hbit

/-- A feed is an edge of the pin. -/
lemma toggled_eq_setPin {cfg : GpioConfig} (hport : cfg.port < 32) (w : BitVec 32) :
    toggled cfg w = setPin w cfg.port !(w.getLsbD cfg.port) := by
  unfold toggled setPin
  cases hw : w.getLsbD cfg.port with
  | true => rw [if_pos ((and_shiftLeft_ne_zero hport w).2 hw)]; rfl
  | false =>
    rw [if_neg fun h => ?_]
    · rfl
    · rw [(and_shiftLeft_ne_zero hport w).1 h] at hw
      cases hw

end AntennaMgmt.Watchdog
