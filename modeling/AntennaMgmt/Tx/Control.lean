import AntennaMgmt.Lib.Transition
import Mathlib.Logic.Function.Basic

/-!
# The TX switch of the cell configuration module

The antenna transmits when the last `0x0B` command it received was an ON.  Two paths send
that command: `update_tx_control`, run by the cell configuration worker after each change of
the cell table, and `cell_config_notify_bbu_link`, run by the threads that watch the link to
the base band unit.  They share `g_bbu_link_ok` and `g_tx_on` under `g_tx_guard_mutex`, but
the command itself is sent outside that mutex.

A step of the model is one mutex region or one UART send, so that runs are the
interleavings of the calls.
-/

namespace AntennaMgmt.Tx

open AntennaMgmt.Lib

/-- The threads that watch the link: `on_tcp_data_received` and `on_tcp_disconnected` run on
the TCP receive thread, the heartbeat timeout is found by the main loop. -/
inductive LinkThread
  | tcp
  | main
deriving DecidableEq, Repr

variable {ι : Type*}

/-- A thread that can be inside one of the two calls.  There is one worker, and `ι` names the
threads that call `cell_config_notify_bbu_link`. -/
inductive Thread (ι : Type*)
  | worker
  | link (i : ι)
deriving DecidableEq, Repr

/-- Where a thread stands.  Both calls end in `apply_tx_control(on)`, which first sends the
command and then stores `g_tx_on` in a region of its own. -/
inductive Pc
  | idle
  | applySend (on : Bool)
  | applyStore (on : Bool)
deriving DecidableEq, Repr

/-- The shared variables, the commands handed to the antenna so far (the latest first) and
the position of each thread. -/
structure TxState (ι : Type*) where
  bbuLinkOk : Bool
  txOn : Bool
  sent : List Bool
  pc : Thread ι → Pc

/-- After power-up: no channel to the base band unit, nothing sent, TX taken to be off. -/
def init : TxState ι where
  bbuLinkOk := false
  txOn := false
  sent := []
  pc := fun _ => .idle

/-- One atomic step of a call.  `hasFreq` is the answer of `has_any_freq`, which the worker
computes from the cell table under the mutex of that table. -/
inductive Act (ι : Type*)
  | updateCheck (hasFreq : Bool)
  | notify (i : ι) (up : Bool)
  | send (t : Thread ι)
  | store (t : Thread ι)
deriving DecidableEq, Repr

namespace TxState

/-- The last TX command handed to the antenna. -/
def lastTx (s : TxState ι) : Option Bool := s.sent.head?

/-- No call is in progress. -/
def Quiet (s : TxState ι) : Prop := ∀ t, s.pc t = .idle

variable [DecidableEq ι]

/-- Move one thread. -/
def goto (s : TxState ι) (t : Thread ι) (p : Pc) : TxState ι :=
  { s with pc := Function.update s.pc t p }

@[simp] lemma goto_bbuLinkOk (s : TxState ι) (t : Thread ι) (p : Pc) :
    (s.goto t p).bbuLinkOk = s.bbuLinkOk := rfl

@[simp] lemma goto_txOn (s : TxState ι) (t : Thread ι) (p : Pc) :
    (s.goto t p).txOn = s.txOn := rfl

@[simp] lemma goto_sent (s : TxState ι) (t : Thread ι) (p : Pc) :
    (s.goto t p).sent = s.sent := rfl

@[simp] lemma goto_lastTx (s : TxState ι) (t : Thread ι) (p : Pc) :
    (s.goto t p).lastTx = s.lastTx := rfl

@[simp] lemma goto_pc_self (s : TxState ι) (t : Thread ι) (p : Pc) :
    (s.goto t p).pc t = p := by simp [goto]

lemma goto_pc_of_ne (s : TxState ι) {t t' : Thread ι} (p : Pc) (h : t' ≠ t) :
    (s.goto t p).pc t' = s.pc t' := by simp [goto, h]

/-- The first region of `update_tx_control` and its choice of the command: with the link down
the call returns, otherwise it goes on to `apply_tx_control`. -/
def updateTxControl (s : TxState ι) (hasFreq : Bool) : TxState ι :=
  if s.bbuLinkOk then s.goto .worker (.applySend hasFreq) else s

/-- The region of `cell_config_notify_bbu_link`: the flag is set, and a link loss goes on to
`apply_tx_control(false)` when `g_tx_on` says that the antenna transmits (`need_off`). -/
def notifyBbuLink (s : TxState ι) (i : ι) (up : Bool) : TxState ι :=
  if up then { s with bbuLinkOk := true }
  else
    let s' := { s with bbuLinkOk := false }
    if s.txOn then s'.goto (.link i) (.applySend false) else s'

/-- The UART send of `apply_tx_control`. -/
def sendTx (s : TxState ι) (t : Thread ι) (on : Bool) : TxState ι :=
  { s.goto t (.applyStore on) with sent := on :: s.sent }

/-- The region of `apply_tx_control` that records the state after a successful send. -/
def storeTxOn (s : TxState ι) (t : Thread ι) (on : Bool) : TxState ι :=
  { s.goto t .idle with txOn := on }

@[simp] lemma sendTx_bbuLinkOk (s : TxState ι) (t : Thread ι) (on : Bool) :
    (s.sendTx t on).bbuLinkOk = s.bbuLinkOk := rfl

@[simp] lemma sendTx_txOn (s : TxState ι) (t : Thread ι) (on : Bool) :
    (s.sendTx t on).txOn = s.txOn := rfl

@[simp] lemma sendTx_lastTx (s : TxState ι) (t : Thread ι) (on : Bool) :
    (s.sendTx t on).lastTx = some on := rfl

@[simp] lemma sendTx_pc_self (s : TxState ι) (t : Thread ι) (on : Bool) :
    (s.sendTx t on).pc t = .applyStore on := goto_pc_self s t _

@[simp] lemma storeTxOn_bbuLinkOk (s : TxState ι) (t : Thread ι) (on : Bool) :
    (s.storeTxOn t on).bbuLinkOk = s.bbuLinkOk := rfl

@[simp] lemma storeTxOn_txOn (s : TxState ι) (t : Thread ι) (on : Bool) :
    (s.storeTxOn t on).txOn = on := rfl

@[simp] lemma storeTxOn_lastTx (s : TxState ι) (t : Thread ι) (on : Bool) :
    (s.storeTxOn t on).lastTx = s.lastTx := rfl

@[simp] lemma storeTxOn_pc_self (s : TxState ι) (t : Thread ι) (on : Bool) :
    (s.storeTxOn t on).pc t = .idle := goto_pc_self s t _

end TxState

open TxState

variable [DecidableEq ι]

/-- The step function: an action is possible when its thread stands where the action starts. -/
def next (s : TxState ι) : Act ι → Option (TxState ι)
  | .updateCheck hasFreq =>
    if s.pc .worker = .idle then some (s.updateTxControl hasFreq) else none
  | .notify i up => if s.pc (.link i) = .idle then some (s.notifyBbuLink i up) else none
  | .send t => match s.pc t with
    | .applySend on => some (s.sendTx t on)
    | _ => none
  | .store t => match s.pc t with
    | .applyStore on => some (s.storeTxOn t on)
    | _ => none

/-- One atomic step of some thread, every UART send succeeding. -/
def Step (s : TxState ι) (a : Act ι) (s' : TxState ι) : Prop := next s a = some s'

/-- Everything one step can do. -/
lemma step_cases {s s' : TxState ι} {a : Act ι} (h : Step s a s') :
    (∃ hasFreq, a = .updateCheck hasFreq ∧ s.pc .worker = .idle ∧
      s' = s.updateTxControl hasFreq) ∨
    (∃ i up, a = .notify i up ∧ s.pc (.link i) = .idle ∧ s' = s.notifyBbuLink i up) ∨
    (∃ t on, a = .send t ∧ s.pc t = .applySend on ∧ s' = s.sendTx t on) ∨
    (∃ t on, a = .store t ∧ s.pc t = .applyStore on ∧ s' = s.storeTxOn t on) := by
  cases a with
  | updateCheck hasFreq =>
    simp only [Step, next, Option.ite_none_right_eq_some, Option.some.injEq] at h
    exact .inl ⟨hasFreq, rfl, h.1, h.2.symm⟩
  | notify i up =>
    simp only [Step, next, Option.ite_none_right_eq_some, Option.some.injEq] at h
    exact .inr (.inl ⟨i, up, rfl, h.1, h.2.symm⟩)
  | send t =>
    simp only [Step, next] at h
    split at h
    · rename_i on hpc
      exact .inr (.inr (.inl ⟨t, on, rfl, hpc, (Option.some.inj h).symm⟩))
    · cases h
  | store t =>
    simp only [Step, next] at h
    split at h
    · rename_i on hpc
      exact .inr (.inr (.inr ⟨t, on, rfl, hpc, (Option.some.inj h).symm⟩))
    · cases h

end AntennaMgmt.Tx
