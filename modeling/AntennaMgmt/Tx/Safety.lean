import AntennaMgmt.Tx.Control

/-!
# TX safety without a link

With the link down and no call in progress the antenna should have been told OFF, and
`g_tx_on` should agree with the last command.  The calls do not guarantee this: the worker
reads `g_bbu_link_ok` in one region and sends its ON later, so a link loss can fall in
between, find `g_tx_on` still false and send nothing.

`InOrder` is the condition under which a step is harmless.  Runs of harmless steps are safe,
and after a harmful step no completion of the calls in progress repairs the state.
-/

namespace AntennaMgmt.Tx

open AntennaMgmt.Lib TxState

variable {ι : Type*}

/-- The link is down, the antenna transmits or `g_tx_on` disagrees with its last command. -/
def Unsafe (s : TxState ι) : Prop :=
  s.bbuLinkOk = false ∧ (s.lastTx = some true ∨ ∃ v, s.lastTx = some v ∧ s.txOn ≠ v)

/-- TX safety of one state: with no call in progress and the link down, the last command is
OFF (if there is one) and `g_tx_on` equals it. -/
def TxSafe (s : TxState ι) : Prop :=
  s.Quiet → s.bbuLinkOk = false → s.lastTx ≠ some true ∧ ∀ v, s.lastTx = some v → s.txOn = v

lemma not_txSafe_iff {s : TxState ι} : ¬ TxSafe s ↔ s.Quiet ∧ Unsafe s := by
  simp only [TxSafe, Unsafe, not_forall, not_and_or, not_not, exists_prop]

/-- An OFF is still to be sent by some call in progress. -/
def OffPending (s : TxState ι) : Prop := ∃ t, s.pc t = .applySend false

/-- Some call in progress is still to send a command, or to store that `v` was sent. -/
def Lagging (s : TxState ι) (v : Bool) : Prop :=
  ∃ t, s.pc t = .applyStore v ∨ ∃ on, s.pc t = .applySend on

/-- The condition on a step and the state before it.

* An ON goes to the antenna only while the link is up, or while an OFF is still to follow.
* The link is declared lost while `g_tx_on` lags behind an ON on the wire only if an OFF is
  still to follow.
* While the link is down, a call stores in `g_tx_on` something else than the last command
  only if another call is still to store that command or to send a further one. -/
def InOrder [DecidableEq ι] (s : TxState ι) : Act ι → Prop
  | .updateCheck _ => True
  | .notify _ up => up = false → s.lastTx = some true → s.txOn = false → OffPending s
  | .send t => s.pc t = .applySend true → s.bbuLinkOk = false → OffPending s
  | .store t => ∀ on v, s.pc t = .applyStore on → s.bbuLinkOk = false → s.lastTx = some v →
      v ≠ on → Lagging s v

/-! ### Runs of harmless steps -/

/-- While the link is down, a transmitting antenna has an OFF coming, and a `g_tx_on` that
disagrees with the last command is about to be corrected. -/
structure Inv (s : TxState ι) : Prop where
  offPending : s.bbuLinkOk = false → s.lastTx = some true → OffPending s
  lagging : s.bbuLinkOk = false → ∀ v, s.lastTx = some v → s.txOn ≠ v → Lagging s v

lemma inv_init : Inv (init : TxState ι) :=
  ⟨fun _ h => by simp [init, lastTx] at h, fun _ v h => by simp [init, lastTx] at h⟩

lemma Inv.txSafe {s : TxState ι} (h : Inv s) : TxSafe s := by
  intro hquiet hlink
  refine ⟨fun hon => ?_, fun v hv => ?_⟩
  · obtain ⟨t, ht⟩ := h.offPending hlink hon
    rw [hquiet t] at ht
    cases ht
  · by_contra hne
    obtain ⟨t, ht | ⟨on, ht⟩⟩ := h.lagging hlink v hv hne <;> rw [hquiet t] at ht <;> cases ht

variable [DecidableEq ι]

/-- A pending OFF stays pending while a thread that holds none moves. -/
lemma OffPending.goto {s : TxState ι} {t : Thread ι} {p : Pc} (h : OffPending s)
    (ht : s.pc t ≠ .applySend false) : OffPending (s.goto t p) := by
  obtain ⟨t', ht'⟩ := h
  have hne : t' ≠ t := by rintro rfl; exact ht ht'
  exact ⟨t', by rw [goto_pc_of_ne s p hne, ht']⟩

/-- Likewise for a correction of `g_tx_on`. -/
lemma Lagging.goto {s : TxState ι} {t : Thread ι} {p : Pc} {v : Bool} (h : Lagging s v)
    (hstore : s.pc t ≠ .applyStore v) (hsend : ∀ on, s.pc t ≠ .applySend on) :
    Lagging (s.goto t p) v := by
  obtain ⟨t', ht'⟩ := h
  have hne : t' ≠ t := by
    rintro rfl
    rcases ht' with h' | ⟨on, h'⟩
    · exact hstore h'
    · exact hsend on h'
  exact ⟨t', by rwa [goto_pc_of_ne s p hne]⟩

lemma inv_updateTxControl {s : TxState ι} (h : Inv s) (hasFreq : Bool) :
    Inv (s.updateTxControl hasFreq) := by
  unfold updateTxControl
  split
  · rename_i hlink
    exact ⟨fun hdown => by simp [hlink] at hdown, fun hdown => by simp [hlink] at hdown⟩
  · exact h

/-- A link loss either sends an OFF itself, or finds `g_tx_on` false; then the step's
condition says that the antenna is not transmitting, or that an OFF is on its way. -/
lemma inv_notifyBbuLink {s : TxState ι} {i : ι} {up : Bool}
    (hok : InOrder s (.notify i up)) : Inv (s.notifyBbuLink i up) := by
  cases up with
  | true => exact ⟨fun hdown => by simp [notifyBbuLink] at hdown,
      fun hdown => by simp [notifyBbuLink] at hdown⟩
  | false =>
    cases htx : s.txOn with
    | true =>
      have hoff : ({ s with bbuLinkOk := false }.goto (.link i) (.applySend false)).pc
          (.link i) = .applySend false := goto_pc_self _ _ _
      simp only [notifyBbuLink, htx, Bool.false_eq_true, if_false, if_true]
      exact ⟨fun _ _ => ⟨_, hoff⟩, fun _ v _ _ => ⟨_, .inr ⟨_, hoff⟩⟩⟩
    | false =>
      simp only [notifyBbuLink, htx, Bool.false_eq_true, if_false]
      have hpend : s.lastTx = some true → OffPending s := fun hlast => hok rfl hlast htx
      refine ⟨fun _ hlast => hpend hlast, fun _ v hlast hne => ?_⟩
      have hv : v = true := by
        cases v with
        | true => rfl
        | false => exact (hne rfl).elim
      subst hv
      obtain ⟨t, ht⟩ := hpend hlast
      exact ⟨t, .inr ⟨false, ht⟩⟩

lemma inv_sendTx {s : TxState ι} {t : Thread ι} {on : Bool} (hpc : s.pc t = .applySend on)
    (hok : InOrder s (.send t)) : Inv (s.sendTx t on) := by
  refine ⟨fun hlink hlast => ?_, fun _ v hlast _ => ⟨t, .inl ?_⟩⟩
  · simp only [sendTx_lastTx, Option.some.injEq] at hlast
    subst hlast
    exact (hok hpc hlink).goto (by simp [hpc])
  · simp only [sendTx_lastTx, Option.some.injEq] at hlast
    rw [sendTx_pc_self, hlast]

lemma inv_storeTxOn {s : TxState ι} (h : Inv s) {t : Thread ι} {on : Bool}
    (hpc : s.pc t = .applyStore on) (hok : InOrder s (.store t)) : Inv (s.storeTxOn t on) := by
  refine ⟨fun hlink hlast => ?_, fun hlink v hlast hne => ?_⟩
  · exact (h.offPending hlink hlast).goto (by simp [hpc])
  · have hvon : v ≠ on := fun hv => hne hv.symm
    exact (hok on v hpc hlink hlast hvon).goto (by simpa [hpc] using hvon.symm) (by simp [hpc])

lemma inv_step {s s' : TxState ι} {a : Act ι} (h : Inv s) (hstep : restrict Step InOrder s a s') :
    Inv s' := by
  obtain ⟨hstep, hok⟩ := hstep
  rcases step_cases hstep with ⟨f, rfl, -, rfl⟩ | ⟨i, up, rfl, -, rfl⟩ |
    ⟨t, on, rfl, hpc, rfl⟩ | ⟨t, on, rfl, hpc, rfl⟩
  · exact inv_updateTxControl h f
  · exact inv_notifyBbuLink hok
  · exact inv_sendTx hpc hok
  · exact inv_storeTxOn h hpc hok

/-! ### Harmful steps -/

/-- The action belongs to a call that is already in progress. -/
def Finishing : Act ι → Prop
  | .send _ | .store _ => True
  | _ => False

/-- The link is down and no call in progress will repair the damage: the antenna transmits and
no OFF is left to be sent, or `g_tx_on` is wrong and no call is left to correct it. -/
def Doomed (s : TxState ι) : Prop :=
  s.bbuLinkOk = false ∧ ((s.lastTx = some true ∧ ¬ OffPending s) ∨
    ∃ v, s.lastTx = some v ∧ s.txOn ≠ v ∧ ¬ Lagging s v)

omit [DecidableEq ι] in
lemma Doomed.unsafe {s : TxState ι} (h : Doomed s) : Unsafe s := by
  obtain ⟨hlink, ⟨hlast, -⟩ | ⟨v, hlast, hne, -⟩⟩ := h
  · exact ⟨hlink, .inl hlast⟩
  · exact ⟨hlink, .inr ⟨v, hlast, hne⟩⟩

/-- No OFF appears by moving a thread to a place that is not in front of one. -/
lemma not_offPending_goto {s : TxState ι} {t : Thread ι} {p : Pc} (h : ¬ OffPending s)
    (hp : p ≠ .applySend false) : ¬ OffPending (s.goto t p) := by
  rintro ⟨t', ht'⟩
  by_cases hne : t' = t
  · subst hne
    exact hp (by simpa using ht')
  · exact h ⟨t', by rwa [goto_pc_of_ne s p hne] at ht'⟩

lemma not_lagging_goto_idle {s : TxState ι} {t : Thread ι} {v : Bool} (h : ¬ Lagging s v) :
    ¬ Lagging (s.goto t .idle) v := by
  rintro ⟨t', ht'⟩
  by_cases hne : t' = t
  · subst hne
    simp at ht'
  · exact h ⟨t', by rwa [goto_pc_of_ne s _ hne] at ht'⟩

/-- A step out of order leaves a doomed state. -/
lemma doomed_of_not_inOrder {s s' : TxState ι} {a : Act ι} (hstep : Step s a s')
    (hbad : ¬ InOrder s a) : Doomed s' := by
  rcases step_cases hstep with ⟨f, rfl, -, rfl⟩ | ⟨i, up, rfl, -, rfl⟩ |
    ⟨t, on, rfl, hpc, rfl⟩ | ⟨t, on, rfl, hpc, rfl⟩
  · exact absurd trivial hbad
  · simp only [InOrder, Classical.not_imp] at hbad
    obtain ⟨rfl, hlast, htx, hoff⟩ := hbad
    simp only [notifyBbuLink, htx, Bool.false_eq_true, if_false]
    exact ⟨rfl, .inl ⟨hlast, hoff⟩⟩
  · simp only [InOrder, Classical.not_imp] at hbad
    obtain ⟨hon, hlink, hoff⟩ := hbad
    obtain rfl : on = true := by simpa [hpc] using hon
    exact ⟨hlink, .inl ⟨rfl, not_offPending_goto hoff (by simp)⟩⟩
  · simp only [InOrder, Classical.not_imp, not_forall] at hbad
    obtain ⟨on', v, hon, hlink, hlast, hne, hlag⟩ := hbad
    obtain rfl : on = on' := by simpa [hpc] using hon
    exact ⟨hlink, .inr ⟨v, hlast, hne.symm, not_lagging_goto_idle hlag⟩⟩

/-- Finishing the calls in progress does not repair a doomed state. -/
lemma doomed_step {s s' : TxState ι} {a : Act ι} (h : Doomed s)
    (hstep : restrict Step (fun _ a => Finishing a) s a s') : Doomed s' := by
  obtain ⟨hstep, hfin⟩ := hstep
  obtain ⟨hlink, hdamage⟩ := h
  rcases step_cases hstep with ⟨f, rfl, -, rfl⟩ | ⟨i, up, rfl, -, rfl⟩ |
    ⟨t, on, rfl, hpc, rfl⟩ | ⟨t, on, rfl, hpc, rfl⟩
  · exact hfin.elim
  · exact hfin.elim
  · rcases hdamage with ⟨-, hoff⟩ | ⟨v, -, -, hlag⟩
    · -- the command sent is an ON, since no OFF is pending
      obtain rfl : on = true := by
        cases on with
        | true => rfl
        | false => exact absurd ⟨t, hpc⟩ hoff
      exact ⟨hlink, .inl ⟨rfl, not_offPending_goto hoff (by simp)⟩⟩
    · exact absurd ⟨t, .inr ⟨on, hpc⟩⟩ hlag
  · rcases hdamage with ⟨hlast, hoff⟩ | ⟨v, hlast, -, hlag⟩
    · exact ⟨hlink, .inl ⟨hlast, not_offPending_goto hoff (by simp)⟩⟩
    · refine ⟨hlink, .inr ⟨v, hlast, ?_, not_lagging_goto_idle hlag⟩⟩
      rintro rfl
      exact hlag ⟨t, .inl hpc⟩

/-! ### TX safety of the calls -/

/-- Every state of a run of steps in order is safe; and a step out of order at the end of such
a run makes every completion of the calls then in progress end unsafe, with the link down and
the antenna transmitting or `g_tx_on` wrong. -/
theorem txSafe_iff_inOrder :
    (∀ (l : List (Act ι)) (s : TxState ι), Run (restrict Step InOrder) init l s → TxSafe s) ∧
    (∀ (l m : List (Act ι)) (a : Act ι) (s s' u : TxState ι),
      Run (restrict Step InOrder) init l s → Step s a s' → ¬ InOrder s a →
      Run (restrict Step fun _ b => Finishing b) s' m u → u.Quiet → ¬ TxSafe u) := by
  constructor
  · intro l s hrun
    exact (hrun.invariant (fun _ _ _ h hstep => inv_step h hstep) inv_init).txSafe
  · intro l m a s s' u _ hstep hbad hfinish hquiet
    have hdoomed : Doomed u := hfinish.invariant (fun _ _ _ h hstep => doomed_step h hstep)
      (doomed_of_not_inOrder hstep hbad)
    exact not_txSafe_iff.2 ⟨hquiet, hdoomed.unsafe⟩

/-- The worker checks the link and finds a frequency, then the main loop declares the link
lost; `g_tx_on` is still false, so no OFF is sent. -/
def lossAfterCheck : List (Act LinkThread) :=
  [.notify .tcp true, .updateCheck true, .notify .main false]

/-- The state after `lossAfterCheck`: the worker is about to send its ON. -/
def onPendingWithoutLink : TxState LinkThread where
  bbuLinkOk := false
  txOn := false
  sent := []
  pc := Function.update (fun _ => .idle) .worker (.applySend true)

lemma run_lossAfterCheck : Run (restrict Step InOrder) init lossAfterCheck onPendingWithoutLink :=
  .cons ⟨rfl, by simp [InOrder]⟩ <| .cons ⟨rfl, trivial⟩ <|
    .cons ⟨rfl, by simp [InOrder, init, notifyBbuLink, updateTxControl, lastTx]⟩ <| .nil _

/-- A link loss while the worker holds an ON back is safe so far, and out of order from the
send on: when the worker has finished, the antenna transmits without a link. -/
theorem txSafe_iff_inOrder_lossAfterCheck :
    TxSafe onPendingWithoutLink ∧
    ¬ TxSafe ((onPendingWithoutLink.sendTx .worker true).storeTxOn .worker true) := by
  refine ⟨txSafe_iff_inOrder.1 _ _ run_lossAfterCheck,
    txSafe_iff_inOrder.2 _ [.store .worker] (.send .worker) _ _ _ run_lossAfterCheck rfl ?_
      (.cons ⟨rfl, trivial⟩ (.nil _)) ?_⟩
  · intro hok
    obtain ⟨t, ht⟩ := hok rfl rfl
    rcases t with _ | _ | _ <;> cases ht
  · rintro (_ | _ | _) <;> rfl

/-- The calls do not keep the antenna off: with the link lost between the worker's check and
its send, they end with the link down and the antenna transmitting. -/
theorem tx_on_after_link_loss :
    ¬ ∀ (l : List (Act LinkThread)) (s : TxState LinkThread), Run Step init l s → TxSafe s := by
  intro h
  have hrun : Run Step init (lossAfterCheck ++ [.send .worker, .store .worker])
      ((onPendingWithoutLink.sendTx .worker true).storeTxOn .worker true) :=
    run_lossAfterCheck.of_restrict.append (.cons rfl (.cons rfl (.nil _)))
  have hquiet : ((onPendingWithoutLink.sendTx .worker true).storeTxOn .worker true).Quiet := by
    rintro (_ | _ | _) <;> rfl
  exact (h _ _ hrun hquiet rfl).1 rfl

end AntennaMgmt.Tx
