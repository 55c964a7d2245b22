import AntennaMgmt.Cpri.Dispatch
import Mathlib.Data.List.Induction

/-!
# Enforcement of the sender's id

With `PAAU_ID_CHECK=2` a message from a stranger should have no effect.  The dispatcher drops
it, but a channel setup configuration has taken effect by then.
-/

namespace AntennaMgmt.Cpri

open AntennaMgmt.Lib Tx Version

variable {ρ : Type*} {cfg : PaauIdConfig} {hs : Handlers ρ}

/-- The sender's id is neither the local nor the broadcast id. -/
def Mismatched (cfg : PaauIdConfig) (inboundId : UInt8) : Prop :=
  ¬ cfg.IsLocal inboundId ∧ ¬ cfg.IsBroadcast inboundId

/-- Two receive paths that differ at most in the mismatch counter and the record of messages. -/
structure SameControl (r r' : Receiver (Control ρ)) : Prop where
  buffer : r.buffer = r'.buffer
  pool : r.pool = r'.pool
  plant : r.ctl.plant = r'.ctl.plant

/-- The state in which a channel setup configuration changes nothing by itself. -/
def SetUp (p : Plant ρ) : Prop :=
  p.channelEstablished = true ∧ p.tx.bbuLinkOk = true ∧ p.trialFlags.confirmed = true

/-- The dispatcher drops the messages of a stranger. -/
lemma dispatch_mismatched (hmode : cfg.paauIdCheck = 2) {msg : CpriMessage}
    (hid : Mismatched cfg msg.header.paauId) (c : Control ρ) :
    (msgHandlerDispatch cfg hs msg c).plant = c.plant := by
  have hcheck : cfg.checkMode = 2 := by
    rw [PaauIdConfig.checkMode, hmode]
    decide
  unfold msgHandlerDispatch
  split
  · rfl
  · simp [paauIdAccept, hcheck, hid.1, hid.2]

/-- What the dispatcher does depends on the plant alone. -/
lemma dispatch_plant_congr (msg : CpriMessage) {c c' : Control ρ} (h : c.plant = c'.plant) :
    (msgHandlerDispatch cfg hs msg c).plant = (msgHandlerDispatch cfg hs msg c').plant := by
  have hfst : ∀ n n' : UInt32, (paauIdAccept cfg n msg.header.paauId).1 =
      (paauIdAccept cfg n' msg.header.paauId).1 := by
    intro n n'
    unfold paauIdAccept
    split_ifs <;> rfl
  unfold msgHandlerDispatch
  simp only [hfst c.mismatchCount c'.mismatchCount, h]
  split_ifs
  · exact h
  · rfl
  · rfl
  · split <;> rfl

lemma handleMessage_plant_congr (msg : CpriMessage) {c c' : Control ρ}
    (h : c.plant = c'.plant) :
    (handleMessage cfg hs msg c).plant = (handleMessage cfg hs msg c').plant := by
  unfold handleMessage
  refine dispatch_plant_congr msg ?_
  split_ifs
  · exact congrArg channelSetupEffects h
  · exact h

/-- Handling a message of a stranger comes down to what `on_tcp_data_received` does itself. -/
lemma handleMessage_mismatched (hmode : cfg.paauIdCheck = 2) {msg : CpriMessage}
    (hid : Mismatched cfg msg.header.paauId) (c : Control ρ) :
    (handleMessage cfg hs msg c).plant =
      if msg.header.msgId = msgChannelSetupCfg then channelSetupEffects c.plant else c.plant := by
  rw [handleMessage, dispatch_mismatched hmode hid]
  split_ifs <;> rfl

lemma channelSetupEffects_eq_self_iff (p : Plant ρ) : channelSetupEffects p = p ↔ SetUp p := by
  constructor
  · intro h
    have hest := congrArg Plant.channelEstablished h
    have htx := congrArg (fun p => p.tx.bbuLinkOk) h
    have hflags := congrArg (fun p => p.trialFlags.confirmed) h
    refine ⟨hest.symm, htx.symm, ?_⟩
    rw [← hflags]
    simp only [channelSetupEffects, versionTrialOnChannelEstablished]
    split
    · assumption
    · rfl
  · rintro ⟨hest, hlink, hconf⟩
    obtain ⟨est, tx, store, flags, rest⟩ := p
    obtain ⟨link, on, sent, pc⟩ := tx
    simp only at hest hlink hconf
    subst hest hlink
    simp [channelSetupEffects, versionTrialOnChannelEstablished, hconf, TxState.notifyBbuLink]

/-! ### The loop does not see the difference -/

lemma processMessage_congr {r r' : Receiver (Control ρ)} (h : SameControl r r') (frame : Bytes) :
    SameControl (r.processMessage (handleMessage cfg hs) frame)
      (r'.processMessage (handleMessage cfg hs) frame) := by
  unfold Receiver.processMessage
  rw [← h.pool]
  split
  · exact ⟨h.buffer, rfl, handleMessage_plant_congr _ h.plant⟩
  · exact h

lemma drain_congr {r r' : Receiver (Control ρ)} (h : SameControl r r') :
    SameControl (drain (handleMessage cfg hs) r) (drain (handleMessage cfg hs) r') := by
  fun_induction drain (handleMessage cfg hs) r generalizing r' with
  | case1 r hheader hbad =>
    rw [drain, if_pos (h.buffer ▸ hheader), if_pos (h.buffer ▸ hbad)]
    exact ⟨rfl, h.pool, h.plant⟩
  | case2 r hheader hgood hshort =>
    rw [drain, if_pos (h.buffer ▸ hheader), if_neg (h.buffer ▸ hgood), if_pos (h.buffer ▸ hshort)]
    exact h
  | case3 r hheader hgood hfull ih =>
    have hproc : SameControl
        (r.processMessage (handleMessage cfg hs) (r.buffer.take (msgLengthField r.buffer)))
        (r'.processMessage (handleMessage cfg hs) (r.buffer.take (msgLengthField r.buffer))) :=
      processMessage_congr h _
    rw [drain.eq_def _ r', ← h.buffer, if_pos hheader, if_neg hgood, if_neg hfull]
    exact ih ⟨rfl, hproc.pool, hproc.plant⟩
  | case4 r hheader =>
    rw [drain, if_neg (h.buffer ▸ hheader)]
    exact h

/-! ### The pool of a reachable state -/

/-- Freeing a decoded message restores the pool. -/
lemma freeMessage_decodeMessage {pool pool' : Pool} {frame : Bytes} {msg : CpriMessage}
    {slot : Option ℕ} (h : cpriDecodeMessage pool frame = .ok (msg, slot, pool')) :
    cpriFreeMessage pool' slot = pool := by
  unfold cpriDecodeMessage at h
  split_ifs at h
  · cases halloc : cpriPayloadAlloc pool (frame.length - cpriHeaderLen) with
    | none =>
      rw [halloc] at h
      cases h
    | some s =>
      rw [halloc] at h
      obtain ⟨i, pool₁⟩ := s
      cases h
      exact cpriFreeMessage_alloc halloc
  · cases h
    rfl

lemma processMessage_pool {σ : Type*} (f : CpriMessage → σ → σ) (r : Receiver σ)
    (frame : Bytes) : (r.processMessage f frame).pool = r.pool := by
  unfold Receiver.processMessage
  split
  · rename_i hdec
    exact freeMessage_decodeMessage hdec
  · rfl

lemma drain_pool {σ : Type*} (f : CpriMessage → σ → σ) (r : Receiver σ) :
    (drain f r).pool = r.pool := by
  fun_induction drain f r with
  | case1 => rfl
  | case2 => rfl
  | case3 r hheader hgood hfull ih => exact ih.trans (processMessage_pool f r _)
  | case4 => rfl

lemma Reached.pool {r : Receiver (Control ρ)} (h : Reached cfg hs r) : r.pool = Pool.fresh := by
  obtain ⟨p₀, es, rfl⟩ := h
  induction es using List.reverseRecOn with
  | nil => rfl
  | append_singleton es e ih =>
    rw [List.foldl_append, List.foldl_cons, List.foldl_nil]
    cases e with
    | recv chunk =>
      show (onTcpDataReceived _ _ chunk).pool = _
      unfold onTcpDataReceived
      split_ifs
      · exact ih
      · exact (drain_pool _ _).trans ih
    | disconnect => exact ih
    | other p => exact ih

/-! ### The effect of a stranger's message -/

/-- The chunk that completes a message: the message is taken off the buffer and handled. -/
lemma receive_message {r : Receiver (Control ρ)} (h : Reached cfg hs r) {m : WireMessage}
    {chunk rest : Bytes} (hcut : r.buffer ++ chunk = m.bytes ++ rest)
    (hroom : r.buffer.length + chunk.length ≤ recvBufferSize) :
    onTcpDataReceived (handleMessage cfg hs) r chunk =
      drain (handleMessage cfg hs) (r.deliver (handleMessage cfg hs) [m] rest) := by
  have hpool : r.pool.HasFree := h.pool ▸ Pool.fresh_hasFree
  rw [onTcpDataReceived, if_neg (Nat.not_lt.2 hroom)]
  exact drain_message (r := { r with buffer := r.buffer ++ chunk }) hpool hcut

/-- The same chunk without the message. -/
lemma receive_rest (r : Receiver (Control ρ)) {rest : Bytes}
    (hrest : rest.length ≤ recvBufferSize) :
    onTcpDataReceived (handleMessage cfg hs) { r with buffer := [] } rest =
      drain (handleMessage cfg hs) { r with buffer := rest } := by
  rw [onTcpDataReceived, if_neg (by simpa using hrest)]
  rfl

lemma drain_empty {r : Receiver (Control ρ)} (h : r.buffer = []) :
    drain (handleMessage cfg hs) r = r := by
  rw [drain, if_neg (by rw [h]; decide)]

/-- In enforcing mode, in every reachable state in which a message of a stranger is being
received: however its last chunk is cut, and whatever follows in the same chunk, the control
state is afterwards the same as if the message had not arrived, if and only if the message is no
channel setup configuration or finds the channel set up, the TX gate open and the trial
confirmed. -/
theorem identity_enforced_iff {r : Receiver (Control ρ)} (h : Reached cfg hs r)
    (hmode : cfg.paauIdCheck = 2) {m : WireMessage} (hid : Mismatched cfg m.message.header.paauId)
    (hpart : r.buffer <+: m.bytes) :
    (∀ chunk rest, r.buffer ++ chunk = m.bytes ++ rest →
        r.buffer.length + chunk.length ≤ recvBufferSize →
        SameControl (onTcpDataReceived (handleMessage cfg hs) r chunk)
          (onTcpDataReceived (handleMessage cfg hs) { r with buffer := [] } rest)) ↔
      (m.message.header.msgId ≠ msgChannelSetupCfg ∨ SetUp r.ctl.plant) := by
  have hplant : ∀ rest, (r.deliver (handleMessage cfg hs) [m] rest).ctl.plant =
      if m.message.header.msgId = msgChannelSetupCfg then channelSetupEffects r.ctl.plant
      else r.ctl.plant := fun rest => handleMessage_mismatched hmode hid r.ctl
  constructor
  · intro hsame
    obtain ⟨chunk, hchunk⟩ := hpart
    have hroom : r.buffer.length + chunk.length ≤ recvBufferSize := by
      rw [← List.length_append, hchunk]
      exact m.length_le
    have hcut : r.buffer ++ chunk = m.bytes ++ [] := by rw [hchunk, List.append_nil]
    have hall := (hsame chunk [] hcut hroom).plant
    rw [receive_message h hcut hroom, receive_rest r (Nat.zero_le _), drain_empty rfl,
      drain_empty rfl, hplant] at hall
    by_cases hmsg : m.message.header.msgId = msgChannelSetupCfg
    · rw [if_pos hmsg] at hall
      exact .inr ((channelSetupEffects_eq_self_iff _).1 hall)
    · exact .inl hmsg
  · intro hcond chunk rest hcut hroom
    have hrest : rest.length ≤ recvBufferSize := by
      have hlen := congrArg List.length hcut
      rw [List.length_append, List.length_append] at hlen
      omega
    rw [receive_message h hcut hroom, receive_rest r hrest]
    refine drain_congr ⟨rfl, rfl, (hplant rest).trans ?_⟩
    split_ifs with hmsg
    · exact (channelSetupEffects_eq_self_iff _).2 (hcond.resolve_left (not_not.2 hmsg))
    · rfl

/-! ### Two messages of a stranger -/

/-- A new process, with no trial record. -/
def newPlant : Plant Unit :=
  ⟨false, Tx.init, ⟨some (ascii "/opt/vendor/versions/V1"), none, false⟩, .init, ()⟩

/-- The local id is 0, the broadcast id 255, and the check is enforced. -/
def enforcing : PaauIdConfig := ⟨0, 255, 2⟩

/-- A hard reset that claims the id 7. -/
def strangersReset : WireMessage where
  bytes := [141, 0, 0, 0, 23, 0, 0, 0, 7, 0, 0, 1, 0, 0, 0, 54, 9, 8, 0, 1, 0, 0, 0]
  isFrame := ⟨by decide, by decide⟩
  length_le := by decide

/-- Handlers that all open the TX gate. -/
def gateHandlers : Handlers Unit :=
  ⟨fun _ _ p => { p with tx := { p.tx with bbuLinkOk := true } }, fun u => u⟩

/-- The first five bytes of the reset have been received. -/
def resetBegun : Receiver (Control Unit) :=
  onTcpDataReceived (handleMessage enforcing gateHandlers) (.init ⟨newPlant, 0⟩)
    (strangersReset.bytes.take 5)

lemma reached_resetBegun : Reached enforcing gateHandlers resetBegun :=
  ⟨newPlant, [.recv (strangersReset.bytes.take 5)], rfl⟩

/-- The stranger's reset is as if it had not arrived: the beginning of the message behind it is
received as it would be alone. -/
theorem identity_enforced_iff_strangersReset : SameControl
    (onTcpDataReceived (handleMessage enforcing gateHandlers) resetBegun
      (strangersReset.bytes.drop 5 ++ [141, 0, 0]))
    (onTcpDataReceived (handleMessage enforcing gateHandlers) { resetBegun with buffer := [] }
      [141, 0, 0]) := by
  have hbuffer : resetBegun.buffer = strangersReset.bytes.take 5 := by decide +kernel
  have hid : Mismatched enforcing strangersReset.message.header.paauId := ⟨by decide, by decide⟩
  refine (identity_enforced_iff reached_resetBegun rfl hid ?_).2 (.inl (by decide)) _ _ ?_ ?_
  · rw [hbuffer]
    exact List.take_prefix 5 _
  · rw [hbuffer]
    rfl
  · rw [hbuffer]
    decide

/-- Handlers that leave the plant alone. -/
def idleHandlers : Handlers Unit := ⟨fun _ _ p => p, fun u => u⟩

/-- A channel setup configuration that claims the id 7. -/
def strangersSetup : WireMessage where
  bytes := [2, 0, 0, 0, 15, 0, 0, 0, 7, 0, 0, 1, 0, 0, 0]
  isFrame := ⟨by decide, by decide⟩
  length_le := by decide

lemma mismatched_strangersSetup :
    Mismatched enforcing strangersSetup.message.header.paauId := ⟨by decide, by decide⟩

lemma reached_newPlant : Reached enforcing idleHandlers (.init ⟨newPlant, 0⟩) :=
  ⟨newPlant, [], rfl⟩

/-- The stranger's message sets up the channel, opens the TX gate and ends the trial. -/
theorem stranger_sets_up_channel :
    ∃ (r : Receiver (Control Unit)) (m : WireMessage),
      Reached enforcing idleHandlers r ∧ Mismatched enforcing m.message.header.paauId ∧
      r.buffer = [] ∧ r.ctl.plant.channelEstablished = false ∧
      (onTcpDataReceived (handleMessage enforcing idleHandlers) r m.bytes).ctl.plant =
        { r.ctl.plant with
          channelEstablished := true
          tx := { r.ctl.plant.tx with bbuLinkOk := true }
          trialFlags := ⟨true, false⟩ } := by
  refine ⟨.init ⟨newPlant, 0⟩, strangersSetup, reached_newPlant, mismatched_strangersSetup, rfl,
    rfl, ?_⟩
  have hcut : (Receiver.init (⟨newPlant, 0⟩ : Control Unit)).buffer ++ strangersSetup.bytes =
      strangersSetup.bytes ++ [] := by
    rw [List.append_nil]
    rfl
  rw [receive_message reached_newPlant hcut strangersSetup.length_le, drain_empty rfl]
  have hplant : (handleMessage enforcing idleHandlers strangersSetup.message
      ⟨newPlant, 0⟩).plant = channelSetupEffects newPlant :=
    handleMessage_mismatched rfl mismatched_strangersSetup _
  exact hplant

end AntennaMgmt.Cpri
