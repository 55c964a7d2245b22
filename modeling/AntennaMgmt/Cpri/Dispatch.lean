import AntennaMgmt.Cpri.Receive
import AntennaMgmt.Tx.Control
import AntennaMgmt.Version.Trial

/-!
# Handling of a received message

`on_tcp_data_received` acts on a channel setup configuration by itself and then hands the
message to `msg_handler_dispatch`, which checks the message id and the sender's id before it
calls a handler.  The handlers are parameters: what they do does not matter here, only when
they are called.
-/

namespace AntennaMgmt.Cpri

open AntennaMgmt.Lib Tx Version

/-- What a message can act on: `g_channel_established`, the TX switch, the trial record with
the flags of the process, and all the rest (heartbeat, cell, alarm and version state, and what
has been sent). -/
structure Plant (ρ : Type*) where
  channelEstablished : Bool
  tx : TxState LinkThread
  store : Store
  trialFlags : TrialFlags
  rest : ρ

/-- The handlers of `g_msg_handlers`, and the one for transparent messages. -/
inductive HandlerId
  | channelSetupReq
  | heartbeat
  | phasedArrayCalibReq
  | statusQuery
  | paramQuery
  | paramConfig
  | alarmQueryReq
  | cellConfig
  | logUploadReq
  | versionDownloadReq
  | versionActivateInd
  | loopbackReq
  | resetInd
  | remoteResetInd
  | transparentMsg
deriving DecidableEq, Repr

/-- The code behind the dispatcher, and `heartbeat_stop`. -/
structure Handlers (ρ : Type*) where
  run : HandlerId → CpriMessage → Plant ρ → Plant ρ
  heartbeatStop : ρ → ρ

/-- `MSG_CHANNEL_SETUP_CFG`. -/
def msgChannelSetupCfg : ℕ := 2

/-- `g_msg_handlers`. -/
def msgHandlers : List (ℕ × HandlerId) :=
  [(msgChannelSetupCfg, .channelSetupReq), (181, .heartbeat), (71, .phasedArrayCalibReq),
    (41, .statusQuery), (51, .paramQuery), (61, .paramConfig), (121, .alarmQueryReq),
    (195, .cellConfig), (131, .logUploadReq), (21, .versionDownloadReq),
    (31, .versionActivateInd), (81, .loopbackReq), (141, .resetInd), (151, .remoteResetInd)]

/-- `is_bbu_to_paau_transparent`. -/
def isBbuToPaauTransparent (msgId : ℕ) : Bool := 231 ≤ msgId && msgId ≤ 240

/-- `is_transparent_message`. -/
def isTransparentMessage (msgId : ℕ) : Bool :=
  (221 ≤ msgId && msgId ≤ 230) || (231 ≤ msgId && msgId ≤ 240)

/-- `msg_id_is_accepted`. -/
def msgIdIsAccepted (msgId : ℕ) : Bool :=
  isBbuToPaauTransparent msgId || msgHandlers.any (·.1 = msgId)

/-- What the configuration says: `PAAU_ID`, `PAAU_ID_BROADCAST` and `PAAU_ID_CHECK`.  It is
loaded at the first message and does not change afterwards. -/
structure PaauIdConfig where
  paauId : ℤ
  paauIdBroadcast : ℤ
  paauIdCheck : ℤ
deriving DecidableEq, Repr

/-- `g_paau_id_check_mode`: an invalid mode falls back to "warn only". -/
def PaauIdConfig.checkMode (cfg : PaauIdConfig) : ℤ :=
  if cfg.paauIdCheck < 0 ∨ 2 < cfg.paauIdCheck then 1 else cfg.paauIdCheck

/-- The sender's id is the broadcast id. -/
def PaauIdConfig.IsBroadcast (cfg : PaauIdConfig) (inboundId : UInt8) : Prop :=
  0 ≤ cfg.paauIdBroadcast ∧ cfg.paauIdBroadcast ≤ 255 ∧
    (inboundId.toNat : ℤ) = cfg.paauIdBroadcast

/-- The sender's id is the local one, cast to `uint8_t`. -/
def PaauIdConfig.IsLocal (cfg : PaauIdConfig) (inboundId : UInt8) : Prop :=
  (inboundId.toNat : ℤ) = cfg.paauId % 256

instance (cfg : PaauIdConfig) (i : UInt8) : Decidable (cfg.IsBroadcast i) :=
  inferInstanceAs (Decidable (_ ∧ _ ∧ _))

instance (cfg : PaauIdConfig) (i : UInt8) : Decidable (cfg.IsLocal i) :=
  inferInstanceAs (Decidable (_ = _))

/-- `paau_id_accept`: whether the message is to be handled, and `g_paau_id_mismatch_count`. -/
def paauIdAccept (cfg : PaauIdConfig) (mismatchCount : UInt32) (inboundId : UInt8) :
    Bool × UInt32 :=
  if cfg.checkMode = 0 then (true, mismatchCount)
  else if cfg.IsBroadcast inboundId then (true, mismatchCount)
  else if cfg.IsLocal inboundId then (true, mismatchCount)
  -- the mismatch is counted also when the message is handled all the same
  else (cfg.checkMode ≠ 2, mismatchCount + 1)

/-- The control state: the plant and the mismatch counter. -/
structure Control (ρ : Type*) where
  plant : Plant ρ
  mismatchCount : UInt32

variable {ρ : Type*}

/-- `msg_handler_dispatch`. -/
def msgHandlerDispatch (cfg : PaauIdConfig) (hs : Handlers ρ) (msg : CpriMessage)
    (c : Control ρ) : Control ρ :=
  if msgIdIsAccepted msg.header.msgId = false then c
  else
    let (accepted, count) := paauIdAccept cfg c.mismatchCount msg.header.paauId
    let c := { c with mismatchCount := count }
    if accepted = false then c
    else if isTransparentMessage msg.header.msgId then
      { c with plant := hs.run .transparentMsg msg c.plant }
    else match msgHandlers.lookup msg.header.msgId with
      | some handler => { c with plant := hs.run handler msg c.plant }
      | none => c

/-- What `on_tcp_data_received` does itself on a channel setup configuration: the flag, the gate
of the TX switch and the end of the trial. -/
def channelSetupEffects (p : Plant ρ) : Plant ρ :=
  let r := versionTrialOnChannelEstablished p.store p.trialFlags
  { p with
    channelEstablished := true
    tx := p.tx.notifyBbuLink .tcp true
    store := r.1
    trialFlags := r.2 }

/-- The handling of a decoded message. -/
def handleMessage (cfg : PaauIdConfig) (hs : Handlers ρ) (msg : CpriMessage) (c : Control ρ) :
    Control ρ :=
  msgHandlerDispatch cfg hs msg
    (if msg.header.msgId = msgChannelSetupCfg then
      { c with plant := channelSetupEffects c.plant } else c)

/-- `on_tcp_disconnected`, its effect on the control state. -/
def onTcpDisconnected (hs : Handlers ρ) (c : Control ρ) : Control ρ :=
  { c with
    plant := { c.plant with
      channelEstablished := false
      rest := hs.heartbeatStop c.plant.rest
      tx := c.plant.tx.notifyBbuLink .tcp false } }

/-! ### Reachable states -/

/-- A chunk arrives, the connection ends, or another thread changes the plant. -/
inductive LinkEvent (ρ : Type*)
  | recv (chunk : Bytes)
  | disconnect
  | other (p : Plant ρ)

/-- One event on the receive path. -/
def LinkEvent.apply (cfg : PaauIdConfig) (hs : Handlers ρ) (r : Receiver (Control ρ)) :
    LinkEvent ρ → Receiver (Control ρ)
  | .recv chunk => onTcpDataReceived (handleMessage cfg hs) r chunk
  | .disconnect => { r with buffer := [], ctl := onTcpDisconnected hs r.ctl }
  | .other p => { r with ctl := { r.ctl with plant := p } }

/-- The receive path after some events of a process that started with the plant `p₀`. -/
def Reached (cfg : PaauIdConfig) (hs : Handlers ρ) (r : Receiver (Control ρ)) : Prop :=
  ∃ (p₀ : Plant ρ) (es : List (LinkEvent ρ)),
    r = es.foldl (LinkEvent.apply cfg hs) (.init ⟨p₀, 0⟩)

end AntennaMgmt.Cpri
