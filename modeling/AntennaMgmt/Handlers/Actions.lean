import AntennaMgmt.Cpri.Dispatch
import AntennaMgmt.Fpga.Command
import AntennaMgmt.Handlers.ConfigResult
import AntennaMgmt.Handlers.Echo
import AntennaMgmt.Handlers.Setup
import AntennaMgmt.Version.Fields

/-!
# What a request leads to

The handlers that act on the antenna run in the receive thread: they send commands to the FPGA,
give answers to `tcp_client_send`, raise alarms and have the service or the system restarted, which
the handler of an activation does as well.  Each is given the answers to the calls that it makes,
and lists what it does, in order.  Whether `tcp_client_send` gets an answer to the base band unit is
not looked at.
-/

namespace AntennaMgmt.Handlers

open AntennaMgmt.Lib AntennaMgmt.Cpri AntennaMgmt.Fpga AntennaMgmt.Version

/-! ### Actions -/

/-- What a handler does. -/
inductive Action
  | command (c : FpgaCommand) (u : UartTurn)
  | raw (data : Bytes) (u : UartTurn)
  | setSystemTime (sec min hour day month : UInt8) (year : ℕ)
  | setCpuPeriod (period : ℕ)
  | answer (bytes : Bytes)
  | alarmTrigger (alarmCode subCode : ℕ) (info : String)
  | schedule (argv : List String)
  | heartbeatStart
  | activate (target : ActivateTarget) (result : UInt8)
  | injectionStart (fwDir version : Bytes)
  -- the work of a handler that is not of this file
  | other (handler : HandlerId) (msg : CpriMessage)
deriving DecidableEq

/-- The settings and the flags of the modules. -/
structure HandlerCfg where
  paauId : ℤ
  transparent : TransparentCfg
  calibInitialized : Bool
  loopbackInitialized : Bool
  resetInitialized : Bool
  resetRestartService : ℤ
  resetRebootSystem : ℤ

/-- The answers to the calls of a handler, by their number: how a send finds the UART, whether the
clock can be set, the fiber ports, and whether `malloc` succeeds; the result of an activation, and
the directory and the name under which the firmware of a version is found. -/
structure HandlerEnv where
  turn : ℕ → UartTurn
  clockOk : ℕ → Bool
  fiberPorts : ℕ → Option (UInt8 × UInt8)
  mallocOk : ℕ → Bool
  activated : ActivateTarget → UInt8
  firmware : Bytes → Bytes × Bytes

/-- `LOOPBACK_ERR_FORMAT` and so on. -/
inductive LoopbackErr
  | format
  | permission
  | outOfRange
  | invalidType
  | invalidPort
  | invalidBeam
deriving DecidableEq, Repr

/-- `RESET_ERR_FORMAT` and so on. -/
inductive ResetErr
  | format
  | permission
  | outOfRange
  | invalidType
deriving DecidableEq, Repr

/-- What a handler returns. -/
inductive HandlerRet
  | success
  | errorGeneral
  | errorInvalidParam
  | errorNotInitialized
  | loopback (e : LoopbackErr)
  | reset (e : ResetErr)
deriving DecidableEq, Repr

/-- An answer that is encoded into a buffer of the given size and sent. -/
def sendAnswer (bufferSize : ℕ) (msg : CpriMessage) : List Action :=
  match cpriEncodeMessage msg (List.replicate bufferSize 0) with
  | some (len, buffer) => [.answer (buffer.take len)]
  | none => []

/-- The result of `sendAnswer`. -/
def answerRet (bufferSize : ℕ) (msg : CpriMessage) : HandlerRet :=
  if (cpriEncodeMessage msg (List.replicate bufferSize 0)).isSome then .success else .errorGeneral

/-- The header of an answer: that of the request with another message id. -/
def answerHeader (msgId : ℕ) (reqHeader : CpriHeader) : CpriHeader :=
  ⟨msgId, 0, reqHeader.paauId, reqHeader.bbuId, reqHeader.portNum, reqHeader.serialNum⟩

/-! ### Calibration -/

/-- `MSG_PHASED_ARRAY_CALIB_IND_ACK`. -/
def msgPhasedArrayCalibIndAck : ℕ := 72

/-- `IE_PHASED_ARRAY_CALIB_ACK`. -/
def iePhasedArrayCalibAck : ℕ := 761

/-- The message of `send_phased_array_calib_ack`. -/
def phasedArrayCalibAck (reqHeader : CpriHeader) (result : UInt8) : CpriMessage :=
  ⟨answerHeader msgPhasedArrayCalibIndAck reqHeader,
    leBytes 2 iePhasedArrayCalibAck ++ leBytes 2 (4 + 1) ++ [result]⟩

/-- `handle_phased_array_calib_request`; the data of the request are not looked at. -/
def handlePhasedArrayCalibRequest (cfg : HandlerCfg) (env : HandlerEnv) (reqHeader : CpriHeader) :
    HandlerRet × List Action :=
  if ¬ cfg.calibInitialized then (.errorNotInitialized, [])
  else
    let u := env.turn 0
    let result := if (fpgaSendCalibration 0 u).1 ≠ .success then 1 else 0
    (answerRet 256 (phasedArrayCalibAck reqHeader result),
      .command (.calibration 0) u :: sendAnswer 256 (phasedArrayCalibAck reqHeader result))

/-- `handle_phased_array_calib_req`. -/
def handlePhasedArrayCalibReq (cfg : HandlerCfg) (env : HandlerEnv) (msg : CpriMessage) :
    HandlerRet × List Action :=
  if msg.payload = [] then (.errorInvalidParam, [])
  else handlePhasedArrayCalibRequest cfg env msg.header

/-! ### Loopback -/

/-- `MSG_LOOPBACK_REQ_RSP`. -/
def msgLoopbackReqRsp : ℕ := 82

/-- `IE_LOOPBACK_RSP`. -/
def ieLoopbackRsp : ℕ := 1411

/-- `MAX_PORT_NUMBER`. -/
def maxPortNumber : UInt8 := 7

/-- `LOOPBACK_TYPE_DISABLE`. -/
def loopbackTypeDisable : UInt8 := 3

/-- `LOOPBACK_RESULT_NOT_SUPPORT`. -/
def loopbackResultNotSupport : UInt8 := 1

/-- `ie_loopback_req_t`. -/
structure LoopbackReq where
  loopbackType : UInt8
  testPeriod : ℕ
  portNumber : UInt8
  beamNumber : UInt8
deriving DecidableEq, Repr

/-- `sizeof(ie_loopback_req_t)`. -/
def loopbackReqSize : ℕ := 5

/-- The request in the bytes of an IE. -/
def LoopbackReq.ofBytes (data : Bytes) : LoopbackReq :=
  ⟨data.getD 0 0, leNat (slice data 1 2), data.getD 3 0, data.getD 4 0⟩

/-- `loopback_validate_request`. -/
def loopbackValidateRequest (req : LoopbackReq) : Except LoopbackErr Unit :=
  if loopbackTypeDisable < req.loopbackType then .error .invalidType
  else if maxPortNumber < req.portNumber then .error .invalidPort
  else .ok ()

/-- `loopback_parse_request`. -/
def loopbackParseRequest (data : Bytes) : Except LoopbackErr LoopbackReq :=
  if data.length < loopbackReqSize then .error .format
  else (loopbackValidateRequest (.ofBytes data)).map fun _ => .ofBytes data

/-- The alarm code and the text of `trigger_loopback_parse_alarm`. -/
def LoopbackErr.alarm : LoopbackErr → ℕ × String
  | format => (60001, "Loopback message format error")
  | permission => (60002, "Loopback permission denied")
  | outOfRange => (60003, "Loopback field out of range")
  | invalidType => (60004, "Invalid loopback type")
  | invalidPort => (60005, "Invalid port number")
  | invalidBeam => (60006, "Invalid beam number")

/-- The message of `send_loopback_response`. -/
def loopbackResponse (reqHeader : CpriHeader) (req : LoopbackReq) (result : UInt8) : CpriMessage :=
  ⟨answerHeader msgLoopbackReqRsp reqHeader, leBytes 2 ieLoopbackRsp ++ leBytes 2 (4 + 4) ++
    [req.loopbackType, req.portNumber, req.beamNumber, result]⟩

/-- `handle_loopback_request` on the bytes of the IE.  Only the type goes to the FPGA. -/
def handleLoopbackRequest (cfg : HandlerCfg) (env : HandlerEnv) (reqHeader : CpriHeader)
    (reqIe : Bytes) : HandlerRet × List Action :=
  if ¬ cfg.loopbackInitialized then (.errorNotInitialized, [])
  else
    match loopbackParseRequest reqIe with
    | .error e =>
      (.loopback e, .alarmTrigger e.alarm.1 0 e.alarm.2 ::
        sendAnswer 2048 (loopbackResponse reqHeader (.ofBytes reqIe) loopbackResultNotSupport))
    | .ok req =>
      let u := env.turn 0
      let result := if (fpgaSendLoopback req.loopbackType u).1 ≠ .success then
        loopbackResultNotSupport else 0
      (answerRet 2048 (loopbackResponse reqHeader req result),
        .command (.loopback req.loopbackType) u ::
          sendAnswer 2048 (loopbackResponse reqHeader req result))

/-- `handle_loopback_req`. -/
def handleLoopbackReq (cfg : HandlerCfg) (env : HandlerEnv) (msg : CpriMessage) :
    HandlerRet × List Action :=
  if msg.payload.length < 4 + loopbackReqSize then (.errorInvalidParam, [])
  else handleLoopbackRequest cfg env msg.header (slice msg.payload 4 loopbackReqSize)

/-! ### Reset -/

/-- `RESET_TYPE_SOFT`. -/
def resetTypeSoft : UInt32 := 0

/-- `RESET_TYPE_HARD`. -/
def resetTypeHard : UInt32 := 1

/-- The command that restarts the service. -/
def restartService : List String := ["systemctl", "restart", "antenna-mgmt.service"]

/-- The command that restarts the system. -/
def rebootSystem : List String := ["shutdown", "-r", "now"]

/-- `reset_validate_indication`. -/
def resetValidateIndication (resetType : UInt32) : Except ResetErr Unit :=
  if resetTypeHard < resetType then .error .invalidType else .ok ()

/-- The alarm code and the text of `trigger_reset_parse_alarm`. -/
def ResetErr.alarm : ResetErr → ℕ × String
  | format => (70001, "Reset message format error")
  | permission => (70002, "Reset permission denied")
  | outOfRange => (70003, "Reset field out of range")
  | invalidType => (70004, "Invalid reset type")

/-- The two cases of `handle_reset_indication`: what is restarted comes after the command. -/
def executeReset (env : HandlerEnv) (resetType : UInt32) (enabled : Bool) (argv : List String) :
    HandlerRet × List Action :=
  let u := env.turn 0
  if (fpgaSendPhaseRestore resetType u).1 ≠ .success then
    (.errorGeneral, [.command (.phaseRestore resetType) u])
  else (.success, .command (.phaseRestore resetType) u :: if enabled then [.schedule argv] else [])

/-- `handle_reset_indication`.  There is no answer to it. -/
def handleResetIndication (cfg : HandlerCfg) (env : HandlerEnv) (resetType : UInt32) :
    HandlerRet × List Action :=
  if ¬ cfg.resetInitialized then (.errorNotInitialized, [])
  else
    match resetValidateIndication resetType with
    | .error e => (.reset e, [.alarmTrigger e.alarm.1 0 e.alarm.2])
    | .ok () =>
      if resetType = resetTypeSoft then
        executeReset env resetType (cfg.resetRestartService ≠ 0) restartService
      else if resetType = resetTypeHard then
        executeReset env resetType (cfg.resetRebootSystem ≠ 0) rebootSystem
      else (.success, [])

/-- `handle_reset_ind` and `handle_remote_reset_ind`. -/
def handleResetInd (cfg : HandlerCfg) (env : HandlerEnv) (msg : CpriMessage) :
    HandlerRet × List Action :=
  if msg.payload.length < 4 + 4 then (.errorInvalidParam, [])
  else handleResetIndication cfg env (.ofNat (leNat (slice msg.payload 4 4)))

/-! ### Activation of a version -/

/-- `MSG_PAAU_VERSION_ACTIVATE_ACK`. -/
def msgPaauVersionActivateAck : ℕ := 32

/-- `IE_VERSION_ACTIVATE_ACK`. -/
def ieVersionActivateAck : ℕ := 321

/-- `ACTIVATE_RESULT_SUCCESS`. -/
def activateResultSuccess : UInt8 := 0

/-- `ACTIVATE_RESULT_OTHER`. -/
def activateResultOther : UInt8 := 4

/-- The message of `send_version_activate_ack`. -/
def versionActivateAck (reqHeader : CpriHeader) (verType result : UInt8) : CpriMessage :=
  ⟨answerHeader msgPaauVersionActivateAck reqHeader,
    leBytes 2 ieVersionActivateAck ++ leBytes 2 (4 + 2) ++ [verType, result]⟩

/-- `send_version_activate_ack`. -/
def sendVersionActivateAck (env : HandlerEnv) (reqHeader : CpriHeader) (verType result : UInt8) :
    List Action :=
  if env.mallocOk 0 then sendAnswer 2048 (versionActivateAck reqHeader verType result) else []

/-- What comes after the acknowledgement of an activation. -/
def afterActivate (env : HandlerEnv) (target : ActivateTarget) (result : UInt8) : List Action :=
  if result = activateResultSuccess then
    match target with
    | .firmware version => [.injectionStart (env.firmware version).1 (env.firmware version).2]
    | .software _ => [.schedule restartService]
  else []

/-- `handle_version_activate_ind`. -/
def handleVersionActivateInd (env : HandlerEnv) (msg : CpriMessage) : HandlerRet × List Action :=
  let verType := msg.payload.getD 4 0
  match versionHandleActivateRequest msg.payload with
  | .error .tooShort => (.errorInvalidParam, [])
  | .error .unsafeVersion =>
    (.errorInvalidParam, sendVersionActivateAck env msg.header verType activateResultOther)
  | .ok target =>
    let result := env.activated target
    (.success, .activate target result ::
      (sendVersionActivateAck env msg.header verType result ++ afterActivate env target result))

/-! ### Channel setup -/

/-- `MSG_CHANNEL_SETUP_CFG_ACK`. -/
def msgChannelSetupCfgAck : ℕ := 3

/-- The IE of `channel_setup_create_response`. -/
def setupResponseIe (result : ℕ) : Element where
  type := 21
  data := leBytes 4 result
  size_lt := by
    rw [length_leBytes]
    decide

/-- What `channel_setup_handle_config` asks for, from the call with the given number on. -/
def setupActions (turn : ℕ → UartTurn) : ℕ → List SetupCommand → List Action
  | _, [] => []
  | n, .setSystemTime sec min hour day month year :: commands =>
    .setSystemTime sec min hour day month year :: setupActions turn n commands
  | n, .fpgaSendCpriConfig mode :: commands =>
    .command (.cpriMode (.ofNat mode)) (turn n) :: setupActions turn (n + 1) commands
  | n, .fpgaSendBeamNum cmdBeamNum serviceBeamNum :: commands =>
    .command (.cmdBeamNum cmdBeamNum) (turn n) ::
      .command (.serviceBeamNum serviceBeamNum) (turn (n + 1)) ::
        setupActions turn (n + 2) commands
  | n, .fpgaSendCpriMode workMode :: commands =>
    .command (.cpriConfig (.ofNat workMode)) (turn n) :: setupActions turn (n + 1) commands

/-- The message of `channel_setup_create_response`, with the fields that `handle_channel_setup_req`
copies from the request. -/
def channelSetupResponse (cfg : HandlerCfg) (env : HandlerEnv) (reqHeader : CpriHeader) :
    CpriMessage :=
  ⟨⟨msgChannelSetupCfgAck, 0, UInt8.ofNat (cfg.paauId % 256).toNat, reqHeader.bbuId,
    reqHeader.portNum, reqHeader.serialNum⟩,
    (addIe 4096 env.mallocOk (setupResponseIe 0) .empty).bytes⟩

/-- `handle_channel_setup_req`. -/
def handleChannelSetupReq (cfg : HandlerCfg) (env : HandlerEnv) (msg : CpriMessage) :
    HandlerRet × List Action :=
  if msg.payload = [] then (.errorInvalidParam, [])
  else (.success, setupActions env.turn 0 (channelSetupHandleConfig msg) ++
    sendAnswer 2048 (channelSetupResponse cfg env msg.header) ++ [.heartbeatStart])

/-! ### Parameters -/

/-- What an IE of a parameter configuration leads to. -/
def configActions (env : HandlerEnv) (ieType : UInt16) (ieData : Bytes) (c : Configuring) :
    List Action :=
  if ieType = ieSystemTimeConfig then
    if ieData.length < 7 then []
    else if ¬ validTime ieData then []
    else [.setSystemTime (ieData.getD 0 0) (ieData.getD 1 0) (ieData.getD 2 0) (ieData.getD 3 0)
      (ieData.getD 4 0) (leNat (slice ieData 5 2))]
  else if ieType = ieCpuPeriodConfig then
    if ieData.length < 4 then []
    else
      let period := leNat (slice ieData 0 4)
      if period < 1 ∨ 3600 < period then [] else [.setCpuPeriod period]
  else if ieType = ieCpriWorkModeConfig then
    if ieData.length < 4 then []
    else
      let mode := leNat (slice ieData 0 4)
      if cpriModeLoadSharing < mode then []
      else [.command (.cpriConfig (.ofNat mode)) (env.turn c.calls)]
  else []

/-- What the handler meets at an IE. -/
def configEnv (env : HandlerEnv) (ieType : UInt16) (ieData : Bytes) : ConfigEnv where
  applies n :=
    if ieType = ieSystemTimeConfig then env.clockOk n
    else (fpgaSendCpriMode (.ofNat (leNat (slice ieData 0 4))) (env.turn n)).1 = .success
  fiberPorts := env.fiberPorts

/-- The body of the loop of `handle_config_ie`, with what it does. -/
def configBody (env : HandlerEnv) (ieType : UInt16) (ieData : Bytes)
    (s : Configuring × List Action) : Configuring × List Action :=
  (paramConfigBody (configEnv env ieType ieData) ieType ieData s.1,
    s.2 ++ configActions env ieType ieData s.1)

/-- `handle_param_config`. -/
def handleParamConfig (env : HandlerEnv) (msg : CpriMessage) : HandlerRet × List Action :=
  if msg.header.msgId ≠ msgIdParamConfig then (.errorInvalidParam, [])
  else
    let (c, actions) := paramConfigLoop (configBody env) msg.payload (configPayloadLen msg.header) 0
      (.start 0, [])
    let payload := c.respIes.flatMap Element.encode
    let response : CpriMessage := ⟨⟨msgIdParamConfigResp, cpriHeaderLen + payload.length, 0, 0, 0,
      msg.header.serialNum⟩, payload⟩
    (answerRet 2048 response, actions ++ sendAnswer 2048 response)

/-! ### Transparent messages -/

/-- `fpga_send_raw`. -/
def fpgaSendRaw (data : Bytes) (u : UartTurn) : SendResult × Bytes :=
  if data.length = 0 ∨ 1024 < data.length then (.errorInvalidParam, []) else u.send data

/-- The result of `fpga_send_raw` as that of the module for transparent messages. -/
def rawRet : SendResult → TransparentRet
  | .success => .success
  | .errorInvalidParam => .errorInvalidParam
  | .errorGeneral => .errorGeneral

/-- `handle_transparent_msg`: its actions. -/
def handleTransparentMsg (cfg : HandlerCfg) (env : HandlerEnv) (msg : CpriMessage) : List Action :=
  let u := env.turn 0
  let outcome :=
    transparentMsgHandle cfg.transparent (fun data => rawRet (fpgaSendRaw data u).1) msg
  (outcome.forwarded.map (Action.raw · u)).toList ++ (outcome.reply.map Action.answer).toList

/-! ### The table -/

/-- What the handler of a message does. -/
def handlerActions (cfg : HandlerCfg) (env : HandlerEnv) (handler : HandlerId) (msg : CpriMessage) :
    List Action :=
  match handler with
  | .channelSetupReq => (handleChannelSetupReq cfg env msg).2
  | .phasedArrayCalibReq => (handlePhasedArrayCalibReq cfg env msg).2
  | .loopbackReq => (handleLoopbackReq cfg env msg).2
  | .resetInd | .remoteResetInd => (handleResetInd cfg env msg).2
  | .versionActivateInd => (handleVersionActivateInd env msg).2
  | .paramConfig => (handleParamConfig env msg).2
  | .transparentMsg => handleTransparentMsg cfg env msg
  | handler => [.other handler msg]

/-- How many messages were handled, and what has been done. -/
structure Record where
  handled : ℕ
  actions : List Action

/-- The handlers; `envs` has the answers to their calls, one environment for each message that is
handled. -/
def antennaHandlers (cfg : HandlerCfg) (envs : ℕ → HandlerEnv) : Handlers Record where
  run handler msg p :=
    { p with rest := ⟨p.rest.handled + 1,
        p.rest.actions ++ handlerActions cfg (envs p.rest.handled) handler msg⟩ }
  heartbeatStop r := r

/-! ### What a handler can do -/

/-- The bytes of an answer. -/
def answerBytes (msg : CpriMessage) : Bytes :=
  encodeHeader msg.header (cpriHeaderLen + msg.payload.length) ++ msg.payload

/-- An answer that fits the buffer is sent. -/
lemma sendAnswer_eq {bufferSize : ℕ} {msg : CpriMessage} (hbuffer : bufferSize < 2 ^ 32)
    (h : cpriHeaderLen + msg.payload.length ≤ bufferSize) :
    sendAnswer bufferSize msg = [.answer (answerBytes msg)] := by
  rw [sendAnswer, cpriEncodeMessage_of_le (by omega) (by rwa [List.length_replicate])]
  refine congrArg (fun bytes => [Action.answer bytes]) (List.take_left' ?_)
  rw [List.length_append, length_encodeHeader]

/-- An answer is sent, or it is not. -/
lemma sendAnswer_cases (bufferSize : ℕ) (msg : CpriMessage) (hbuffer : bufferSize < 2 ^ 32)
    (hmsg : msg.payload.length < 2 ^ 16) :
    sendAnswer bufferSize msg = [] ∨ sendAnswer bufferSize msg = [.answer (answerBytes msg)] := by
  by_cases h : cpriHeaderLen + msg.payload.length ≤ bufferSize
  · exact .inr (sendAnswer_eq hbuffer h)
  · have hmod : (cpriHeaderLen + msg.payload.length) % 2 ^ 32 =
        cpriHeaderLen + msg.payload.length := Nat.mod_eq_of_lt (by rw [cpriHeaderLen]; omega)
    rw [sendAnswer, cpriEncodeMessage, hmod, if_pos (by rw [List.length_replicate]; omega)]
    exact .inl rfl

/-- What becomes of a calibration request. -/
inductive CalibCase (cfg : HandlerCfg) (env : HandlerEnv) (msg : CpriMessage) : List Action → Prop
  | ignored : ¬ (msg.payload ≠ [] ∧ cfg.calibInitialized) → CalibCase cfg env msg []
  | done : msg.payload ≠ [] → cfg.calibInitialized →
      CalibCase cfg env msg [.command (.calibration 0) (env.turn 0),
        .answer (answerBytes (phasedArrayCalibAck msg.header
          (if ((FpgaCommand.calibration 0).send (env.turn 0)).1 ≠ .success then 1 else 0)))]

lemma calibCase (cfg : HandlerCfg) (env : HandlerEnv) (msg : CpriMessage) :
    CalibCase cfg env msg (handlePhasedArrayCalibReq cfg env msg).2 := by
  rw [handlePhasedArrayCalibReq, handlePhasedArrayCalibRequest]
  by_cases hpayload : msg.payload = []
  · rw [if_pos hpayload]
    exact .ignored fun h => h.1 hpayload
  by_cases hinit : cfg.calibInitialized = true
  · rw [if_neg hpayload, if_neg (not_not_intro hinit)]
    dsimp only
    rw [sendAnswer_eq (by decide) (Nat.le_of_ble_eq_true rfl)]
    exact .done hpayload hinit
  · rw [if_neg hpayload, if_pos hinit]
    exact .ignored fun h => hinit h.2

/-- The request of a loopback message. -/
def loopbackReqOf (msg : CpriMessage) : LoopbackReq :=
  ⟨msg.payload.getD 4 0, leNat (slice msg.payload 5 2), msg.payload.getD 7 0, msg.payload.getD 8 0⟩

/-- What becomes of a loopback request. -/
inductive LoopbackCase (cfg : HandlerCfg) (env : HandlerEnv) (msg : CpriMessage) :
    List Action → Prop
  | ignored : ¬ (9 ≤ msg.payload.length ∧ cfg.loopbackInitialized) → LoopbackCase cfg env msg []
  | refused (e : LoopbackErr) : 9 ≤ msg.payload.length → cfg.loopbackInitialized →
      ¬ (msg.payload.getD 4 0 ≤ 3 ∧ msg.payload.getD 7 0 ≤ 7) →
      LoopbackCase cfg env msg [.alarmTrigger e.alarm.1 0 e.alarm.2,
        .answer (answerBytes (loopbackResponse msg.header (loopbackReqOf msg)
          loopbackResultNotSupport))]
  | done : 9 ≤ msg.payload.length → cfg.loopbackInitialized → msg.payload.getD 4 0 ≤ 3 →
      msg.payload.getD 7 0 ≤ 7 →
      LoopbackCase cfg env msg [.command (.loopback (msg.payload.getD 4 0)) (env.turn 0),
        .answer (answerBytes (loopbackResponse msg.header (loopbackReqOf msg)
          (if ((FpgaCommand.loopback (msg.payload.getD 4 0)).send (env.turn 0)).1 ≠ .success then
            loopbackResultNotSupport else 0)))]

lemma ofBytes_slice (msg : CpriMessage) :
    LoopbackReq.ofBytes (slice msg.payload 4 loopbackReqSize) = loopbackReqOf msg := by
  have hperiod : slice (slice msg.payload 4 loopbackReqSize) 1 2 = slice msg.payload 5 2 := by
    rw [slice, slice, slice, List.drop_take, List.drop_drop, List.take_take]
    rfl
  rw [LoopbackReq.ofBytes, hperiod, loopbackReqOf]
  simp [slice, loopbackReqSize, List.getD_eq_getElem?_getD, List.getElem?_drop]

lemma loopbackParseRequest_eq {data : Bytes} (h : loopbackReqSize ≤ data.length) :
    loopbackParseRequest data =
      if 3 < (LoopbackReq.ofBytes data).loopbackType then .error .invalidType
      else if 7 < (LoopbackReq.ofBytes data).portNumber then .error .invalidPort
      else .ok (.ofBytes data) := by
  rw [loopbackParseRequest, if_neg (Nat.not_lt.2 h), loopbackValidateRequest, loopbackTypeDisable,
    maxPortNumber]
  split_ifs <;> rfl

lemma loopbackCase (cfg : HandlerCfg) (env : HandlerEnv) (msg : CpriMessage) :
    LoopbackCase cfg env msg (handleLoopbackReq cfg env msg).2 := by
  rw [handleLoopbackReq]
  by_cases hlen : msg.payload.length < 4 + loopbackReqSize
  · rw [if_pos hlen]
    exact .ignored fun h => absurd h.1 (Nat.not_le.2 hlen)
  have hle : 9 ≤ msg.payload.length := Nat.not_lt.1 hlen
  have hsize : loopbackReqSize ≤ (slice msg.payload 4 loopbackReqSize).length := by
    rw [slice, List.length_take, List.length_drop]
    omega
  have hanswer (result : UInt8) :
      sendAnswer 2048 (loopbackResponse msg.header (loopbackReqOf msg) result) =
        [.answer (answerBytes (loopbackResponse msg.header (loopbackReqOf msg) result))] :=
    sendAnswer_eq (by decide) (Nat.le_of_ble_eq_true rfl)
  rw [if_neg hlen, handleLoopbackRequest]
  by_cases hinit : cfg.loopbackInitialized = true
  · rw [if_neg (not_not_intro hinit), loopbackParseRequest_eq hsize, ofBytes_slice]
    by_cases htype : 3 < (loopbackReqOf msg).loopbackType
    · rw [if_pos htype]
      dsimp only
      rw [hanswer]
      exact .refused _ hle hinit fun h => absurd h.1 (UInt8.not_le.2 htype)
    by_cases hport : 7 < (loopbackReqOf msg).portNumber
    · rw [if_neg htype, if_pos hport]
      dsimp only
      rw [hanswer]
      exact .refused _ hle hinit fun h => absurd h.2 (UInt8.not_le.2 hport)
    · rw [if_neg htype, if_neg hport]
      dsimp only
      rw [hanswer]
      exact .done hle hinit (UInt8.not_lt.1 htype) (UInt8.not_lt.1 hport)
  · rw [if_pos hinit]
    exact .ignored fun h => hinit h.2

/-- The type in a reset message. -/
def resetTypeOf (msg : CpriMessage) : UInt32 := .ofNat (leNat (slice msg.payload 4 4))

/-- What becomes of a reset message. -/
inductive ResetCase (cfg : HandlerCfg) (env : HandlerEnv) (msg : CpriMessage) : List Action → Prop
  | ignored : ¬ (8 ≤ msg.payload.length ∧ cfg.resetInitialized) → ResetCase cfg env msg []
  | refused (e : ResetErr) : ¬ resetTypeOf msg ≤ 1 →
      ResetCase cfg env msg [.alarmTrigger e.alarm.1 0 e.alarm.2]
  | sent : 8 ≤ msg.payload.length → cfg.resetInitialized → resetTypeOf msg ≤ 1 →
      ResetCase cfg env msg [.command (.phaseRestore (resetTypeOf msg)) (env.turn 0)]
  | restarted (argv : List String) : 8 ≤ msg.payload.length → cfg.resetInitialized →
      resetTypeOf msg = 0 ∧ argv = restartService ∧ cfg.resetRestartService ≠ 0 ∨
        resetTypeOf msg = 1 ∧ argv = rebootSystem ∧ cfg.resetRebootSystem ≠ 0 →
      ((FpgaCommand.phaseRestore (resetTypeOf msg)).send (env.turn 0)).1 = .success →
      ResetCase cfg env msg
        [.command (.phaseRestore (resetTypeOf msg)) (env.turn 0), .schedule argv]

lemma resetCase (cfg : HandlerCfg) (env : HandlerEnv) (msg : CpriMessage) :
    ResetCase cfg env msg (handleResetInd cfg env msg).2 := by
  rw [handleResetInd]
  by_cases hlen : msg.payload.length < 4 + 4
  · rw [if_pos hlen]
    exact .ignored fun h => absurd h.1 (Nat.not_le.2 hlen)
  have hle : 8 ≤ msg.payload.length := Nat.not_lt.1 hlen
  rw [if_neg hlen, ← resetTypeOf, handleResetIndication]
  by_cases hinit : cfg.resetInitialized = true
  swap
  · rw [if_pos hinit]
    exact .ignored fun h => hinit h.2
  rw [if_neg (not_not_intro hinit), resetValidateIndication]
  by_cases htype : resetTypeHard < resetTypeOf msg
  · rw [if_pos htype]
    exact .refused _ (UInt32.not_le.2 htype)
  have htype' : resetTypeOf msg ≤ 1 := UInt32.not_lt.1 htype
  rw [if_neg htype]
  have hexecute : ∀ {enabled : Bool} {argv : List String}, (enabled = true →
      resetTypeOf msg = 0 ∧ argv = restartService ∧ cfg.resetRestartService ≠ 0 ∨
        resetTypeOf msg = 1 ∧ argv = rebootSystem ∧ cfg.resetRebootSystem ≠ 0) →
      ResetCase cfg env msg (executeReset env (resetTypeOf msg) enabled argv).2 := by
    intro enabled argv hargv
    rw [executeReset]
    by_cases hsent : (fpgaSendPhaseRestore (resetTypeOf msg) (env.turn 0)).1 = .success
    · rw [if_neg (not_not_intro hsent)]
      cases enabled with
      | true => exact .restarted argv hle hinit (hargv rfl) hsent
      | false => exact .sent hle hinit htype'
    · rw [if_pos hsent]
      exact .sent hle hinit htype'
  dsimp only
  by_cases hsoft : resetTypeOf msg = resetTypeSoft
  · rw [if_pos hsoft]
    exact hexecute fun hon => .inl ⟨hsoft, rfl, of_decide_eq_true hon⟩
  by_cases hhard : resetTypeOf msg = resetTypeHard
  · rw [if_neg hsoft, if_pos hhard]
    exact hexecute fun hon => .inr ⟨hhard, rfl, of_decide_eq_true hon⟩
  · have hnat : (resetTypeOf msg).toNat ≤ 1 := UInt32.le_iff_toNat_le.1 htype'
    have hzero : (resetTypeOf msg).toNat ≠ 0 := fun h => hsoft (UInt32.toNat_inj.1 h)
    have hone : (resetTypeOf msg).toNat ≠ 1 := fun h => hhard (UInt32.toNat_inj.1 h)
    omega

/-- What becomes of an activation, with its acknowledgement. -/
inductive ActivateCase (env : HandlerEnv) (msg : CpriMessage) : List Action → Prop
  | ignored : ActivateCase env msg []
  | refused : ActivateCase env msg
      (sendVersionActivateAck env msg.header (msg.payload.getD 4 0) activateResultOther)
  | failed (target : ActivateTarget) : env.activated target ≠ activateResultSuccess →
      ActivateCase env msg (.activate target (env.activated target) ::
        sendVersionActivateAck env msg.header (msg.payload.getD 4 0) (env.activated target))
  | injected (version : Bytes) : ActivateCase env msg
      (.activate (.firmware version) activateResultSuccess ::
        (sendVersionActivateAck env msg.header (msg.payload.getD 4 0) activateResultSuccess ++
          [.injectionStart (env.firmware version).1 (env.firmware version).2]))
  | restarted (dir : Loc) : ActivateCase env msg
      (.activate (.software dir) activateResultSuccess ::
        (sendVersionActivateAck env msg.header (msg.payload.getD 4 0) activateResultSuccess ++
          [.schedule restartService]))

lemma activateCase (env : HandlerEnv) (msg : CpriMessage) :
    ActivateCase env msg (handleVersionActivateInd env msg).2 := by
  rw [handleVersionActivateInd]
  cases versionHandleActivateRequest msg.payload with
  | error e =>
    cases e with
    | tooShort => exact .ignored
    | unsafeVersion => exact .refused
  | ok target =>
    dsimp only
    by_cases hresult : env.activated target = activateResultSuccess
    · unfold afterActivate
      rw [if_pos hresult, hresult]
      cases target with
      | firmware version => exact .injected version
      | software dir => exact .restarted dir
    · unfold afterActivate
      rw [if_neg hresult, List.append_nil]
      exact .failed target hresult

/-- The acknowledgement of an activation is sent, unless there is no memory for it. -/
lemma sendVersionActivateAck_cases (env : HandlerEnv) (reqHeader : CpriHeader)
    (verType result : UInt8) :
    sendVersionActivateAck env reqHeader verType result = [] ∨
      sendVersionActivateAck env reqHeader verType result =
        [.answer (answerBytes (versionActivateAck reqHeader verType result))] := by
  rw [sendVersionActivateAck]
  split_ifs
  · exact .inr (sendAnswer_eq (by decide) (Nat.le_of_ble_eq_true rfl))
  · exact .inl rfl

end AntennaMgmt.Handlers
