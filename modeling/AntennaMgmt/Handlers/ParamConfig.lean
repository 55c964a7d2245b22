import AntennaMgmt.Cpri.Ie

/-!
# Parameter configuration

`handle_config_ie` applies the IEs of a parameter configuration request: the system time, the
period of the CPU statistics and the CPRI work mode.  Its loop counts in 16 bits and takes the
length of the payload from the header.  The response has a result for each kind of IE that was
met: a failure, once there has been no success of this kind.
-/

namespace AntennaMgmt.Handlers

open AntennaMgmt.Lib AntennaMgmt.Cpri

/-! ### IE types and values -/

/-- `IE_SYSTEM_TIME_CONFIG`. -/
def ieSystemTimeConfig : UInt16 := 11

/-- `IE_CPU_PERIOD_CONFIG`. -/
def ieCpuPeriodConfig : UInt16 := 502

/-- `IE_CPRI_WORK_MODE_CONFIG`. -/
def ieCpriWorkModeConfig : UInt16 := 504

/-- `MSG_ID_PARAM_CONFIG`. -/
def msgIdParamConfig : ℕ := 61

/-- `MSG_ID_PARAM_CONFIG_RESP`. -/
def msgIdParamConfigResp : ℕ := 62

/-- `CONFIG_RESULT_SUCCESS`. -/
def configResultSuccess : ℕ := 0

/-- `CONFIG_RESULT_FAILURE`. -/
def configResultFailure : ℕ := 1

/-- `CPRI_MODE_LOAD_SHARING`. -/
def cpriModeLoadSharing : ℕ := 3

/-- `INVALID_FIBER_PORT`. -/
def invalidFiberPort : UInt8 := 0xFF

/-! ### Applying a configuration -/

/-- What the handler meets: whether the system call or the command with the given number succeeds,
and the fiber ports, if the FPGA tells them. -/
structure ConfigEnv where
  applies : ℕ → Bool
  fiberPorts : ℕ → Option (UInt8 × UInt8)

/-- The local variables of `handle_config_ie`, with `g_cpu_stat_period` and the number of system
calls and commands so far. -/
structure Configuring where
  timeResult : ℕ
  periodResult : ℕ
  modeResult : ℕ
  mainPort : UInt8
  subPort : UInt8
  timeProcessed : Bool
  periodProcessed : Bool
  modeProcessed : Bool
  cpuStatPeriod : ℕ
  calls : ℕ
deriving DecidableEq, Repr

/-- Before the first IE. -/
def Configuring.start (cpuStatPeriod : ℕ) : Configuring where
  timeResult := configResultFailure
  periodResult := configResultFailure
  modeResult := configResultFailure
  mainPort := invalidFiberPort
  subPort := invalidFiberPort
  timeProcessed := false
  periodProcessed := false
  modeProcessed := false
  cpuStatPeriod := cpuStatPeriod
  calls := 0

/-- The check of `param_config_set_system_time`; the fields of the IE are second, minute, hour,
day, month and year. -/
def validTime (ieData : Bytes) : Bool :=
  ¬ (59 < ieData.getD 0 0 ∨ 59 < ieData.getD 1 0 ∨ 23 < ieData.getD 2 0 ∨ ieData.getD 3 0 < 1 ∨
    31 < ieData.getD 3 0 ∨ ieData.getD 4 0 < 1 ∨ 12 < ieData.getD 4 0)

/-- The case of the system time, with `param_config_set_system_time`. -/
def systemTimeCase (e : ConfigEnv) (ieData : Bytes) (c : Configuring) : Configuring :=
  if ieData.length < 7 then { c with timeProcessed := true }
  else if ¬ validTime ieData then { c with timeProcessed := true }
  else
    { c with
        timeResult := if e.applies c.calls then configResultSuccess else c.timeResult
        timeProcessed := true
        calls := c.calls + 1 }

/-- The case of the CPU period, with `param_config_set_cpu_period`. -/
def cpuPeriodCase (ieData : Bytes) (c : Configuring) : Configuring :=
  if ieData.length < 4 then { c with periodProcessed := true }
  else
    let period := leNat (slice ieData 0 4)
    if period < 1 ∨ 3600 < period then { c with periodProcessed := true }
    else
      { c with
          periodResult := configResultSuccess
          periodProcessed := true
          cpuStatPeriod := period }

/-- The case of the CPRI work mode, with `param_config_set_cpri_mode` and the reading of the
ports. -/
def cpriWorkModeCase (e : ConfigEnv) (ieData : Bytes) (c : Configuring) : Configuring :=
  if ieData.length < 4 then { c with modeProcessed := true }
  else if cpriModeLoadSharing < leNat (slice ieData 0 4) then { c with modeProcessed := true }
  else if ¬ e.applies c.calls then { c with modeProcessed := true, calls := c.calls + 1 }
  else
    let ports := (e.fiberPorts c.calls).getD (0, invalidFiberPort)
    { c with
        modeResult := configResultSuccess
        mainPort := ports.1
        subPort := ports.2
        modeProcessed := true
        calls := c.calls + 1 }

/-- The `switch` in the loop. -/
def paramConfigBody (e : ConfigEnv) (ieType : UInt16) (ieData : Bytes) (c : Configuring) :
    Configuring :=
  if ieType = ieSystemTimeConfig then systemTimeCase e ieData c
  else if ieType = ieCpuPeriodConfig then cpuPeriodCase ieData c
  else if ieType = ieCpriWorkModeConfig then cpriWorkModeCase e ieData c
  else c

/-! ### The handler -/

/-- The loop over the IEs; `payloadLen` and `offset` have 16 bits. -/
def paramConfigLoop {σ : Type*} (body : UInt16 → Bytes → σ → σ) (payload : Bytes)
    (payloadLen : UInt16) (offset : ℕ) (s : σ) : σ :=
  if offset < payloadLen.toNat then
    if payloadLen.toNat < offset + 4 then s
    else
      let ieType := UInt16.ofNat (leNat (slice payload offset 2))
      let ieLength := leNat (slice payload (offset + 2) 2)
      if ieLength < 4 ∨ payloadLen.toNat < offset + ieLength then s
      else
        paramConfigLoop body payload payloadLen ((offset + ieLength) % 2 ^ 16)
          (body ieType (slice payload (offset + 4) (ieLength - 4)) s)
  else s
termination_by payloadLen.toNat - offset
decreasing_by
  have hlt := payloadLen.toNat_lt
  rename_i hlen
  rw [not_or] at hlen
  rw [Nat.mod_eq_of_lt (by omega)]
  omega

/-- `payload_len` of `handle_config_ie`. -/
def configPayloadLen (header : CpriHeader) : UInt16 :=
  UInt16.ofNat (header.msgLength + 2 ^ 16 - cpriHeaderLen)

/-- The loop of `handle_config_ie`. -/
def configIes (e : ConfigEnv) (cpuStatPeriod : ℕ) (request : CpriMessage) : Configuring :=
  paramConfigLoop (paramConfigBody e) request.payload (configPayloadLen request.header) 0
    (.start cpuStatPeriod)

/-- `system_time_config_resp_ie_t` and `cpu_period_config_resp_ie_t`. -/
def resultResp (type : UInt16) (result : ℕ) : Element where
  type := type
  data := leBytes 4 result
  size_lt := by simp

/-- `cpri_work_mode_config_resp_ie_t`. -/
def cpriWorkModeResp (mainPort subPort : UInt8) (result : ℕ) : Element where
  type := 555
  data := [mainPort, subPort] ++ leBytes 4 result
  size_lt := by simp

/-- The IEs of the response. -/
def Configuring.respIes (c : Configuring) : List Element :=
  (if c.timeProcessed then [resultResp 551 c.timeResult] else []) ++
    (if c.periodProcessed then [resultResp 553 c.periodResult] else []) ++
    (if c.modeProcessed then [cpriWorkModeResp c.mainPort c.subPort c.modeResult] else [])

/-- `handle_config_ie`: the response, and `g_cpu_stat_period`. -/
def handleConfigIe (e : ConfigEnv) (cpuStatPeriod : ℕ) (request : CpriMessage) :
    CpriMessage × ℕ :=
  let c := configIes e cpuStatPeriod request
  let payload := c.respIes.flatMap Element.encode
  (⟨⟨msgIdParamConfigResp, cpriHeaderLen + payload.length, 0, 0, 0, request.header.serialNum⟩,
    payload⟩, c.cpuStatPeriod)

/-- `param_config_handle_request`. -/
def paramConfigHandleRequest (e : ConfigEnv) (cpuStatPeriod : ℕ) (request : CpriMessage) :
    Option (CpriMessage × ℕ) :=
  if request.header.msgId ≠ msgIdParamConfig then none
  else some (handleConfigIe e cpuStatPeriod request)

end AntennaMgmt.Handlers
