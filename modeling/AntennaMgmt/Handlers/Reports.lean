import AntennaMgmt.Handlers.Requests

/-!
# What the base band unit is told

A calibration and a loopback test are answered with a result; a reset is not answered, but the
service or the system is restarted.  Every test that is accepted is reported once, under the ids of
its request, and a success comes right after its command has gone out as a whole.  So does a
restart, unless it is that of the service for a software version that was activated.
-/

namespace AntennaMgmt.Handlers

open AntennaMgmt.Lib AntennaMgmt.Cpri AntennaMgmt.Fpga

/-! ### Reports -/

/-- The report on a test: the header of the answer, what was tested, and the result. -/
structure Report where
  header : CpriHeader
  tested : Bytes
  result : UInt8
deriving DecidableEq, Repr

/-- The report in a message, whose payload is an IE with the result at its end. -/
def reportIn (msg : CpriMessage) : Option Report :=
  if msg.header.msgId = msgPhasedArrayCalibIndAck ∨ msg.header.msgId = msgLoopbackReqRsp then
    some ⟨msg.header, (msg.payload.drop 4).dropLast, msg.payload.getLastD 0⟩
  else none

/-- The command that a report is about, and whether it was carried out.  A loopback test with a type
or a port out of range is refused: there is no command then. -/
def Report.tells (r : Report) : Option (FpgaCommand × Bool) :=
  if r.header.msgId = msgPhasedArrayCalibIndAck then some (.calibration 0, decide (r.result = 0))
  else if r.result = 0 ∨ r.tested.getD 0 0 ≤ 3 ∧ r.tested.getD 1 0 ≤ 7 then
    some (.loopback (r.tested.getD 0 0), decide (r.result = 0))
  else none

namespace Action

/-- The report that an action makes. -/
def report : Action → Option Report
  | answer bytes => reportIn (decodeBody bytes)
  | _ => none

/-- What an action tells about a command. -/
def tells (a : Action) : Option (FpgaCommand × Bool) := a.report.bind Report.tells

/-- What an action has restarted. -/
def restarts : Action → Option (List String)
  | schedule argv => some argv
  | _ => none

end Action

/-- The reports of some actions, without the results. -/
def reportsOf (actions : List Action) : List (CpriHeader × Bytes) :=
  (actions.filterMap Action.report).map fun r => (r.header, r.tested)

/-- The last action is a call for the command: the whole frame went out, or the call failed. -/
def SentLast (pre : List Action) (c : FpgaCommand) (ok : Bool) : Prop :=
  ∃ pre' u, pre = pre' ++ [.command c u] ∧
    if ok then c.send u = (.success, c.frame) else (c.send u).1 ≠ .success

/-- The last action is the activation of a software version, which succeeded, or there is one more,
an answer. -/
def ActivatedLast (pre : List Action) : Prop :=
  ∃ pre' dir acks, pre = pre' ++ .activate (.software dir) activateResultSuccess :: acks ∧
    (acks = [] ∨ ∃ bytes, acks = [.answer bytes])

/-- There is reason for a restart: its reset has gone out to the antenna, or a software version was
activated. -/
def RestartDue (pre : List Action) (argv : List String) : Prop :=
  argv = restartService ∧ (SentLast pre (.phaseRestore resetTypeSoft) true ∨ ActivatedLast pre) ∨
    argv = rebootSystem ∧ SentLast pre (.phaseRestore resetTypeHard) true

/-- An action tells nothing about a command but what the call for it came to just before, and has
nothing restarted without a reason. -/
structure Due (pre : List Action) (a : Action) : Prop where
  told : ∀ c ok, a.tells = some (c, ok) → SentLast pre c ok
  restarted : ∀ argv, a.restarts = some argv → RestartDue pre argv

/-- Each action is due after those before it. -/
def Truthful (actions : List Action) : Prop :=
  ∀ pre a post, actions = pre ++ a :: post → Due pre a

/-- The reports that a message calls for. -/
def handlerReports (cfg : HandlerCfg) (handler : HandlerId) (msg : CpriMessage) :
    List (CpriHeader × Bytes) :=
  match handler with
  | .phasedArrayCalibReq =>
    if msg.payload ≠ [] ∧ cfg.calibInitialized then
      [({ answerHeader msgPhasedArrayCalibIndAck msg.header with msgLength := 20 }, [])]
    else []
  | .loopbackReq =>
    if 9 ≤ msg.payload.length ∧ cfg.loopbackInitialized then
      [({ answerHeader msgLoopbackReqRsp msg.header with msgLength := 23 },
        [msg.payload.getD 4 0, msg.payload.getD 7 0, msg.payload.getD 8 0])]
    else []
  | _ => []

/-- The reports that a message calls for, if it is dispatched. -/
def reportsAsked (ids : PaauIdConfig) (cfg : HandlerCfg) (msg : CpriMessage) :
    List (CpriHeader × Bytes) :=
  (handlerOf ids msg).elim [] (handlerReports cfg · msg)

/-- The reports are those that are called for, and true. -/
structure Accounted (asked : List (CpriHeader × Bytes)) (actions : List Action) : Prop where
  reports : reportsOf actions = asked
  truthful : Truthful actions

/-! ### Actions one after the other -/

variable {ids : PaauIdConfig} {cfg : HandlerCfg} {envs : ℕ → HandlerEnv} {env : HandlerEnv}
  {msg : CpriMessage} {asked asked' : List (CpriHeader × Bytes)} {l l' : List Action}

lemma SentLast.prepend {pre : List Action} {c : FpgaCommand} {ok : Bool} (h : SentLast pre c ok)
    (l : List Action) : SentLast (l ++ pre) c ok := by
  obtain ⟨pre', u, rfl, hok⟩ := h
  exact ⟨l ++ pre', u, (List.append_assoc l pre' _).symm, hok⟩

lemma ActivatedLast.prepend {pre : List Action} (h : ActivatedLast pre) (l : List Action) :
    ActivatedLast (l ++ pre) := by
  obtain ⟨pre', dir, acks, rfl, hacks⟩ := h
  exact ⟨l ++ pre', dir, acks, (List.append_assoc l pre' _).symm, hacks⟩

/-- What is due stays due when there is more before. -/
lemma Due.prepend {pre : List Action} {a : Action} (h : Due pre a) (l : List Action) :
    Due (l ++ pre) a where
  told c ok htells := (h.told c ok htells).prepend l
  restarted argv hargv := by
    rcases h.restarted argv hargv with ⟨rfl, hsent | hactivated⟩ | ⟨rfl, hsent⟩
    · exact .inl ⟨rfl, .inl (hsent.prepend l)⟩
    · exact .inl ⟨rfl, .inr (hactivated.prepend l)⟩
    · exact .inr ⟨rfl, hsent.prepend l⟩

lemma Truthful.append (h : Truthful l) (h' : Truthful l') : Truthful (l ++ l') := by
  intro pre a post hl
  rcases List.append_eq_append_iff.1 hl with ⟨mid, rfl, hmid⟩ | ⟨mid, hpre, hmid⟩
  · exact (h' mid a post hmid).prepend l
  cases mid with
  -- the second part begins with the action
  | nil =>
    have hdue := (h' [] a post hmid.symm).prepend pre
    rwa [List.append_nil] at hdue
  | cons b mid =>
    obtain ⟨rfl, rfl⟩ := List.cons.inj hmid
    exact h pre a mid hpre

/-- One more action, which is due. -/
lemma Truthful.concat (h : Truthful l) {a : Action} (ha : Due l a) : Truthful (l ++ [a]) := by
  intro pre b post hl
  rcases List.eq_nil_or_concat post with rfl | ⟨post, c, rfl⟩
  · obtain ⟨rfl, hb⟩ := List.append_inj' hl rfl
    obtain rfl := List.singleton_inj.1 hb
    exact ha
  · rw [List.concat_eq_append, ← List.cons_append, ← List.append_assoc] at hl
    exact h pre b post (List.append_inj' hl rfl).1

lemma Accounted.append (h : Accounted asked l) (h' : Accounted asked' l') :
    Accounted (asked ++ asked') (l ++ l') where
  reports := by rw [reportsOf, List.filterMap_append, List.map_append, ← reportsOf, ← reportsOf,
    h.reports, h'.reports]
  truthful := h.truthful.append h'.truthful

/-- Nothing is reported, and nothing is restarted. -/
def Quiet (l : List Action) : Prop := ∀ a ∈ l, a.report = none ∧ a.restarts = none

lemma due_of_quiet {a : Action} (hreport : a.report = none) (hrestarts : a.restarts = none)
    (pre : List Action) : Due pre a where
  told c ok htells := by
    rw [Action.tells, hreport, Option.bind_none] at htells
    cases htells
  restarted argv hargv := by
    rw [hrestarts] at hargv
    cases hargv

lemma Quiet.truthful (h : Quiet l) : Truthful l := by
  rintro pre a post rfl
  obtain ⟨hreport, hrestarts⟩ := h a (by simp)
  exact due_of_quiet hreport hrestarts pre

lemma Quiet.accounted (h : Quiet l) : Accounted [] l where
  reports := by
    rw [reportsOf, List.filterMap_eq_nil_iff.2 fun a ha => (h a ha).1, List.map_nil]
  truthful := h.truthful

lemma Quiet.append (h : Quiet l) (h' : Quiet l') : Quiet (l ++ l') :=
  fun a ha => (List.mem_append.1 ha).elim (h a) (h' a)

lemma quiet_nil : Quiet [] := fun _ ha => absurd ha List.not_mem_nil

lemma quiet_cons {a : Action} (hreport : a.report = none) (hrestarts : a.restarts = none)
    (h : Quiet l) : Quiet (a :: l) := by
  rintro b (_ | ⟨_, hb⟩)
  · exact ⟨hreport, hrestarts⟩
  · exact h b hb

/-- Quiet actions, and a restart that is due. -/
lemma Quiet.accounted_restart (h : Quiet l) {argv : List String} (hdue : RestartDue l argv) :
    Accounted [] (l ++ [.schedule argv]) where
  reports := by
    rw [reportsOf, List.filterMap_append, List.filterMap_eq_nil_iff.2 fun a ha => (h a ha).1]
    rfl
  truthful := by
    refine h.truthful.concat ⟨fun c ok htells => ?_, fun argv' hargv => ?_⟩
    · cases htells
    · obtain rfl := Option.some.inj hargv
      exact hdue

/-! ### Answers -/

/-- An answer is read as it was written. -/
lemma report_answerBytes (hid : msg.header.msgId < 2 ^ 32) (hserial : msg.header.serialNum < 2 ^ 32)
    (hlen : msg.payload.length < 2 ^ 16) : (Action.answer (answerBytes msg)).report =
      reportIn ⟨{ msg.header with msgLength := cpriHeaderLen + msg.payload.length },
        msg.payload⟩ := by
  rw [Action.report, answerBytes, decodeBody_encode ⟨hid, hserial⟩]
  rw [cpriHeaderLen]
  omega

/-- Other answers are no reports. -/
lemma quiet_sendAnswer {bufferSize : ℕ} (hbuffer : bufferSize < 2 ^ 32)
    (hid : msg.header.msgId < 2 ^ 32) (hserial : msg.header.serialNum < 2 ^ 32)
    (hlen : msg.payload.length < 2 ^ 16)
    (hne : ¬ (msg.header.msgId = msgPhasedArrayCalibIndAck ∨
      msg.header.msgId = msgLoopbackReqRsp)) :
    Quiet (sendAnswer bufferSize msg) := by
  have hreport := (report_answerBytes hid hserial hlen).trans (if_neg hne)
  rcases sendAnswer_cases bufferSize msg hbuffer hlen with h | h <;> rw [h]
  · exact quiet_nil
  · exact quiet_cons hreport rfl quiet_nil

/-! ### The handlers -/

lemma quiet_setupActions (turn : ℕ → UartTurn) (n : ℕ) (commands : List SetupCommand) :
    Quiet (setupActions turn n commands) := by
  induction commands generalizing n with
  | nil => exact quiet_nil
  | cons command commands ih =>
    cases command with
    | setSystemTime => exact quiet_cons rfl rfl (ih _)
    | fpgaSendCpriConfig => exact quiet_cons rfl rfl (ih _)
    | fpgaSendBeamNum => exact quiet_cons rfl rfl (quiet_cons rfl rfl (ih _))
    | fpgaSendCpriMode => exact quiet_cons rfl rfl (ih _)

lemma quiet_handleChannelSetupReq (hserial : msg.header.serialNum < 2 ^ 32) :
    Quiet (handleChannelSetupReq cfg env msg).2 := by
  have hpayload : (channelSetupResponse cfg env msg.header).payload.length < 2 ^ 16 := by
    rcases addIe_cases 4096 env.mallocOk (setupResponseIe 0) .empty with h | ⟨h, -⟩ <;>
      rw [channelSetupResponse, h] <;> exact Nat.le_of_ble_eq_true rfl
  rw [handleChannelSetupReq]
  split_ifs
  · exact quiet_nil
  · refine ((quiet_setupActions _ _ _).append ?_).append (quiet_cons rfl rfl quiet_nil)
    exact quiet_sendAnswer (by decide) (by decide : msgChannelSetupCfgAck < 2 ^ 32) hserial
      hpayload (by decide : ¬ (msgChannelSetupCfgAck = _ ∨ msgChannelSetupCfgAck = _))

lemma quiet_configActions (ieType : UInt16) (ieData : Bytes) (c : Configuring) :
    Quiet (configActions env ieType ieData c) := by
  unfold configActions
  dsimp only
  split_ifs
  all_goals first
    | exact quiet_nil
    | exact quiet_cons rfl rfl quiet_nil

/-- The response has at most three IEs. -/
lemma length_respIes_le (c : Configuring) : (c.respIes.flatMap Element.encode).length < 2 ^ 16 := by
  rw [Configuring.respIes]
  split_ifs <;> exact Nat.le_of_ble_eq_true rfl

lemma quiet_handleParamConfig (hlen : msg.payload.length ≤ 8177)
    (hheader : msg.header.msgLength = cpriHeaderLen + msg.payload.length)
    (hserial : msg.header.serialNum < 2 ^ 32) : Quiet (handleParamConfig env msg).2 := by
  have hwalk : ∀ (xs : List Element) (s : Configuring × List Action), Quiet s.2 →
      Quiet (xs.foldl (visit (configBody env)) s).2 := by
    intro xs
    induction xs with
    | nil => exact fun s hs => hs
    | cons x xs ih => exact fun s hs => ih _ (hs.append (quiet_configActions _ _ _))
  rw [handleParamConfig]
  split_ifs
  · exact quiet_nil
  rw [paramConfigLoop_eq _ (configPayloadLen_eq hlen hheader), ieLoop_zero]
  dsimp only
  refine (hwalk _ _ quiet_nil).append ?_
  exact quiet_sendAnswer (by decide) (by decide : msgIdParamConfigResp < 2 ^ 32) hserial
    (length_respIes_le _) (by decide : ¬ (msgIdParamConfigResp = _ ∨ msgIdParamConfigResp = _))

/-- What the module for transparent messages sends. -/
lemma quiet_sendTransparent {initialized : Bool} {msgId contentLen : ℕ} {targetId : UInt8}
    {content : Option Bytes} {bytes : Bytes}
    (h : (sendTransparentPaauToBbu initialized msgId targetId content contentLen).2 = some bytes) :
    Quiet [.answer bytes] := by
  rw [sendTransparentPaauToBbu] at h
  split_ifs at h with _ hid hmax
  dsimp only at h
  set answer : CpriMessage :=
    ⟨transparentHeader msgId, transparentPayload targetId ((content.getD []).take contentLen)⟩
  have hmax' : contentLen ≤ 1024 := Nat.not_lt.1 hmax
  have hid' : 221 ≤ msgId ∧ msgId ≤ 230 := by
    rw [msgTransparentPaauToBbuBase, msgTransparentPaauToBbu10] at hid
    omega
  have hlen : answer.payload.length < 2 ^ 16 := by
    have htake := List.length_take_le contentLen (content.getD [])
    rw [length_transparentPayload]
    omega
  have hquiet : Quiet (sendAnswer (transparentContentMaxLen + 64) answer) := by
    refine quiet_sendAnswer (by decide) ?_ (Nat.two_pow_pos 32) hlen ?_
    · exact lt_of_le_of_lt hid'.2 (by decide)
    · rintro (hcalib | hloopback)
      · have h72 : msgId = 72 := hcalib
        omega
      · have h82 : msgId = 82 := hloopback
        omega
  rw [sendAnswer] at hquiet
  generalize cpriEncodeMessage answer _ = encoded at h hquiet
  cases encoded with
  | none => cases h
  | some r =>
    obtain rfl : r.2.take r.1 = bytes := Option.some.inj h
    exact hquiet

lemma quiet_reply {f : Bytes → TransparentRet} {bytes : Bytes}
    (h : (transparentMsgHandle cfg.transparent f msg).reply = some bytes) :
    Quiet [.answer bytes] := by
  rw [transparentMsgHandle] at h
  generalize transparentMsgParse msg.payload = parsed at h
  obtain ⟨ok, transMsg⟩ := parsed
  cases ok with
  | false =>
    dsimp only at h
    split_ifs at h
  | true =>
    dsimp only at h
    split_ifs at h
    rw [handleTransparentBbuToPaau] at h
    dsimp only at h
    split_ifs at h <;> exact quiet_sendTransparent h

lemma quiet_handleTransparentMsg : Quiet (handleTransparentMsg cfg env msg) := by
  rw [handleTransparentMsg]
  refine Quiet.append ?_ ?_
  · cases (transparentMsgHandle cfg.transparent _ msg).forwarded with
    | none => exact quiet_nil
    | some => exact quiet_cons rfl rfl quiet_nil
  · cases hbytes : (transparentMsgHandle cfg.transparent _ msg).reply with
    | none => exact quiet_nil
    | some bytes => exact quiet_reply hbytes

/-- A command with the report on it. -/
lemma accounted_test {c : FpgaCommand} {u : UartTurn} {bytes : Bytes} {r : Report}
    (hreport : (Action.answer bytes).report = some r)
    (htells : r.tells = some (c, decide (r.result = 0)))
    (hresult : r.result = if (c.send u).1 ≠ .success then 1 else 0) :
    Accounted [(r.header, r.tested)] [.command c u, .answer bytes] where
  reports := by
    show (([Action.command c u, .answer bytes].filterMap Action.report).map _) = _
    rw [List.filterMap_cons_none rfl, List.filterMap_cons_some hreport]
    rfl
  truthful := by
    have hcall : Truthful [.command c u] := (quiet_cons rfl rfl quiet_nil).truthful
    refine hcall.concat ⟨fun d ok hd => ?_, fun argv hargv => by cases hargv⟩
    rw [Action.tells, hreport, Option.bind_some, htells] at hd
    obtain ⟨rfl, rfl⟩ := Prod.mk.inj (Option.some.inj hd)
    refine ⟨[], u, rfl, ?_⟩
    by_cases hsent : (c.send u).1 = .success
    · have hzero : r.result = 0 := by rw [hresult, if_neg (not_not_intro hsent)]
      rw [if_pos (decide_eq_true hzero)]
      exact c.send_of_success hsent
    · have hone : r.result ≠ 0 := by
        rw [hresult, if_pos hsent]
        decide
      rw [if_neg (by simp [hone])]
      exact hsent

lemma report_phasedArrayCalibAck {header : CpriHeader} (hserial : header.serialNum < 2 ^ 32)
    (result : UInt8) : (Action.answer (answerBytes (phasedArrayCalibAck header result))).report =
      some ⟨{ answerHeader msgPhasedArrayCalibIndAck header with msgLength := 20 }, [], result⟩ :=
  report_answerBytes (by decide : msgPhasedArrayCalibIndAck < 2 ^ 32) hserial
    (Nat.le_of_ble_eq_true rfl)

lemma accounted_handlePhasedArrayCalibReq (hserial : msg.header.serialNum < 2 ^ 32) :
    Accounted (handlerReports cfg .phasedArrayCalibReq msg)
      (handlePhasedArrayCalibReq cfg env msg).2 := by
  have hcase := calibCase cfg env msg
  generalize (handlePhasedArrayCalibReq cfg env msg).2 = actions at hcase
  rw [handlerReports]
  cases hcase with
  | ignored h =>
    rw [if_neg h]
    exact quiet_nil.accounted
  | done hpayload hinit =>
    rw [if_pos ⟨hpayload, hinit⟩]
    exact accounted_test (report_phasedArrayCalibAck hserial _) rfl rfl

lemma report_loopbackResponse {header : CpriHeader} (hserial : header.serialNum < 2 ^ 32)
    (req : LoopbackReq) (result : UInt8) :
    (Action.answer (answerBytes (loopbackResponse header req result))).report =
      some ⟨{ answerHeader msgLoopbackReqRsp header with msgLength := 23 },
        [req.loopbackType, req.portNumber, req.beamNumber], result⟩ :=
  report_answerBytes (by decide : msgLoopbackReqRsp < 2 ^ 32) hserial (Nat.le_of_ble_eq_true rfl)

lemma tells_loopbackResponse (header : CpriHeader) (loopbackType port beam result : UInt8) :
    Report.tells ⟨{ answerHeader msgLoopbackReqRsp header with msgLength := 23 },
      [loopbackType, port, beam], result⟩ =
      if result = 0 ∨ loopbackType ≤ 3 ∧ port ≤ 7 then
        some (.loopback loopbackType, decide (result = 0))
      else none := rfl

lemma accounted_handleLoopbackReq (hserial : msg.header.serialNum < 2 ^ 32) :
    Accounted (handlerReports cfg .loopbackReq msg) (handleLoopbackReq cfg env msg).2 := by
  have hcase := loopbackCase cfg env msg
  generalize (handleLoopbackReq cfg env msg).2 = actions at hcase
  rw [handlerReports]
  cases hcase with
  | ignored h =>
    rw [if_neg h]
    exact quiet_nil.accounted
  | refused e hlen hinit hbad =>
    rw [if_pos ⟨hlen, hinit⟩]
    have hreport := report_loopbackResponse hserial (loopbackReqOf msg) loopbackResultNotSupport
    constructor
    · show (([Action.alarmTrigger _ _ _, .answer _].filterMap Action.report).map _) = _
      rw [List.filterMap_cons_none rfl, List.filterMap_cons_some hreport]
      rfl
    · have halarm : Truthful [Action.alarmTrigger e.alarm.1 0 e.alarm.2] :=
        (quiet_cons rfl rfl quiet_nil).truthful
      refine halarm.concat ⟨fun c ok htells => ?_, fun argv hargv => by cases hargv⟩
      rw [Action.tells, hreport, Option.bind_some, tells_loopbackResponse,
        if_neg fun h => h.elim (by decide) hbad] at htells
      cases htells
  | done hlen hinit htype hport =>
    rw [if_pos ⟨hlen, hinit⟩]
    exact accounted_test (report_loopbackResponse hserial (loopbackReqOf msg) _)
      ((tells_loopbackResponse _ _ _ _ _).trans (if_pos (.inr ⟨htype, hport⟩))) rfl

lemma accounted_handleResetInd : Accounted [] (handleResetInd cfg env msg).2 := by
  have hcase := resetCase cfg env msg
  generalize (handleResetInd cfg env msg).2 = actions at hcase
  cases hcase with
  | ignored => exact quiet_nil.accounted
  | refused => exact (quiet_cons rfl rfl quiet_nil).accounted
  | sent => exact (quiet_cons rfl rfl quiet_nil).accounted
  | restarted argv hlen hinit hargv hsent =>
    have hcall : Quiet [.command (.phaseRestore (resetTypeOf msg)) (env.turn 0)] :=
      quiet_cons rfl rfl quiet_nil
    have hlast : SentLast [.command (.phaseRestore (resetTypeOf msg)) (env.turn 0)]
        (.phaseRestore (resetTypeOf msg)) true :=
      ⟨[], env.turn 0, rfl, FpgaCommand.send_of_success hsent⟩
    refine hcall.accounted_restart ?_
    rcases hargv with ⟨hsoft, rfl, -⟩ | ⟨hhard, rfl, -⟩
    · rw [hsoft] at hlast ⊢
      exact .inl ⟨rfl, .inl hlast⟩
    · rw [hhard] at hlast ⊢
      exact .inr ⟨rfl, hlast⟩

/-- The acknowledgement of an activation is no report. -/
lemma quiet_sendVersionActivateAck (hserial : msg.header.serialNum < 2 ^ 32)
    (verType result : UInt8) : Quiet (sendVersionActivateAck env msg.header verType result) := by
  rw [sendVersionActivateAck]
  split_ifs
  · exact quiet_sendAnswer (by decide) (by decide : msgPaauVersionActivateAck < 2 ^ 32) hserial
      (Nat.le_of_ble_eq_true rfl)
      (by decide : ¬ (msgPaauVersionActivateAck = _ ∨ msgPaauVersionActivateAck = _))
  · exact quiet_nil

lemma accounted_handleVersionActivateInd (hserial : msg.header.serialNum < 2 ^ 32) :
    Accounted [] (handleVersionActivateInd env msg).2 := by
  have hack (result : UInt8) :
      Quiet (sendVersionActivateAck env msg.header (msg.payload.getD 4 0) result) :=
    quiet_sendVersionActivateAck hserial _ result
  have hcase := activateCase env msg
  generalize (handleVersionActivateInd env msg).2 = actions at hcase
  cases hcase with
  | ignored => exact quiet_nil.accounted
  | refused => exact (hack _).accounted
  | failed target _ => exact (quiet_cons rfl rfl (hack _)).accounted
  | injected version =>
    exact (quiet_cons rfl rfl ((hack _).append (quiet_cons rfl rfl quiet_nil))).accounted
  | restarted dir =>
    refine Quiet.accounted_restart (quiet_cons rfl rfl (hack _)) (.inl ⟨rfl, .inr ?_⟩)
    refine ⟨[], dir, _, rfl, ?_⟩
    exact (sendVersionActivateAck_cases env msg.header _ _).imp_right fun h => ⟨_, h⟩

/-- What is done about a message is accounted for. -/
lemma accounted_messageActions (m : WireMessage) :
    Accounted (reportsAsked ids cfg m.message) (messageActions ids cfg env m.message) := by
  obtain ⟨hlen, hheader⟩ := length_message m
  have hserial : m.message.header.serialNum < 2 ^ 32 :=
    (leNat_lt _).trans_le (Nat.pow_le_pow_right (by decide) (List.length_take_le 4 _))
  rw [messageActions, reportsAsked]
  cases hhandler : handlerOf ids m.message with
  | none => exact quiet_nil.accounted
  | some handler =>
    show Accounted (handlerReports cfg handler m.message)
      (handlerActions cfg env handler m.message)
    cases handler with
    | channelSetupReq => exact (quiet_handleChannelSetupReq hserial).accounted
    | phasedArrayCalibReq => exact accounted_handlePhasedArrayCalibReq hserial
    | loopbackReq => exact accounted_handleLoopbackReq hserial
    | resetInd | remoteResetInd => exact accounted_handleResetInd
    | paramConfig => exact (quiet_handleParamConfig hlen hheader hserial).accounted
    | transparentMsg => exact quiet_handleTransparentMsg.accounted
    | versionActivateInd => exact accounted_handleVersionActivateInd hserial
    | _ => exact (quiet_cons rfl rfl quiet_nil).accounted

/-- **What the base band unit is told is true.**  For messages that come in chunks that fit, the
reports that they call for are given to `tcp_client_send`, once each, in their order and under their
ids.  A success or a failure comes right after the call for its command, which wrote the whole frame
if a success is told; so does a restart for a reset, and the service is restarted besides only for a
software version that was activated. -/
theorem told_is_true {ms : List WireMessage} {chunks : List Bytes}
    (hcut : chunks.flatten = (frames ms).flatten) (hfits : Fits ms chunks) {p : Plant Record}
    (hp : p.rest.actions = []) :
    Accounted (ms.flatMap fun m => reportsAsked ids cfg m.message)
      (actionsOn ids cfg envs p chunks) := by
  obtain ⟨parts, hactions, hparts⟩ := actionsOn_eq ids cfg envs hcut hfits p
  rw [hactions, hp, List.nil_append]
  clear hactions hcut hfits
  induction hparts with
  | nil => exact quiet_nil.accounted
  | cons hpart _ ih =>
    obtain ⟨n, rfl⟩ := hpart
    rw [List.flatMap_cons, List.flatten_cons]
    exact (accounted_messageActions _).append ih

/-- The activation of the software version `V2`. -/
def v2Activation : WireMessage where
  bytes := [31, 0, 0, 0, 60, 0, 0, 0, 0, 0, 0, 7, 0, 0, 0, 55, 1, 45, 0, 0] ++ ascii "V2" ++
    List.replicate 38 0
  isFrame := ⟨by decide, by decide⟩
  length_le := by decide

lemma fits_activationChunks : Fits [loopbackTest, hardReset, v2Activation]
    (testChunks ++ [v2Activation.bytes]) := by
  have hfirst : Fits [loopbackTest, hardReset, v2Activation]
      [loopbackTest.bytes ++ hardReset.bytes.take 6] := (fits_nil _).concat (by decide)
  have hsecond : Fits [loopbackTest, hardReset, v2Activation] testChunks :=
    hfirst.concat (by decide)
  exact hsecond.concat (by decide)

/-- The test was carried out, the command of the reset went out before the restart of the system,
and the service is restarted for the version. -/
theorem told_is_true_activationChunks :
    Accounted [(⟨82, 23, 0, 0, 0, 5⟩, [2, 1, 3])]
      (actionsOn openIds allOn (fun _ => goodEnv) idlePlant
        (testChunks ++ [v2Activation.bytes])) :=
  @told_is_true openIds allOn (fun _ => goodEnv) [loopbackTest, hardReset, v2Activation] _
    (by decide : (testChunks ++ [v2Activation.bytes]).flatten = _) fits_activationChunks
    idlePlant rfl

end AntennaMgmt.Handlers
