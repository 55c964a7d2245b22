import AntennaMgmt.Cpri.Reassembly
import AntennaMgmt.Handlers.Actions

/-!
# From the requests to the antenna

The messages of the base band unit come in chunks, are put together and dispatched, and their
handlers send commands to the FPGA.  What is asked of the antenna is read off the messages alone;
what is sent to it is the same, in the same order.
-/

namespace AntennaMgmt.Handlers

open AntennaMgmt.Lib AntennaMgmt.Cpri AntennaMgmt.Fpga

/-! ### What is asked -/

/-- The commands that an IE of a channel setup configuration asks for. -/
def setupAsks (x : Element) : List FpgaCommand :=
  if x.type = ieTypeOperationMode ∧ 4 ≤ x.data.length then
    [.cpriMode (.ofNat (leNat (slice x.data 0 4)))]
  else if x.type = ieTypePhasedArrayBeam ∧ 2 ≤ x.data.length then
    [.cmdBeamNum (x.data.getD 0 0), .serviceBeamNum (x.data.getD 1 0)]
  else if x.type = ieTypeCpriWorkMode ∧ 4 ≤ x.data.length then
    [.cpriConfig (.ofNat (leNat (slice x.data 0 4)))]
  else []

/-- The command that an IE of a parameter configuration asks for. -/
def configAsks (x : Element) : List FpgaCommand :=
  if kindOf x = some .cpriWorkMode ∧ acceptable x then
    [.cpriConfig (.ofNat (leNat (slice x.data 0 4)))]
  else []

/-- The commands that a message asks its handler for. -/
def handlerAsks (cfg : HandlerCfg) (handler : HandlerId) (msg : CpriMessage) : List FpgaCommand :=
  match handler with
  | .channelSetupReq => (elements msg.payload).flatMap setupAsks
  | .paramConfig => (elements msg.payload).flatMap configAsks
  | .phasedArrayCalibReq =>
    if msg.payload ≠ [] ∧ cfg.calibInitialized then [.calibration 0] else []
  | .loopbackReq =>
    if 9 ≤ msg.payload.length ∧ cfg.loopbackInitialized ∧ msg.payload.getD 4 0 ≤ 3 ∧
        msg.payload.getD 7 0 ≤ 7 then
      [.loopback (msg.payload.getD 4 0)]
    else []
  | .resetInd | .remoteResetInd =>
    if 8 ≤ msg.payload.length ∧ cfg.resetInitialized ∧ resetTypeOf msg ≤ 1 then
      [.phaseRestore (resetTypeOf msg)]
    else []
  | _ => []

/-- The handler of a message, if it is dispatched: its id is known, and its sender is accepted. -/
def handlerOf (ids : PaauIdConfig) (msg : CpriMessage) : Option HandlerId :=
  if msgIdIsAccepted msg.header.msgId ∧ (paauIdAccept ids 0 msg.header.paauId).1 then
    if isTransparentMessage msg.header.msgId then some .transparentMsg
    else msgHandlers.lookup msg.header.msgId
  else none

/-- The commands that a message asks for. -/
def asks (ids : PaauIdConfig) (cfg : HandlerCfg) (msg : CpriMessage) : List FpgaCommand :=
  (handlerOf ids msg).elim [] (handlerAsks cfg · msg)

/-- What is done about a message. -/
def messageActions (ids : PaauIdConfig) (cfg : HandlerCfg) (env : HandlerEnv) (msg : CpriMessage) :
    List Action :=
  (handlerOf ids msg).elim [] (handlerActions cfg env · msg)

/-- The calls that send a command. -/
def commandsOf (actions : List Action) : List (FpgaCommand × UartTurn) :=
  actions.filterMap fun
    | .command c u => some (c, u)
    | _ => none

/-! ### The receive path -/

variable {ids : PaauIdConfig} {cfg : HandlerCfg} {envs : ℕ → HandlerEnv} {env : HandlerEnv}

/-- Whether a sender is accepted does not depend on how many were not. -/
lemma paauIdAccept_fst (ids : PaauIdConfig) (count : UInt32) (inboundId : UInt8) :
    (paauIdAccept ids count inboundId).1 = (paauIdAccept ids 0 inboundId).1 := by
  unfold paauIdAccept
  split_ifs <;> rfl

/-- A message is handled by its handler, with the answers that are next. -/
lemma handleMessage_actions (ids : PaauIdConfig) (cfg : HandlerCfg) (envs : ℕ → HandlerEnv)
    (msg : CpriMessage) (c : Control Record) :
    ∃ n, (handleMessage ids (antennaHandlers cfg envs) msg c).plant.rest.actions =
      c.plant.rest.actions ++ messageActions ids cfg (envs n) msg := by
  refine ⟨c.plant.rest.handled, ?_⟩
  have hdispatch : ∀ d : Control Record, d.plant.rest = c.plant.rest →
      (msgHandlerDispatch ids (antennaHandlers cfg envs) msg d).plant.rest.actions =
        c.plant.rest.actions ++ messageActions ids cfg (envs c.plant.rest.handled) msg := by
    intro d hd
    have hfst := paauIdAccept_fst ids d.mismatchCount msg.header.paauId
    rw [msgHandlerDispatch, messageActions, handlerOf]
    cases hid : msgIdIsAccepted msg.header.msgId with
    | false => simp [hd]
    | true =>
      cases hpaau : (paauIdAccept ids 0 msg.header.paauId).1 with
      | false => simp [hd, hfst, hpaau]
      | true =>
        cases htrans : isTransparentMessage msg.header.msgId with
        | true => simp [hd, hfst, hpaau, antennaHandlers]
        | false =>
          cases hlookup : msgHandlers.lookup msg.header.msgId with
          | none => simp [hd, hfst, hpaau]
          | some handler => simp [hd, hfst, hpaau, antennaHandlers]
  rw [handleMessage]
  refine hdispatch _ ?_
  split_ifs <;> rfl

/-- What is done about some messages is what is done about each of them, one after the other. -/
lemma foldl_handleMessage (ms : List WireMessage) (c : Control Record) :
    ∃ parts : List (List Action),
      (ms.foldl (fun c m => handleMessage ids (antennaHandlers cfg envs) m.message c)
        c).plant.rest.actions = c.plant.rest.actions ++ parts.flatten ∧
      List.Forall₂ (fun m part => ∃ n, part = messageActions ids cfg (envs n) m.message) ms
        parts := by
  induction ms generalizing c with
  | nil => exact ⟨[], by simp, .nil⟩
  | cons m ms ih =>
    obtain ⟨n, hn⟩ := handleMessage_actions ids cfg envs m.message c
    obtain ⟨parts, hparts, hall⟩ :=
      ih (handleMessage ids (antennaHandlers cfg envs) m.message c)
    refine ⟨_ :: parts, ?_, .cons ⟨n, rfl⟩ hall⟩
    rw [List.foldl_cons, hparts, hn, List.flatten_cons, List.append_assoc]

/-! ### The commands of a handler -/

@[simp] lemma commandsOf_nil : commandsOf [] = [] := rfl

@[simp] lemma commandsOf_append (l l' : List Action) :
    commandsOf (l ++ l') = commandsOf l ++ commandsOf l' := List.filterMap_append

@[simp] lemma commandsOf_command (c : FpgaCommand) (u : UartTurn) (l : List Action) :
    commandsOf (.command c u :: l) = (c, u) :: commandsOf l := rfl

@[simp] lemma commandsOf_sendAnswer (bufferSize : ℕ) (msg : CpriMessage) :
    commandsOf (sendAnswer bufferSize msg) = [] := by
  unfold sendAnswer
  split <;> rfl

/-- The commands that the walk over a channel setup configuration has collected. -/
def setupCommandAsks : SetupCommand → List FpgaCommand
  | .setSystemTime .. => []
  | .fpgaSendCpriConfig mode => [.cpriMode (.ofNat mode)]
  | .fpgaSendBeamNum cmdBeamNum serviceBeamNum =>
    [.cmdBeamNum cmdBeamNum, .serviceBeamNum serviceBeamNum]
  | .fpgaSendCpriMode workMode => [.cpriConfig (.ofNat workMode)]

lemma commands_setupActions (turn : ℕ → UartTurn) (n : ℕ) (commands : List SetupCommand) :
    (commandsOf (setupActions turn n commands)).map Prod.fst =
      commands.flatMap setupCommandAsks := by
  induction commands generalizing n with
  | nil => rfl
  | cons command commands ih =>
    cases command <;> simp only [setupActions, commandsOf_command, List.map_cons,
      List.flatMap_cons, setupCommandAsks, List.cons_append, List.nil_append, ih]
    exact ih n

/-- The walk collects what each IE asks for. -/
lemma setupConfigBody_asks (x : Element) (commands : List SetupCommand) :
    (setupConfigBody x.type x.data commands).flatMap setupCommandAsks =
      commands.flatMap setupCommandAsks ++ setupAsks x := by
  have hmode : ieTypeOperationMode ≠ ieTypeSystemTime := by decide
  have hbeam : ieTypePhasedArrayBeam ≠ ieTypeSystemTime := by decide
  have hwork : ieTypeCpriWorkMode ≠ ieTypeSystemTime := by decide
  have hbeam' : ieTypePhasedArrayBeam ≠ ieTypeOperationMode := by decide
  have hwork' : ieTypeCpriWorkMode ≠ ieTypeOperationMode := by decide
  have hwork'' : ieTypeCpriWorkMode ≠ ieTypePhasedArrayBeam := by decide
  unfold setupConfigBody setupAsks
  split_ifs <;> simp_all [setupCommandAsks]

lemma commands_handleChannelSetupReq (msg : CpriMessage) :
    (commandsOf (handleChannelSetupReq cfg env msg).2).map Prod.fst =
      (elements msg.payload).flatMap setupAsks := by
  have hwalk : ∀ (xs : List Element) (commands : List SetupCommand),
      (xs.foldl (visit setupConfigBody) commands).flatMap setupCommandAsks =
        commands.flatMap setupCommandAsks ++ xs.flatMap setupAsks := by
    intro xs
    induction xs with
    | nil => simp
    | cons x xs ih =>
      intro commands
      rw [List.foldl_cons, ih, visit, setupConfigBody_asks, List.flatMap_cons, List.append_assoc]
  rw [handleChannelSetupReq]
  split_ifs with hpayload
  · rw [hpayload, elements_nil]
    rfl
  · have hnil := hwalk (elements msg.payload) []
    rw [List.flatMap_nil, List.nil_append] at hnil
    rw [commandsOf_append, commandsOf_append, commandsOf_sendAnswer, List.append_nil,
      List.map_append, commands_setupActions, channelSetupHandleConfig, ieLoop_zero, hnil]
    exact List.append_nil _

lemma configAsks_of_ne {x : Element} (h : kindOf x ≠ some .cpriWorkMode) : configAsks x = [] :=
  if_neg fun hx => h hx.1

lemma commands_configActions (x : Element) (c : Configuring) :
    (commandsOf (configActions env x.type x.data c)).map Prod.fst = configAsks x := by
  by_cases htime : x.type = ieSystemTimeConfig
  · have hkind : kindOf x ≠ some .cpriWorkMode := by simp [kindOf, htime]
    rw [configActions, if_pos htime, configAsks_of_ne hkind]
    split_ifs <;> rfl
  by_cases hperiod : x.type = ieCpuPeriodConfig
  · have hkind : kindOf x ≠ some .cpriWorkMode := by
      rw [kindOf, if_neg htime, if_pos hperiod]
      simp
    rw [configActions, if_neg htime, if_pos hperiod, configAsks_of_ne hkind]
    dsimp only
    split_ifs <;> rfl
  by_cases hmode : x.type = ieCpriWorkModeConfig
  · have hkind : kindOf x = some .cpriWorkMode := by
      rw [kindOf, if_neg htime, if_neg hperiod, if_pos hmode]
    have haccept : acceptable x = true ↔
        ¬ x.data.length < 4 ∧ ¬ cpriModeLoadSharing < leNat (slice x.data 0 4) := by
      simp [acceptable, hkind]
    rw [configActions, if_neg htime, if_neg hperiod, if_pos hmode, configAsks]
    dsimp only
    by_cases hshort : x.data.length < 4
    · rw [if_pos hshort, if_neg fun h => (haccept.1 h.2).1 hshort]
      rfl
    by_cases hlarge : cpriModeLoadSharing < leNat (slice x.data 0 4)
    · rw [if_neg hshort, if_pos hlarge, if_neg fun h => (haccept.1 h.2).2 hlarge]
      rfl
    · rw [if_neg hshort, if_neg hlarge, if_pos ⟨hkind, haccept.2 ⟨hshort, hlarge⟩⟩]
      rfl
  · have hkind : kindOf x ≠ some .cpriWorkMode := by
      rw [kindOf, if_neg htime, if_neg hperiod, if_neg hmode]
      simp
    rw [configActions, if_neg htime, if_neg hperiod, if_neg hmode, configAsks_of_ne hkind]
    rfl

lemma commands_handleParamConfig {msg : CpriMessage} (hid : msg.header.msgId = msgIdParamConfig)
    (hlen : msg.payload.length ≤ 8177)
    (hheader : msg.header.msgLength = cpriHeaderLen + msg.payload.length) :
    (commandsOf (handleParamConfig env msg).2).map Prod.fst =
      (elements msg.payload).flatMap configAsks := by
  have hwalk : ∀ (xs : List Element) (s : Configuring × List Action),
      (commandsOf (xs.foldl (visit (configBody env)) s).2).map Prod.fst =
        (commandsOf s.2).map Prod.fst ++ xs.flatMap configAsks := by
    intro xs
    induction xs with
    | nil => simp
    | cons x xs ih =>
      intro s
      rw [List.foldl_cons, ih, visit, configBody, commandsOf_append, List.map_append,
        commands_configActions, List.flatMap_cons, List.append_assoc]
  rw [handleParamConfig, if_neg (not_not_intro hid),
    paramConfigLoop_eq _ (configPayloadLen_eq hlen hheader), ieLoop_zero]
  dsimp only
  rw [commandsOf_append, commandsOf_sendAnswer, List.append_nil, hwalk]
  rfl

lemma commands_handlePhasedArrayCalibReq (msg : CpriMessage) :
    (commandsOf (handlePhasedArrayCalibReq cfg env msg).2).map Prod.fst =
      handlerAsks cfg .phasedArrayCalibReq msg := by
  have hcase := calibCase cfg env msg
  generalize (handlePhasedArrayCalibReq cfg env msg).2 = actions at hcase
  cases hcase with
  | ignored h => exact (if_neg h).symm
  | done hpayload hinit => exact (if_pos ⟨hpayload, hinit⟩).symm

lemma commands_handleLoopbackReq (msg : CpriMessage) :
    (commandsOf (handleLoopbackReq cfg env msg).2).map Prod.fst =
      handlerAsks cfg .loopbackReq msg := by
  have hcase := loopbackCase cfg env msg
  generalize (handleLoopbackReq cfg env msg).2 = actions at hcase
  cases hcase with
  | ignored h => exact (if_neg fun hok => h ⟨hok.1, hok.2.1⟩).symm
  | refused e _ _ h => exact (if_neg fun hok => h hok.2.2).symm
  | done hlen hinit htype hport => exact (if_pos ⟨hlen, hinit, htype, hport⟩).symm

lemma commands_handleResetInd (msg : CpriMessage) :
    (commandsOf (handleResetInd cfg env msg).2).map Prod.fst = handlerAsks cfg .resetInd msg := by
  have hcase := resetCase cfg env msg
  generalize (handleResetInd cfg env msg).2 = actions at hcase
  cases hcase with
  | ignored h => exact (if_neg fun hok => h ⟨hok.1, hok.2.1⟩).symm
  | refused e h => exact (if_neg fun hok => h hok.2.2).symm
  | sent hlen hinit htype => exact (if_pos ⟨hlen, hinit, htype⟩).symm
  | restarted argv hlen hinit hargv =>
    have htype : resetTypeOf msg ≤ 1 := by
      rcases hargv with ⟨h, -⟩ | ⟨h, -⟩ <;> rw [h] <;> decide
    exact (if_pos ⟨hlen, hinit, htype⟩).symm

lemma commands_handleVersionActivateInd (msg : CpriMessage) :
    commandsOf (handleVersionActivateInd env msg).2 = [] := by
  have hack (result : UInt8) : commandsOf
      (sendVersionActivateAck env msg.header (msg.payload.getD 4 0) result) = [] := by
    rcases sendVersionActivateAck_cases env msg.header (msg.payload.getD 4 0) result with h | h <;>
      rw [h] <;> rfl
  have hcase := activateCase env msg
  generalize (handleVersionActivateInd env msg).2 = actions at hcase
  cases hcase with
  | ignored => rfl
  | refused => exact hack _
  | failed target _ => exact hack _
  | injected version => exact (commandsOf_append _ _).trans (by rw [hack]; rfl)
  | restarted dir => exact (commandsOf_append _ _).trans (by rw [hack]; rfl)

lemma commands_handleTransparentMsg (msg : CpriMessage) :
    commandsOf (handleTransparentMsg cfg env msg) = [] := by
  rw [handleTransparentMsg]
  generalize transparentMsgHandle _ _ _ = outcome
  cases outcome.forwarded <;> cases outcome.reply <;> rfl

/-- A message that is put together has the length in its header. -/
lemma length_message (m : WireMessage) : m.message.payload.length ≤ 8177 ∧
    m.message.header.msgLength = cpriHeaderLen + m.message.payload.length := by
  have hmin := m.header_le
  have hmax := m.length_le
  have hpayload : m.message.payload.length = m.bytes.length - cpriHeaderLen := by
    rw [WireMessage.message, decodeBody, List.length_drop]
  rw [m.header_msgLength, hpayload]
  simp only [cpriHeaderLen, recvBufferSize] at *
  omega

/-- Which message ids have a handler. -/
lemma mem_of_handlerOf {msg : CpriMessage} {handler : HandlerId}
    (h : handlerOf ids msg = some handler) (hne : handler ≠ .transparentMsg) :
    (msg.header.msgId, handler) ∈ msgHandlers := by
  rw [handlerOf] at h
  split_ifs at h with haccepted htransparent
  · exact absurd (Option.some.inj h).symm hne
  · obtain ⟨l, l', hl, -⟩ := List.lookup_eq_some_iff.1 h
    rw [hl]
    simp

/-- The handler of a message sends the commands that the message asks for. -/
lemma commands_messageActions (m : WireMessage) :
    (commandsOf (messageActions ids cfg env m.message)).map Prod.fst = asks ids cfg m.message := by
  obtain ⟨hlen, hheader⟩ := length_message m
  rw [messageActions, asks]
  cases hhandler : handlerOf ids m.message with
  | none => rfl
  | some handler =>
    show (commandsOf (handlerActions cfg env handler m.message)).map Prod.fst = _
    cases handler with
    | channelSetupReq => exact commands_handleChannelSetupReq _
    | phasedArrayCalibReq => exact commands_handlePhasedArrayCalibReq _
    | loopbackReq => exact commands_handleLoopbackReq _
    | resetInd | remoteResetInd => exact commands_handleResetInd _
    | paramConfig =>
      have hid := mem_of_handlerOf hhandler (by simp)
      simp only [msgHandlers, List.mem_cons, Prod.mk.injEq, reduceCtorEq, and_false, and_true,
        false_or, List.not_mem_nil, or_false] at hid
      exact commands_handleParamConfig hid hlen hheader
    | transparentMsg => exact congrArg _ (commands_handleTransparentMsg _)
    | versionActivateInd => exact congrArg _ (commands_handleVersionActivateInd _)
    | _ => rfl

/-! ### The line -/

/-- What some actions write to the line. -/
def writesOf (actions : List Action) : Bytes :=
  actions.flatMap fun
    | .command c u => (c.send u).2
    | .raw data u => (fpgaSendRaw data u).2
    | _ => []

/-- Without transparent messages only commands are written. -/
lemma writesOf_eq {actions : List Action} (h : ∀ data u, .raw data u ∉ actions) :
    writesOf actions = lineOf (commandsOf actions) := by
  induction actions with
  | nil => rfl
  | cons a actions ih =>
    have hrest := ih fun data u hmem => h data u (List.mem_cons_of_mem a hmem)
    rw [writesOf, List.flatMap_cons, ← writesOf, hrest]
    cases a with
    | command c u => rfl
    | raw data u => exact absurd List.mem_cons_self (h data u)
    | _ => rfl

/-- The commands that are sent, when every call succeeds. -/
lemma sent_eq_map {calls : List (FpgaCommand × UartTurn)}
    (h : ∀ k ∈ calls, (k.1.send k.2).1 = .success) : sent calls = calls.map Prod.fst := by
  rw [sent, List.filter_eq_self.2 fun k hk => decide_eq_true (h k hk)]

/-- What is done about messages that come in chunks. -/
def actionsOn (ids : PaauIdConfig) (cfg : HandlerCfg) (envs : ℕ → HandlerEnv) (p : Plant Record)
    (chunks : List Bytes) : List Action :=
  (receiveAll (handleMessage ids (antennaHandlers cfg envs)) (.init ⟨p, 0⟩)
    chunks).ctl.plant.rest.actions

/-- Messages in chunks that fit are handled one after the other. -/
lemma actionsOn_eq (ids : PaauIdConfig) (cfg : HandlerCfg) (envs : ℕ → HandlerEnv)
    {ms : List WireMessage} {chunks : List Bytes} (hcut : chunks.flatten = (frames ms).flatten)
    (hfits : Fits ms chunks) (p : Plant Record) :
    ∃ parts : List (List Action),
      actionsOn ids cfg envs p chunks = p.rest.actions ++ parts.flatten ∧
      List.Forall₂ (fun m part => ∃ n, part = messageActions ids cfg (envs n) m.message) ms
        parts := by
  obtain ⟨ds, ts, rest, rfl, hrun, hpend⟩ :=
    receiveAll_of_fits (f := handleMessage ids (antennaHandlers cfg envs)) ⟨p, 0⟩ hfits
      (q := []) (by rw [List.append_nil, hcut])
  obtain rfl : ts = [] := List.map_eq_nil_iff.1 hpend.frames_eq_nil
  rw [List.append_nil, actionsOn, hrun]
  exact foldl_handleMessage ds _

/-- The commands of some messages, each with what is done about it. -/
lemma commands_parts {ms : List WireMessage} {parts : List (List Action)}
    (h : List.Forall₂ (fun m part => ∃ n, part = messageActions ids cfg (envs n) m.message)
      ms parts) :
    (commandsOf parts.flatten).map Prod.fst = ms.flatMap fun m => asks ids cfg m.message := by
  induction h with
  | nil => rfl
  | cons hpart _ ih =>
    obtain ⟨n, rfl⟩ := hpart
    rw [List.flatten_cons, commandsOf_append, List.map_append, ih, commands_messageActions,
      List.flatMap_cons]

/-- **From the requests to the antenna.**  Messages that come in chunks that fit lead to the
commands that they ask for, in their order.  Whatever commands the other threads send in between, as
long as no thread sends raw data, no call fails within its frame and the frequencies are in range,
those that are sent can be read off the line in this order; so that all that was asked is on the
line, if no call of the receive thread fails. -/
theorem requests_reach_antenna {ms : List WireMessage} {chunks : List Bytes}
    (hcut : chunks.flatten = (frames ms).flatten) (hfits : Fits ms chunks) {p : Plant Record}
    (hp : p.rest.actions = []) :
    (commandsOf (actionsOn ids cfg envs p chunks)).map Prod.fst =
        (ms.flatMap fun m => asks ids cfg m.message) ∧
      ∀ line : List Action, (actionsOn ids cfg envs p chunks).Sublist line →
        (∀ data u, .raw data u ∉ line) → (∀ k ∈ commandsOf line, k.1.InRange) →
        (∀ k ∈ commandsOf line, k.2.AllOrNothing k.1.frame) →
        (sent (commandsOf (actionsOn ids cfg envs p chunks))).Sublist
            (commandsOn (writesOf line)) ∧
          ((∀ k ∈ commandsOf (actionsOn ids cfg envs p chunks), (k.1.send k.2).1 = .success) →
            (ms.flatMap fun m => asks ids cfg m.message).Sublist (commandsOn (writesOf line))) := by
  obtain ⟨parts, hactions, hparts⟩ := actionsOn_eq ids cfg envs hcut hfits p
  have hasked : (commandsOf (actionsOn ids cfg envs p chunks)).map Prod.fst =
      ms.flatMap fun m => asks ids cfg m.message := by
    rw [hactions, hp, List.nil_append, commands_parts hparts]
  refine ⟨hasked, fun line hline hraw hrange hwhole => ?_⟩
  have hsent : (sent (commandsOf (actionsOn ids cfg envs p chunks))).Sublist
      (commandsOn (writesOf line)) := by
    rw [writesOf_eq hraw, commandsOn_of_allOrNothing hrange hwhole]
    exact ((hline.filterMap _).filter _).map _
  refine ⟨hsent, fun hsuccess => ?_⟩
  rwa [sent_eq_map hsuccess, hasked] at hsent

/-! ### A test and a restart -/

/-- A loopback test of the type 2 at the port 1. -/
def loopbackTest : WireMessage where
  bytes := [81, 0, 0, 0, 24, 0, 0, 0, 0, 0, 0, 5, 0, 0, 0, 130, 5, 9, 0, 2, 10, 0, 1, 3]
  isFrame := ⟨by decide, by decide⟩
  length_le := by decide

/-- A hard reset. -/
def hardReset : WireMessage where
  bytes := [141, 0, 0, 0, 23, 0, 0, 0, 0, 0, 0, 6, 0, 0, 0, 54, 9, 8, 0, 1, 0, 0, 0]
  isFrame := ⟨by decide, by decide⟩
  length_le := by decide

/-- The reset is cut. -/
def testChunks : List Bytes :=
  [loopbackTest.bytes ++ hardReset.bytes.take 6, hardReset.bytes.drop 6]

lemma fits_testChunks : Fits [loopbackTest, hardReset] testChunks := by
  have hfirst : Fits [loopbackTest, hardReset] [loopbackTest.bytes ++ hardReset.bytes.take 6] :=
    (fits_nil _).concat (by decide)
  exact hfirst.concat (by decide)

/-- The id of a sender is not checked. -/
def openIds : PaauIdConfig := ⟨0, 255, 0⟩

def allOn : HandlerCfg := ⟨0, ⟨true, true, true⟩, true, true, true, 1, 1⟩

/-- The UART takes 16 bytes of each call. -/
def goodEnv : HandlerEnv :=
  ⟨fun _ => .upTo 16, fun _ => true, fun _ => none, fun _ => true, fun _ => 0, fun v => (v, v)⟩

def idlePlant : Plant Record :=
  ⟨false, Tx.init, ⟨some (ascii "/opt/vendor/versions/V1"), none, false⟩, .init, ⟨0, []⟩⟩

lemma actionsOn_testChunks : actionsOn openIds allOn (fun _ => goodEnv) idlePlant testChunks =
    [.command (.loopback 2) (.upTo 16),
      .answer [82, 0, 0, 0, 23, 0, 0, 0, 0, 0, 0, 5, 0, 0, 0, 131, 5, 8, 0, 2, 1, 3, 0],
      .command (.phaseRestore 1) (.upTo 16), .schedule rebootSystem] := by
  obtain ⟨parts, hactions, hparts⟩ := actionsOn_eq openIds allOn (fun _ => goodEnv)
    (by decide : testChunks.flatten = _) fits_testChunks idlePlant
  cases hparts with
  | cons hfirst hparts =>
  cases hparts with
  | cons hsecond hparts =>
  cases hparts
  obtain ⟨-, rfl⟩ := hfirst
  obtain ⟨-, rfl⟩ := hsecond
  rw [hactions]
  decide +kernel

theorem requests_reach_antenna_testChunks :
    [FpgaCommand.loopback 2, .phaseRestore 1].Sublist (commandsOn (writesOf
      (actionsOn openIds allOn (fun _ => goodEnv) idlePlant testChunks ++
        [.command .statusQuery (.upTo 16)]))) := by
  have hline := (@requests_reach_antenna openIds allOn (fun _ => goodEnv) _ _
    (by decide : testChunks.flatten = _) fits_testChunks idlePlant rfl).2 _
    (List.sublist_append_left _ [.command .statusQuery (.upTo 16)])
  rw [actionsOn_testChunks] at hline ⊢
  exact (hline (by simp) (by decide) (by decide)).2 (by decide)

end AntennaMgmt.Handlers
