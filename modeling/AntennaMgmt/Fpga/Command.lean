import AntennaMgmt.Fpga.FreqBand
import AntennaMgmt.Lib.Framing

/-!
# Commands to the FPGA

Each of the functions `fpga_send_*` puts its arguments into the payload of a frame with a message
id of its own, and several threads write such frames to one UART, one call after the other.  A
frame names its length, so that the line tells which commands were sent, as long as no write fails
within a frame.
-/

namespace AntennaMgmt.Fpga

open AntennaMgmt.Lib
open AntennaMgmt.Rs422 (be16 be32 beNat beNat_be32)

/-! ### Calls of `uart_client_send` -/

/-- How a call of `uart_client_send` finds the UART: the fields that it depends on, and what its
writes come to.  One of them ends the call, so that it comes back. -/
structure UartTurn where
  client : UartClient
  outcomes : List WriteOutcome
  ends : .error ∈ outcomes ∨ .wrote 0 ∈ outcomes
deriving DecidableEq

/-- How many bytes the UART takes until a write fails or makes no progress. -/
def accepted : List WriteOutcome → ℕ
  | [] => 0
  | .wrote (n + 1) :: outcomes => n + 1 + accepted outcomes
  | .wrote 0 :: _ => 0
  | .eintr :: outcomes => accepted outcomes
  | .error :: _ => 0

namespace UartTurn

/-- The result of `uart_client_send`, and what it writes. -/
def send (u : UartTurn) (data : Bytes) : SendResult × Bytes :=
  ((uartClientSend u.client data u.outcomes).1.getD .errorGeneral,
    (uartClientSend u.client data u.outcomes).2)

/-- How many bytes the UART takes from the call. -/
def taken (u : UartTurn) : ℕ :=
  if u.client.state ≠ .opened ∨ u.client.fd = none then 0 else accepted u.outcomes

/-- No write fails within the data. -/
def AllOrNothing (u : UartTurn) (data : Bytes) : Prop := u.taken = 0 ∨ data.length ≤ u.taken

instance (u : UartTurn) (data : Bytes) : Decidable (u.AllOrNothing data) :=
  inferInstanceAs (Decidable (_ ∨ _))

end UartTurn

/-- What the loop of `uart_client_send` comes to when a write ends it. -/
lemma writeLoop_eq {data : Bytes} {outcomes : List WriteOutcome}
    (h : .error ∈ outcomes ∨ .wrote 0 ∈ outcomes) : writeLoop data outcomes =
      (some (if data.length ≤ accepted outcomes then .success else .errorGeneral),
        data.take (accepted outcomes)) := by
  fun_induction writeLoop data outcomes with
  | case1 => simp
  | case2 => simp at h
  | case3 b rest n outcomes ret written heq ih =>
    have hrest := ih (by simpa using h)
    rw [heq] at hrest
    obtain ⟨hret, hwritten⟩ := Prod.mk.inj hrest
    have hlen : ((b :: rest).drop (n + 1)).length ≤ accepted outcomes ↔
        (b :: rest).length ≤ n + 1 + accepted outcomes := by
      rw [List.length_drop]
      omega
    have htake := List.take_add (l := b :: rest) (i := n + 1) (j := accepted outcomes)
    rw [accepted, hret, hwritten, htake]
    simp only [hlen]
  | case4 => simp [accepted]
  | case5 b rest outcomes ih => exact ih (by simpa using h)
  | case6 => simp [accepted]

/-- A call writes the front of its data, and succeeds when it has written them all. -/
lemma UartTurn.send_eq (u : UartTurn) {data : Bytes} (hdata : data ≠ []) : u.send data =
    (if data.length ≤ u.taken then .success else .errorGeneral, data.take u.taken) := by
  have hpos : 0 < data.length := List.length_pos_iff.2 hdata
  rw [send, taken, uartClientSend, if_neg hpos.ne']
  split_ifs with hclient hle hlen
  · omega
  · rfl
  · rw [writeLoop_eq u.ends, if_pos hlen]
    rfl
  · rw [writeLoop_eq u.ends, if_neg hlen]
    rfl

/-! ### The commands -/

/-- `FPGA_MSG_CPRI_MODE`. -/
def msgCpriMode : UInt8 := 0x01

/-- `FPGA_MSG_CPRI_CONFIG`. -/
def msgCpriConfig : UInt8 := 0x02

/-- `FPGA_MSG_CMD_BEAM_NUM`. -/
def msgCmdBeamNum : UInt8 := 0x03

/-- `FPGA_MSG_SERVICE_BEAM_NUM`. -/
def msgServiceBeamNum : UInt8 := 0x04

/-- `FPGA_MSG_PHASE_RESTORE`. -/
def msgPhaseRestore : UInt8 := 0x05

/-- `FPGA_MSG_CALIBRATION`. -/
def msgCalibration : UInt8 := 0x06

/-- `FPGA_MSG_LOOPBACK`. -/
def msgLoopback : UInt8 := 0x07

/-- `FPGA_MSG_TX_CONTROL`. -/
def msgTxControl : UInt8 := 0x0B

/-- `FPGA_MSG_STATUS_QUERY`. -/
def msgStatusQuery : UInt8 := 0xFF

/-- The boards that `tel_poll_thread` polls. -/
inductive Board
  | v7a
  | v7b1
  | v7b2
deriving DecidableEq, Repr

/-- `FPGA_MSG_TELEMETRY_POLL_V7A` and so on. -/
def Board.msgTelemetryPoll : Board → UInt8
  | .v7a => 0xA1
  | .v7b1 => 0xB1
  | .v7b2 => 0xB2

/-- What the functions that send a command have in common: the message is encoded into a buffer
and sent. -/
def fpgaSend (bufferSize : ℕ) (msg : FpgaMessage) (u : UartTurn) : SendResult × Bytes :=
  match fpgaEncodeMessage msg bufferSize with
  | some frame => u.send frame
  | none => (.errorGeneral, [])

/-- `fpga_send_cpri_mode`.  The names of the functions and of the message ids are crossed. -/
def fpgaSendCpriMode (mode : UInt32) : UartTurn → SendResult × Bytes :=
  fpgaSend 32 ⟨msgCpriConfig, be32 mode.toNat⟩

/-- `fpga_send_cpri_config`. -/
def fpgaSendCpriConfig (config : UInt32) : UartTurn → SendResult × Bytes :=
  fpgaSend 32 ⟨msgCpriMode, be32 config.toNat⟩

/-- `fpga_send_beam_num`: its two messages, of which only the second counts for the result. -/
def fpgaSendBeamNum (cmdBeamNum serviceBeamNum : UInt8) (u u' : UartTurn) : SendResult × Bytes :=
  let (_, written) := fpgaSend 32 ⟨msgCmdBeamNum, [cmdBeamNum]⟩ u
  let (ret, written') := fpgaSend 32 ⟨msgServiceBeamNum, [serviceBeamNum]⟩ u'
  (ret, written ++ written')

/-- `fpga_send_phase_restore`. -/
def fpgaSendPhaseRestore (restoreType : UInt32) : UartTurn → SendResult × Bytes :=
  fpgaSend 32 ⟨msgPhaseRestore, be32 restoreType.toNat⟩

/-- `fpga_send_calibration`. -/
def fpgaSendCalibration (calibParams : UInt32) : UartTurn → SendResult × Bytes :=
  fpgaSend 32 ⟨msgCalibration, be32 calibParams.toNat⟩

/-- `fpga_send_loopback`. -/
def fpgaSendLoopback (loopbackType : UInt8) : UartTurn → SendResult × Bytes :=
  fpgaSend 32 ⟨msgLoopback, [loopbackType]⟩

/-- `fpga_send_tx_control`. -/
def fpgaSendTxControl (txEnable : UInt8) : UartTurn → SendResult × Bytes :=
  fpgaSend 32 ⟨msgTxControl, [txEnable]⟩

/-- What the antenna is told: the message ids with their arguments. -/
inductive FpgaCommand
  | cpriMode (mode : UInt32)
  | cpriConfig (config : UInt32)
  | cmdBeamNum (n : UInt8)
  | serviceBeamNum (n : UInt8)
  | phaseRestore (restoreType : UInt32)
  | calibration (calibParams : UInt32)
  | loopback (loopbackType : UInt8)
  | freqBand (dlFreq ulFreq bandwidth : UInt32)
  | txControl (txEnable : UInt8)
  | statusQuery
  | telemetryPoll (board : Board)
deriving DecidableEq, Repr

namespace FpgaCommand

/-- The message of a command. -/
def message : FpgaCommand → FpgaMessage
  | cpriMode mode => ⟨msgCpriMode, be32 mode.toNat⟩
  | cpriConfig config => ⟨msgCpriConfig, be32 config.toNat⟩
  | cmdBeamNum n => ⟨msgCmdBeamNum, [n]⟩
  | serviceBeamNum n => ⟨msgServiceBeamNum, [n]⟩
  | phaseRestore restoreType => ⟨msgPhaseRestore, be32 restoreType.toNat⟩
  | calibration calibParams => ⟨msgCalibration, be32 calibParams.toNat⟩
  | loopback loopbackType => ⟨msgLoopback, [loopbackType]⟩
  | freqBand dlFreq ulFreq bandwidth => ⟨msgFreqBand, freqBandPayload dlFreq ulFreq bandwidth⟩
  | txControl txEnable => ⟨msgTxControl, [txEnable]⟩
  | statusQuery => ⟨msgStatusQuery, [0]⟩
  | telemetryPoll board => ⟨board.msgTelemetryPoll, [0]⟩

/-- The frame of a command. -/
def frame (c : FpgaCommand) : Bytes := frameOf c.message

/-- The code that sends a command: one of the functions above, or a part of `fpga_send_beam_num`,
`uart_poll_thread` or `tel_poll_thread`. -/
def send : FpgaCommand → UartTurn → SendResult × Bytes
  | cpriMode mode => fpgaSendCpriConfig mode
  | cpriConfig config => fpgaSendCpriMode config
  | cmdBeamNum n => fpgaSend 32 ⟨msgCmdBeamNum, [n]⟩
  | serviceBeamNum n => fpgaSend 32 ⟨msgServiceBeamNum, [n]⟩
  | phaseRestore restoreType => fpgaSendPhaseRestore restoreType
  | calibration calibParams => fpgaSendCalibration calibParams
  | loopback loopbackType => fpgaSendLoopback loopbackType
  | freqBand dlFreq ulFreq bandwidth => fun u =>
    let r := fpgaSendFreqBand u.client dlFreq ulFreq bandwidth u.outcomes
    (r.1.getD .errorGeneral, r.2)
  | txControl txEnable => fpgaSendTxControl txEnable
  | statusQuery => fpgaSend 16 ⟨msgStatusQuery, [0]⟩
  | telemetryPoll board => fpgaSend 16 ⟨board.msgTelemetryPoll, [0]⟩

/-- The frequencies are below 12.8 GHz, so that they are not cut. -/
def InRange : FpgaCommand → Prop
  | freqBand dlFreq ulFreq _ => dlFreq.toNat < 12800000 ∧ ulFreq.toNat < 12800000
  | _ => True

instance (c : FpgaCommand) : Decidable c.InRange :=
  match c with
  | freqBand .. => inferInstanceAs (Decidable (_ ∧ _))
  | cpriMode _ | cpriConfig _ | cmdBeamNum _ | serviceBeamNum _ | phaseRestore _ | calibration _
  | loopback _ | txControl _ | statusQuery | telemetryPoll _ => inferInstanceAs (Decidable True)

end FpgaCommand

lemma fpgaSend_of_le {bufferSize : ℕ} {msg : FpgaMessage} (u : UartTurn)
    (h : msg.payload.length + 6 ≤ bufferSize) :
    fpgaSend bufferSize msg u = u.send (frameOf msg) := by
  rw [fpgaSend, fpgaEncodeMessage, if_neg (by omega)]

/-- Every command fits the buffer of the code that sends it. -/
lemma FpgaCommand.send_eq (c : FpgaCommand) (u : UartTurn) : c.send u = u.send c.frame := by
  cases c with
  | freqBand dlFreq ulFreq bandwidth =>
    simp only [FpgaCommand.send, fpgaSendFreqBand_eq]
    rfl
  | _ =>
    simp only [FpgaCommand.send, fpgaSendCpriMode, fpgaSendCpriConfig, fpgaSendPhaseRestore,
      fpgaSendCalibration, fpgaSendLoopback, fpgaSendTxControl]
    exact fpgaSend_of_le u (Nat.le_of_ble_eq_true rfl)

lemma fpgaSendBeamNum_eq (cmdBeamNum serviceBeamNum : UInt8) (u u' : UartTurn) :
    fpgaSendBeamNum cmdBeamNum serviceBeamNum u u' =
      (((FpgaCommand.serviceBeamNum serviceBeamNum).send u').1,
        ((FpgaCommand.cmdBeamNum cmdBeamNum).send u).2 ++
          ((FpgaCommand.serviceBeamNum serviceBeamNum).send u').2) := rfl

/-! ### Reading the line -/

/-- How the frames lie on the line: the length field counts the payload. -/
def commandFormat : FrameFormat UInt8 where
  header := 4
  size xs := 6 + (xs.getD 3 0).toNat
  size_append xs ys h := by
    rw [List.getD_eq_getElem?_getD, List.getD_eq_getElem?_getD,
      List.getElem?_append_left (by omega)]

/-- The message in a frame. -/
def messageOf (frame : Bytes) : FpgaMessage where
  msgId := frame.getD 2 0
  payload := slice frame 4 (frame.length - 6)

/-- What a message tells. -/
def readCommand (msg : FpgaMessage) : Option FpgaCommand :=
  let byte := msg.payload.getD 0 0
  let word (offset : ℕ) := beNat (slice msg.payload offset 4)
  if msg.msgId = msgCpriMode then some (.cpriMode (.ofNat (word 0)))
  else if msg.msgId = msgCpriConfig then some (.cpriConfig (.ofNat (word 0)))
  else if msg.msgId = msgCmdBeamNum then some (.cmdBeamNum byte)
  else if msg.msgId = msgServiceBeamNum then some (.serviceBeamNum byte)
  else if msg.msgId = msgPhaseRestore then some (.phaseRestore (.ofNat (word 0)))
  else if msg.msgId = msgCalibration then some (.calibration (.ofNat (word 0)))
  else if msg.msgId = msgLoopback then some (.loopback byte)
  else if msg.msgId = msgFreqBand then
    some (.freqBand (.ofNat (fpgaDecodeFrequency (word 0))) (.ofNat (fpgaDecodeFrequency (word 8)))
      (.ofNat (word 4)))
  else if msg.msgId = msgTxControl then some (.txControl byte)
  else if msg.msgId = msgStatusQuery then some .statusQuery
  else if msg.msgId = Board.v7a.msgTelemetryPoll then some (.telemetryPoll .v7a)
  else if msg.msgId = Board.v7b1.msgTelemetryPoll then some (.telemetryPoll .v7b1)
  else if msg.msgId = Board.v7b2.msgTelemetryPoll then some (.telemetryPoll .v7b2)
  else none

/-- The commands on the line. -/
def commandsOn (line : Bytes) : List FpgaCommand :=
  (commandFormat.cut line).filterMap fun frame => readCommand (messageOf frame)

/-- What some calls, one after the other, write to the line. -/
def lineOf (calls : List (FpgaCommand × UartTurn)) : Bytes :=
  calls.flatMap fun k => (k.1.send k.2).2

/-- The commands whose calls succeed. -/
def sent (calls : List (FpgaCommand × UartTurn)) : List FpgaCommand :=
  (calls.filter fun k => (k.1.send k.2).1 = .success).map Prod.fst

lemma ofNat_beNat_be32 (n : UInt32) : UInt32.ofNat (beNat (be32 n.toNat)) = n := by
  rw [beNat_be32, Nat.mod_eq_of_lt n.toNat_lt, UInt32.ofNat_toNat]

/-- A command is read back. -/
lemma readCommand_message {c : FpgaCommand} (h : c.InRange) : readCommand c.message = some c := by
  cases c with
  | freqBand dlFreq ulFreq bandwidth =>
    obtain ⟨hdl, hbw, hul⟩ := freqBandPayload_words dlFreq ulFreq bandwidth
    set payload := freqBandPayload dlFreq ulFreq bandwidth
    have hread : readCommand ⟨msgFreqBand, payload⟩ = some (.freqBand
        (.ofNat (fpgaDecodeFrequency (beNat (slice payload 0 4))))
        (.ofNat (fpgaDecodeFrequency (beNat (slice payload 8 4))))
        (.ofNat (beNat (slice payload 4 4)))) := rfl
    have hfreq : ∀ {freq : UInt32} {n : ℕ}, n = fpgaEncodeFrequency freq.toNat →
        freq.toNat < 12800000 → UInt32.ofNat (fpgaDecodeFrequency n) = freq := by
      rintro freq _ rfl hlt
      rw [fpgaDecodeFrequency_encode_eq_iff.2 hlt, UInt32.ofNat_toNat]
    have hwidth : UInt32.ofNat (beNat (slice payload 4 4)) = bandwidth := by
      rw [hbw]
      exact UInt32.ofNat_toNat
    exact hread.trans (by rw [hfreq hdl h.1, hfreq hul h.2, hwidth])
  | cpriMode n => exact congrArg (some ∘ FpgaCommand.cpriMode) (ofNat_beNat_be32 n)
  | cpriConfig n => exact congrArg (some ∘ FpgaCommand.cpriConfig) (ofNat_beNat_be32 n)
  | phaseRestore n => exact congrArg (some ∘ FpgaCommand.phaseRestore) (ofNat_beNat_be32 n)
  | calibration n => exact congrArg (some ∘ FpgaCommand.calibration) (ofNat_beNat_be32 n)
  | telemetryPoll board => cases board <;> rfl
  | _ => rfl

/-- A frame names its length. -/
lemma isFrame_frame (c : FpgaCommand) : commandFormat.IsFrame c.frame := by
  cases c with
  | telemetryPoll board => cases board <;> exact ⟨Nat.le_of_ble_eq_true rfl, rfl⟩
  | _ => exact ⟨Nat.le_of_ble_eq_true rfl, rfl⟩

lemma messageOf_frame (c : FpgaCommand) : messageOf c.frame = c.message := by
  have hlen : c.frame.length - 6 = c.message.payload.length := by
    simp only [FpgaCommand.frame, frameOf, be16, List.length_append, List.length_cons,
      List.length_nil]
    omega
  rw [messageOf, hlen]
  exact congrArg (FpgaMessage.mk c.message.msgId) (payload_frameOf c.message)

lemma FpgaCommand.frame_pos (c : FpgaCommand) : 0 < c.frame.length :=
  lt_of_lt_of_le (by decide) (isFrame_frame c).header_le

/-- A call that takes all or nothing writes the frame of its command, or nothing. -/
lemma send_allOrNothing {c : FpgaCommand} {u : UartTurn} (h : u.AllOrNothing c.frame) :
    c.send u = (.success, c.frame) ∨ c.send u = (.errorGeneral, []) := by
  have hpos := c.frame_pos
  rw [c.send_eq, u.send_eq (List.ne_nil_of_length_pos hpos)]
  rcases h with hnone | hall
  · rw [hnone, if_neg (by omega), List.take_zero]
    exact .inr rfl
  · rw [if_pos hall, List.take_of_length_le hall]
    exact .inl rfl

/-- A call that succeeds has written the frame. -/
lemma FpgaCommand.send_of_success {c : FpgaCommand} {u : UartTurn} (h : (c.send u).1 = .success) :
    c.send u = (.success, c.frame) := by
  rw [c.send_eq, u.send_eq (List.ne_nil_of_length_pos c.frame_pos)] at h ⊢
  by_cases hle : c.frame.length ≤ u.taken
  · rw [if_pos hle, List.take_of_length_le hle]
  · rw [if_neg hle] at h
    cases h

lemma sent_cons (k : FpgaCommand × UartTurn) (calls : List (FpgaCommand × UartTurn)) :
    sent (k :: calls) = if (k.1.send k.2).1 = .success then k.1 :: sent calls else sent calls := by
  rw [sent, List.filter_cons]
  by_cases hk : (k.1.send k.2).1 = .success
  · simp [hk, sent]
  · simp [hk, sent]

lemma sent_append (calls calls' : List (FpgaCommand × UartTurn)) :
    sent (calls ++ calls') = sent calls ++ sent calls' := by
  rw [sent, List.filter_append, List.map_append, sent, sent]

/-- What some calls write that take all or nothing: the frames of the commands that are sent. -/
lemma lineOf_eq {calls : List (FpgaCommand × UartTurn)}
    (h : ∀ k ∈ calls, k.2.AllOrNothing k.1.frame) :
    lineOf calls = ((sent calls).map FpgaCommand.frame).flatten := by
  induction calls with
  | nil => rfl
  | cons k calls ih =>
    have hrest := ih fun j hj => h j (List.mem_cons_of_mem k hj)
    rw [lineOf, List.flatMap_cons, ← lineOf, hrest, sent_cons]
    rcases send_allOrNothing (h k List.mem_cons_self) with hk | hk
    · rw [hk, if_pos rfl, List.map_cons, List.flatten_cons]
    · rw [hk, if_neg nofun, List.nil_append]

/-- The frames on a line, with the beginning of another one behind them, are read back. -/
lemma commandsOn_flatten_append (cs : List FpgaCommand) (hcs : ∀ c ∈ cs, c.InRange) {p : Bytes}
    (hp : ¬ commandFormat.HasFrame p) :
    commandsOn ((cs.map FpgaCommand.frame).flatten ++ p) = cs := by
  have hframes : ∀ f ∈ cs.map FpgaCommand.frame, commandFormat.IsFrame f ∧ 0 < f.length := by
    intro f hf
    obtain ⟨c, -, rfl⟩ := List.mem_map.1 hf
    exact ⟨isFrame_frame c, c.frame_pos⟩
  rw [commandsOn, FrameFormat.cut_flatten_append hframes hp, List.filterMap_map]
  calc cs.filterMap ((fun frame => readCommand (messageOf frame)) ∘ FpgaCommand.frame)
      = cs.filterMap some := List.filterMap_congr fun c hc => by
        rw [Function.comp_apply, messageOf_frame, readCommand_message (hcs c hc)]
    _ = cs := List.filterMap_some

lemma not_hasFrame_nil : ¬ commandFormat.HasFrame [] := fun h => absurd h.1 (by decide)

lemma inRange_of_mem_sent {calls : List (FpgaCommand × UartTurn)}
    (h : ∀ k ∈ calls, k.1.InRange) : ∀ c ∈ sent calls, c.InRange := by
  intro c hc
  obtain ⟨k, hk, rfl⟩ := List.mem_map.1 hc
  exact h k (List.mem_of_mem_filter hk)

/-- Calls that take all or nothing leave whole frames on the line. -/
lemma commandsOn_of_allOrNothing {calls : List (FpgaCommand × UartTurn)}
    (hrange : ∀ k ∈ calls, k.1.InRange) (hwhole : ∀ k ∈ calls, k.2.AllOrNothing k.1.frame) :
    commandsOn (lineOf calls) = sent calls := by
  have hread := commandsOn_flatten_append _ (inRange_of_mem_sent hrange) not_hasFrame_nil
  rwa [List.append_nil, ← lineOf_eq hwhole] at hread

/-- The line tells which commands were sent, in their order, whichever threads sent them: each call
but the last has written its frame or nothing. -/
theorem commandsOn_lineOf {calls : List (FpgaCommand × UartTurn)}
    (hrange : ∀ k ∈ calls, k.1.InRange)
    (hwhole : ∀ k ∈ calls.dropLast, k.2.AllOrNothing k.1.frame) :
    commandsOn (lineOf calls) = sent calls := by
  induction calls using List.reverseRecOn with
  | nil => exact commandsOn_of_allOrNothing hrange (by simp)
  | append_singleton calls k _ =>
    rw [List.dropLast_concat] at hwhole
    have hk := k.2.send_eq (List.ne_nil_of_length_pos k.1.frame_pos)
    by_cases hle : k.1.frame.length ≤ k.2.taken
    -- the last call is a whole one, too
    · refine commandsOn_of_allOrNothing hrange fun j hj => ?_
      rcases List.mem_append.1 hj with hj | hj
      · exact hwhole j hj
      · rw [List.mem_singleton.1 hj]
        exact .inr hle
    -- the last call leaves the beginning of its frame
    · have hcalls := inRange_of_mem_sent fun k hk => hrange k (List.mem_append_left _ hk)
      rw [lineOf, List.flatMap_append, ← lineOf, lineOf_eq hwhole, List.flatMap_singleton,
        sent_append, sent_cons, k.1.send_eq, hk, if_neg hle, if_neg nofun]
      refine (commandsOn_flatten_append _ hcalls ?_).trans (List.append_nil _).symm
      refine (isFrame_frame k.1).not_hasFrame (List.take_prefix _ _) ?_
      rw [List.length_take]
      omega

/-- A UART that takes as many bytes as it can until it fails. -/
def UartTurn.upTo (n : ℕ) : UartTurn :=
  ⟨⟨some 5, .opened⟩, List.replicate n (.wrote 1) ++ [.error], .inl (by simp)⟩

/-- A frequency is set, a status query fails, and the power goes while the transmitter is switched
on. -/
def cutCalls : List (FpgaCommand × UartTurn) :=
  [(.freqBand 2150000 1950000 20, .upTo 18), (.statusQuery, .upTo 0), (.txControl 1, .upTo 3)]

theorem commandsOn_lineOf_cutCalls :
    commandsOn (lineOf cutCalls) = [.freqBand 2150000 1950000 20] := by
  have hrange : ∀ k ∈ cutCalls, k.1.InRange := by decide
  exact (commandsOn_lineOf hrange (by decide)).trans (by decide)

end AntennaMgmt.Fpga
