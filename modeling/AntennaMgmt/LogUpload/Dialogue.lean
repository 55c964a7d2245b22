import AntennaMgmt.Handlers.Actions
import AntennaMgmt.LogUpload.StorePath
import AntennaMgmt.LogUpload.Worker

/-!
# The dialogue about uploads

The receive thread acknowledges the requests one after the other, and the upload thread reports its
result.  `tcp_client_send` is given one acknowledgement for each request, and behind an acceptance
one result with the ids of the request before the next acceptance.  Whether it gets them to the base
band unit is not looked at: when the connection fails, an answer is lost.
-/

namespace AntennaMgmt.LogUpload

open AntennaMgmt.Lib AntennaMgmt.Cpri AntennaMgmt.Handlers AntennaMgmt.Shell

/-! ### Messages -/

/-- `MSG_LOG_UPLOAD_REQ_ACK`. -/
def msgLogUploadReqAck : ℕ := 132

/-- `MSG_LOG_UPLOAD_RESULT_IND`. -/
def msgLogUploadResultInd : ℕ := 133

/-- `LOG_UPLOAD_ACK_ACCEPT`. -/
def logUploadAckAccept : UInt8 := 0

/-- `LOG_UPLOAD_ACK_REJECT`. -/
def logUploadAckReject : UInt8 := 1

/-- `LOG_UPLOAD_SUCCESS` and so on. -/
def UploadResult.code : UploadResult → UInt8
  | success => 0
  | fileNotExist => 1
  | failed => 2

/-- A string in a field of the given size that was zero, with a NUL at the end. -/
def charField (size : ℕ) (s : Bytes) : Bytes :=
  s.take (size - 1) ++ List.replicate (size - min (size - 1) s.length) 0

/-- The message of `send_log_upload_ack`. -/
def logUploadAck (reqHeader : CpriHeader) (result : UInt8) : CpriMessage :=
  ⟨answerHeader msgLogUploadReqAck reqHeader, leBytes 2 0x04B5 ++ leBytes 2 5 ++ [result]⟩

/-- The message of `send_log_upload_result`. -/
def logUploadResult (reqHeader : CpriHeader) (result : UploadResult) (storePath fileName : Bytes) :
    CpriMessage :=
  ⟨answerHeader msgLogUploadResultInd reqHeader, leBytes 2 0x04BB ++ leBytes 2 221 ++
    [result.code] ++ charField 200 storePath ++ charField 16 fileName⟩

/-- What `tcp_client_send` is given for a message, if it can be encoded. -/
def encoded (msg : CpriMessage) : Option Bytes :=
  (cpriEncodeMessage msg (List.replicate 2048 0)).map fun r => r.2.take r.1

/-- What the base band unit is told about uploads. -/
inductive UploadMsg
  | ack (header : CpriHeader) (result : UInt8)
  | result (header : CpriHeader) (result : UInt8) (storePath fileName : Bytes)
deriving DecidableEq, Repr

/-- What a message tells about uploads. -/
def readUpload (bytes : Bytes) : Option UploadMsg :=
  let msg := decodeBody bytes
  if msg.header.msgId = msgLogUploadReqAck then some (.ack msg.header (msg.payload.getD 4 0))
  else if msg.header.msgId = msgLogUploadResultInd then
    some (.result msg.header (msg.payload.getD 4 0) ((slice msg.payload 5 200).takeWhile (· ≠ 0))
      ((slice msg.payload 205 16).takeWhile (· ≠ 0)))
  else none

/-! ### The threads -/

/-- Where `log_upload_handle_request` stands: before the checks; before the flag is taken down for a
request that does not pass them, and before it is refused; before the task is filled in, and before
the request is accepted; before the thread is created; and, if it cannot be, before the flag is
taken down and before that is reported. -/
inductive RecvPc
  | idle
  | checking (req : LogUploadRequest)
  | clearing (req : LogUploadRequest)
  | refusing (req : LogUploadRequest)
  | preparing (req : LogUploadRequest)
  | acking (req : LogUploadRequest)
  | ackFailed
  | creating (req : LogUploadRequest)
  | clearFailed (req : LogUploadRequest)
  | reporting (req : LogUploadRequest)
deriving DecidableEq, Repr

/-- Where the upload thread stands: before its work; before `g_upload_stopping` is read, and before
the result is sent; and before the flag is taken down. -/
inductive WorkerPc
  | none
  | working
  | ending (o : Outcome)
  | sending (o : Outcome)
  | clearing
deriving DecidableEq, Repr

/-- The module with its two threads, what it has given to `tcp_client_send`, what the server has
got, and the requests that have come. -/
structure UploadWorld where
  task : LogUploadTask
  inProgress : Bool
  stopping : Bool
  recv : RecvPc
  worker : WorkerPc
  tmp : TmpDir
  sent : List Bytes
  server : List (Bytes × Archive)
  arrived : List LogUploadRequest

/-- The steps: a request comes; the receive thread goes on, and `pthread_create` succeeds or not;
the upload thread goes on; `log_upload_destroy`. -/
inductive WorldAct
  | arrive (req : LogUploadRequest)
  | recv (createOk : Bool)
  | worker (e : UploadEnv)
  | destroy

namespace UploadWorld

/-- After `log_upload_init`. -/
def init (tmp : TmpDir) : UploadWorld := ⟨.zero, false, false, .idle, .none, tmp, [], [], []⟩

/-- A message is given to `tcp_client_send`, whose result is not looked at. -/
def send (w : UploadWorld) (msg : CpriMessage) : UploadWorld :=
  { w with sent := w.sent ++ (encoded msg).toList }

/-- The first region of `log_upload_handle_request`. -/
def arrive (w : UploadWorld) (req : LogUploadRequest) : UploadWorld :=
  if w.inProgress then { w with arrived := w.arrived ++ [req], recv := .refusing req }
  else { w with arrived := w.arrived ++ [req], inProgress := true, recv := .checking req }

/-- The next step of `log_upload_handle_request`. -/
def recvNext (config : UploadConfig) (w : UploadWorld) (createOk : Bool) : Option UploadWorld :=
  match w.recv with
  | .idle => none
  | .checking req =>
    if req.payloadLen < 204 then some { w with recv := .clearing req }
    else if ¬ Version.shellSafeRelpath req.storePath then some { w with recv := .clearing req }
    else some { w with recv := .preparing req }
  | .clearing req => some { w with inProgress := false, recv := .refusing req }
  | .refusing req => some { w.send (logUploadAck req.header logUploadAckReject) with recv := .idle }
  | .preparing req => some { w with task := prepareTask config req, recv := .acking req }
  | .acking req =>
    let w := w.send (logUploadAck req.header logUploadAckAccept)
    some { w with recv :=
      if (encoded (logUploadAck req.header logUploadAckAccept)).isSome then .creating req
      else .ackFailed }
  | .ackFailed => some { w with inProgress := false, recv := .idle }
  | .creating req =>
    if createOk then some { w with worker := .working, recv := .idle }
    else some { w with recv := .clearFailed req }
  | .clearFailed req => some { w with inProgress := false, recv := .reporting req }
  | .reporting req =>
    some { w.send (logUploadResult req.header .failed w.task.storePath []) with recv := .idle }

/-- The next step of `log_upload_thread_func`. -/
def workerNext (w : UploadWorld) (e : UploadEnv) : Option UploadWorld :=
  match w.worker with
  | .none => none
  | .working =>
    let (o, tmp) := logUploadThread e w.task w.tmp
    some { w with tmp := tmp, server := w.server ++ o.upload.toList, worker := .ending o }
  | .ending o => some { w with worker := if w.stopping then .clearing else .sending o }
  | .sending o =>
    let w := w.send (logUploadResult w.task.reqHeader o.result w.task.storePath o.fileName)
    some { w with worker := .clearing }
  | .clearing => some { w with inProgress := false, worker := .none }

/-- The step function. -/
def next (config : UploadConfig) (w : UploadWorld) : WorldAct → Option UploadWorld
  | .arrive req => if w.recv = .idle then some (w.arrive req) else none
  | .recv createOk => w.recvNext config createOk
  | .worker e => w.workerNext e
  | .destroy => some { w with stopping := true }

/-- One step. -/
def Step (config : UploadConfig) (w : UploadWorld) (a : WorldAct) (w' : UploadWorld) : Prop :=
  next config w a = some w'

/-- The messages about uploads among those that were given to `tcp_client_send`. -/
def told (w : UploadWorld) : List UploadMsg := w.sent.filterMap readUpload

end UploadWorld

/-! ### The gate -/

/-- Where the call stands at the gate. -/
def RecvPc.toPc : RecvPc → UploadPc
  | idle | refusing _ | reporting _ => .idle
  | checking req => .checking req
  | preparing req => .preparing req
  | acking req => .acking req
  | creating req => .creating req
  | clearing _ | ackFailed | clearFailed _ => .givingUp

/-- The thread has not ended. -/
def WorkerPc.active : WorkerPc → Bool
  | none => false
  | _ => true

namespace UploadWorld

variable {config : UploadConfig} {w w' : UploadWorld} {a : WorldAct}

/-- The module without its messages and its work. -/
def toSys (w : UploadWorld) : UploadSys Unit :=
  ⟨⟨w.task, w.inProgress⟩, fun _ => w.recv.toPc, w.worker.active⟩

lemma inactive_of_holds (h : (UploadSys.gate w.toSys).Inv) (hrecv : w.recv.toPc.holds = true) :
    w.worker.active = false := by
  refine Bool.eq_false_iff.2 fun hactive => ?_
  cases h.unique none (some ()) hactive hrecv

end UploadWorld

/-! ### Reading the messages -/

lemma encoded_eq {msg : CpriMessage} (h : cpriHeaderLen + msg.payload.length ≤ 2048) :
    encoded msg = some (answerBytes msg) := by
  rw [encoded, cpriEncodeMessage_of_le (by omega) (by rwa [List.length_replicate]), Option.map_some]
  refine congrArg some (List.take_left' ?_)
  rw [List.length_append, length_encodeHeader]

lemma length_charField {size : ℕ} (hsize : 0 < size) (s : Bytes) :
    (charField size s).length = size := by
  rw [charField, List.length_append, List.length_take, List.length_replicate]
  omega

/-- A string without a NUL is read back from its field. -/
lemma takeWhile_charField {size : ℕ} {s : Bytes} (hnul : 0 ∉ s) (hlen : s.length < size) :
    (charField size s).takeWhile (· ≠ 0) = s := by
  rw [charField, List.take_of_length_le (by omega), Nat.min_eq_right (by omega)]
  obtain ⟨n, hn⟩ : ∃ n, size - s.length = n + 1 := ⟨size - s.length - 1, by omega⟩
  rw [hn, List.replicate_succ]
  exact takeWhile_ne_append hnul _

/-- The acknowledgement as the base band unit reads it when it gets it. -/
def ackOf (req : LogUploadRequest) (result : UInt8) : UploadMsg :=
  .ack { answerHeader msgLogUploadReqAck req.header with msgLength := 20 } result

/-- The result as the base band unit reads it when it gets it. -/
def resultOf (config : UploadConfig) (req : LogUploadRequest) (o : Outcome) : UploadMsg :=
  .result { answerHeader msgLogUploadResultInd req.header with msgLength := 236 } o.result.code
    (prepareTask config req).storePath o.fileName

lemma encoded_ack (header : CpriHeader) (result : UInt8) :
    encoded (logUploadAck header result) = some (answerBytes (logUploadAck header result)) :=
  encoded_eq (Nat.le_of_ble_eq_true rfl)

lemma read_ack {req : LogUploadRequest} (hserial : req.header.serialNum < 2 ^ 32)
    (result : UInt8) :
    readUpload (answerBytes (logUploadAck req.header result)) = some (ackOf req result) := by
  have hid : (logUploadAck req.header result).header.msgId < 2 ^ 32 :=
    (by decide : msgLogUploadReqAck < 2 ^ 32)
  have hread : decodeBody (answerBytes (logUploadAck req.header result)) = _ :=
    decodeBody_encode ⟨hid, hserial⟩ (Nat.le_of_ble_eq_true rfl)
  rw [readUpload, hread]
  rfl

/-- What an upload comes to: the thread cannot be created, or it does its work. -/
def OutcomeOf (config : UploadConfig) (req : LogUploadRequest) (o : Outcome) : Prop :=
  o = ⟨.failed, [], none⟩ ∨ ∃ e tmp, o = (logUploadThread e (prepareTask config req) tmp).1

/-- The name in a report is a string that fits its field. -/
lemma OutcomeOf.fileName {config : UploadConfig} {req : LogUploadRequest} {o : Outcome}
    (h : OutcomeOf config req o) : 0 ∉ o.fileName ∧ o.fileName.length < 16 := by
  rcases h with rfl | ⟨e, tmp, rfl⟩
  · simp
  rcases fileName_logUploadThread e (prepareTask config req) tmp with hname | hname <;> rw [hname]
  · simp
  · exact ⟨zero_not_mem_remoteName _, by rw [length_remoteName]; decide⟩

lemma storePath_prepareTask (config : UploadConfig) (req : LogUploadRequest) :
    0 ∉ (prepareTask config req).storePath ∧ (prepareTask config req).storePath.length < 200 := by
  refine ⟨fun h => not_mem_takeWhile_ne 0 _ (List.mem_of_mem_take h), ?_⟩
  exact (List.length_take_le _ _).trans_lt (by decide)

lemma encoded_result (header : CpriHeader) (result : UploadResult) (storePath fileName : Bytes) :
    encoded (logUploadResult header result storePath fileName) =
      some (answerBytes (logUploadResult header result storePath fileName)) := by
  refine encoded_eq ?_
  simp only [logUploadResult, List.length_append, length_charField (by decide : 0 < 200),
    length_charField (by decide : 0 < 16), length_leBytes, List.length_singleton]
  decide

/-- A field between others. -/
lemma slice_middle {xs ys zs : Bytes} {i w : ℕ} (hx : xs.length = i) (hy : ys.length = w) :
    slice (xs ++ ys ++ zs) i w = ys := by
  rw [slice, List.append_assoc, List.drop_left' hx, List.take_left' hy]

lemma read_result {config : UploadConfig} {req : LogUploadRequest} {o : Outcome}
    (hserial : req.header.serialNum < 2 ^ 32) (ho : OutcomeOf config req o) :
    readUpload (answerBytes (logUploadResult req.header o.result
      (prepareTask config req).storePath o.fileName)) = some (resultOf config req o) := by
  obtain ⟨hpathNul, hpathLen⟩ := storePath_prepareTask config req
  obtain ⟨hnameNul, hnameLen⟩ := ho.fileName
  set path := (prepareTask config req).storePath
  set msg := logUploadResult req.header o.result path o.fileName with hmsg
  have hlen : cpriHeaderLen + msg.payload.length = 236 := by
    simp only [hmsg, logUploadResult, List.length_append, length_charField (by decide : 0 < 200),
      length_charField (by decide : 0 < 16), length_leBytes, List.length_singleton]
    rfl
  have hread : decodeBody (answerBytes msg) =
      ⟨{ msg.header with msgLength := 236 }, msg.payload⟩ := by
    rw [answerBytes, hlen]
    exact decodeBody_encode ⟨(by decide : msgLogUploadResultInd < 2 ^ 32), hserial⟩ (by decide)
  have hfront : (leBytes 2 0x04BB ++ leBytes 2 221 ++ [o.result.code]).length = 5 := by
    simp only [List.length_append, length_leBytes, List.length_singleton]
  have hpath : slice msg.payload 5 200 = charField 200 path :=
    slice_middle hfront (length_charField (by decide) path)
  have hname : slice msg.payload 205 16 = charField 16 o.fileName := by
    have hbefore : (leBytes 2 0x04BB ++ leBytes 2 221 ++ [o.result.code] ++
        charField 200 path).length = 205 := by
      rw [List.length_append, hfront, length_charField (by decide)]
    have hend : slice (_ ++ charField 16 o.fileName ++ []) 205 16 = charField 16 o.fileName :=
      slice_middle hbefore (length_charField (by decide) o.fileName)
    rwa [List.append_nil] at hend
  rw [readUpload, hread]
  dsimp only
  rw [hpath, hname, takeWhile_charField hpathNul hpathLen, takeWhile_charField hnameNul hnameLen]
  rfl

/-! ### The dialogue -/

/-- The dialogue about uploads in what is given to `tcp_client_send`: the requests acknowledged,
the messages, what its server gets, and the request whose result is open.  Only a request that
passes the checks is accepted, and only when no result is open; a result may be missing once the
module is stopping. -/
inductive Dialogue (config : UploadConfig) (stopping : Bool) : List LogUploadRequest →
    List UploadMsg → List (Bytes × Archive) → Option LogUploadRequest → Prop
  | start : Dialogue config stopping [] [] [] none
  | refuse {rs : List LogUploadRequest} {ms : List UploadMsg} {us : List (Bytes × Archive)}
      {cur : Option LogUploadRequest} (req : LogUploadRequest) :
      Dialogue config stopping rs ms us cur →
      Dialogue config stopping (rs ++ [req]) (ms ++ [ackOf req logUploadAckReject]) us cur
  | accept {rs : List LogUploadRequest} {ms : List UploadMsg} {us : List (Bytes × Archive)}
      {req : LogUploadRequest} : req.Checked → Dialogue config stopping rs ms us none →
      Dialogue config stopping (rs ++ [req]) (ms ++ [ackOf req logUploadAckAccept]) us (some req)
  | report {rs : List LogUploadRequest} {ms : List UploadMsg} {us : List (Bytes × Archive)}
      {req : LogUploadRequest} {o : Outcome} : OutcomeOf config req o →
      Dialogue config stopping rs ms us (some req) →
      Dialogue config stopping rs (ms ++ [resultOf config req o]) (us ++ o.upload.toList) none
  | skip {rs : List LogUploadRequest} {ms : List UploadMsg} {us : List (Bytes × Archive)}
      {req : LogUploadRequest} {o : Outcome} : stopping = true → OutcomeOf config req o →
      Dialogue config stopping rs ms us (some req) →
      Dialogue config stopping rs ms (us ++ o.upload.toList) none

variable {config : UploadConfig} {stopping : Bool} {rs : List LogUploadRequest}
  {ms : List UploadMsg} {us : List (Bytes × Archive)} {cur : Option LogUploadRequest}

lemma Dialogue.stop (h : Dialogue config stopping rs ms us cur) :
    Dialogue config true rs ms us cur := by
  induction h with
  | start => exact .start
  | refuse req _ ih => exact ih.refuse req
  | accept hchecked _ ih => exact ih.accept hchecked
  | report ho _ ih => exact ih.report ho
  | skip _ ho _ ih => exact ih.skip rfl ho

/-- The request whose result is open has been acknowledged. -/
lemma Dialogue.mem_of_open (h : Dialogue config stopping rs ms us cur) {req : LogUploadRequest}
    (hcur : cur = some req) : req ∈ rs := by
  induction h with
  | start => cases hcur
  | refuse _ _ ih => exact List.mem_append_left _ (ih hcur)
  | accept =>
    obtain rfl := Option.some.inj hcur
    exact List.mem_append_right _ List.mem_cons_self
  | report => cases hcur
  | skip => cases hcur

/-- The request whose call has not acknowledged it yet. -/
def RecvPc.unanswered : RecvPc → Option LogUploadRequest
  | checking req | clearing req | refusing req | preparing req | acking req => some req
  | _ => none

/-- The request that the call has accepted and not left to the upload thread. -/
def RecvPc.accepted : RecvPc → Option LogUploadRequest
  | creating req | clearFailed req | reporting req => some req
  | _ => none

/-- The upload thread has not sent its result yet. -/
def WorkerPc.waits : WorkerPc → Bool
  | working | ending _ | sending _ => true
  | _ => false

/-- What the work of the upload thread has come to. -/
def WorkerPc.outcome : WorkerPc → Option Outcome
  | ending o | sending o => some o
  | _ => Option.none

namespace UploadWorld

/-- Whose result is open. -/
inductive Open (config : UploadConfig) (w : UploadWorld) : Option LogUploadRequest → Prop
  | nobody : w.recv.accepted = none → w.worker.waits = false → Open config w none
  | call {req : LogUploadRequest} : w.recv.accepted = some req → w.worker.waits = false →
      w.task = prepareTask config req → Open config w (some req)
  | thread {req : LogUploadRequest} : w.recv.accepted = none → w.worker.waits = true →
      w.task = prepareTask config req → (∀ o, w.worker.outcome = some o → OutcomeOf config req o) →
      Open config w (some req)

/-- What has been sent is a dialogue. -/
structure Talks (config : UploadConfig) (w : UploadWorld) (rs : List LogUploadRequest)
    (us : List (Bytes × Archive)) (cur : Option LogUploadRequest) : Prop where
  dialogue : Dialogue config w.stopping rs w.told us cur
  arrived : w.arrived = rs ++ w.recv.unanswered.toList
  server : w.server = us ++ (w.worker.outcome.bind Outcome.upload).toList
  isOpen : Open config w cur
  checked : ∀ req, w.recv = .preparing req ∨ w.recv = .acking req → req.Checked
  prepared : ∀ req, w.recv = .acking req → w.task = prepareTask config req

/-- The headers of the requests come from 32-bit fields. -/
def InRange (w : UploadWorld) : Prop := ∀ req ∈ w.arrived, req.header.serialNum < 2 ^ 32

variable {w w' : UploadWorld}

lemma told_send {msg : CpriMessage} {m : UploadMsg}
    (hencoded : encoded msg = some (answerBytes msg))
    (hread : readUpload (answerBytes msg) = some m) : (w.send msg).told = w.told ++ [m] := by
  rw [told, send, hencoded]
  simp only [Option.toList_some, List.filterMap_append, List.filterMap_cons, hread,
    List.filterMap_nil]
  rfl

lemma told_ack {req : LogUploadRequest} (hserial : req.header.serialNum < 2 ^ 32)
    (result : UInt8) :
    (w.send (logUploadAck req.header result)).told = w.told ++ [ackOf req result] :=
  told_send (encoded_ack _ _) (read_ack hserial result)

/-- Whose result is open depends on the task, on what the call has accepted and on the thread. -/
lemma Open.congr (h : Open config w cur) (htask : w'.task = w.task)
    (hrecv : w'.recv.accepted = w.recv.accepted) (hworker : w'.worker = w.worker) :
    Open config w' cur := by
  cases h with
  | nobody ha hw => exact .nobody (hrecv.trans ha) (by rw [hworker, hw])
  | call ha hw ht => exact .call (hrecv.trans ha) (by rw [hworker, hw]) (htask.trans ht)
  | thread ha hw ht ho =>
    exact .thread (hrecv.trans ha) (by rw [hworker, hw]) (htask.trans ht) (by rwa [hworker])

lemma Open.eq_none (h : Open config w cur) (hrecv : w.recv.accepted = none)
    (hworker : w.worker.waits = false) : cur = none := by
  cases h with
  | nobody => rfl
  | call ha => cases hrecv.symm.trans ha
  | thread _ hw => cases hworker.symm.trans hw

/-- The call holds the request that it has accepted. -/
lemma Open.eq_some (h : Open config w cur) {req : LogUploadRequest}
    (hrecv : w.recv.accepted = some req) :
    cur = some req ∧ w.worker.waits = false ∧ w.task = prepareTask config req := by
  cases h with
  | nobody ha => cases hrecv.symm.trans ha
  | call ha hw ht =>
    obtain rfl := Option.some.inj (hrecv.symm.trans ha)
    exact ⟨rfl, hw, ht⟩
  | thread ha => cases hrecv.symm.trans ha

/-- The upload thread works for the request whose result is open. -/
lemma Open.of_waits (h : Open config w cur) (hworker : w.worker.waits = true) :
    ∃ req, cur = some req ∧ w.recv.accepted = none ∧ w.task = prepareTask config req ∧
      ∀ o, w.worker.outcome = some o → OutcomeOf config req o := by
  cases h with
  | nobody _ hw => cases hworker.symm.trans hw
  | call _ hw => cases hworker.symm.trans hw
  | thread ha _ ht ho => exact ⟨_, rfl, ha, ht, ho⟩

lemma outcome_of_not_waits (h : w.worker.waits = false) : w.worker.outcome = none := by
  cases hworker : w.worker <;> simp [hworker, WorkerPc.waits] at h <;> rfl

lemma waits_of_inactive (h : w.worker.active = false) : w.worker.waits = false := by
  cases hworker : w.worker <;> simp [hworker, WorkerPc.active] at h
  rfl

variable {createOk : Bool}

/-- Steps that leave the messages and the task alone. -/
lemma Talks.quiet (h : Talks config w rs us cur) (hstopping : w'.stopping = w.stopping)
    (htask : w'.task = w.task) (hsent : w'.sent = w.sent) (hserver : w'.server = w.server)
    (hworker : w'.worker = w.worker) (hrecv : w'.recv.accepted = w.recv.accepted)
    (harrived : w'.arrived = rs ++ w'.recv.unanswered.toList)
    (hchecked : ∀ req, w'.recv = .preparing req → req.Checked)
    (hacking : ∀ req, w'.recv ≠ .acking req) : Talks config w' rs us cur where
  dialogue := by
    rw [hstopping, told, hsent]
    exact h.dialogue
  arrived := harrived
  server := by rw [hserver, hworker, h.server]
  isOpen := h.isOpen.congr htask hrecv hworker
  checked req hreq := hreq.elim (hchecked req) fun ha => absurd ha (hacking req)
  prepared req hreq := absurd hreq (hacking req)

/-- The call moves on without a word; only the flag may change. -/
lemma Talks.goto (h : Talks config w rs us cur) {b : Bool} {p : RecvPc}
    (haccepted : p.accepted = w.recv.accepted) (hunanswered : p.unanswered = w.recv.unanswered)
    (hchecked : ∀ req, p = .preparing req → req.Checked) (hacking : ∀ req, p ≠ .acking req) :
    Talks config { w with inProgress := b, recv := p } rs us cur := by
  refine h.quiet rfl rfl rfl rfl rfl haccepted ?_ hchecked hacking
  show w.arrived = rs ++ p.unanswered.toList
  rw [hunanswered]
  exact h.arrived

lemma Talks.arrive (h : Talks config w rs us cur) (hidle : w.recv = .idle)
    (req : LogUploadRequest) : Talks config (w.arrive req) rs us cur := by
  have harrived : w.arrived = rs := by
    have hall := h.arrived
    rw [hidle] at hall
    exact hall.trans (List.append_nil rs)
  rw [UploadWorld.arrive]
  split_ifs
  · refine h.quiet rfl rfl rfl rfl rfl (by rw [hidle]; rfl) ?_ (by simp) (by simp)
    rw [harrived]
    rfl
  · refine h.quiet rfl rfl rfl rfl rfl (by rw [hidle]; rfl) ?_ (by simp) (by simp)
    rw [harrived]
    rfl

/-- Every step of the call continues the dialogue. -/
lemma Talks.recvNext (h : Talks config w rs us cur) (hgate : (UploadSys.gate w.toSys).Inv)
    (hrange : w.InRange) (hstep : w.recvNext config createOk = some w') :
    ∃ rs us cur, Talks config w' rs us cur := by
  rw [UploadWorld.recvNext] at hstep
  cases hrecv : w.recv with
  | idle => simp [hrecv] at hstep
  | checking req =>
    rw [hrecv] at hstep
    dsimp only at hstep
    split_ifs at hstep with hshort hsafe <;> obtain rfl := Option.some.inj hstep
    · exact ⟨rs, us, cur, h.goto (by rw [hrecv]; rfl) (by rw [hrecv]; rfl) (by simp) (by simp)⟩
    · refine ⟨rs, us, cur, h.goto (by rw [hrecv]; rfl) (by rw [hrecv]; rfl) ?_ (by simp)⟩
      rintro _ ⟨⟩
      exact ⟨Nat.not_lt.1 hshort, hsafe⟩
    · exact ⟨rs, us, cur, h.goto (by rw [hrecv]; rfl) (by rw [hrecv]; rfl) (by simp) (by simp)⟩
  | clearing req =>
    rw [hrecv] at hstep
    obtain rfl := Option.some.inj hstep
    exact ⟨rs, us, cur, h.goto (by rw [hrecv]; rfl) (by rw [hrecv]; rfl) (by simp) (by simp)⟩
  | refusing req =>
    rw [hrecv] at hstep
    obtain rfl := Option.some.inj hstep
    have harrived := h.arrived
    rw [hrecv] at harrived
    have hserial : req.header.serialNum < 2 ^ 32 :=
      hrange req (by rw [harrived]; simp [RecvPc.unanswered])
    refine ⟨rs ++ [req], us, cur, ?_, ?_, h.server, ?_, by simp, by simp⟩
    · show Dialogue config w.stopping _
        (w.send (logUploadAck req.header logUploadAckReject)).told _ _
      rw [told_ack hserial]
      exact h.dialogue.refuse req
    · show w.arrived = rs ++ [req] ++ []
      rw [harrived, List.append_nil]
      rfl
    · exact h.isOpen.congr rfl (by rw [hrecv]; rfl) rfl
  | preparing req =>
    have hwaits := waits_of_inactive (inactive_of_holds hgate (by rw [hrecv]; rfl))
    obtain rfl := h.isOpen.eq_none (by rw [hrecv]; rfl) hwaits
    have hchecked := h.checked req (.inl hrecv)
    have harrived := h.arrived
    rw [hrecv] at hstep harrived
    obtain rfl := Option.some.inj hstep
    refine ⟨rs, us, none, h.dialogue, harrived, h.server, .nobody rfl hwaits, ?_, ?_⟩
    · rintro _ (⟨⟨⟩⟩ | ⟨⟨⟩⟩)
      exact hchecked
    · rintro _ ⟨⟩
      rfl
  | acking req =>
    have hwaits := waits_of_inactive (inactive_of_holds hgate (by rw [hrecv]; rfl))
    obtain rfl := h.isOpen.eq_none (by rw [hrecv]; rfl) hwaits
    have hchecked := h.checked req (.inr hrecv)
    have hprepared := h.prepared req hrecv
    have harrived := h.arrived
    rw [hrecv] at hstep harrived
    have hserial : req.header.serialNum < 2 ^ 32 :=
      hrange req (by rw [harrived]; simp [RecvPc.unanswered])
    dsimp only at hstep
    rw [encoded_ack] at hstep
    obtain rfl := Option.some.inj hstep
    refine ⟨rs ++ [req], us, some req, ?_, ?_, h.server, .call rfl hwaits hprepared, by simp,
      by simp⟩
    · show Dialogue config w.stopping _
        (w.send (logUploadAck req.header logUploadAckAccept)).told _ _
      rw [told_ack hserial]
      exact h.dialogue.accept hchecked
    · show w.arrived = rs ++ [req] ++ []
      rw [harrived, List.append_nil]
      rfl
  | ackFailed =>
    rw [hrecv] at hstep
    obtain rfl := Option.some.inj hstep
    exact ⟨rs, us, cur, h.goto (by rw [hrecv]; rfl) (by rw [hrecv]; rfl) (by simp) (by simp)⟩
  | creating req =>
    obtain ⟨rfl, hwaits, htask⟩ := h.isOpen.eq_some (by rw [hrecv]; rfl)
    rw [hrecv] at hstep
    cases createOk with
    | false =>
      obtain rfl := Option.some.inj hstep
      exact ⟨rs, us, some req,
        h.goto (by rw [hrecv]; rfl) (by rw [hrecv]; rfl) (by simp) (by simp)⟩
    | true =>
      have harrived := h.arrived
      have hserver := h.server
      rw [outcome_of_not_waits hwaits] at hserver
      rw [hrecv] at harrived
      obtain rfl := Option.some.inj hstep
      refine ⟨rs, us, some req, h.dialogue, harrived, hserver, .thread rfl rfl htask ?_, by simp,
        by simp⟩
      rintro o ⟨⟩
  | clearFailed req =>
    rw [hrecv] at hstep
    obtain rfl := Option.some.inj hstep
    exact ⟨rs, us, cur, h.goto (by rw [hrecv]; rfl) (by rw [hrecv]; rfl) (by simp) (by simp)⟩
  | reporting req =>
    obtain ⟨rfl, hwaits, htask⟩ := h.isOpen.eq_some (by rw [hrecv]; rfl)
    have harrived := h.arrived
    have hserver := h.server
    rw [outcome_of_not_waits hwaits] at hserver
    rw [hrecv] at hstep harrived
    obtain rfl := Option.some.inj hstep
    have hserial : req.header.serialNum < 2 ^ 32 :=
      hrange req (by rw [harrived]; exact List.mem_append_left _ (h.dialogue.mem_of_open rfl))
    have ho : OutcomeOf config req ⟨.failed, [], none⟩ := .inl rfl
    refine ⟨rs, us ++ [], none, ?_, harrived, ?_, .nobody rfl hwaits, by simp, by simp⟩
    · show Dialogue config w.stopping rs
        (w.send (logUploadResult req.header .failed w.task.storePath [])).told _ _
      rw [htask, told_send (encoded_result _ _ _ _) (read_result hserial ho)]
      exact h.dialogue.report ho
    · show w.server = us ++ [] ++ (w.worker.outcome.bind Outcome.upload).toList
      rw [outcome_of_not_waits hwaits, List.append_nil]
      exact hserver

/-- Every step of the upload thread continues the dialogue. -/
lemma Talks.workerNext (h : Talks config w rs us cur) (hrange : w.InRange) {e : UploadEnv}
    (hstep : w.workerNext e = some w') :
    ∃ rs us cur, Talks config w' rs us cur := by
  rw [UploadWorld.workerNext] at hstep
  cases hworker : w.worker with
  | none => simp [hworker] at hstep
  | working =>
    obtain ⟨req, rfl, hrecv, htask, -⟩ := h.isOpen.of_waits (by rw [hworker]; rfl)
    have hserver := h.server
    obtain ⟨⟨o, tmp⟩, hwork⟩ : ∃ r, logUploadThread e w.task w.tmp = r := ⟨_, rfl⟩
    rw [hworker] at hstep hserver
    dsimp only at hstep
    rw [hwork] at hstep
    obtain rfl := Option.some.inj hstep
    refine ⟨rs, us, some req, h.dialogue, h.arrived, ?_, .thread hrecv rfl htask ?_, h.checked,
      h.prepared⟩
    · show w.server ++ o.upload.toList = us ++ o.upload.toList
      rw [hserver]
      exact congrArg (· ++ o.upload.toList) (List.append_nil us)
    · rintro _ ⟨⟩
      exact .inr ⟨e, w.tmp, by rw [← htask, hwork]⟩
  | ending o =>
    obtain ⟨req, rfl, hrecv, htask, ho⟩ := h.isOpen.of_waits (by rw [hworker]; rfl)
    have hserver := h.server
    rw [hworker] at hstep hserver ho
    obtain rfl := Option.some.inj hstep
    cases hstopping : w.stopping with
    | true =>
      have hd := h.dialogue
      rw [hstopping] at hd
      refine ⟨rs, us ++ o.upload.toList, none, hd.skip rfl (ho o rfl), h.arrived, ?_,
        .nobody hrecv rfl, h.checked, h.prepared⟩
      exact hserver.trans (List.append_nil _).symm
    | false =>
      have hd := h.dialogue
      rw [hstopping] at hd
      exact ⟨rs, us, some req, hd, h.arrived, hserver, .thread hrecv rfl htask ho, h.checked,
        h.prepared⟩
  | sending o =>
    obtain ⟨req, rfl, hrecv, htask, ho⟩ := h.isOpen.of_waits (by rw [hworker]; rfl)
    have hserver := h.server
    rw [hworker] at hstep hserver ho
    obtain rfl := Option.some.inj hstep
    have hserial : req.header.serialNum < 2 ^ 32 :=
      hrange req (by rw [h.arrived]; exact List.mem_append_left _ (h.dialogue.mem_of_open rfl))
    refine ⟨rs, us ++ o.upload.toList, none, ?_, h.arrived, ?_, .nobody hrecv rfl, h.checked,
      h.prepared⟩
    · show Dialogue config w.stopping rs (w.send (logUploadResult w.task.reqHeader o.result
        w.task.storePath o.fileName)).told _ _
      have hheader : w.task.reqHeader = req.header := by
        rw [htask]
        rfl
      rw [hheader, htask, told_send (encoded_result _ _ _ _) (read_result hserial (ho o rfl))]
      exact h.dialogue.report (ho o rfl)
    · exact hserver.trans (List.append_nil _).symm
  | clearing =>
    have hserver := h.server
    rw [hworker] at hstep hserver
    obtain rfl := Option.some.inj hstep
    have hwaits : w.worker.waits = false := by rw [hworker]; rfl
    refine ⟨rs, us, cur, h.dialogue, h.arrived, hserver, ?_, h.checked, h.prepared⟩
    cases h.isOpen with
    | nobody ha => exact .nobody ha rfl
    | call ha _ ht => exact .call ha rfl ht
    | thread _ hw => cases hwaits.symm.trans hw

/-- Every step continues the dialogue. -/
lemma Talks.step (h : Talks config w rs us cur) (hgate : (UploadSys.gate w.toSys).Inv)
    (hrange : w.InRange) {a : WorldAct} (hstep : Step config w a w') :
    ∃ rs us cur, Talks config w' rs us cur := by
  cases a with
  | arrive req =>
    obtain ⟨hidle, hw⟩ := Option.ite_none_right_eq_some.1 hstep
    obtain rfl := Option.some.inj hw
    exact ⟨rs, us, cur, h.arrive hidle req⟩
  | recv createOk => exact h.recvNext hgate hrange hstep
  | worker e => exact h.workerNext hrange hstep
  | destroy =>
    obtain rfl := Option.some.inj hstep
    exact ⟨rs, us, cur, h.dialogue.stop, h.arrived, h.server, h.isOpen.congr rfl rfl rfl,
      h.checked, h.prepared⟩

/-- A thread whose programs all succeed. -/
def smoothEnv : UploadEnv where
  dupText := true
  dupTel := true
  logExists := true
  copy := .ok (ascii "log")
  telSize := none
  snapshot := .error none
  tar := .ok ()
  date := some (9, 22)
  curlStatus := 0
  unlinkOk _ := true

end UploadWorld

end AntennaMgmt.LogUpload
