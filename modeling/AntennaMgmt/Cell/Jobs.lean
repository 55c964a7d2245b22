import AntennaMgmt.Cell.Response
import AntennaMgmt.Lib.RingQueue
import AntennaMgmt.Lib.Worker

/-!
# The queue of cell configuration requests

The thread that receives a request copies it and puts the copy into a ring of eight jobs, which
the worker takes out one by one; a request that finds the ring full is answered at once, as failed.
`cell_config_destroy` stops the worker, joins it and then empties the ring without its mutex.  A
step of the model is one region of the mutex, one call between two regions, or one pass of the
loop that empties the ring.
-/

namespace AntennaMgmt.Cell

open AntennaMgmt.Lib AntennaMgmt.Cpri

/-! ### The busy response -/

/-- The answer to a cell configuration that is not applied. -/
def busyCellResp : Element where
  type := ieTypeCellConfigResp
  data := List.replicate 4 0 ++ leBytes 4 ConfigResult.failure.code
  size_lt := by simp

/-- The answer to a frequency configuration that is not applied. -/
def busyFreqResp : Element where
  type := ieTypeFreqConfigResp
  data := List.replicate 5 0 ++ leBytes 4 ConfigResult.failure.code
  size_lt := by simp

/-- The body of the loop of `cell_config_send_busy_response`. -/
def busyResponseBody (mallocOk : ℕ → Bool) (ieType : UInt16) (_ieData : Bytes) (p : IePayload) :
    IePayload :=
  if ieType = ieTypeCellConfig then addIe maxPayloadSize mallocOk busyCellResp p
  else if ieType = ieTypeFreqConfig then addIe maxPayloadSize mallocOk busyFreqResp p
  else p

/-- `cell_config_send_busy_response`: what is given to `tcp_client_send`. -/
def cellConfigSendBusyResponse (mallocOk : ℕ → Bool) (msg : CpriMessage) : Option Bytes :=
  let p := ieLoop (busyResponseBody mallocOk) msg.payload 0 .empty
  if p.bytes.length = 0 then none
  else respond cellCfgRespBufSize (cellConfigRspHeader msg.header) p

/-- The failure that an IE is answered with, if it is a configuration. -/
def busyResp (x : Element) : Option Element :=
  if x.type = ieTypeCellConfig then some busyCellResp
  else if x.type = ieTypeFreqConfig then some busyFreqResp
  else none

/-- The failures that a request is owed when it is not taken. -/
def busyOwed (payload : Bytes) : List Element := (elements payload).filterMap busyResp

/-- The size of the answer to an IE. -/
def busySize (x : Element) : ℕ :=
  if x.type = ieTypeCellConfig then 12 else if x.type = ieTypeFreqConfig then 13 else 0

/-- The request has a configuration IE, and the answers to all of them fit the encode buffer. -/
def Answerable (payload : Bytes) : Prop :=
  0 < ((elements payload).map busySize).sum ∧ ((elements payload).map busySize).sum ≤ 4081

/-- The busy response was sent: it has the identifiers and the serial number of the request and
reports a failure for each of its configuration IEs. -/
def BusyAnswered (sent : Option Bytes) (msg : CpriMessage) : Prop :=
  AnsweredBy sent (cellConfigRspHeader msg.header) (busyOwed msg.payload)

lemma length_busyOwed (payload : Bytes) :
    ((busyOwed payload).flatMap Element.encode).length =
      ((elements payload).map busySize).sum := by
  rw [busyOwed]
  induction elements payload with
  | nil => rfl
  | cons x xs ih =>
    rw [List.filterMap_cons, List.map_cons, List.sum_cons, ← ih, busyResp, busySize]
    split_ifs
    · simp [busyCellResp]
    · simp [busyFreqResp]
    · simp

lemma foldl_busyResponseBody (mallocOk : ℕ → Bool) (xs : List Element) (p : IePayload) :
    xs.foldl (fun p x => busyResponseBody mallocOk x.type x.data p) p =
      addAll maxPayloadSize mallocOk (xs.filterMap busyResp) p := by
  induction xs generalizing p with
  | nil => rfl
  | cons x xs ih =>
    rw [List.foldl_cons, ih, List.filterMap_cons, busyResponseBody, busyResp]
    split_ifs <;> rfl

/-- The loop adds the failures that are owed. -/
lemma ieLoop_busyResponseBody (mallocOk : ℕ → Bool) (payload : Bytes) :
    ieLoop (busyResponseBody mallocOk) payload 0 .empty =
      addAll maxPayloadSize mallocOk (busyOwed payload) .empty := by
  rw [ieLoop_eq, List.drop_zero, foldl_busyResponseBody, busyOwed]

/-- Which requests get a busy response that answers all of their configurations. -/
lemma busyAnswered_iff (msg : CpriMessage) :
    BusyAnswered (cellConfigSendBusyResponse (fun _ => true) msg) msg ↔
      Answerable msg.payload := by
  set p := addAll maxPayloadSize (fun _ => true) (busyOwed msg.payload) .empty with hp
  have hanswered : AnsweredBy (respond cellCfgRespBufSize (cellConfigRspHeader msg.header) p)
      (cellConfigRspHeader msg.header) (busyOwed msg.payload) ↔
      ((elements msg.payload).map busySize).sum ≤ 4081 := by
    rw [hp, cellCfgAnswered_iff, length_busyOwed]
    exact ⟨And.left, fun h => ⟨h, .inr rfl⟩⟩
  rw [BusyAnswered, cellConfigSendBusyResponse, ieLoop_busyResponseBody, ← hp, Answerable]
  constructor
  · intro h
    split_ifs at h with hempty
    · obtain ⟨payload, hsent, -⟩ := h
      cases hsent
    · refine ⟨Nat.pos_of_ne_zero fun hzero => hempty ?_, hanswered.1 h⟩
      rw [← length_busyOwed, Element.length_flatMap_encode_eq_zero] at hzero
      rw [hp, hzero]
      rfl
  · rintro ⟨hpos, hfits⟩
    have hbytes : p.bytes = (busyOwed msg.payload).flatMap Element.encode := by
      refine addAll_of_le _ .empty (fun _ _ => rfl) ?_
      rw [length_busyOwed, maxPayloadSize]
      exact (Nat.zero_add _).trans_le (hfits.trans (by norm_num))
    have hne : p.bytes.length ≠ 0 := by
      rw [hbytes, length_busyOwed]
      exact hpos.ne'
    rw [if_neg hne]
    exact hanswered.2 hfits

/-! ### The queue -/

/-- `CELL_CFG_JOB_QUEUE_LEN`. -/
abbrev cellCfgJobQueueLen : ℕ := 8

/-- `MSG_NR_CELL_CONFIG`. -/
def msgNrCellConfig : ℕ := 195

/-- `cell_cfg_job_t` with its copy of the payload. -/
structure CellCfgJob where
  paauId : UInt8
  bbuId : UInt8
  portNum : UInt8
  serialNum : ℕ
  payloadLen : ℕ
  payload : Bytes
deriving DecidableEq, Repr

/-- The bytes of the buffers that the payloads of messages lie in. -/
abbrev PayloadMemory := ℕ → ℕ → UInt8

/-- A message as `cell_config_submit_request` is given it: the payload is in a buffer that is
used again when the call has returned. -/
structure PooledMessage where
  header : CpriHeader
  buffer : ℕ
  payloadLen : ℕ
deriving DecidableEq, Repr

/-- The message with its payload as it stands in the memory. -/
def PooledMessage.read (memory : PayloadMemory) (msg : PooledMessage) : CpriMessage :=
  ⟨msg.header, (List.range msg.payloadLen).map (memory msg.buffer)⟩

/-- The copy that `cell_config_submit_request` makes. -/
def makeJob (memory : PayloadMemory) (msg : PooledMessage) : CellCfgJob where
  paauId := msg.header.paauId
  bbuId := msg.header.bbuId
  portNum := msg.header.portNum
  serialNum := msg.header.serialNum
  payloadLen := msg.payloadLen
  payload := (List.range msg.payloadLen).map (memory msg.buffer)

/-- The request that `cell_cfg_worker` makes of a job. -/
def CellCfgJob.request (job : CellCfgJob) : CpriMessage where
  header :=
    { msgId := msgNrCellConfig
      msgLength := 0
      paauId := job.paauId
      bbuId := job.bbuId
      portNum := job.portNum
      serialNum := job.serialNum }
  payload := job.payload.take job.payloadLen

/-- A request as the worker should see it.  The message length, which counts the bytes of the
message on the wire, is not kept. -/
def asProcessed (msg : CpriMessage) : CpriMessage :=
  { msg with header := { msg.header with msgId := msgNrCellConfig, msgLength := 0 } }

lemma request_makeJob (memory : PayloadMemory) (msg : PooledMessage) :
    (makeJob memory msg).request = asProcessed (msg.read memory) := by
  have hlen : ((List.range msg.payloadLen).map (memory msg.buffer)).length = msg.payloadLen := by
    rw [List.length_map, List.length_range]
  rw [CellCfgJob.request, makeJob, asProcessed, PooledMessage.read]
  simp only
  rw [List.take_of_length_le hlen.le]

/-- Where a thread that submits requests stands: between its calls, or with a request that was
rejected and is still to be answered; the flag tells whether that was before the stop. -/
inductive SubmitPc
  | idle
  | rejected (msg : PooledMessage) (early : Bool)
deriving DecidableEq, Repr

/-- Where `cell_config_destroy` stands: not called, waiting for the worker, at a slot of the loop
that empties the ring, at its end. -/
inductive DestroyPc
  | idle
  | joining
  | freeing (i : ℕ)
  | done
deriving DecidableEq, Repr

/-- A rejected request with what was sent for it. -/
structure BusyReply where
  request : CpriMessage
  early : Bool
  sent : Option Bytes
deriving DecidableEq, Repr

/-- The job queue with the threads at it.  The last five fields are history: the requests that were
put into the ring, those of them before the stop, the requests that the worker has worked off, and
for each thread its rejected requests and what it sent for them. -/
structure JobSys (ι : Type*) where
  memory : PayloadMemory
  ring : RingQueue cellCfgJobQueueLen (Option CellCfgJob)
  stop : Bool
  worker : WorkerPc (Option CellCfgJob)
  submit : ι → SubmitPc
  destroy : DestroyPc
  accepted : List CpriMessage
  early : List CpriMessage
  processed : List CpriMessage
  rejected : ι → List (CpriMessage × Bool)
  replies : ι → List BusyReply

/-- The steps: the region of `cell_config_submit_request`, its busy response, the region of the
worker and what it does with a job, the region of `cell_config_destroy`, the return of its join, a
pass of its loop and the store behind it, and a new use of a payload buffer. -/
inductive JobAct (ι : Type*)
  | submit (t : ι) (msg : PooledMessage)
  | reply (t : ι)
  | workerRegion
  | process
  | stop
  | join
  | free
  | reset
  | reuse (buffer : ℕ) (bytes : ℕ → UInt8)

namespace JobSys

variable {ι : Type*}

/-- After `cell_config_init`, with anything in the payload buffers. -/
def init (memory : PayloadMemory) : JobSys ι where
  memory := memory
  ring := .empty none
  stop := false
  worker := .waiting
  submit := fun _ => .idle
  destroy := .idle
  accepted := []
  early := []
  processed := []
  rejected := fun _ => []
  replies := fun _ => []

/-- The requests that stand in the ring. -/
def waiting (s : JobSys ι) : List CpriMessage :=
  s.ring.contents.filterMap (Option.map CellCfgJob.request)

/-- The request that the worker has in hand. -/
def inHand (s : JobSys ι) : List CpriMessage :=
  s.worker.inHand.filterMap (Option.map CellCfgJob.request)

/-- The rejected request that a thread has still to answer. -/
def unanswered (s : JobSys ι) (t : ι) : List (CpriMessage × Bool) :=
  match s.submit t with
  | .idle => []
  | .rejected msg early => [(msg.read s.memory, early)]

variable {s s' : JobSys ι}

lemma unanswered_of_idle {t : ι} (h : s.submit t = .idle) : s.unanswered t = [] := by
  rw [unanswered, h]

lemma unanswered_of_rejected {t : ι} {msg : PooledMessage} {early : Bool}
    (h : s.submit t = .rejected msg early) : s.unanswered t = [(msg.read s.memory, early)] := by
  rw [unanswered, h]

/-- The unanswered request of a thread lies in a buffer that is not used again. -/
lemma unanswered_congr {t : ι} (hsubmit : s'.submit t = s.submit t)
    (hmemory : ∀ msg early, s.submit t = .rejected msg early →
      msg.read s'.memory = msg.read s.memory) : s'.unanswered t = s.unanswered t := by
  cases hpc : s.submit t with
  | idle => rw [unanswered_of_idle hpc, unanswered_of_idle (hsubmit.trans hpc)]
  | rejected msg early =>
    rw [unanswered_of_rejected hpc, unanswered_of_rejected (hsubmit.trans hpc), hmemory _ _ hpc]

/-- The region of `cell_cfg_worker`, which waits while there is nothing to do.  The slot of the job
is set to `NULL`. -/
def workerRegion (s : JobSys ι) : Option (JobSys ι) :=
  if s.ring.count = 0 then
    if s.stop then some { s with worker := .exited } else none
  else some { s with ring := s.ring.take fun _ => none, worker := .working s.ring.front }

/-- A pass of the loop of `cell_config_destroy`. -/
def freeSlot (s : JobSys ι) (i : Fin cellCfgJobQueueLen) : JobSys ι :=
  { s with
      ring := { s.ring with slots := Function.update s.ring.slots i none }
      destroy := .freeing (i + 1) }

/-- `g_job_count = 0` behind the loop. -/
def resetCount (s : JobSys ι) : JobSys ι :=
  { s with ring := { s.ring with count := 0 }, destroy := .done }

/-- What `cell_config_submit_request` does when the ring is full. -/
def rejectRequest [DecidableEq ι] (s : JobSys ι) (t : ι) (msg : PooledMessage) : JobSys ι :=
  { s with
      submit := Function.update s.submit t (.rejected msg !s.stop)
      rejected := Function.update s.rejected t
        (s.rejected t ++ [(msg.read s.memory, !s.stop)]) }

/-- What it does when there is room. -/
def queueRequest (s : JobSys ι) (msg : PooledMessage) : JobSys ι :=
  { s with
      ring := s.ring.put (some (makeJob s.memory msg))
      accepted := s.accepted ++ [msg.read s.memory]
      early := if s.stop then s.early else s.early ++ [msg.read s.memory] }

/-- The copy and the region of `cell_config_submit_request`. -/
def submitRequest [DecidableEq ι] (s : JobSys ι) (t : ι) (msg : PooledMessage) : JobSys ι :=
  if cellCfgJobQueueLen ≤ s.ring.count then s.rejectRequest t msg else s.queueRequest msg

/-- The busy response of a rejected request, all allocations succeeding. -/
def reply [DecidableEq ι] (s : JobSys ι) (t : ι) (msg : PooledMessage) (early : Bool) : JobSys ι :=
  let request := msg.read s.memory
  let sent := cellConfigSendBusyResponse (fun _ => true) request
  { s with
      submit := Function.update s.submit t .idle
      replies := Function.update s.replies t (s.replies t ++ [⟨request, early, sent⟩]) }

/-- One step of some thread.  A payload buffer is used again only when no call has it. -/
inductive Step [DecidableEq ι] : JobSys ι → JobAct ι → JobSys ι → Prop
  | submit {s : JobSys ι} {t : ι} (msg : PooledMessage) : s.submit t = .idle →
      Step s (.submit t msg) (s.submitRequest t msg)
  | reply {s : JobSys ι} {t : ι} {msg : PooledMessage} {early : Bool} :
      s.submit t = .rejected msg early → Step s (.reply t) (s.reply t msg early)
  | workerRegion {s s' : JobSys ι} : s.worker = .waiting → s.workerRegion = some s' →
      Step s .workerRegion s'
  | process {s : JobSys ι} {job : CellCfgJob} : s.worker = .working (some job) →
      Step s .process { s with worker := .waiting, processed := s.processed ++ [job.request] }
  | stop {s : JobSys ι} : s.destroy = .idle →
      Step s .stop { s with stop := true, destroy := .joining }
  | join {s : JobSys ι} : s.destroy = .joining → s.worker = .exited →
      Step s .join { s with destroy := .freeing 0 }
  | free {s : JobSys ι} {i : Fin cellCfgJobQueueLen} : s.destroy = .freeing i →
      Step s .free (s.freeSlot i)
  | reset {s : JobSys ι} : s.destroy = .freeing cellCfgJobQueueLen → Step s .reset s.resetCount
  | reuse {s : JobSys ι} {buffer : ℕ} {bytes : ℕ → UInt8} :
      (∀ t msg early, s.submit t = .rejected msg early → msg.buffer ≠ buffer) →
      Step s (.reuse buffer bytes) { s with memory := Function.update s.memory buffer bytes }

/-- The steps that go well: a request that is rejected before the stop can be answered, and no job
stands in the ring when `cell_config_destroy` sets the count to zero. -/
def Fine (s : JobSys ι) : JobAct ι → Prop
  | .submit _ msg => cellCfgJobQueueLen ≤ s.ring.count → s.stop = false →
      Answerable (msg.read s.memory).payload
  | .reset => s.ring.count = 0
  | _ => True

/-- `cell_config_destroy` has not gone past its join. -/
def Live (s : JobSys ι) : Prop := s.destroy = .idle ∨ s.destroy = .joining

/-! ### The queue as a worker's -/

/-- What is in the ring for a request. -/
def view (msg : CpriMessage) : Option CpriMessage := some (asProcessed msg)

/-- The queue is that of a worker to whom the requests are the jobs. -/
structure Follows (s : JobSys ι) (w : Worker CpriMessage) : Prop where
  agrees : s.ring.Agrees
  jobs : s.Live → s.ring.contents.map (Option.map CellCfgJob.request) = w.queue.map view
  stopping : w.stopping = s.stop
  pc : s.worker.map (Option.map CellCfgJob.request) = w.pc.map view
  accepted : w.accepted = s.accepted
  early : w.early = s.early
  finished : s.processed = w.finished.map asProcessed
  past : ¬ s.Live → s.worker = .exited

lemma follows_init (memory : PayloadMemory) : Follows (init memory : JobSys ι) .init where
  agrees := RingQueue.agrees_empty _
  jobs _ := rfl
  stopping := rfl
  pc := rfl
  accepted := rfl
  early := rfl
  finished := rfl
  past h := absurd (.inl rfl) h

variable [DecidableEq ι] {a : JobAct ι}

/-- The worker follows every step that goes well. -/
lemma Follows.step {w : Worker CpriMessage} (h : Follows s w) (hstep : restrict Step Fine s a s') :
    Follows s' w ∨ ∃ b w', Worker.Step w b w' ∧ Follows s' w' := by
  obtain ⟨hstep, hfine⟩ := hstep
  cases hstep with
  | @submit t msg hidle =>
    rw [submitRequest]
    split_ifs with hfull
    · exact .inl ⟨h.agrees, h.jobs, h.stopping, h.pc, h.accepted, h.early, h.finished, h.past⟩
    · have hroom : s.ring.count < cellCfgJobQueueLen := Nat.not_le.1 hfull
      refine .inr ⟨_, _, .accept w (msg.read s.memory), ?_⟩
      refine ⟨h.agrees.put hroom _, fun hlive => ?_, h.stopping, h.pc, ?_, ?_, h.finished, h.past⟩
      · rw [queueRequest, RingQueue.contents_put h.agrees hroom, List.map_append, h.jobs hlive,
          List.map_append, List.map_singleton, List.map_singleton, view, ← request_makeJob]
        rfl
      · rw [queueRequest, h.accepted]
      · rw [queueRequest, h.stopping, h.early]
  | reply => exact .inl ⟨h.agrees, h.jobs, h.stopping, h.pc, h.accepted, h.early, h.finished,
      h.past⟩
  | workerRegion hpc hregion =>
    have hlive : s.Live := by
      by_contra hpast
      rw [h.past hpast] at hpc
      cases hpc
    have hwaiting : w.pc = .waiting := by
      rw [← WorkerPc.map_eq_waiting (f := view), ← h.pc, hpc]
      rfl
    have hjobs := h.jobs hlive
    rw [workerRegion] at hregion
    split_ifs at hregion with hcount hstop
    · obtain rfl := Option.some.inj hregion
      rw [RingQueue.contents_eq_nil.2 hcount] at hjobs
      have hqueue : w.queue = [] := List.map_eq_nil_iff.1 hjobs.symm
      refine .inr ⟨_, _, .exit hwaiting hqueue (h.stopping.trans hstop), ?_⟩
      exact ⟨h.agrees, h.jobs, h.stopping, rfl, h.accepted, h.early, h.finished, fun _ => rfl⟩
    · obtain rfl := Option.some.inj hregion
      have hpos := Nat.pos_of_ne_zero hcount
      rw [RingQueue.contents_take h.agrees hpos fun _ => none, List.map_cons] at hjobs
      cases hqueue : w.queue with
      | nil => rw [hqueue] at hjobs; cases hjobs
      | cons msg rest =>
        rw [hqueue, List.map_cons] at hjobs
        obtain ⟨hfront, hrest⟩ := List.cons.inj hjobs
        refine .inr ⟨_, _, .take hwaiting hqueue, ?_⟩
        refine ⟨h.agrees.take hpos fun _ => none, fun _ => hrest, h.stopping, ?_, h.accepted,
          h.early, h.finished, fun hpast => absurd hlive hpast⟩
        exact congrArg WorkerPc.working hfront
  | @process job hpc =>
    have hworking := h.pc
    rw [hpc] at hworking
    obtain ⟨msg, hmsg, hview⟩ := WorkerPc.map_eq_working.1 hworking.symm
    refine .inr ⟨_, _, .finish hmsg, ?_⟩
    refine ⟨h.agrees, h.jobs, h.stopping, rfl, h.accepted, h.early, ?_, fun hpast => ?_⟩
    · rw [List.map_append, ← h.finished, List.map_singleton, Option.some.inj hview]
    · rw [h.past hpast] at hpc
      cases hpc
  | stop hidle =>
    refine .inr ⟨_, _, .stop w, ?_⟩
    exact ⟨h.agrees, fun _ => h.jobs (.inl hidle), rfl, h.pc, h.accepted, h.early, h.finished,
      fun hpast => absurd (.inr rfl) hpast⟩
  | join _ hexited =>
    refine .inl ⟨h.agrees, fun hlive => ?_, h.stopping, h.pc, h.accepted, h.early, h.finished,
      fun _ => hexited⟩
    rcases hlive with hlive | hlive <;> cases hlive
  | free hfreeing =>
    have hpast : ¬ s.Live := by
      rintro (hlive | hlive) <;> rw [hlive] at hfreeing <;> cases hfreeing
    refine .inl ⟨⟨h.agrees.count_le, h.agrees.tail_eq⟩, fun hlive => ?_, h.stopping, h.pc,
      h.accepted, h.early, h.finished, fun _ => h.past hpast⟩
    rcases hlive with hlive | hlive <;> cases hlive
  | reset hfreeing =>
    have hpast : ¬ s.Live := by
      rintro (hlive | hlive) <;> rw [hlive] at hfreeing <;> cases hfreeing
    have hcount : s.ring.count = 0 := hfine
    have htail := h.agrees.tail_eq
    rw [hcount] at htail
    refine .inl ⟨⟨Nat.zero_le _, htail⟩, fun hlive => ?_, h.stopping, h.pc,
      h.accepted, h.early, h.finished, fun _ => h.past hpast⟩
    rcases hlive with hlive | hlive <;> cases hlive
  | reuse => exact .inl ⟨h.agrees, h.jobs, h.stopping, h.pc, h.accepted, h.early, h.finished,
      h.past⟩

/-! ### The busy responses -/

/-- Each rejected request gets one reply, and that is a busy response if it was rejected before the
stop. -/
structure RepliesInv (s : JobSys ι) : Prop where
  answered : ∀ t,
    s.rejected t = (s.replies t).map (fun r => (r.request, r.early)) ++ s.unanswered t
  busy : ∀ t, ∀ r ∈ s.replies t, r.early = true → BusyAnswered r.sent r.request
  answerable : ∀ t msg, s.submit t = .rejected msg true → Answerable (msg.read s.memory).payload

omit [DecidableEq ι] in
lemma repliesInv_init (memory : PayloadMemory) : RepliesInv (init memory : JobSys ι) where
  answered _ := rfl
  busy _ _ hr := by cases hr
  answerable _ _ hpc := by cases hpc

omit [DecidableEq ι] in
/-- A step that has nothing to do with replies. -/
lemma RepliesInv.congr (h : RepliesInv s) (hsubmit : s'.submit = s.submit)
    (hmemory : s'.memory = s.memory) (hrejected : s'.rejected = s.rejected)
    (hreplies : s'.replies = s.replies) : RepliesInv s' where
  answered t := by
    rw [hrejected, hreplies, h.answered t,
      unanswered_congr (congrFun hsubmit t) fun _ _ _ => by rw [hmemory]]
  busy t := by
    rw [hreplies]
    exact h.busy t
  answerable t msg := by
    rw [hsubmit, hmemory]
    exact h.answerable t msg

/-- Every step that goes well keeps it. -/
lemma RepliesInv.step (h : RepliesInv s) (hstep : restrict Step Fine s a s') :
    RepliesInv s' := by
  obtain ⟨hstep, hfine⟩ := hstep
  cases hstep with
  | @submit t msg hidle =>
    rw [submitRequest]
    split_ifs with hfull
    · refine ⟨fun u => ?_, h.busy, fun u msg' => ?_⟩
      · rcases eq_or_ne u t with rfl | hne
        · have hpc : (s.rejectRequest u msg).submit u = .rejected msg !s.stop :=
            Function.update_self _ _ _
          have hrejected : (s.rejectRequest u msg).rejected u =
              s.rejected u ++ [(msg.read s.memory, !s.stop)] := Function.update_self _ _ _
          rw [hrejected, unanswered_of_rejected hpc, h.answered u, unanswered_of_idle hidle,
            List.append_nil]
          rfl
        · have hpc : (s.rejectRequest t msg).submit u = s.submit u := Function.update_of_ne hne _ _
          have hrejected : (s.rejectRequest t msg).rejected u = s.rejected u :=
            Function.update_of_ne hne _ _
          rw [hrejected, h.answered u, unanswered_congr hpc fun _ _ _ => rfl]
          rfl
      · intro hpc
        change Function.update s.submit t (.rejected msg !s.stop) u = _ at hpc
        rcases eq_or_ne u t with rfl | hne
        · rw [Function.update_self] at hpc
          obtain ⟨rfl, hstop⟩ := SubmitPc.rejected.inj hpc
          exact hfine hfull (by simpa using hstop)
        · rw [Function.update_of_ne hne] at hpc
          exact h.answerable u msg' hpc
    · exact h.congr rfl rfl rfl rfl
  | @reply t msg early hpc =>
    refine ⟨fun u => ?_, fun u r hr hearly => ?_, fun u msg' hpc' => ?_⟩
    · rcases eq_or_ne u t with rfl | hne
      · have hidle : (s.reply u msg early).submit u = .idle := Function.update_self _ _ _
        have hreplies : (s.reply u msg early).replies u = s.replies u ++ [_] :=
          Function.update_self _ _ _
        rw [unanswered_of_idle hidle, hreplies, List.map_append, List.append_nil]
        exact (h.answered u).trans (by rw [unanswered_of_rejected hpc]; rfl)
      · have hsame : (s.reply t msg early).submit u = s.submit u := Function.update_of_ne hne _ _
        have hreplies : (s.reply t msg early).replies u = s.replies u :=
          Function.update_of_ne hne _ _
        rw [hreplies, unanswered_congr hsame fun _ _ _ => rfl]
        exact h.answered u
    · change r ∈ Function.update s.replies t _ u at hr
      rcases eq_or_ne u t with rfl | hne
      · rw [Function.update_self] at hr
        rcases List.mem_append.1 hr with hr | hr
        · exact h.busy u r hr hearly
        · obtain rfl := List.mem_singleton.1 hr
          obtain rfl : early = true := hearly
          exact (busyAnswered_iff _).2 (h.answerable u msg hpc)
      · rw [Function.update_of_ne hne] at hr
        exact h.busy u r hr hearly
    · change Function.update s.submit t .idle u = _ at hpc'
      rcases eq_or_ne u t with rfl | hne
      · rw [Function.update_self] at hpc'
        cases hpc'
      · rw [Function.update_of_ne hne] at hpc'
        exact h.answerable u msg' hpc'
  | workerRegion _ hregion =>
    rw [workerRegion] at hregion
    split_ifs at hregion <;> obtain rfl := Option.some.inj hregion <;> exact h.congr rfl rfl rfl rfl
  | process => exact h.congr rfl rfl rfl rfl
  | stop => exact h.congr rfl rfl rfl rfl
  | join => exact h.congr rfl rfl rfl rfl
  | free => exact h.congr rfl rfl rfl rfl
  | reset => exact h.congr rfl rfl rfl rfl
  | @reuse buffer bytes hheld =>
    have hread : ∀ u msg early, s.submit u = .rejected msg early →
        msg.read (Function.update s.memory buffer bytes) = msg.read s.memory := by
      intro u msg early hpc
      rw [PooledMessage.read, PooledMessage.read, Function.update_of_ne (hheld u msg early hpc)]
    refine ⟨fun u => ?_, h.busy, fun u msg hpc => ?_⟩
    · have hsame : unanswered { s with memory := Function.update s.memory buffer bytes } u =
          s.unanswered u := unanswered_congr rfl (hread u)
      rw [hsame]
      exact h.answered u
    · rw [hread u msg true hpc]
      exact h.answerable u msg hpc

/-! ### Every request is served -/

/-- The indices and the count agree; requests are taken unless eight of them are waiting; those
taken are worked off each once and in their order, and those of them from before the stop before
the join of `cell_config_destroy` returns; the others get a busy response. -/
structure Served (s : JobSys ι) : Prop where
  indices : s.ring.count ≤ 8 ∧ (s.ring.head.val + s.ring.count) % 8 = s.ring.tail.val
  submitted : ∀ t msg s', Step s (.submit t msg) s' →
    (s.ring.count = 8 ∧ s'.accepted = s.accepted ∧
      s'.rejected t = s.rejected t ++ [(msg.read s.memory, !s.stop)]) ∨
    (s.ring.count < 8 ∧ s'.accepted = s.accepted ++ [msg.read s.memory] ∧
      s'.rejected t = s.rejected t)
  inOrder : s.processed ++ s.inHand <+: s.accepted.map asProcessed
  waiting : s.Live → s.processed ++ s.inHand ++ s.waiting = s.accepted.map asProcessed ∧
    s.waiting.length = s.ring.count
  early : s.early <+: s.accepted ∧ (s.stop = false → s.early = s.accepted)
  joined : ¬ s.Live → s.early.map asProcessed <+: s.processed
  answered : ∀ t,
    s.rejected t = (s.replies t).map (fun r => (r.request, r.early)) ++ s.unanswered t
  busy : ∀ t, ∀ r ∈ s.replies t, r.early = true → BusyAnswered r.sent r.request

lemma filterMap_request {jobs : List (Option CellCfgJob)} {msgs : List CpriMessage}
    (h : jobs.map (Option.map CellCfgJob.request) = msgs.map view) :
    jobs.filterMap (Option.map CellCfgJob.request) = msgs.map asProcessed := by
  calc jobs.filterMap (Option.map CellCfgJob.request)
      = (jobs.map (Option.map CellCfgJob.request)).filterMap id := by
        rw [List.filterMap_map]
        rfl
    _ = (msgs.map view).filterMap id := by rw [h]
    _ = msgs.map asProcessed := by
        rw [List.filterMap_map, ← List.filterMap_eq_map]
        rfl

/-- **The queue of cell configuration requests.**  Over every interleaving in which the requests
rejected before the stop have configuration IEs whose answers fit one message, and in which no job
stands in the ring when `cell_config_destroy` sets the count to zero, every request is served. -/
theorem jobQueue_served {memory : PayloadMemory} {l : List (JobAct ι)}
    (hrun : Run (restrict Step Fine) (init memory) l s) : s.Served := by
  obtain ⟨m, w, hwrun, hw⟩ :=
    hrun.simulated (fun _ _ _ _ h hstep => h.step hstep) (follows_init memory)
  have hinv : w.Inv := hwrun.invariant (fun _ _ _ h hstep => h.step hstep) Worker.inv_init
  have hreplies : RepliesInv s :=
    hrun.invariant (fun _ _ _ h hstep => h.step hstep) (repliesInv_init memory)
  have hhand : s.inHand = w.pc.inHand.map asProcessed := by
    refine filterMap_request ?_
    rw [← WorkerPc.inHand_map, hw.pc, WorkerPc.inHand_map]
  have horder : s.accepted.map asProcessed =
      s.processed ++ s.inHand ++ w.queue.map asProcessed := by
    rw [← hw.accepted, hinv.order, List.map_append, List.map_append, ← hw.finished, ← hhand]
  refine ⟨⟨hw.agrees.count_le, hw.agrees.tail_eq⟩, fun t msg s' hstep => ?_, ⟨_, horder.symm⟩,
    fun hlive => ?_, ?_, fun hpast => ?_, hreplies.answered, hreplies.busy⟩
  · cases hstep with
    | submit _ hidle =>
      rw [submitRequest]
      split_ifs with hfull
      · exact .inl ⟨le_antisymm hw.agrees.count_le hfull, rfl, Function.update_self _ _ _⟩
      · exact .inr ⟨Nat.not_le.1 hfull, rfl, rfl⟩
  · have hwaiting : s.waiting = w.queue.map asProcessed := filterMap_request (hw.jobs hlive)
    refine ⟨by rw [hwaiting, horder], ?_⟩
    have hlen := congrArg List.length (hw.jobs hlive)
    rw [List.length_map, List.length_map, RingQueue.length_contents] at hlen
    rw [hwaiting, List.length_map, hlen]
  · rw [← hw.early, ← hw.accepted]
    exact ⟨hinv.early_prefix, fun hstop => hinv.early_eq (hw.stopping.trans hstop)⟩
  · have hexited : w.pc = .exited := by
      rw [← WorkerPc.map_eq_exited (f := view), ← hw.pc, hw.past hpast]
      rfl
    rw [← hw.early, hw.finished]
    exact (hinv.exited hexited).2.map asProcessed

/-- The buffers hold a request to delete a cell. -/
def oneCellMemory : PayloadMemory := fun _ i => deleteCellIe.encode.getD i 0

/-- The request. -/
def cellRequest : PooledMessage := ⟨⟨msgNrCellConfig, 29, 0, 0, 0, 7⟩, 0, 14⟩

lemma answerable_cellRequest : Answerable (cellRequest.read oneCellMemory).payload := by
  have hpayload : (cellRequest.read oneCellMemory).payload =
      [deleteCellIe].flatMap Element.encode := rfl
  rw [Answerable, hpayload, elements_encode]
  decide

/-- Eight requests fill the ring and the ninth is rejected; the eight are worked off behind the stop
and before the join. -/
theorem jobQueue_served_nineRequests : ∃ s : JobSys Unit,
    Run (restrict Step Fine) (init oneCellMemory)
      (List.replicate 9 (.submit () cellRequest) ++ [.reply (), .stop] ++
        (List.replicate 8 [.workerRegion, .process]).flatten ++ [.workerRegion, .join]) s ∧
    s.processed = List.replicate 8 (asProcessed (cellRequest.read oneCellMemory)) ∧
    (∃ reply, s.replies () = [reply] ∧ BusyAnswered reply.sent reply.request) ∧ s.Served := by
  have hrun : Run (restrict Step Fine) (init oneCellMemory : JobSys Unit)
      (List.replicate 9 (.submit () cellRequest) ++ [.reply (), .stop] ++
        (List.replicate 8 [.workerRegion, .process]).flatten ++ [.workerRegion, .join]) _ :=
    .cons ⟨.submit _ rfl, fun _ _ => answerable_cellRequest⟩ <|
    .cons ⟨.submit _ rfl, fun _ _ => answerable_cellRequest⟩ <|
    .cons ⟨.submit _ rfl, fun _ _ => answerable_cellRequest⟩ <|
    .cons ⟨.submit _ rfl, fun _ _ => answerable_cellRequest⟩ <|
    .cons ⟨.submit _ rfl, fun _ _ => answerable_cellRequest⟩ <|
    .cons ⟨.submit _ rfl, fun _ _ => answerable_cellRequest⟩ <|
    .cons ⟨.submit _ rfl, fun _ _ => answerable_cellRequest⟩ <|
    .cons ⟨.submit _ rfl, fun _ _ => answerable_cellRequest⟩ <|
    .cons ⟨.submit _ rfl, fun _ _ => answerable_cellRequest⟩ <|
    .cons ⟨.reply rfl, trivial⟩ <| .cons ⟨.stop rfl, trivial⟩ <|
    .cons ⟨.workerRegion rfl rfl, trivial⟩ <| .cons ⟨.process rfl, trivial⟩ <|
    .cons ⟨.workerRegion rfl rfl, trivial⟩ <| .cons ⟨.process rfl, trivial⟩ <|
    .cons ⟨.workerRegion rfl rfl, trivial⟩ <| .cons ⟨.process rfl, trivial⟩ <|
    .cons ⟨.workerRegion rfl rfl, trivial⟩ <| .cons ⟨.process rfl, trivial⟩ <|
    .cons ⟨.workerRegion rfl rfl, trivial⟩ <| .cons ⟨.process rfl, trivial⟩ <|
    .cons ⟨.workerRegion rfl rfl, trivial⟩ <| .cons ⟨.process rfl, trivial⟩ <|
    .cons ⟨.workerRegion rfl rfl, trivial⟩ <| .cons ⟨.process rfl, trivial⟩ <|
    .cons ⟨.workerRegion rfl rfl, trivial⟩ <| .cons ⟨.process rfl, trivial⟩ <|
    .cons ⟨.workerRegion rfl rfl, trivial⟩ <| .cons ⟨.join rfl rfl, trivial⟩ <| .nil _
  have hserved := jobQueue_served hrun
  exact ⟨_, hrun, rfl, ⟨_, rfl, hserved.busy () _ List.mem_cons_self rfl⟩, hserved⟩

/-- A request without configuration IEs. -/
def emptyRequest : PooledMessage := ⟨⟨msgNrCellConfig, 15, 0, 0, 0, 7⟩, 0, 0⟩

/-- The ninth of nine requests without configuration IEs is rejected and gets no response. -/
theorem jobQueue_rejected_unanswered : ∃ s : JobSys Unit,
    Run Step (init fun _ _ => 0) (List.replicate 9 (.submit () emptyRequest) ++ [.reply ()]) s ∧
    s.stop = false ∧ ¬ s.Served := by
  have hrun : Run Step (init fun _ _ => 0 : JobSys Unit)
      (List.replicate 9 (.submit () emptyRequest) ++ [.reply ()]) _ :=
    .cons (.submit _ rfl) <| .cons (.submit _ rfl) <| .cons (.submit _ rfl) <|
    .cons (.submit _ rfl) <| .cons (.submit _ rfl) <| .cons (.submit _ rfl) <|
    .cons (.submit _ rfl) <| .cons (.submit _ rfl) <| .cons (.submit _ rfl) <|
    .cons (.reply rfl) <| .nil _
  refine ⟨_, hrun, rfl, fun hserved => ?_⟩
  have hbusy := hserved.busy () _ (List.mem_singleton.2 rfl) rfl
  have hpos : 0 < ((elements []).map busySize).sum := ((busyAnswered_iff _).1 hbusy).1
  rw [elements_nil] at hpos
  exact lt_irrefl 0 hpos

end JobSys

end AntennaMgmt.Cell
