import AntennaMgmt.Version.Gate
import AntennaMgmt.Version.Intact

/-!
# The gate of the log upload

`log_upload_handle_request` works like the download of a version, but its gate is a flag beside the
task, the request is checked behind the gate, and the task is cleared only after that.  Both gates
let one task through at a time.
-/

namespace AntennaMgmt.LogUpload

open AntennaMgmt.Lib AntennaMgmt.Cpri AntennaMgmt.Version

/-- `log_upload_task_t`. -/
structure LogUploadTask where
  storePath : Bytes
  logFilePath : Bytes
  telLogPath : Bytes
  ftpServer : Bytes
  ftpPort : ℕ
  reqHeader : CpriHeader
deriving DecidableEq, Repr

/-- `g_upload_task` and `g_upload_in_progress`. -/
structure UploadState where
  task : LogUploadTask
  inProgress : Bool
deriving DecidableEq, Repr

/-- The task after `memset`. -/
def LogUploadTask.zero : LogUploadTask := ⟨[], [], [], [], 0, ⟨0, 0, 0, 0, 0, 0⟩⟩

/-- A log upload request: its payload is the first part of a slot of the pool, whose other bytes
are left from earlier messages. -/
structure LogUploadRequest where
  header : CpriHeader
  slot : Bytes
  payloadLen : ℕ
deriving DecidableEq, Repr

/-- The string that `ie_req->store_path` points to.  The field need not hold a NUL. -/
def LogUploadRequest.storePath (req : LogUploadRequest) : Bytes :=
  (req.slot.drop 4).takeWhile (· ≠ 0)

/-- The configuration that the task is filled in from. -/
structure UploadConfig where
  ftp : FtpConfig
  logFile : Bytes
  telLogPath : Bytes

/-- The task of a request. -/
def prepareTask (config : UploadConfig) (req : LogUploadRequest) : LogUploadTask :=
  { LogUploadTask.zero with
      storePath := req.storePath.take 199
      logFilePath := config.logFile.take 255
      telLogPath := config.telLogPath.take 255
      reqHeader := req.header
      ftpServer := config.ftp.server.take 63
      ftpPort := config.ftp.port % 2 ^ 16 }

/-- Where a call of `log_upload_handle_request` stands: outside the gate; past it with the request;
before the region that opens the gate again. -/
inductive UploadPc
  | idle
  | checking (req : LogUploadRequest)
  | preparing (req : LogUploadRequest)
  | acking (req : LogUploadRequest)
  | creating (req : LogUploadRequest)
  | givingUp
deriving DecidableEq, Repr

/-- The call has passed the gate and not opened it again. -/
def UploadPc.holds : UploadPc → Bool
  | idle => false
  | _ => true

/-- The shared task, the calls of the threads, and whether the upload thread runs. -/
abbrev UploadSys (ι : Type*) := Flight ι UploadPc UploadState

/-- The steps: the region at the start of a call, the steps of a call past the gate with the
outcomes of what they call, and the region at the end of the upload thread. -/
inductive UploadAct (ι : Type*)
  | arrive (t : ι) (req : LogUploadRequest)
  | check (t : ι)
  | prepare (t : ι)
  | ack (t : ι) (ok : Bool)
  | create (t : ι) (ok : Bool)
  | giveUp (t : ι)
  | finish
deriving DecidableEq

namespace UploadSys

variable {ι : Type*}

/-- After `log_upload_init`. -/
def init : UploadSys ι := ⟨⟨.zero, false⟩, fun _ => .idle, false⟩

/-- The party that makes a step. -/
def party : UploadAct ι → Option ι
  | .arrive t _ | .check t | .prepare t | .ack t _ | .create t _ | .giveUp t => some t
  | .finish => none

variable [DecidableEq ι]

/-- The first region of `log_upload_handle_request`. -/
def arrive (s : UploadSys ι) (t : ι) (req : LogUploadRequest) : UploadSys ι :=
  -- answered as rejected
  if s.task.inProgress then s
  else { s with task := { s.task with inProgress := true } }.goto t (.checking req)

/-- The checks of the request: its length, and the path. -/
def check (s : UploadSys ι) (t : ι) (req : LogUploadRequest) : UploadSys ι :=
  if req.payloadLen < 204 then s.goto t .givingUp
  else if ¬ shellSafeRelpath req.storePath then s.goto t .givingUp
  else s.goto t (.preparing req)

/-- The step function. -/
def next (config : UploadConfig) (s : UploadSys ι) : UploadAct ι → Option (UploadSys ι)
  | .arrive t req => if s.pc t = .idle then some (s.arrive t req) else none
  | .check t => match s.pc t with
    | .checking req => some (s.check t req)
    | _ => none
  | .prepare t => match s.pc t with
    | .preparing req =>
      some ({ s with task := { s.task with task := prepareTask config req } }.goto t (.acking req))
    | _ => none
  | .ack t ok => match s.pc t with
    | .acking req => some (s.goto t (if ok then .creating req else .givingUp))
    | _ => none
  | .create t ok => match s.pc t with
    | .creating _ =>
      if ok then some ({ s with running := true }.goto t .idle) else some (s.goto t .givingUp)
    | _ => none
  | .giveUp t => match s.pc t with
    | .givingUp => some ({ s with task := { s.task with inProgress := false } }.goto t .idle)
    | _ => none
  | .finish =>
    if s.running then some { s with task := { s.task with inProgress := false }, running := false }
    else none

/-- One step. -/
def Step (config : UploadConfig) (s : UploadSys ι) (a : UploadAct ι) (s' : UploadSys ι) : Prop :=
  next config s a = some s'

/-- The gate with the task behind it. -/
def gate (s : UploadSys ι) : Gate (Option ι) UploadState :=
  Flight.gate UploadState.inProgress UploadPc.holds s

variable {config : UploadConfig} {s s' : UploadSys ι} {a : UploadAct ι}

/-- Every step is one of its party at the gate. -/
lemma gate_step (h : Step config s a s') : Gate.Step (gate s) (party a) (gate s') := by
  cases a with
  | arrive t req =>
    obtain ⟨hpc, hs⟩ := Option.ite_none_right_eq_some.1 h
    obtain rfl := Option.some.inj hs
    rw [arrive]
    split_ifs with hbusy
    · exact .pass _ _
    · exact Flight.gate_enter (Bool.eq_false_iff.2 hbusy) rfl rfl
  | check t =>
    cases hpc : s.pc t <;> simp only [Step, next, hpc, reduceCtorEq] at h
    obtain rfl := Option.some.inj h
    rw [check]
    split_ifs
    · exact Flight.gate_stay (by rw [hpc]; rfl) rfl rfl
    · exact Flight.gate_stay (by rw [hpc]; rfl) rfl rfl
    · exact Flight.gate_stay (by rw [hpc]; rfl) rfl rfl
  | prepare t =>
    cases hpc : s.pc t <;> simp only [Step, next, hpc, reduceCtorEq] at h
    obtain rfl := Option.some.inj h
    exact Flight.gate_stay (by rw [hpc]; rfl) rfl rfl
  | ack t ok =>
    cases hpc : s.pc t <;> simp only [Step, next, hpc, reduceCtorEq] at h
    obtain rfl := Option.some.inj h
    exact Flight.gate_stay (by rw [hpc]; rfl) (by cases ok <;> rfl) rfl
  | create t ok =>
    cases hpc : s.pc t <;> simp only [Step, next, hpc, reduceCtorEq] at h
    split_ifs at h with hok
    · obtain rfl := Option.some.inj h
      exact Flight.gate_start (by rw [hpc]; rfl) rfl
    · obtain rfl := Option.some.inj h
      exact Flight.gate_stay (by rw [hpc]; rfl) rfl rfl
  | giveUp t =>
    cases hpc : s.pc t <;> simp only [Step, next, hpc, reduceCtorEq] at h
    obtain rfl := Option.some.inj h
    exact Flight.gate_leave (by rw [hpc]; rfl) rfl rfl
  | finish =>
    obtain ⟨hrunning, hs⟩ := Option.ite_none_right_eq_some.1 h
    obtain rfl := Option.some.inj hs
    exact Flight.gate_finish hrunning rfl

/-- Who is past the gate can go on. -/
lemma goesOn (config : UploadConfig) (s : UploadSys ι) (p : Option ι)
    (hp : (gate s).inside p = true) : ∃ a s', party a = p ∧ Step config s a s' := by
  cases p with
  | none => exact ⟨.finish, _, rfl, if_pos hp⟩
  | some t =>
    change (s.pc t).holds = true at hp
    cases hpc : s.pc t with
    | idle =>
      rw [hpc] at hp
      cases hp
    | checking req => exact ⟨.check t, _, rfl, by rw [Step, next, hpc]⟩
    | preparing req => exact ⟨.prepare t, _, rfl, by rw [Step, next, hpc]⟩
    | acking req => exact ⟨.ack t true, _, rfl, by rw [Step, next, hpc]⟩
    | creating req => exact ⟨.create t true, _, rfl, by rw [Step, next, hpc, if_pos rfl]⟩
    | givingUp => exact ⟨.giveUp t, _, rfl, by rw [Step, next, hpc]⟩

omit [DecidableEq ι] in
lemma inv_init : (gate (init : UploadSys ι)).Inv :=
  Gate.inv_of_open rfl fun p => by cases p <;> rfl

end UploadSys

/-- **Both gates are single-flight.**  Over every interleaving of requests, of their failures and of
the worker, for the version download and for the log upload: at most one call or worker is active;
the gate is closed exactly while there is one, so that it is open when the last has ended; what
others do meanwhile leaves the task alone; and the active one can always go on. -/
theorem gates_singleFlight {ι : Type} [DecidableEq ι] (config : UploadConfig) :
    (∀ l (s : DownloadSys ι), Run (DownloadSys.Step config.ftp) DownloadSys.init l s →
      SingleFlight (DownloadSys.Step config.ftp) DownloadSys.party DownloadSys.gate s) ∧
    (∀ l (s : UploadSys ι), Run (UploadSys.Step config) UploadSys.init l s →
      SingleFlight (UploadSys.Step config) UploadSys.party UploadSys.gate s) := by
  refine ⟨fun l s hrun => ?_, fun l s hrun => ?_⟩
  · exact singleFlight_of_run (fun _ _ _ => DownloadSys.gate_step)
      (DownloadSys.goesOn config.ftp) hrun DownloadSys.inv_init
  · exact singleFlight_of_run (fun _ _ _ => UploadSys.gate_step) (UploadSys.goesOn config) hrun
      UploadSys.inv_init

/-- The request to download the version `v2`. -/
def downloadV2 : CpriMessage := ⟨⟨21, 304, 0, 0, 0, 1⟩, softwareRequest (ascii "v2")⟩

/-- A download closes its gate, which a second request finds closed and, when the download has
ended, passes; a short upload request opens the gate again and a second one passes it. -/
theorem gates_singleFlight_twoDownloads : ∃ (d d' : DownloadSys Unit) (u : UploadSys Unit),
    Run (DownloadSys.Step ⟨[], 21⟩) DownloadSys.init [.arrive () downloadV2, .fill (), .check (),
      .ack () true, .create () true, .arrive () downloadV2] d ∧
    Run (DownloadSys.Step ⟨[], 21⟩) d [.finish, .arrive () downloadV2] d' ∧
    Run (UploadSys.Step ⟨⟨[], 21⟩, [], []⟩) UploadSys.init
      [.arrive () ⟨⟨131, 15, 0, 0, 0, 1⟩, [], 0⟩, .check (), .giveUp (),
        .arrive () ⟨⟨131, 15, 0, 0, 0, 2⟩, [], 0⟩] u ∧
    d.running = true ∧ d'.pc () = .filling downloadV2 ∧ u.task.inProgress = true ∧
    SingleFlight (DownloadSys.Step ⟨[], 21⟩) DownloadSys.party DownloadSys.gate d' ∧
    SingleFlight (UploadSys.Step ⟨⟨[], 21⟩, [], []⟩) UploadSys.party UploadSys.gate u := by
  have hlen : 289 ≤ downloadV2.payload.length := by
    simp only [downloadV2, softwareRequest, List.length_append, List.length_replicate]
    decide
  have hchecked : checkTask (fillTask downloadV2.payload
      { VersionDownloadTask.zero with inProgress := true }) = .ok () := by
    obtain ⟨task, htask, -⟩ := softwareRequest_accepted_v2
    exact (DownloadSys.checkTask_fillTask hlen).2 ⟨task, htask⟩
  obtain ⟨d, hrun, hidle, hrunning, hclosed⟩ := DownloadSys.exists_accepted ⟨[], 21⟩
    (s := DownloadSys.init) (t := ()) hlen hchecked rfl rfl
  have hbusy : DownloadSys.Step ⟨[], 21⟩ d (.arrive () downloadV2) d := by
    rw [DownloadSys.Step, DownloadSys.next, if_pos hidle, DownloadSys.arrive,
      if_neg (Nat.not_lt.2 hlen), if_pos hclosed]
  have hfinish : DownloadSys.Step ⟨[], 21⟩ d .finish { d.openGate with running := false } :=
    if_pos hrunning
  have hpassed : DownloadSys.Step ⟨[], 21⟩ { d.openGate with running := false }
      (.arrive () downloadV2) _ := if_pos hidle
  have hd := hrun.append (.cons hbusy (.nil _))
  have hd' : Run (DownloadSys.Step ⟨[], 21⟩) d [.finish, .arrive () downloadV2] _ :=
    .cons hfinish (.cons hpassed (.nil _))
  have hu : Run (UploadSys.Step ⟨⟨[], 21⟩, [], []⟩) (UploadSys.init : UploadSys Unit)
      [.arrive () ⟨⟨131, 15, 0, 0, 0, 1⟩, [], 0⟩, .check (), .giveUp (),
        .arrive () ⟨⟨131, 15, 0, 0, 0, 2⟩, [], 0⟩] _ :=
    .cons rfl (.cons rfl (.cons rfl (.cons rfl (.nil _))))
  obtain ⟨hdownload, hupload⟩ := gates_singleFlight (ι := Unit) ⟨⟨[], 21⟩, [], []⟩
  refine ⟨d, _, _, hd, hd', hu, hrunning, ?_, rfl, hdownload _ _ (hd.append hd'), hupload _ _ hu⟩
  have hopen : ({ d.openGate with running := false } : DownloadSys Unit).task.inProgress ≠ true :=
    Bool.false_ne_true
  rw [DownloadSys.arrive, if_neg (Nat.not_lt.2 hlen), if_neg hopen]
  exact Function.update_self () (DownloadPc.filling downloadV2) d.pc

end AntennaMgmt.LogUpload
