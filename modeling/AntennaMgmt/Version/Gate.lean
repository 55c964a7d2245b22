import AntennaMgmt.Cpri.Message
import AntennaMgmt.Lib.Gate
import AntennaMgmt.Version.Download

/-!
# The gate of the version download

`g_download_task` is shared by the thread that handles requests and the download thread.  Its field
`in_progress` is the gate: a request that finds it down clears the task and raises it in one region
of the mutex, fills the task in, checks it, answers and starts the thread.  A step of the model is
one region or the work between two of them; several threads may handle requests.
-/

namespace AntennaMgmt.Version

open AntennaMgmt.Lib AntennaMgmt.Cpri

/-- `version_download_task_t`. -/
structure VersionDownloadTask where
  version : Bytes
  filePath : Bytes
  fileName : Bytes
  fileTime : Bytes
  fileLen : ℕ
  verType : UInt8
  ftpServer : Bytes
  ftpPort : ℕ
  reqHeader : CpriHeader
  inProgress : Bool
deriving DecidableEq, Repr

/-- The task after `memset`. -/
def VersionDownloadTask.zero : VersionDownloadTask :=
  ⟨[], [], [], [], 0, 0, [], 0, ⟨0, 0, 0, 0, 0, 0⟩, false⟩

/-- The configuration that the task takes the FTP server from. -/
structure FtpConfig where
  server : Bytes
  port : ℕ

/-- The fields of the task that the request handler takes from IE 14. -/
def fillTask (payload : Bytes) (task : VersionDownloadTask) : VersionDownloadTask :=
  let reqFileName := cField payload 209 16
  { task with
      version := requestVersion (cField payload 249 40) reqFileName
      filePath := (cField payload 9 200).take 199
      fileName := reqFileName.take 15
      fileTime := (cField payload 229 20).take 19
      fileLen := leNat (slice payload 225 4)
      verType := payload.getD 4 0 }

/-- The checks of the request handler, made on the task. -/
def checkTask (task : VersionDownloadTask) : Except RequestError Unit :=
  if ¬ (shellSafeName task.version = true ∧ shellSafeName task.fileName = true ∧
      (task.filePath = [] ∨ shellSafeRelpath task.filePath = true)) then .error .unsafeField
  else if 256 * 1024 * 1024 < task.fileLen then .error .tooLarge
  else .ok ()

/-- Where a call of `version_handle_download_request` stands: outside the gate; past it with the
message; before the region that opens the gate again. -/
inductive DownloadPc
  | idle
  | filling (msg : CpriMessage)
  | checking (msg : CpriMessage)
  | acking (msg : CpriMessage)
  | creating (msg : CpriMessage)
  | givingUp (error : RequestError)
deriving DecidableEq, Repr

/-- The call has passed the gate and not opened it again. -/
def DownloadPc.holds : DownloadPc → Bool
  | idle => false
  | _ => true

/-- The shared task, the calls of the threads, and whether the download thread runs. -/
abbrev DownloadSys (ι : Type*) := Flight ι DownloadPc VersionDownloadTask

/-- The steps: the first part of a call up to the end of its region, the steps of a call past the
gate with the outcomes of what they call, a write of the download thread to the task, and the
region at its end. -/
inductive DownloadAct (ι : Type*)
  | arrive (t : ι) (msg : CpriMessage)
  | fill (t : ι)
  | check (t : ι)
  | ack (t : ι) (ok : Bool)
  | create (t : ι) (ok : Bool)
  | giveUp (t : ι)
  | rename (realVersion : Bytes)
  | finish
deriving DecidableEq

namespace DownloadSys

variable {ι : Type*}

/-- After `version_manager_init`. -/
def init : DownloadSys ι := ⟨.zero, fun _ => .idle, false⟩

/-- The party that makes a step. -/
def party : DownloadAct ι → Option ι
  | .arrive t _ | .fill t | .check t | .ack t _ | .create t _ | .giveUp t => some t
  | .rename _ | .finish => none

variable [DecidableEq ι]

/-- The first part of `version_handle_download_request`. -/
def arrive (s : DownloadSys ι) (t : ι) (msg : CpriMessage) : DownloadSys ι :=
  -- dropped without an answer
  if msg.payload.length < 289 then s
  -- answered as busy
  else if s.task.inProgress then s
  else { s with task := { VersionDownloadTask.zero with inProgress := true } }.goto t (.filling msg)

/-- The checks and the rest of the task. -/
def check (ftp : FtpConfig) (s : DownloadSys ι) (t : ι) (msg : CpriMessage) : DownloadSys ι :=
  match checkTask s.task with
  | .error error => s.goto t (.givingUp error)
  | .ok _ =>
    { s with
        task :=
          { s.task with
              ftpServer := ftp.server.take 63
              ftpPort := ftp.port % 2 ^ 16
              reqHeader := msg.header } }.goto t (.acking msg)

/-- The region that opens the gate. -/
def openGate (s : DownloadSys ι) : DownloadSys ι :=
  { s with task := { s.task with inProgress := false } }

/-- The step function. -/
def next (ftp : FtpConfig) (s : DownloadSys ι) : DownloadAct ι → Option (DownloadSys ι)
  | .arrive t msg => if s.pc t = .idle then some (s.arrive t msg) else none
  | .fill t => match s.pc t with
    | .filling msg =>
      some ({ s with task := fillTask msg.payload s.task }.goto t (.checking msg))
    | _ => none
  | .check t => match s.pc t with
    | .checking msg => some (s.check ftp t msg)
    | _ => none
  | .ack t ok => match s.pc t with
    | .acking msg => some (s.goto t (if ok then .creating msg else .givingUp .ackFailed))
    | _ => none
  | .create t ok => match s.pc t with
    | .creating _ =>
      if ok then some ({ s with running := true }.goto t .idle)
      else some (s.goto t (.givingUp .threadFailed))
    | _ => none
  | .giveUp t => match s.pc t with
    | .givingUp _ => some (s.openGate.goto t .idle)
    | _ => none
  -- a firmware package is stored under the version of its metadata
  | .rename realVersion =>
    if s.running ∧ s.task.verType = 1 then
      some { s with task := { s.task with version := realVersion.take 39 } }
    else none
  | .finish => if s.running then some { s.openGate with running := false } else none

/-- One step. -/
def Step (ftp : FtpConfig) (s : DownloadSys ι) (a : DownloadAct ι) (s' : DownloadSys ι) : Prop :=
  next ftp s a = some s'

/-- The gate with the task behind it. -/
def gate (s : DownloadSys ι) : Gate (Option ι) VersionDownloadTask :=
  Flight.gate VersionDownloadTask.inProgress DownloadPc.holds s

variable {ftp : FtpConfig} {s s' : DownloadSys ι} {a : DownloadAct ι}

/-- Every step is one of its party at the gate. -/
lemma gate_step (h : Step ftp s a s') : Gate.Step (gate s) (party a) (gate s') := by
  cases a with
  | arrive t msg =>
    obtain ⟨hpc, hs⟩ := Option.ite_none_right_eq_some.1 h
    obtain rfl := Option.some.inj hs
    rw [arrive]
    split_ifs with hshort hbusy
    · exact .pass _ _
    · exact .pass _ _
    · exact Flight.gate_enter (Bool.eq_false_iff.2 hbusy) rfl rfl
  | fill t =>
    cases hpc : s.pc t <;> simp only [Step, next, hpc, reduceCtorEq] at h
    obtain rfl := Option.some.inj h
    exact Flight.gate_stay (by rw [hpc]; rfl) rfl rfl
  | check t =>
    cases hpc : s.pc t <;> simp only [Step, next, hpc, reduceCtorEq] at h
    obtain rfl := Option.some.inj h
    rw [check]
    split
    · exact Flight.gate_stay (by rw [hpc]; rfl) rfl rfl
    · exact Flight.gate_stay (by rw [hpc]; rfl) rfl rfl
  | ack t ok =>
    cases hpc : s.pc t <;> simp only [Step, next, hpc, reduceCtorEq] at h
    obtain rfl := Option.some.inj h
    exact Flight.gate_stay (by rw [hpc]; rfl) (by cases ok <;> rfl) rfl
  | create t ok =>
    cases hpc : s.pc t <;> simp only [Step, next, hpc, reduceCtorEq] at h
    split_ifs at h with hok
    · obtain rfl := Option.some.inj h
      exact Flight.gate_start (by rw [hpc]; rfl) rfl
    · obtain rfl := Option.some.inj h
      exact Flight.gate_stay (by rw [hpc]; rfl) rfl rfl
  | giveUp t =>
    cases hpc : s.pc t <;> simp only [Step, next, hpc, reduceCtorEq] at h
    obtain rfl := Option.some.inj h
    exact Flight.gate_leave (by rw [hpc]; rfl) rfl rfl
  | rename realVersion =>
    obtain ⟨hrunning, hs⟩ := Option.ite_none_right_eq_some.1 h
    obtain rfl := Option.some.inj hs
    exact Flight.gate_work hrunning.1 rfl
  | finish =>
    obtain ⟨hrunning, hs⟩ := Option.ite_none_right_eq_some.1 h
    obtain rfl := Option.some.inj hs
    exact Flight.gate_finish hrunning rfl

/-- Who is past the gate can go on. -/
lemma goesOn (ftp : FtpConfig) (s : DownloadSys ι) (p : Option ι)
    (hp : (gate s).inside p = true) : ∃ a s', party a = p ∧ Step ftp s a s' := by
  cases p with
  | none => exact ⟨.finish, _, rfl, if_pos hp⟩
  | some t =>
    change (s.pc t).holds = true at hp
    cases hpc : s.pc t with
    | idle =>
      rw [hpc] at hp
      cases hp
    | filling msg => exact ⟨.fill t, _, rfl, by rw [Step, next, hpc]⟩
    | checking msg => exact ⟨.check t, _, rfl, by rw [Step, next, hpc]⟩
    | acking msg => exact ⟨.ack t true, _, rfl, by rw [Step, next, hpc]⟩
    | creating msg => exact ⟨.create t true, _, rfl, by rw [Step, next, hpc, if_pos rfl]⟩
    | givingUp error => exact ⟨.giveUp t, _, rfl, by rw [Step, next, hpc]⟩

omit [DecidableEq ι] in
lemma inv_init : (gate (init : DownloadSys ι)).Inv :=
  Gate.inv_of_open rfl fun p => by cases p <;> rfl

/-- The checks are those of the whole request handler, run without other threads. -/
lemma checkTask_fillTask {payload : Bytes} (h : 289 ≤ payload.length) :
    checkTask (fillTask payload { VersionDownloadTask.zero with inProgress := true }) = .ok () ↔
      ∃ task, versionHandleDownloadRequest false true true payload = .ok task := by
  rw [checkTask, fillTask, versionHandleDownloadRequest, if_neg (Nat.not_lt.2 h)]
  simp only [Bool.false_eq_true, if_false]
  by_cases hsafe : shellSafeName (requestVersion (cField payload 249 40)
      (cField payload 209 16)) = true ∧
    shellSafeName ((cField payload 209 16).take 15) = true ∧
    ((cField payload 9 200).take 199 = [] ∨
      shellSafeRelpath ((cField payload 9 200).take 199) = true)
  · by_cases hlen : leNat (slice payload 225 4) ≤ 256 * 1024 * 1024
    · rw [if_neg (not_not.2 hsafe), if_neg (Nat.not_lt.2 hlen), dif_pos hsafe, dif_pos hlen]
      exact ⟨fun _ => ⟨_, rfl⟩, fun _ => rfl⟩
    · rw [if_neg (not_not.2 hsafe), if_pos (Nat.not_le.1 hlen), dif_pos hsafe, dif_neg hlen]
      exact ⟨nofun, nofun⟩
  · rw [if_pos hsafe, dif_neg hsafe]
    exact ⟨nofun, nofun⟩

variable (ftp) in
/-- A request that passes the checks at an open gate closes it and comes to the thread. -/
lemma exists_accepted {msg : CpriMessage} (hlen : 289 ≤ msg.payload.length)
    (hchecked : checkTask (fillTask msg.payload
      { VersionDownloadTask.zero with inProgress := true }) = .ok ()) {t : ι}
    (hidle : s.pc t = .idle) (hopen : s.task.inProgress = false) :
    ∃ s', Run (Step ftp) s [.arrive t msg, .fill t, .check t, .ack t true, .create t true] s' ∧
      s'.pc t = .idle ∧ s'.running = true ∧ s'.task.inProgress = true := by
  set task := { VersionDownloadTask.zero with inProgress := true }
  set s₁ := { s with task := task }.goto t (.filling msg)
  set s₂ := { s₁ with task := fillTask msg.payload task }.goto t (.checking msg)
  set s₃ := { s₂ with
    task := { fillTask msg.payload task with
      ftpServer := ftp.server.take 63
      ftpPort := ftp.port % 2 ^ 16
      reqHeader := msg.header } }.goto t (.acking msg)
  have harrive : Step ftp s (.arrive t msg) s₁ := by
    rw [Step, next, if_pos hidle, arrive, if_neg (Nat.not_lt.2 hlen), hopen]
    rfl
  have hfill : Step ftp s₁ (.fill t) s₂ := by
    rw [Step, next, show s₁.pc t = .filling msg from Function.update_self ..]
    rfl
  have hcheck : Step ftp s₂ (.check t) s₃ := by
    rw [Step, next, show s₂.pc t = .checking msg from Function.update_self ..]
    dsimp only
    rw [check, show s₂.task = fillTask msg.payload task from rfl, hchecked]
  have hack : Step ftp s₃ (.ack t true) (s₃.goto t (.creating msg)) := by
    rw [Step, next, show s₃.pc t = .acking msg from Function.update_self ..]
    rfl
  have hcreate : Step ftp (s₃.goto t (.creating msg)) (.create t true)
      ({ s₃.goto t (.creating msg) with running := true }.goto t .idle) := by
    rw [Step, next, show (s₃.goto t (.creating msg)).pc t = .creating msg from
      Function.update_self ..]
    rfl
  exact ⟨_, .cons harrive (.cons hfill (.cons hcheck (.cons hack (.cons hcreate (.nil _))))),
    Function.update_self .., rfl, rfl⟩

end DownloadSys

end AntennaMgmt.Version
