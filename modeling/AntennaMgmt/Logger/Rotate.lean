import AntennaMgmt.Lib.Text
import AntennaMgmt.Telemetry.Rotation

/-!
# The text log and its backups

`logger_log` appends a line to the log file, and rotates the file first when it has grown too large.
`logger_rotate` is a second copy of the rotation of the telemetry log, which writes a line at the
end of the old file and one at the start of the new one, and gives up when the log file cannot be
renamed.  The file says when the two logs keep their newest generations.
-/

namespace AntennaMgmt.Logger

open AntennaMgmt.Lib AntennaMgmt.Telemetry

/-! ### The files -/

/-- `log_level_t`. -/
inductive LogLevel
  | debug
  | info
  | warn
  | error
deriving DecidableEq, Repr

/-- `log_level_str`. -/
def LogLevel.str : LogLevel → Bytes
  | .debug => ascii "DEBUG"
  | .info => ascii "INFO"
  | .warn => ascii "WARN"
  | .error => ascii "ERROR"

/-- The number of a level. -/
def LogLevel.number : LogLevel → ℕ
  | .debug => 0
  | .info => 1
  | .warn => 2
  | .error => 3

/-- The settings of the log. -/
structure LogConfig where
  path : Bytes
  level : LogLevel
  maxSize : ℕ
  maxBackups : ℕ
  rotateOnStartup : Bool
deriving DecidableEq, Repr

/-- The log files and the account of them: `files 0` is the one at `g_log_file_path`, `files i` the
one with the suffix `.i`.  `file` says that `g_log_file` is open. -/
structure LogFile where
  files : ℕ → Option Bytes
  file : Bool
  bytes : ℕ

namespace LogFile

/-- `fprintf` to `g_log_file`. -/
def fprintf (s : LogFile) (text : Bytes) : LogFile :=
  { s with files := Function.update s.files 0 ((s.files 0).map (· ++ text)) }

/-- `fopen` of the log file for appending. -/
def fopen (s : LogFile) (opens : Bool) : LogFile :=
  if opens then
    { s with files := Function.update s.files 0 (some ((s.files 0).getD [])), file := true }
  else { s with file := false }

lemma fprintf_files (s : LogFile) (text : Bytes) {i : ℕ} (hi : 1 ≤ i) :
    (s.fprintf text).files i = s.files i :=
  Function.update_of_ne (by omega) _ _

end LogFile

/-- The line at the end of the old file. -/
def startLine (time : Bytes) : Bytes :=
  ascii "[" ++ time ++ ascii "] [INFO] Starting log rotation...\n"

/-- The line at the start of the new file. -/
def completedLine (config : LogConfig) (time : Bytes) : Bytes :=
  ascii "[" ++ time ++ ascii "] [INFO] Log rotation completed, old log saved as " ++
    config.path ++ ascii ".1\n"

/-- `logger_rotate` up to the point where the old file is closed. -/
def closeLog (time : Bytes) (s : LogFile) : LogFile :=
  if s.file then { s.fprintf (startLine time) with file := false } else s

/-- `logger_rotate`, with whether it returns `SUCCESS`. -/
def loggerRotate (config : LogConfig) (e : RotateEnv) (time : Bytes) (s : LogFile) :
    LogFile × Bool :=
  let s := closeLog time s
  let files := if 0 < config.maxBackups ∧ e.unlinks then
    Function.update s.files config.maxBackups none else s.files
  let files := renameBackups e (config.maxBackups - 1) files
  if (files 0).isSome ∧ e.renames 0 then
    let s := LogFile.fopen { s with files := renameUp e 0 files } e.reopens
    if s.file then ({ s.fprintf (completedLine config time) with bytes := 0 }, true)
    else (s, false)
  else (LogFile.fopen { s with files := files } e.reopens, false)

/-- `logger_check_and_rotate`. -/
def loggerCheckAndRotate (config : LogConfig) (e : RotateEnv) (time : Bytes) (s : LogFile) :
    LogFile × Bool :=
  if s.bytes < config.maxSize then (s, true)
  else match s.files 0 with
    | none => (s, true)
    | some content =>
      -- the account is set right when the file was cut by somebody else
      if content.length < config.maxSize then ({ s with bytes := content.length }, true)
      else loggerRotate config e time s

/-- A call of `logger_log`: its arguments with the formatted message, the time, that of the rotation
if it comes to one, and the results of the file operations. -/
structure LogCall where
  level : LogLevel
  file : Bytes
  line : ℕ
  message : Bytes
  time : Bytes
  rotationTime : Bytes
  rotation : RotateEnv
  prints : Bool

/-- The line that `logger_log` writes; the message is cut to the size of `log_buf`. -/
def LogCall.text (c : LogCall) : Bytes :=
  ascii "[" ++ c.time ++ ascii "] [" ++ c.level.str ++ ascii "] [" ++ c.file ++ ascii ":" ++
    decimal c.line ++ ascii "] " ++ c.message.take 1023 ++ ascii "\n"

/-- `logger_log`. -/
def loggerLog (config : LogConfig) (c : LogCall) (s : LogFile) : LogFile :=
  if c.level.number < config.level.number then s
  else
    let s := (loggerCheckAndRotate config c.rotation c.rotationTime s).1
    if s.file ∧ c.prints then
      { s.fprintf c.text with bytes := s.bytes + c.text.length }
    else s

/-- `logger_init` behind the directory: the rotation on startup, and the opening of the file. -/
def loggerInit (config : LogConfig) (e : RotateEnv) (time : Bytes) (opens : Bool) (s : LogFile) :
    LogFile :=
  let s := match s.files 0 with
    | none => s
    | some content =>
      if config.rotateOnStartup ∧ config.maxSize ≤ content.length then
        (loggerRotate config e time (s.fopen opens)).1
      else s
  let s := s.fopen opens
  if s.file then { s with bytes := ((s.files 0).getD []).length } else s

/-! ### Rotations -/

/-- What happens to the text log: the file is written to, or it is rotated, with all file operations
succeeding.  The line that the rotation starts with belongs to the generation. -/
def logStep (config : LogConfig) (s : LogFile) : LogEvent Bytes → LogFile → Prop
  | .written, s' =>
    ∃ content file bytes, s' = ⟨Function.update s.files 0 content, file, bytes⟩
  | .rotated generation, s' =>
    ∃ (e : RotateEnv) (time : Bytes), e.AllSucceed ∧ (closeLog time s).files 0 = some generation ∧
      s' = (loggerRotate config e time s).1

section Rotate

variable (config : LogConfig) {e : RotateEnv} {time : Bytes} {s : LogFile}

lemma closeLog_files (time : Bytes) (s : LogFile) {i : ℕ} (hi : 1 ≤ i) :
    (closeLog time s).files i = s.files i := by
  rw [closeLog]
  split_ifs
  · exact s.fprintf_files (startLine time) hi
  · rfl

/-- The files of a rotation that succeeds, but for the new log file. -/
lemma loggerRotate_files (he : e.AllSucceed) {g : Bytes}
    (hcurrent : (closeLog time s).files 0 = some g) {i : ℕ} (hi : 1 ≤ i) :
    (loggerRotate config e time s).1.files i =
      rotatedFiles e config.maxBackups (closeLog time s).files i := by
  have hunlink : (if 0 < config.maxBackups then
      Function.update (closeLog time s).files config.maxBackups none
      else (closeLog time s).files) 0 = some g := by
    split_ifs with hmax
    · rw [Function.update_of_ne (by omega), hcurrent]
    · exact hcurrent
  rw [loggerRotate, rotatedFiles]
  simp only [he.1, he.2.1 0, and_true, renameBackups_zero, hunlink, Option.isSome_some, if_true]
  rw [LogFile.fopen, if_pos he.2.2]
  simp only [if_true]
  rw [LogFile.fprintf_files _ _ hi]
  exact Function.update_of_ne (by omega) _ _

/-- The text log as a log that is rotated. -/
lemma logStep_rotates : Rotates config.maxBackups LogFile.files (logStep config) where
  written := by
    rintro s s' ⟨content, file, bytes, rfl⟩ i hi
    exact Function.update_of_ne (by omega) _ _
  rotated := by
    rintro hmax s g s' ⟨e, time, he, hcurrent, rfl⟩
    exact (rotatedFiles_shifts he.2.1 hmax hcurrent).congr
      (fun i hi => (closeLog_files time s hi).symm)
      fun i hi => loggerRotate_files config he hcurrent hi
  first := by
    rintro s g s' ⟨e, time, he, hcurrent, rfl⟩
    rw [loggerRotate_files config he hcurrent le_rfl]
    exact rotatedFiles_first he.2.1 config.maxBackups hcurrent

/-! ### The calls -/

lemma run_written (content : Option Bytes) (file : Bool) (bytes : ℕ) :
    ∃ events, Run (logStep config) s events ⟨Function.update s.files 0 content, file, bytes⟩ := by
  have hstep : logStep config s .written ⟨Function.update s.files 0 content, file, bytes⟩ :=
    ⟨content, file, bytes, rfl⟩
  exact ⟨[.written], .cons hstep (.nil _)⟩

lemma run_bytes (bytes : ℕ) :
    ∃ events, Run (logStep config) s events { s with bytes := bytes } := by
  have hrun := run_written config (s := s) (s.files 0) s.file bytes
  rwa [Function.update_eq_self] at hrun

lemma run_loggerRotate (he : e.AllSucceed) (hcurrent : s.files 0 ≠ none) :
    ∃ events, Run (logStep config) s events (loggerRotate config e time s).1 := by
  have hclosed : (closeLog time s).files 0 ≠ none := by
    rw [closeLog]
    split_ifs
    · simpa [LogFile.fprintf] using hcurrent
    · exact hcurrent
  obtain ⟨g, hg⟩ := Option.ne_none_iff_exists'.1 hclosed
  have hstep : logStep config s (.rotated g) (loggerRotate config e time s).1 :=
    ⟨e, time, he, hg, rfl⟩
  exact ⟨[.rotated g], .cons hstep (.nil _)⟩

lemma run_loggerCheckAndRotate (he : e.AllSucceed) :
    ∃ events, Run (logStep config) s events (loggerCheckAndRotate config e time s).1 := by
  rw [loggerCheckAndRotate]
  split_ifs with hbytes
  · exact ⟨[], .nil s⟩
  · cases hfile : s.files 0 with
    | none => exact ⟨[], .nil s⟩
    | some content =>
      dsimp only
      split_ifs with hsize
      · exact run_bytes config content.length
      · exact run_loggerRotate config he (by simp [hfile])

/-- `logger_log` does nothing else with the files: a call comes to a run of writes and rotations. -/
lemma loggerLog_run {c : LogCall} (he : c.rotation.AllSucceed) :
    ∃ events, Run (logStep config) s events (loggerLog config c s) := by
  rw [loggerLog]
  split_ifs with hlevel
  · exact ⟨[], .nil s⟩
  · have hchecked : ∃ events, Run (logStep config) s events
        (loggerCheckAndRotate config c.rotation c.rotationTime s).1 :=
      run_loggerCheckAndRotate config he
    refine Run.exists_append hchecked ?_
    dsimp only
    split_ifs with hopen
    · exact run_written config _ _ _
    · exact ⟨[], .nil _⟩

/-- Nor does `logger_init`. -/
lemma loggerInit_run (he : e.AllSucceed) :
    ∃ events, Run (logStep config) s events (loggerInit config e time true s) := by
  have hstartup : ∃ events, Run (logStep config) s events
      (match s.files 0 with
        | none => s
        | some content =>
          if config.rotateOnStartup ∧ config.maxSize ≤ content.length then
            (loggerRotate config e time (s.fopen true)).1
          else s) := by
    cases hfile : s.files 0 with
    | none => exact ⟨[], .nil s⟩
    | some content =>
      dsimp only
      split_ifs with hsize
      · have hopened : (s.fopen true).files 0 ≠ none := by simp [LogFile.fopen]
        exact Run.exists_append (run_written config _ _ _) (run_loggerRotate config he hopened)
      · exact ⟨[], .nil s⟩
  refine Run.exists_append hstartup ?_
  exact run_written config _ _ _

end Rotate

/-! ### Both logs -/

/-- A run of the telemetry log and a run of the text log each keep the newest generations exactly
when a backup may be kept, or nothing was rotated out, and the old backups leave room. -/
theorem logs_keepNewest_iff {tel : TelConfig} {log : LogConfig} {s s' : TelFile} {t t' : LogFile}
    {events events' : List (LogEvent Bytes)} (hs : Run (telStep tel) s events s')
    (ht : Run (logStep log) t events' t') :
    (KeepsNewest tel.maxBackups (generations events) s'.files ↔
      (0 < tel.maxBackups ∨ generations events = []) ∧
        Room tel.maxBackups (generations events).length s.files) ∧
    (KeepsNewest log.maxBackups (generations events') t'.files ↔
      (0 < log.maxBackups ∨ generations events' = []) ∧
        Room log.maxBackups (generations events').length t.files) :=
  ⟨(telStep_rotates tel).keepsNewest_iff hs, (logStep_rotates log).keepsNewest_iff ht⟩

/-- File operations that all succeed. -/
def success : RotateEnv := ⟨true, fun _ => true, true⟩

lemma success_allSucceed : success.AllSucceed := ⟨rfl, fun _ => rfl, rfl⟩

/-- A log file without backups. -/
def onlyFile (content : Bytes) (i : ℕ) : Option Bytes := if i = 0 then some content else none

lemma onlyFile_eq_none (content : Bytes) (i : ℕ) (hi : 1 ≤ i) : onlyFile content i = none :=
  if_neg (by omega)

/-- The settings of the text log with the given number of backups. -/
def keeping (maxBackups : ℕ) : LogConfig := ⟨ascii "log", .info, 1, maxBackups, false⟩

/-- Each of the texts is written to the log, and rotated out with the line `last` behind it. -/
def rotations (last : Bytes) (texts : List Bytes) : List (LogEvent Bytes) :=
  texts.flatMap fun text => [.written, .rotated (text ++ last)]

lemma run_telRotations (config : TelConfig) (texts : List Bytes) (s : TelFile) :
    ∃ s', Run (telStep config) s (rotations [] texts) s' := by
  induction texts generalizing s with
  | nil => exact ⟨s, .nil s⟩
  | cons text texts ih =>
    let t : TelFile := ⟨Function.update s.files 0 (some text), true, [], text.length⟩
    have hwritten : telStep config s .written t := ⟨some text, true, [], text.length, rfl⟩
    have hrotated : telStep config t (.rotated (text ++ []))
        (telRotateLocked config smoothRotation t) :=
      ⟨smoothRotation, ⟨rfl, smoothRotation_succeeds⟩,
        by simp [t, TelFile.close, TelFile.fflush, TelFile.out], rfl⟩
    obtain ⟨s', hrest⟩ := ih (telRotateLocked config smoothRotation t)
    exact ⟨s', .cons hwritten (.cons hrotated hrest)⟩

lemma run_logRotations (config : LogConfig) (time : Bytes) (texts : List Bytes) (s : LogFile) :
    ∃ s', Run (logStep config) s (rotations (startLine time) texts) s' := by
  induction texts generalizing s with
  | nil => exact ⟨s, .nil s⟩
  | cons text texts ih =>
    let t : LogFile := ⟨Function.update s.files 0 (some text), true, text.length⟩
    have hwritten : logStep config s .written t := ⟨some text, true, text.length, rfl⟩
    have hrotated : logStep config t (.rotated (text ++ startLine time))
        (loggerRotate config success time t).1 :=
      ⟨success, time, success_allSucceed, by simp [t, closeLog, LogFile.fprintf], rfl⟩
    obtain ⟨s', hrest⟩ := ih (loggerRotate config success time t).1
    exact ⟨s', .cons hwritten (.cons hrotated hrest)⟩

/-- Three rotations, with two backups to keep: the oldest generation is out. -/
theorem logs_keepNewest_three :
    ∃ s t, Run (telStep ⟨1, 2⟩) ⟨onlyFile [], true, [], 0⟩ (rotations [] [[7], [8], [9]]) s ∧
      Run (logStep (keeping 2)) ⟨onlyFile [], true, 0⟩
        (rotations (startLine []) [[7], [8], [9]]) t ∧
      KeepsNewest 2 [[9], [8], [7]] s.files ∧
      KeepsNewest 2 [9 :: startLine [], 8 :: startLine [], 7 :: startLine []] t.files := by
  obtain ⟨s, hs⟩ := run_telRotations ⟨1, 2⟩ [[7], [8], [9]] ⟨onlyFile [], true, [], 0⟩
  obtain ⟨t, ht⟩ := run_logRotations (keeping 2) [] [[7], [8], [9]] ⟨onlyFile [], true, 0⟩
  have hboth := logs_keepNewest_iff hs ht
  have hroom : Room 2 3 (onlyFile []) :=
    .of_none_above 3 fun i hi => onlyFile_eq_none [] i (by omega)
  exact ⟨s, t, hs, ht, hboth.1.2 ⟨.inl Nat.two_pos, hroom⟩, hboth.2.2 ⟨.inl Nat.two_pos, hroom⟩⟩

lemma run_tel (max : ℕ) : Run (telStep ⟨1, max⟩) ⟨onlyFile [7], true, [], 1⟩ [.rotated [7]]
    (telRotateLocked ⟨1, max⟩ smoothRotation ⟨onlyFile [7], true, [], 1⟩) :=
  .cons ⟨smoothRotation, ⟨rfl, smoothRotation_succeeds⟩, rfl, rfl⟩ (.nil _)

lemma run_log (max : ℕ) : Run (logStep (keeping max)) ⟨onlyFile [7], false, 1⟩ [.rotated [7]]
    (loggerRotate (keeping max) success [] ⟨onlyFile [7], false, 1⟩).1 :=
  .cons ⟨success, [], success_allSucceed, rfl, rfl⟩ (.nil _)

/-- One rotation, with no backup to keep: each log keeps one. -/
theorem logs_keep_none :
    Run (telStep ⟨1, 0⟩) ⟨onlyFile [7], true, [], 1⟩ [.rotated [7]]
      (telRotateLocked ⟨1, 0⟩ smoothRotation ⟨onlyFile [7], true, [], 1⟩) ∧
    ¬ KeepsNewest 0 [[7]]
      (telRotateLocked ⟨1, 0⟩ smoothRotation ⟨onlyFile [7], true, [], 1⟩).files ∧
    Run (logStep (keeping 0)) ⟨onlyFile [7], false, 1⟩ [.rotated [7]]
      (loggerRotate (keeping 0) success [] ⟨onlyFile [7], false, 1⟩).1 ∧
    ¬ KeepsNewest 0 [[7]]
      (loggerRotate (keeping 0) success [] ⟨onlyFile [7], false, 1⟩).1.files := by
  refine ⟨run_tel 0, fun hkept => ?_, run_log 0, fun hkept => ?_⟩
  · exact (telStep_rotates ⟨1, 0⟩).first_ne_none (run_tel 0) (.inl (by simp [generations]))
      hkept.not_zero
  · exact (logStep_rotates (keeping 0)).first_ne_none (run_log 0) (.inl (by simp [generations]))
      hkept.not_zero

end AntennaMgmt.Logger
