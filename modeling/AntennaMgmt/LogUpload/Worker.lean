import AntennaMgmt.Lib.Text
import AntennaMgmt.LogUpload.Gate
import AntennaMgmt.Shell.Path
import Mathlib.Data.List.DropRight

/-!
# The upload thread

`log_upload_thread_func` copies the text log and the telemetry log into a directory of its own,
packs the copies, has the package transferred and removes what it made.  The two copies lie side by
side under the names of the logs, so that the names have to differ.
-/

namespace AntennaMgmt.LogUpload

open AntennaMgmt.Lib AntennaMgmt.Shell

/-! ### Names -/

/-- `basename`. -/
def basename (path : Bytes) : Bytes :=
  if path = [] then ascii "."
  else if path.rdropWhile (· == slash) = [] then [slash]
  else (path.rdropWhile (· == slash)).rtakeWhile (· != slash)

/-- `path_basename_or` with 64 bytes for the name. -/
def pathBasenameOr (dupOk : Bool) (path fallback : Bytes) : Bytes :=
  if ¬ dupOk then fallback.take 63
  else
    let base := basename path
    if base = [slash] ∨ base = ascii "." ∨ base = ascii ".." then fallback.take 63
    else base.take 63

/-- The name of the package. -/
def pkgName : Bytes := ascii "log_upload_pkg.tgz"

/-- `%02d` of a number below 100. -/
def twoDigits (n : ℕ) : Bytes := [UInt8.ofNat (48 + n / 10), UInt8.ofNat (48 + n % 10)]

/-- The month or the day, or 1 when it is out of range. -/
def clamped (n : ℤ) (max : ℕ) : ℕ := if n < 1 ∨ max < n then 1 else n.toNat

/-- The name of the package at the server: the date, as `localtime_r` gives it. -/
def remoteName (date : Option (ℤ × ℤ)) : Bytes :=
  ascii "PAAU" ++ twoDigits (clamped (date.elim 1 (·.1 + 1)) 12) ++
    twoDigits (clamped (date.elim 1 (·.2)) 31) ++ ascii ".tgz"

/-- The URL of `ftp_upload_file_with_curl`. -/
def ftpUrl (task : LogUploadTask) (fileName : Bytes) : Bytes :=
  let server := ascii "ftp://" ++ task.ftpServer ++ ascii ":" ++ decimal task.ftpPort
  let url :=
    if task.storePath = [] then server ++ [slash] ++ fileName
    else if task.storePath.head? = some slash then server ++ task.storePath ++ [slash] ++ fileName
    else server ++ [slash] ++ task.storePath ++ [slash] ++ fileName
  url.take 511

/-! ### The thread -/

/-- What the thread meets: whether `strdup` succeeds for the two names, whether the text log is
there, what `cp` copies, the size of the telemetry log, what `telemetry_log_snapshot` copies, how
`tar` ends, the date, the status of `curl`, and which files can be removed.  What fails may leave
something behind in the place of its file. -/
structure UploadEnv where
  dupText : Bool
  dupTel : Bool
  logExists : Bool
  copy : Except (Option Bytes) Bytes
  telSize : Option ℕ
  snapshot : Except (Option Bytes) Bytes
  tar : Except (Option Bytes) Unit
  date : Option (ℤ × ℤ)
  curlStatus : ℤ
  unlinkOk : Bytes → Bool

/-- `LOG_UPLOAD_SUCCESS` and so on. -/
inductive UploadResult
  | success
  | fileNotExist
  | failed
deriving DecidableEq, Repr

/-- What an archive holds: the files in it, with their names. -/
abbrev Archive := List (Bytes × Bytes)

/-- What the thread comes to: the result, the name in the report, and the package that the server
has got, under its URL. -/
structure Outcome where
  result : UploadResult
  fileName : Bytes
  upload : Option (Bytes × Archive)
deriving DecidableEq, Repr

/-- What a file holds. -/
inductive File
  | data (bytes : Bytes)
  | package (archive : Archive)
deriving DecidableEq, Repr

/-- The files in `g_upload_tmp_dir`. -/
abbrev TmpDir := Bytes → Option File

/-- The name of the text log in the package. -/
def textName (e : UploadEnv) (task : LogUploadTask) : Bytes :=
  pathBasenameOr e.dupText task.logFilePath (ascii "antenna_mgmt.log")

/-- The name of the telemetry log in the package, with a suffix if it is that of the text log. -/
def telName (e : UploadEnv) (task : LogUploadTask) : Bytes :=
  let name := pathBasenameOr e.dupTel task.telLogPath (ascii "telemetry.bin")
  if textName e task = name then (textName e task ++ ascii ".tel").take 63 else name

/-- The snapshot of the telemetry log, if the log is not empty: whether it was made. -/
def takeSnapshot (e : UploadEnv) (name : Bytes) (tmp : TmpDir) : Bool × TmpDir :=
  if e.telSize.any (0 < ·) then
    match e.snapshot with
    | .ok frames => (true, Function.update tmp name (some (.data frames)))
    | .error left => (false, Function.update tmp name (left.map .data))
  else (false, tmp)

/-- The files that `tar` packs: it does not pack the package itself. -/
def packed (tmp : TmpDir) (names : List Bytes) : Archive :=
  names.filterMap fun name =>
    if name = pkgName then none
    else
      match tmp name with
      | some (.data bytes) => some (name, bytes)
      | _ => none

/-- The removal of files. -/
def unlinkAll (e : UploadEnv) (names : List Bytes) (tmp : TmpDir) : TmpDir :=
  names.foldl (fun tmp name => if e.unlinkOk name then Function.update tmp name none else tmp) tmp

/-- `log_upload_thread_func` up to the report. -/
def logUploadThread (e : UploadEnv) (task : LogUploadTask) (tmp : TmpDir) : Outcome × TmpDir :=
  if ¬ e.logExists then (⟨.fileNotExist, [], none⟩, tmp)
  else
    match e.copy with
    | .error left => (⟨.failed, [], none⟩, Function.update tmp (textName e task) (left.map .data))
    | .ok log =>
      let tmp := Function.update tmp (textName e task) (some (.data log))
      let (telCreated, tmp) := takeSnapshot e (telName e task) tmp
      let copies := textName e task :: if telCreated then [telName e task] else []
      match e.tar with
      | .error left =>
        (⟨.failed, [], none⟩,
          unlinkAll e copies.reverse (Function.update tmp pkgName (left.map .data)))
      | .ok () =>
        let package := packed tmp copies
        let tmp := Function.update tmp pkgName (some (.package package))
        let made := pkgName :: copies.reverse
        let fileName := remoteName e.date
        if 16 ≤ fileName.length then (⟨.failed, fileName.take 15, none⟩, unlinkAll e made tmp)
        else if e.curlStatus ≠ 0 then (⟨.failed, fileName, none⟩, unlinkAll e made tmp)
        else
          (⟨.success, fileName, some (ftpUrl task fileName, package)⟩, unlinkAll e made tmp)

/-! ### What the package holds -/

/-- The copies that are made, each under its name. -/
def copies (e : UploadEnv) (task : LogUploadTask) : Archive :=
  match e.copy with
  | .error _ => []
  | .ok log => (textName e task, log) ::
    if e.telSize.any (0 < ·) then
      match e.snapshot with
      | .ok frames => [(telName e task, frames)]
      | .error _ => []
    else []

variable {e : UploadEnv} {task : LogUploadTask} {tmp : TmpDir} {log : Bytes}

lemma length_remoteName (date : Option (ℤ × ℤ)) : (remoteName date).length = 12 := rfl

/-- The files that the thread packs. -/
def packedNames (e : UploadEnv) (task : LogUploadTask) (telCreated : Bool) : List Bytes :=
  textName e task :: if telCreated then [telName e task] else []

/-- A package that is made is transferred or not, and removed. -/
lemma logUploadThread_of_packed (hexists : e.logExists = true) (hcopy : e.copy = .ok log)
    (htar : e.tar = .ok ())
    {telCreated : Bool} {tmp' : TmpDir} (hsnap : takeSnapshot e (telName e task)
      (Function.update tmp (textName e task) (some (.data log))) = (telCreated, tmp')) :
    logUploadThread e task tmp =
      let package := packed tmp' (packedNames e task telCreated)
      (if e.curlStatus = 0 then
          ⟨.success, remoteName e.date, some (ftpUrl task (remoteName e.date), package)⟩
        else ⟨.failed, remoteName e.date, none⟩,
        unlinkAll e (pkgName :: (packedNames e task telCreated).reverse)
          (Function.update tmp' pkgName (some (.package package)))) := by
  rw [logUploadThread, if_neg (not_not_intro hexists), hcopy]
  dsimp only
  rw [hsnap, htar]
  dsimp only
  rw [if_neg (by rw [length_remoteName]; decide), packedNames]
  by_cases hcurl : e.curlStatus = 0
  · rw [if_neg (not_not_intro hcurl), if_pos hcurl]
  · rw [if_pos hcurl, if_neg hcurl]

/-- The name in the report is empty or that of the package at the server. -/
lemma fileName_logUploadThread (e : UploadEnv) (task : LogUploadTask) (tmp : TmpDir) :
    (logUploadThread e task tmp).1.fileName = [] ∨
      (logUploadThread e task tmp).1.fileName = remoteName e.date := by
  by_cases hexists : e.logExists = true
  swap
  · exact .inl (by rw [logUploadThread, if_pos hexists])
  cases hcopy : e.copy with
  | error left =>
    left
    rw [logUploadThread, if_neg (not_not_intro hexists), hcopy]
  | ok log =>
  obtain ⟨⟨telCreated, tmp'⟩, hsnap⟩ : ∃ r, takeSnapshot e (telName e task)
      (Function.update tmp (textName e task) (some (.data log))) = r := ⟨_, rfl⟩
  cases htar : e.tar with
  | error left =>
    left
    rw [logUploadThread, if_neg (not_not_intro hexists), hcopy]
    dsimp only
    rw [hsnap, htar]
  | ok u =>
    right
    rw [logUploadThread_of_packed hexists hcopy htar hsnap]
    dsimp only
    split_ifs <;> rfl

lemma clamped_le {n : ℤ} {max : ℕ} (hmax : 1 ≤ max) : clamped n max ≤ max := by
  rw [clamped]
  split_ifs <;> omega

lemma zero_not_mem_twoDigits {n : ℕ} (hn : n < 100) : 0 ∉ twoDigits n := by
  have hdigit : ∀ {d : ℕ}, d < 10 → (0 : UInt8) ≠ UInt8.ofNat (48 + d) := by
    intro d hd heq
    have hnat := toNat_digit hd
    rw [← heq] at hnat
    change 0 = 48 + d at hnat
    omega
  rw [twoDigits, List.mem_cons, List.mem_singleton, not_or]
  exact ⟨hdigit (by omega), hdigit (by omega)⟩

lemma zero_not_mem_remoteName (date : Option (ℤ × ℤ)) : 0 ∉ remoteName date := by
  have hmonth : clamped (date.elim 1 (·.1 + 1)) 12 ≤ 12 := clamped_le (by decide)
  have hday : clamped (date.elim 1 (·.2)) 31 ≤ 31 := clamped_le (by decide)
  simp only [remoteName, List.mem_append, not_or]
  exact ⟨⟨⟨by decide, zero_not_mem_twoDigits (by omega)⟩, zero_not_mem_twoDigits (by omega)⟩,
    by decide⟩

end AntennaMgmt.LogUpload
