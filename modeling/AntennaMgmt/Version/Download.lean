import AntennaMgmt.Version.Trial
import Mathlib.Logic.Function.Basic

/-!
# Download of a version package

`version_handle_download_request` takes the request apart and starts a thread, which fetches
the package, unpacks it and installs it.  A software package is unpacked in place, a firmware
package in a staging directory that is renamed when it has been checked.
-/

namespace AntennaMgmt.Version

open AntennaMgmt.Lib

/-! ### The request -/

/-- `shell_safe_relpath`, for a path that is not empty. -/
def shellSafeRelpath (path : Bytes) : Bool :=
  path ≠ [] && path.length ≤ 255 && path.all (fun c => 32 ≤ c.toNat && c.toNat ≠ 127) &&
    (path.splitOn 47).all (· ≠ ascii "..")

/-- What stands before the first occurrence of `pat` (`strstr`). -/
def beforeInfix (pat : Bytes) : Bytes → Option Bytes
  | [] => if pat = [] then some [] else none
  | b :: s => if pat.isPrefixOf (b :: s) then some [] else (beforeInfix pat s).map (b :: ·)

/-- The string in a field of fixed size. -/
def cField (payload : Bytes) (offset size : ℕ) : Bytes :=
  (slice payload offset size).takeWhile (· ≠ 0)

/-- The version of a request: `file_ver`, or the file name without its suffix. -/
def requestVersion (fileVer fileName : Bytes) : Bytes :=
  if fileVer ≠ [] then fileVer.take 39
  else ((beforeInfix (ascii ".tar.gz") fileName).getD fileName).take 39

/-- `version_download_task_t`, as far as the thread reads it, with what the request handler has
checked. -/
structure DownloadTask where
  version : Bytes
  filePath : Bytes
  fileName : Bytes
  fileTime : Bytes
  fileLen : ℕ
  verType : UInt8
  version_safe : shellSafeName version = true
  fileName_safe : shellSafeName fileName = true
  filePath_safe : filePath = [] ∨ shellSafeRelpath filePath = true
  fileLen_le : fileLen ≤ 256 * 1024 * 1024

/-- How the request handler turns a request down. -/
inductive RequestError
  | tooShort
  | busy
  | unsafeField
  | tooLarge
  | ackFailed
  | threadFailed
deriving DecidableEq, Repr

/-- `version_handle_download_request` on the payload of IE 14: the task of the thread it
starts.  `inProgress` is the flag of the running task. -/
def versionHandleDownloadRequest (inProgress ackOk threadOk : Bool) (payload : Bytes) :
    Except RequestError DownloadTask :=
  if payload.length < 289 then .error .tooShort
  else if inProgress then .error .busy
  else
    let verType := payload.getD 4 0
    let filePath := (cField payload 9 200).take 199
    let reqFileName := cField payload 209 16
    let fileName := reqFileName.take 15
    let fileLen := leNat (slice payload 225 4)
    let fileTime := (cField payload 229 20).take 19
    let version := requestVersion (cField payload 249 40) reqFileName
    if hsafe : shellSafeName version = true ∧ shellSafeName fileName = true ∧
        (filePath = [] ∨ shellSafeRelpath filePath = true) then
      if hlen : fileLen ≤ 256 * 1024 * 1024 then
        if ¬ ackOk then .error .ackFailed
        else if ¬ threadOk then .error .threadFailed
        else .ok ⟨version, filePath, fileName, fileTime, fileLen, verType, hsafe.1, hsafe.2.1,
          hsafe.2.2, hlen⟩
      else .error .tooLarge
    else .error .unsafeField

/-! ### The directories -/

/-- The kinds of FPGA. -/
inductive FpgaKind
  | v7a
  | v7b
  | subarray
deriving DecidableEq, Repr

/-- `firmware_fpga_kind`, without the unknown kind. -/
def firmwareFpgaKind (fileSubType : UInt8) : Option FpgaKind :=
  if fileSubType = 0x01 ∨ fileSubType = 0x02 then some .v7a
  else if fileSubType = 0x13 ∨ fileSubType = 0x14 then some .v7b
  else if fileSubType = 0x11 ∨ fileSubType = 0x12 then some .subarray
  else none

/-- The directories that a download can touch: `VERSION_BASE_DIR/v`,
`FIRMWARE_BASE_DIR/kind/v` and `FIRMWARE_STAGING_DIR/v`. -/
inductive Loc
  | software (v : Bytes)
  | firmware (kind : FpgaKind) (v : Bytes)
  | staging (v : Bytes)
deriving DecidableEq, Repr

/-- The files of a directory: their contents by name. -/
abbrev Dir := Bytes → Option Bytes

/-- The directories that exist. -/
abbrev FileTree := Loc → Option Dir

/-- `DOWNLOAD_RESULT_*`. -/
inductive DownloadResult
  | success
  | notExist
  | timeout
  | tooLarge
  | checksum
  | extract
  | other
deriving DecidableEq, Repr

/-- What `rm -rf` does with a directory: it takes it away, or it stops and has removed some of the
files by then. -/
inductive Removal
  | gone
  | stopped (removed : Bytes → Bool)

/-- What is left of a directory. -/
def Removal.leaves : Removal → Dir → Option Dir
  | .gone, _ => none
  | .stopped removed, d => some fun name => if removed name then none else d name

/-- What the thread meets: the outcomes of its steps, the members that tar wrote before it
stopped, what `rm -rf` does with a directory, and what the checksum and the metadata of an
unpacked package say. -/
structure DownloadEnv where
  downloadDirOk : Bool
  ftpOk : Bool
  fileFound : Bool
  sha256Ok : Bool
  createDirOk : Bool
  membersOk : Bool
  written : List (Bytes × Bytes)
  tarOk : Bool
  verifyBinFileChecksum : Dir → DownloadResult
  firmwareParseMetadata : Dir → Option (UInt8 × Bytes)
  kindDirOk : Bool
  rm : Loc → Removal
  renameOk : Bool
  metadataFile : Option Bytes

/-- `create_directory_recursive`, successful. -/
def makeDir (fs : FileTree) (l : Loc) : FileTree :=
  Function.update fs l (some ((fs l).getD fun _ => none))

/-- The files of a directory after tar wrote into it. -/
def unpacked (env : DownloadEnv) (d : Dir) : Dir :=
  env.written.foldl (fun d m => Function.update d m.1 (some m.2)) d

/-- `tar -xzf` into a directory. -/
def extractTarFile (env : DownloadEnv) (fs : FileTree) (l : Loc) : FileTree :=
  Function.update fs l (some (unpacked env ((fs l).getD fun _ => none)))

/-- `remove_tree`. -/
def removeTree (env : DownloadEnv) (fs : FileTree) (l : Loc) : FileTree :=
  match fs l with
  | none => fs
  | some d => Function.update fs l ((env.rm l).leaves d)

/-- `save_version_metadata`, which writes `version.json` when it can be opened. -/
def saveVersionMetadata (env : DownloadEnv) (fs : FileTree) (l : Loc) :
    DownloadResult × FileTree :=
  match env.metadataFile with
  | none => (.other, fs)
  | some text => (.success, Function.update fs l
      (some (Function.update ((fs l).getD fun _ => none) (ascii "version.json") (some text))))

/-! ### The thread -/

/-- The software part of `version_download_thread_func`. -/
def installSoftware (env : DownloadEnv) (version : Bytes) (fs : FileTree) :
    DownloadResult × FileTree :=
  let l := Loc.software version
  if ¬ env.createDirOk then (.other, fs)
  else
    let fs₁ := makeDir fs l
    if ¬ env.membersOk then (.extract, fs₁)
    else
      let fs₂ := extractTarFile env fs₁ l
      if ¬ env.tarOk then (.extract, fs₂)
      else
        let result := env.verifyBinFileChecksum ((fs₂ l).getD fun _ => none)
        -- a bad package is taken away with all that was in the directory
        if result ≠ .success then (result, removeTree env fs₂ l)
        else saveVersionMetadata env fs₂ l

/-- The version that the firmware is stored under: the one in its metadata if that is a safe
name, else the one of the request. -/
def realVersion (metaVersion version : Bytes) : Bytes :=
  (if metaVersion ≠ [] ∧ shellSafeName metaVersion = true then metaVersion else version).take 39

/-- The firmware part of `version_download_thread_func`. -/
def installFirmware (env : DownloadEnv) (version : Bytes) (fs : FileTree) :
    DownloadResult × FileTree :=
  let staging := Loc.staging version
  let fs₁ := removeTree env fs staging
  if ¬ env.createDirOk then (.other, fs₁)
  else
    let fs₂ := makeDir fs₁ staging
    if ¬ env.membersOk then (.extract, removeTree env fs₂ staging)
    else
      let fs₃ := extractTarFile env fs₂ staging
      let package := (fs₃ staging).getD fun _ => none
      if ¬ env.tarOk then (.extract, removeTree env fs₃ staging)
      else if env.verifyBinFileChecksum package ≠ .success then
        (env.verifyBinFileChecksum package, removeTree env fs₃ staging)
      else match env.firmwareParseMetadata package with
        | none => (.extract, removeTree env fs₃ staging)
        | some (subType, metaVersion) => match firmwareFpgaKind subType with
          | none => (.other, removeTree env fs₃ staging)
          | some kind =>
            if ¬ env.kindDirOk then (.other, removeTree env fs₃ staging)
            else
              let l := Loc.firmware kind (realVersion metaVersion version)
              -- the old directory goes before the package is moved into its place
              let fs₄ := removeTree env fs₃ l
              if ¬ env.renameOk then (.other, removeTree env fs₄ staging)
              else saveVersionMetadata env
                (Function.update (Function.update fs₄ l (fs₄ staging)) staging none) l

/-- `version_download_thread_func`. -/
def versionDownloadThreadFunc (env : DownloadEnv) (task : DownloadTask) (fs : FileTree) :
    DownloadResult × FileTree :=
  if ¬ env.downloadDirOk then (.other, fs)
  else if ¬ env.ftpOk then (.timeout, fs)
  else if ¬ env.fileFound then (.notExist, fs)
  else if ¬ env.sha256Ok then (.checksum, fs)
  else if task.verType = 1 then installFirmware env task.version fs
  else installSoftware env task.version fs

end AntennaMgmt.Version
