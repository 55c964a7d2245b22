import AntennaMgmt.Version.Download

/-!
# The strings of the requests

The strings of a request stand in fields of fixed width that need not hold a NUL.  The handlers
copy them into arrays of the same width, where a NUL takes the last place: a string that fills its
field is shortened.  The handler of an activation takes a suffix off the version that the handler
of a download leaves where it is.
-/

namespace AntennaMgmt.Version

open AntennaMgmt.Lib

/-! ### Activation -/

/-- How `version_handle_activate_request` turns a request down before it looks for the version. -/
inductive ActivateError
  | tooShort
  | unsafeVersion
deriving DecidableEq, Repr

/-- What an activation request asks for: the switch to a directory, or a firmware version that is
looked for in the directories of all kinds. -/
inductive ActivateTarget
  | software (dir : Loc)
  | firmware (version : Bytes)
deriving DecidableEq, Repr

/-- `version_handle_activate_request` on the payload of IE 311, up to the version that it acts on;
`switch_to_version` appends it to `VERSION_BASE_DIR`. -/
def versionHandleActivateRequest (payload : Bytes) : Except ActivateError ActivateTarget :=
  if payload.length < 45 then .error .tooShort
  else
    let versionNum := (cField payload 5 40).take 39
    let version := (beforeInfix (ascii ".tar.gz") versionNum).getD versionNum
    if ¬ shellSafeName version then .error .unsafeVersion
    else if payload.getD 4 0 = 1 then .ok (.firmware version)
    else .ok (.software (.software version))

/-! ### Fields of fixed width -/

section Fields

variable {payload : Bytes} {offset : ℕ} (size : ℕ)

/-- A string fits into an array of the width of its field if and only if the field holds a NUL. -/
lemma take_cField_eq_iff (h : offset + (size + 1) ≤ payload.length) :
    (cField payload offset (size + 1)).take size = cField payload offset (size + 1) ↔
      0 ∈ slice payload offset (size + 1) := by
  have hfield : (slice payload offset (size + 1)).length = size + 1 := length_slice h
  have hfront : cField payload offset (size + 1) <+: slice payload offset (size + 1) :=
    List.takeWhile_prefix _
  rw [List.take_eq_self_iff]
  constructor
  · intro hle
    by_contra hnul
    rw [cField, takeWhile_ne_eq_self hnul, hfield] at hle
    omega
  · intro hnul
    by_contra hlong
    have hall := hfront.eq_of_length_le (by omega)
    rw [← hall] at hnul
    exact not_mem_takeWhile_ne 0 _ hnul

/-- An empty string needs no place. -/
lemma zero_mem_of_cField_nil (h : offset + (size + 1) ≤ payload.length)
    (hnil : cField payload offset (size + 1) = []) : 0 ∈ slice payload offset (size + 1) := by
  rw [← take_cField_eq_iff size h, hnil, List.take_nil]

end Fields

/-! ### The strings of a download -/

/-- What an accepted request has come to. -/
lemma download_task {inProgress ackOk threadOk : Bool} {payload : Bytes} {task : DownloadTask}
    (h : versionHandleDownloadRequest inProgress ackOk threadOk payload = .ok task) :
    289 ≤ payload.length ∧ task.fileName = (cField payload 209 16).take 15 ∧
      task.filePath = (cField payload 9 200).take 199 ∧
      task.fileTime = (cField payload 229 20).take 19 ∧ task.verType = payload.getD 4 0 ∧
      task.version = requestVersion (cField payload 249 40) (cField payload 209 16) := by
  rw [versionHandleDownloadRequest] at h
  split at h
  · cases h
  rename_i hshort
  split at h
  · cases h
  dsimp only at h
  split at h
  · split at h
    · split_ifs at h
      obtain rfl := Except.ok.inj h
      exact ⟨not_lt.1 hshort, rfl, rfl, rfl, rfl, rfl⟩
    · cases h
  · cases h

/-- The strings of the task are those of the request. -/
def CarriesStrings (payload : Bytes) (task : DownloadTask) : Prop :=
  task.fileName = cField payload 209 16 ∧ task.filePath = cField payload 9 200 ∧
    task.fileTime = cField payload 229 20 ∧
    (task.verType = 0 → cField payload 249 40 ≠ [] → task.version = cField payload 249 40)

/-- **The strings of a download task.**  The task of an accepted request carries the strings of the
request if and only if the fields for the file name, its path and its time hold a NUL each, and for
a software request the field for the version, too. -/
theorem carriesStrings_iff {inProgress ackOk threadOk : Bool} {payload : Bytes}
    {task : DownloadTask}
    (haccepted : versionHandleDownloadRequest inProgress ackOk threadOk payload = .ok task) :
    CarriesStrings payload task ↔ 0 ∈ slice payload 209 16 ∧ 0 ∈ slice payload 9 200 ∧
      0 ∈ slice payload 229 20 ∧ (task.verType = 0 → 0 ∈ slice payload 249 40) := by
  obtain ⟨hlen, hname, hpath, htime, -, hversion⟩ := download_task haccepted
  have hver : (cField payload 249 40 ≠ [] → task.version = cField payload 249 40) ↔
      0 ∈ slice payload 249 40 := by
    by_cases hnil : cField payload 249 40 = []
    · simp [hnil, zero_mem_of_cField_nil 39 (by omega) hnil]
    · rw [← take_cField_eq_iff 39 (by omega), hversion, requestVersion, if_pos hnil]
      exact ⟨fun h => h hnil, fun h _ => h⟩
  rw [CarriesStrings, hname, hpath, htime, take_cField_eq_iff 15 (by omega),
    take_cField_eq_iff 199 (by omega), take_cField_eq_iff 19 (by omega), hver]

/-- A request with checked strings is accepted. -/
lemma exists_task (payload : Bytes) (hlen : 289 ≤ payload.length)
    (hsafe : shellSafeName (requestVersion (cField payload 249 40) (cField payload 209 16)) = true ∧
      shellSafeName ((cField payload 209 16).take 15) = true ∧
      ((cField payload 9 200).take 199 = [] ∨
        shellSafeRelpath ((cField payload 9 200).take 199) = true))
    (hsize : leNat (slice payload 225 4) ≤ 256 * 1024 * 1024) :
    ∃ task, versionHandleDownloadRequest false true true payload = .ok task := by
  obtain ⟨hversion, hname, hpath⟩ := hsafe
  rw [versionHandleDownloadRequest, if_neg (not_lt.2 hlen), if_neg Bool.false_ne_true]
  dsimp only
  rw [dif_pos ⟨hversion, hname, hpath⟩, dif_pos hsize]
  exact ⟨_, rfl⟩

/-- A string in a field of `n` bytes. -/
def padded (n : ℕ) (s : Bytes) : Bytes := (s ++ List.replicate n 0).take n

/-- IE 14 of a software request without a path, for a file of length 0. -/
def namedRequest (fileName fileVer : Bytes) : Bytes :=
  [14, 0, 0x21, 0x01, 0, 0, 0, 0, 0] ++ padded 200 [] ++ padded 16 fileName ++ [0, 0, 0, 0] ++
    padded 20 (ascii "2024-05-01 10:00:00") ++ padded 40 fileVer

/-- Strings that leave room for a NUL are carried. -/
theorem carriesStrings_iff_shortStrings : ∃ task,
    versionHandleDownloadRequest false true true
      (namedRequest (ascii "app.tar.gz") (ascii "V2.0")) = .ok task ∧
    CarriesStrings (namedRequest (ascii "app.tar.gz") (ascii "V2.0")) task := by
  obtain ⟨task, htask⟩ := exists_task (namedRequest (ascii "app.tar.gz")
    (ascii "V2.0")) (by decide +kernel) (by decide +kernel) (by decide +kernel)
  refine ⟨task, htask, (carriesStrings_iff htask).2 ?_⟩
  exact ⟨by decide +kernel, by decide +kernel, by decide +kernel, fun _ => by decide +kernel⟩

/-- A file name of 16 characters loses its last one. -/
theorem not_carriesStrings_fullName : ∃ task,
    versionHandleDownloadRequest false true true
      (namedRequest (ascii "app-v2-20.tar.gz") (ascii "V2.0")) = .ok task ∧
    task.fileName = ascii "app-v2-20.tar.g" ∧
    ¬ CarriesStrings (namedRequest (ascii "app-v2-20.tar.gz") (ascii "V2.0")) task := by
  obtain ⟨task, htask⟩ := exists_task (namedRequest (ascii "app-v2-20.tar.gz")
    (ascii "V2.0")) (by decide +kernel) (by decide +kernel) (by decide +kernel)
  have hname := (download_task htask).2.1
  refine ⟨task, htask, ?_, ?_⟩
  · rw [hname]
    decide +kernel
  · rintro ⟨hcarried, -⟩
    rw [hname] at hcarried
    revert hcarried
    decide +kernel

/-! ### The same name for a download and an activation -/

/-- `strstr` finds what is there. -/
lemma beforeInfix_eq_none_iff {pat s : Bytes} (hpat : pat ≠ []) :
    beforeInfix pat s = none ↔ ¬ pat <:+: s := by
  induction s with
  | nil => simp [beforeInfix, hpat]
  | cons b s ih =>
    rw [beforeInfix, List.infix_cons_iff]
    split_ifs with hfront
    · simp [List.isPrefixOf_iff_prefix.1 hfront]
    · rw [Option.map_eq_none_iff, ih, not_or, ← List.isPrefixOf_iff_prefix]
      simp [hfront]

/-- What stands before the pattern is shorter than the string. -/
lemma length_beforeInfix_lt {pat s w : Bytes} (hpat : pat ≠ []) (h : beforeInfix pat s = some w) :
    w.length < s.length := by
  induction s generalizing w with
  | nil => simp [beforeInfix, hpat] at h
  | cons b s ih =>
    rw [beforeInfix] at h
    split_ifs at h with hfront
    · obtain rfl := Option.some.inj h
      simp
    · obtain ⟨v, hv, rfl⟩ := Option.map_eq_some_iff.1 h
      have hlt := ih hv
      simp
      omega

/-- A software installation that succeeds has unpacked the package into its directory and saved
the metadata there. -/
lemma software_dir_of_success {env : DownloadEnv} {task : DownloadTask} {fs fs' : FileTree}
    (hsoftware : task.verType ≠ 1) (h : versionDownloadThreadFunc env task fs = (.success, fs')) :
    ∃ text, env.metadataFile = some text ∧ fs' (.software task.version) =
      some (Function.update (unpacked env ((fs (.software task.version)).getD fun _ => none))
        (ascii "version.json") (some text)) := by
  rw [versionDownloadThreadFunc] at h
  split_ifs at h
  · rw [installSoftware] at h
    dsimp only at h
    split_ifs at h with hcreate hmembers htar hresult
    · exact absurd (congrArg Prod.fst h) hresult
    · rw [saveVersionMetadata] at h
      split at h
      · cases h
      · rename_i text htext
        obtain rfl := (Prod.mk.inj h).2
        exact ⟨text, htext, by simp [extractTarFile, makeDir]⟩
    · cases h
    · cases h
    · cases h
  · cases h
  · cases h
  · cases h
  · cases h

/-- A software installation that succeeds leaves its directory. -/
lemma software_isSome_of_success {env : DownloadEnv} {task : DownloadTask} {fs fs' : FileTree}
    (hsoftware : task.verType = 0) (h : versionDownloadThreadFunc env task fs = (.success, fs')) :
    (fs' (.software task.version)).isSome := by
  have hne : task.verType ≠ 1 := by simp [hsoftware]
  obtain ⟨text, -, hdir⟩ := software_dir_of_success hne h
  rw [hdir, Option.isSome_some]

/-- **Installed and activated under one name.**  When a software request is accepted and its
download succeeds, the directory of its version is there; an activation request, not for firmware,
that carries the same field resolves to this directory if and only if the string in the field is
not empty and `.tar.gz` does not occur in its first 39 bytes. -/
theorem activation_resolves_iff {inProgress ackOk threadOk : Bool} {payload activation : Bytes}
    {task : DownloadTask} {env : DownloadEnv} {fs fs' : FileTree}
    (haccepted : versionHandleDownloadRequest inProgress ackOk threadOk payload = .ok task)
    (hsoftware : task.verType = 0)
    (hsuccess : versionDownloadThreadFunc env task fs = (.success, fs'))
    (hlen : 45 ≤ activation.length) (htype : activation.getD 4 0 ≠ 1)
    (hsame : slice activation 5 40 = slice payload 249 40) :
    (fs' (.software task.version)).isSome ∧
      (versionHandleActivateRequest activation = .ok (.software (.software task.version)) ↔
        cField payload 249 40 ≠ [] ∧ ¬ ascii ".tar.gz" <:+: (cField payload 249 40).take 39) := by
  refine ⟨software_isSome_of_success hsoftware hsuccess, ?_⟩
  have hfield : cField activation 5 40 = cField payload 249 40 := by
    rw [cField, hsame, cField]
  have hversion := (download_task haccepted).2.2.2.2.2
  have hsafe := task.version_safe
  have hpat : ascii ".tar.gz" ≠ [] := by decide
  have hshort : ¬ activation.length < 45 := not_lt.2 hlen
  rw [versionHandleActivateRequest, if_neg hshort]
  simp only [hfield, if_neg htype]
  by_cases hnil : cField payload 249 40 = []
  · simp [hnil, beforeInfix, shellSafeName, ascii]
  · rw [hversion, requestVersion, if_pos hnil] at hsafe ⊢
    cases hbefore : beforeInfix (ascii ".tar.gz") ((cField payload 249 40).take 39) with
    | none =>
      -- the string is taken as it is, as the download took it
      have hfree := (beforeInfix_eq_none_iff hpat).1 hbefore
      simp [hsafe, hnil, hfree]
    | some w =>
      -- what is left is shorter than the version of the download
      have hinfix : ascii ".tar.gz" <:+: (cField payload 249 40).take 39 := by
        by_contra hfree
        rw [(beforeInfix_eq_none_iff hpat).2 hfree] at hbefore
        cases hbefore
      have hne : w ≠ (cField payload 249 40).take 39 := by
        rintro rfl
        exact lt_irrefl _ (length_beforeInfix_lt hpat hbefore)
      simp only [Option.getD_some, hinfix, not_true_eq_false, and_false, iff_false]
      split_ifs
      · intro h
        obtain rfl := Loc.software.inj (ActivateTarget.software.inj (Except.ok.inj h))
        exact hne rfl
      · simp

/-- A download in which nothing fails. -/
def smoothEnv : DownloadEnv where
  downloadDirOk := true
  ftpOk := true
  fileFound := true
  sha256Ok := true
  createDirOk := true
  membersOk := true
  written := []
  tarOk := true
  verifyBinFileChecksum _ := .success
  firmwareParseMetadata _ := none
  kindDirOk := true
  rm _ := .gone
  renameOk := true
  metadataFile := some []

/-- IE 311 of a software version. -/
def softwareActivation (versionNum : Bytes) : Bytes :=
  [0x37, 0x01, 45, 0, 0] ++ padded 40 versionNum

lemma exists_softwareTask {payload : Bytes} {task : DownloadTask}
    (htask : versionHandleDownloadRequest false true true payload = .ok task)
    (htype : payload.getD 4 0 = 0) : task.verType = 0 ∧
      ∃ fs', versionDownloadThreadFunc smoothEnv task (fun _ => none) = (.success, fs') := by
  have hsoftware : task.verType = 0 := (download_task htask).2.2.2.2.1.trans htype
  refine ⟨hsoftware, (versionDownloadThreadFunc smoothEnv task fun _ => none).2, Prod.ext ?_ rfl⟩
  simp [versionDownloadThreadFunc, smoothEnv, hsoftware, installSoftware, saveVersionMetadata]

theorem activation_resolves_iff_plainName : ∃ task fs',
    versionHandleDownloadRequest false true true
      (namedRequest (ascii "app.tar.gz") (ascii "V2.0")) = .ok task ∧
    versionDownloadThreadFunc smoothEnv task (fun _ => none) = (.success, fs') ∧
    versionHandleActivateRequest (softwareActivation (ascii "V2.0")) =
      .ok (.software (.software task.version)) := by
  obtain ⟨task, htask⟩ := exists_task (namedRequest (ascii "app.tar.gz")
    (ascii "V2.0")) (by decide +kernel) (by decide +kernel) (by decide +kernel)
  obtain ⟨hsoftware, fs', hsuccess⟩ := exists_softwareTask htask (by decide +kernel)
  refine ⟨task, fs', htask, hsuccess, ?_⟩
  refine (activation_resolves_iff htask hsoftware hsuccess (by decide +kernel) (by decide +kernel)
    (by decide +kernel)).2.2 ⟨by decide +kernel, ?_⟩
  rw [← beforeInfix_eq_none_iff (by decide)]
  decide +kernel

/-- The version `V2.tar.gz` is installed under its full name, and its activation looks for `V2`. -/
theorem activation_not_resolves_suffix : ∃ task fs',
    versionHandleDownloadRequest false true true
      (namedRequest (ascii "app.tar.gz") (ascii "V2.tar.gz")) = .ok task ∧ task.verType = 0 ∧
    versionDownloadThreadFunc smoothEnv task (fun _ => none) = (.success, fs') ∧
    slice (softwareActivation (ascii "V2.tar.gz")) 5 40 =
      slice (namedRequest (ascii "app.tar.gz") (ascii "V2.tar.gz")) 249 40 ∧
    task.version = ascii "V2.tar.gz" ∧
    versionHandleActivateRequest (softwareActivation (ascii "V2.tar.gz")) =
      .ok (.software (.software (ascii "V2"))) := by
  obtain ⟨task, htask⟩ := exists_task (namedRequest (ascii "app.tar.gz")
    (ascii "V2.tar.gz")) (by decide +kernel) (by decide +kernel) (by decide +kernel)
  obtain ⟨hsoftware, fs', hsuccess⟩ := exists_softwareTask htask (by decide +kernel)
  refine ⟨task, fs', htask, hsoftware, hsuccess, by decide +kernel, ?_, ?_⟩
  · rw [(download_task htask).2.2.2.2.2]
    decide +kernel
  · rfl

end AntennaMgmt.Version
