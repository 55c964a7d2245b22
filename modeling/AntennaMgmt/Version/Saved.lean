import AntennaMgmt.Lib.Hex
import AntennaMgmt.Shell.Path
import AntennaMgmt.Version.Fields
import AntennaMgmt.Version.Metadata

/-!
# The metadata of a download

A download of a software package ends with its metadata, made of the strings of the request, the
digest and the size of the file, saved into the directory of the version.  The time of the request
goes in as it is.
-/

namespace AntennaMgmt.Version

open AntennaMgmt.Lib
open AntennaMgmt.Shell (slash shellSafeName_iff nameChars)

/-- The metadata that `version_download_thread_func` builds for a software version, with the digest
and the size of the downloaded file. -/
def softwareMetadata (task : DownloadTask) (digest : Bytes) (size : ℕ) : VersionMetadata where
  version := task.version.take 39
  buildTime := task.fileTime.take 19
  checksum := (hexText digest).take 64
  fileSize := UInt32.ofNat size
  verType := task.verType
  installPath := (versionDir task.version).take 255

/-- A time that `version.json` can hold. -/
def PlainTime (time : Bytes) : Prop :=
  quote ∉ time ∧ lf ∉ time ∧ 13 ∉ time ∧ time ≠ ascii "version"

instance (time : Bytes) : Decidable (PlainTime time) :=
  inferInstanceAs (Decidable (_ ∧ _ ∧ _ ∧ _))

section Download

variable {task : DownloadTask} {digest : Bytes} {size : ℕ}

/-- The directory of a safe version. -/
lemma versionDir_eq (task : DownloadTask) :
    versionDir task.version = ascii "/opt/vendor/versions/" ++ task.version := by
  obtain ⟨-, hle, -⟩ := (shellSafeName_iff _).1 task.version_safe
  have hbase : (ascii "/opt/vendor/versions/").length = 21 := by decide
  rw [versionDir, List.take_of_length_le]
  rw [List.length_append]
  omega

lemma head?_installPath (task : DownloadTask) :
    ((versionDir task.version).take 255).head? = some slash := by
  rw [versionDir_eq]
  rfl

/-- The metadata of a download can be saved, if the time can. -/
lemma storable_softwareMetadata (hdigest : digest.length = 32)
    (htime : ∀ c ∈ task.fileTime, c ≠ quote ∧ isLineChar c = true) :
    Storable (softwareMetadata task digest size) := by
  obtain ⟨-, -, hversion, -⟩ := (shellSafeName_iff _).1 task.version_safe
  have hnames : ∀ c ∈ nameChars, c ≠ quote ∧ isLineChar c = true := by decide +kernel
  have hbase : ∀ c ∈ ascii "/opt/vendor/versions/", c ≠ quote ∧ isLineChar c = true := by
    decide +kernel
  have hhex : ∀ c ∈ hexDigits, c ≠ quote ∧ isLineChar c = true := by decide +kernel
  constructor
  · exact ⟨fun c hc => hnames c (hversion c (List.mem_of_mem_take hc)), List.length_take_le _ _⟩
  · exact ⟨fun c hc => htime c (List.mem_of_mem_take hc), List.length_take_le _ _⟩
  · exact ⟨fun c hc => hhex c (mem_hexDigits_of_mem_hexText (List.mem_of_mem_take hc)),
      List.length_take_le _ _⟩
  · refine ⟨fun c hc => ?_, List.length_take_le _ _⟩
    have hmem := List.mem_of_mem_take hc
    rw [versionDir_eq, List.mem_append] at hmem
    exact hmem.elim (hbase c) fun hc => hnames c (hversion c hc)
  · intro hmem
    have hlen : ((hexText digest).take 64).length = 64 := by simp [hdigest]
    have hkeys : ∀ k ∈ jsonKeys, k.length ≤ 12 := by decide
    have hle : ((hexText digest).take 64).length ≤ 12 := hkeys _ hmem
    omega
  · intro hmem
    have hkeys : ∀ k ∈ jsonKeys, k.head? ≠ some slash := by decide
    exact hkeys _ hmem (head?_installPath task)

/-- What is loaded are the lines of the file, but for the version if they have none. -/
lemma loadVersionMetadata_eq {dir path text : Bytes} {files : Dir}
    (h : metadataFile dir files = some (path, text)) :
    ∃ v, loadVersionMetadata dir files =
        some { loadLines (decide (ascii "metadata.txt" <:+: path)) text with version := v } ∧
      ((loadLines (decide (ascii "metadata.txt" <:+: path)) text).version ≠ [] →
        v = (loadLines (decide (ascii "metadata.txt" <:+: path)) text).version) := by
  rw [loadVersionMetadata, h, Option.map_some]
  dsimp only
  split_ifs with hnil
  · exact ⟨_, rfl, fun hne => absurd hnil hne⟩
  · exact ⟨_, rfl, fun _ => rfl⟩

lemma metadataFile_txt (dir : Bytes) {files : Dir} {text : Bytes}
    (h : files (ascii "metadata.txt") = some text) :
    metadataFile dir files = some (dir ++ ascii "/metadata.txt", text) := by
  rw [metadataFile, h]

lemma metadataFile_json (dir : Bytes) {files : Dir} {text : Bytes}
    (h : files (ascii "metadata.txt") = none) (hjson : files (ascii "version.json") = some text) :
    metadataFile dir files = some (dir ++ ascii "/version.json", text) := by
  rw [metadataFile, h, hjson]
  rfl

/-- Files that are read as `metadata.txt` do not bring back the path. -/
lemma loadVersionMetadata_ne_of_txt {dir path text : Bytes} {files : Dir}
    (h : metadataFile dir files = some (path, text)) (htxt : ascii "metadata.txt" <:+: path) :
    loadVersionMetadata dir files ≠ some (softwareMetadata task digest size) := by
  obtain ⟨v, hload, -⟩ := loadVersionMetadata_eq h
  rw [hload, decide_eq_true htxt]
  intro heq
  have hpath := congrArg VersionMetadata.installPath (Option.some.inj heq)
  have hhead := head?_installPath task
  rw [show (versionDir task.version).take 255 = [] from
    hpath.symm.trans (installPath_loadLines text)] at hhead
  cases hhead

/-- A member that the package does not have is left as it was. -/
lemma unpacked_of_not_mem {env : DownloadEnv} {name : Bytes}
    (h : ∀ member ∈ env.written, member.1 ≠ name) (d : Dir) : unpacked env d name = d name := by
  rw [unpacked]
  refine List.foldlRecOn _ _ (motive := fun d' : Dir => d' name = d name) rfl ?_
  intro d' hd' member hmember
  rw [Function.update_of_ne (h member hmember).symm, hd']

/-- The path of `version.json` looks like that of `metadata.txt` exactly if the version does. -/
lemma metadataTxt_infix_iff (task : DownloadTask) :
    ascii "metadata.txt" <:+: versionDir task.version ++ ascii "/version.json" ↔
      ascii "metadata.txt" <:+: task.version := by
  have hslash : slash ∉ ascii "metadata.txt" := by decide
  have hbase : ascii "/opt/vendor/versions/" = ascii "/opt/vendor/versions" ++ [slash] := by decide
  have hnot : ¬ ascii "metadata.txt" <:+: ascii "/opt/vendor/versions" := by decide
  have hjson : ¬ ascii "metadata.txt" <:+: ascii "version.json" := by decide
  rw [show ascii "/version.json" = slash :: ascii "version.json" from by decide,
    infix_append_cons_iff hslash, versionDir_eq, hbase, List.append_assoc, List.singleton_append,
    infix_append_cons_iff hslash]
  simp only [hnot, hjson, false_or, or_false]

/-- The metadata comes back from the directory of an installation that succeeded. -/
def ComesBack (task : DownloadTask) (metadata : VersionMetadata) (fs' : FileTree) : Prop :=
  (fs' (.software task.version)).bind (loadVersionMetadata (versionDir task.version)) =
    some metadata

/-- The time that is loaded is not one with a quote or an end of a line. -/
lemma not_comesBack_of_time {env : DownloadEnv} {fs fs' : FileTree}
    (hsoftware : task.verType ≠ 1)
    (hsuccess : versionDownloadThreadFunc env task fs = (.success, fs'))
    {c : UInt8} (hc : c ∈ task.fileTime.take 19) (hbad : c = quote ∨ isLineChar c = false) :
    ¬ ComesBack task (softwareMetadata task digest size) fs' := by
  obtain ⟨text, -, hdir⟩ := software_dir_of_success hsoftware hsuccess
  rw [ComesBack, hdir, Option.bind_some]
  intro hload
  cases hfile : metadataFile (versionDir task.version) (Function.update
      (unpacked env ((fs (.software task.version)).getD fun _ => none)) (ascii "version.json")
      (some text)) with
  | none =>
    rw [loadVersionMetadata, hfile] at hload
    cases hload
  | some file =>
    obtain ⟨path, text⟩ := file
    by_cases htxt : ascii "metadata.txt" <:+: path
    · exact loadVersionMetadata_ne_of_txt hfile htxt hload
    · obtain ⟨v, heq, -⟩ := loadVersionMetadata_eq hfile
      rw [heq, decide_eq_false htxt] at hload
      have htime := congrArg VersionMetadata.buildTime (Option.some.inj hload)
      have hmem : c ∈ (loadLines false text).buildTime := by
        rw [show (loadLines false text).buildTime = _ from htime]
        exact hc
      obtain ⟨hquote, hline⟩ := buildTime_loadLines hmem
      rcases hbad with hbad | hbad
      · exact hquote hbad
      · simp [hline] at hbad

/-- A string that is a time for `version.json`, character by character. -/
lemma plainTime_iff {time : Bytes} (hstring : 0 ∉ time) : PlainTime time ↔
    (∀ c ∈ time, c ≠ quote ∧ isLineChar c = true) ∧ time ≠ ascii "version" := by
  rw [PlainTime]
  constructor
  · rintro ⟨hquote, hlf, hcr, hversion⟩
    refine ⟨fun c hc => ⟨ne_of_mem_of_not_mem hc hquote, ?_⟩, hversion⟩
    have hzero : c ≠ 0 := ne_of_mem_of_not_mem hc hstring
    have hnotLf : c ≠ lf := ne_of_mem_of_not_mem hc hlf
    have hnotCr : c ≠ 13 := ne_of_mem_of_not_mem hc hcr
    simp [isLineChar, hzero, hnotLf, hnotCr]
  · rintro ⟨hall, hversion⟩
    refine ⟨fun hmem => (hall _ hmem).1 rfl, fun hmem => ?_, fun hmem => ?_, hversion⟩
    · exact absurd (hall _ hmem).2 (by decide)
    · exact absurd (hall _ hmem).2 (by decide)

/-- Metadata that can be saved comes back from a directory without `metadata.txt`, if its path does
not have this name either. -/
lemma loadVersionMetadata_saved_iff {files : Dir} (hdigest : digest.length = 32)
    (htake : task.fileTime.take 19 = task.fileTime)
    (htime : ∀ c ∈ task.fileTime, c ≠ quote ∧ isLineChar c = true)
    (hjson : files (ascii "version.json") =
      some (versionJson (softwareMetadata task digest size))) :
    loadVersionMetadata (versionDir task.version) files =
        some (softwareMetadata task digest size) ↔
      files (ascii "metadata.txt") = none ∧ ¬ ascii "metadata.txt" <:+: task.version ∧
        task.fileTime ≠ ascii "version" := by
  cases hleft : files (ascii "metadata.txt") with
  | some text =>
    have hfile := metadataFile_txt (versionDir task.version) hleft
    have htxt : ascii "metadata.txt" <:+: versionDir task.version ++ ascii "/metadata.txt" :=
      ⟨versionDir task.version ++ [slash], [], by simp [ascii]⟩
    simp [loadVersionMetadata_ne_of_txt hfile htxt]
  | none =>
    have hfile := metadataFile_json (versionDir task.version) hleft hjson
    by_cases htxt : ascii "metadata.txt" <:+: task.version
    · have hpath := (metadataTxt_infix_iff task).2 htxt
      simp [loadVersionMetadata_ne_of_txt hfile hpath, htxt]
    · have hpath := mt (metadataTxt_infix_iff task).1 htxt
      have hne : task.version.take 39 ≠ [] := by
        have hpos := ((shellSafeName_iff _).1 task.version_safe).1
        rw [ne_eq, List.take_eq_nil_iff, not_or]
        exact ⟨by norm_num, List.length_pos_iff.1 hpos⟩
      have hstorable : Storable (softwareMetadata task digest size) :=
        storable_softwareMetadata hdigest htime
      have hlines := loadLines_versionJson hstorable
      obtain ⟨v, hload, hversion⟩ := loadVersionMetadata_eq hfile
      rw [decide_eq_false hpath, hlines] at hload hversion
      obtain rfl := hversion hne
      rw [hload, Option.some.injEq]
      refine (timeLost_iff (softwareMetadata task digest size)).trans ?_
      show task.fileTime.take 19 ≠ ascii "version" ↔ _
      simp [htake, htxt]

/-- **When the metadata of a download comes back.**  After the download of a software package
without `metadata.txt`, `load_version_metadata` returns the six fields that were saved if and only
if the directory of the version held no `metadata.txt`, the version does not contain this name and
the time of the request has neither quotes nor an end of a line and is not `version`. -/
theorem versionJson_comesBack_iff {inProgress ackOk threadOk : Bool} {payload : Bytes}
    {env : DownloadEnv} {fs fs' : FileTree}
    (haccepted : versionHandleDownloadRequest inProgress ackOk threadOk payload = .ok task)
    (hsoftware : task.verType ≠ 1) (hdigest : digest.length = 32)
    (hsuccess : versionDownloadThreadFunc env task fs = (.success, fs'))
    (hsaved : env.metadataFile = some (versionJson (softwareMetadata task digest size)))
    (hpackage : ∀ member ∈ env.written, member.1 ≠ ascii "metadata.txt") :
    ComesBack task (softwareMetadata task digest size) fs' ↔
      (fs (.software task.version)).bind (· (ascii "metadata.txt")) = none ∧
        ¬ ascii "metadata.txt" <:+: task.version ∧ PlainTime task.fileTime := by
  obtain ⟨text, htext, hdir⟩ := software_dir_of_success hsoftware hsuccess
  obtain rfl : versionJson (softwareMetadata task digest size) = text :=
    Option.some.inj (hsaved.symm.trans htext)
  have htime : task.fileTime = (cField payload 229 20).take 19 := (download_task haccepted).2.2.2.1
  have htake : task.fileTime.take 19 = task.fileTime := by
    rw [htime, List.take_take, Nat.min_self]
  have hstring : 0 ∉ task.fileTime := by
    intro hmem
    rw [htime] at hmem
    exact not_mem_takeWhile_ne 0 _ (List.mem_of_mem_take hmem)
  have hold : (fs (.software task.version)).bind (· (ascii "metadata.txt")) =
      Function.update (unpacked env ((fs (.software task.version)).getD fun _ => none))
        (ascii "version.json") (some (versionJson (softwareMetadata task digest size)))
        (ascii "metadata.txt") := by
    rw [Function.update_of_ne (by decide), unpacked_of_not_mem hpackage]
    cases fs (.software task.version) <;> rfl
  rw [plainTime_iff hstring]
  by_cases hchars : ∀ c ∈ task.fileTime, c ≠ quote ∧ isLineChar c = true
  · rw [ComesBack, hdir, Option.bind_some, hold, and_iff_right hchars]
    exact loadVersionMetadata_saved_iff hdigest htake hchars (Function.update_self _ _ _)
  · refine iff_of_false ?_ fun h => hchars h.2.2.1
    push Not at hchars
    obtain ⟨c, hc, hbad⟩ := hchars
    have hends : c = quote ∨ isLineChar c = false := by
      rw [or_iff_not_imp_left]
      intro hne
      simpa using hbad hne
    exact not_comesBack_of_time hsoftware hsuccess (by rwa [htake]) hends

end Download

/-- IE 14 of a software request for `V2.0` with a time. -/
def timedRequest (time : Bytes) : Bytes :=
  [14, 0, 0x21, 0x01, 0, 0, 0, 0, 0] ++ padded 200 [] ++ padded 16 (ascii "app.tar.gz") ++
    [0, 0, 0, 0] ++ padded 20 time ++ padded 40 (ascii "V2.0")

/-- The metadata of the download for a request; the digest and the size of the file are made
up. -/
def savedMetadata (task : DownloadTask) : VersionMetadata :=
  softwareMetadata task (List.replicate 32 0xA5) 4096

/-- A download of a program and its checksum in which nothing fails. -/
def savingEnv (task : DownloadTask) : DownloadEnv :=
  { smoothEnv with
      written := [(ascii "app", ascii "program"), (ascii "app.txt", ascii "checksum")]
      metadataFile := some (versionJson (savedMetadata task)) }

lemma savingEnv_written (task : DownloadTask) :
    ∀ member ∈ (savingEnv task).written, member.1 ≠ ascii "metadata.txt" := by
  have hnames : ∀ member ∈ [(ascii "app", ascii "program"), (ascii "app.txt", ascii "checksum")],
      member.1 ≠ ascii "metadata.txt" := by
    decide
  exact hnames

lemma exists_timedTask {time : Bytes} {task : DownloadTask}
    (htask : versionHandleDownloadRequest false true true (timedRequest time) = .ok task) :
    task.verType ≠ 1 ∧ task.fileTime = (cField (timedRequest time) 229 20).take 19 ∧
      ∃ fs', versionDownloadThreadFunc (savingEnv task) task (fun _ => none) =
        (.success, fs') := by
  obtain ⟨-, -, -, htime, htype, -⟩ := download_task htask
  have hsoftware : task.verType ≠ 1 := by
    rw [htype, timedRequest]
    simp
  refine ⟨hsoftware, htime, _, Prod.ext ?_ rfl⟩
  simp [versionDownloadThreadFunc, savingEnv, smoothEnv, hsoftware, installSoftware,
    saveVersionMetadata]

theorem versionJson_comesBack_iff_plainTime : ∃ task fs',
    versionHandleDownloadRequest false true true (timedRequest (ascii "2024-05-01 10:00:00")) =
      .ok task ∧
    versionDownloadThreadFunc (savingEnv task) task (fun _ => none) = (.success, fs') ∧
    ComesBack task (savedMetadata task) fs' := by
  obtain ⟨task, htask⟩ := exists_task (timedRequest (ascii "2024-05-01 10:00:00"))
    (by decide +kernel) (by decide +kernel) (by decide +kernel)
  obtain ⟨hsoftware, htime, fs', hsuccess⟩ := exists_timedTask htask
  have hversion := (download_task htask).2.2.2.2.2
  refine ⟨task, fs', htask, hsuccess, ?_⟩
  refine (versionJson_comesBack_iff htask hsoftware (by simp) hsuccess rfl
    (savingEnv_written task)).2 ⟨rfl, ?_, ?_⟩
  · rw [hversion]
    decide +kernel
  · rw [htime]
    decide +kernel

/-- A time with quotes in it is cut at the first of them. -/
theorem versionJson_not_comesBack_quotes : ∃ task fs',
    versionHandleDownloadRequest false true true (timedRequest (ascii "2024-05-01 \"rc\"")) =
      .ok task ∧ task.verType = 0 ∧
    versionDownloadThreadFunc (savingEnv task) task (fun _ => none) = (.success, fs') ∧
    (∀ member ∈ (savingEnv task).written, member.1 ≠ ascii "metadata.txt") ∧
    ¬ ComesBack task (savedMetadata task) fs' := by
  obtain ⟨task, htask⟩ := exists_task (timedRequest (ascii "2024-05-01 \"rc\""))
    (by decide +kernel) (by decide +kernel) (by decide +kernel)
  obtain ⟨hsoftware, htime, fs', hsuccess⟩ := exists_timedTask htask
  refine ⟨task, fs', htask, (download_task htask).2.2.2.2.1, hsuccess, savingEnv_written task, ?_⟩
  refine not_comesBack_of_time hsoftware hsuccess (c := quote) ?_ (.inl rfl)
  rw [htime]
  decide +kernel

end AntennaMgmt.Version
