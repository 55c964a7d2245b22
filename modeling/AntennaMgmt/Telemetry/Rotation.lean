import AntennaMgmt.Telemetry.File
import AntennaMgmt.Lib.Rotation

/-!
# The backups of the telemetry log

`tel_rotate_locked` deletes the oldest backup, moves the others up by one number, from the oldest
on, and turns the log file into the first backup.  With `max_backups` at 0 nothing is deleted, but
the log file is still renamed to the first backup.
-/

namespace AntennaMgmt.Telemetry

open AntennaMgmt.Lib

/-! ### The renames -/

section Renames

variable {e : RotateEnv} (he : ∀ i, e.renames i = true) {files : ℕ → Option Bytes}
include he

/-- A rename onto a number that is free moves the file, if there is one. -/
lemma renameUp_apply {i : ℕ} (hfree : files (i + 1) = none) (j : ℕ) :
    renameUp e i files j = if j = i then none else if j = i + 1 then files i else files j := by
  rw [renameUp]
  rcases eq_or_ne j i with rfl | hi
  · cases hfile : files j with
    | none => simp [hfile]
    | some content => simp [he]
  · rcases eq_or_ne j (i + 1) with rfl | hnext
    · cases files i with
      | none => simp [hfree]
      | some content => simp [he]
    · cases hfile : files i with
      | none => simp [hi, hnext]
      | some content => simp [he, hi, hnext]

/-- The loop moves the backups up to the number `n` by one, when the number above is free. -/
lemma renameBackups_apply {n : ℕ} (hfree : files (n + 1) = none) (j : ℕ) :
    renameBackups e n files j =
      if j = 1 then none else if 2 ≤ j ∧ j ≤ n + 1 then files (j - 1) else files j := by
  induction n generalizing files with
  | zero =>
    rw [renameBackups]
    split_ifs with hone hrange
    · rw [hone, hfree]
    · omega
    · rfl
  | succ n ih =>
    have hnext : renameUp e (n + 1) files (n + 1) = none := by
      rw [renameUp_apply he hfree, if_pos rfl]
    rw [renameBackups, ih hnext]
    rcases eq_or_ne j 1 with rfl | hone
    · rw [if_pos rfl, if_pos rfl]
    rw [if_neg hone, if_neg hone]
    rcases eq_or_ne j (n + 2) with rfl | htop
    · -- the file that was moved first
      rw [if_neg (by omega), if_pos (by omega), renameUp_apply he hfree, if_neg (by omega),
        if_pos rfl]
      rfl
    · by_cases hrange : 2 ≤ j ∧ j ≤ n + 1
      · rw [if_pos hrange, if_pos (by omega), renameUp_apply he hfree, if_neg (by omega),
          if_neg (by omega)]
      · rw [if_neg hrange, if_neg (by omega), renameUp_apply he hfree, if_neg (by omega),
          if_neg (by omega)]

/-- The files when the oldest backup is deleted and the others are renamed. -/
def rotatedFiles (e : RotateEnv) (max : ℕ) (files : ℕ → Option Bytes) : ℕ → Option Bytes :=
  renameUp e 0 (renameBackups e (max - 1)
    (if 0 < max then Function.update files max none else files))

/-- With room for a backup, this is a rotation. -/
lemma rotatedFiles_shifts {max : ℕ} (hmax : 0 < max) {g : Bytes} (hcurrent : files 0 = some g) :
    Shifts max g files (rotatedFiles e max files) := by
  have hfree : Function.update files max none (max - 1 + 1) = none := by
    rw [Nat.sub_add_cancel hmax, Function.update_self]
  have hmoved := renameBackups_apply he hfree
  have hone : renameBackups e (max - 1) (Function.update files max none) (0 + 1) = none := by
    rw [hmoved, if_pos rfl]
  rw [rotatedFiles, if_pos hmax]
  refine ⟨?_, fun i hi hlt => ?_, fun i hi => ?_⟩
  · rw [renameUp_apply he hone, if_neg (by omega), if_pos rfl, hmoved, if_neg (by omega),
      if_neg (by omega), Function.update_of_ne (by omega), hcurrent]
  · rw [renameUp_apply he hone, if_neg (by omega), if_neg (by omega), hmoved, if_neg (by omega),
      if_pos (by omega), Nat.add_sub_cancel, Function.update_of_ne (by omega)]
  · rw [renameUp_apply he hone, if_neg (by omega), if_neg (by omega), hmoved, if_neg (by omega),
      if_neg (by omega), Function.update_of_ne (by omega)]

omit he in
/-- The renames of the backups leave the current file alone. -/
lemma renameBackups_zero (n : ℕ) : renameBackups e n files 0 = files 0 := by
  induction n generalizing files with
  | zero => rfl
  | succ n ih =>
    rw [renameBackups, ih, renameUp]
    split_ifs
    · rw [Function.update_of_ne (by omega), Function.update_of_ne (by omega)]
    · rfl

/-- In any case, the current file is the first backup afterwards. -/
lemma rotatedFiles_first {g : Bytes} (max : ℕ) (hcurrent : files 0 = some g) :
    rotatedFiles e max files 1 = some g := by
  have hzero : renameBackups e (max - 1)
      (if 0 < max then Function.update files max none else files) 0 = some g := by
    rw [renameBackups_zero]
    split_ifs with hmax
    · rw [Function.update_of_ne (by omega), hcurrent]
    · exact hcurrent
  rw [rotatedFiles, renameUp]
  simp [hzero, he]

end Renames

/-! ### Rotations -/

/-- All file operations of a rotation succeed. -/
def RotateEnv.AllSucceed (e : RotateEnv) : Prop := e.unlinks = true ∧ e.Succeeds

/-- What happens to the telemetry log: the file is written to, or it is rotated, with all file
operations succeeding.  What the stream writes out at the start of the rotation belongs to the
generation. -/
def telStep (config : TelConfig) (s : TelFile) : LogEvent Bytes → TelFile → Prop
  | .written, s' =>
    ∃ content fp buffer bytes, s' = ⟨Function.update s.files 0 content, fp, buffer, bytes⟩
  | .rotated generation, s' =>
    ∃ e : TelRotateEnv, e.AllSucceed ∧ (s.close e.flushed).files 0 = some generation ∧
      s' = telRotateLocked config e s

lemma TelFile.close_files (s : TelFile) (flushed : ℕ) {i : ℕ} (hi : 1 ≤ i) :
    (s.close flushed).files i = s.files i := by
  rw [TelFile.close]
  split_ifs
  · exact Function.update_of_ne (by omega) _ _
  · rfl

lemma TelFile.close_current {s : TelFile} (hcurrent : s.files 0 ≠ none) (flushed : ℕ) :
    (s.close flushed).files 0 ≠ none := by
  rw [TelFile.close]
  split_ifs
  · simp [TelFile.fflush, TelFile.out]
  · exact hcurrent

/-- The files of a rotation that succeeds, but for the new log file. -/
lemma telRotateLocked_files (config : TelConfig) {e : TelRotateEnv} (he : e.AllSucceed)
    (s : TelFile) {i : ℕ} (hi : 1 ≤ i) :
    (telRotateLocked config e s).files i =
      rotatedFiles e.toRotateEnv config.maxBackups (s.close e.flushed).files i := by
  rw [telRotateLocked, rotatedFiles]
  simp only [he.1, he.2.2, and_true, if_true]
  rw [Function.update_of_ne (by omega)]

/-- The telemetry log as a log that is rotated. -/
lemma telStep_rotates (config : TelConfig) :
    Rotates config.maxBackups TelFile.files (telStep config) where
  written := by
    rintro s s' ⟨content, fp, buffer, bytes, rfl⟩ i hi
    exact Function.update_of_ne (by omega) _ _
  rotated := by
    rintro hmax s g s' ⟨e, he, hcurrent, rfl⟩
    exact (rotatedFiles_shifts he.2.1 hmax hcurrent).congr
      (fun i hi => (s.close_files e.flushed hi).symm)
      fun i hi => telRotateLocked_files config he s hi
  first := by
    rintro s g s' ⟨e, he, hcurrent, rfl⟩
    rw [telRotateLocked_files config he s le_rfl]
    exact rotatedFiles_first he.2.1 config.maxBackups hcurrent

section Writer

variable (config : TelConfig) {s : TelFile}

lemma run_rotate {e : TelRotateEnv} (he : e.AllSucceed) (hcurrent : s.files 0 ≠ none) :
    ∃ events, Run (telStep config) s events (telRotateLocked config e s) := by
  obtain ⟨g, hg⟩ := Option.ne_none_iff_exists'.1 (TelFile.close_current hcurrent e.flushed)
  have hstep : telStep config s (.rotated g) (telRotateLocked config e s) := ⟨e, he, hg, rfl⟩
  exact ⟨[.rotated g], .cons hstep (.nil _)⟩

lemma run_fwrite (part : Bytes) (early : ℕ) :
    ∃ events, Run (telStep config) s events (s.fwrite part early) := by
  have hstep : telStep config s .written (s.fwrite part early) :=
    ⟨_, s.fp, (s.buffer ++ part).drop early, s.bytes, rfl⟩
  exact ⟨[.written], .cons hstep (.nil _)⟩

lemma run_fflush (bytes flushed : ℕ) :
    ∃ events, Run (telStep config) s events ({ s with bytes := bytes }.fflush flushed) := by
  have hstep : telStep config s .written ({ s with bytes := bytes }.fflush flushed) :=
    ⟨_, s.fp, [], bytes, rfl⟩
  exact ⟨[.written], .cons hstep (.nil _)⟩

/-- The writer thread does nothing else with the files: a frame comes to a run of writes and
rotations. -/
lemma telWriterThread_run {w : Write} (hrotation : w.rotation.AllSucceed)
    (hretry : w.retry.AllSucceed) (hcurrent : s.files 0 ≠ none) :
    ∃ events, Run (telStep config) s events (telWriterThread config w s) := by
  have hsize : ∃ events, Run (telStep config) s events
      (if config.maxSize ≤ s.bytes + w.frame.length then telRotateLocked config w.rotation s
        else s) := by
    split_ifs
    · exact run_rotate config hrotation hcurrent
    · exact ⟨[], .nil s⟩
  rw [telWriterThread]
  generalize (if config.maxSize ≤ s.bytes + w.frame.length then
    telRotateLocked config w.rotation s else s) = t at hsize
  refine Run.exists_append hsize ?_
  -- the attempt that falls short, and the rotation behind it
  have hfirst := run_fwrite config (s := t) (w.frame.take w.first.count) w.first.early
  have hopened : (t.fwrite (w.frame.take w.first.count) w.first.early).files 0 ≠ none := by
    simp [TelFile.fwrite, TelFile.out]
  have hshort := Run.exists_append hfirst (run_rotate config hretry hopened)
  dsimp only
  split_ifs with hopen hall hreopened hsecond
  · exact Run.exists_append hfirst (run_fflush config _ _)
  · exact Run.exists_append hshort
      (Run.exists_append (run_fwrite config _ _) (run_fflush config _ _))
  · exact Run.exists_append hshort (run_fwrite config _ _)
  · exact hshort
  · exact ⟨[], .nil t⟩

end Writer

end AntennaMgmt.Telemetry
