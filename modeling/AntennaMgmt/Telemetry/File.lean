import AntennaMgmt.Telemetry.Dump
import AntennaMgmt.Telemetry.Queue
import AntennaMgmt.Lib.Transition
import Mathlib.Logic.Function.Basic

/-!
# The telemetry log file

The writer thread appends each frame to the log file and rotates the file before it grows too
large.  What `fwrite` takes goes to the buffer of the stream, and `fflush` writes it out; its result
is not looked at.  A write that falls short is answered by a rotation and a second attempt.  The
file is meant to be cut into frames by their lengths, so that every frame in it has to be whole;
`g_tel_bytes` keeps account of its size.
-/

namespace AntennaMgmt.Telemetry

open AntennaMgmt.Lib

/-! ### The files -/

/-- The settings of the log. -/
structure TelConfig where
  maxSize : ℕ
  maxBackups : ℕ
deriving DecidableEq, Repr

/-- The log files and the account of them: `files 0` is the one at `g_tel_path`, `files i` the one
with the suffix `.i`.  `fp` says that `g_tel_fp` is open, and `buffer` is what the stream has taken
and not written out. -/
structure TelFile where
  files : ℕ → Option Bytes
  fp : Bool
  buffer : Bytes
  bytes : ℕ

namespace TelFile

/-- Some bytes get to the file at `g_tel_path`. -/
def out (s : TelFile) (part : Bytes) : TelFile :=
  { s with files := Function.update s.files 0 (some ((s.files 0).getD [] ++ part)) }

/-- `fwrite` to `g_tel_fp`, which takes `part`; the stream writes out the first `early` of the
bytes that it holds. -/
def fwrite (s : TelFile) (part : Bytes) (early : ℕ) : TelFile :=
  { s.out ((s.buffer ++ part).take early) with buffer := (s.buffer ++ part).drop early }

/-- `fflush` of `g_tel_fp`, which gets `flushed` bytes to the file.  When these are not all, it has
failed, and the others are lost. -/
def fflush (s : TelFile) (flushed : ℕ) : TelFile :=
  { s.out (s.buffer.take flushed) with buffer := [] }

end TelFile

/-- The results of the file operations of a rotation: the `unlink`, the `rename` of each file and
the `fopen` at the end. -/
structure RotateEnv where
  unlinks : Bool
  renames : ℕ → Bool
  reopens : Bool

/-- The same for `tel_rotate_locked`, with what the `fflush` at its start gets to the file. -/
structure TelRotateEnv extends RotateEnv where
  flushed : ℕ

/-- `rename` of the file with the number `i` to the number `i + 1`, if there is such a file. -/
def renameUp (e : RotateEnv) (i : ℕ) (files : ℕ → Option Bytes) : ℕ → Option Bytes :=
  if (files i).isSome ∧ e.renames i then
    Function.update (Function.update files (i + 1) (files i)) i none
  else files

/-- The loop over the backups, from the number `i` down to 1. -/
def renameBackups (e : RotateEnv) : ℕ → (ℕ → Option Bytes) → ℕ → Option Bytes
  | 0, files => files
  | i + 1, files => renameBackups e i (renameUp e (i + 1) files)

/-- The `fflush`, the `fsync` and the `fclose` at the start of `tel_rotate_locked`. -/
def TelFile.close (s : TelFile) (flushed : ℕ) : TelFile :=
  if s.fp then { s.fflush flushed with fp := false } else s

/-- `tel_rotate_locked`. -/
def telRotateLocked (config : TelConfig) (e : TelRotateEnv) (s : TelFile) : TelFile :=
  let files := (s.close e.flushed).files
  let files := if 0 < config.maxBackups ∧ e.unlinks then
    Function.update files config.maxBackups none else files
  let files := renameUp e.toRotateEnv 0
    (renameBackups e.toRotateEnv (config.maxBackups - 1) files)
  if e.reopens then ⟨Function.update files 0 (some ((files 0).getD [])), true, [], 0⟩
  else ⟨files, false, [], 0⟩

/-- An attempt to write a frame: the result of `fwrite`, how much the stream writes out at once,
and what the `fflush` behind a full result gets to the file. -/
structure Attempt where
  count : ℕ
  early : ℕ
  flushed : ℕ
deriving DecidableEq, Repr

/-- A frame that the writer has taken out of the queue, with the results of the file operations
that it may come to: the two attempts, the rotation for the size and the rotation behind a short
write. -/
structure Write where
  frame : Bytes
  first : Attempt
  second : Attempt
  rotation : TelRotateEnv
  retry : TelRotateEnv

/-- The region of the file lock in `tel_writer_thread`. -/
def telWriterThread (config : TelConfig) (w : Write) (s : TelFile) : TelFile :=
  let s := if config.maxSize ≤ s.bytes + w.frame.length then
    telRotateLocked config w.rotation s else s
  if s.fp then
    let s := s.fwrite (w.frame.take w.first.count) w.first.early
    if w.first.count = w.frame.length then
      { s with bytes := s.bytes + w.frame.length }.fflush w.first.flushed
    else
      let s := telRotateLocked config w.retry s
      if s.fp then
        let s := s.fwrite (w.frame.take w.second.count) w.second.early
        if w.second.count = w.frame.length then
          { s with bytes := s.bytes + w.frame.length }.fflush w.second.flushed
        -- what was taken before the error stays in the stream, but is not counted
        else s
      else s
  else s

/-- What the thread can meet: a frame out of a slot, and an `fwrite` that takes no more than it is
given. -/
def Write.Possible (w : Write) : Prop :=
  ValidFrame w.frame ∧ w.first.count ≤ w.frame.length ∧ w.second.count ≤ w.frame.length

/-! ### The snapshot -/

/-- The results of the file operations of a snapshot: what the first `fflush` gets to the log file,
the opening of the two files, the `fread` and the `fwrite` of each chunk, and the `fflush` of the
copy. -/
structure SnapshotEnv where
  flushed : ℕ
  opensSrc : Bool
  opensDst : Bool
  reads : ℕ → Bool
  writes : ℕ → Bool
  flushes : Bool

/-- The copy loop from the `k`-th chunk on: what it appends, unless it fails. -/
def copyLoop (e : SnapshotEnv) (k : ℕ) (src : Bytes) : Option Bytes :=
  -- a chunk that an error cuts is copied before `ferror` tells
  if ¬ e.reads k then none
  else if src.take 4096 ≠ [] ∧ ¬ e.writes k then none
  else if _h : src.length < 4096 then some (src.take 4096)
  else (copyLoop e (k + 1) (src.drop 4096)).map (src.take 4096 ++ ·)
termination_by src.length
decreasing_by
  rw [List.length_drop]
  omega

/-- `telemetry_log_snapshot`: what it makes of the log file, and the file that it has written when
it returns `SUCCESS`. -/
def telemetryLogSnapshot (e : SnapshotEnv) (s : TelFile) : TelFile × Option Bytes :=
  if s.fp then
    let s := s.fflush e.flushed
    (s, if e.opensSrc ∧ e.opensDst then do
        let src ← s.files 0
        let dst ← copyLoop e 0 src
        if e.flushes then some dst else none
      else none)
  else (s, none)

/-- What the threads do with the files: the writer takes a frame, or the upload takes a snapshot. -/
inductive FileAct
  | write (w : Write)
  | snapshot (e : SnapshotEnv)

/-- The frames that an act brings. -/
def FileAct.frames : FileAct → List Bytes
  | .write w => [w.frame]
  | .snapshot _ => []

/-- One act under the file lock. -/
inductive FileStep (config : TelConfig) (s : TelFile) : FileAct → TelFile → Prop
  | write {w : Write} (h : w.Possible) : FileStep config s (.write w) (telWriterThread config w s)
  | snapshot (e : SnapshotEnv) : FileStep config s (.snapshot e) (telemetryLogSnapshot e s).1

/-- A snapshot that succeeds is a copy. -/
lemma copyLoop_eq {e : SnapshotEnv} {k : ℕ} {src dst : Bytes} (h : copyLoop e k src = some dst) :
    dst = src := by
  induction k, src using copyLoop.induct e generalizing dst with
  | case1 k src hread =>
    rw [copyLoop, if_pos hread] at h
    cases h
  | case2 k src hread hwrite =>
    rw [copyLoop, if_neg hread, if_pos hwrite] at h
    cases h
  | case3 k src hread hwrite hlast =>
    rw [copyLoop, if_neg hread, if_neg hwrite, dif_pos hlast] at h
    obtain rfl := Option.some.inj h
    exact List.take_of_length_le (Nat.le_of_lt hlast)
  | case4 k src hread hwrite hmore ih =>
    rw [copyLoop, if_neg hread, if_neg hwrite, dif_neg hmore] at h
    obtain ⟨rest, hrest, rfl⟩ := Option.map_eq_some_iff.1 h
    rw [ih hrest, List.take_append_drop]

lemma telemetryLogSnapshot_eq {e : SnapshotEnv} {s : TelFile} {dst : Bytes}
    (h : (telemetryLogSnapshot e s).2 = some dst) :
    (telemetryLogSnapshot e s).1.files 0 = some dst := by
  rw [telemetryLogSnapshot] at h ⊢
  by_cases hfp : s.fp = true
  · rw [if_pos hfp] at h ⊢
    obtain ⟨-, hcopied⟩ := Option.ite_none_right_eq_some.1 h
    obtain ⟨src, hsrc, hread⟩ := Option.bind_eq_some_iff.1 hcopied
    obtain ⟨copy, hcopy, hflush⟩ := Option.bind_eq_some_iff.1 hread
    obtain ⟨-, hdst⟩ := Option.ite_none_right_eq_some.1 hflush
    obtain rfl := Option.some.inj hdst
    rw [copyLoop_eq hcopy]
    exact hsrc
  · rw [if_neg hfp] at h
    cases h

/-! ### Whole frames -/

/-- A file is made of whole frames out of those that came in, in their order. -/
def WholeFrames (arrived : List Bytes) (content : Bytes) : Prop :=
  ∃ kept : List Bytes, kept.Sublist arrived ∧ content = kept.flatten

lemma WholeFrames.nil (arrived : List Bytes) : WholeFrames arrived [] :=
  ⟨[], arrived.nil_sublist, rfl⟩

/-- Of no frames, only the empty file is made. -/
lemma WholeFrames.eq_nil {content : Bytes} (h : WholeFrames [] content) : content = [] := by
  obtain ⟨kept, hsub, rfl⟩ := h
  rw [List.sublist_nil.1 hsub]
  rfl

lemma WholeFrames.skip {arrived : List Bytes} {content : Bytes} (h : WholeFrames arrived content)
    (frame : Bytes) : WholeFrames (arrived ++ [frame]) content := by
  obtain ⟨kept, hsub, rfl⟩ := h
  exact ⟨kept, hsub.trans (List.sublist_append_left arrived [frame]), rfl⟩

lemma WholeFrames.append {arrived : List Bytes} {content : Bytes} (h : WholeFrames arrived content)
    (frame : Bytes) : WholeFrames (arrived ++ [frame]) (content ++ frame) := by
  obtain ⟨kept, hsub, rfl⟩ := h
  exact ⟨kept ++ [frame], hsub.append_right [frame], by simp⟩

/-- The log file is made of whole frames, and `g_tel_bytes` is its length. -/
def Accounted (arrived : List Bytes) (s : TelFile) : Prop :=
  ∃ content, s.files 0 = some content ∧ WholeFrames arrived content ∧ s.bytes = content.length

/-- The file is open with nothing left in its stream, holds the frames `arrived` up to some that
are missing, and is accounted for. -/
structure InStep (arrived : List Bytes) (s : TelFile) : Prop where
  fp : s.fp = true
  buffer : s.buffer = []
  accounted : Accounted arrived s

/-- What the file is for: it is made of whole frames, `g_tel_bytes` is its length, and both are so
behind every snapshot, which is made of whole frames as well when it succeeds. -/
def HoldsWholeFrames (arrived : List Bytes) (s : TelFile) : Prop :=
  Accounted arrived s ∧ ∀ e, Accounted arrived (telemetryLogSnapshot e s).1 ∧
    ∀ dst, (telemetryLogSnapshot e s).2 = some dst → WholeFrames arrived dst

/-- With nothing in the stream, there is nothing to write out. -/
lemma TelFile.fflush_of_empty {s : TelFile} {content : Bytes} (hbuffer : s.buffer = [])
    (hfile : s.files 0 = some content) (n : ℕ) : s.fflush n = s := by
  obtain ⟨files, fp, buffer, bytes⟩ := s
  obtain rfl : buffer = [] := hbuffer
  have hsame : files 0 = some ((files 0).getD [] ++ List.take n []) := by
    rw [show files 0 = some content from hfile]
    simp
  rw [TelFile.fflush, TelFile.out, ← hsame, Function.update_eq_self]

/-- A snapshot leaves a file in step as it is. -/
lemma InStep.snapshot {arrived : List Bytes} {s : TelFile} (h : InStep arrived s)
    (e : SnapshotEnv) : (telemetryLogSnapshot e s).1 = s := by
  obtain ⟨content, hfile, -⟩ := h.accounted
  rw [telemetryLogSnapshot, if_pos h.fp]
  exact TelFile.fflush_of_empty h.buffer hfile e.flushed

lemma InStep.holds {arrived : List Bytes} {s : TelFile} (h : InStep arrived s) :
    HoldsWholeFrames arrived s := by
  refine ⟨h.accounted, fun e => ⟨?_, fun dst hdst => ?_⟩⟩
  · rw [h.snapshot e]
    exact h.accounted
  · have hcopy := telemetryLogSnapshot_eq hdst
    rw [h.snapshot e] at hcopy
    obtain ⟨content, hcontent, hwhole, -⟩ := h.accounted
    obtain rfl := Option.some.inj (hcontent.symm.trans hcopy)
    exact hwhole

/-! ### What a rotation and a write do -/

/-- The renames and the `fopen` succeed. -/
def RotateEnv.Succeeds (e : RotateEnv) : Prop := (∀ i, e.renames i = true) ∧ e.reopens = true

lemma renameUp_zero {e : RotateEnv} (he : e.Succeeds) (files : ℕ → Option Bytes) :
    renameUp e 0 files 0 = none := by
  rw [renameUp]
  split_ifs with h
  · simp
  · simpa [he.1 0] using h

/-- Whatever becomes of the backups, the rotation starts an empty file. -/
lemma telRotateLocked_empty (config : TelConfig) {e : TelRotateEnv} (he : e.Succeeds)
    (s : TelFile) :
    (telRotateLocked config e s).fp = true ∧ (telRotateLocked config e s).buffer = [] ∧
      (telRotateLocked config e s).files 0 = some [] ∧
        (telRotateLocked config e s).bytes = 0 := by
  rw [telRotateLocked]
  simp [he.2, renameUp_zero he]

lemma telRotateLocked_inStep (config : TelConfig) {e : TelRotateEnv} (he : e.Succeeds)
    (arrived : List Bytes) (s : TelFile) : InStep arrived (telRotateLocked config e s) := by
  obtain ⟨hfp, hbuffer, hfile, hbytes⟩ := telRotateLocked_empty config he s
  exact ⟨hfp, hbuffer, [], hfile, .nil arrived, hbytes⟩

/-- A frame that `fwrite` has taken whole, behind the `fflush`. -/
def TelFile.addFrame (s : TelFile) (frame : Bytes) (a : Attempt) : TelFile :=
  { s.fwrite frame a.early with bytes := s.bytes + frame.length }.fflush a.flushed

@[simp] lemma TelFile.addFrame_fp (s : TelFile) (frame : Bytes) (a : Attempt) :
    (s.addFrame frame a).fp = s.fp := rfl

@[simp] lemma TelFile.addFrame_buffer (s : TelFile) (frame : Bytes) (a : Attempt) :
    (s.addFrame frame a).buffer = [] := rfl

@[simp] lemma TelFile.addFrame_bytes (s : TelFile) (frame : Bytes) (a : Attempt) :
    (s.addFrame frame a).bytes = s.bytes + frame.length := rfl

/-- As much of the frame as the stream and the `fflush` write out gets to the file. -/
lemma TelFile.addFrame_files {s : TelFile} {content : Bytes} (hbuffer : s.buffer = [])
    (hfile : s.files 0 = some content) (frame : Bytes) (a : Attempt) :
    (s.addFrame frame a).files =
      Function.update s.files 0 (some (content ++ frame.take (a.early + a.flushed))) := by
  simp only [TelFile.addFrame, TelFile.fflush, TelFile.fwrite, TelFile.out, hbuffer,
    List.nil_append, Function.update_self, Function.update_idem, hfile, Option.getD_some,
    List.append_assoc, List.take_add]

/-- The attempt takes the whole frame and gets it to the file. -/
def Attempt.Writes (a : Attempt) (frame : Bytes) : Prop :=
  a.count = frame.length ∧ frame.length ≤ a.early + a.flushed

lemma InStep.skip {arrived : List Bytes} {s : TelFile} (h : InStep arrived s) (frame : Bytes) :
    InStep (arrived ++ [frame]) s := by
  obtain ⟨hfp, hbuffer, content, hfile, hwhole, hbytes⟩ := h
  exact ⟨hfp, hbuffer, content, hfile, hwhole.skip frame, hbytes⟩

lemma InStep.addFrame {arrived : List Bytes} {s : TelFile} (h : InStep arrived s)
    {frame : Bytes} {a : Attempt} (ha : frame.length ≤ a.early + a.flushed) :
    InStep (arrived ++ [frame]) (s.addFrame frame a) := by
  obtain ⟨hfp, hbuffer, content, hfile, hwhole, hbytes⟩ := h
  refine ⟨hfp, rfl, content ++ frame, ?_, hwhole.append frame, ?_⟩
  · rw [TelFile.addFrame_files hbuffer hfile, Function.update_self,
      List.take_of_length_le ha]
  · rw [TelFile.addFrame_bytes, hbytes, List.length_append]

/-- A frame that does not get to the file whole is counted all the same. -/
lemma InStep.not_accounted_addFrame {arrived : List Bytes} {s : TelFile} (h : InStep arrived s)
    {frame : Bytes} {a : Attempt} (ha : ¬ frame.length ≤ a.early + a.flushed)
    (arrived' : List Bytes) : ¬ Accounted arrived' (s.addFrame frame a) := by
  obtain ⟨-, hbuffer, content, hfile, -, hbytes⟩ := h
  rintro ⟨content', hcontent, -, hlength⟩
  rw [TelFile.addFrame_files hbuffer hfile, Function.update_self, Option.some.injEq] at hcontent
  rw [TelFile.addFrame_bytes, hbytes, ← hcontent, List.length_append, List.length_take] at hlength
  omega

/-- A part of a frame that the stream has taken gets to the file with the next snapshot, and is not
counted. -/
lemma not_holdsWholeFrames_fwrite {s : TelFile} (hfp : s.fp = true) (hbuffer : s.buffer = [])
    (hfile : s.files 0 = some []) (hbytes : s.bytes = 0) {part : Bytes} (hpart : part ≠ [])
    (early : ℕ) (arrived : List Bytes) : ¬ HoldsWholeFrames arrived (s.fwrite part early) := by
  rintro ⟨-, hsnapshot⟩
  have hcopied := (hsnapshot ⟨part.length, true, true, fun _ => true, fun _ => true, true⟩).1
  have hopen : (s.fwrite part early).fp = true := hfp
  obtain ⟨content, hcontent, -, hlength⟩ := hcopied
  rw [telemetryLogSnapshot, if_pos hopen] at hcontent hlength
  have hall : (part.drop early).take part.length = part.drop early :=
    List.take_of_length_le (by rw [List.length_drop]; omega)
  simp only [TelFile.fflush, TelFile.fwrite, TelFile.out, hbuffer, List.nil_append, hfile,
    Option.getD_some, Function.update_self, Option.some.injEq, hall, List.take_append_drop]
    at hcontent
  obtain rfl := hcontent
  have hzero : part.length = 0 := hlength.symm.trans hbytes
  exact hpart (List.eq_nil_of_length_eq_zero hzero)

/-- The renames and the `fopen` of the two rotations succeed. -/
def Write.FilesSucceed (w : Write) : Prop := w.rotation.Succeeds ∧ w.retry.Succeeds

/-- The frame gets to the file whole at the attempt that takes it whole, or both attempts fall short
and the second one takes nothing. -/
def Write.InAccount (w : Write) : Prop :=
  w.first.Writes w.frame ∨
    w.first.count ≠ w.frame.length ∧ (w.second.Writes w.frame ∨ w.second.count = 0)

variable {config : TelConfig} {arrived : List Bytes} {s s' : TelFile} {w : Write}

variable (config) in
/-- What becomes of a frame: it is added to a file in step, or, behind a short write, an empty file
gets it or takes a part that is not counted. -/
lemma telWriterThread_cases (h : InStep arrived s) (hfiles : w.FilesSucceed) :
    ∃ t, InStep arrived t ∧
      (w.first.count = w.frame.length ∧
          telWriterThread config w s = t.addFrame w.frame w.first ∨
        w.first.count ≠ w.frame.length ∧ t.files 0 = some [] ∧ t.bytes = 0 ∧
          telWriterThread config w s =
            if w.second.count = w.frame.length then t.addFrame w.frame w.second
            else t.fwrite (w.frame.take w.second.count) w.second.early) := by
  have hrotated : InStep arrived (if config.maxSize ≤ s.bytes + w.frame.length then
      telRotateLocked config w.rotation s else s) := by
    split_ifs
    · exact telRotateLocked_inStep config hfiles.1 arrived s
    · exact h
  rw [telWriterThread]
  generalize (if config.maxSize ≤ s.bytes + w.frame.length then
    telRotateLocked config w.rotation s else s) = t at hrotated
  by_cases hfirst : w.first.count = w.frame.length
  · refine ⟨t, hrotated, .inl ⟨hfirst, ?_⟩⟩
    simp only [hrotated.fp, hfirst, if_true, List.take_length]
    rfl
  · have hempty := telRotateLocked_empty config hfiles.2
      (t.fwrite (w.frame.take w.first.count) w.first.early)
    refine ⟨_, telRotateLocked_inStep config hfiles.2 arrived
      (t.fwrite (w.frame.take w.first.count) w.first.early),
      .inr ⟨hfirst, hempty.2.2.1, hempty.2.2.2, ?_⟩⟩
    simp only [hrotated.fp, hempty.1, if_true, if_neg hfirst]
    split_ifs with hsecond
    · rw [hsecond, List.take_length]
      rfl
    · rfl

/-- A frame that is accounted for keeps the file in step. -/
lemma InStep.telWriterThread (h : InStep arrived s) (hfiles : w.FilesSucceed)
    (hw : w.InAccount) : InStep (arrived ++ [w.frame]) (telWriterThread config w s) := by
  obtain ⟨t, ht, ⟨hfirst, heq⟩ | ⟨hfirst, hfile, hbytes, heq⟩⟩ :=
    telWriterThread_cases config h hfiles
  · rw [heq]
    have hwritten : w.first.Writes w.frame := hw.resolve_right fun hshort => hshort.1 hfirst
    exact ht.addFrame hwritten.2
  · have hsecond : w.second.Writes w.frame ∨ w.second.count = 0 := by
      rcases hw with hwritten | ⟨-, hsecond⟩
      · exact absurd hwritten.1 hfirst
      · exact hsecond
    rw [heq]
    split_ifs with hfull
    · refine ht.addFrame ?_
      rcases hsecond with hwritten | hzero
      · exact hwritten.2
      · omega
    · -- nothing was taken
      have hzero : w.second.count = 0 := hsecond.resolve_left fun hwritten => hfull hwritten.1
      have hnone : t.fwrite (w.frame.take w.second.count) w.second.early = t := by
        obtain ⟨files, fp, buffer, bytes⟩ := t
        obtain rfl : buffer = [] := ht.buffer
        obtain hfile : files 0 = some [] := hfile
        have hsame : Function.update files 0 (some []) = files := by
          rw [← hfile, Function.update_eq_self]
        simp [TelFile.fwrite, TelFile.out, hzero, hfile, hsame]
      rw [hnone]
      exact ht.skip w.frame

/-- A frame that is not accounted for. -/
lemma not_holdsWholeFrames (h : InStep arrived s) (hfiles : w.FilesSucceed) (hw : w.Possible)
    (hnot : ¬ w.InAccount) (arrived' : List Bytes) :
    ¬ HoldsWholeFrames arrived' (telWriterThread config w s) := by
  obtain ⟨hvalid, -, hle⟩ := hw
  obtain ⟨t, ht, ⟨hfirst, heq⟩ | ⟨hfirst, hfile, hbytes, heq⟩⟩ :=
    telWriterThread_cases config h hfiles
  · rw [heq]
    exact fun hholds =>
      ht.not_accounted_addFrame (fun ha => hnot (.inl ⟨hfirst, ha⟩)) _ hholds.1
  · have hsecond : ¬ (w.second.Writes w.frame ∨ w.second.count = 0) := fun hsecond =>
      hnot (.inr ⟨hfirst, hsecond⟩)
    rw [not_or] at hsecond
    rw [heq]
    split_ifs with hfull
    · exact fun hholds =>
        ht.not_accounted_addFrame (fun ha => hsecond.1 ⟨hfull, ha⟩) _ hholds.1
    · refine not_holdsWholeFrames_fwrite ht.fp ht.buffer hfile hbytes ?_ _ _
      refine List.ne_nil_of_length_pos ?_
      rw [List.length_take]
      have hpos := hvalid.1
      have hcount := hsecond.2
      omega

/-- At every time up to the end of the sequence of acts `l` the file and its snapshots are made of
whole frames. -/
def AlwaysWhole (config : TelConfig) (arrived : List Bytes) (s : TelFile) (l : List FileAct) :
    Prop :=
  ∀ l₁ l₂ t, l = l₁ ++ l₂ → Run (FileStep config) s l₁ t →
    HoldsWholeFrames (arrived ++ l₁.flatMap FileAct.frames) t

lemma fileStep_functional {t t' : TelFile} {a : FileAct} (h : FileStep config s a t)
    (h' : FileStep config s a t') : t = t' := by
  cases h <;> cases h' <;> rfl

/-- Every sequence of acts that the threads can meet has its run. -/
lemma exists_run_fileStep (config : TelConfig) (s : TelFile) {l : List FileAct}
    (h : ∀ w, .write w ∈ l → w.Possible) : ∃ s', Run (FileStep config) s l s' := by
  induction l generalizing s with
  | nil => exact ⟨s, .nil s⟩
  | cons a l ih =>
    have hlater : ∀ w, .write w ∈ l → w.Possible := fun w hw => h w (List.mem_cons_of_mem a hw)
    cases a with
    | write w =>
      obtain ⟨s', hrun⟩ := ih (telWriterThread config w s) hlater
      exact ⟨s', .cons (.write (h w List.mem_cons_self)) hrun⟩
    | snapshot e =>
      obtain ⟨s', hrun⟩ := ih (telemetryLogSnapshot e s).1 hlater
      exact ⟨s', .cons (.snapshot e) hrun⟩

/-- The first act, and those that follow it. -/
lemma alwaysWhole_cons {a : FileAct} {l : List FileAct} (hstep : FileStep config s a s') :
    AlwaysWhole config arrived s (a :: l) ↔
      HoldsWholeFrames arrived s ∧ AlwaysWhole config (arrived ++ a.frames) s' l := by
  constructor
  · intro h
    constructor
    · simpa using h [] (a :: l) s rfl (.nil s)
    · intro l₁ l₂ t hl hrun
      simpa using h (a :: l₁) l₂ t (by rw [hl, List.cons_append]) (.cons hstep hrun)
  · rintro ⟨hnow, hlater⟩ l₁ l₂ t hl hrun
    cases hrun with
    | nil => simpa using hnow
    | @cons _ t₁ _ b l₁ hfirst hrest =>
      obtain ⟨rfl, htail⟩ := List.cons.inj hl
      obtain rfl : s' = t₁ := fileStep_functional hstep hfirst
      simpa using hlater l₁ l₂ t htail hrest

/-- What one act does to a file in step. -/
lemma InStep.step {a : FileAct} (h : InStep arrived s) (hstep : FileStep config s a s')
    (hfiles : ∀ w, a = .write w → w.FilesSucceed) (ha : ∀ w, a = .write w → w.InAccount) :
    InStep (arrived ++ a.frames) s' := by
  cases hstep with
  | write hw => exact h.telWriterThread (hfiles _ rfl) (ha _ rfl)
  | snapshot e =>
    rw [h.snapshot e]
    simpa [FileAct.frames] using h

lemma alwaysWhole_iff {l : List FileAct} (h : InStep arrived s)
    (hrun : Run (FileStep config) s l s') (hfiles : ∀ w, .write w ∈ l → w.FilesSucceed) :
    AlwaysWhole config arrived s l ↔ ∀ w, .write w ∈ l → w.InAccount := by
  induction hrun generalizing arrived with
  | nil s =>
    refine ⟨fun _ w hw => absurd hw List.not_mem_nil, ?_⟩
    intro _ l₁ l₂ t hl hrun
    obtain ⟨rfl, -⟩ := List.append_eq_nil_iff.1 hl.symm
    cases hrun
    simpa using h.holds
  | @cons s s₁ t a l hstep _ ih =>
    have hfirst : ∀ w, a = .write w → w.FilesSucceed := fun w hw =>
      hfiles w (hw ▸ List.mem_cons_self)
    have hlater (ha : ∀ w, a = .write w → w.InAccount) :
        AlwaysWhole config (arrived ++ a.frames) s₁ l ↔ ∀ w, .write w ∈ l → w.InAccount :=
      ih (h.step hstep hfirst ha) fun w hw => hfiles w (List.mem_cons_of_mem a hw)
    rw [alwaysWhole_cons hstep]
    constructor
    · rintro ⟨-, hall⟩
      have ha : ∀ w, a = .write w → w.InAccount := by
        rintro w rfl
        by_contra hnot
        have hnow := hall [] l s₁ rfl (.nil s₁)
        cases hstep with
        | write hw => exact not_holdsWholeFrames h (hfirst w rfl) hw hnot _ hnow
      intro w hw
      rcases List.mem_cons.1 hw with hw | hw
      · exact ha w hw.symm
      · exact (hlater ha).1 hall w hw
    · intro hall
      have ha : ∀ w, a = .write w → w.InAccount := fun w hw => hall w (hw ▸ List.mem_cons_self)
      exact ⟨h.holds, (hlater ha).2 fun w hw => hall w (List.mem_cons_of_mem a hw)⟩

/-- The log has been opened on an empty file. -/
def TelFile.StartsEmpty (s : TelFile) : Prop :=
  s.fp = true ∧ s.buffer = [] ∧ s.files 0 = some [] ∧ s.bytes = 0

lemma TelFile.StartsEmpty.inStep (h : s.StartsEmpty) : InStep [] s :=
  ⟨h.1, h.2.1, [], h.2.2.1, .nil [], h.2.2.2⟩

/-- **The telemetry file.**  Over every sequence of frames and snapshots, with every pattern of full
and short writes and of what `fflush` writes out, the renames and the reopening succeeding, the file
that started empty and all its snapshots are at every time made of whole frames, and `g_tel_bytes`
is the length of the file, if and only if each frame gets to the file whole at the attempt that
takes it whole, or both attempts fall short and the second one takes nothing. -/
theorem telemetryFile_alwaysWhole {l : List FileAct} (hstart : s.StartsEmpty)
    (hrun : Run (FileStep config) s l s') (hfiles : ∀ w, .write w ∈ l → w.FilesSucceed) :
    AlwaysWhole config [] s l ↔ ∀ w, .write w ∈ l → w.InAccount :=
  alwaysWhole_iff hstart.inStep hrun hfiles

/-- An empty log. -/
def emptyLog : TelFile := ⟨Function.update (fun _ => none) 0 (some []), true, [], 0⟩

lemma emptyLog_startsEmpty : emptyLog.StartsEmpty := ⟨rfl, rfl, by simp [emptyLog], rfl⟩

/-- A rotation that goes well. -/
def smoothRotation : TelRotateEnv := ⟨⟨true, fun _ => true, true⟩, 0⟩

lemma smoothRotation_succeeds : smoothRotation.Succeeds := ⟨fun _ => rfl, rfl⟩

/-- `v7aFrame`, with the two attempts to write it; all else succeeds. -/
def v7aWrite (first second : Attempt) : Write :=
  ⟨v7aFrame, first, second, smoothRotation, smoothRotation⟩

lemma length_v7aFrame : v7aFrame.length = 133 := by simp [v7aFrame]

lemma v7aWrite_possible {first second : Attempt} (hfirst : first.count ≤ 133)
    (hsecond : second.count ≤ 133) : (v7aWrite first second).Possible := by
  refine ⟨⟨?_, ?_⟩, ?_, ?_⟩ <;> simp [v7aWrite, length_v7aFrame, telSlotMaxFrame, hfirst, hsecond]

lemma v7aWrite_filesSucceed (first second : Attempt) : (v7aWrite first second).FilesSucceed :=
  ⟨smoothRotation_succeeds, smoothRotation_succeeds⟩

/-- An attempt that takes the whole frame and gets it to the file. -/
def wholeAttempt : Attempt := ⟨133, 0, 133⟩

lemma wholeAttempt_writes : wholeAttempt.Writes v7aFrame := by
  simp [Attempt.Writes, wholeAttempt, length_v7aFrame]

/-- One frame is written at the first attempt and one at the second, with a snapshot between that
fails to open the copy. -/
theorem telemetryFile_alwaysWhole_retried :
    AlwaysWhole ⟨4 * 1024 * 1024, 5⟩ [] emptyLog
      [.write (v7aWrite wholeAttempt wholeAttempt),
        .snapshot ⟨0, true, false, fun _ => true, fun _ => true, true⟩,
        .write (v7aWrite ⟨7, 0, 0⟩ wholeAttempt)] := by
  have hwhole := v7aWrite_possible (le_refl wholeAttempt.count) (le_refl wholeAttempt.count)
  have hretried := v7aWrite_possible (show (⟨7, 0, 0⟩ : Attempt).count ≤ 133 by decide)
    (le_refl wholeAttempt.count)
  obtain ⟨s, hrun⟩ := exists_run_fileStep ⟨4 * 1024 * 1024, 5⟩ emptyLog
    (l := [.write (v7aWrite wholeAttempt wholeAttempt),
      .snapshot ⟨0, true, false, fun _ => true, fun _ => true, true⟩,
      .write (v7aWrite ⟨7, 0, 0⟩ wholeAttempt)]) (by simp [hwhole, hretried])
  have hfirst : (v7aWrite wholeAttempt wholeAttempt).InAccount := .inl wholeAttempt_writes
  have hshort : (⟨7, 0, 0⟩ : Attempt).count ≠ v7aFrame.length := by simp [length_v7aFrame]
  have hsecond : (v7aWrite ⟨7, 0, 0⟩ wholeAttempt).InAccount :=
    .inr ⟨hshort, .inl wholeAttempt_writes⟩
  refine (telemetryFile_alwaysWhole emptyLog_startsEmpty hrun ?_).2 ?_
  · simp [v7aWrite_filesSucceed]
  · simp [hfirst, hsecond]

/-- On a full disk `fwrite` takes the frame whole, and the `fflush` gets four bytes of it to the
file. -/
theorem telemetryFile_not_alwaysWhole : ∃ s, emptyLog.StartsEmpty ∧
    Run (FileStep ⟨4 * 1024 * 1024, 5⟩) emptyLog [.write (v7aWrite ⟨133, 0, 4⟩ ⟨0, 0, 0⟩)] s ∧
    (v7aWrite ⟨133, 0, 4⟩ ⟨0, 0, 0⟩).FilesSucceed ∧
    s.files 0 = some [0xEB, 0x93, 0xA1, 127] ∧ s.bytes = 133 ∧
    ¬ HoldsWholeFrames [v7aFrame] s := by
  have hpossible : (v7aWrite ⟨133, 0, 4⟩ ⟨0, 0, 0⟩).Possible :=
    v7aWrite_possible (show 133 ≤ 133 from le_rfl) (show 0 ≤ 133 by omega)
  have hfiles := v7aWrite_filesSucceed ⟨133, 0, 4⟩ ⟨0, 0, 0⟩
  have hstart := emptyLog_startsEmpty.inStep
  have hfull : (v7aWrite ⟨133, 0, 4⟩ ⟨0, 0, 0⟩).first.count =
      (v7aWrite ⟨133, 0, 4⟩ ⟨0, 0, 0⟩).frame.length := length_v7aFrame.symm
  obtain ⟨t, ht, ⟨-, heq⟩ | ⟨hshort, -⟩⟩ :=
    telWriterThread_cases ⟨4 * 1024 * 1024, 5⟩ hstart hfiles
  swap
  · exact absurd hfull hshort
  obtain ⟨content, hcontent, hwhole, hbytes⟩ := ht.accounted
  obtain rfl := hwhole.eq_nil
  refine ⟨_, emptyLog_startsEmpty, .cons (.write hpossible) (.nil _), hfiles, ?_, ?_, ?_⟩
  · rw [heq, TelFile.addFrame_files ht.buffer hcontent, Function.update_self]
    rfl
  · have hcount : t.bytes + v7aFrame.length = 133 := by
      rw [hbytes, length_v7aFrame, List.length_nil]
    rw [heq]
    exact hcount
  · refine not_holdsWholeFrames hstart hfiles hpossible ?_ _
    rintro (⟨-, hflushed⟩ | ⟨hshort, -⟩)
    · have hlong : v7aFrame.length ≤ 4 := hflushed
      rw [length_v7aFrame] at hlong
      omega
    · exact hshort hfull

end AntennaMgmt.Telemetry
