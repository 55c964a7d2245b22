import AntennaMgmt.Telemetry.Rotation

/-!
# From the UART to the telemetry log

The receive thread cuts telemetry frames out of the stream and hands them to the queue one by one;
the writer thread takes them out of the queue, appends them to the log file and rotates the files.
The splitter, the queue, the files and the dump tool are put together here.

A step is a read of the receive thread, one of its calls of `telemetry_log_on_frame`, a region of
the writer thread, its access to the file, or a part of `telemetry_log_destroy`.
-/

namespace AntennaMgmt.Telemetry

open AntennaMgmt.Lib AntennaMgmt.Fpga

/-- The frame of a call of `on_telemetry_log_frame`. -/
def telemetryOf : Callback → Option Bytes
  | .onTelemetryLogFrame frame => some frame
  | _ => none

/-- The frames in the buffer of the receive thread, those of the last read that it has not handed
over yet, the queue and the files.  The last two fields are history: what came in from the UART, and
the frames that the writer has written. -/
structure Pipeline where
  frameBuffer : Bytes
  pending : List Bytes
  log : TelemetryLog
  file : TelFile
  stream : Bytes
  written : List Bytes

/-- What can happen. -/
inductive PipelineAct
  | read (buffer : Bytes)
  | handOver
  | writerRegion
  | writeFile (w : Write)
  | stop
  | join

namespace Pipeline

/-- After `telemetry_log_init` on an empty file. -/
def init : Pipeline := ⟨[], [], .init, emptyLog, [], []⟩

/-- One step, where it is possible. -/
def next (config : TelConfig) (s : Pipeline) : PipelineAct → Option Pipeline
  | .read buffer =>
    if s.pending = [] then
      (uartRecv s.frameBuffer buffer).map fun (frameBuffer, calls) =>
        { s with
          frameBuffer := frameBuffer
          pending := calls.filterMap telemetryOf
          stream := s.stream ++ buffer }
    else none
  | .handOver =>
    s.pending.head?.map fun frame =>
      { s with pending := s.pending.tail, log := s.log.telemetryLogOnFrame (some frame) }
  | .writerRegion => (Telemetry.next s.log .writerRegion).map ({ s with log := · })
  | .writeFile w =>
    if s.log.writer.inHand.map TelSlot.frame = [w.frame] then
      (Telemetry.next s.log .writeFile).map fun log =>
        { s with
          log := log
          file := telWriterThread config w s.file
          written := s.written ++ [w.frame] }
    else none
  | .stop => (Telemetry.next s.log .stop).map ({ s with log := · })
  | .join => (Telemetry.next s.log .join).map ({ s with log := · })

/-- A step. -/
def Step (config : TelConfig) (s : Pipeline) (a : PipelineAct) (s' : Pipeline) : Prop :=
  s.next config a = some s'

/-- A read fits into the buffer, and the file operations succeed: a frame gets to the file at the
first attempt. -/
def Smooth (s : Pipeline) : PipelineAct → Prop
  | .read buffer => buffer ≠ [] ∧ s.frameBuffer.length + buffer.length ≤ frameBufferSize
  | .writeFile w => w.first.Writes w.frame ∧ w.rotation.AllSucceed
  | _ => True

/-- The telemetry frames in a stream. -/
def telemetryFrames (stream : Bytes) : List Bytes :=
  (fpgaFormat.scan stream).1.filter fun f => f.take 2 = hdr

/-! ### The generations of the log -/

/-- The frames of the files with the numbers up to `n`, from the oldest on. -/
def oldToNew (segs : ℕ → List Bytes) : ℕ → List Bytes
  | 0 => segs 0
  | n + 1 => segs (n + 1) ++ oldToNew segs n

/-- The frames of the files after a rotation. -/
def rotated (segs : ℕ → List Bytes) (i : ℕ) : List Bytes := if i = 0 then [] else segs (i - 1)

/-- The number of the last backup. -/
def lastBackup (config : TelConfig) : ℕ := max 1 config.maxBackups

/-- The files are made of the frames `segs`, which are the last of the frames written, and nothing
is left in the stream. -/
structure Stored (n : ℕ) (segs : ℕ → List Bytes) (written : List Bytes) (s : TelFile) : Prop where
  fp : s.fp = true
  buffer : s.buffer = []
  current : s.files 0 = some (segs 0).flatten
  backups : ∀ i ≤ n, (s.files i).getD [] = (segs i).flatten
  newest : oldToNew segs n <:+ written

variable {config : TelConfig} {segs : ℕ → List Bytes} {written : List Bytes} {file : TelFile}

lemma oldToNew_rotated (segs : ℕ → List Bytes) (n : ℕ) :
    oldToNew (rotated segs) (n + 1) = oldToNew segs n := by
  induction n with
  | zero => simp [oldToNew, rotated]
  | succ n ih =>
    rw [oldToNew, ih]
    simp [rotated, oldToNew]

lemma oldToNew_congr {segs' : ℕ → List Bytes} {n : ℕ} {frame : Bytes}
    (hzero : segs' 0 = segs 0 ++ [frame]) (hsucc : ∀ i, 1 ≤ i → segs' i = segs i) :
    oldToNew segs' n = oldToNew segs n ++ [frame] := by
  induction n with
  | zero => exact hzero
  | succ n ih =>
    rw [oldToNew, oldToNew, ih, hsucc _ (Nat.le_add_left 1 n), List.append_assoc]

/-- There is nothing to write out when the log file is closed. -/
lemma Stored.close_files {n : ℕ} (h : Stored n segs written file) (flushed : ℕ) :
    (file.close flushed).files = file.files := by
  rw [TelFile.close, if_pos h.fp, TelFile.fflush_of_empty h.buffer h.current]

/-- A rotation moves each file up by one number, and the oldest one out. -/
lemma Stored.telRotateLocked (h : Stored (lastBackup config) segs written file)
    {e : TelRotateEnv} (he : e.AllSucceed) :
    Stored (lastBackup config) (rotated segs) written (telRotateLocked config e file) := by
  obtain ⟨hfp, hbuffer, hempty, -⟩ := telRotateLocked_empty config he.2 file
  have hone : 1 ≤ lastBackup config := le_max_left _ _
  refine ⟨hfp, hbuffer, by rw [hempty]; rfl, fun i hi => ?_, ?_⟩
  · rcases Nat.eq_zero_or_pos i with rfl | hpos
    · rw [hempty]
      rfl
    rw [telRotateLocked_files config he file hpos, h.close_files, rotated, if_neg (by omega)]
    rcases Nat.eq_zero_or_pos config.maxBackups with hzero | hmax
    · -- without backups the log file is still renamed to the first one
      obtain rfl : i = 1 := by
        rw [lastBackup, hzero] at hi
        omega
      rw [rotatedFiles_first he.2.1 _ h.current]
      rfl
    · have hshifts := rotatedFiles_shifts he.2.1 hmax h.current
      rcases Nat.lt_or_ge 1 i with hlt | hle
      · have hle : i ≤ config.maxBackups := by
          rw [lastBackup] at hi
          omega
        have hlater := hshifts.later (i - 1) (by omega) (by omega)
        rw [Nat.sub_add_cancel hpos] at hlater
        rw [hlater]
        exact h.backups (i - 1) (by omega)
      · obtain rfl : i = 1 := by omega
        rw [hshifts.first]
        rfl
  · obtain ⟨n, hn⟩ : ∃ n, lastBackup config = n + 1 := ⟨lastBackup config - 1, by omega⟩
    rw [hn, oldToNew_rotated]
    refine List.IsSuffix.trans ?_ h.newest
    rw [hn, oldToNew]
    exact List.suffix_append _ _

/-- A frame is appended to the log file. -/
lemma Stored.addFrame {n : ℕ} (h : Stored n segs written file) {frame : Bytes} {a : Attempt}
    (ha : frame.length ≤ a.early + a.flushed) :
    ∃ segs', Stored n segs' (written ++ [frame]) (file.addFrame frame a) := by
  have hfiles : (file.addFrame frame a).files =
      Function.update file.files 0 (some ((segs 0).flatten ++ frame)) := by
    rw [TelFile.addFrame_files h.buffer h.current, List.take_of_length_le ha]
  refine ⟨Function.update segs 0 (segs 0 ++ [frame]), h.fp, rfl, ?_, fun i hi => ?_, ?_⟩
  · rw [hfiles, Function.update_self, Function.update_self]
    simp
  · rw [hfiles]
    rcases eq_or_ne i 0 with rfl | hne
    · rw [Function.update_self, Function.update_self]
      simp
    · rw [Function.update_of_ne hne, Function.update_of_ne hne, h.backups i hi]
  · have hmore : oldToNew (Function.update segs 0 (segs 0 ++ [frame])) n =
        oldToNew segs n ++ [frame] :=
      oldToNew_congr (Function.update_self ..) fun i hi =>
        Function.update_of_ne (Nat.ne_of_gt hi) ..
    obtain ⟨old, hold⟩ := h.newest
    exact ⟨old, by rw [hmore, ← hold, List.append_assoc]⟩

/-- A frame goes to the log file whole, behind a rotation if there is need of one. -/
lemma Stored.telWriterThread (h : Stored (lastBackup config) segs written file) {w : Write}
    (hfirst : w.first.Writes w.frame) (hrotation : w.rotation.AllSucceed) :
    ∃ segs', Stored (lastBackup config) segs' (written ++ [w.frame])
      (telWriterThread config w file) := by
  have hrotated : ∃ segs', Stored (lastBackup config) segs' written
      (if config.maxSize ≤ file.bytes + w.frame.length then
        Telemetry.telRotateLocked config w.rotation file else file) := by
    split_ifs
    · exact ⟨_, h.telRotateLocked hrotation⟩
    · exact ⟨_, h⟩
  rw [Telemetry.telWriterThread]
  generalize (if config.maxSize ≤ file.bytes + w.frame.length then
    Telemetry.telRotateLocked config w.rotation file else file) = t at hrotated
  obtain ⟨segs', hsegs⟩ := hrotated
  dsimp only
  rw [if_pos hsegs.fp, if_pos hfirst.1, hfirst.1, List.take_length]
  exact hsegs.addFrame hfirst.2

/-! ### The flow of the frames -/

/-- What holds at all times. -/
structure Flows (config : TelConfig) (s : Pipeline) : Prop where
  leftover : s.frameBuffer = (fpgaFormat.scan s.stream).2
  sound : ∀ f ∈ s.log.accepted ++ s.pending, IsTelemetryFrame f
  order : (s.log.accepted ++ s.pending).Sublist (telemetryFrames s.stream)
  count : s.log.stopping = false →
    s.log.accepted.length + s.log.dropped + s.pending.length = (telemetryFrames s.stream).length
  queue : ∃ w : Worker Bytes, Follows s.log w ∧ w.Inv
  taken : s.log.taken = s.written ++ s.log.writer.inHand.map TelSlot.frame
  files : ∃ segs, Stored (lastBackup config) segs s.written s.file

variable {s s' : Pipeline}

lemma validFrame_of_isTelemetryFrame {f : Bytes} (h : IsTelemetryFrame f) : ValidFrame f := by
  obtain ⟨source, length, data, hlisted, hdata, rfl⟩ := h
  have hlen : length = 127 ∨ length = 146 := by
    simp only [whiteListed, Bool.decide_or, Bool.decide_and, Bool.or_eq_true, Bool.and_eq_true,
      decide_eq_true_eq] at hlisted
    exact hlisted.imp And.right And.right
  rcases hlen with rfl | rfl <;> simp [ValidFrame, hdata, telSlotMaxFrame]

/-- The telemetry frames among the calls of a read. -/
lemma filterMap_callbackOf (frames : List Bytes) :
    (frames.map callbackOf).filterMap telemetryOf = frames.filter fun f => f.take 2 = hdr := by
  rw [List.filterMap_map, ← List.filterMap_eq_filter]
  refine List.filterMap_congr fun f _ => ?_
  rw [Function.comp_apply, callbackOf]
  by_cases hf : f.take 2 = [0xEB, 0x93]
  · rw [if_pos hf]
    simp [telemetryOf, hdr, hf]
  · rw [if_neg hf]
    split_ifs <;> simp [telemetryOf, hdr, Option.guard, hf]

/-- A read goes on with the scan of the stream. -/
lemma Flows.read (h : s.Flows config) {buffer : Bytes} (hne : buffer ≠ [])
    (hfits : s.frameBuffer.length + buffer.length ≤ frameBufferSize) (hnil : s.pending = [])
    (hstep : s.next config (.read buffer) = some s') : s'.Flows config := by
  rw [next, if_pos hnil, uartRecv_eq hne hfits, Option.map_some] at hstep
  have hscan := ScanFormat.scan_append (F := fpgaFormat) s.stream buffer
  rw [← h.leftover] at hscan
  have hsound : ∀ f ∈ (((fpgaFormat.scan (s.frameBuffer ++ buffer)).1.map callbackOf).filterMap
      telemetryOf), IsTelemetryFrame f := by
    intro f hf
    obtain ⟨c, hc, hcall⟩ := List.mem_filterMap.1 hf
    have hcall' : c = .onTelemetryLogFrame f := by
      cases c with
      | onTelemetryLogFrame frame => exact congrArg _ (Option.some.inj hcall)
      | onStatusReceived | onDataReceived => cases hcall
    exact accepted_iff.1 ⟨s.frameBuffer, buffer, _, uartRecv_eq hne hfits, hcall' ▸ hc⟩
  have horder := h.order
  have hcount := h.count
  rw [hnil, List.append_nil] at horder
  rw [hnil, List.length_nil, Nat.add_zero] at hcount
  cases hstep
  have hreceived : telemetryFrames (s.stream ++ buffer) = telemetryFrames s.stream ++
      ((fpgaFormat.scan (s.frameBuffer ++ buffer)).1.map callbackOf).filterMap telemetryOf := by
    rw [telemetryFrames, telemetryFrames, hscan, List.filter_append, filterMap_callbackOf]
  refine ⟨by rw [hscan], fun f hf => ?_, ?_, fun hstop => ?_, h.queue, h.taken, h.files⟩
  · rcases List.mem_append.1 hf with hf | hf
    · exact h.sound f (List.mem_append_left _ hf)
    · exact hsound f hf
  · dsimp only
    rw [hreceived]
    exact horder.append_right _
  · dsimp only
    rw [hreceived, List.length_append, ← hcount hstop]

/-- The queue stays that of a worker. -/
lemma queue_step {log log' : TelemetryLog} {a : Act}
    (h : ∃ w : Worker Bytes, Follows log w ∧ w.Inv) (hstep : Telemetry.Step log a log') :
    ∃ w : Worker Bytes, Follows log' w ∧ w.Inv := by
  obtain ⟨w, hfollows, hinv⟩ := h
  rcases hfollows.step hstep with hsame | ⟨b, w', hb, hnext⟩
  · exact ⟨w, hsame, hinv⟩
  · exact ⟨w', hnext, hinv.step hb⟩

/-- A frame that is handed over is accepted or counted, unless the log is being destroyed. -/
lemma Flows.handOver (h : s.Flows config) (hstep : s.next config .handOver = some s') :
    s'.Flows config := by
  obtain ⟨frame, hhead, hstep⟩ := Option.map_eq_some_iff.1 hstep
  obtain ⟨rest, hpending⟩ : ∃ rest, s.pending = frame :: rest :=
    List.head?_eq_some_iff.1 hhead
  subst hstep
  have hsound := h.sound
  have horder := h.order
  have hcount := h.count
  rw [hpending] at hsound horder hcount ⊢
  have hframe : IsTelemetryFrame frame := hsound frame (by simp)
  have hlog : Telemetry.Step s.log (.onFrame (some frame))
      (s.log.telemetryLogOnFrame (some frame)) := rfl
  have hqueue := queue_step h.queue hlog
  have htaken := h.taken
  generalize s.log.telemetryLogOnFrame (some frame) = log at hlog hqueue
  cases step_cases hlog with
  | accepted hvalid hstop hroom =>
    refine ⟨h.leftover, fun f hf => hsound f ?_, ?_, fun _ => ?_, hqueue, htaken, h.files⟩
    · simpa using hf
    · simpa using horder
    · dsimp only
      rw [← hcount hstop]
      simp only [List.length_append, List.length_cons, List.length_nil, List.tail_cons]
      omega
  | dropped hvalid hstop hfull =>
    refine ⟨h.leftover, fun f hf => hsound f ?_, ?_, fun _ => ?_, hqueue, htaken, h.files⟩
    · rcases List.mem_append.1 hf with hf | hf
      · exact List.mem_append_left _ hf
      · exact List.mem_append_right _ (List.mem_cons_of_mem _ hf)
    · exact ((List.sublist_cons_self frame rest).append_left s.log.accepted).trans horder
    · dsimp only
      rw [← hcount hstop]
      simp only [List.length_cons, List.tail_cons]
      omega
  | ignored hstop =>
    have hstopping := hstop frame rfl (validFrame_of_isTelemetryFrame hframe)
    refine ⟨h.leftover, fun f hf => hsound f ?_, ?_, fun hgo => ?_, hqueue, htaken, h.files⟩
    · rcases List.mem_append.1 hf with hf | hf
      · exact List.mem_append_left _ hf
      · exact List.mem_append_right _ (List.mem_cons_of_mem _ hf)
    · exact ((List.sublist_cons_self frame rest).append_left s.log.accepted).trans horder
    · rw [hstopping] at hgo
      cases hgo

/-- A step of the queue that takes in no frame. -/
lemma Flows.of_log (h : s.Flows config) {a : Act} {log : TelemetryLog} {file : TelFile}
    {written : List Bytes} (hlog : Telemetry.Step s.log a log)
    (haccepted : log.accepted = s.log.accepted) (hdropped : log.dropped = s.log.dropped)
    (hstop : log.stopping = false → s.log.stopping = false)
    (htaken : log.taken = written ++ log.writer.inHand.map TelSlot.frame)
    (hfiles : ∃ segs, Stored (lastBackup config) segs written file) :
    Flows config { s with log := log, file := file, written := written } := by
  refine ⟨h.leftover, ?_, ?_, fun hgo => ?_, queue_step h.queue hlog, htaken, hfiles⟩
  · rw [haccepted]
    exact h.sound
  · rw [haccepted]
    exact h.order
  · rw [haccepted, hdropped]
    exact h.count (hstop hgo)

lemma Flows.step (h : s.Flows config) {a : PipelineAct}
    (hstep : restrict (Step config) Smooth s a s') : s'.Flows config := by
  obtain ⟨hstep, hsmooth⟩ := hstep
  cases a with
  | read buffer =>
    have hnil : s.pending = [] := (Option.ite_none_right_eq_some.1 hstep).1
    exact h.read hsmooth.1 hsmooth.2 hnil hstep
  | handOver => exact h.handOver hstep
  | writerRegion =>
    obtain ⟨log, hlog, rfl⟩ := Option.map_eq_some_iff.1 hstep
    have htaken := h.taken
    cases step_cases hlog with
    | take hwaiting hpos =>
      refine h.of_log hlog rfl rfl id ?_ h.files
      rw [hwaiting] at htaken
      simpa [WorkerPc.inHand] using htaken
    | exit hwaiting hempty hstop =>
      refine h.of_log hlog rfl rfl id ?_ h.files
      rw [hwaiting] at htaken
      exact htaken
  | writeFile w =>
    obtain ⟨hhand, hstep⟩ := Option.ite_none_right_eq_some.1 hstep
    obtain ⟨log, hlog, rfl⟩ := Option.map_eq_some_iff.1 hstep
    have htaken := h.taken
    cases step_cases hlog with
    | writeFile hworking =>
      obtain ⟨segs, hsegs⟩ := h.files
      refine h.of_log hlog rfl rfl id ?_ (hsegs.telWriterThread hsmooth.1 hsmooth.2)
      rw [hhand] at htaken
      simpa [WorkerPc.inHand] using htaken
  | stop =>
    obtain ⟨log, hlog, rfl⟩ := Option.map_eq_some_iff.1 hstep
    cases step_cases hlog with
    | stop hidle => exact h.of_log hlog rfl rfl (fun hgo => by cases hgo) h.taken h.files
  | join =>
    obtain ⟨log, hlog, rfl⟩ := Option.map_eq_some_iff.1 hstep
    cases step_cases hlog with
    | join hjoining hexited => exact h.of_log hlog rfl rfl id h.taken h.files

end Pipeline

end AntennaMgmt.Telemetry
