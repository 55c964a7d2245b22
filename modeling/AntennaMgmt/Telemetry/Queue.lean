import AntennaMgmt.Lib.Bytes
import AntennaMgmt.Lib.RingQueue
import AntennaMgmt.Lib.Worker

/-!
# The queue of the telemetry log

Frames come in on the thread that reads the serial port and are written to a file by a thread of
their own.  Between them stands a ring of 32 slots under a mutex that nobody holds during an
access to the file; a frame that finds it full is dropped.  A step of the model is one region of
that mutex or what the writer does between two of them.
-/

namespace AntennaMgmt.Telemetry

open AntennaMgmt.Lib

/-- `TEL_QUEUE_SLOTS`. -/
abbrev telQueueSlots : ℕ := 32

/-- `TEL_SLOT_MAX_FRAME`. -/
abbrev telSlotMaxFrame : ℕ := 160

/-- `tel_slot_t`. -/
structure TelSlot where
  len : ℕ
  data : Bytes
deriving DecidableEq, Repr

namespace TelSlot

/-- A slot of the static array. -/
def zero : TelSlot := ⟨0, List.replicate telSlotMaxFrame 0⟩

/-- The copy of a frame over what the slot held before. -/
def store (slot : TelSlot) (frame : Bytes) : TelSlot :=
  ⟨frame.length % 2 ^ 16, frame ++ slot.data.drop frame.length⟩

/-- What the writer writes of a slot. -/
def frame (slot : TelSlot) : Bytes := slot.data.take slot.len

lemma frame_store (slot : TelSlot) {frame : Bytes} (h : frame.length ≤ telSlotMaxFrame) :
    (slot.store frame).frame = frame := by
  have hlen : frame.length % 2 ^ 16 = frame.length := Nat.mod_eq_of_lt (h.trans_lt (by decide))
  rw [TelSlot.frame, store]
  simp only [hlen]
  exact List.take_left

end TelSlot

/-- Where `telemetry_log_destroy` stands: not called, waiting for the writer, past the join. -/
inductive DestroyPc
  | idle
  | joining
  | joined
deriving DecidableEq, Repr

/-- The queue, the writer and the call of `telemetry_log_destroy`.  The last two fields are
history: the frames put into the queue and those taken out of it.  The number of frames dropped
is kept in 64 bits, more than a process can drop. -/
structure TelemetryLog where
  ring : RingQueue telQueueSlots TelSlot
  dropped : ℕ
  stopping : Bool
  writer : WorkerPc TelSlot
  destroy : DestroyPc
  accepted : List Bytes
  taken : List Bytes

/-- A frame that a slot can hold. -/
def ValidFrame (frame : Bytes) : Prop := 1 ≤ frame.length ∧ frame.length ≤ telSlotMaxFrame

instance (frame : Bytes) : Decidable (ValidFrame frame) :=
  inferInstanceAs (Decidable (_ ∧ _))

namespace TelemetryLog

/-- After `telemetry_log_init`. -/
def init : TelemetryLog := ⟨.empty .zero, 0, false, .waiting, .idle, [], []⟩

/-- `telemetry_log_on_frame`; `none` is the null pointer. -/
def telemetryLogOnFrame (s : TelemetryLog) : Option Bytes → TelemetryLog
  | none => s
  | some frame =>
    if frame.length = 0 ∨ telSlotMaxFrame < frame.length then s
    else if s.stopping then s
    else if telQueueSlots ≤ s.ring.count then { s with dropped := s.dropped + 1 }
    else
      { s with
          ring := s.ring.put ((s.ring.slots s.ring.tail).store frame)
          accepted := s.accepted ++ [frame] }

/-- The region of `tel_writer_thread`, which waits while there is nothing to do. -/
def telWriterRegion (s : TelemetryLog) : Option TelemetryLog :=
  if s.ring.count = 0 then
    if s.stopping then some { s with writer := .exited } else none
  else
    some { s with
      ring := s.ring.take id
      writer := .working s.ring.front
      taken := s.taken ++ [s.ring.front.frame] }

/-- The region of `telemetry_log_destroy`. -/
def stop (s : TelemetryLog) : TelemetryLog := { s with stopping := true, destroy := .joining }

end TelemetryLog

/-- The steps: a call of `telemetry_log_on_frame`, the region of the writer, the end of its access
to the file, the region of `telemetry_log_destroy`, and the return of its join. -/
inductive Act
  | onFrame (frame : Option Bytes)
  | writerRegion
  | writeFile
  | stop
  | join
deriving DecidableEq

/-- The step function. -/
def next (s : TelemetryLog) : Act → Option TelemetryLog
  | .onFrame frame => some (s.telemetryLogOnFrame frame)
  | .writerRegion => if s.writer = .waiting then s.telWriterRegion else none
  | .writeFile => match s.writer with
    | .working _ => some { s with writer := .waiting }
    | _ => none
  | .stop => if s.destroy = .idle then some s.stop else none
  | .join =>
    if s.destroy = .joining ∧ s.writer = .exited then some { s with destroy := .joined } else none

/-- One step. -/
def Step (s : TelemetryLog) (a : Act) (s' : TelemetryLog) : Prop := next s a = some s'

/-- The valid frames that come in before the stop flag is set, in their order. -/
def validBeforeStop : List Act → List Bytes
  | [] => []
  | .stop :: _ => []
  | .onFrame (some frame) :: l =>
    if ValidFrame frame then frame :: validBeforeStop l else validBeforeStop l
  | _ :: l => validBeforeStop l

/-! ### What a step does -/

variable {s s' : TelemetryLog} {a : Act}

/-- The steps one by one. -/
inductive StepCase (s : TelemetryLog) : Act → TelemetryLog → Prop
  | accepted {frame : Bytes} : ValidFrame frame → s.stopping = false →
      s.ring.count < telQueueSlots → StepCase s (.onFrame (some frame))
        { s with
            ring := s.ring.put ((s.ring.slots s.ring.tail).store frame)
            accepted := s.accepted ++ [frame] }
  | dropped {frame : Bytes} : ValidFrame frame → s.stopping = false →
      telQueueSlots ≤ s.ring.count →
      StepCase s (.onFrame (some frame)) { s with dropped := s.dropped + 1 }
  | ignored {frame : Option Bytes} :
      (∀ valid, frame = some valid → ValidFrame valid → s.stopping = true) →
      StepCase s (.onFrame frame) s
  | take : s.writer = .waiting → 0 < s.ring.count → StepCase s .writerRegion
      { s with
          ring := s.ring.take id
          writer := .working s.ring.front
          taken := s.taken ++ [s.ring.front.frame] }
  | exit : s.writer = .waiting → s.ring.count = 0 → s.stopping = true →
      StepCase s .writerRegion { s with writer := .exited }
  | writeFile {slot : TelSlot} : s.writer = .working slot →
      StepCase s .writeFile { s with writer := .waiting }
  | stop : s.destroy = .idle → StepCase s .stop s.stop
  | join : s.destroy = .joining → s.writer = .exited →
      StepCase s .join { s with destroy := .joined }

lemma step_cases (h : Step s a s') : StepCase s a s' := by
  cases a with
  | onFrame frame =>
    obtain rfl := Option.some.inj h
    cases frame with
    | none => exact .ignored fun _ hnone => by cases hnone
    | some frame =>
      rw [TelemetryLog.telemetryLogOnFrame]
      split_ifs with hsize hstop hfull
      · refine .ignored ?_
        rintro _ ⟨⟩ ⟨hmin, hmax⟩
        omega
      · exact .ignored fun _ _ _ => hstop
      · exact .dropped ⟨by omega, by omega⟩ (Bool.eq_false_iff.2 hstop) hfull
      · exact .accepted ⟨by omega, by omega⟩ (Bool.eq_false_iff.2 hstop) (Nat.not_le.1 hfull)
  | writerRegion =>
    obtain ⟨hpc, hregion⟩ := Option.ite_none_right_eq_some.1 h
    rw [TelemetryLog.telWriterRegion] at hregion
    split_ifs at hregion with hcount hstop
    · obtain rfl := Option.some.inj hregion
      exact .exit hpc hcount hstop
    · obtain rfl := Option.some.inj hregion
      exact .take hpc (Nat.pos_of_ne_zero hcount)
  | writeFile =>
    cases hpc : s.writer with
    | waiting => simp [Step, next, hpc] at h
    | exited => simp [Step, next, hpc] at h
    | working slot =>
      rw [Step, next, hpc] at h
      obtain rfl := Option.some.inj h
      exact .writeFile hpc
  | stop =>
    obtain ⟨hidle, hs⟩ := Option.ite_none_right_eq_some.1 h
    obtain rfl := Option.some.inj hs
    exact .stop hidle
  | join =>
    obtain ⟨⟨hjoining, hexited⟩, hs⟩ := Option.ite_none_right_eq_some.1 h
    obtain rfl := Option.some.inj hs
    exact .join hjoining hexited

/-! ### The queue as a worker's -/

/-- The frames in the ring, the writer and the history are those of a worker that is given no job
after the stop. -/
structure Follows (s : TelemetryLog) (w : Worker Bytes) : Prop where
  agrees : s.ring.Agrees
  queue : w.queue = s.ring.contents.map TelSlot.frame
  stopping : w.stopping = s.stopping
  pc : w.pc = s.writer.map TelSlot.frame
  accepted : w.accepted = s.accepted
  early : w.early = s.accepted
  taken : s.taken = w.finished ++ w.pc.inHand
  joined : s.destroy = .joined → s.writer = .exited

lemma follows_init : Follows .init .init where
  agrees := RingQueue.agrees_empty _
  queue := rfl
  stopping := rfl
  pc := rfl
  accepted := rfl
  early := rfl
  taken := rfl
  joined h := by cases h

/-- The worker follows every step. -/
lemma Follows.step {w : Worker Bytes} (h : Follows s w) (hstep : Step s a s') :
    Follows s' w ∨ ∃ b w', Worker.Step w b w' ∧ Follows s' w' := by
  cases step_cases hstep with
  | @accepted frame hvalid hstop hroom =>
    refine .inr ⟨_, _, .accept w frame, ?_⟩
    refine ⟨h.agrees.put hroom _, ?_, h.stopping, h.pc, ?_, ?_, h.taken, h.joined⟩
    · rw [RingQueue.contents_put h.agrees hroom, List.map_append, List.map_singleton,
        TelSlot.frame_store _ hvalid.2, h.queue]
    · rw [h.accepted]
    · rw [h.stopping, hstop, if_neg Bool.false_ne_true, h.early]
  | dropped => exact .inl ⟨h.agrees, h.queue, h.stopping, h.pc, h.accepted, h.early, h.taken,
      h.joined⟩
  | ignored => exact .inl h
  | take hpc hcount =>
    have hqueue := h.queue
    rw [RingQueue.contents_take h.agrees hcount id, List.map_cons] at hqueue
    have hwaiting : w.pc = .waiting := by rw [h.pc, hpc]; rfl
    refine .inr ⟨_, _, .take hwaiting hqueue, ?_⟩
    refine ⟨h.agrees.take hcount id, rfl, h.stopping, rfl, h.accepted, h.early, ?_, ?_⟩
    · rw [h.taken, hwaiting]
      simp [WorkerPc.inHand]
    · intro hjoined
      rw [h.joined hjoined] at hpc
      cases hpc
  | exit hpc hcount hstop =>
    have hwaiting : w.pc = .waiting := by rw [h.pc, hpc]; rfl
    have hqueue : w.queue = [] := by
      rw [h.queue, RingQueue.contents_eq_nil.2 hcount, List.map_nil]
    refine .inr ⟨_, _, .exit hwaiting hqueue (h.stopping.trans hstop), ?_⟩
    refine ⟨h.agrees, h.queue, h.stopping, rfl, h.accepted, h.early, ?_, fun _ => rfl⟩
    rw [h.taken, hwaiting]
    rfl
  | @writeFile slot hpc =>
    have hworking : w.pc = .working slot.frame := by rw [h.pc, hpc]; rfl
    refine .inr ⟨_, _, .finish hworking, ?_⟩
    refine ⟨h.agrees, h.queue, h.stopping, rfl, h.accepted, h.early, ?_, ?_⟩
    · rw [h.taken, hworking]
      simp [WorkerPc.inHand]
    · intro hjoined
      rw [h.joined hjoined] at hpc
      cases hpc
  | stop =>
    refine .inr ⟨_, _, .stop w, ?_⟩
    exact ⟨h.agrees, h.queue, rfl, h.pc, h.accepted, h.early, h.taken, fun hjoined => by
      cases hjoined⟩
  | join _ hexited => exact .inl ⟨h.agrees, h.queue, h.stopping, h.pc, h.accepted, h.early,
      h.taken, fun _ => hexited⟩

/-! ### Counting the frames -/

/-- The frames that the steps offer to the queue from a state on. -/
def offered (s : TelemetryLog) (l : List Act) : List Bytes :=
  if s.stopping then [] else validBeforeStop l

/-- What a step offers is accepted or counted. -/
lemma step_offered (h : Step s a s') (l : List Act) :
    (∃ frame, offered s (a :: l) = frame :: offered s' l ∧
      (s'.accepted = s.accepted ++ [frame] ∧ s'.dropped = s.dropped ∨
        s'.accepted = s.accepted ∧ s'.dropped = s.dropped + 1)) ∨
    offered s (a :: l) = offered s' l ∧ s'.accepted = s.accepted ∧ s'.dropped = s.dropped := by
  cases step_cases h with
  | @accepted frame hvalid hstop =>
    refine .inl ⟨frame, ?_, .inl ⟨rfl, rfl⟩⟩
    simp [offered, hstop, validBeforeStop, hvalid]
  | @dropped frame hvalid hstop =>
    refine .inl ⟨frame, ?_, .inr ⟨rfl, rfl⟩⟩
    simp [offered, hstop, validBeforeStop, hvalid]
  | @ignored frame hignored =>
    refine .inr ⟨?_, rfl, rfl⟩
    rw [offered, offered]
    split_ifs with hstop
    · rfl
    · cases frame with
      | none => rfl
      | some frame => exact if_neg fun hvalid => hstop (hignored frame rfl hvalid)
  | stop =>
    refine .inr ⟨?_, rfl, rfl⟩
    rw [offered, offered, if_pos (show s.stop.stopping = true from rfl)]
    split_ifs <;> rfl
  | take => exact .inr ⟨rfl, rfl, rfl⟩
  | exit => exact .inr ⟨rfl, rfl, rfl⟩
  | writeFile => exact .inr ⟨rfl, rfl, rfl⟩
  | join => exact .inr ⟨rfl, rfl, rfl⟩

/-- Over a run some of the frames offered are accepted, in their order, and the others are
counted. -/
lemma run_offered {l : List Act} (h : Run Step s l s') : ∃ kept : List Bytes,
    s'.accepted = s.accepted ++ kept ∧ kept.Sublist (offered s l) ∧
      kept.length + s'.dropped = (offered s l).length + s.dropped := by
  induction h with
  | nil s =>
    have hnil : offered s [] = [] := by
      rw [offered]
      split_ifs <;> rfl
    rw [hnil]
    exact ⟨[], (List.append_nil _).symm, .slnil, rfl⟩
  | @cons s s' t a l hstep _ ih =>
    obtain ⟨kept, haccepted, hsub, hcount⟩ := ih
    rcases step_offered hstep l with ⟨frame, hoffered, ⟨hs, hd⟩ | ⟨hs, hd⟩⟩ | ⟨hoffered, hs, hd⟩
    · rw [hs, List.append_assoc] at haccepted
      rw [hoffered]
      refine ⟨frame :: kept, haccepted, hsub.cons_cons frame, ?_⟩
      rw [List.length_cons, List.length_cons]
      omega
    · rw [hs] at haccepted
      rw [hoffered]
      refine ⟨kept, haccepted, hsub.cons frame, ?_⟩
      rw [List.length_cons]
      omega
    · rw [hs] at haccepted
      rw [hoffered]
      exact ⟨kept, haccepted, hsub, by omega⟩

/-- **The telemetry queue.**  Over every interleaving the frames taken by the writer and those in
the ring are the accepted ones in the order of their arrival; the frames accepted and those
dropped are the valid ones that came in before the stop; the count stays within the ring and
agrees with the indices; and the writer has exited only with the stop flag set and nothing left
in the ring, so that every accepted frame has been taken when `telemetry_log_destroy` has
joined it. -/
theorem telemetryQueue_correct {l : List Act} (hrun : Run Step .init l s) :
    s.taken ++ s.ring.contents.map TelSlot.frame = s.accepted ∧
      s.accepted.Sublist (validBeforeStop l) ∧
      s.accepted.length + s.dropped = (validBeforeStop l).length ∧
      s.ring.count ≤ 32 ∧ (s.ring.head.val + s.ring.count) % 32 = s.ring.tail.val ∧
      (s.writer = .exited → s.stopping = true ∧ s.ring.count = 0) ∧
      (s.destroy = .joined → s.taken = s.accepted) := by
  obtain ⟨m, w, hwrun, hw⟩ := hrun.simulated (fun _ _ _ _ h hstep => h.step hstep) follows_init
  have hinv : w.Inv := hwrun.invariant (fun _ _ _ h hstep => h.step hstep) Worker.inv_init
  have htaken : s.taken ++ s.ring.contents.map TelSlot.frame = s.accepted := by
    rw [hw.taken, ← hw.queue, ← hw.accepted, hinv.order]
  have hexited : s.writer = .exited → s.stopping = true ∧ s.ring.count = 0 := by
    intro hpc
    have hwpc : w.pc = .exited := by rw [hw.pc, hpc]; rfl
    refine ⟨hw.stopping ▸ (hinv.exited hwpc).1, ?_⟩
    have hqueue := (hinv.drained (hw.early.trans hw.accepted.symm) hwpc).1
    rw [hw.queue, List.map_eq_nil_iff] at hqueue
    exact RingQueue.contents_eq_nil.1 hqueue
  obtain ⟨kept, haccepted, hsub, hcount⟩ := run_offered hrun
  obtain rfl : s.accepted = kept := haccepted
  refine ⟨htaken, hsub, hcount, hw.agrees.count_le, hw.agrees.tail_eq, hexited, ?_⟩
  intro hjoined
  have hempty := RingQueue.contents_eq_nil.2 (hexited (hw.joined hjoined)).2
  rw [hempty, List.map_nil, List.append_nil] at htaken
  exact htaken

/-- While the writer is at the file, the ring fills up and a frame is dropped; then there is room
for one more.  The frames that are left at the stop are taken before the join, and one that comes in
after the stop does not count. -/
def fullRing : List Act :=
  [.onFrame (some [0]), .writerRegion] ++
    (List.range 33).map (fun i => .onFrame (some [UInt8.ofNat i])) ++
    [.writeFile, .writerRegion, .onFrame (some [99]), .stop, .onFrame (some [100])] ++
    (List.replicate 33 [.writeFile, .writerRegion]).flatten ++ [.join]

/-- Of the thirty-five frames before the stop thirty-four are taken. -/
theorem telemetryQueue_correct_fullRing : ∃ s : TelemetryLog,
    Run Step .init fullRing s ∧ s.taken = s.accepted ∧ s.accepted.length + s.dropped = 35 ∧
      s.dropped = 1 := by
  have hend : ∃ s ∈ fullRing.foldlM next .init, s.destroy = .joined ∧ s.dropped = 1 := by
    decide +kernel
  obtain ⟨s, hs, hdestroy, hdropped⟩ := hend
  have hrun : Run Step .init fullRing s := .of_foldlM (fun _ _ _ h => h) hs
  obtain ⟨-, -, hcount, -, -, -, hjoined⟩ := telemetryQueue_correct hrun
  exact ⟨s, hrun, hjoined hdestroy, hcount, hdropped⟩

end AntennaMgmt.Telemetry
