import AntennaMgmt.Inject.Layout
import AntennaMgmt.Inject.Steps

/-!
# The counters of a transfer

While the state is TRANSFER_DATA the counters of the task name the next packet of the file, and
the file is positioned at it or is positioned again before it is read.  A call of
`handle_transfer_data` sends that packet or moves on to the next segment.
-/

namespace AntennaMgmt.Inject

open AntennaMgmt.Lib AntennaMgmt.Rs422

/-- The counters of a task that sends a file of the given size in packets. -/
structure Counting (size : ℕ) (t : Task) : Prop where
  size_eq : t.metadata.fileSize = size
  total_eq : t.totalSegments = segmentCount size
  segment_le : t.currentSegment ≤ segmentCount size
  retry_lt : t.retryCount = 0 ∨ t.retryCount < t.maxRetries
  inSegment : 0 < t.currentPacketInSegment → t.currentSegment < segmentCount size ∧
    t.totalPacketsInSegment = packetCount size t.currentSegment ∧
    t.segmentOffset = t.currentSegment * fpgaSegmentSize ∧
    t.currentPacketInSegment ≤ packetCount size t.currentSegment

/-- The file stands at the next packet unless the packet will be sent again. -/
def Positioned (t : Task) : Prop :=
  0 < t.currentPacketInSegment → t.retryCount = 0 →
    t.currentPacketInSegment < t.totalPacketsInSegment →
    t.binFp = some (packetOffset t.currentSegment t.currentPacketInSegment)

variable {size : ℕ} {t : Task}

lemma Counting.currentSegmentSize (h : Counting size t)
    (hseg : t.currentSegment < segmentCount size) :
    t.currentSegmentSize = segmentLength size t.currentSegment := by
  have hlt := lt_of_lt_segmentCount hseg
  unfold Task.currentSegmentSize segmentLength
  rw [h.total_eq, h.size_eq]
  unfold segmentCount at hseg ⊢
  unfold fpgaSegmentSize at hlt hseg ⊢
  split_ifs
  · omega
  · omega

/-- An open segment has its packets counted and its offset set. -/
lemma Counting.opened (h : Counting size t) (hseg : t.currentSegment < segmentCount size) :
    t.opened.totalPacketsInSegment = packetCount size t.currentSegment ∧
      t.opened.segmentOffset = t.currentSegment * fpgaSegmentSize ∧
      t.currentPacketInSegment ≤ packetCount size t.currentSegment := by
  unfold Task.opened
  split_ifs with hfirst
  · refine ⟨?_, rfl, by omega⟩
    show (t.currentSegmentSize + fpgaPacketSize - 1) / fpgaPacketSize = _
    rw [h.currentSegmentSize hseg]
    rfl
  · exact (h.inSegment (Nat.pos_of_ne_zero hfirst)).2

/-- The next packet is read from its place in the file. -/
lemma Counting.readPosition (h : Counting size t) (hpos : Positioned t)
    (hseg : t.currentSegment < segmentCount size)
    (hpkt : t.currentPacketInSegment < packetCount size t.currentSegment) :
    t.opened.readPosition = some (packetOffset t.currentSegment t.currentPacketInSegment) := by
  obtain ⟨-, hoffset, -⟩ := h.opened hseg
  unfold Task.readPosition
  rw [opened_retryCount, hoffset, opened_currentPacketInSegment]
  split_ifs with hretry
  · rfl
  · rcases Nat.eq_zero_or_pos t.currentPacketInSegment with hzero | hlater
    · have hopened : t.opened.binFp = some (t.currentSegment * fpgaSegmentSize) := by
        rw [Task.opened, if_pos hzero]
        rfl
      rw [hopened, packetOffset, hzero, Nat.zero_mul, Nat.add_zero]
    · have hsame : t.opened = t := if_neg (Nat.ne_of_gt hlater)
      rw [hsame]
      have htotal := (h.inSegment hlater).2.1
      exact hpos hlater (by omega) (by rwa [htotal])

lemma Counting.packetSize (h : Counting size t) (hseg : t.currentSegment < segmentCount size)
    (hpkt : t.currentPacketInSegment < packetCount size t.currentSegment) :
    t.opened.packetSize = packetLength size t.currentSegment t.currentPacketInSegment := by
  obtain ⟨htotal, -, -⟩ := h.opened hseg
  unfold Task.packetSize
  rw [opened_currentPacketInSegment, htotal, opened_currentSegmentSize,
    h.currentSegmentSize hseg]
  unfold packetLength
  unfold packetCount at hpkt ⊢
  unfold fpgaPacketSize at hpkt ⊢
  -- only the last packet can be shorter than 1000 bytes
  split_ifs
  · omega
  · omega

/-! ### The frame of a packet -/

/-- The group flag says where in its segment of `n` packets the packet `k` stands. -/
structure FlagFits (flag k n : ℕ) : Prop where
  single : n = 1 → flag = 3
  first : 1 < n → k = 0 → flag = 1
  last : 1 < n → k + 1 = n → flag = 2
  middle : 0 < k → k + 1 < n → flag = 0

lemma groupFlag_fits (k n : ℕ) : FlagFits (groupFlag k n) k n := by
  unfold groupFlag
  constructor
  all_goals
    intros
    split_ifs <;> omega

/-- `Carries size bytes f s k`: the frame `f` is the data frame of packet `k` of segment `s` of a
file of the given size. -/
structure Carries (size : ℕ) (bytes : Bytes) (f : Bytes) (s k : ℕ) : Prop where
  apid : apidOf f = apidFileData
  segment : wordOf f = s
  packet : packetIndexOf f = k
  segment_lt : s < segmentCount size
  packet_lt : k < packetCount size s
  flag : FlagFits (groupFlagOf f) k (packetCount size s)
  data : dataOf f = slice bytes (packetOffset s k) (packetLength size s k)

lemma segmentCount_le {size : ℕ} (h : size < 2 ^ 32) : segmentCount size ≤ 4096 := by
  unfold segmentCount fpgaSegmentSize
  omega

lemma carries_of_build {size : ℕ} (hsize : size < 2 ^ 32) {bytes f : Bytes} {s k bufSize : ℕ}
    (hs : s < segmentCount size) (hk : k < packetCount size s)
    (h : rs422BuildFileData s (slice bytes (packetOffset s k) (packetLength size s k)) bufSize k
      (packetCount size s) = some f) : Carries size bytes f s k := by
  obtain ⟨hapid, hword, hindex, hflag, hdata⟩ := rs422BuildFileData_fields h
  have hs' := segmentCount_le hsize
  have hk' : packetCount size s ≤ 1049 := packetCount_le
  refine ⟨hapid, ?_, ?_, hs, hk, ?_, hdata⟩
  · rw [hword]
    omega
  · rw [hindex]
    omega
  · rw [hflag]
    exact groupFlag_fits k _

/-! ### A call -/

/-- A task that sends a file of the given size. -/
structure Sending (size : ℕ) (t : Task) : Prop extends Counting size t where
  state_eq : t.state = .transferData
  positioned : Positioned t

/-- A task whose next packet is on the line. -/
structure OnLine (size : ℕ) (t : Task) : Prop extends Counting size t where
  state_eq : t.state = .transferData
  segment_lt : t.currentSegment < segmentCount size
  packet_lt : t.currentPacketInSegment < packetCount size t.currentSegment
  packets_eq : t.totalPacketsInSegment = packetCount size t.currentSegment
  offset_eq : t.segmentOffset = t.currentSegment * fpgaSegmentSize
  position : t.binFp = some (packetOffset t.currentSegment t.currentPacketInSegment +
    packetLength size t.currentSegment t.currentPacketInSegment)

/-- The counters that `handle_transfer_start` leaves. -/
structure AtStart (t : Task) : Prop where
  state : t.state = .transferData
  segments : t.totalSegments = totalSegmentsOf t.metadata.fileSize
  segment : t.currentSegment = 0
  packet : t.currentPacketInSegment = 0
  retry : t.retryCount = 0

lemma AtStart.sending (h : AtStart t) (hsize : t.metadata.fileSize ≤ maxFileSize) :
    Sending t.metadata.fileSize t where
  size_eq := rfl
  total_eq := h.segments.trans (totalSegmentsOf_eq hsize)
  segment_le := by
    rw [h.segment]
    exact Nat.zero_le _
  retry_lt := .inl h.retry
  inSegment hpos := by
    rw [h.packet] at hpos
    exact absurd hpos (lt_irrefl 0)
  state_eq := h.state
  positioned hpos := by
    rw [h.packet] at hpos
    exact absurd hpos (lt_irrefl 0)

variable {env : Env} {c c' : Injector}

/-- A call that reaches the exchange has built the frame of the packet that the counters name. -/
lemma Sending.prepare_frame (h : Sending size c.task) {f : Bytes}
    (hstep : PrepareStep env c (.frame f) c') :
    Carries size env.file.bytes f c.task.currentSegment c.task.currentPacketInSegment ∧
      OnLine size c'.task ∧ c'.task.currentSegment = c.task.currentSegment ∧
      c'.task.currentPacketInSegment = c.task.currentPacketInSegment ∧
      c'.task.retryCount = c.task.retryCount ∧ c'.task.maxRetries = c.task.maxRetries ∧
      c'.trace = c.trace := by
  cases hstep with
  | frame pos f hseg hpkt hread hcount hbuild =>
    rw [h.total_eq] at hseg
    obtain ⟨htotal, hoffset, -⟩ := h.opened hseg
    rw [opened_currentPacketInSegment, htotal] at hpkt
    have hpos := h.readPosition h.positioned hseg hpkt
    rw [hread] at hpos
    obtain rfl := Option.some.inj hpos
    rw [h.packetSize hseg hpkt, opened_currentSegment, opened_currentPacketInSegment, htotal]
      at hbuild
    have hsize : size < 2 ^ 32 := h.size_eq ▸ c.task.metadata.fileSize_lt
    refine ⟨carries_of_build hsize hseg hpkt hbuild, ?_, opened_currentSegment _,
      opened_currentPacketInSegment _, opened_retryCount _, opened_maxRetries _, rfl⟩
    exact {
      size_eq := by simpa using h.size_eq
      total_eq := by simpa using h.total_eq
      segment_le := by simpa using h.segment_le
      retry_lt := by simpa using h.retry_lt
      inSegment := fun _ => ⟨by simpa using hseg, by simpa using htotal, by simpa using hoffset,
        by simpa using hpkt.le⟩
      state_eq := by simpa using h.state_eq
      segment_lt := by simpa using hseg
      packet_lt := by simpa using hpkt
      packets_eq := by simpa using htotal
      offset_eq := by simpa using hoffset
      position := by simp [h.packetSize hseg hpkt] }

/-- A call that ends before the exchange has sent everything, moves on to the next segment or
gives up. -/
lemma Sending.prepare_returned (h : Sending size c.task) {ok : Bool}
    (hstep : PrepareStep env c (.returned ok) c') :
    (c.task.currentSegment = segmentCount size ∧ ∃ now, c' = c.enter .transferEnd now) ∨
      (c.task.currentSegment < segmentCount size ∧
        c.task.currentPacketInSegment = packetCount size c.task.currentSegment ∧
        Sending size c'.task ∧ c' = { c with task := c.task.opened.nextSegment }) ∨
      ∃ t now, t.currentPacketInSegment = c.task.currentPacketInSegment ∧
        c' = { c with task := t }.enter .failed now := by
  cases hstep with
  | finished now hdone =>
    rw [h.total_eq] at hdone
    exact .inl ⟨le_antisymm h.segment_le hdone, now, rfl⟩
  | segmentDone hseg hdone =>
    rw [h.total_eq] at hseg
    obtain ⟨htotal, -, hle⟩ := h.opened hseg
    rw [opened_currentPacketInSegment, htotal] at hdone
    refine .inr (.inl ⟨hseg, le_antisymm hle hdone, ?_, rfl⟩)
    exact {
      size_eq := by simpa [Task.nextSegment] using h.size_eq
      total_eq := by simpa [Task.nextSegment] using h.total_eq
      segment_le := by
        show c.task.opened.currentSegment + 1 ≤ _
        rw [opened_currentSegment]
        exact hseg
      retry_lt := .inl rfl
      inSegment := fun hpos => absurd hpos (lt_irrefl 0)
      state_eq := by simpa [Task.nextSegment] using h.state_eq
      positioned := fun hpos => absurd hpos (lt_irrefl 0) }
  | gaveUp t now ht => exact .inr (.inr ⟨t, now, ht, rfl⟩)

/-- After the exchange the packet is done, or will be sent again, or the transfer is given up. -/
lemma OnLine.finish (h : OnLine size c.task) {reply : Option Bytes}
    (hstep : FinishStep c reply c') :
    (reply.bind (replyResult parseResult) = some dataReceivedOk ∧ Sending size c'.task ∧
        c' = { c with task := { c.task with
          currentPacketInSegment := c.task.currentPacketInSegment + 1
          retryCount := 0 } }) ∨
      (reply.bind (replyResult parseResult) ≠ some dataReceivedOk ∧ Sending size c'.task ∧
        c.task.retryCount + 1 < c.task.maxRetries ∧
        c' = { c with task := { c.task with retryCount := c.task.retryCount + 1 } }) ∨
      (reply.bind (replyResult parseResult) ≠ some dataReceivedOk ∧
        c'.task.state = .failed ∧ ∃ es, (∀ e ∈ es, Event.Control e) ∧
          c'.trace = c.trace ++ es ++ [.entered .failed]) := by
  cases hstep with
  | acked hok =>
    refine .inl ⟨hok, ?_, rfl⟩
    exact { h.toCounting with
      retry_lt := .inl rfl
      inSegment := fun _ => ⟨h.segment_lt, h.packets_eq, h.offset_eq, h.packet_lt⟩
      state_eq := h.state_eq
      positioned := by
        intro _ _ hlt
        change c.task.currentPacketInSegment + 1 < c.task.totalPacketsInSegment at hlt
        rw [h.packets_eq] at hlt
        show c.task.binFp = _
        rw [h.position, Option.some_inj]
        simp only [packetCount, packetOffset, packetLength, fpgaPacketSize] at hlt ⊢
        omega }
  | retry hne hlt =>
    refine .inr (.inl ⟨hne, ?_, hlt, rfl⟩)
    exact { h.toCounting with
      retry_lt := .inr hlt
      inSegment := fun _ => ⟨h.segment_lt, h.packets_eq, h.offset_eq, h.packet_lt.le⟩
      state_eq := h.state_eq
      positioned := fun _ hzero => absurd hzero (Nat.succ_ne_zero _) }
  | exhausted seq es now hne hmax hes => exact .inr (.inr ⟨hne, rfl, es, hes, rfl⟩)

end AntennaMgmt.Inject
