import AntennaMgmt.Inject.Transfer

/-!
# The transfer announced and the transfer made

`handle_transfer_start` announces the number of segments and their lengths, computed from the
metadata that `handle_parsing_metadata` accepted; `handle_transfer_data` computes the sizes anew.
The two agree on every file that is not empty and whose number of segments does not wrap around.
-/

namespace AntennaMgmt.Inject

open AntennaMgmt.Lib AntennaMgmt.Rs422

/-- `FPGA_MAX_PACKET_RETRIES`. -/
def fpgaMaxPacketRetries : ℕ := 3

/-! ### What is announced -/

/-- The segment information of a start command. -/
def segmentInfoOf (f : Bytes) : ℕ := beNat (slice (dataOf f) 3 2)

/-- The file length of a start command. -/
def fileLengthOf (f : Bytes) : ℕ := beNat (slice (dataOf f) 5 4)

/-- The length of the last segment in a start command. -/
def lastSegmentLenOf (f : Bytes) : ℕ := beNat (slice (dataOf f) 9 4)

/-- `AnnouncesSize f n size`: the start command `f` announces `n` segments of a file of the size. -/
structure AnnouncesSize (f : Bytes) (n size : ℕ) : Prop where
  command : Commands .transferStart f
  single : n = 1 → segmentInfoOf f = 0 ∧ fileLengthOf f = size
  several : n ≠ 1 → segmentInfoOf f = 3 * 2 ^ 14 + n ∧ n < 2 ^ 14 ∧ fileLengthOf f = 2 ^ 20
  last : (n - 1) * 2 ^ 20 + lastSegmentLenOf f = size

lemma rs422BuildTransferStart_fields {seq : ℕ} {params : TransferStartParams} {f : Bytes}
    (h : rs422BuildTransferStart seq params 512 = some f) :
    Commands .transferStart f ∧ segmentInfoOf f = params.segmentInfo % 2 ^ 16 ∧
      fileLengthOf f = params.fileLength % 2 ^ 32 ∧
      lastSegmentLenOf f = params.lastSegmentLen % 2 ^ 32 := by
  obtain ⟨hapid, hword, hdata⟩ := rs422EncodeFrame_fields h
  rw [segmentInfoOf, fileLengthOf, lastSegmentLenOf, hdata]
  exact ⟨⟨hapid, hword⟩, beNat_be16 _, beNat_be32 _, beNat_be32 _⟩

/-- The number of segments fits its fourteen bits and is announced under the flag for several. -/
lemma segmentInfo_several {n : ℕ} (h : n < 2 ^ 14) : (3 * 0x4000).lor n = 3 * 2 ^ 14 + n :=
  (Nat.two_pow_add_eq_or_of_lt h 3).symm

/-- The start command of a file that is neither empty nor too large announces its segments. -/
lemma announces_of_build {seq : ℕ} {t : Task} {f : Bytes}
    (htotal : t.totalSegments = totalSegmentsOf t.metadata.fileSize)
    (hpos : 0 < t.metadata.fileSize) (hmax : t.metadata.fileSize ≤ maxFileSize)
    (h : rs422BuildTransferStart seq (transferStartParams t) 512 = some f) :
    AnnouncesSize f t.totalSegments t.metadata.fileSize := by
  obtain ⟨hcommand, hinfo, hlength, hlast⟩ := rs422BuildTransferStart_fields h
  have hlt := t.metadata.fileSize_lt
  rw [totalSegmentsOf_eq hmax, segmentCount, fpgaSegmentSize] at htotal
  simp only [transferStartParams] at hinfo hlength hlast
  refine ⟨hcommand, fun hone => ?_, fun hseveral => ?_, ?_⟩
  · rw [hinfo, hlength, if_neg (by omega), if_pos hone]
    exact ⟨rfl, Nat.mod_eq_of_lt hlt⟩
  · have hbits : t.totalSegments < 2 ^ 14 := by omega
    rw [hinfo, hlength, if_pos (by omega), if_neg hseveral, segmentInfo_several hbits]
    exact ⟨Nat.mod_eq_of_lt (by omega), hbits, rfl⟩
  · rw [hlast]
    split_ifs with hone hmod
    · omega
    · rw [fpgaSegmentSize] at hmod ⊢
      omega
    · rw [fpgaSegmentSize] at hmod ⊢
      omega

/-! ### What the two handlers do -/

variable {env : Env} {c c₁ : Injector}

/-- The injector when `handle_parsing_metadata` is called. -/
structure AtMetadata (c : Injector) : Prop where
  state : c.task.state = .parsingMetadata
  retries : c.task.maxRetries = fpgaMaxPacketRetries
  unsent : dataFrames c.trace = []

/-- `handle_parsing_metadata` accepts the metadata in a run from `c` that ends in `c₁`. -/
def Accepts (env : Env) (tick : ℕ) (c c₁ : Injector) : Prop :=
  ∃ tick', handleParsingMetadata env tick c = (some true, tick', c₁)

/-- What `handle_parsing_metadata` leaves when it accepts. -/
structure Accepted (env : Env) (c₁ : Injector) : Prop where
  state : c₁.task.state = .transferStart
  retries : c₁.task.maxRetries = fpgaMaxPacketRetries
  unsent : dataFrames c₁.trace = []
  total : c₁.task.totalSegments = totalSegmentsOf c₁.task.metadata.fileSize
  size_le : c₁.task.metadata.fileSize ≤ env.file.size

lemma wp_handleParsingMetadata_accepted {R : Injector → Prop} (h : AtMetadata c) :
    wp (handleParsingMetadata env) (fun ok c₁ => ok = true → Accepted env c₁) R c := by
  refine wp_bind (wp_ask fun n => ?_)
  cases env.metadata n with
  | none => exact wp_failWith fun _ => nofun
  | some metadata =>
    refine wp_bind (wp_setTask (wp_bind (wp_ask fun n => ?_)))
    split
    · exact wp_failWith fun _ => nofun
    refine wp_bind (wp_setTask (wp_bind (wp_ask fun n => ?_)))
    split
    · exact wp_failWith fun _ => nofun
    refine wp_bind (wp_ask fun n => ?_)
    split
    · exact wp_failWith fun _ => nofun
    refine wp_bind (wp_ask fun n => ?_)
    split
    · exact wp_failWith fun _ => nofun
    rename_i hread
    refine wp_bind (wp_setTask (wp_bind (wp_transitionState fun now => wp_pure fun _ => ?_)))
    have hle : metadata.fileSize ≤ env.file.size := by
      have hcount := not_not.1 hread
      rw [readCount] at hcount
      omega
    refine ⟨rfl, h.retries, ?_, rfl, hle⟩
    change dataFrames (c.trace ++ [.entered .transferStart]) = []
    rw [dataFrames_append, h.unsent]
    rfl

lemma Accepts.accepted {tick : ℕ} (hacc : Accepts env tick c c₁) (h : AtMetadata c) :
    Accepted env c₁ := by
  obtain ⟨tick', hrun⟩ := hacc
  have hwp : wp (handleParsingMetadata env) (fun ok c₁ => ok = true → Accepted env c₁)
      (fun _ => True) c := wp_handleParsingMetadata_accepted h
  have hend := (hwp tick).1
  rw [hrun] at hend
  exact hend true rfl rfl

/-- `Starting c c'`: between `c` and `c'`, no frame was sent but the start command of `c`. -/
structure Starting (c c' : Injector) : Prop where
  retries : c'.task.maxRetries = c.task.maxRetries
  sent : ∃ es, c'.trace = c.trace ++ es ∧ ∀ f ∈ sentFrames es,
    ∃ seq, rs422BuildTransferStart seq (transferStartParams c.task) 512 = some f

namespace Starting

lemma refl (c : Injector) : Starting c c :=
  ⟨rfl, [], (List.append_nil _).symm, nofun⟩

/-- What the record has more does not matter if it is no frame or the start command. -/
lemma step {c c' c'' : Injector} (h : Starting c c') (es : List Event)
    (htrace : c''.trace = c'.trace ++ es) (hretries : c''.task.maxRetries = c'.task.maxRetries)
    (hes : ∀ f ∈ sentFrames es,
      ∃ seq, rs422BuildTransferStart seq (transferStartParams c.task) 512 = some f) :
    Starting c c'' := by
  obtain ⟨es₀, htrace₀, hes₀⟩ := h.sent
  refine ⟨hretries.trans h.retries, es₀ ++ es, ?_, fun f hf => ?_⟩
  · rw [htrace, htrace₀, List.append_assoc]
  · rw [sentFrames_append, List.mem_append] at hf
    rcases hf with hold | hnew
    · exact hes₀ f hold
    · exact hes f hnew

/-- A state is entered, with fields of the task changed before. -/
lemma enter {c c' : Injector} (h : Starting c c') (t : Task)
    (hretries : t.maxRetries = c'.task.maxRetries) (s : InjectionState) (now : ℤ) :
    Starting c ({ c' with task := t }.enter s now) :=
  h.step [.entered s] rfl hretries nofun

end Starting

lemma wp_pollTransferStart_starting {c₀ : Injector} (h : Starting c₀ c) {f : Bytes} {seq : ℕ}
    (hf : rs422BuildTransferStart seq (transferStartParams c₀.task) 512 = some f)
    (startTime : ℤ) {R : Injector → Prop} :
    wp (pollTransferStart env f startTime) (fun _ => Starting c₀) R c := by
  refine wp_bind (wp_ask fun n => ?_)
  split
  · exact wp_bind (wp_transitionState fun now => wp_pure (h.enter c.task rfl .failed now))
  refine wp_bind (wp_ask fun n => ?_)
  split
  · exact wp_bind (wp_transitionState fun now => wp_pure (h.enter c.task rfl .failed now))
  refine wp_bind (wp_uartRs422SendAndWait fun reply => ?_)
  have hlog : Starting c₀ (c.log (.exchange f reply)) := by
    refine h.step [.exchange f reply] rfl rfl fun g hg => ?_
    rw [List.mem_singleton.1 hg]
    exact ⟨seq, hf⟩
  split
  · exact wp_bind (wp_interruptibleSleep (wp_pure hlog))
  · split
    · exact wp_bind (wp_interruptibleSleep (wp_pure hlog))
    · split
      · exact wp_bind (wp_interruptibleSleep (wp_pure hlog))
      · exact wp_pure hlog

lemma wp_beginTransfer_starting {c₀ : Injector} (h : Starting c₀ c) (result : UInt8)
    {R : Injector → Prop} : wp (beginTransfer env result) (fun _ => Starting c₀) R c := by
  have hfail (t : Task) (ht : t.maxRetries = c.task.maxRetries) (now : ℤ) :
      Starting c₀ ({ c with task := t }.enter .failed now) := h.enter t ht .failed now
  unfold beginTransfer
  split
  · exact wp_failWith (hfail c.task rfl)
  refine wp_bind (wp_ask fun n => ?_)
  split
  · exact wp_bind (wp_setTask (wp_failWith (hfail _ rfl)))
  refine wp_bind (wp_setTask (wp_bind (wp_interruptibleSleep (wp_bind (wp_ask fun n => ?_)))))
  split
  · exact wp_failWith (hfail _ rfl)
  refine wp_bind (wp_setTask (wp_bind (wp_transitionState fun now => wp_pure ?_)))
  refine h.enter _ ?_ .transferData now
  rfl

/-- `handle_transfer_start` sends its start command and nothing else. -/
lemma wp_handleTransferStart_starting (fuel : ℕ) :
    wp (handleTransferStart env fuel) (fun _ => Starting c) (Starting c) c := by
  refine wp_bind (wp_getTask (wp_bind (wp_encode (fun _ => ?_) fun f seq hbuild => ?_)))
  · exact wp_failWith fun now => (Starting.refl c).enter c.task rfl .failed now
  · refine wp_bind (wp_ask fun n => wp_bind ?_)
    have hstart : Starting c { c with seqCounter := seq } := ⟨rfl, (Starting.refl c).sent⟩
    refine wp_repeatUntil (I := Starting c) (fun c' h => ?_) (fun _ h => h) fuel hstart
    refine wp_mono (wp_pollTransferStart_starting h hbuild _) (fun r c'' h => ?_) fun _ h => h
    rcases r with _ | _ | result
    · exact h
    · exact wp_pure h
    · exact wp_beginTransfer_starting h result

/-! ### Announced and made -/

/-- The frames that a run of `handle_transfer_start` sends. -/
def startFrames (env : Env) (fuel tick : ℕ) (c₁ : Injector) : List Bytes :=
  sentFrames ((handleTransferStart env fuel tick c₁).2.2.trace.drop c₁.trace.length)

/-- The transfer announced from `c₁` on is the transfer made: there is a segment, every frame that
`handle_transfer_start` sends announces the segments, and when it enters TRANSFER_DATA the calls
of `handle_transfer_data` have sent packets of exactly these segments once they enter
TRANSFER_END. -/
structure TransferMatches (env : Env) (c₁ : Injector) : Prop where
  segments : 1 ≤ c₁.task.totalSegments
  announced : ∀ fuel tick, ∀ f ∈ startFrames env fuel tick c₁,
    AnnouncesSize f c₁.task.totalSegments c₁.task.metadata.fileSize
  made : ∀ fuel tick, (handleTransferStart env fuel tick c₁).2.2.task.state = .transferData →
    ∀ n tick', let c₃ := transferRun env n tick' (handleTransferStart env fuel tick c₁).2.2
      c₃.task.state = .transferEnd →
        ∀ s, (∃ k, 0 < transmissions c₃.trace s k) ↔ s < c₁.task.totalSegments

/-- At TRANSFER_END packets of exactly the segments of the file have been sent. -/
lemma Over.segments_sent {size limit : ℕ} {bytes : Bytes} (h : Over size bytes limit c)
    (hend : c.task.state = .transferEnd) (s : ℕ) :
    (∃ k, 0 < transmissions c.trace s k) ↔ s < segmentCount size := by
  constructor
  · rintro ⟨k, hk⟩
    obtain ⟨f, hf, hpacket⟩ := List.countP_pos_iff.1 hk
    have hsegment : wordOf f = s := (of_decide_eq_true hpacket).1
    rw [← hsegment]
    exact (h.carries f hf).segment_lt
  · intro hs
    have hmem : (s, 0) ∈ allPackets size := by
      refine List.mem_append_left _ (List.mem_flatMap.2 ⟨s, List.mem_range.2 hs, ?_⟩)
      exact List.mem_map.2 ⟨0, List.mem_range.2 (packetCount_pos hs), rfl⟩
    rw [← h.acked hend] at hmem
    obtain ⟨f, hf, hpacket⟩ := List.mem_map.1 hmem
    obtain ⟨hword, hindex⟩ := Prod.mk.inj hpacket
    refine ⟨0, List.countP_pos_iff.2 ⟨f, mem_dataFrames_of_acked hf, ?_⟩⟩
    exact decide_eq_true ⟨hword, hindex⟩

/-- `handle_transfer_start` enters TRANSFER_DATA at the first packet. -/
lemma Accepted.progress (h : Accepted env c₁) (hmax : c₁.task.metadata.fileSize ≤ maxFileSize)
    (fuel tick : ℕ)
    (hdata : (handleTransferStart env fuel tick c₁).2.2.task.state = .transferData) :
    Progress c₁.task.metadata.fileSize env.file.bytes fpgaMaxPacketRetries
      (handleTransferStart env fuel tick c₁).2.2 := by
  have hstarting : Starting c₁ (handleTransferStart env fuel tick c₁).2.2 :=
    (wp_handleTransferStart_starting fuel).holds tick
  have hstep : HandlerStep c₁ (handleTransferStart env fuel tick c₁).2.2 :=
    (wp_handleTransferStart h.state fuel).holds tick
  set c₂ := (handleTransferStart env fuel tick c₁).2.2
  cases hstep with
  | stays es _ _ htask =>
    rw [htask, h.state] at hdata
    cases hdata
  | fails es _ _ hfailed => cases hfailed.symm.trans hdata
  | advances es s hes htrace _ hs hgained =>
    obtain rfl : .transferData = s := hdata.symm.trans hs
    obtain ⟨hmetadata, htotal, hseg, hpkt, hretry, -⟩ := hgained
    have hsilent := (silent_of_control hes).append (silent_entered .transferData)
    have hunsent : dataFrames c₂.trace = [] := by
      rw [htrace, List.append_assoc, dataFrames_append, hsilent.1, h.unsent]
      rfl
    have hstart : AtStart c₂.task :=
      { state := hdata
        segments := by rw [htotal, hmetadata, h.total]
        segment := hseg
        packet := hpkt
        retry := hretry }
    have hprog : Progress c₂.task.metadata.fileSize env.file.bytes c₂.task.maxRetries c₂ :=
      hstart.progress (by rwa [hmetadata]) hunsent
    rwa [hmetadata, hstarting.retries, h.retries] at hprog

/-- A file that is neither empty nor too large is transferred as announced. -/
lemma Accepted.matches (h : Accepted env c₁) (hpos : 0 < c₁.task.metadata.fileSize)
    (hmax : c₁.task.metadata.fileSize ≤ maxFileSize) : TransferMatches env c₁ where
  segments := by
    rw [h.total, totalSegmentsOf_eq hmax, segmentCount, fpgaSegmentSize]
    omega
  announced fuel tick f hf := by
    have hstarting : Starting c₁ (handleTransferStart env fuel tick c₁).2.2 :=
      (wp_handleTransferStart_starting fuel).holds tick
    obtain ⟨es, htrace, hes⟩ := hstarting.sent
    rw [startFrames, htrace, List.drop_left] at hf
    obtain ⟨seq, hbuild⟩ := hes f hf
    exact announces_of_build h.total hpos hmax hbuild
  made := by
    intro fuel tick hdata n tick' c₃ hend s
    have hprog := h.progress hmax fuel tick hdata
    have hretries : 1 ≤ fpgaMaxPacketRetries := by decide
    rw [h.total, totalSegmentsOf_eq hmax]
    rcases (wp_times_going hretries n (.inl hprog)).holds tick' with hgoing | hover
    · cases hgoing.state_eq.symm.trans hend
    · exact hover.segments_sent hend s

/-- **The transfer announced is the transfer made, when.**  Metadata that
`handle_parsing_metadata` accepts leads to a transfer that is made as announced if and only if the
file is not empty and at most `2 ^ 32 - 2 ^ 20` bytes long, so that the sum in 32 bits that gives
its number of segments does not wrap around. -/
theorem transferMatches_iff {tick : ℕ} (h : AtMetadata c) (hacc : Accepts env tick c c₁) :
    TransferMatches env c₁ ↔
      0 < c₁.task.metadata.fileSize ∧ c₁.task.metadata.fileSize ≤ maxFileSize := by
  have haccepted := hacc.accepted h
  constructor
  · intro hmatches
    have hsegments := hmatches.segments
    rw [haccepted.total] at hsegments
    refine ⟨Nat.pos_of_ne_zero fun hzero => ?_, Nat.not_lt.1 fun hlarge => ?_⟩
    · rw [hzero] at hsegments
      exact absurd hsegments (by decide)
    · rw [totalSegmentsOf_wrapped c₁.task.metadata.fileSize_lt hlarge] at hsegments
      exact absurd hsegments (by decide)
  · rintro ⟨hpos, hmax⟩
    exact haccepted.matches hpos hmax

/-- A task whose metadata are about to be parsed. -/
def metadataTask : Task :=
  { threeByteTask with state := .parsingMetadata, metadata := ⟨0, 0, 0, zero_fileSize_lt⟩ }

/-- The theorem at the file of three bytes. -/
theorem transferMatches_iff_threeBytes : ∃ c₁,
    Accepts refusedOnce 0 ⟨metadataTask, 0, []⟩ c₁ ∧ TransferMatches refusedOnce c₁ := by
  have hacc : Accepts refusedOnce 0 ⟨metadataTask, 0, []⟩
      (handleParsingMetadata refusedOnce 0 ⟨metadataTask, 0, []⟩).2.2 := ⟨_, rfl⟩
  exact ⟨_, hacc, (transferMatches_iff ⟨rfl, rfl, rfl⟩ hacc).2 (by decide)⟩

/-- An empty file with its metadata. -/
def emptyFileEnv : Env := quietEnv ⟨[], 0, rfl⟩ ⟨0xF0, 0x01, 0, zero_fileSize_lt⟩ fun _ => none

/-- The metadata of an empty file are accepted with no segment. -/
theorem emptyFile_mismatch : ∃ c₁, Accepts emptyFileEnv 0 ⟨metadataTask, 0, []⟩ c₁ ∧
    c₁.task.metadata.fileSize = 0 ∧ ¬ TransferMatches emptyFileEnv c₁ := by
  refine ⟨_, ⟨_, rfl⟩, rfl, fun hmatches => ?_⟩
  exact absurd hmatches.segments (by decide)

end AntennaMgmt.Inject
