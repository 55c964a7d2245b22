import AntennaMgmt.Inject.Outcomes
import AntennaMgmt.Inject.Sending

/-!
# The transfer sends every packet exactly once

From the state that `handle_transfer_start` leaves, repeated calls of `handle_transfer_data` send
frames that carry the packets of the file, none more often than the task allows retries, and end
in TRANSFER_END with every packet acknowledged once and in order, or in FAILED.
-/

namespace AntennaMgmt.Inject

open AntennaMgmt.Lib AntennaMgmt.Rs422

/-! ### The invariant -/

/-- What the record says while packets are sent: every data frame carries the packet it names,
no packet was sent too often, and the acknowledged packets are those before the next one. -/
structure Progress (size : ℕ) (bytes : Bytes) (limit : ℕ) (c : Injector) : Prop extends
    Sending size c.task where
  limit_eq : c.task.maxRetries = limit
  carries : ∀ f ∈ dataFrames c.trace, Carries size bytes f (wordOf f) (packetIndexOf f)
  bounded : ∀ s k, transmissions c.trace s k ≤ limit
  acked : (ackedFrames c.trace).map packetOf =
    packetsBefore size c.task.currentSegment c.task.currentPacketInSegment
  current : transmissions c.trace c.task.currentSegment c.task.currentPacketInSegment =
    c.task.retryCount
  later : ∀ s k, c.task.currentSegment < s ∨
    c.task.currentSegment = s ∧ c.task.currentPacketInSegment < k →
    transmissions c.trace s k = 0

/-- What the record says when the transfer has ended. -/
structure Over (size : ℕ) (bytes : Bytes) (limit : ℕ) (c : Injector) : Prop where
  state : c.task.state = .transferEnd ∨ c.task.state = .failed
  carries : ∀ f ∈ dataFrames c.trace, Carries size bytes f (wordOf f) (packetIndexOf f)
  bounded : ∀ s k, transmissions c.trace s k ≤ limit
  acked : c.task.state = .transferEnd → (ackedFrames c.trace).map packetOf = allPackets size

variable {size limit : ℕ} {bytes : Bytes} {c c' : Injector}

/-- What sending the next packet once more does to the record. -/
lemma Progress.exchange (h : Progress size bytes limit c) (hlimit : 1 ≤ limit) {f : Bytes}
    (hf : Carries size bytes f c.task.currentSegment c.task.currentPacketInSegment)
    (reply : Option Bytes) {tr : List Event} (htr : tr = c.trace ++ [.exchange f reply]) :
    (∀ f ∈ dataFrames tr, Carries size bytes f (wordOf f) (packetIndexOf f)) ∧
      (∀ s k, transmissions tr s k ≤ limit) ∧
      transmissions tr c.task.currentSegment c.task.currentPacketInSegment =
        c.task.retryCount + 1 ∧
      ∀ s k, c.task.currentSegment < s ∨
        c.task.currentSegment = s ∧ c.task.currentPacketInSegment < k →
        transmissions tr s k = 0 := by
  have hpacket : packetOf f = (c.task.currentSegment, c.task.currentPacketInSegment) := by
    rw [packetOf, hf.segment, hf.packet]
  have hcount (s k : ℕ) := transmissions_exchange hf.apid reply c.trace s k
  rw [← htr, hpacket] at hcount
  refine ⟨?_, ?_, ?_, ?_⟩
  · intro f' hf'
    rw [htr, dataFrames_append, dataFrames_exchange hf.apid, List.mem_append,
      List.mem_singleton] at hf'
    rcases hf' with hold | rfl
    · exact h.carries f' hold
    · rw [hf.segment, hf.packet]
      exact hf
  · intro s k
    rw [hcount]
    split_ifs with hsk
    · -- the packet was sent as often as it was retried, which is less than the limit
      obtain ⟨rfl, rfl⟩ := Prod.mk.inj hsk
      rw [h.current]
      have hlt := h.retry_lt
      rw [h.limit_eq] at hlt
      omega
    · exact h.bounded s k
  · rw [hcount, if_pos rfl, h.current]
  · intro s k hlater
    rw [hcount, h.later s k hlater, if_neg]
    intro hsk
    obtain ⟨rfl, rfl⟩ := Prod.mk.inj hsk
    omega

/-- A bound on the calls that are still to come: every call moves on to a later packet or uses up
a retry. -/
def remaining (size limit : ℕ) (t : Task) : ℕ :=
  ((segmentCount size - t.currentSegment) * 1051 + (1050 - t.currentPacketInSegment)) * limit +
    (limit - t.retryCount)

lemma Progress.retry_lt' (h : Progress size bytes limit c) (hlimit : 1 ≤ limit) :
    c.task.retryCount < limit := by
  have hlt := h.retry_lt
  rw [h.limit_eq] at hlt
  omega

/-- A later packet, not yet retried, leaves fewer calls. -/
lemma remaining_lt {t t' : Task} (hretry : t.retryCount < limit) (hretry' : t'.retryCount = 0)
    (hlater : (segmentCount size - t'.currentSegment) * 1051 + (1050 - t'.currentPacketInSegment) <
      (segmentCount size - t.currentSegment) * 1051 + (1050 - t.currentPacketInSegment)) :
    remaining size limit t' < remaining size limit t := by
  unfold remaining
  rw [hretry']
  have hmul := Nat.mul_le_mul_right limit (Nat.succ_le_of_lt hlater)
  rw [Nat.succ_mul] at hmul
  omega

/-- The transfer ends without a further data frame. -/
lemma over_of_silent {tr es : List Event}
    (hcarries : ∀ f ∈ dataFrames tr, Carries size bytes f (wordOf f) (packetIndexOf f))
    (hbounded : ∀ s k, transmissions tr s k ≤ limit) (hes : Silent es)
    (htr : c.trace = tr ++ es) (hstate : c.task.state = .transferEnd ∨ c.task.state = .failed)
    (hacked : c.task.state = .transferEnd → (ackedFrames tr).map packetOf = allPackets size) :
    Over size bytes limit c where
  state := hstate
  carries := by
    rw [htr, dataFrames_append, hes.1, List.append_nil]
    exact hcarries
  bounded s k := by
    rw [htr, hes.transmissions]
    exact hbounded s k
  acked hend := by
    rw [htr, ackedFrames_append, hes.2, List.append_nil]
    exact hacked hend

variable {env : Env}

/-- A call that ends before the exchange. -/
lemma Progress.returned (h : Progress size env.file.bytes limit c) (hlimit : 1 ≤ limit) {ok : Bool}
    (hprep : PrepareStep env c (.returned ok) c') :
    (Progress size env.file.bytes limit c' ∧
        remaining size limit c'.task < remaining size limit c.task) ∨
      Over size env.file.bytes limit c' := by
  rcases h.prepare_returned hprep with
    ⟨hall, now, rfl⟩ | ⟨hseg, hpkt, hsend, rfl⟩ | ⟨t, now, -, rfl⟩
  · refine .inr (over_of_silent h.carries h.bounded (silent_entered _) rfl (.inl rfl) fun _ => ?_)
    have hzero : c.task.currentPacketInSegment = 0 := by
      by_contra hne
      have hlt := (h.inSegment (Nat.pos_of_ne_zero hne)).1
      omega
    rw [h.acked, hall, hzero, allPackets]
  · have hs : c.task.opened.nextSegment.currentSegment = c.task.currentSegment + 1 :=
      congrArg (· + 1) (opened_currentSegment c.task)
    refine .inl ⟨{
      toSending := hsend
      limit_eq := (opened_maxRetries c.task).trans h.limit_eq
      carries := h.carries
      bounded := h.bounded
      acked := ?_
      current := ?_
      later := ?_ }, ?_⟩
    · rw [h.acked, hpkt, packetsBefore_packetCount, hs]
      rfl
    · rw [hs]
      exact h.later _ _ (.inl (Nat.lt_succ_self _))
    · intro s k hlater
      rw [hs] at hlater
      exact h.later s k (.inl (by omega))
    · refine remaining_lt (h.retry_lt' hlimit) rfl ?_
      have hle : packetCount size c.task.currentSegment ≤ 1049 := packetCount_le
      dsimp only
      rw [hs, hpkt]
      omega
  · refine .inr (over_of_silent h.carries h.bounded (silent_entered _) rfl (.inr rfl) ?_)
    intro hend
    cases hend

/-- A call of `handle_transfer_data` makes progress or ends the transfer. -/
lemma Progress.step (h : Progress size env.file.bytes limit c) (hlimit : 1 ≤ limit)
    (hstep : DataStep env c c') :
    (Progress size env.file.bytes limit c' ∧
        remaining size limit c'.task < remaining size limit c.task) ∨
      Over size env.file.bytes limit c' := by
  cases hstep with
  | returned hprep => exact h.returned hlimit hprep
  | @exchanged f c₁ _ reply hprep hfin =>
    obtain ⟨hf, honline, hseg, hpkt, hretry, hmax, htrace⟩ := h.prepare_frame hprep
    have htr : (c₁.log (.exchange f reply)).trace = c.trace ++ [.exchange f reply] := by
      rw [← htrace]
      rfl
    obtain ⟨hcarries, hbounded, hcurrent, hlater⟩ := h.exchange hlimit hf reply htr
    have hlt := h.retry_lt' hlimit
    rcases OnLine.finish (c := c₁.log (.exchange f reply)) honline hfin with
      ⟨hok, hsend, rfl⟩ | ⟨hne, hsend, -, rfl⟩ | ⟨hne, hfailed, es, hes, htr'⟩
    · -- the packet is acknowledged, and the next one has not been sent yet
      refine .inl ⟨{
        toSending := hsend
        limit_eq := hmax.trans h.limit_eq
        carries := hcarries
        bounded := hbounded
        acked := ?_
        current := ?_
        later := ?_ }, ?_⟩
      · show (ackedFrames (c₁.log (.exchange f reply)).trace).map packetOf =
          packetsBefore size c₁.task.currentSegment (c₁.task.currentPacketInSegment + 1)
        rw [htr, ackedFrames_append, ackedFrames_ok hf.apid reply hok, List.map_append, h.acked,
          hseg, hpkt, packetsBefore_succ, List.map_singleton, packetOf, hf.segment, hf.packet]
      · show transmissions _ c₁.task.currentSegment (c₁.task.currentPacketInSegment + 1) = 0
        rw [hseg, hpkt]
        exact hlater _ _ (.inr ⟨rfl, Nat.lt_succ_self _⟩)
      · show ∀ s k, c₁.task.currentSegment < s ∨
          c₁.task.currentSegment = s ∧ c₁.task.currentPacketInSegment + 1 < k → _
        rw [hseg, hpkt]
        intro s k hsk
        exact hlater s k (by omega)
      · refine remaining_lt hlt rfl ?_
        have hle : packetCount size c.task.currentSegment ≤ 1049 := packetCount_le
        have hpkt_lt := hf.packet_lt
        show (_ - c₁.task.currentSegment) * 1051 + (1050 - (c₁.task.currentPacketInSegment + 1)) < _
        rw [hseg, hpkt]
        omega
    · -- the packet will be sent again
      have hacked : ackedFrames [.exchange f reply] = [] := ackedFrames_not_ok hne
      refine .inl ⟨{
        toSending := hsend
        limit_eq := hmax.trans h.limit_eq
        carries := hcarries
        bounded := hbounded
        acked := ?_
        current := ?_
        later := ?_ }, ?_⟩
      · show (ackedFrames (c₁.log (.exchange f reply)).trace).map packetOf =
          packetsBefore size c₁.task.currentSegment c₁.task.currentPacketInSegment
        rw [htr, ackedFrames_append, hacked, List.append_nil, h.acked, hseg, hpkt]
      · show transmissions _ c₁.task.currentSegment c₁.task.currentPacketInSegment =
          c₁.task.retryCount + 1
        rw [hseg, hpkt, hretry]
        exact hcurrent
      · show ∀ s k, c₁.task.currentSegment < s ∨
          c₁.task.currentSegment = s ∧ c₁.task.currentPacketInSegment < k → _
        rw [hseg, hpkt]
        exact hlater
      · show remaining size limit { c₁.task with retryCount := c₁.task.retryCount + 1 } < _
        unfold remaining
        dsimp only
        rw [hseg, hpkt, hretry]
        omega
    · refine .inr (over_of_silent hcarries hbounded
        ((silent_of_control hes).append (silent_entered .failed))
        (by rw [htr', List.append_assoc]) (.inr hfailed) fun hend => ?_)
      rw [hfailed] at hend
      cases hend

/-! ### Runs -/

/-- A round of the thread while it sends data. -/
def callTransferData (env : Env) : Inj Unit := do
  if (← getTask).state = .transferData then
    let _ ← handleTransferData env
    return ()
  else return ()

/-- The injector after `n` rounds, the first of which asks question `tick`. -/
def transferRun (env : Env) (n tick : ℕ) (c : Injector) : Injector :=
  (Prog.times n (callTransferData env) tick c).2.2

/-- The state that `handle_transfer_start` leaves for a file of the size in the metadata. -/
structure TransferStarted (env : Env) (c : Injector) : Prop extends AtStart c.task where
  size : c.task.metadata.fileSize = env.file.size
  unsent : dataFrames c.trace = []

/-- A call of `handle_transfer_start` that enters TRANSFER_DATA starts the transfer. -/
lemma wp_handleTransferStart_started {R : Injector → Prop} (hR : ∀ c', R c')
    (h : c.task.state = .transferStart)
    (hsegments : c.task.totalSegments = totalSegmentsOf c.task.metadata.fileSize)
    (hsize : c.task.metadata.fileSize = env.file.size) (hunsent : dataFrames c.trace = [])
    (fuel : ℕ) :
    wp (handleTransferStart env fuel)
      (fun _ c' => c'.task.state = .transferData → TransferStarted env c') R c := by
  refine wp_mono (wp_handleTransferStart h fuel) (fun _ c' hstep hstate => ?_) fun c' _ => hR c'
  cases hstep with
  | stays es _ _ htask =>
    rw [htask, h] at hstate
    cases hstate
  | fails es _ _ hfailed => cases hfailed.symm.trans hstate
  | advances es s hes htrace _ hs hgained =>
    obtain rfl : .transferData = s := hstate.symm.trans hs
    obtain ⟨hmetadata, htotal, hseg, hpkt, hretry, -⟩ := hgained
    have hsilent := (silent_of_control hes).append (silent_entered .transferData)
    exact {
      state := hstate
      segments := by rw [htotal, hmetadata, hsegments]
      segment := hseg
      packet := hpkt
      retry := hretry
      size := by rw [hmetadata, hsize]
      unsent := by rw [htrace, List.append_assoc, dataFrames_append, hsilent.1, hunsent]; rfl }

/-- What holds however far the transfer has got: every data frame sent carries the packet that its
header names, no packet was sent more often than the limit, and the transfer is going on, has
failed, or has ended with every packet acknowledged once and in order, which is the file. -/
structure TransferCorrect (env : Env) (limit : ℕ) (c : Injector) : Prop where
  carries : ∀ f ∈ dataFrames c.trace,
    Carries env.file.size env.file.bytes f (wordOf f) (packetIndexOf f)
  bounded : ∀ s k, transmissions c.trace s k ≤ limit
  state : c.task.state = .transferData ∨ c.task.state = .transferEnd ∨ c.task.state = .failed
  complete : c.task.state = .transferEnd →
    (ackedFrames c.trace).map packetOf = allPackets env.file.size ∧
      (ackedFrames c.trace).flatMap dataOf = env.file.bytes

lemma mem_dataFrames_of_acked {tr : List Event} {f : Bytes} (h : f ∈ ackedFrames tr) :
    f ∈ dataFrames tr := by
  obtain ⟨e, he, hacked⟩ := List.mem_filterMap.1 h
  cases e with
  | sent g => cases hacked
  | entered s => cases hacked
  | exchange g reply =>
    simp only [Event.acked?] at hacked
    split_ifs at hacked with hok
    cases hacked
    exact List.mem_filter.2 ⟨List.mem_filterMap.2 ⟨_, he, rfl⟩, decide_eq_true hok.1⟩

/-- The packets of the file, acknowledged in order, are the file. -/
lemma flatMap_dataOf {tr : List Event}
    (hcarries : ∀ f ∈ dataFrames tr,
      Carries env.file.size env.file.bytes f (wordOf f) (packetIndexOf f))
    (hacked : (ackedFrames tr).map packetOf = allPackets env.file.size) :
    (ackedFrames tr).flatMap dataOf = env.file.bytes := by
  have hdata : ∀ f ∈ ackedFrames tr,
      dataOf f = packetBytes env.file.bytes (packetOf f).1 (packetOf f).2 := by
    intro f hf
    rw [packetBytes, env.file.size_eq]
    exact (hcarries f (mem_dataFrames_of_acked hf)).data
  calc (ackedFrames tr).flatMap dataOf
      = ((ackedFrames tr).map packetOf).flatMap fun p => packetBytes env.file.bytes p.1 p.2 := by
        rw [List.flatMap_map, List.flatMap_def, List.flatMap_def, List.map_congr_left hdata]
    _ = env.file.bytes := by
        rw [hacked, ← env.file.size_eq, flatMap_allPackets]

lemma Over.correct (h : Over env.file.size env.file.bytes limit c) : TransferCorrect env limit c :=
  ⟨h.carries, h.bounded, .inr h.state,
    fun hend => ⟨h.acked hend, flatMap_dataOf h.carries (h.acked hend)⟩⟩

lemma Progress.correct (h : Progress env.file.size env.file.bytes limit c) :
    TransferCorrect env limit c :=
  ⟨h.carries, h.bounded, .inl h.state_eq, fun hend => by
    rw [h.state_eq] at hend
    cases hend⟩

/-- Before the first data frame nothing is done and nothing is wrong. -/
lemma AtStart.progress (h : AtStart c.task) (hmax : c.task.metadata.fileSize ≤ maxFileSize)
    (hunsent : dataFrames c.trace = []) :
    Progress c.task.metadata.fileSize bytes c.task.maxRetries c where
  toSending := h.sending hmax
  limit_eq := rfl
  carries f hf := by
    rw [hunsent] at hf
    cases hf
  bounded s k := by simp [transmissions, hunsent]
  acked := by
    have hnil : ackedFrames c.trace = [] := by
      refine List.eq_nil_iff_forall_not_mem.2 fun f hf => ?_
      have hmem := mem_dataFrames_of_acked hf
      rw [hunsent] at hmem
      cases hmem
    rw [hnil, h.segment, h.packet]
    rfl
  current := by
    rw [h.retry]
    simp [transmissions, hunsent]
  later s k _ := by simp [transmissions, hunsent]

lemma TransferStarted.progress (h : TransferStarted env c) (hmax : env.file.size ≤ maxFileSize) :
    Progress env.file.size env.file.bytes c.task.maxRetries c := by
  have hprog : Progress c.task.metadata.fileSize env.file.bytes c.task.maxRetries c :=
    h.toAtStart.progress (h.size.trans_le hmax) h.unsent
  rwa [h.size] at hprog

/-- A round makes progress or ends the transfer, and does nothing once it has ended. -/
lemma wp_callTransferData (hlimit : 1 ≤ limit) {R : Injector → Prop}
    (h : Progress size env.file.bytes limit c) :
    wp (callTransferData env) (fun _ c' => (Progress size env.file.bytes limit c' ∧
        remaining size limit c'.task < remaining size limit c.task) ∨
      Over size env.file.bytes limit c') R c := by
  refine wp_bind (wp_getTask ?_)
  rw [if_pos h.state_eq]
  exact wp_bind (wp_mono wp_handleTransferData
    (fun _ _ hstep => wp_pure (h.step hlimit hstep)) fun _ h => h)

lemma wp_callTransferData_over {R : Injector → Prop}
    (h : Over size env.file.bytes limit c) :
    wp (callTransferData env) (fun _ => Over size env.file.bytes limit) R c := by
  refine wp_bind (wp_getTask ?_)
  rw [if_neg]
  · exact wp_pure h
  · rcases h.state with hend | hfailed
    · rw [hend]
      decide
    · rw [hfailed]
      decide

lemma wp_times_going (hlimit : 1 ≤ limit) {R : Injector → Prop} (n : ℕ)
    (h : Progress size env.file.bytes limit c ∨
      Over size env.file.bytes limit c) :
    wp (Prog.times n (callTransferData env))
      (fun _ c' => Progress size env.file.bytes limit c' ∨
        Over size env.file.bytes limit c') R c := by
  refine wp_times (fun c' hc' => ?_) n h
  rcases hc' with hprog | hover
  · exact wp_mono (wp_callTransferData hlimit hprog)
      (fun _ _ hstep => hstep.imp_left And.left) fun _ h => h
  · exact wp_mono (wp_callTransferData_over hover) (fun _ _ h => .inr h) fun _ h => h

/-- The transfer is over after as many calls as remain. -/
lemma wp_times_over (hlimit : 1 ≤ limit) {R : Injector → Prop} (n : ℕ)
    (h : Progress size env.file.bytes limit c ∧
        remaining size limit c.task < n ∨
      Over size env.file.bytes limit c) :
    wp (Prog.times n (callTransferData env))
      (fun _ => Over size env.file.bytes limit) R c := by
  induction n generalizing c with
  | zero =>
    rcases h with ⟨-, hlt⟩ | hover
    · exact absurd hlt (Nat.not_lt_zero _)
    · exact wp_pure hover
  | succ n ih =>
    refine wp_bind ?_
    rcases h with ⟨hprog, hlt⟩ | hover
    · refine wp_mono (wp_callTransferData hlimit hprog) (fun _ c' hc' => ih ?_) fun _ h => h
      rcases hc' with ⟨hprog', hlt'⟩ | hover
      · exact .inl ⟨hprog', by omega⟩
      · exact .inr hover
    · exact wp_mono (wp_callTransferData_over hover) (fun _ c' hc' => ih (.inr hc')) fun _ h => h

/-- From the state that `handle_transfer_start` leaves, the transfer is correct after any number
of calls of `handle_transfer_data`, whatever becomes of the transmissions, and it is over after
enough of them. -/
theorem transfer_exactly_once (env : Env) (c : Injector) (h : TransferStarted env c)
    (hsize : env.file.size ≤ maxFileSize) (hretries : 1 ≤ c.task.maxRetries) :
    (∀ n tick, TransferCorrect env c.task.maxRetries (transferRun env n tick c)) ∧
      ∃ n, ∀ tick, (transferRun env n tick c).task.state = .transferEnd ∨
        (transferRun env n tick c).task.state = .failed := by
  have hprog := h.progress hsize
  constructor
  · intro n tick
    rcases (wp_times_going hretries n (.inl hprog)).holds tick with hprog' | hover
    · exact hprog'.correct
    · exact hover.correct
  · obtain ⟨n, hn⟩ := exists_gt (remaining env.file.size c.task.maxRetries c.task)
    exact ⟨n, fun tick => ((wp_times_over hretries n (.inl ⟨hprog, hn⟩)).holds tick).state⟩

/-- A task that is about to announce a file of three bytes. -/
def threeByteTask : Task where
  state := .transferStart
  metadata := ⟨0xF0, 0x01, 3, by decide⟩
  totalSegments := 1
  currentSegment := 0
  totalPacketsInSegment := 0
  currentPacketInSegment := 0
  segmentOffset := 0
  fileChecksum := 0
  binFp := none
  lastActivity := 0
  retryCount := 0
  maxRetries := 3
  inProgress := true

/-- The FPGA is ready.  The first transmission is refused, the second accepted. -/
def refusedOnce : Env :=
  quietEnv ⟨[1, 2, 3], 3, rfl⟩ threeByteTask.metadata fun n =>
    some (if n < 208 then ackFrame .transferStartAck 0x00
      else ackFrame .dataAck (if n < 213 then 0xFF else 0x00))

/-- The call of `handle_transfer_start`, with the number of the next question. -/
def threeByteStart : ℕ × Injector := (handleTransferStart refusedOnce 1 0 ⟨threeByteTask, 0, []⟩).2

lemma started_threeByteStart : TransferStarted refusedOnce threeByteStart.2 := by
  have hstart := @wp_handleTransferStart_started ⟨threeByteTask, 0, []⟩ refusedOnce
    (fun _ => True) (fun _ => trivial) rfl rfl rfl rfl 1 0
  unfold threeByteStart
  exact hstart.1 true (by decide +kernel) (by decide +kernel)

theorem transfer_exactly_once_threeBytes :
    (∀ n tick, TransferCorrect refusedOnce 3 (transferRun refusedOnce n tick threeByteStart.2)) ∧
      (transferRun refusedOnce 4 threeByteStart.1 threeByteStart.2).task.state = .transferEnd := by
  have hretries : threeByteStart.2.task.maxRetries = 3 := by decide +kernel
  have hcorrect := (transfer_exactly_once refusedOnce threeByteStart.2 started_threeByteStart
    (by decide) (by rw [hretries]; decide)).1
  rw [hretries] at hcorrect
  exact ⟨hcorrect, by decide +kernel⟩

end AntennaMgmt.Inject
