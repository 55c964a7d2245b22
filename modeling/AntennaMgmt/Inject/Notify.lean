import AntennaMgmt.Inject.Evidence

/-!
# The sequence numbers and the announcements

An announcement is to leave the sequence numbers of the other frames alone: `send_upload_notify`
takes back the number that the encoder has counted.  The encoder counts in 16 bits, and the
counter is not taken back from zero, so at its greatest value the two do not cancel.
-/

namespace AntennaMgmt.Inject

open AntennaMgmt.Lib AntennaMgmt.Rs422

variable {env : Env} {c : Injector}

/-! ### No program reads the record -/

/-- The injector with other entries before those of its record. -/
def Injector.behind (es : List Event) (c : Injector) : Injector := { c with trace := es ++ c.trace }

lemma behind_log (es : List Event) (c : Injector) (e : Event) :
    (c.behind es).log e = (c.log e).behind es := by
  rw [Injector.log, Injector.log, Injector.behind, Injector.behind, List.append_assoc]

section

variable (es : List Event)

lemma commutes_getTask : Commutes (Injector.behind es) getTask :=
  Commutes.get_bind (fun _ => rfl) fun _ => .pure _

lemma commutes_setTask (f : Task → Task) : Commutes (Injector.behind es) (setTask f) :=
  .modify fun _ => rfl

lemma commutes_record (e : Event) : Commutes (Injector.behind es) (record e) :=
  .modify fun c => behind_log es c e

lemma commutes_transitionState (s : InjectionState) :
    Commutes (Injector.behind es) (transitionState env s) := by
  refine (Commutes.ask _).bind fun now => .modify fun c => ?_
  rw [Injector.enter, behind_log]
  rfl

lemma commutes_failWith : Commutes (Injector.behind es) (failWith env) :=
  (commutes_transitionState es .failed).bind fun _ => .pure _

lemma commutes_slices (n : ℕ) :
    Commutes (Injector.behind es) (interruptibleSleep.slices env n) := by
  induction n with
  | zero => exact .pure _
  | succ n ih =>
    refine (Commutes.ask _).bind fun stop => ?_
    split
    · exact .pure _
    · exact ih

lemma commutes_interruptibleSleep (sec : ℕ) :
    Commutes (Injector.behind es) (interruptibleSleep env sec) := commutes_slices es _

lemma commutes_fseekBin (offset : ℕ) : Commutes (Injector.behind es) (fseekBin env offset) := by
  refine (Commutes.ask _).bind fun ok => ?_
  split
  · exact (commutes_setTask es _).bind fun _ => .pure _
  · exact .pure _

lemma commutes_freadBin (size : ℕ) : Commutes (Injector.behind es) (freadBin env size) := by
  refine (Commutes.ask _).bind fun limit => (commutes_getTask es).bind fun t => ?_
  split
  · exact .pure _
  · exact (commutes_setTask es _).bind fun _ => .pure _

lemma commutes_encode (build : ℕ → Option Bytes) :
    Commutes (Injector.behind es) (encode build) := by
  refine Commutes.get_bind (fun _ => rfl) fun c => ?_
  split
  · exact .pure _
  · refine Commutes.bind (.modify fun _ => ?_) fun _ => .pure _
    rfl

lemma commutes_rs422SeqCounterRollback :
    Commutes (Injector.behind es) rs422SeqCounterRollback :=
  .modify fun _ => rfl

lemma commutes_uartRs422SendFrame (f : Bytes) :
    Commutes (Injector.behind es) (uartRs422SendFrame env f) :=
  (commutes_record es _).bind fun _ => .ask _

lemma commutes_uartRs422SendAndWait (f : Bytes) (size : ℕ) (cmd : Cmd) :
    Commutes (Injector.behind es) (uartRs422SendAndWait env f size cmd) := by
  refine (Commutes.ask _).bind fun ok => ?_
  split
  · exact (commutes_record es _).bind fun _ => .pure _
  · refine (Commutes.ask _).bind fun reply => ?_
    split
    · exact (commutes_record es _).bind fun _ => .pure _
    · split
      · exact (commutes_record es _).bind fun _ => .pure _
      · refine (commutes_record es _).bind fun _ => ?_
        split
        · exact .pure _
        · exact .pure _

lemma commutes_sendUploadNotify (notifyCode : UInt8) :
    Commutes (Injector.behind es) (sendUploadNotify env notifyCode) := by
  refine (commutes_encode es _).bind fun frame => ?_
  split
  · exact .pure _
  · exact (commutes_uartRs422SendFrame es _).bind fun _ =>
      (commutes_rs422SeqCounterRollback es).bind fun _ => .pure _

lemma commutes_sendTransferAbort : Commutes (Injector.behind es) (sendTransferAbort env) := by
  refine (commutes_encode es _).bind fun frame => ?_
  split
  · exact .pure _
  · refine (commutes_uartRs422SendFrame es _).bind fun ok => ?_
    split
    · exact .pure _
    · exact (commutes_uartRs422SendAndWait es _ _ _).bind fun _ => .pure _

lemma commutes_handleParsingMetadata :
    Commutes (Injector.behind es) (handleParsingMetadata env) := by
  refine (Commutes.ask _).bind fun metadata => ?_
  split
  · exact commutes_failWith es
  refine (commutes_setTask es _).bind fun _ => (Commutes.ask _).bind fun ok => ?_
  split
  · exact commutes_failWith es
  refine (commutes_setTask es _).bind fun _ => (Commutes.ask _).bind fun ok => ?_
  split
  · exact commutes_failWith es
  refine (Commutes.ask _).bind fun ok => ?_
  split
  · exact commutes_failWith es
  refine (Commutes.ask _).bind fun limit => ?_
  split
  · exact commutes_failWith es
  exact (commutes_setTask es _).bind fun _ =>
    (commutes_transitionState es _).bind fun _ => .pure _

lemma commutes_pollTransferStart (frame : Bytes) (startTime : ℤ) :
    Commutes (Injector.behind es) (pollTransferStart env frame startTime) := by
  have hsleep (r : Option (Option UInt8)) :
      Commutes (Injector.behind es) (do interruptibleSleep env 1; return r) :=
    (commutes_interruptibleSleep es 1).bind fun _ => .pure _
  refine (Commutes.ask _).bind fun stop => ?_
  split
  · exact (commutes_transitionState es _).bind fun _ => .pure _
  refine (Commutes.ask _).bind fun now => ?_
  split
  · exact (commutes_transitionState es _).bind fun _ => .pure _
  refine (commutes_uartRs422SendAndWait es _ _ _).bind fun reply => ?_
  split
  · exact hsleep none
  split
  · exact hsleep none
  split
  · exact hsleep none
  · exact .pure _

lemma commutes_beginTransfer (result : UInt8) :
    Commutes (Injector.behind es) (beginTransfer env result) := by
  rw [beginTransfer]
  split
  · exact commutes_failWith es
  refine (Commutes.ask _).bind fun ok => ?_
  split
  · exact (commutes_setTask es _).bind fun _ => commutes_failWith es
  refine (commutes_setTask es _).bind fun _ => (commutes_interruptibleSleep es _).bind fun _ =>
    (Commutes.ask _).bind fun stop => ?_
  split
  · exact commutes_failWith es
  · exact (commutes_setTask es _).bind fun _ =>
      (commutes_transitionState es _).bind fun _ => .pure _

lemma commutes_handleTransferStart (fuel : ℕ) :
    Commutes (Injector.behind es) (handleTransferStart env fuel) := by
  refine (commutes_getTask es).bind fun t => (commutes_encode es _).bind fun frame => ?_
  split
  · exact commutes_failWith es
  refine (Commutes.ask _).bind fun startTime =>
    ((commutes_pollTransferStart es _ _).repeatUntil fuel).bind fun result => ?_
  split
  · exact .pure _
  · exact commutes_beginTransfer es _

lemma commutes_openSegment : Commutes (Injector.behind es) (openSegment env) := by
  refine (commutes_getTask es).bind fun t => ?_
  split
  · exact (commutes_setTask es _).bind fun _ =>
      (commutes_getTask es).bind fun t => commutes_fseekBin es _
  · exact .pure _

lemma commutes_seekRetry : Commutes (Injector.behind es) (seekRetry env) := by
  refine (commutes_getTask es).bind fun t => ?_
  split
  · exact commutes_fseekBin es _
  · exact .pure _

lemma commutes_prepareData : Commutes (Injector.behind es) (prepareData env) := by
  have hfail : Commutes (Injector.behind es) (do return Prepared.returned (← failWith env)) :=
    (commutes_failWith es).bind fun _ => .pure _
  refine (commutes_getTask es).bind fun t => ?_
  split
  · exact (commutes_transitionState es _).bind fun _ => .pure _
  refine (commutes_openSegment es).bind fun ok => ?_
  split
  · exact hfail
  refine (commutes_getTask es).bind fun t => ?_
  split
  · exact (commutes_setTask es _).bind fun _ => .pure _
  refine (commutes_seekRetry es).bind fun ok => ?_
  split
  · exact hfail
  refine (commutes_freadBin es _).bind fun r => ?_
  obtain ⟨bytesRead, data⟩ := r
  dsimp only
  split
  · exact hfail
  split
  · exact hfail
  · exact .pure _

lemma commutes_countRetry : Commutes (Injector.behind es) (countRetry env) := by
  refine (commutes_setTask es _).bind fun _ => (commutes_getTask es).bind fun t => ?_
  split
  · exact (commutes_sendTransferAbort es).bind fun _ => commutes_failWith es
  · exact .pure _

lemma commutes_finishData (reply : Option Bytes) :
    Commutes (Injector.behind es) (finishData env reply) := by
  unfold finishData
  split
  · exact commutes_countRetry es
  split
  · exact commutes_countRetry es
  split
  · exact commutes_countRetry es
  · exact (commutes_setTask es _).bind fun _ => .pure _

lemma commutes_handleTransferData : Commutes (Injector.behind es) (handleTransferData env) := by
  refine (commutes_prepareData es).bind fun p => ?_
  split
  · exact .pure _
  · exact (commutes_uartRs422SendAndWait es _ _ _).bind fun reply => commutes_finishData es reply

lemma commutes_handleTransferEnd : Commutes (Injector.behind es) (handleTransferEnd env) := by
  refine (commutes_setTask es _).bind fun _ => (commutes_encode es _).bind fun frame => ?_
  split
  · exact commutes_failWith es
  refine (commutes_uartRs422SendAndWait es _ _ _).bind fun reply => ?_
  split
  · exact commutes_failWith es
  split
  · exact commutes_failWith es
  split
  · exact (commutes_sendTransferAbort es).bind fun _ => commutes_failWith es
  · exact (commutes_transitionState es _).bind fun _ => .pure _

lemma commutes_handleReconfigStart : Commutes (Injector.behind es) (handleReconfigStart env) := by
  refine (commutes_getTask es).bind fun t => (commutes_encode es _).bind fun frame => ?_
  split
  · exact commutes_failWith es
  refine (commutes_uartRs422SendFrame es _).bind fun ok => ?_
  split
  · exact commutes_failWith es
  · exact (Commutes.ask _).bind fun now => (commutes_setTask es _).bind fun _ =>
      (commutes_transitionState es _).bind fun _ => .pure _

lemma commutes_handleReconfigPolling :
    Commutes (Injector.behind es) (handleReconfigPolling env) := by
  have hsleep (ok : Bool) : Commutes (Injector.behind es)
      (do interruptibleSleep env fpgaReconfigPollIntervalSec; return ok) :=
    (commutes_interruptibleSleep es _).bind fun _ => .pure _
  refine (commutes_getTask es).bind fun t => (Commutes.ask _).bind fun now => ?_
  split
  · exact commutes_failWith es
  refine (commutes_encode es _).bind fun frame => ?_
  split
  · exact .pure _
  refine (commutes_uartRs422SendAndWait es _ _ _).bind fun reply => ?_
  split
  · exact hsleep false
  split
  · exact hsleep false
  split
  · exact (commutes_transitionState es _).bind fun _ => .pure _
  split
  · exact hsleep true
  · exact commutes_failWith es

lemma commutes_threadRound (fuel : ℕ) :
    Commutes (Injector.behind es) (threadRound env fuel) := by
  refine (Commutes.ask _).bind fun stop => ?_
  split
  · exact .pure _
  refine (commutes_getTask es).bind fun t => ?_
  split
  · exact (commutes_handleParsingMetadata es).bind fun _ => .pure _
  · exact (commutes_handleTransferStart es fuel).bind fun _ => .pure _
  · exact (commutes_handleTransferData es).bind fun _ => .pure _
  · exact (commutes_handleTransferEnd es).bind fun _ => .pure _
  · exact (commutes_handleReconfigStart es).bind fun _ => .pure _
  · exact (commutes_handleReconfigPolling es).bind fun _ => .pure _
  · exact .pure _
  · exact .pure _
  · exact .pure _

end

/-! ### The announcement -/

/-- The counter after the increment of the encoder and the guarded decrement. -/
def afterRollback (seq : ℕ) : ℕ := (seq + 1) % 2 ^ 16 - 1

/-- Whatever becomes of the send, the announcement is recorded and the counter is as the encoder
and the rollback leave it. -/
lemma sendUploadNotify_eq (env : Env) (notifyCode : UInt8) (tick : ℕ) (c : Injector) :
    ∃ f, (sendUploadNotify env notifyCode tick c).2 =
      (tick + 1, { c.log (.sent f) with seqCounter := afterRollback c.seqCounter }) :=
  ⟨_, rfl⟩

lemma afterRollback_eq_iff {seq : ℕ} (h : seq < 2 ^ 16) :
    afterRollback seq = seq ↔ seq ≠ 65535 := by
  rw [afterRollback]
  omega

/-- What the thread does after its first announcement. -/
def afterNotify (env : Env) (fuel : ℕ) : Inj Unit := do
  Prog.repeatUntil fuel (threadRound env fuel)
  let _ ← sendUploadNotify env uploadNotifyPost
  setTask fun t => { t with binFp := none, inProgress := false }

example (env : Env) (fuel : ℕ) : injectionThreadFunc env fuel = (do
    let _ ← sendUploadNotify env uploadNotifyPre
    afterNotify env fuel) := rfl

/-- The events of that part, its frames with their sequence fields among them. -/
def laterEvents (env : Env) (fuel tick : ℕ) (c : Injector) : List Event :=
  (afterNotify env fuel tick c).2.2.trace.drop c.trace.length

lemma commutes_afterNotify (es : List Event) (fuel : ℕ) :
    Commutes (Injector.behind es) (afterNotify env fuel) :=
  ((commutes_threadRound es fuel).repeatUntil fuel).bind fun _ =>
    (commutes_sendUploadNotify es _).bind fun _ => commutes_setTask es _

/-- The later events do not depend on those before them. -/
lemma laterEvents_eq (env : Env) (fuel tick : ℕ) (c : Injector) :
    laterEvents env fuel tick c = (afterNotify env fuel tick { c with trace := [] }).2.2.trace := by
  have hc : c = ({ c with trace := [] } : Injector).behind c.trace := by
    rw [Injector.behind, List.append_nil]
  have hrun := @commutes_afterNotify env c.trace fuel tick { c with trace := [] }
  rw [← hc] at hrun
  rw [laterEvents, hrun, Injector.behind, List.drop_left]

/-- An announcement leaves the counter as it was if and only if it is not at its greatest value;
then everything after the announcement, with all sequence numbers, is as without it. -/
theorem notify_keeps_counter_iff (env : Env) (notifyCode : UInt8) (tick : ℕ) (c : Injector)
    (hc : c.seqCounter < 2 ^ 16) :
    ((sendUploadNotify env notifyCode tick c).2.2.seqCounter = c.seqCounter ↔
      c.seqCounter ≠ 65535) ∧
    (c.seqCounter ≠ 65535 → ∀ fuel,
      laterEvents env fuel (tick + 1) (sendUploadNotify env notifyCode tick c).2.2 =
        laterEvents env fuel (tick + 1) c) := by
  obtain ⟨f, heq⟩ := sendUploadNotify_eq env notifyCode tick c
  rw [heq]
  have hiff := afterRollback_eq_iff hc
  refine ⟨hiff, fun hne fuel => ?_⟩
  rw [laterEvents_eq, laterEvents_eq, hiff.2 hne]
  rfl

theorem notify_keeps_counter_iff_first :
    (sendUploadNotify acceptEverything uploadNotifyPre 0 ⟨idleTask, 7, []⟩).2.2.seqCounter = 7 :=
  (notify_keeps_counter_iff acceptEverything uploadNotifyPre 0 ⟨idleTask, 7, []⟩ (by decide)).1.2
    (by decide)

/-- At its greatest value the counter goes to zero and stays there. -/
theorem notify_resets_counter :
    ¬ ∀ (env : Env) (notifyCode : UInt8) (tick : ℕ) (c : Injector), c.seqCounter < 2 ^ 16 →
      (sendUploadNotify env notifyCode tick c).2.2.seqCounter = c.seqCounter := by
  intro hall
  have hkept := hall acceptEverything uploadNotifyPre 0 ⟨idleTask, 65535, []⟩ (by decide)
  obtain ⟨f, heq⟩ :=
    sendUploadNotify_eq acceptEverything uploadNotifyPre 0 ⟨idleTask, 65535, []⟩
  rw [heq] at hkept
  have hzero : afterRollback 65535 = 65535 := hkept
  exact absurd hzero (by decide)

end AntennaMgmt.Inject
