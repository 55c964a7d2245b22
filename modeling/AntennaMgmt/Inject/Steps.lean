import AntennaMgmt.Inject.Handlers

/-!
# What the calls of the injector do

Each call of the model has one lemma that says how the injector can stand after it, whatever the
environment answers.  For a call of `handle_transfer_data` this is the relation `DataStep`, in
two halves: what happens before the exchange with the FPGA and what happens after it.
-/

namespace AntennaMgmt.Inject

open AntennaMgmt.Lib AntennaMgmt.Rs422

variable {env : Env} {c : Injector} {R : Injector → Prop}

/-! ### Effects -/

lemma wp_getTask {Q : Task → Injector → Prop} (h : Q c.task c) : wp getTask Q R c :=
  wp_bind (wp_get (wp_pure h))

lemma wp_setTask {f : Task → Task} {Q : Unit → Injector → Prop}
    (h : Q () { c with task := f c.task }) : wp (setTask f) Q R c :=
  wp_modify h

lemma wp_transitionState {s : InjectionState} {Q : Unit → Injector → Prop}
    (h : ∀ now, Q () (c.enter s now)) : wp (transitionState env s) Q R c :=
  wp_bind (wp_ask fun n => wp_modify (h (env.clock n)))

lemma wp_failWith {Q : Bool → Injector → Prop} (h : ∀ now, Q false (c.enter .failed now)) :
    wp (failWith env) Q R c :=
  wp_bind (wp_transitionState fun now => wp_pure (h now))

lemma wp_slices (n : ℕ) {Q : Unit → Injector → Prop} (h : Q () c) :
    wp (interruptibleSleep.slices env n) Q R c := by
  induction n with
  | zero => exact wp_pure h
  | succ n ih =>
    refine wp_bind (wp_ask fun k => ?_)
    split
    · exact wp_pure h
    · exact ih

/-- Sleeping changes nothing. -/
lemma wp_interruptibleSleep {sec : ℕ} {Q : Unit → Injector → Prop} (h : Q () c) :
    wp (interruptibleSleep env sec) Q R c :=
  wp_slices (sec * 10) h

lemma wp_fseekBin {offset : ℕ} {Q : Bool → Injector → Prop}
    (hok : Q true { c with task := { c.task with binFp := some offset } }) (hfail : Q false c) :
    wp (fseekBin env offset) Q R c := by
  refine wp_bind (wp_ask fun n => ?_)
  split
  · exact wp_bind (wp_setTask (wp_pure hok))
  · exact wp_pure hfail

lemma wp_freadBin {size position : ℕ} (hpos : c.task.binFp = some position)
    {Q : ℕ × Bytes → Injector → Prop}
    (h : ∀ limit, Q (readCount env position size limit, readBytes env position size limit)
      { c with task :=
        { c.task with binFp := some (position + readCount env position size limit) } }) :
    wp (freadBin env size) Q R c := by
  refine wp_bind (wp_ask fun n => wp_bind (wp_getTask ?_))
  rw [hpos]
  exact wp_bind (wp_setTask (wp_pure (h (env.readLimit n))))

lemma wp_freadBin_closed {size : ℕ} (hpos : c.task.binFp = none)
    {Q : ℕ × Bytes → Injector → Prop} (h : Q (0, []) c) : wp (freadBin env size) Q R c := by
  refine wp_bind (wp_ask fun n => wp_bind (wp_getTask ?_))
  rw [hpos]
  exact wp_pure h

lemma wp_encode {build : ℕ → Option Bytes} {Q : Option Bytes → Injector → Prop}
    (hnone : build c.seqCounter = none → Q none c)
    (hsome : ∀ f seq, build c.seqCounter = some f → Q (some f) { c with seqCounter := seq }) :
    wp (encode build) Q R c := by
  refine wp_bind (wp_get ?_)
  cases hbuild : build c.seqCounter with
  | none => exact wp_pure (hnone hbuild)
  | some f => exact wp_bind (wp_modify (wp_pure (hsome f _ hbuild)))

lemma wp_uartRs422SendFrame {f : Bytes} {Q : Bool → Injector → Prop}
    (h : ∀ ok, Q ok (c.log (.sent f))) : wp (uartRs422SendFrame env f) Q R c :=
  wp_bind (wp_modify (wp_ask fun n => h (env.sendOk n)))

/-- The exchange is recorded, and its value is the reply if that is of the expected kind. -/
lemma wp_uartRs422SendAndWait {f : Bytes} {size : ℕ} {cmd : Cmd}
    {Q : Option Bytes → Injector → Prop}
    (h : ∀ reply : Option Bytes, Q (reply.filter (expected cmd)) (c.log (.exchange f reply))) :
    wp (uartRs422SendAndWait env f size cmd) Q R c := by
  refine wp_bind (wp_ask fun n => ?_)
  split
  · exact wp_bind (wp_modify (wp_pure (h none)))
  · refine wp_bind (wp_ask fun k => ?_)
    cases env.received k with
    | none => exact wp_bind (wp_modify (wp_pure (h none)))
    | some reply =>
      dsimp only
      split
      · exact wp_bind (wp_modify (wp_pure (h none)))
      · refine wp_bind (wp_modify ?_)
        have hreply := h (some reply)
        rw [Option.filter_some] at hreply
        split
        · rename_i hexp
          rw [if_pos hexp] at hreply
          exact wp_pure hreply
        · rename_i hexp
          rw [if_neg hexp] at hreply
          exact wp_pure hreply

/-- The result byte of an exchange that waited for `cmd`: the reply has a valid checksum, the
command code and a payload. -/
def ackResult (cmd : Cmd) (reply : Option Bytes) : Option UInt8 :=
  (reply.filter (expected cmd)).bind (replyResult parseResult)

/-! ### Before the exchange -/

/-- The task after `openSegment` has succeeded. -/
def Task.opened (t : Task) : Task :=
  if t.currentPacketInSegment = 0 then
    { t.openSegment with binFp := some t.openSegment.segmentOffset }
  else t

@[simp] lemma opened_currentSegment (t : Task) : t.opened.currentSegment = t.currentSegment := by
  unfold Task.opened
  split_ifs <;> rfl

@[simp] lemma opened_currentPacketInSegment (t : Task) :
    t.opened.currentPacketInSegment = t.currentPacketInSegment := by
  unfold Task.opened
  split_ifs <;> rfl

@[simp] lemma opened_retryCount (t : Task) : t.opened.retryCount = t.retryCount := by
  unfold Task.opened
  split_ifs <;> rfl

@[simp] lemma opened_maxRetries (t : Task) : t.opened.maxRetries = t.maxRetries := by
  unfold Task.opened
  split_ifs <;> rfl

@[simp] lemma opened_metadata (t : Task) : t.opened.metadata = t.metadata := by
  unfold Task.opened
  split_ifs <;> rfl

@[simp] lemma opened_totalSegments (t : Task) : t.opened.totalSegments = t.totalSegments := by
  unfold Task.opened
  split_ifs <;> rfl

@[simp] lemma opened_state (t : Task) : t.opened.state = t.state := by
  unfold Task.opened
  split_ifs <;> rfl

@[simp] lemma opened_currentSegmentSize (t : Task) :
    t.opened.currentSegmentSize = t.currentSegmentSize := by
  unfold Task.opened
  split_ifs <;> rfl

/-- The position that the next packet is read from. -/
def Task.readPosition (t : Task) : Option ℕ :=
  if 0 < t.retryCount then some (t.segmentOffset + t.currentPacketInSegment * fpgaPacketSize)
  else t.binFp

/-- `PrepareStep env c p c'`: how `prepareData` can get from `c` to `c'` with the value `p`. -/
inductive PrepareStep (env : Env) (c : Injector) : Prepared → Injector → Prop
  | finished (now : ℤ) :
      c.task.totalSegments ≤ c.task.currentSegment →
      PrepareStep env c (.returned true) (c.enter .transferEnd now)
  | segmentDone :
      c.task.currentSegment < c.task.totalSegments →
      c.task.opened.totalPacketsInSegment ≤ c.task.opened.currentPacketInSegment →
      PrepareStep env c (.returned true) { c with task := c.task.opened.nextSegment }
  | gaveUp (t : Task) (now : ℤ) :
      t.currentPacketInSegment = c.task.currentPacketInSegment →
      PrepareStep env c (.returned false) ({ c with task := t }.enter .failed now)
  | frame (pos : ℕ) (f : Bytes) :
      c.task.currentSegment < c.task.totalSegments →
      c.task.opened.currentPacketInSegment < c.task.opened.totalPacketsInSegment →
      c.task.opened.readPosition = some pos →
      c.task.opened.packetSize ≤ env.file.size - pos →
      rs422BuildFileData c.task.opened.currentSegment
        (slice env.file.bytes pos c.task.opened.packetSize) (fpgaPacketSize + 512)
        c.task.opened.currentPacketInSegment c.task.opened.totalPacketsInSegment = some f →
      PrepareStep env c (.frame f)
        { c with task := { c.task.opened with binFp := some (pos + c.task.opened.packetSize) } }

lemma wp_openSegment {Q : Bool → Injector → Prop}
    (hok : Q true { c with task := c.task.opened })
    (hfail : ∀ t : Task, t.currentPacketInSegment = c.task.currentPacketInSegment →
      Q false { c with task := t }) : wp (openSegment env) Q R c := by
  refine wp_bind (wp_getTask ?_)
  unfold Task.opened at hok
  split
  · rename_i hfirst
    rw [if_pos hfirst] at hok
    exact wp_bind (wp_setTask (wp_bind (wp_getTask (wp_fseekBin hok (hfail _ rfl)))))
  · rename_i hfirst
    rw [if_neg hfirst] at hok
    exact wp_pure hok

lemma wp_seekRetry {Q : Bool → Injector → Prop}
    (hok : Q true { c with task := { c.task with binFp := c.task.readPosition } })
    (hfail : Q false c) : wp (seekRetry env) Q R c := by
  refine wp_bind (wp_getTask ?_)
  unfold Task.readPosition at hok
  split
  · rename_i hretry
    rw [if_pos hretry] at hok
    exact wp_fseekBin hok hfail
  · rename_i hretry
    rw [if_neg hretry] at hok
    exact wp_pure hok

lemma wp_prepareData : wp (prepareData env) (PrepareStep env c) R c := by
  refine wp_bind (wp_getTask ?_)
  split
  · rename_i hdone
    exact wp_bind (wp_transitionState fun now => wp_pure (.finished now hdone))
  rename_i hseg
  have hopened := opened_currentPacketInSegment c.task
  refine wp_bind (wp_openSegment ?_ fun t ht => ?_)
  · rw [if_neg (by simp)]
    refine wp_bind (wp_getTask ?_)
    split
    · rename_i hdone
      exact wp_bind (wp_setTask (wp_pure (.segmentDone (not_le.1 hseg) hdone)))
    rename_i hpkt
    refine wp_bind (wp_seekRetry ?_ ?_)
    · rw [if_neg (by simp)]
      cases hpos : c.task.opened.readPosition with
      | none =>
        refine wp_bind (wp_freadBin_closed rfl ?_)
        dsimp only
        split
        · exact wp_bind (wp_failWith fun now => wp_pure (.gaveUp _ now hopened))
        · exact wp_bind (wp_failWith fun now => wp_pure (.gaveUp _ now hopened))
      | some pos =>
        refine wp_bind (wp_freadBin rfl fun limit => ?_)
        dsimp only
        split
        · exact wp_bind (wp_failWith fun now => wp_pure (.gaveUp _ now hopened))
        rename_i hcount
        have hcount := not_not.1 hcount
        have hle : c.task.opened.packetSize ≤ env.file.size - pos := by
          have h : readCount env pos c.task.opened.packetSize limit ≤ env.file.size - pos := by
            unfold readCount
            omega
          exact hcount ▸ h
        have hbytes : readBytes env pos c.task.opened.packetSize limit =
            slice env.file.bytes pos c.task.opened.packetSize := by
          rw [readBytes, show readCount env pos c.task.opened.packetSize limit = _ from hcount]
        split
        · exact wp_bind (wp_failWith fun now => wp_pure (.gaveUp _ now hopened))
        · rename_i f hbuild
          have hbuild := hbytes ▸ hbuild
          have hstep := PrepareStep.frame pos f (not_le.1 hseg) (not_le.1 hpkt) hpos hle hbuild
          rw [← hcount] at hstep
          exact wp_pure hstep
    · rw [if_pos (by simp)]
      exact wp_bind (wp_failWith fun now => wp_pure (.gaveUp _ now hopened))
  · rw [if_pos (by simp)]
    exact wp_bind (wp_failWith fun now => wp_pure (.gaveUp t now ht))

/-! ### After the exchange -/

/-- An event that sends no file data and enters no state. -/
def Event.Control : Event → Prop
  | .sent f => apidOf f = apidControl ∧ wordOf f ≠ Cmd.uploadNotify.code
  | .exchange f _ => apidOf f = apidControl ∧ wordOf f ≠ Cmd.uploadNotify.code
  | .entered _ => False

lemma wp_sendTransferAbort {Q : Bool → Injector → Prop}
    (h : ∀ ok seq es, (∀ e ∈ es, Event.Control e) →
      Q ok { c with seqCounter := seq, trace := c.trace ++ es }) :
    wp (sendTransferAbort env) Q R c := by
  refine wp_bind (wp_encode (fun _ => ?_) fun f seq hbuild => ?_)
  · have hnone := h false c.seqCounter [] (by simp)
    rw [List.append_nil] at hnone
    exact wp_pure hnone
  · obtain ⟨hapid, hword, -⟩ := rs422EncodeFrame_fields hbuild
    have hctl : apidOf f = apidControl ∧ wordOf f ≠ Cmd.uploadNotify.code :=
      ⟨hapid, by rw [hword]; decide⟩
    refine wp_bind (wp_uartRs422SendFrame fun ok => ?_)
    split
    · refine wp_pure (h false seq [.sent f] ?_)
      intro e he
      rw [List.mem_singleton.1 he]
      exact hctl
    · refine wp_bind (wp_uartRs422SendAndWait fun reply => wp_pure ?_)
      have hboth := h true seq [.sent f, .exchange f reply] (by
        intro e he
        rw [List.mem_cons, List.mem_singleton] at he
        rcases he with rfl | rfl
        · exact hctl
        · exact hctl)
      simpa [Injector.log] using hboth

/-- `FinishStep c reply c'`: how `finishData` can get from `c` to `c'` on the accepted reply. -/
inductive FinishStep (c : Injector) (reply : Option Bytes) : Injector → Prop
  | acked :
      reply.bind (replyResult parseResult) = some dataReceivedOk →
      FinishStep c reply { c with task := { c.task with
        currentPacketInSegment := c.task.currentPacketInSegment + 1
        retryCount := 0 } }
  | retry :
      reply.bind (replyResult parseResult) ≠ some dataReceivedOk →
      c.task.retryCount + 1 < c.task.maxRetries →
      FinishStep c reply { c with task := { c.task with retryCount := c.task.retryCount + 1 } }
  | exhausted (seq : ℕ) (es : List Event) (now : ℤ) :
      reply.bind (replyResult parseResult) ≠ some dataReceivedOk →
      c.task.maxRetries ≤ c.task.retryCount + 1 →
      (∀ e ∈ es, Event.Control e) →
      FinishStep c reply ({ c with
        task := { c.task with retryCount := c.task.retryCount + 1 }
        seqCounter := seq
        trace := c.trace ++ es }.enter .failed now)

lemma wp_countRetry {reply : Option Bytes}
    (h : reply.bind (replyResult parseResult) ≠ some dataReceivedOk) :
    wp (countRetry env) (fun _ => FinishStep c reply) R c := by
  refine wp_bind (wp_setTask (wp_bind (wp_getTask ?_)))
  split
  · rename_i hmax
    refine wp_bind (wp_sendTransferAbort fun ok seq es hes => wp_failWith fun now => ?_)
    exact .exhausted seq es now h hmax hes
  · rename_i hmax
    exact wp_pure (.retry h (not_le.1 hmax))

lemma wp_finishData (reply : Option Bytes) :
    wp (finishData env reply) (fun _ => FinishStep c reply) R c := by
  unfold finishData
  cases reply with
  | none => exact wp_countRetry nofun
  | some reply =>
    dsimp only
    split
    · rename_i hnone
      refine wp_countRetry ?_
      rw [Option.bind_some, show replyResult parseResult reply = none from hnone]
      nofun
    · rename_i result hresult
      have hbind : (some reply).bind (replyResult parseResult) = some result := hresult
      split
      · rename_i hne
        exact wp_countRetry (by rwa [hbind, ne_eq, Option.some_inj])
      · rename_i heq
        exact wp_bind (wp_setTask (wp_pure (.acked (by rw [hbind, not_not.1 heq]))))

/-! ### A call -/

/-- `DataStep env c c'`: a call of `handle_transfer_data` can get from `c` to `c'`. -/
inductive DataStep (env : Env) (c : Injector) : Injector → Prop
  | returned {ok : Bool} {c' : Injector} :
      PrepareStep env c (.returned ok) c' → DataStep env c c'
  | exchanged {f : Bytes} {c₁ c' : Injector} (reply : Option Bytes) :
      PrepareStep env c (.frame f) c₁ →
      FinishStep (c₁.log (.exchange f reply)) (reply.filter (expected .dataAck)) c' →
      DataStep env c c'

lemma wp_handleTransferData : wp (handleTransferData env) (fun _ => DataStep env c) R c := by
  refine wp_bind (wp_mono wp_prepareData ?_ fun _ h => h)
  intro p c₁ hprep
  cases p with
  | returned ok => exact wp_pure (.returned hprep)
  | frame f =>
    refine wp_bind (wp_uartRs422SendAndWait fun reply => ?_)
    exact wp_mono (wp_finishData _) (fun _ _ hfin => .exchanged reply hprep hfin) fun _ h => h

end AntennaMgmt.Inject
