import AntennaMgmt.Inject.Record
import AntennaMgmt.Inject.Sending
import AntennaMgmt.Lib.Transition

/-!
# Host and FPGA on a serial line

The host and the FPGA are joined by two FIFO links with arbitrary delays.  The host is a thread
that calls `handle_transfer_data`; its exchange is taken apart here: it discards what it has
received, sends the frame, and waits for an answer until it gives up.  The FPGA answers every data
frame with a result byte, and the answer does not say which packet it is about.
-/

namespace AntennaMgmt.Inject

open AntennaMgmt.Lib AntennaMgmt.Rs422

/-- Where the host stands in a call of `handle_transfer_data`. -/
inductive HostPc
  | idle
  | ready (f : Bytes)
  | cleared (f : Bytes)
  | waiting (f : Bytes)
deriving DecidableEq

/-- An answer on its way to the host: the result byte, and the packet of the frame it answers,
which the host does not see. -/
structure Answer where
  result : UInt8
  packet : ℕ × ℕ
deriving DecidableEq

/-- The frame of an answer. -/
def Answer.frame (a : Answer) : Bytes := ackFrame .dataAck a.result

/-- Host, FPGA and what lies between them: the data frames on their way to the FPGA, the answers
on their way to the host and those that it has received but not read.  `accepted` are the packets
of the frames that the FPGA has answered positively. -/
structure Line where
  host : Injector
  tick : ℕ
  pc : HostPc
  toFpga : List Bytes
  toHost : List Answer
  received : List Answer
  accepted : List (ℕ × ℕ)

/-- What can happen next. -/
inductive LineEvent
  | prepare
  | discard
  | send (ok : Bool)
  | answer (result : UInt8)
  | deliver
  | receive (skipped : ℕ)
  | timeout
deriving DecidableEq

variable (env : Env)

/-- The host ends its exchange with a reply or without one. -/
def Line.finish (σ : Line) (f : Bytes) (reply : Option Bytes) : Option Line :=
  match finishData env (reply.filter (expected .dataAck)) σ.tick
      (σ.host.log (.exchange f reply)) with
  | (some _, tick, host) => some { σ with host := host, tick := tick, pc := .idle }
  | (none, _, _) => none

/-- The state after an event, if it is possible.  Reading an answer takes all frames that have
arrived up to some point and keeps the last one, as `pkfinderParse` does. -/
def next (σ : Line) : LineEvent → Option Line
  | .prepare =>
    if σ.pc = .idle ∧ σ.host.task.state = .transferData then
      match prepareData env σ.tick σ.host with
      | (some (.frame f), tick, host) =>
        some { σ with host := host, tick := tick, pc := .ready f }
      | (some (.returned _), tick, host) => some { σ with host := host, tick := tick }
      | (none, _, _) => none
    else none
  | .discard =>
    match σ.pc with
    | .ready f => some { σ with received := [], pc := .cleared f }
    | _ => none
  | .send ok =>
    match σ.pc with
    | .cleared f =>
      if ok then some { σ with toFpga := σ.toFpga ++ [f], pc := .waiting f }
      else σ.finish env f none
    | _ => none
  | .answer result =>
    match σ.toFpga with
    | [] => none
    | f :: rest => some { σ with
        toFpga := rest
        toHost := σ.toHost ++ [⟨result, packetOf f⟩]
        accepted := if result = dataReceivedOk then packetOf f :: σ.accepted else σ.accepted }
  | .deliver =>
    match σ.toHost with
    | [] => none
    | a :: rest => some { σ with toHost := rest, received := σ.received ++ [a] }
  | .receive skipped =>
    match σ.pc, σ.received.drop skipped with
    | .waiting f, a :: rest => Line.finish env { σ with received := rest } f (some a.frame)
    | _, _ => none
  | .timeout =>
    match σ.pc with
    | .waiting f => σ.finish env f none
    | _ => none

/-- A step of the line. -/
def Step (σ : Line) (e : LineEvent) (σ' : Line) : Prop := next env σ e = some σ'

/-- The packet that the host is about to send. -/
def Line.current (σ : Line) : ℕ × ℕ :=
  (σ.host.task.currentSegment, σ.host.task.currentPacketInSegment)

/-- A step that takes the host past the current packet. -/
def Passes (σ σ' : Line) : Prop :=
  σ.host.task.currentPacketInSegment < σ'.host.task.currentPacketInSegment

instance (σ σ' : Line) : Decidable (Passes σ σ') := Nat.decLt _ _

/-- Frames and positive answers between host and FPGA are about the given packet only. -/
def Line.About (σ : Line) (p : ℕ × ℕ) : Prop :=
  (∀ f ∈ σ.toFpga, packetOf f = p) ∧
    ∀ a ∈ σ.toHost ++ σ.received, a.result = dataReceivedOk → a.packet = p

instance (σ : Line) (p : ℕ × ℕ) : Decidable (σ.About p) := inferInstanceAs (Decidable (_ ∧ _))

/-- A frame is sent in order when nothing of another packet is between host and FPGA, or when the
FPGA has accepted the packet already. -/
def InOrder (σ : Line) : LineEvent → Prop
  | .send true =>
    match σ.pc with
    | .cleared f => packetOf f ∈ σ.accepted ∨ σ.About (packetOf f)
    | _ => True
  | _ => True

instance (σ : Line) (e : LineEvent) : Decidable (InOrder σ e) :=
  match e with
  | .send true =>
    match hpc : σ.pc with
    | .cleared f =>
      decidable_of_iff (packetOf f ∈ σ.accepted ∨ σ.About (packetOf f)) (by simp [InOrder, hpc])
    | .idle | .ready _ | .waiting _ => isTrue (by simp [InOrder, hpc])
  | .prepare | .discard | .send false | .answer _ | .deliver | .receive _ | .timeout =>
    isTrue trivial

/-- The line when `handle_transfer_start` has left the host to send the data. -/
structure LineStarted (σ : Line) : Prop where
  host : AtStart σ.host.task
  pc : σ.pc = .idle
  quiet : σ.toFpga = [] ∧ σ.toHost = [] ∧ σ.received = []

variable {env}

/-! ### The invariant -/

lemma prepareStep_of_run {n n' : ℕ} {p : Prepared} {c c' : Injector}
    (h : prepareData env n c = (some p, n', c')) : PrepareStep env c p c' := by
  have hwp : wp (prepareData env) (fun p c' => PrepareStep env c p c') (fun _ => True) c :=
    wp_prepareData
  have hstep := (hwp n).1 p
  rw [h] at hstep
  exact hstep rfl

lemma finish_inv {σ σ' : Line} {f : Bytes} {reply : Option Bytes}
    (h : σ.finish env f reply = some σ') :
    ∃ tick host, σ' = { σ with host := host, tick := tick, pc := .idle } ∧
      FinishStep (σ.host.log (.exchange f reply)) (reply.filter (expected .dataAck)) host := by
  have hwp : wp (finishData env (reply.filter (expected .dataAck)))
      (fun _ => FinishStep (σ.host.log (.exchange f reply)) (reply.filter (expected .dataAck)))
      (fun _ => True) (σ.host.log (.exchange f reply)) := wp_finishData _
  have hstep := hwp σ.tick
  unfold Line.finish at h
  split at h
  · rename_i ok tick host hrun
    rw [hrun] at hstep
    exact ⟨tick, host, (Option.some.inj h).symm, hstep.1 ok rfl⟩
  · cases h

/-- An answer says what the FPGA made of the frame. -/
lemma ackResult_answer (a : Answer) : ackResult .dataAck (some a.frame) = some a.result := by
  have hdecode : rs422DecodeFrame a.frame = some (apidControl, Cmd.dataAck.code, [a.result]) :=
    rs422DecodeFrame_frame apidControl 0 Cmd.dataAck.code [a.result] (by simp)
  simp [ackResult, expected, replyResult, hdecode, Option.filter_some, parseResult]

/-- The frame that the host is working on. -/
def HostPc.frame? : HostPc → Option Bytes
  | .idle => none
  | .ready f => some f
  | .cleared f => some f
  | .waiting f => some f

/-- The invariant of the line: positive answers are about accepted packets; between calls the
counters name the next packet, and within a call the frame is that of the current packet; and
while the host waits, nothing of another packet can be taken for an answer, unless the FPGA has
accepted the current packet. -/
structure LineInv (size : ℕ) (σ : Line) : Prop where
  accepted : ∀ a ∈ σ.toHost ++ σ.received, a.result = dataReceivedOk → a.packet ∈ σ.accepted
  idle : σ.pc = .idle → σ.host.task.state = .transferData →
    σ.host.task.totalSegments = 0 ∨ Sending size σ.host.task
  busy : ∀ f, σ.pc.frame? = some f → OnLine size σ.host.task ∧ packetOf f = σ.current
  waiting : ∀ f, σ.pc = .waiting f → packetOf f ∈ σ.accepted ∨ σ.About (packetOf f)

lemma LineStarted.inv {σ : Line} (h : LineStarted σ) : LineInv σ.host.task.metadata.fileSize σ where
  accepted a ha := by
    rw [h.quiet.2.1, h.quiet.2.2] at ha
    cases ha
  idle _ _ := by
    rcases le_or_gt σ.host.task.metadata.fileSize maxFileSize with hsmall | hlarge
    · exact .inr (h.host.sending hsmall)
    · left
      rw [h.host.segments, totalSegmentsOf_wrapped σ.host.task.metadata.fileSize_lt hlarge]
  busy f hf := by
    rw [h.pc] at hf
    cases hf
  waiting f hf := by
    rw [h.pc] at hf
    cases hf

variable {size : ℕ} {σ σ' : Line}

/-- The host starts a call. -/
lemma LineInv.prepare (h : LineInv size σ) (hstep : Step env σ .prepare σ') : LineInv size σ' := by
  simp only [Step, next] at hstep
  split at hstep
  · rename_i hidle
    split at hstep
    · rename_i f tick host hrun
      cases hstep
      have hprep := prepareStep_of_run hrun
      rcases h.idle hidle.1 hidle.2 with hzero | hsend
      · cases hprep with
        | frame _ _ hlt _ _ _ _ => omega
      · obtain ⟨hf, honline, hseg, hpkt, -⟩ := hsend.prepare_frame hprep
        refine ⟨h.accepted, nofun, ?_, nofun⟩
        rintro _ ⟨⟩
        refine ⟨honline, ?_⟩
        rw [packetOf, hf.segment, hf.packet, Line.current, hseg, hpkt]
    · rename_i ok tick host hrun
      cases hstep
      have hprep := prepareStep_of_run hrun
      have hbusy : ∀ f, σ.pc.frame? ≠ some f := by
        intro f hf
        rw [hidle.1] at hf
        cases hf
      have hwait : ∀ f, σ.pc ≠ .waiting f := by
        intro f hf
        rw [hidle.1] at hf
        cases hf
      refine ⟨h.accepted, ?_, fun f hf => absurd hf (hbusy f), fun f hf => absurd hf (hwait f)⟩
      intro _ hstate
      change host.task.state = .transferData at hstate
      rcases h.idle hidle.1 hidle.2 with hzero | hsend
      · cases hprep with
        | finished now _ => cases hstate
        | segmentDone hlt _ => omega
        | gaveUp t now _ => cases hstate
      · rcases hsend.prepare_returned hprep with
          ⟨-, now, rfl⟩ | ⟨-, -, hsend', -⟩ | ⟨t, now, -, rfl⟩
        · cases hstate
        · exact .inr hsend'
        · cases hstate
    · cases hstep
  · cases hstep

/-- The host ends its exchange. -/
lemma LineInv.finish (h : LineInv size σ) {f : Bytes} (hf : σ.pc.frame? = some f)
    {reply : Option Bytes} (hstep : σ.finish env f reply = some σ') : LineInv size σ' := by
  obtain ⟨tick, host, rfl, hfin⟩ := finish_inv hstep
  refine ⟨h.accepted, ?_, nofun, nofun⟩
  intro _ hstate
  right
  rcases OnLine.finish (c := σ.host.log (.exchange f reply)) (h.busy f hf).1 hfin with
    ⟨-, hsend, -⟩ | ⟨-, hsend, -⟩ | ⟨-, hfailed, -⟩
  · exact hsend
  · exact hsend
  · cases hfailed.symm.trans hstate

/-- The host drops what it has received up to some point. -/
lemma LineInv.drop (h : LineInv size σ) {skipped : ℕ} {a : Answer} {rest : List Answer}
    (hdrop : σ.received.drop skipped = a :: rest) : LineInv size { σ with received := rest } := by
  have hsub : ∀ b ∈ σ.toHost ++ rest, b ∈ σ.toHost ++ σ.received := by
    intro b hb
    rcases List.mem_append.1 hb with hb | hb
    · exact List.mem_append_left _ hb
    · refine List.mem_append_right _ (List.mem_of_mem_drop (i := skipped) ?_)
      rw [hdrop]
      exact List.mem_cons_of_mem a hb
  refine ⟨fun b hb => h.accepted b (hsub b hb), h.idle, h.busy, fun f hf => ?_⟩
  exact (h.waiting f hf).imp_right fun habout => ⟨habout.1, fun b hb => habout.2 b (hsub b hb)⟩

/-- The FPGA answers a frame. -/
lemma LineInv.answer (h : LineInv size σ) {g : Bytes} {rest : List Bytes}
    (hline : σ.toFpga = g :: rest) (result : UInt8) :
    LineInv size { σ with
      toFpga := rest
      toHost := σ.toHost ++ [⟨result, packetOf g⟩]
      accepted := if result = dataReceivedOk then packetOf g :: σ.accepted else σ.accepted } := by
  have hmono : ∀ p ∈ σ.accepted,
      p ∈ if result = dataReceivedOk then packetOf g :: σ.accepted else σ.accepted := by
    intro p hp
    split_ifs
    · exact List.mem_cons_of_mem _ hp
    · exact hp
  have hcases : ∀ a ∈ (σ.toHost ++ [⟨result, packetOf g⟩]) ++ σ.received,
      a = ⟨result, packetOf g⟩ ∨ a ∈ σ.toHost ++ σ.received := by
    intro a ha
    simp only [List.mem_append, List.mem_cons, List.not_mem_nil, or_false] at ha ⊢
    tauto
  refine ⟨fun a ha hpos => ?_, h.idle, h.busy, fun f hf => ?_⟩
  · rcases hcases a ha with rfl | hold
    · show packetOf g ∈ if result = dataReceivedOk then _ else _
      rw [if_pos hpos]
      exact List.mem_cons_self
    · exact hmono _ (h.accepted a hold hpos)
  · refine (h.waiting f hf).imp (hmono _) fun habout => ⟨fun f' hf' => ?_, fun a ha hpos => ?_⟩
    · exact habout.1 f' (by rw [hline]; exact List.mem_cons_of_mem g hf')
    · rcases hcases a ha with rfl | hold
      · exact habout.1 g (by rw [hline]; exact List.mem_cons_self)
      · exact habout.2 a hold hpos

/-- A step in order keeps the invariant. -/
lemma LineInv.step (h : LineInv size σ) {e : LineEvent} (hstep : Step env σ e σ')
    (hok : InOrder σ e) : LineInv size σ' := by
  cases e with
  | prepare => exact h.prepare hstep
  | discard =>
    simp only [Step, next] at hstep
    split at hstep
    · rename_i f hpc
      cases hstep
      refine ⟨fun a ha => ?_, nofun, ?_, nofun⟩
      · exact h.accepted a (List.mem_append_left _ (by simpa using ha))
      · rintro _ ⟨⟩
        exact h.busy f (by rw [hpc]; rfl)
    · cases hstep
  | send ok =>
    simp only [Step, next] at hstep
    split at hstep
    · rename_i f hpc
      cases ok with
      | false => exact h.finish (by rw [hpc]; rfl) hstep
      | true =>
        cases hstep
        refine ⟨h.accepted, nofun, ?_, ?_⟩
        · rintro _ ⟨⟩
          exact h.busy f (by rw [hpc]; rfl)
        · rintro _ ⟨⟩
          rw [InOrder, hpc] at hok
          refine hok.imp_right fun habout => ⟨?_, habout.2⟩
          intro g hg
          rcases List.mem_append.1 hg with hg | hg
          · exact habout.1 g hg
          · rw [List.mem_singleton.1 hg]
    · cases hstep
  | answer result =>
    simp only [Step, next] at hstep
    split at hstep
    · cases hstep
    · rename_i g rest hline
      cases hstep
      exact h.answer hline result
  | deliver =>
    simp only [Step, next] at hstep
    split at hstep
    · cases hstep
    · rename_i a rest hline
      cases hstep
      have hsame : σ.toHost ++ σ.received = a :: rest ++ σ.received := by rw [hline]
      have hmem : ∀ b ∈ rest ++ (σ.received ++ [a]), b ∈ σ.toHost ++ σ.received := by
        intro b hb
        rw [hsame]
        simp only [List.mem_append, List.mem_cons, List.not_mem_nil, or_false] at hb ⊢
        tauto
      refine ⟨fun b hb => h.accepted b (hmem b hb), h.idle, h.busy, fun f hf => ?_⟩
      exact (h.waiting f hf).imp_right fun habout =>
        ⟨habout.1, fun b hb => habout.2 b (hmem b hb)⟩
  | receive skipped =>
    simp only [Step, next] at hstep
    split at hstep
    · rename_i f a rest hpc hdrop
      exact (h.drop hdrop).finish (f := f) (by rw [hpc]; rfl) hstep
    · cases hstep
  | timeout =>
    simp only [Step, next] at hstep
    split at hstep
    · rename_i f hpc
      exact h.finish (f := f) (by rw [hpc]; rfl) hstep
    · cases hstep

/-! ### The credit -/

lemma prepareStep_not_past {c c' : Injector} {p : Prepared} (h : PrepareStep env c p c') :
    c'.task.currentPacketInSegment ≤ c.task.currentPacketInSegment := by
  cases h with
  | finished now _ => exact le_rfl
  | segmentDone _ _ => exact Nat.zero_le _
  | gaveUp t now ht => exact ht.le
  | frame _ _ _ _ _ _ _ => exact (opened_currentPacketInSegment c.task).le

/-- The host passes a packet only on a positive result. -/
lemma finishStep_past {c c' : Injector} {reply : Option Bytes} (h : FinishStep c reply c')
    (hpast : c.task.currentPacketInSegment < c'.task.currentPacketInSegment) :
    reply.bind (replyResult parseResult) = some dataReceivedOk := by
  cases h with
  | acked hok => exact hok
  | retry _ _ => exact absurd hpast (lt_irrefl _)
  | exhausted _ _ _ _ _ _ => exact absurd hpast (lt_irrefl _)

/-- An exchange that ends without a reply does not take the host past a packet. -/
lemma finish_none_not_past {f : Bytes} (hstep : σ.finish env f none = some σ') :
    ¬ Passes σ σ' := by
  intro hpast
  obtain ⟨tick, host, rfl, hfin⟩ := finish_inv hstep
  cases finishStep_past hfin hpast

/-- Whenever the host passes a packet, the FPGA has accepted it. -/
lemma LineInv.passes (h : LineInv size σ) {e : LineEvent} (hstep : Step env σ e σ')
    (hpast : Passes σ σ') : σ.current ∈ σ.accepted := by
  cases e with
  | prepare =>
    simp only [Step, next] at hstep
    split at hstep
    · split at hstep
      · rename_i hrun
        cases hstep
        exact absurd hpast (not_lt.2 (prepareStep_not_past (prepareStep_of_run hrun)))
      · rename_i hrun
        cases hstep
        exact absurd hpast (not_lt.2 (prepareStep_not_past (prepareStep_of_run hrun)))
      · cases hstep
    · cases hstep
  | discard =>
    simp only [Step, next] at hstep
    split at hstep
    · cases hstep
      exact absurd hpast (lt_irrefl _)
    · cases hstep
  | send ok =>
    simp only [Step, next] at hstep
    split at hstep
    · cases ok with
      | false => exact absurd hpast (finish_none_not_past hstep)
      | true =>
        cases hstep
        exact absurd hpast (lt_irrefl _)
    · cases hstep
  | answer result =>
    simp only [Step, next] at hstep
    split at hstep
    · cases hstep
    · cases hstep
      exact absurd hpast (lt_irrefl _)
  | deliver =>
    simp only [Step, next] at hstep
    split at hstep
    · cases hstep
    · cases hstep
      exact absurd hpast (lt_irrefl _)
  | receive skipped =>
    simp only [Step, next] at hstep
    split at hstep
    · rename_i f a rest hpc hdrop
      obtain ⟨tick, host, rfl, hfin⟩ := finish_inv hstep
      have hresult := finishStep_past hfin hpast
      have hpos : a.result = dataReceivedOk :=
        Option.some.inj ((ackResult_answer a).symm.trans hresult)
      have ha : a ∈ σ.toHost ++ σ.received := by
        refine List.mem_append_right _ (List.mem_of_mem_drop (i := skipped) ?_)
        rw [hdrop]
        exact List.mem_cons_self
      have hcur := (h.busy f (by rw [hpc]; rfl)).2
      rcases h.waiting f hpc with hmem | habout
      · rwa [hcur] at hmem
      · -- the answer is about the current packet
        have hacc := h.accepted a ha hpos
        rwa [habout.2 a ha hpos, hcur] at hacc
    · cases hstep
  | timeout =>
    simp only [Step, next] at hstep
    split at hstep
    · exact absurd hpast (finish_none_not_past hstep)
    · cases hstep

/-! ### Frames sent out of order -/

/-- From the given state the host can come to pass a packet that the FPGA has not accepted. -/
def CanMiscredit (env : Env) (σ : Line) : Prop :=
  ∃ (l : List LineEvent) (τ τ' : Line) (e : LineEvent), Run (Step env) σ l τ ∧ Step env τ e τ' ∧
    Passes τ τ' ∧ τ.current ∉ τ.accepted

lemma CanMiscredit.before {e : LineEvent} (hstep : Step env σ e σ') (h : CanMiscredit env σ') :
    CanMiscredit env σ := by
  obtain ⟨l, τ, τ', e', hrun, hlast, hpast, hnot⟩ := h
  exact ⟨e :: l, τ, τ', e', .cons hstep hrun, hlast, hpast, hnot⟩

/-- A positive answer that the host reads takes it past the current packet. -/
lemma finish_positive (env : Env) (f : Bytes) {a : Answer} (ha : a.result = dataReceivedOk)
    (σ : Line) : ∃ σ', σ.finish env f (some a.frame) = some σ' ∧ Passes σ σ' := by
  have hresult : ackResult .dataAck (some a.frame) = some dataReceivedOk := by
    rw [ackResult_answer, ha]
  -- the exceptional postcondition is false, so that the handler is known to end
  have hwp : wp (finishData env ((some a.frame).filter (expected .dataAck)))
      (fun _ => FinishStep (σ.host.log (.exchange f (some a.frame)))
        ((some a.frame).filter (expected .dataAck)))
      (fun _ => False) (σ.host.log (.exchange f (some a.frame))) := wp_finishData _
  have hstep := hwp σ.tick
  unfold Line.finish
  split
  · rename_i ok tick host hrun
    rw [hrun] at hstep
    refine ⟨_, rfl, ?_⟩
    cases hstep.1 ok rfl with
    | acked _ => exact Nat.lt_succ_self _
    | retry hne _ => exact absurd hresult hne
    | exhausted _ _ _ hne _ _ => exact absurd hresult hne
  · rename_i hrun
    rw [hrun] at hstep
    exact (hstep.2 rfl).elim

/-- While the host waits, any positive answer that is under way can be credited to the current
packet. -/
lemma canMiscredit_of_answer {f : Bytes} {toHost : List Answer} {a : Answer}
    (hline : σ.toHost = toHost) (hpc : σ.pc = .waiting f) (ha : a ∈ toHost ++ σ.received)
    (hpos : a.result = dataReceivedOk) (hnot : σ.current ∉ σ.accepted) :
    CanMiscredit env σ := by
  induction toHost generalizing σ with
  | nil =>
    obtain ⟨front, rest, hsplit⟩ := List.append_of_mem ha
    have hdrop : σ.received.drop front.length = a :: rest := by
      rw [← List.nil_append σ.received, hsplit, List.drop_left]
    obtain ⟨σ', hfinish, hpast⟩ := finish_positive env f hpos { σ with received := rest }
    refine ⟨[], σ, σ', .receive front.length, .nil σ, ?_, hpast, hnot⟩
    simp only [Step, next, hpc, hdrop]
    exact hfinish
  | cons b toHost ih =>
    have hstep : Step env σ .deliver
        { σ with toHost := toHost, received := σ.received ++ [b] } := by
      simp only [Step, next, hline]
    refine .before hstep (ih rfl hpc ?_ hnot)
    simp only [List.mem_append, List.mem_cons, List.not_mem_nil, or_false] at ha ⊢
    tauto

/-- While the host waits, a frame of another packet on its way to the FPGA can be accepted in
place of the current one. -/
lemma canMiscredit_of_frame {f g : Bytes} {toFpga : List Bytes} (hline : σ.toFpga = toFpga)
    (hpc : σ.pc = .waiting f) (hg : g ∈ toFpga) (hother : packetOf g ≠ σ.current)
    (hnot : σ.current ∉ σ.accepted) : CanMiscredit env σ := by
  induction toFpga generalizing σ with
  | nil => cases hg
  | cons b toFpga ih =>
    rcases List.mem_cons.1 hg with rfl | hg
    · have hstep : Step env σ (.answer dataReceivedOk) { σ with
          toFpga := toFpga
          toHost := σ.toHost ++ [⟨dataReceivedOk, packetOf g⟩]
          accepted := packetOf g :: σ.accepted } := by
        simp only [Step, next, hline, if_true]
      refine .before hstep (canMiscredit_of_answer (a := ⟨dataReceivedOk, packetOf g⟩) rfl hpc
        ?_ rfl ?_)
      · exact List.mem_append_left _ (List.mem_append_right _ List.mem_cons_self)
      · show σ.current ∉ packetOf g :: σ.accepted
        rw [List.mem_cons, not_or]
        exact ⟨hother.symm, hnot⟩
    · -- the frames before it are refused
      have hrefused : (0xFF : UInt8) ≠ dataReceivedOk := by decide
      have hstep : Step env σ (.answer 0xFF) { σ with
          toFpga := toFpga
          toHost := σ.toHost ++ [⟨0xFF, packetOf b⟩] } := by
        simp only [Step, next, hline, if_neg hrefused]
      exact .before hstep (ih rfl hpc hg hother hnot)

/-- After a frame that is sent out of order, a packet can be passed that was not accepted. -/
lemma LineInv.canMiscredit (h : LineInv size σ) {e : LineEvent} (hstep : Step env σ e σ')
    (hbad : ¬ InOrder σ e) : CanMiscredit env σ' := by
  cases e with
  | send ok =>
    cases ok with
    | false => exact absurd trivial hbad
    | true =>
      simp only [Step, next] at hstep
      split at hstep
      · rename_i f hpc
        cases hstep
        rw [InOrder, hpc] at hbad
        obtain ⟨hnot, habout⟩ := not_or.1 hbad
        have hcur := (h.busy f (by rw [hpc]; rfl)).2
        rw [hcur] at hnot habout
        rcases not_and_or.1 habout with hframes | hanswers
        · push Not at hframes
          obtain ⟨g, hg, hother⟩ := hframes
          exact canMiscredit_of_frame rfl rfl (List.mem_append_left _ hg) hother hnot
        · push Not at hanswers
          obtain ⟨a, ha, hpos, -⟩ := hanswers
          exact canMiscredit_of_answer rfl rfl ha hpos hnot
      · cases hstep
  | prepare | discard | answer result | deliver | receive skipped | timeout =>
    exact absurd trivial hbad

/-- In every run in which each data frame is sent in order, the host passes a packet only after
the FPGA has accepted it; and after the first frame that is not sent in order it can pass one
that the FPGA has not accepted. -/
theorem passed_only_if_accepted {σ₀ : Line} (h : LineStarted σ₀) {l : List LineEvent}
    (hrun : Run (restrict (Step env) InOrder) σ₀ l σ) {e : LineEvent} (hstep : Step env σ e σ') :
    (Passes σ σ' → σ.current ∈ σ.accepted) ∧ (¬ InOrder σ e → CanMiscredit env σ') := by
  have hinv : LineInv σ₀.host.task.metadata.fileSize σ :=
    hrun.invariant (I := LineInv σ₀.host.task.metadata.fileSize)
      (fun _ _ _ hI hs => hI.step hs.1 hs.2) h.inv
  exact ⟨hinv.passes hstep, hinv.canMiscredit hstep⟩

/-! ### Runs that can be computed -/

/-- The steps that are taken in order. -/
def nextInOrder (env : Env) (σ : Line) (e : LineEvent) : Option Line :=
  if InOrder σ e then next env σ e else none

lemma run_of_foldlM {l : List LineEvent} {σ : Line} (h : l.foldlM (next env) σ = some σ') :
    Run (Step env) σ l σ' :=
  Run.of_foldlM (fun _ _ _ hstep => hstep) h

lemma run_of_foldlM_inOrder {l : List LineEvent} {σ : Line}
    (h : l.foldlM (nextInOrder env) σ = some σ') :
    Run (restrict (Step env) InOrder) σ l σ' := by
  refine Run.of_foldlM (fun σ e σ₁ hstep => ?_) h
  obtain ⟨hok, hnext⟩ := Option.ite_none_right_eq_some.1 hstep
  exact ⟨hnext, hok⟩

/-! ### Two packets -/

/-- A task that is about to send a file of two packets. -/
def twoPacketTask : Task where
  state := .transferData
  metadata := ⟨0xF0, 0x01, 1500, by decide⟩
  totalSegments := 1
  currentSegment := 0
  totalPacketsInSegment := 0
  currentPacketInSegment := 0
  segmentOffset := 0
  fileChecksum := 0
  binFp := some 0
  lastActivity := 0
  retryCount := 0
  maxRetries := 3
  inProgress := true

/-- A file of two packets. -/
def twoPacketEnv : Env :=
  quietEnv ⟨List.replicate 1500 0, 1500, List.length_replicate⟩ twoPacketTask.metadata
    fun _ => none

/-- The line before the transfer of the two packets. -/
def twoPacketLine : Line where
  host := ⟨twoPacketTask, 0, []⟩
  tick := 0
  pc := .idle
  toFpga := []
  toHost := []
  received := []
  accepted := []

lemma twoPacketLine_started : LineStarted twoPacketLine :=
  ⟨⟨rfl, rfl, rfl, rfl, rfl⟩, rfl, rfl, rfl, rfl⟩

/-- The first packet is sent and answered. -/
def promptAnswer : List LineEvent := [.prepare, .discard, .send true, .answer 0x00, .deliver]

lemma promptAnswer_credited :
    ((promptAnswer.foldlM (nextInOrder twoPacketEnv) twoPacketLine).bind fun σ =>
      (next twoPacketEnv σ (.receive 0)).map fun σ' =>
        decide (Passes σ σ')) = some true := by
  decide +kernel

theorem passed_only_if_accepted_promptAnswer :
    ∃ σ σ' : Line, Passes σ σ' ∧ Run (Step twoPacketEnv) twoPacketLine promptAnswer σ ∧
      σ.current ∈ σ.accepted := by
  obtain ⟨σ, hrun, hnext⟩ := Option.bind_eq_some_iff.1 promptAnswer_credited
  obtain ⟨σ', hstep, hdecide⟩ := Option.map_eq_some_iff.1 hnext
  have hpast : Passes σ σ' := of_decide_eq_true hdecide
  have hrun := run_of_foldlM_inOrder hrun
  exact ⟨σ, σ', hpast, hrun.of_restrict,
    (passed_only_if_accepted (e := .receive 0) twoPacketLine_started hrun hstep).1 hpast⟩

/-- The first packet is sent twice, since the host has given up waiting before the FPGA answers.
The FPGA accepts both frames, and its second answer arrives when the host has discarded its input
and sent the second packet. -/
def lateAnswer : List LineEvent :=
  [.prepare, .discard, .send true, .timeout, .prepare, .discard, .send true, .answer 0x00,
    .deliver, .receive 0, .answer 0x00, .prepare, .discard, .send true, .deliver]

lemma lateAnswer_credited :
    ((lateAnswer.foldlM (next twoPacketEnv) twoPacketLine).bind fun σ =>
      (next twoPacketEnv σ (.receive 0)).map fun σ' =>
        decide (Passes σ σ' ∧ σ.current ∉ σ.accepted)) = some true := by
  decide +kernel

/-- The late answer is credited to the second packet, which the FPGA has not received yet. -/
theorem late_answer_credited :
    ¬ ∀ (env : Env) (σ₀ σ σ' : Line) (l : List LineEvent) (e : LineEvent), LineStarted σ₀ →
      Run (Step env) σ₀ l σ → Step env σ e σ' → Passes σ σ' → σ.current ∈ σ.accepted := by
  intro hclaim
  obtain ⟨σ, hrun, hnext⟩ := Option.bind_eq_some_iff.1 lateAnswer_credited
  obtain ⟨σ', hstep, hdecide⟩ := Option.map_eq_some_iff.1 hnext
  obtain ⟨hpast, hnot⟩ := of_decide_eq_true hdecide
  exact hnot (hclaim twoPacketEnv twoPacketLine σ σ' lateAnswer (.receive 0)
    twoPacketLine_started (run_of_foldlM hrun) hstep hpast)

end AntennaMgmt.Inject
