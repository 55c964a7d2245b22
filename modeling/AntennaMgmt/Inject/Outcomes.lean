import AntennaMgmt.Inject.Record
import Mathlib.Data.List.Forall2

/-!
# The outcomes of the handlers

A handler other than that of the data leaves the state as it is, gives up, or advances to the
next state.  To advance it needs evidence: the exchange in which the FPGA said what the handler
waits for.
-/

namespace AntennaMgmt.Inject

open AntennaMgmt.Lib AntennaMgmt.Rs422

/-- What the FPGA has to acknowledge for an upload. -/
inductive Need
  | start
  | data (s k : ℕ)
  | finish
  | reconfigured
deriving DecidableEq

/-- `n.Met e`: in the exchange `e` the FPGA acknowledged what is needed, in a reply with a valid
checksum, the command code waited for and the result byte of success. -/
def Need.Met : Need → Event → Prop
  | .start, .exchange f reply => apidOf f = apidControl ∧
      wordOf f = Cmd.transferStart.code ∧ ackResult .transferStartAck reply = some transferReady
  | .data s k, .exchange f reply => apidOf f = apidFileData ∧ packetOf f = (s, k) ∧
      ackResult .dataAck reply = some dataReceivedOk
  | .finish, .exchange f reply => apidOf f = apidControl ∧
      wordOf f = Cmd.transferEnd.code ∧ ackResult .transferEndAck reply = some transferCompleteOk
  | .reconfigured, .exchange f reply => apidOf f = apidControl ∧
      wordOf f = Cmd.reconfigQuery.code ∧ ackResult .reconfigAck reply = some reconfigSuccess
  | _, _ => False

/-- `Shows trace needs`: the needs were met in exchanges of the record, in this order. -/
def Shows (trace : List Event) (needs : List Need) : Prop :=
  ∃ l, l.Sublist trace ∧ List.Forall₂ Need.Met needs l

lemma Shows.append {tr tr' : List Event} {needs needs' : List Need} (h : Shows tr needs)
    (h' : Shows tr' needs') : Shows (tr ++ tr') (needs ++ needs') := by
  obtain ⟨l, hl, hmet⟩ := h
  obtain ⟨l', hl', hmet'⟩ := h'
  exact ⟨l ++ l', hl.append hl', List.rel_append hmet hmet'⟩

lemma shows_nil (tr : List Event) : Shows tr [] := ⟨[], List.nil_sublist tr, .nil⟩

lemma Shows.more {tr : List Event} {needs : List Need} (h : Shows tr needs) (es : List Event) :
    Shows (tr ++ es) needs := by
  have happ := h.append (shows_nil es)
  rwa [List.append_nil] at happ

lemma shows_singleton {n : Need} {e : Event} (h : n.Met e) : Shows [e] [n] :=
  ⟨[e], List.Sublist.refl _, .cons h .nil⟩

/-- What a handler has to bring to enter a state. -/
def Gained (c c' : Injector) (es : List Event) : InjectionState → Prop
  | .transferStart => c'.task.totalSegments = totalSegmentsOf c'.task.metadata.fileSize
  | .transferData => c'.task.metadata = c.task.metadata ∧
      c'.task.totalSegments = c.task.totalSegments ∧ c'.task.currentSegment = 0 ∧
      c'.task.currentPacketInSegment = 0 ∧ c'.task.retryCount = 0 ∧ Shows es [.start]
  | .reconfigStart => c'.task.metadata = c.task.metadata ∧
      c'.task.totalSegments = c.task.totalSegments ∧ Shows es [.finish]
  | .reconfigPolling => c'.task.metadata = c.task.metadata ∧
      c'.task.totalSegments = c.task.totalSegments
  | .completed => c'.task.metadata = c.task.metadata ∧
      c'.task.totalSegments = c.task.totalSegments ∧ Shows es [.reconfigured]
  | _ => False

/-- The state that follows a state when its handler succeeds. -/
def InjectionState.successor : InjectionState → Option InjectionState
  | .parsingMetadata => some .transferStart
  | .transferStart => some .transferData
  | .transferData => some .transferEnd
  | .transferEnd => some .reconfigStart
  | .reconfigStart => some .reconfigPolling
  | .reconfigPolling => some .completed
  | _ => none

/-- `HandlerStep c c'`: a call of a handler, other than that of the data, can get from `c` to
`c'`. -/
inductive HandlerStep (c c' : Injector) : Prop
  | stays (es : List Event) : (∀ e ∈ es, Event.Control e) → c'.trace = c.trace ++ es →
      c'.task = c.task → HandlerStep c c'
  | fails (es : List Event) : (∀ e ∈ es, Event.Control e) →
      c'.trace = c.trace ++ es ++ [.entered .failed] → c'.task.state = .failed → HandlerStep c c'
  | advances (es : List Event) (s : InjectionState) : (∀ e ∈ es, Event.Control e) →
      c'.trace = c.trace ++ es ++ [.entered s] → c.task.state.successor = some s →
      c'.task.state = s → Gained c c' es s → HandlerStep c c'

variable {env : Env} {c : Injector} {R : Injector → Prop}

lemma control_singleton {e : Event} (h : Event.Control e) : ∀ e' ∈ [e], Event.Control e' := by
  intro e' he'
  rw [List.mem_singleton.1 he']
  exact h

lemma control_append {es es' : List Event} (h : ∀ e ∈ es, Event.Control e)
    (h' : ∀ e ∈ es', Event.Control e) : ∀ e ∈ es ++ es', Event.Control e := by
  intro e he
  rcases List.mem_append.1 he with he | he
  · exact h e he
  · exact h' e he

/-- A command frame that is no announcement. -/
def Commands (cmd : Cmd) (f : Bytes) : Prop := apidOf f = apidControl ∧ wordOf f = cmd.code

lemma Commands.control {cmd : Cmd} {f : Bytes} (h : Commands cmd f)
    (hcmd : cmd.code ≠ Cmd.uploadNotify.code) (reply : Option Bytes) :
    Event.Control (.exchange f reply) :=
  ⟨h.1, by rwa [h.2]⟩

/-! ### Metadata -/

lemma wp_handleParsingMetadata (h : c.task.state = .parsingMetadata) :
    wp (handleParsingMetadata env) (fun _ => HandlerStep c) R c := by
  have hfail (t : Task) (now : ℤ) : HandlerStep c ({ c with task := t }.enter .failed now) :=
    .fails [] nofun (by rw [List.append_nil]; rfl) rfl
  refine wp_bind (wp_ask fun n => ?_)
  cases env.metadata n with
  | none => exact wp_failWith fun now => hfail c.task now
  | some metadata =>
    refine wp_bind (wp_setTask (wp_bind (wp_ask fun n => ?_)))
    split
    · exact wp_failWith (hfail _)
    refine wp_bind (wp_setTask (wp_bind (wp_ask fun n => ?_)))
    split
    · exact wp_failWith (hfail _)
    refine wp_bind (wp_ask fun n => ?_)
    split
    · exact wp_failWith (hfail _)
    refine wp_bind (wp_ask fun n => ?_)
    split
    · exact wp_failWith (hfail _)
    refine wp_bind (wp_setTask (wp_bind (wp_transitionState fun now => wp_pure ?_)))
    exact .advances [] .transferStart nofun (by rw [List.append_nil]; rfl) (by rw [h]; rfl) rfl rfl

/-! ### Start of the transfer -/

/-- The polling of the start has added control events to the record and changed no field. -/
def Polled (c c' : Injector) (es : List Event) : Prop :=
  (∀ e ∈ es, Event.Control e) ∧ c'.trace = c.trace ++ es ∧ c'.task = c.task

lemma Polled.refl (c : Injector) : Polled c c [] :=
  ⟨nofun, (List.append_nil _).symm, rfl⟩

lemma Polled.log {c c' : Injector} {es : List Event} (h : Polled c c' es) {e : Event}
    (he : Event.Control e) : Polled c (c'.log e) (es ++ [e]) :=
  ⟨control_append h.1 (control_singleton he), by
    rw [Injector.log, h.2.1, List.append_assoc], h.2.2⟩

/-- A polled injector that gives up. -/
lemma Polled.fails {c c' : Injector} {es : List Event} (h : Polled c c' es) (t : Task) (now : ℤ) :
    HandlerStep c ({ c' with task := t }.enter .failed now) :=
  .fails es h.1 (by rw [← h.2.1]; rfl) rfl

lemma Polled.stays {c c' : Injector} {es : List Event} (h : Polled c c' es) : HandlerStep c c' :=
  .stays es h.1 h.2.1 h.2.2

/-- How the polling of the start can end: in a failure, or with a result that the FPGA gave in
the last exchange. -/
def PollEnd (c : Injector) : Option UInt8 → Injector → Prop
  | none, c' => HandlerStep c c'
  | some result, c' => ∃ es f reply, Polled c c' (es ++ [.exchange f reply]) ∧
      Commands .transferStart f ∧ ackResult .transferStartAck reply = some result

lemma wp_pollTransferStart {c₀ : Injector} {es : List Event} (h : Polled c₀ c es) {f : Bytes}
    (hf : Commands .transferStart f) (startTime : ℤ) :
    wp (pollTransferStart env f startTime) (fun r c' => match r with
      | some r => PollEnd c₀ r c'
      | none => ∃ es, Polled c₀ c' es) R c := by
  have hctl (reply : Option Bytes) := hf.control (by decide) reply
  refine wp_bind (wp_ask fun n => ?_)
  split
  · exact wp_bind (wp_transitionState fun now => wp_pure (h.fails c.task now))
  refine wp_bind (wp_ask fun n => ?_)
  split
  · exact wp_bind (wp_transitionState fun now => wp_pure (h.fails c.task now))
  refine wp_bind (wp_uartRs422SendAndWait fun reply => ?_)
  have hlog := h.log (hctl reply)
  cases haccepted : reply.filter (expected .transferStartAck) with
  | none => exact wp_bind (wp_interruptibleSleep (wp_pure ⟨_, hlog⟩))
  | some r =>
    dsimp only
    split
    · exact wp_bind (wp_interruptibleSleep (wp_pure ⟨_, hlog⟩))
    · rename_i result hresult
      split
      · exact wp_bind (wp_interruptibleSleep (wp_pure ⟨_, hlog⟩))
      · refine wp_pure ⟨es, f, reply, hlog, hf, ?_⟩
        rw [ackResult, haccepted]
        exact hresult

lemma wp_beginTransfer (h : c.task.state = .transferStart) {c' : Injector} {es : List Event}
    {f : Bytes} {reply : Option Bytes} {result : UInt8}
    (hpolled : Polled c c' (es ++ [.exchange f reply])) (hf : Commands .transferStart f)
    (hack : ackResult .transferStartAck reply = some result) :
    wp (beginTransfer env result) (fun _ => HandlerStep c) R c' := by
  unfold beginTransfer
  split
  · exact wp_failWith (hpolled.fails c'.task)
  rename_i hready
  rw [not_not.1 hready] at hack
  refine wp_bind (wp_ask fun n => ?_)
  split
  · exact wp_bind (wp_setTask (wp_failWith (hpolled.fails _)))
  refine wp_bind (wp_setTask (wp_bind (wp_interruptibleSleep (wp_bind (wp_ask fun n => ?_)))))
  split
  · exact wp_failWith (hpolled.fails _)
  refine wp_bind (wp_setTask (wp_bind (wp_transitionState fun now => wp_pure ?_)))
  obtain ⟨hctl, htrace, htask⟩ := hpolled
  refine .advances _ .transferData hctl (by rw [← htrace]; rfl) (by rw [h]; rfl) rfl ?_
  have hmetadata : c'.task.metadata = c.task.metadata := by rw [htask]
  have htotal : c'.task.totalSegments = c.task.totalSegments := by rw [htask]
  refine ⟨hmetadata, htotal, rfl, rfl, rfl, ?_⟩
  exact (shows_nil es).append (shows_singleton ⟨hf.1, hf.2, hack⟩)

lemma wp_handleTransferStart (h : c.task.state = .transferStart) (fuel : ℕ) :
    wp (handleTransferStart env fuel) (fun _ => HandlerStep c) (HandlerStep c) c := by
  refine wp_bind (wp_getTask (wp_bind (wp_encode (fun _ => ?_) fun f seq hbuild => ?_)))
  · exact wp_failWith ((Polled.refl c).fails c.task)
  · obtain ⟨hapid, hword, -⟩ := rs422EncodeFrame_fields hbuild
    have hf : Commands .transferStart f := ⟨hapid, by rw [hword]; rfl⟩
    refine wp_bind (wp_ask fun n => wp_bind ?_)
    refine wp_repeatUntil (I := fun c' => ∃ es, Polled c c' es) ?_ ?_ fuel
      ⟨[], nofun, (List.append_nil _).symm, rfl⟩
    · rintro c' ⟨es, hpolled⟩
      refine wp_mono (wp_pollTransferStart hpolled hf _) ?_ fun _ h => h
      intro r c'' hr
      rcases r with _ | _ | result
      · exact hr
      · exact wp_pure hr
      · obtain ⟨es, f, reply, hpolled, hf, hack⟩ := hr
        exact wp_beginTransfer h hpolled hf hack
    · rintro c' ⟨es, hpolled⟩
      exact hpolled.stays

/-! ### End of the transfer and reconfiguration -/

lemma wp_handleTransferEnd (h : c.task.state = .transferEnd) :
    wp (handleTransferEnd env) (fun _ => HandlerStep c) R c := by
  refine wp_bind (wp_setTask (wp_bind (wp_encode (fun _ => ?_) fun f seq hbuild => ?_)))
  · exact wp_failWith ((Polled.refl c).fails _)
  obtain ⟨hapid, hword, -⟩ := rs422EncodeFrame_fields hbuild
  have hf : Commands .transferEnd f := ⟨hapid, by rw [hword]; rfl⟩
  refine wp_bind (wp_uartRs422SendAndWait fun reply => ?_)
  have hctl := control_singleton (hf.control (by decide) reply)
  have hfail (t : Task) (seq : ℕ) (es : List Event) (hes : ∀ e ∈ es, Event.Control e) (now : ℤ) :
      HandlerStep c ({ c with
        task := t
        seqCounter := seq
        trace := c.trace ++ [Event.exchange f reply] ++ es }.enter .failed now) :=
    .fails ([Event.exchange f reply] ++ es) (control_append hctl hes)
      (by rw [← List.append_assoc]; rfl) rfl
  have hfail' (t : Task) (now : ℤ) :
      HandlerStep c (({ c with task := t, seqCounter := seq }.log (.exchange f reply)).enter
        .failed now) :=
    .fails [.exchange f reply] hctl rfl rfl
  cases haccepted : reply.filter (expected .transferEndAck) with
  | none => exact wp_failWith (hfail' _)
  | some r =>
    dsimp only
    split
    · exact wp_failWith (hfail' _)
    rename_i result hresult
    split
    · exact wp_bind (wp_sendTransferAbort fun ok seq es hes => wp_failWith fun now =>
        hfail _ seq es hes now)
    rename_i hok
    refine wp_bind (wp_transitionState fun now => wp_pure ?_)
    refine .advances _ .reconfigStart hctl rfl (by rw [h]; rfl) rfl ⟨rfl, rfl, shows_singleton ?_⟩
    refine ⟨hf.1, hf.2, ?_⟩
    rw [ackResult, haccepted, ← not_not.1 hok]
    exact hresult

lemma wp_handleReconfigStart (h : c.task.state = .reconfigStart) :
    wp (handleReconfigStart env) (fun _ => HandlerStep c) R c := by
  refine wp_bind (wp_getTask (wp_bind (wp_encode (fun _ => ?_) fun f seq hbuild => ?_)))
  · exact wp_failWith ((Polled.refl c).fails _)
  obtain ⟨hapid, hword, -⟩ := rs422EncodeFrame_fields hbuild
  have hctl : ∀ e ∈ [Event.sent f], Event.Control e :=
    control_singleton ⟨hapid, by rw [hword]; decide⟩
  refine wp_bind (wp_uartRs422SendFrame fun ok => ?_)
  split
  · exact wp_failWith fun now => .fails _ hctl rfl rfl
  refine wp_bind (wp_ask fun n => wp_bind (wp_setTask (wp_bind (wp_transitionState fun now =>
    wp_pure ?_))))
  exact .advances _ .reconfigPolling hctl rfl (by rw [h]; rfl) rfl ⟨rfl, rfl⟩

lemma wp_handleReconfigPolling (h : c.task.state = .reconfigPolling) :
    wp (handleReconfigPolling env) (fun _ => HandlerStep c) R c := by
  refine wp_bind (wp_getTask (wp_bind (wp_ask fun n => ?_)))
  split
  · exact wp_failWith ((Polled.refl c).fails _)
  refine wp_bind (wp_encode (fun _ => ?_) fun f seq hbuild => ?_)
  · exact wp_pure (Polled.refl c).stays
  obtain ⟨hapid, hword, -⟩ := rs422EncodeFrame_fields hbuild
  have hf : Commands .reconfigQuery f := ⟨hapid, by rw [hword]; rfl⟩
  refine wp_bind (wp_uartRs422SendAndWait fun reply => ?_)
  have hctl := control_singleton (hf.control (by decide) reply)
  have hstay : HandlerStep c ({ c with seqCounter := seq }.log (.exchange f reply)) :=
    .stays _ hctl rfl rfl
  cases haccepted : reply.filter (expected .reconfigAck) with
  | none => exact wp_bind (wp_interruptibleSleep (wp_pure hstay))
  | some r =>
    dsimp only
    split
    · exact wp_bind (wp_interruptibleSleep (wp_pure hstay))
    rename_i result hresult
    split
    · rename_i hok
      refine wp_bind (wp_transitionState fun now => wp_pure ?_)
      refine .advances _ .completed hctl rfl (by rw [h]; rfl) rfl ⟨rfl, rfl, shows_singleton ?_⟩
      refine ⟨hf.1, hf.2, ?_⟩
      rw [ackResult, haccepted, ← hok]
      exact hresult
    · split
      · exact wp_bind (wp_interruptibleSleep (wp_pure hstay))
      · exact wp_failWith fun now => .fails _ hctl rfl rfl

end AntennaMgmt.Inject
