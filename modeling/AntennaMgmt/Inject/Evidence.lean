import AntennaMgmt.Inject.Outcomes
import AntennaMgmt.Inject.Sending
import Mathlib.Data.List.Chain

/-!
# The evidence behind a completed injection

In every run of the injection thread the upload is announced before every other frame and its end
after every other frame, the states are entered along the path from PARSING_METADATA to COMPLETED
or left for FAILED, and COMPLETED is entered only on the acknowledgements of the FPGA.  The last
holds for the files whose number of segments does not wrap around in 32 bits.
-/

namespace AntennaMgmt.Inject

open AntennaMgmt.Lib AntennaMgmt.Rs422

/-! ### Announcements and states -/

/-- A frame of `send_upload_notify`. -/
def Announces (f : Bytes) : Prop := Commands .uploadNotify f

/-- The frame that announces the start of the upload, or its end. -/
def Announcement (notifyCode : UInt8) (f : Bytes) : Prop :=
  Announces f ∧ dataOf f = [notifyCode, uploadNotifyFiller]

/-- The frames of a run that is going on: the announcement of the start stands first, and there
is no other. -/
def Announcing (trace : List Event) : Prop :=
  ∃ pre rest, sentFrames trace = pre :: rest ∧ Announcement uploadNotifyPre pre ∧
    ∀ f ∈ rest, ¬ Announces f

/-- The frames of a run that has ended: the announcements stand first and last and nowhere
else. -/
def Announced (trace : List Event) : Prop :=
  ∃ pre mid post, sentFrames trace = pre :: mid ++ [post] ∧ Announcement uploadNotifyPre pre ∧
    Announcement uploadNotifyPost post ∧ ∀ f ∈ mid, ¬ Announces f

/-- The moves between states: to the next one, or to FAILED from a state that has a next one. -/
def Next (s s' : InjectionState) : Prop :=
  s.successor = some s' ∨ s.successor.isSome ∧ s' = .failed

/-- What the record of a running thread says: the announcement comes first, no other frame is an
announcement, and the states follow the path to the current one. -/
structure Recorded (c : Injector) : Prop where
  frames : Announcing c.trace
  chain : (.parsingMetadata :: statesOf c.trace).IsChain Next
  last : (.parsingMetadata :: statesOf c.trace).getLast? = some c.task.state

variable {env : Env} {c c' : Injector}

/-- Events that announce nothing. -/
def Discreet (es : List Event) : Prop := ∀ f ∈ sentFrames es, ¬ Announces f

lemma Recorded.extend (h : Recorded c) {es : List Event} (hes : Discreet es)
    (htrace : c'.trace = c.trace ++ es) (hstates : statesOf es = [])
    (hstate : c'.task.state = c.task.state) : Recorded c' := by
  obtain ⟨pre, rest, hframes, hpre, hrest⟩ := h.frames
  have hsame : statesOf c'.trace = statesOf c.trace := by
    rw [htrace, statesOf_append, hstates, List.append_nil]
  refine ⟨⟨pre, rest ++ sentFrames es, ?_, hpre, ?_⟩, ?_, ?_⟩
  · rw [htrace, sentFrames_append, hframes, List.cons_append]
  · intro f hf
    rcases List.mem_append.1 hf with hf | hf
    · exact hrest f hf
    · exact hes f hf
  · rw [hsame]
    exact h.chain
  · rw [hsame, hstate]
    exact h.last

lemma Recorded.enter (h : Recorded c) {es : List Event} (hes : Discreet es)
    {s : InjectionState} (htrace : c'.trace = c.trace ++ es ++ [.entered s])
    (hstates : statesOf es = []) (hstate : c'.task.state = s) (hnext : Next c.task.state s) :
    Recorded c' := by
  obtain ⟨pre, rest, hframes, hpre, hrest⟩ := h.frames
  have hcons : .parsingMetadata :: statesOf c'.trace =
      (.parsingMetadata :: statesOf c.trace) ++ [s] := by
    rw [htrace, statesOf_append, statesOf_append, hstates, List.append_nil, statesOf_entered,
      List.cons_append]
  refine ⟨⟨pre, rest ++ sentFrames es, ?_, hpre, ?_⟩, ?_, ?_⟩
  · rw [htrace, sentFrames_append, sentFrames_append, hframes, sentFrames_entered,
      List.append_nil, List.cons_append]
  · intro f hf
    rcases List.mem_append.1 hf with hf | hf
    · exact hrest f hf
    · exact hes f hf
  · rw [hcons]
    refine h.chain.append (List.isChain_singleton s) ?_
    intro x hx y hy
    rw [h.last] at hx
    cases hx
    cases hy
    exact hnext
  · rw [hcons, List.getLast?_concat, hstate]

lemma statesOf_control {es : List Event} (h : ∀ e ∈ es, Event.Control e) : statesOf es = [] := by
  refine List.filterMap_eq_nil_iff.2 fun e he => ?_
  have hctl := h e he
  cases e with
  | sent f => rfl
  | exchange f reply => rfl
  | entered s => exact hctl.elim

lemma discreet_control {es : List Event} (h : ∀ e ∈ es, Event.Control e) : Discreet es := by
  intro f hf hann
  obtain ⟨e, he, hframe⟩ := List.mem_filterMap.1 hf
  have hctl := h e he
  cases e with
  | sent g =>
    cases hframe
    exact hctl.2 hann.2
  | exchange g reply =>
    cases hframe
    exact hctl.2 hann.2
  | entered s => cases hframe

/-- A handler keeps the record in order. -/
lemma Recorded.handler (h : Recorded c) (hactive : c.task.state.successor.isSome)
    (hstep : HandlerStep c c') : Recorded c' := by
  cases hstep with
  | stays es hes htrace htask =>
    exact h.extend (discreet_control hes) htrace (statesOf_control hes) (by rw [htask])
  | fails es hes htrace hstate =>
    exact h.enter (discreet_control hes) htrace (statesOf_control hes) hstate
      (.inr ⟨hactive, rfl⟩)
  | advances es s hes htrace hsucc hstate _ =>
    exact h.enter (discreet_control hes) htrace (statesOf_control hes) hstate (.inl hsucc)

/-- A data frame announces nothing. -/
lemma discreet_data {f : Bytes} (hf : apidOf f = apidFileData) (reply : Option Bytes)
    {es : List Event} (hes : ∀ e ∈ es, Event.Control e) : Discreet (.exchange f reply :: es) := by
  intro g hg hann
  rcases List.mem_cons.1 hg with rfl | hg
  · have hne : apidFileData ≠ apidControl := by decide
    exact hne (hf.symm.trans hann.1)
  · exact discreet_control hes g hg hann

/-- A call of `handle_transfer_data` keeps the record in order. -/
lemma Recorded.data (h : Recorded c) (hstate : c.task.state = .transferData)
    (hstep : DataStep env c c') : Recorded c' := by
  have hfailed : Next c.task.state .failed := .inr ⟨by rw [hstate]; rfl, rfl⟩
  have hnil : Discreet [] := nofun
  cases hstep with
  | returned hprep =>
    cases hprep with
    | finished now _ =>
      exact h.enter hnil (by rw [List.append_nil]; rfl) rfl rfl (.inl (by rw [hstate]; rfl))
    | segmentDone _ _ =>
      exact h.extend hnil (List.append_nil _).symm rfl (opened_state c.task)
    | gaveUp t now _ => exact h.enter hnil (by rw [List.append_nil]; rfl) rfl rfl hfailed
  | @exchanged f _ _ reply hprep hfin =>
    cases hprep with
    | frame _ _ _ _ _ _ hbuild =>
      have hf := (rs422BuildFileData_fields hbuild).1
      have hone : Discreet [.exchange f reply] :=
        discreet_data hf reply fun e he => absurd he List.not_mem_nil
      cases hfin with
      | acked _ => exact h.extend hone rfl rfl (opened_state c.task)
      | retry _ _ => exact h.extend hone rfl rfl (opened_state c.task)
      | exhausted _ es _ _ _ hes =>
        have hstates : statesOf (.exchange f reply :: es) = [] :=
          show statesOf es = [] from statesOf_control hes
        refine h.enter (discreet_data hf reply hes) ?_ hstates rfl hfailed
        show c.trace ++ [.exchange f reply] ++ es ++ [.entered .failed] = _
        rw [List.append_assoc c.trace]
        rfl

/-! ### Evidence -/

/-- The metadata of the task have been parsed and the task has not failed. -/
def InjectionState.Underway (s : InjectionState) : Prop :=
  s ≠ .idle ∧ s ≠ .parsingMetadata ∧ s ≠ .failed

/-- The acknowledgements of packets. -/
def dataNeeds (packets : List (ℕ × ℕ)) : List Need := packets.map fun p => .data p.1 p.2

/-- What the FPGA has to acknowledge until the end of the data. -/
def uploadNeeds (size : ℕ) : List Need := .start :: dataNeeds (allPackets size)

/-- What the FPGA has to acknowledge for a completed injection: the start of the transfer, every
packet of every segment, the end of the transfer and the reconfiguration. -/
def evidence (size : ℕ) : List Need := uploadNeeds size ++ [.finish] ++ [.reconfigured]

/-- What the FPGA has acknowledged in a state. -/
def stageNeeds (t : Task) : List Need :=
  match t.state with
  | .transferData => .start :: dataNeeds
      (packetsBefore t.metadata.fileSize t.currentSegment t.currentPacketInSegment)
  | .transferEnd => uploadNeeds t.metadata.fileSize
  | .reconfigStart => uploadNeeds t.metadata.fileSize ++ [.finish]
  | .reconfigPolling => uploadNeeds t.metadata.fileSize ++ [.finish]
  | .completed => evidence t.metadata.fileSize
  | _ => []

/-- What the record shows of a running thread: for a file that is not too large the
acknowledgements that led to the state, and for a larger one that no data was sent at all. -/
structure Evidenced (c : Injector) : Prop where
  total : c.task.state.Underway →
    c.task.totalSegments = totalSegmentsOf c.task.metadata.fileSize
  sending : c.task.state = .transferData → c.task.metadata.fileSize ≤ maxFileSize →
    Sending c.task.metadata.fileSize c.task
  shows : c.task.metadata.fileSize ≤ maxFileSize → Shows c.trace (stageNeeds c.task)
  unsent : c.task.state = .parsingMetadata ∨ c.task.state = .transferStart ∨
    c.task.state.Underway ∧ maxFileSize < c.task.metadata.fileSize → dataFrames c.trace = []

/-- A failed task needs no evidence. -/
lemma evidenced_failed (h : c.task.state = .failed) : Evidenced c where
  total hun := absurd h hun.2.2
  sending hdata := by
    rw [h] at hdata
    cases hdata
  shows _ := by
    rw [stageNeeds, h]
    exact shows_nil _
  unsent hcase := by
    rw [h] at hcase
    rcases hcase with hcase | hcase | ⟨hun, -⟩
    · cases hcase
    · cases hcase
    · exact absurd rfl hun.2.2

lemma dataFrames_silent {tr es : List Event} (hes : Silent es) :
    dataFrames (tr ++ es) = dataFrames tr := by
  rw [dataFrames_append, hes.1, List.append_nil]

/-- A task that has advanced with the same metadata. -/
lemma Evidenced.advance (h : Evidenced c) {es : List Event} {s : InjectionState}
    (hes : ∀ e ∈ es, Event.Control e) (htrace : c'.trace = c.trace ++ es ++ [.entered s])
    (hstate : c'.task.state = s)
    (hs : s ≠ .transferData ∧ s ≠ .parsingMetadata ∧ s ≠ .transferStart)
    (hmetadata : c'.task.metadata = c.task.metadata)
    (htotal : c'.task.totalSegments = c.task.totalSegments) (hun : c.task.state.Underway)
    {needs : List Need} (hneeds : Shows es needs)
    (hstage : stageNeeds c'.task = stageNeeds c.task ++ needs) : Evidenced c' where
  total _ := by rw [htotal, hmetadata, h.total hun]
  sending hdata := absurd (hstate.symm.trans hdata) hs.1
  shows hsize := by
    rw [hmetadata] at hsize
    rw [hstage, htrace]
    exact ((h.shows hsize).append hneeds).more _
  unsent hcase := by
    rw [hstate, hmetadata] at hcase
    rw [htrace, List.append_assoc,
      dataFrames_silent ((silent_of_control hes).append (silent_entered s))]
    rcases hcase with hcase | hcase | ⟨-, hlarge⟩
    · exact absurd hcase hs.2.1
    · exact absurd hcase hs.2.2
    · exact h.unsent (.inr (.inr ⟨hun, hlarge⟩))

/-- A handler other than that of the data keeps the evidence. -/
lemma Evidenced.handler (h : Evidenced c) (hstep : HandlerStep c c') : Evidenced c' := by
  cases hstep with
  | stays es hes htrace htask =>
    have hstage : stageNeeds c'.task = stageNeeds c.task := by rw [htask]
    exact {
      total := by
        rw [htask]
        exact h.total
      sending := by
        rw [htask]
        exact h.sending
      shows := fun hsize => by
        rw [htask] at hsize
        rw [hstage, htrace]
        exact (h.shows hsize).more es
      unsent := fun hcase => by
        rw [htask] at hcase
        rw [htrace, dataFrames_silent (silent_of_control hes)]
        exact h.unsent hcase }
  | fails es _ _ hstate => exact evidenced_failed hstate
  | advances es s hes htrace hsucc hstate hgained =>
    have hdata : dataFrames c'.trace = dataFrames c.trace := by
      rw [htrace, List.append_assoc,
        dataFrames_silent ((silent_of_control hes).append (silent_entered s))]
    cases hold : c.task.state with
    | parsingMetadata =>
      rw [hold] at hsucc
      obtain rfl := Option.some.inj hsucc
      exact {
        total := fun _ => hgained
        sending := fun hnew => by
          rw [hstate] at hnew
          cases hnew
        shows := fun _ => by
          rw [stageNeeds, hstate]
          exact shows_nil _
        unsent := fun _ => hdata.trans (h.unsent (.inl hold)) }
    | transferStart =>
      rw [hold] at hsucc
      obtain rfl := Option.some.inj hsucc
      obtain ⟨hmetadata, htotal, hseg, hpkt, hretry, hstart⟩ := hgained
      have hun : c.task.state.Underway := by rw [hold]; exact ⟨nofun, nofun, nofun⟩
      have htotal' : c'.task.totalSegments = totalSegmentsOf c'.task.metadata.fileSize := by
        rw [htotal, hmetadata, h.total hun]
      exact {
        total := fun _ => htotal'
        sending := fun _ hsize => AtStart.sending ⟨hstate, htotal', hseg, hpkt, hretry⟩ hsize
        shows := fun _ => by
          rw [stageNeeds, hstate, htrace]
          dsimp only
          rw [hseg, hpkt]
          exact (((shows_nil c.trace).append hstart).more _)
        unsent := fun _ => hdata.trans (h.unsent (.inr (.inl hold))) }
    | transferEnd =>
      rw [hold] at hsucc
      obtain rfl := Option.some.inj hsucc
      obtain ⟨hmetadata, htotal, hfinish⟩ := hgained
      refine h.advance hes htrace hstate ⟨nofun, nofun, nofun⟩ hmetadata htotal
        (by rw [hold]; exact ⟨nofun, nofun, nofun⟩) hfinish ?_
      rw [stageNeeds, stageNeeds, hstate, hold, hmetadata]
    | reconfigStart =>
      rw [hold] at hsucc
      obtain rfl := Option.some.inj hsucc
      obtain ⟨hmetadata, htotal⟩ := hgained
      refine h.advance hes htrace hstate ⟨nofun, nofun, nofun⟩ hmetadata htotal
        (by rw [hold]; exact ⟨nofun, nofun, nofun⟩) (shows_nil es) ?_
      rw [stageNeeds, stageNeeds, hstate, hold, hmetadata, List.append_nil]
    | reconfigPolling =>
      rw [hold] at hsucc
      obtain rfl := Option.some.inj hsucc
      obtain ⟨hmetadata, htotal, hdone⟩ := hgained
      refine h.advance hes htrace hstate ⟨nofun, nofun, nofun⟩ hmetadata htotal
        (by rw [hold]; exact ⟨nofun, nofun, nofun⟩) hdone ?_
      rw [stageNeeds, stageNeeds, hstate, hold, hmetadata]
      rfl
    | transferData =>
      rw [hold] at hsucc
      obtain rfl := Option.some.inj hsucc
      exact hgained.elim
    | _ =>
      rw [hold] at hsucc
      cases hsucc

/-! ### The data -/

/-- The acknowledgement of one more packet. -/
lemma Shows.packet {tr : List Event} {size s k : ℕ}
    (h : Shows tr (.start :: dataNeeds (packetsBefore size s k))) {f : Bytes}
    {reply : Option Bytes} (hf : apidOf f = apidFileData) (hpacket : packetOf f = (s, k))
    (hok : ackResult .dataAck reply = some dataReceivedOk) :
    Shows (tr ++ [.exchange f reply]) (.start :: dataNeeds (packetsBefore size s (k + 1))) := by
  have hmet : (Need.data s k).Met (.exchange f reply) := ⟨hf, hpacket, hok⟩
  rw [packetsBefore_succ, dataNeeds, List.map_append]
  exact h.append (shows_singleton hmet)

/-- A file whose segments wrap around ends the transfer before any data is sent. -/
lemma Evidenced.data_large (h : Evidenced c) (hstate : c.task.state = .transferData)
    (hlarge : maxFileSize < c.task.metadata.fileSize) (hstep : DataStep env c c') :
    Evidenced c' := by
  have hun : c.task.state.Underway := by rw [hstate]; exact ⟨nofun, nofun, nofun⟩
  have hzero : c.task.totalSegments = 0 := by
    rw [h.total hun, totalSegmentsOf_wrapped c.task.metadata.fileSize_lt hlarge]
  have hunsent := h.unsent (.inr (.inr ⟨hun, hlarge⟩))
  cases hstep with
  | returned hprep =>
    cases hprep with
    | finished now _ =>
      exact {
        total := fun _ => h.total hun
        sending := nofun
        shows := fun hsize => absurd hsize (not_le.2 hlarge)
        unsent := fun _ => (dataFrames_silent (silent_entered _)).trans hunsent }
    | segmentDone hlt _ => omega
    | gaveUp t now _ => exact evidenced_failed rfl
  | exchanged reply hprep hfin =>
    cases hprep with
    | frame _ _ hlt _ _ _ _ => omega

/-- A task that sends packets has evidence when those before the next one are acknowledged. -/
lemma Sending.evidenced {size : ℕ} (h : Sending size c.task) (hsize : size ≤ maxFileSize)
    (hshows : Shows c.trace (.start :: dataNeeds
      (packetsBefore size c.task.currentSegment c.task.currentPacketInSegment))) :
    Evidenced c where
  total _ := by rw [h.total_eq, h.size_eq, totalSegmentsOf_eq hsize]
  sending _ _ := by
    rw [h.size_eq]
    exact h
  shows _ := by
    rw [stageNeeds, h.state_eq, h.size_eq]
    exact hshows
  unsent hcase := by
    rw [h.state_eq, h.size_eq] at hcase
    rcases hcase with hcase | hcase | ⟨-, hlarge⟩
    · cases hcase
    · cases hcase
    · exact absurd hsize (not_le.2 hlarge)

lemma Evidenced.data_small (h : Evidenced c) (hstate : c.task.state = .transferData)
    (hsmall : c.task.metadata.fileSize ≤ maxFileSize) (hstep : DataStep env c c') :
    Evidenced c' := by
  have hsend := h.sending hstate hsmall
  have hshows := h.shows hsmall
  rw [stageNeeds, hstate] at hshows
  dsimp only at hshows
  cases hstep with
  | returned hprep =>
    rcases hsend.prepare_returned hprep with
      ⟨hall, now, rfl⟩ | ⟨hseg, hpkt, hsend', rfl⟩ | ⟨t, now, -, rfl⟩
    · have hzero : c.task.currentPacketInSegment = 0 := by
        by_contra hne
        have hlt := (hsend.inSegment (Nat.pos_of_ne_zero hne)).1
        omega
      rw [hall, hzero] at hshows
      exact {
        total := fun _ => h.total (by rw [hstate]; exact ⟨nofun, nofun, nofun⟩)
        sending := nofun
        shows := fun _ => hshows.more _
        unsent := fun hcase => by
          rcases hcase with hcase | hcase | ⟨-, hlarge⟩
          · cases hcase
          · cases hcase
          · exact absurd hsmall (not_le.2 hlarge) }
    · rw [hpkt, packetsBefore_packetCount] at hshows
      refine hsend'.evidenced hsmall ?_
      show Shows c.trace (.start :: dataNeeds
        (packetsBefore _ (c.task.opened.currentSegment + 1) 0))
      rw [opened_currentSegment]
      exact hshows
    · exact evidenced_failed rfl
  | @exchanged f c₁ _ reply hprep hfin =>
    obtain ⟨hf, honline, hseg, hpkt, -, -, htrace⟩ := hsend.prepare_frame hprep
    have hpacket : packetOf f = (c.task.currentSegment, c.task.currentPacketInSegment) := by
      rw [packetOf, hf.segment, hf.packet]
    rcases OnLine.finish (c := c₁.log (.exchange f reply)) honline hfin with
      ⟨hok, hsend', rfl⟩ | ⟨-, hsend', -, rfl⟩ | ⟨-, hfailed, -⟩
    · refine hsend'.evidenced hsmall ?_
      show Shows (c₁.trace ++ [.exchange f reply]) (.start :: dataNeeds
        (packetsBefore _ c₁.task.currentSegment (c₁.task.currentPacketInSegment + 1)))
      rw [htrace, hseg, hpkt]
      exact hshows.packet hf.apid hpacket hok
    · refine hsend'.evidenced hsmall ?_
      show Shows (c₁.trace ++ [.exchange f reply]) (.start :: dataNeeds
        (packetsBefore _ c₁.task.currentSegment c₁.task.currentPacketInSegment))
      rw [htrace, hseg, hpkt]
      exact hshows.more _
    · exact evidenced_failed hfailed

/-- A call of `handle_transfer_data` keeps the evidence. -/
lemma Evidenced.data (h : Evidenced c) (hstate : c.task.state = .transferData)
    (hstep : DataStep env c c') : Evidenced c' := by
  rcases le_or_gt c.task.metadata.fileSize maxFileSize with hsmall | hlarge
  · exact h.data_small hstate hsmall hstep
  · exact h.data_large hstate hlarge hstep

/-! ### Runs -/

/-- The thread while its loop runs. -/
def Running (c : Injector) : Prop := Recorded c ∧ Evidenced c

lemma Running.handler (h : Running c) (hactive : c.task.state.successor.isSome)
    (hstep : HandlerStep c c') : Running c' :=
  ⟨h.1.handler hactive hstep, h.2.handler hstep⟩

/-- A round of the loop keeps the thread running as it should. -/
lemma wp_threadRound (h : Running c) (fuel : ℕ) :
    wp (threadRound env fuel) (fun _ => Running) Running c := by
  refine wp_bind (wp_ask fun n => ?_)
  split
  · exact wp_pure h
  refine wp_bind (wp_getTask ?_)
  have hround {x : Inj Bool} (hactive : c.task.state.successor.isSome)
      (hx : wp x (fun _ => HandlerStep c) (HandlerStep c) c) :
      wp (x >>= fun _ => pure none) (fun (_ : Option Unit) => Running) Running c :=
    wp_bind (wp_mono hx (fun _ _ hstep => wp_pure (h.handler hactive hstep))
      fun _ hstep => h.handler hactive hstep)
  cases hstate : c.task.state with
  | idle => exact wp_pure h
  | parsingMetadata => exact hround (by rw [hstate]; rfl) (wp_handleParsingMetadata hstate)
  | transferStart => exact hround (by rw [hstate]; rfl) (wp_handleTransferStart hstate fuel)
  | transferData =>
    refine wp_bind (wp_mono (R := fun _ => False) wp_handleTransferData (fun _ _ hstep => ?_) nofun)
    exact wp_pure ⟨h.1.data hstate hstep, h.2.data hstate hstep⟩
  | transferEnd => exact hround (by rw [hstate]; rfl) (wp_handleTransferEnd hstate)
  | reconfigStart => exact hround (by rw [hstate]; rfl) (wp_handleReconfigStart hstate)
  | reconfigPolling => exact hround (by rw [hstate]; rfl) (wp_handleReconfigPolling hstate)
  | completed => exact wp_pure h
  | failed => exact wp_pure h

lemma wp_sendUploadNotify {notifyCode : UInt8} {R : Injector → Prop} {Q : Bool → Injector → Prop}
    (h : ∀ ok f seq, Announcement notifyCode f →
      Q ok { c with seqCounter := seq, trace := c.trace ++ [.sent f] }) :
    wp (sendUploadNotify env notifyCode) Q R c := by
  refine wp_bind (wp_encode (fun hnone => ?_) fun f seq hbuild => ?_)
  · have hsome : rs422BuildUploadNotify c.seqCounter notifyCode 64 ≠ none := nofun
    exact absurd hnone hsome
  · obtain ⟨hapid, hword, hdata⟩ := rs422EncodeFrame_fields hbuild
    refine wp_bind (wp_uartRs422SendFrame fun ok => wp_bind (wp_modify (wp_pure ?_)))
    exact h ok f _ ⟨⟨hapid, hword⟩, hdata⟩

/-- `fpga_firmware_injection_start`: the task that the thread is started with. -/
def fpgaFirmwareInjectionStart (t : Task) (now : ℤ) : Task :=
  { t with
    state := .parsingMetadata
    lastActivity := now
    inProgress := true
    currentSegment := 0
    retryCount := 0
    binFp := none }

/-- A met need stands in the record. -/
lemma Shows.met {tr : List Event} {needs : List Need} {n : Need} (h : Shows tr needs)
    (hn : n ∈ needs) : ∃ e ∈ tr, n.Met e := by
  obtain ⟨l, hl, hmet⟩ := h
  have hmem : ∃ e ∈ l, n.Met e := by
    clear hl
    induction hmet with
    | nil => cases hn
    | @cons m e needs l hme _ ih =>
      rcases List.mem_cons.1 hn with rfl | hn
      · exact ⟨e, List.mem_cons_self, hme⟩
      · obtain ⟨e', he', hmet'⟩ := ih hn
        exact ⟨e', List.mem_cons_of_mem _ he', hmet'⟩
  obtain ⟨e, he, hmet⟩ := hmem
  exact ⟨e, hl.subset he, hmet⟩

/-- Without data there is no evidence for a file that is not empty. -/
lemma not_shows_evidence {tr : List Event} {size : ℕ} (hsize : 0 < size)
    (h : dataFrames tr = []) : ¬ Shows tr (evidence size) := by
  intro hshows
  have hseg : 0 < segmentCount size := by
    unfold segmentCount fpgaSegmentSize
    omega
  have hfirst : (0, 0) ∈ allPackets size := by
    refine List.mem_append_left _ (List.mem_flatMap.2 ⟨0, List.mem_range.2 hseg, ?_⟩)
    exact List.mem_map.2 ⟨0, List.mem_range.2 (packetCount_pos hseg), rfl⟩
  have hneed : Need.data 0 0 ∈ evidence size := by
    refine List.mem_append_left _ (List.mem_append_left _ (List.mem_cons_of_mem _ ?_))
    exact List.mem_map.2 ⟨(0, 0), hfirst, rfl⟩
  obtain ⟨e, he, hmet⟩ := hshows.met hneed
  cases e with
  | sent f => exact hmet
  | entered s => exact hmet
  | exchange f reply =>
    have hf : f ∈ dataFrames tr :=
      List.mem_filter.2 ⟨List.mem_filterMap.2 ⟨_, he, rfl⟩, decide_eq_true hmet.1⟩
    rw [h] at hf
    cases hf

/-- What a run of the thread has recorded, and what it takes to be COMPLETED. -/
structure RunRecorded (c : Injector) : Prop where
  chain : (.parsingMetadata :: statesOf c.trace).IsChain Next
  last : (.parsingMetadata :: statesOf c.trace).getLast? = some c.task.state
  completed : c.task.state = .completed →
    (Shows c.trace (evidence c.task.metadata.fileSize) ↔ c.task.metadata.fileSize ≤ maxFileSize)

/-- A completed task has its evidence exactly when its file is not too large. -/
lemma Running.evidence_iff (h : Running c) (hstate : c.task.state = .completed) {es : List Event}
    (hes : Silent es) : Shows (c.trace ++ es) (evidence c.task.metadata.fileSize) ↔
      c.task.metadata.fileSize ≤ maxFileSize := by
  constructor
  · intro hshows
    by_contra hlarge
    have hlt := not_le.1 hlarge
    have hun : c.task.state.Underway := by rw [hstate]; exact ⟨nofun, nofun, nofun⟩
    have hunsent := h.2.unsent (.inr (.inr ⟨hun, hlt⟩))
    exact not_shows_evidence (Nat.zero_lt_of_lt hlt) ((dataFrames_silent hes).trans hunsent) hshows
  · intro hsize
    have hshows := h.2.shows hsize
    rw [stageNeeds, hstate] at hshows
    exact hshows.more es

lemma Running.recorded (h : Running c) : RunRecorded c := by
  refine ⟨h.1.chain, h.1.last, fun hstate => ?_⟩
  have hnil : Silent [] := ⟨rfl, rfl⟩
  have hiff := h.evidence_iff hstate hnil
  rwa [List.append_nil] at hiff

lemma silent_announcement {notifyCode : UInt8} {f : Bytes} (hf : Announcement notifyCode f) :
    Silent [.sent f] := by
  have hne : apidControl ≠ apidFileData := by decide
  simp [Silent, dataFrames, ackedFrames, Event.acked?, hf.1.1, hne]

/-- The announcement of the end is the last thing the thread does. -/
lemma Running.finish (h : Running c) {f : Bytes} {seq : ℕ} {t : Task}
    (hf : Announcement uploadNotifyPost f) (hstate : t.state = c.task.state)
    (hmetadata : t.metadata = c.task.metadata) :
    Announced (c.trace ++ [.sent f]) ∧ RunRecorded ⟨t, seq, c.trace ++ [.sent f]⟩ := by
  obtain ⟨pre, mid, hframes, hpre, hmid⟩ := h.1.frames
  have hstates : statesOf (c.trace ++ [.sent f]) = statesOf c.trace := by
    rw [statesOf_append]
    exact List.append_nil _
  refine ⟨⟨pre, mid, f, ?_, hpre, hf, hmid⟩, ?_, ?_, ?_⟩
  · rw [sentFrames_append, hframes, sentFrames_sent]
  · rw [hstates]
    exact h.1.chain
  · rw [hstates]
    exact h.1.last.trans (congrArg some hstate.symm)
  · intro hdone
    have hiff := h.evidence_iff (hstate.symm.trans hdone) (silent_announcement hf)
    rw [← hmetadata] at hiff
    exact hiff

/-- Before the loop only the announcement of the start is recorded. -/
lemma running_announced {t : Task} (hstate : t.state = .parsingMetadata) {f : Bytes} {seq : ℕ}
    (hf : Announcement uploadNotifyPre f) : Running ⟨t, seq, [.sent f]⟩ := by
  refine ⟨⟨⟨f, [], rfl, hf, nofun⟩, List.isChain_singleton _, by rw [hstate]; rfl⟩, ?_⟩
  have hnot : ¬ t.state.Underway := fun hun => hun.2.1 hstate
  have hneeds : stageNeeds t = [] := by rw [stageNeeds, hstate]
  exact {
    total := fun hun => absurd hun hnot
    sending := fun hdata => by cases hstate.symm.trans hdata
    shows := fun _ => by
      rw [hneeds]
      exact shows_nil _
    unsent := fun _ => (silent_announcement hf).1 }

lemma wp_threadLoop (h : Running c) (fuel : ℕ) :
    wp (Prog.repeatUntil fuel (threadRound env fuel)) (fun _ => Running) Running c := by
  refine wp_repeatUntil (I := Running) (fun c hc => ?_) (fun c hc => hc) fuel h
  refine wp_mono (wp_threadRound hc fuel) (fun r c' hc' => ?_) fun _ h => h
  cases r with
  | none => exact hc'
  | some _ => exact hc'

lemma wp_injectionThreadFunc (fuel : ℕ) (t : Task) (now : ℤ) (seq : ℕ) :
    wp (injectionThreadFunc env fuel)
      (fun _ c => Announced c.trace ∧ RunRecorded c)
      (fun c => Announcing c.trace ∧ RunRecorded c)
      ⟨fpgaFirmwareInjectionStart t now, seq, []⟩ := by
  refine wp_bind (wp_sendUploadNotify fun ok f seq' hf => wp_bind ?_)
  refine wp_mono (wp_threadLoop (running_announced rfl hf) fuel) (fun _ c hc => ?_)
    fun c hc => ⟨hc.1.frames, hc.recorded⟩
  exact wp_bind (wp_sendUploadNotify fun ok f seq hf => wp_setTask (hc.finish hf rfl rfl))

lemma injection_recorded (env : Env) (fuel tick : ℕ) (t : Task) (now : ℤ) (seq : ℕ) :
    RunRecorded
      (injectionThreadFunc env fuel tick ⟨fpgaFirmwareInjectionStart t now, seq, []⟩).2.2 :=
  (wp_mono (wp_injectionThreadFunc fuel t now seq) (fun _ _ h => h.2) fun _ h => h.2).holds tick

/-- In every run of `injection_thread_func`, finished or not, the announcements frame all other
frames and the states follow the path; and a run that has reached COMPLETED has the
acknowledgements of the start, of every packet, of the end and of the reconfiguration, in this
order, exactly when the number of segments of its file did not wrap around. -/
theorem injection_evidence (env : Env) (fuel tick : ℕ) (t : Task) (now : ℤ) (seq : ℕ) :
    let r := injectionThreadFunc env fuel tick ⟨fpgaFirmwareInjectionStart t now, seq, []⟩
    (if r.1.isSome then Announced r.2.2.trace else Announcing r.2.2.trace) ∧
      (.parsingMetadata :: statesOf r.2.2.trace).IsChain Next ∧
      (.parsingMetadata :: statesOf r.2.2.trace).getLast? = some r.2.2.task.state ∧
      (r.2.2.task.state = .completed →
        (Shows r.2.2.trace (evidence r.2.2.task.metadata.fileSize) ↔
          r.2.2.task.metadata.fileSize ≤ maxFileSize)) := by
  intro r
  have hrecorded : RunRecorded r.2.2 := injection_recorded env fuel tick t now seq
  refine ⟨?_, hrecorded.chain, hrecorded.last, hrecorded.completed⟩
  have hwp : wp (injectionThreadFunc env fuel)
      (fun _ c => Announced c.trace ∧ RunRecorded c)
      (fun c => Announcing c.trace ∧ RunRecorded c)
      ⟨fpgaFirmwareInjectionStart t now, seq, []⟩ := wp_injectionThreadFunc fuel t now seq
  obtain ⟨hdone, hgoing⟩ := hwp tick
  cases hr : r.1 with
  | none => exact (hgoing hr).1
  | some _ => exact (hdone _ hr).1

/-! ### A file whose segments wrap around -/

/-- A file of `2 ^ 32 - 1` bytes. -/
def hugeFile : BinFile := ⟨List.replicate (2 ^ 32 - 1) 0, 2 ^ 32 - 1, List.length_replicate⟩

/-- A task that has not been started. -/
def idleTask : Task where
  state := .idle
  metadata := ⟨0, 0, 0, zero_fileSize_lt⟩
  totalSegments := 0
  currentSegment := 0
  totalPacketsInSegment := 0
  currentPacketInSegment := 0
  segmentOffset := 0
  fileChecksum := 0
  binFp := none
  lastActivity := 0
  retryCount := 0
  maxRetries := 3
  inProgress := false

/-- The FPGA accepts the start, the end and the reconfiguration at once. -/
def acceptEverything : Env :=
  quietEnv hugeFile ⟨0xF0, 0x01, 2 ^ 32 - 1, by decide⟩ fun n =>
    some (ackFrame (if n < 100 then .transferStartAck else if n < 223 then .transferEndAck
      else .reconfigAck) 0x00)

/-- The run over the huge file. -/
def hugeRun : Injector :=
  (injectionThreadFunc acceptEverything 8 0 ⟨fpgaFirmwareInjectionStart idleTask 0, 0, []⟩).2.2

lemma hugeRun_completed :
    hugeRun.task.state = .completed ∧ hugeRun.task.metadata.fileSize = 2 ^ 32 - 1 := by
  decide +kernel

/-- The injection of the huge file is COMPLETED without the acknowledgement of any packet. -/
theorem completed_without_data :
    ¬ ∀ (env : Env) (fuel tick : ℕ) (t : Task) (now : ℤ) (seq : ℕ),
      let r := injectionThreadFunc env fuel tick ⟨fpgaFirmwareInjectionStart t now, seq, []⟩
      r.2.2.task.state = .completed →
        Shows r.2.2.trace (evidence r.2.2.task.metadata.fileSize) := by
  intro hclaim
  obtain ⟨hstate, hsize⟩ := hugeRun_completed
  unfold hugeRun at hstate hsize
  have hrecorded := injection_recorded acceptEverything 8 0 idleTask 0 0
  have hle := (hrecorded.completed hstate).1 (hclaim acceptEverything 8 0 idleTask 0 0 hstate)
  rw [hsize] at hle
  exact absurd hle (by decide)

end AntennaMgmt.Inject
