import AntennaMgmt.Cpri.Receive
import Mathlib.Data.List.Induction

/-!
# Reassembly and segmentation

A sequence of messages is cut into chunks.  If no chunk is too large for the leftover it meets,
the messages are dispatched once each and in order.  Otherwise bytes are dropped, and a count of
the bytes shows that the messages dispatched cannot be all of them.
-/

namespace AntennaMgmt.Cpri

open AntennaMgmt.Lib

variable {σ : Type*} {f : CpriMessage → σ → σ}

/-- Exactly the messages `ms` were dispatched, once each and in order, and nothing is left. -/
def Reassembled (ms : List WireMessage) (r : Receiver σ) : Prop :=
  r.dispatched = ms.map (·.message) ∧ r.buffer = []

/-- Every chunk fits into the receive buffer behind the leftover of the chunks before it. -/
def Fits (ms : List WireMessage) (chunks : List Bytes) : Prop :=
  ∀ cs c cs', chunks = cs ++ c :: cs' →
    leftover (frames ms) cs.flatten.length + c.length ≤ recvBufferSize

lemma Fits.of_append {ms : List WireMessage} {cs cs' : List Bytes} (h : Fits ms (cs ++ cs')) :
    Fits ms cs := by
  intro as c bs hsplit
  refine h as c (bs ++ cs') ?_
  rw [hsplit, List.append_assoc, List.cons_append]

lemma fits_nil (ms : List WireMessage) : Fits ms [] := by
  intro cs c cs' hsplit
  simp at hsplit

lemma Fits.concat {ms : List WireMessage} {cs : List Bytes} {c : Bytes} (h : Fits ms cs)
    (hc : leftover (frames ms) cs.flatten.length + c.length ≤ recvBufferSize) :
    Fits ms (cs ++ [c]) := by
  intro as d bs hsplit
  induction bs using List.reverseRecOn with
  | nil =>
    obtain ⟨rfl, hd⟩ := List.append_inj' hsplit rfl
    cases hd
    exact hc
  | append_singleton bs b =>
    have hsplit' : cs ++ [c] = (as ++ d :: bs) ++ [b] := by
      rw [hsplit, List.append_assoc, List.cons_append]
    exact h as d bs (List.append_inj' hsplit' rfl).1

lemma receiveAll_append (r : Receiver σ) (cs cs' : List Bytes) :
    receiveAll f r (cs ++ cs') = receiveAll f (receiveAll f r cs) cs' :=
  List.foldl_append

/-! ### Chunks that fit -/

/-- What a receiver holds of a sequence of messages is the leftover of the bytes received. -/
lemma length_eq_leftover {ds ts : List WireMessage} {p q : Bytes} {n : ℕ}
    (hpend : Pending (frames ts) p q)
    (hcut : n + q.length = (frames (ds ++ ts)).flatten.length) :
    p.length = leftover (frames (ds ++ ts)) n := by
  have hstream := congrArg List.length hpend.stream
  rw [frames_append, List.flatten_append, List.length_append] at hcut
  rw [List.length_append] at hstream
  have hn : n = (frames ds).flatten.length + p.length := by omega
  rw [hn, frames_append, hpend.leftover_eq (frames ds)]

/-- Before the first chunk nothing is held back. -/
lemma pending_start {ms : List WireMessage} {q : Bytes} (h : q = (frames ms).flatten) :
    Pending (frames ms) [] q := by
  refine ⟨h, fun fr gs hfg => ?_⟩
  cases ms with
  | nil => cases hfg
  | cons m ms =>
    cases hfg
    exact Nat.lt_of_lt_of_le (by decide) m.header_le

/-- After chunks that fit, the complete messages have been handed on and the buffer holds the
leftover. -/
lemma receiveAll_of_fits (s : σ) {ms : List WireMessage} {cs : List Bytes} {q : Bytes}
    (hfits : Fits ms cs) (hcut : cs.flatten ++ q = (frames ms).flatten) :
    ∃ ds ts p, ms = ds ++ ts ∧
      receiveAll f (.init s) cs = (Receiver.init s).deliver f ds p ∧
      Pending (frames ts) p q := by
  induction cs using List.reverseRecOn generalizing q with
  | nil => exact ⟨[], ms, [], rfl, ((Receiver.init s).deliver_nil).symm, pending_start hcut⟩
  | append_singleton cs c ih =>
    have hcut' : cs.flatten ++ (c ++ q) = (frames ms).flatten := by
      rw [← hcut, List.flatten_append, List.flatten_singleton, List.append_assoc]
    obtain ⟨ds, ts, p, rfl, hrun, hpend⟩ := ih hfits.of_append hcut'
    have hroom : p.length + c.length ≤ recvBufferSize := by
      rw [length_eq_leftover hpend (by rw [← List.length_append, hcut'])]
      exact hfits cs c [] rfl
    obtain ⟨ds', ts', p', rfl, hdrain, hpend'⟩ := drain_spec (f := f)
      (r := (Receiver.init s).deliver f ds (p ++ c)) Pool.fresh_hasFree
      (by rw [← hpend.stream]; exact List.append_assoc p c q)
    refine ⟨ds ++ ds', ts', p', (List.append_assoc ..).symm, ?_, hpend'⟩
    have hstep : onTcpDataReceived f ((Receiver.init s).deliver f ds p) c =
        drain f ((Receiver.init s).deliver f ds (p ++ c)) :=
      if_neg (Nat.not_lt.2 hroom)
    rw [receiveAll_append, hrun]
    exact hstep.trans (hdrain.trans (Receiver.deliver_deliver ..))

/-! ### Counting bytes -/

/-- The bytes of the messages handed on. -/
def Receiver.handedOn (r : Receiver σ) : ℕ := (r.dispatched.map (·.header.msgLength)).sum

/-- Handing on a message adds at most its length to the count. -/
lemma handedOn_processMessage_le (r : Receiver σ) {frame : Bytes}
    (h : (decodeHeader frame).msgLength = frame.length) :
    (r.processMessage f frame).handedOn ≤ r.handedOn + frame.length := by
  unfold Receiver.processMessage
  split
  · rename_i msg slot pool' hdec
    have hmsg : msg = decodeBody frame := by
      unfold cpriDecodeMessage at hdec
      grind
    simp [Receiver.handedOn, hmsg, decodeBody, h]
  · exact Nat.le_add_right _ _

/-- The loop hands on no more than what it takes from the buffer. -/
lemma handedOn_drain_le (r : Receiver σ) :
    (drain f r).handedOn + (drain f r).buffer.length ≤ r.handedOn + r.buffer.length := by
  fun_induction drain f r with
  | case1 r hheader hbad => simp [Receiver.handedOn]
  | case2 => exact le_rfl
  | case3 r hheader hgood hfull ih =>
    refine ih.trans ?_
    have hlen : (r.buffer.take (msgLengthField r.buffer)).length = msgLengthField r.buffer := by
      rw [List.length_take]
      omega
    have hfield : (decodeHeader (r.buffer.take (msgLengthField r.buffer))).msgLength =
        msgLengthField r.buffer := by
      have h8 : 4 + 4 ≤ (r.buffer.take (msgLengthField r.buffer)).length := by
        simp only [cpriHeaderLen] at hgood
        omega
      have hslice := slice_append (r.buffer.drop (msgLengthField r.buffer)) h8
      rw [List.take_append_drop] at hslice
      exact congrArg leNat hslice.symm
    have hle := handedOn_processMessage_le (f := f) r (hfield.trans hlen.symm)
    simp only [Receiver.handedOn, List.length_drop] at *
    omega
  | case4 => exact le_rfl

lemma handedOn_receive_le (r : Receiver σ) (c : Bytes) :
    (onTcpDataReceived f r c).handedOn + (onTcpDataReceived f r c).buffer.length ≤
      r.handedOn + r.buffer.length + c.length := by
  unfold onTcpDataReceived
  split
  · simp only [Receiver.handedOn, List.length_nil]
    omega
  · refine (handedOn_drain_le _).trans ?_
    simp only [Receiver.handedOn, List.length_append]
    omega

lemma handedOn_receiveAll_le (r : Receiver σ) (cs : List Bytes) :
    (receiveAll f r cs).handedOn + (receiveAll f r cs).buffer.length ≤
      r.handedOn + r.buffer.length + cs.flatten.length := by
  induction cs generalizing r with
  | nil => exact le_rfl
  | cons c cs ih =>
    refine (ih (onTcpDataReceived f r c)).trans ?_
    have hstep := handedOn_receive_le (f := f) r c
    rw [List.flatten_cons, List.length_append]
    omega

lemma sum_msgLength (ms : List WireMessage) :
    ((ms.map (·.message)).map (·.header.msgLength)).sum = (frames ms).flatten.length := by
  induction ms with
  | nil => rfl
  | cons m ms ih =>
    simp only [List.map_cons, List.sum_cons, ih, m.header_msgLength, frames_cons,
      List.flatten_cons, List.length_append]

/-- Every byte of a reassembled sequence was handed on. -/
lemma Reassembled.handedOn_eq {ms : List WireMessage} {r : Receiver σ} (h : Reassembled ms r) :
    r.handedOn = (frames ms).flatten.length := by
  rw [Receiver.handedOn, h.1, sum_msgLength]

/-- A chunk that does not fit loses bytes, so the messages are not reassembled. -/
lemma fits_of_reassembled (s : σ) {ms : List WireMessage} {chunks : List Bytes}
    (hcut : chunks.flatten = (frames ms).flatten)
    (h : Reassembled ms (receiveAll f (.init s) chunks)) (cs cs' : List Bytes)
    (hsplit : chunks = cs ++ cs') : Fits ms cs := by
  induction cs using List.reverseRecOn generalizing cs' with
  | nil => intro as c bs hnil; simp at hnil
  | append_singleton cs c ih =>
    rw [List.append_assoc, List.singleton_append] at hsplit
    have hfits := ih (c :: cs') hsplit
    have hcut' : cs.flatten ++ (c ++ cs'.flatten) = (frames ms).flatten := by
      rw [← hcut, hsplit, List.flatten_append, List.flatten_cons]
    obtain ⟨ds, ts, p, rfl, hrun, hpend⟩ := receiveAll_of_fits (f := f) s hfits hcut'
    have hleft := length_eq_leftover hpend (by rw [← List.length_append, hcut'])
    refine hfits.concat ?_
    by_contra hover
    -- the overflow branch drops the leftover and the chunk
    have hdrop : onTcpDataReceived f ((Receiver.init s).deliver f ds p) c =
        (Receiver.init s).deliver f ds [] := if_pos (by
      show recvBufferSize < p.length + c.length
      omega)
    have hrest := handedOn_receiveAll_le (f := f)
      ((Receiver.init s).deliver f ds []) cs'
    have hall := h.handedOn_eq
    rw [hsplit, receiveAll_append, hrun] at hall
    change (receiveAll f (onTcpDataReceived f _ c) cs').handedOn = _ at hall
    rw [hdrop] at hall
    have hds : ((Receiver.init s).deliver f ds []).handedOn = (frames ds).flatten.length := by
      rw [← sum_msgLength]
      rfl
    have hstream := congrArg List.length hpend.stream
    rw [frames_append, List.flatten_append, List.length_append] at hall
    rw [List.length_append, List.length_append] at hstream
    have hbuf : ((Receiver.init s).deliver f ds []).buffer.length = 0 := rfl
    have hbig : 0 < recvBufferSize := by decide
    omega

/-- Reassembly from an empty buffer dispatches exactly the messages that were cut into chunks,
once each and in order, and leaves the buffer empty, if and only if every chunk fits into the
buffer behind the leftover it meets. -/
theorem reassembled_iff_fits (s : σ) {ms : List WireMessage} {chunks : List Bytes}
    (hcut : chunks.flatten = (frames ms).flatten) :
    Reassembled ms (receiveAll f (.init s) chunks) ↔ Fits ms chunks := by
  constructor
  · intro h
    exact fits_of_reassembled s hcut h chunks [] (List.append_nil chunks).symm
  · intro hfits
    obtain ⟨ds, ts, p, rfl, hrun, hpend⟩ := receiveAll_of_fits (f := f) s hfits
      (by rw [List.append_nil, hcut])
    have hts : ts = [] := List.map_eq_nil_iff.1 hpend.frames_eq_nil
    subst hts
    rw [hrun, hpend.nil.1, List.append_nil]
    exact ⟨by simp [Receiver.deliver, Receiver.init], rfl⟩

/-! ### Two messages and three chunks -/

/-- A heartbeat of the base band unit. -/
def bbuHeartbeat : WireMessage where
  bytes := [181, 0, 0, 0, 15, 0, 0, 0, 0, 0, 0, 1, 0, 0, 0]
  isFrame := ⟨by decide, by decide⟩
  length_le := by decide

/-- The bytes of a transparent message of the largest legal length. -/
def largestBytes : Bytes :=
  [231, 0, 0, 0, 0, 32, 0, 0, 0, 0, 0, 1, 0, 0, 0] ++ List.replicate 8177 0

lemma length_largestBytes : largestBytes.length = 8192 := by
  rw [largestBytes, List.length_append, List.length_replicate]
  rfl

def largestMessage : WireMessage where
  bytes := largestBytes
  isFrame := by
    refine ⟨length_largestBytes ▸ by decide, length_largestBytes ▸ ?_⟩
    exact cpriFormat.size_append _ _ (by decide)
  length_le := length_largestBytes.le

/-- The largest message and a heartbeat behind it, cut after the first byte and between the
messages. -/
def fittingChunks : List Bytes :=
  [largestBytes.take 1, largestBytes.drop 1, bbuHeartbeat.bytes]

lemma fittingChunks_flatten :
    fittingChunks.flatten = (frames [largestMessage, bbuHeartbeat]).flatten := by
  simp only [fittingChunks, List.flatten_cons, List.flatten_nil, List.append_nil, frames_cons,
    frames_nil, largestMessage]
  rw [← List.append_assoc, List.take_append_drop]

lemma fits_fittingChunks : Fits [largestMessage, bbuHeartbeat] fittingChunks := by
  have htake : (largestBytes.take 1).length = 1 := by
    rw [List.length_take, length_largestBytes]
    rfl
  have hdrop : (largestBytes.drop 1).length = 8191 := by
    rw [List.length_drop, length_largestBytes]
  have hfirst : Fits [largestMessage, bbuHeartbeat] [largestBytes.take 1] := by
    refine (fits_nil _).concat ((Nat.add_le_add_right (leftover_le _ _) _).trans ?_)
    rw [htake]
    decide
  have hsecond : Fits [largestMessage, bbuHeartbeat]
      [largestBytes.take 1, largestBytes.drop 1] := by
    refine hfirst.concat ((Nat.add_le_add_right (leftover_le _ _) _).trans ?_)
    rw [List.flatten_singleton, htake, hdrop]
    decide
  refine hsecond.concat ?_
  -- nothing is left of the largest message
  have hall : [largestBytes.take 1, largestBytes.drop 1].flatten = largestMessage.bytes := by
    rw [List.flatten_cons, List.flatten_singleton, List.take_append_drop, largestMessage]
  rw [hall, frames_cons, leftover, if_pos le_rfl, Nat.sub_self]
  have hempty := leftover_le (frames [bbuHeartbeat]) 0
  exact (Nat.add_le_add_right hempty _).trans (by decide)

theorem reassembled_iff_fits_fittingChunks :
    Reassembled [largestMessage, bbuHeartbeat]
      (receiveAll (fun _ n => n + 1) (.init 0) fittingChunks) :=
  (reassembled_iff_fits 0 fittingChunks_flatten).2 fits_fittingChunks

/-- The largest message and a heartbeat behind it, cut after the first byte and then after a
full `recv`. -/
def overflowChunks : List Bytes :=
  [largestBytes.take 1, largestBytes.drop 1 ++ bbuHeartbeat.bytes.take 1,
    bbuHeartbeat.bytes.drop 1]

lemma overflowChunks_flatten :
    overflowChunks.flatten = (frames [largestMessage, bbuHeartbeat]).flatten := by
  simp only [overflowChunks, List.flatten_cons, List.flatten_nil, List.append_nil, frames_cons,
    frames_nil, largestMessage]
  rw [← List.append_assoc, ← List.append_assoc, List.take_append_drop, List.append_assoc,
    List.take_append_drop]

/-- The second chunk overflows the buffer by one byte, and the two messages are lost. -/
theorem overflow_drops_messages :
    ∃ (ms : List WireMessage) (chunks : List Bytes),
      chunks.flatten = (frames ms).flatten ∧
      (∀ c ∈ chunks, 1 ≤ c.length ∧ c.length ≤ recvBufferSize) ∧
      ¬ Reassembled ms (receiveAll (fun _ n => n + 1) (.init 0) chunks) := by
  have hlen : largestBytes.length = 8192 := length_largestBytes
  have hlen' : bbuHeartbeat.bytes.length = 15 := rfl
  refine ⟨[largestMessage, bbuHeartbeat], overflowChunks, overflowChunks_flatten, ?_, ?_⟩
  · simp only [overflowChunks, List.mem_cons, List.not_mem_nil, or_false, forall_eq_or_imp,
      forall_eq, List.length_append, List.length_take, List.length_drop, hlen, hlen',
      recvBufferSize]
    decide
  · intro h
    have hfits := fits_of_reassembled 0 overflowChunks_flatten h _ []
      (List.append_nil _).symm [largestBytes.take 1] _ [bbuHeartbeat.bytes.drop 1] rfl
    have hone : [largestBytes.take 1].flatten.length = 1 := by
      rw [List.flatten_singleton, List.length_take, hlen]
      rfl
    have hshort : ¬ largestMessage.bytes.length ≤ 1 := by
      show ¬ largestBytes.length ≤ 1
      rw [hlen]
      decide
    have hleft : leftover (frames [largestMessage, bbuHeartbeat]) 1 = 1 := by
      rw [frames_cons, leftover, if_neg hshort]
    have hchunk : (largestBytes.drop 1 ++ bbuHeartbeat.bytes.take 1).length = 8192 := by
      simp only [List.length_append, List.length_drop, List.length_take, hlen, hlen']
      decide
    simp only [hone, hleft, hchunk] at hfits
    exact absurd hfits (by decide)

end AntennaMgmt.Cpri
