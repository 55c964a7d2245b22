import AntennaMgmt.Cpri.Message
import AntennaMgmt.Lib.Framing

/-!
# Reassembly of CPRI messages

`tcp_recv_thread` hands what each `recv` returns to `on_tcp_data_received`, which collects the
bytes in `g_recv_buffer` and takes complete messages off its front.  The buffer is as large as
the largest message, so a leftover and the chunk after it need not fit together: the overflow
branch then drops both.  Reassembly is right exactly when no chunk meets a leftover too large
for it.
-/

namespace AntennaMgmt.Cpri

open AntennaMgmt.Lib

/-- `sizeof(g_recv_buffer)`; `tcp_recv_thread` reads at most as much at a time. -/
def recvBufferSize : ℕ := 8192

/-- The receive path: the first `g_recv_offset` bytes of `g_recv_buffer`, the payload pool, the
messages handed on so far and whatever state the handling of a message acts on. -/
structure Receiver (σ : Type*) where
  buffer : Bytes
  pool : Pool
  dispatched : List CpriMessage
  ctl : σ

variable {σ : Type*}

/-- The receive path of a new process. -/
def Receiver.init (c : σ) : Receiver σ := ⟨[], Pool.fresh, [], c⟩

/-- The `msg_length` field at the front of the buffer. -/
def msgLengthField (buffer : Bytes) : ℕ := leNat (slice buffer 4 4)

variable (handle : CpriMessage → σ → σ)

/-- One complete message: decode it, handle it, give its payload back. -/
def Receiver.processMessage (r : Receiver σ) (frame : Bytes) : Receiver σ :=
  match cpriDecodeMessage r.pool frame with
  | .ok (msg, slot, pool') =>
    { r with
      pool := cpriFreeMessage pool' slot
      dispatched := r.dispatched ++ [msg]
      ctl := handle msg r.ctl }
  | .error _ => r

/-- The loop of `on_tcp_data_received` over the complete messages in the buffer. -/
def drain (r : Receiver σ) : Receiver σ :=
  if cpriHeaderLen ≤ r.buffer.length then
    -- a length that no message can have: everything is dropped
    if msgLengthField r.buffer < cpriHeaderLen ∨ recvBufferSize < msgLengthField r.buffer then
      { r with buffer := [] }
    else if r.buffer.length < msgLengthField r.buffer then r
    else
      drain { r.processMessage handle (r.buffer.take (msgLengthField r.buffer)) with
        buffer := r.buffer.drop (msgLengthField r.buffer) }
  else r
termination_by r.buffer.length
decreasing_by
  simp only [cpriHeaderLen] at *
  rw [List.length_drop]
  omega

/-- `on_tcp_data_received`. -/
def onTcpDataReceived (r : Receiver σ) (data : Bytes) : Receiver σ :=
  -- what does not fit is dropped together with what is in the buffer
  if recvBufferSize < r.buffer.length + data.length then { r with buffer := [] }
  else drain handle { r with buffer := r.buffer ++ data }

/-- The chunks of a connection, one `recv` after the other. -/
def receiveAll (r : Receiver σ) (chunks : List Bytes) : Receiver σ :=
  chunks.foldl (onTcpDataReceived handle) r

/-! ### Messages on the wire -/

/-- How `on_tcp_data_received` finds message boundaries. -/
def cpriFormat : FrameFormat UInt8 where
  header := cpriHeaderLen
  size := msgLengthField
  size_append xs ys h := by
    have hfield : 4 + 4 ≤ xs.length := by simp only [cpriHeaderLen] at h; omega
    rw [msgLengthField, msgLengthField, slice_append ys hfield]

/-- A message on the wire: its length field is its length and lies in 15..8192. -/
structure WireMessage where
  bytes : Bytes
  isFrame : cpriFormat.IsFrame bytes
  length_le : bytes.length ≤ recvBufferSize

namespace WireMessage

/-- The message that decoding the bytes gives. -/
def message (m : WireMessage) : CpriMessage := decodeBody m.bytes

lemma header_le (m : WireMessage) : cpriHeaderLen ≤ m.bytes.length := m.isFrame.header_le

lemma header_msgLength (m : WireMessage) : m.message.header.msgLength = m.bytes.length :=
  m.isFrame.size_eq

end WireMessage

/-- The frames of a sequence of messages. -/
def frames (ms : List WireMessage) : List Bytes := ms.map (·.bytes)

@[simp] lemma frames_nil : frames [] = [] := rfl

@[simp] lemma frames_cons (m : WireMessage) (ms : List WireMessage) :
    frames (m :: ms) = m.bytes :: frames ms := rfl

@[simp] lemma frames_append (ms ns : List WireMessage) :
    frames (ms ++ ns) = frames ms ++ frames ns := List.map_append

/-- The receiver after handing on the messages `ms`, with `p` left in the buffer. -/
def Receiver.deliver (r : Receiver σ) (ms : List WireMessage) (p : Bytes) : Receiver σ where
  buffer := p
  pool := r.pool
  dispatched := r.dispatched ++ ms.map (·.message)
  ctl := ms.foldl (fun c m => handle m.message c) r.ctl

variable {f : CpriMessage → σ → σ}

lemma Receiver.deliver_nil (r : Receiver σ) : r.deliver f [] r.buffer = r := by
  simp [deliver]

lemma Receiver.deliver_deliver (r : Receiver σ) (ms ns : List WireMessage) (p q : Bytes) :
    (r.deliver f ms p).deliver f ns q = r.deliver f (ms ++ ns) q := by
  simp [deliver]

/-- A message at the front of the buffer is handed on and the loop goes on behind it. -/
lemma drain_message {r : Receiver σ} (hpool : r.pool.HasFree) {m : WireMessage} {rest : Bytes}
    (hbuf : r.buffer = m.bytes ++ rest) :
    drain f r = drain f (r.deliver f [m] rest) := by
  have hmin := m.header_le
  have hmax := m.length_le
  have hfield : msgLengthField r.buffer = m.bytes.length := by
    rw [hbuf]
    exact (cpriFormat.size_append _ _ hmin).trans m.isFrame.size_eq
  have hlen : m.bytes.length ≤ r.buffer.length := by
    rw [hbuf, List.length_append]
    omega
  have htake : r.buffer.take m.bytes.length = m.bytes := by rw [hbuf, List.take_left]
  have hdrop : r.buffer.drop m.bytes.length = rest := by rw [hbuf, List.drop_left]
  obtain ⟨slot, pool', hdec, hfree⟩ := cpriDecodeMessage_spec hpool hmin
    (by simp only [recvBufferSize, maxCpriPayloadSize] at *; omega)
  rw [drain, if_pos (hmin.trans hlen), hfield, if_neg (by omega), if_neg (by omega), htake,
    hdrop, Receiver.processMessage, hdec]
  simp only [hfree, Receiver.deliver, List.map_cons, List.map_nil, List.foldl_cons,
    List.foldl_nil, WireMessage.message]

/-- The loop leaves the beginning of a message alone. -/
lemma drain_pending {r : Receiver σ} {ms : List WireMessage} {q : Bytes}
    (h : Pending (frames ms) r.buffer q) : drain f r = r := by
  rw [drain]
  split
  · rename_i hheader
    cases ms with
    | nil => simp [h.nil.1, cpriHeaderLen] at hheader
    | cons m ms =>
      have hfield : msgLengthField r.buffer = m.bytes.length :=
        m.isFrame.size_of_prefix h.stream hheader
      have hmin := m.header_le
      have hmax := m.length_le
      have hshort := h.short m.bytes (frames ms) rfl
      rw [hfield, if_neg (by omega), if_pos hshort]
  · rfl

/-- What the loop does with the beginning of a sequence of messages: the complete ones are
handed on and the rest stays. -/
lemma drain_spec {r : Receiver σ} (hpool : r.pool.HasFree) {ms : List WireMessage} {q : Bytes}
    (h : r.buffer ++ q = (frames ms).flatten) :
    ∃ ds ts p, ms = ds ++ ts ∧ drain f r = r.deliver f ds p ∧
      Pending (frames ts) p q := by
  induction ms generalizing r with
  | nil =>
    have hpend : Pending (frames []) r.buffer q := ⟨h, fun fr gs hfg => by cases hfg⟩
    exact ⟨[], [], r.buffer, rfl, by rw [drain_pending hpend, r.deliver_nil], hpend⟩
  | cons m ms ih =>
    by_cases hshort : r.buffer.length < m.bytes.length
    · -- the first message is not complete, so that the loop stops
      have hpend : Pending (frames (m :: ms)) r.buffer q := by
        refine ⟨h, fun fr gs hfg => ?_⟩
        cases hfg
        exact hshort
      exact ⟨[], m :: ms, r.buffer, rfl, by rw [drain_pending hpend, r.deliver_nil], hpend⟩
    · -- the first message is complete
      rw [frames_cons, List.flatten_cons] at h
      obtain ⟨rest, hbuf, hrest⟩ : ∃ rest, r.buffer = m.bytes ++ rest ∧
          rest ++ q = (frames ms).flatten := by
        rcases List.append_eq_append_iff.1 h with ⟨as, hm, hq⟩ | ⟨bs, hb, hq⟩
        · have hnil : as = [] := by
            have hlen := congrArg List.length hm
            rw [List.length_append] at hlen
            exact List.eq_nil_of_length_eq_zero (by omega)
          subst hnil
          exact ⟨[], by simpa using hm.symm, by simpa using hq⟩
        · exact ⟨bs, hb, hq.symm⟩
      obtain ⟨ds, ts, p, hms, hdrain, hpend⟩ :=
        ih (r := r.deliver f [m] rest) hpool hrest
      refine ⟨m :: ds, ts, p, by rw [hms, List.cons_append], ?_, hpend⟩
      rw [drain_message hpool hbuf, hdrain, Receiver.deliver_deliver, List.singleton_append]

end AntennaMgmt.Cpri
