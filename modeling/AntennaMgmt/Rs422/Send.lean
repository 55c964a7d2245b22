import AntennaMgmt.Lib.Bytes

/-!
# Sending a frame

`uart_rs422_send_frame` writes a frame to the serial driver and tries again while the driver does
not take all of it.  Each attempt starts with the first byte of the frame, also when the attempt
before it has put a part of the frame on the line.
-/

namespace AntennaMgmt.Rs422

open AntennaMgmt.Lib

/-- What a `write` of `len` bytes returns: an error, or how many bytes it took. -/
inductive WriteOutcome (len : ℕ)
  | error
  | took (n : Fin (len + 1))
deriving DecidableEq

namespace WriteOutcome

variable {len : ℕ}

/-- How many bytes are on the line afterwards. -/
def count : WriteOutcome len → ℕ
  | error => 0
  | took n => n

/-- All of the bytes were taken. -/
def IsWhole (w : WriteOutcome len) : Prop := w = took (Fin.last len)

instance (w : WriteOutcome len) : Decidable w.IsWhole := inferInstanceAs (Decidable (w = _))

lemma IsWhole.count_eq {w : WriteOutcome len} (h : w.IsWhole) : w.count = len := by
  rw [h]
  rfl

end WriteOutcome

/-- The part of `uart_rs422_client_t` that sending reads. -/
structure UartClient where
  isOpen : Bool
  maxRetries : UInt32

/-- What `uart_rs422_send_frame` returns. -/
inductive SendResult
  | success
  | errorGeneral
  | errorInvalidParam
deriving DecidableEq, Repr

variable {frame : Bytes}

/-- The loop of `uart_rs422_send_frame`: the result, and what it has put on the line.  The writes
come out as the list says; there is no result when the loop would go on behind its end. -/
def sendLoop (frame : Bytes) (maxRetries : UInt32) :
    UInt32 → List (WriteOutcome frame.length) → Option (SendResult × Bytes)
  | retry, [] => if retry ≤ maxRetries then none else some (.errorGeneral, [])
  | retry, w :: outcomes =>
    if retry ≤ maxRetries then
      if w.IsWhole then some (.success, frame)
      -- the next attempt writes the frame from its start again
      else (sendLoop frame maxRetries (retry + 1) outcomes).map fun (ret, wire) =>
        (ret, frame.take w.count ++ wire)
    else some (.errorGeneral, [])

/-- `uart_rs422_send_frame`. -/
def uartRs422SendFrame (client : UartClient) (frame : Bytes)
    (outcomes : List (WriteOutcome frame.length)) : Option (SendResult × Bytes) :=
  if client.isOpen = false ∨ frame.length = 0 then some (.errorInvalidParam, [])
  else sendLoop frame client.maxRetries 0 outcomes

/-! ### The attempts -/

/-- Whether the loop makes an attempt after `k` others.  With the greatest `max_retries` the
counter never exceeds it. -/
def Attempts (maxRetries : UInt32) (k : ℕ) : Prop :=
  k ≤ maxRetries.toNat ∨ maxRetries.toNat = 2 ^ 32 - 1

variable {maxRetries retry : UInt32} {outcomes : List (WriteOutcome frame.length)} {wire : Bytes}

lemma sendLoop_of_lt (h : ¬ retry ≤ maxRetries) :
    sendLoop frame maxRetries retry outcomes = some (.errorGeneral, []) := by
  cases outcomes with
  | nil => rw [sendLoop, if_neg h]
  | cons w outcomes => rw [sendLoop, if_neg h]

lemma attempts_succ (h : retry ≤ maxRetries) (k : ℕ) :
    Attempts maxRetries (retry.toNat + (k + 1)) ↔
      retry + 1 ≤ maxRetries ∧ Attempts maxRetries ((retry + 1).toNat + k) := by
  have hle := UInt32.le_iff_toNat_le.1 h
  have hlt := maxRetries.toNat_lt
  have hsucc : (retry + 1).toNat = (retry.toNat + 1) % 2 ^ 32 := UInt32.toNat_add retry 1
  rw [UInt32.le_iff_toNat_le, Attempts, Attempts, hsucc]
  omega

/-- What the attempts `ws` put on the line. -/
def partsSent (frame : Bytes) (ws : List (WriteOutcome frame.length)) : Bytes :=
  ws.flatMap fun w => frame.take w.count

/-- The attempt in which the frame is sent, and what those before it have put on the line. -/
lemma sendLoop_success_iff (hretry : retry ≤ maxRetries) :
    sendLoop frame maxRetries retry outcomes = some (.success, wire) ↔
      ∃ pre w post, outcomes = pre ++ w :: post ∧ w.IsWhole ∧ (∀ v ∈ pre, ¬ v.IsWhole) ∧
        Attempts maxRetries (retry.toNat + pre.length) ∧ wire = partsSent frame pre ++ frame := by
  induction outcomes generalizing retry wire with
  | nil =>
    rw [sendLoop, if_pos hretry]
    refine iff_of_false nofun ?_
    rintro ⟨pre, w, post, hout, -⟩
    exact List.append_ne_nil_of_right_ne_nil pre (List.cons_ne_nil w post) hout.symm
  | cons w outcomes ih =>
    rw [sendLoop, if_pos hretry]
    by_cases hwhole : w.IsWhole
    · rw [if_pos hwhole]
      constructor
      · intro h
        cases h
        exact ⟨[], w, outcomes, rfl, hwhole, by simp, .inl (UInt32.le_iff_toNat_le.1 hretry), rfl⟩
      · rintro ⟨pre, v, post, hout, -, hpre, -, rfl⟩
        cases pre with
        | nil => rfl
        | cons u pre =>
          obtain rfl := (List.cons.inj hout).1
          exact absurd hwhole (hpre _ List.mem_cons_self)
    rw [if_neg hwhole]
    by_cases hmore : retry + 1 ≤ maxRetries
    · constructor
      · intro h
        obtain ⟨⟨ret, rest⟩, hrest, heq⟩ := Option.map_eq_some_iff.1 h
        cases heq
        obtain ⟨pre, v, post, rfl, hv, hpre, hatt, rfl⟩ := (ih hmore).1 hrest
        refine ⟨w :: pre, v, post, rfl, hv, ?_, (attempts_succ hretry _).2 ⟨hmore, hatt⟩, ?_⟩
        · simpa using ⟨hwhole, hpre⟩
        · rw [partsSent, partsSent, List.flatMap_cons, List.append_assoc]
      · rintro ⟨pre, v, post, hout, hv, hpre, hatt, rfl⟩
        cases pre with
        | nil => exact absurd ((List.cons.inj hout).1 ▸ hv) hwhole
        | cons u pre =>
          obtain ⟨rfl, htail⟩ := List.cons.inj hout
          have hrest := (ih hmore).2 ⟨pre, v, post, htail, hv,
            fun x hx => hpre x (List.mem_cons_of_mem w hx),
            ((attempts_succ hretry _).1 hatt).2, rfl⟩
          rw [hrest, partsSent, partsSent, List.flatMap_cons, List.append_assoc]
          rfl
    · -- that was the last attempt
      rw [sendLoop_of_lt hmore]
      refine iff_of_false nofun ?_
      rintro ⟨pre, v, post, hout, hv, -, hatt, -⟩
      cases pre with
      | nil => exact hwhole ((List.cons.inj hout).1 ▸ hv)
      | cons u pre => exact hmore ((attempts_succ hretry _).1 hatt).1

lemma uartRs422SendFrame_success_iff {client : UartClient} :
    uartRs422SendFrame client frame outcomes = some (.success, wire) ↔
      client.isOpen = true ∧ frame ≠ [] ∧ ∃ pre w post, outcomes = pre ++ w :: post ∧ w.IsWhole ∧
        (∀ v ∈ pre, ¬ v.IsWhole) ∧ Attempts client.maxRetries pre.length ∧
        wire = partsSent frame pre ++ frame := by
  have hzero : (0 : UInt32) ≤ client.maxRetries := UInt32.le_iff_toNat_le.2 (Nat.zero_le _)
  have hfirst : (0 : UInt32).toNat = 0 := rfl
  have hloop := @sendLoop_success_iff frame client.maxRetries 0 outcomes wire hzero
  rw [uartRs422SendFrame]
  split_ifs with hbad
  · refine iff_of_false nofun ?_
    rintro ⟨hopen, hne, -⟩
    rcases hbad with hclosed | hempty
    · rw [hopen] at hclosed
      cases hclosed
    · exact hne (List.length_eq_zero_iff.1 hempty)
  · obtain ⟨hopen, hne⟩ := not_or.1 hbad
    simp only [hloop, hfirst, Nat.zero_add, Bool.eq_true_of_not_eq_false hopen, true_and,
      show frame ≠ [] from fun h => hne (List.length_eq_zero_iff.2 h), ne_eq, not_false_eq_true]

/-! ### The line -/

/-- No write takes a part of the frame before the first one, among those there are attempts for,
that takes all of it. -/
def NoPartBeforeWhole (client : UartClient) (frame : Bytes)
    (outcomes : List (WriteOutcome frame.length)) : Prop :=
  client.isOpen = true → ∀ pre w post, outcomes = pre ++ w :: post → w.IsWhole →
    (∀ v ∈ pre, ¬ v.IsWhole) → Attempts client.maxRetries pre.length → ∀ v ∈ pre, v.count = 0

lemma partsSent_eq_nil_iff (hne : frame ≠ []) (ws : List (WriteOutcome frame.length)) :
    partsSent frame ws = [] ↔ ∀ w ∈ ws, w.count = 0 := by
  simp [partsSent, List.flatMap_eq_nil_iff, List.take_eq_nil_iff, hne]

/-- A frame that is sent with success stands on the line once, and nothing else does, if and only
if no attempt before has sent a part of it. -/
theorem uartRs422SendFrame_once_iff (client : UartClient) (frame : Bytes)
    (outcomes : List (WriteOutcome frame.length)) :
    (∀ wire, uartRs422SendFrame client frame outcomes = some (.success, wire) → wire = frame) ↔
      NoPartBeforeWhole client frame outcomes := by
  constructor
  · intro h hopen pre w post hout hw hpre hatt
    by_cases hne : frame = []
    · -- of an empty frame there are no parts
      intro v _
      subst hne
      cases v with
      | error => rfl
      | took n => exact Nat.lt_one_iff.1 n.isLt
    have hwire := h _ (uartRs422SendFrame_success_iff.2
      ⟨hopen, hne, pre, w, post, hout, hw, hpre, hatt, rfl⟩)
    exact (partsSent_eq_nil_iff hne pre).1 (List.append_left_eq_self.1 hwire)
  · intro h wire hsuccess
    obtain ⟨hopen, hne, pre, w, post, hout, hw, hpre, hatt, rfl⟩ :=
      uartRs422SendFrame_success_iff.1 hsuccess
    rw [(partsSent_eq_nil_iff hne pre).2 (h hopen pre w post hout hw hpre hatt), List.nil_append]

/-- After a partial write the frame is sent from its start, behind the part. -/
theorem part_sent_twice :
    ¬ ∀ (client : UartClient) (frame : Bytes) (outcomes : List (WriteOutcome frame.length))
      (wire : Bytes),
      uartRs422SendFrame client frame outcomes = some (.success, wire) → wire = frame := by
  intro hall
  have hwire := hall ⟨true, 1⟩ [0xEB, 0x90] [.took 1, .took 2] [0xEB, 0xEB, 0x90] (by decide)
  exact absurd hwire (by decide)

end AntennaMgmt.Rs422
