import AntennaMgmt.Cell.Config

/-!
# The frequency command

`fpga_send_freq_band` packs the two frequencies and the bandwidth into the payload of a frame and
writes the frame to the UART.  The packed form has eight bits for the units of 50 MHz, and nothing
on the way checks that they are enough.
-/

namespace AntennaMgmt.Fpga

open AntennaMgmt.Lib
open AntennaMgmt.Rs422 (be16 be32 beNat beNat_be32)
open AntennaMgmt.Cell (freqBand)

/-! ### Frames to the FPGA -/

/-- `FPGA_MSG_FREQ_BAND`. -/
def msgFreqBand : UInt8 := 0x08

/-- `fpga_message_t`. -/
structure FpgaMessage where
  msgId : UInt8
  payload : Bytes
deriving DecidableEq, Repr

/-- The frame of a message: header, message id, length field, payload and tail.  The length
field is the low byte of the payload's length. -/
def frameOf (msg : FpgaMessage) : Bytes :=
  be16 frameHeader ++ [msg.msgId, UInt8.ofNat msg.payload.length] ++ msg.payload ++ be16 frameTail

/-- `fpga_encode_message` into a buffer of the given size. -/
def fpgaEncodeMessage (msg : FpgaMessage) (bufferSize : ℕ) : Option Bytes :=
  if bufferSize < 2 + 1 + 1 + msg.payload.length + 2 then none else some (frameOf msg)

/-- The payload lies behind the header, the id and the length field. -/
lemma payload_frameOf (msg : FpgaMessage) :
    slice (frameOf msg) 4 msg.payload.length = msg.payload := by
  simp [slice, frameOf, be16]

/-! ### Writing to the UART -/

/-- `uart_state_t`, as far as a send can tell. -/
inductive UartState
  | closed
  | opened
  | error
deriving DecidableEq, Repr

/-- The fields of `uart_client_t` that sending depends on. -/
structure UartClient where
  fd : Option ℕ
  state : UartState
deriving DecidableEq, Repr

/-- What `write()` comes to: bytes are taken, possibly none, a signal interrupts it, or it
fails. -/
inductive WriteOutcome
  | wrote (n : ℕ)
  | eintr
  | error
deriving DecidableEq, Repr

/-- What the functions that send a command return. -/
inductive SendResult
  | success
  | errorInvalidParam
  | errorGeneral
deriving DecidableEq, Repr

/-- The loop of `uart_client_send` over the rest of the data: the result, unless the call is still
writing when the outcomes end, and the bytes that the UART takes. -/
def writeLoop : Bytes → List WriteOutcome → Option SendResult × Bytes
  | [], _ => (some .success, [])
  | _ :: _, [] => (none, [])
  | b :: rest, .wrote (n + 1) :: outcomes =>
    let (ret, written) := writeLoop ((b :: rest).drop (n + 1)) outcomes
    (ret, (b :: rest).take (n + 1) ++ written)
  -- a write that makes no progress ends the loop
  | _ :: _, .wrote 0 :: _ => (some .errorGeneral, [])
  | b :: rest, .eintr :: outcomes => writeLoop (b :: rest) outcomes
  | _ :: _, .error :: _ => (some .errorGeneral, [])

/-- `uart_client_send`: the result and the bytes written. -/
def uartClientSend (client : UartClient) (data : Bytes) (outcomes : List WriteOutcome) :
    Option SendResult × Bytes :=
  if data.length = 0 then (some .errorInvalidParam, [])
  else if client.state ≠ .opened ∨ client.fd = none then (some .errorGeneral, [])
  else writeLoop data outcomes

/-- The loop succeeds only with everything written. -/
lemma writeLoop_success {data : Bytes} {outcomes : List WriteOutcome}
    (h : (writeLoop data outcomes).1 = some .success) : (writeLoop data outcomes).2 = data := by
  fun_induction writeLoop data outcomes with
  | case1 => rfl
  | case2 => cases h
  | case3 b rest n outcomes ret written heq ih =>
    rw [heq] at ih
    have hrest : written = (b :: rest).drop (n + 1) := ih h
    rw [hrest]
    exact List.take_append_drop _ _
  | case4 => cases h
  | case5 b rest outcomes ih => exact ih h
  | case6 => cases h

/-- A command that was sent is on the wire as a whole. -/
lemma uartClientSend_success {client : UartClient} {data : Bytes} {outcomes : List WriteOutcome}
    (h : (uartClientSend client data outcomes).1 = some .success) :
    (uartClientSend client data outcomes).2 = data := by
  rw [uartClientSend] at h ⊢
  split_ifs at h ⊢ with hdata hclient
  · cases h
  · cases h
  · exact writeLoop_success h

/-! ### The command -/

/-- The payload of the command: the frequencies, encoded, around the bandwidth. -/
def freqBandPayload (dlFreq ulFreq bandwidth : UInt32) : Bytes :=
  be32 (fpgaEncodeFrequency dlFreq.toNat) ++ be32 bandwidth.toNat ++
    be32 (fpgaEncodeFrequency ulFreq.toNat)

/-- `fpga_send_freq_band`: the result and the bytes written to the UART. -/
def fpgaSendFreqBand (client : UartClient) (dlFreq ulFreq bandwidth : UInt32)
    (outcomes : List WriteOutcome) : Option SendResult × Bytes :=
  let msg : FpgaMessage := ⟨msgFreqBand, freqBandPayload dlFreq ulFreq bandwidth⟩
  match fpgaEncodeMessage msg 64 with
  | some frame => uartClientSend client frame outcomes
  | none => (some .errorGeneral, [])

/-- The payload of a command on the wire. -/
def sentPayload (written : Bytes) : Bytes := slice written 4 12

/-- The frequency words of a payload, decoded. -/
def sentFrequencies (written : Bytes) : ℕ × ℕ :=
  (fpgaDecodeFrequency (beNat (slice (sentPayload written) 0 4)),
    fpgaDecodeFrequency (beNat (slice (sentPayload written) 8 4)))

/-- An encoded frequency fills its 32 bits at most. -/
lemma fpgaEncodeFrequency_lt (freqKhz : ℕ) : fpgaEncodeFrequency freqKhz < 4294967296 := by
  have hquotient : (freqKhz / 50000 % 256) <<< 24 < 2 ^ 32 := by
    rw [Nat.shiftLeft_eq]
    omega
  have hremainder : freqKhz % 50000 * 2 &&& 0xFFFFFF < 2 ^ 32 :=
    lt_of_le_of_lt Nat.and_le_right (by decide)
  exact Nat.or_lt_two_pow hquotient hremainder

/-- The words of the payload are those of the setting that the cell table keeps track of. -/
lemma freqBandPayload_words (dlFreq ulFreq bandwidth : UInt32) :
    beNat (slice (freqBandPayload dlFreq ulFreq bandwidth) 0 4) =
        (freqBand dlFreq.toNat ulFreq.toNat bandwidth.toNat).dlEncoded ∧
      beNat (slice (freqBandPayload dlFreq ulFreq bandwidth) 4 4) =
        (freqBand dlFreq.toNat ulFreq.toNat bandwidth.toNat).bandwidth ∧
      beNat (slice (freqBandPayload dlFreq ulFreq bandwidth) 8 4) =
        (freqBand dlFreq.toNat ulFreq.toNat bandwidth.toNat).ulEncoded := by
  have hdl : slice (freqBandPayload dlFreq ulFreq bandwidth) 0 4 =
      be32 (fpgaEncodeFrequency dlFreq.toNat) := rfl
  have hbw : slice (freqBandPayload dlFreq ulFreq bandwidth) 4 4 = be32 bandwidth.toNat := rfl
  have hul : slice (freqBandPayload dlFreq ulFreq bandwidth) 8 4 =
      be32 (fpgaEncodeFrequency ulFreq.toNat) := rfl
  rw [hdl, hbw, hul, beNat_be32, beNat_be32, beNat_be32,
    Nat.mod_eq_of_lt (fpgaEncodeFrequency_lt _), Nat.mod_eq_of_lt (fpgaEncodeFrequency_lt _),
    Nat.mod_eq_of_lt bandwidth.toNat_lt]
  exact ⟨rfl, rfl, rfl⟩

section Sent

variable {client : UartClient} {dlFreq ulFreq bandwidth : UInt32} {outcomes : List WriteOutcome}

/-- The frame fits its buffer, so that the result is that of the UART. -/
lemma fpgaSendFreqBand_eq : fpgaSendFreqBand client dlFreq ulFreq bandwidth outcomes =
    uartClientSend client (frameOf ⟨msgFreqBand, freqBandPayload dlFreq ulFreq bandwidth⟩)
      outcomes := by
  have hfits : ¬ 64 < 2 + 1 + 1 + (freqBandPayload dlFreq ulFreq bandwidth).length + 2 := by
    have hlen : (freqBandPayload dlFreq ulFreq bandwidth).length = 12 := rfl
    omega
  rw [fpgaSendFreqBand, fpgaEncodeMessage, if_neg hfits]

/-- What a command that was sent carries: the frequencies up to 12.8 GHz, and the rest of them
above. -/
lemma sentFrequencies_eq
    (hsent : (fpgaSendFreqBand client dlFreq ulFreq bandwidth outcomes).1 = some .success) :
    sentFrequencies (fpgaSendFreqBand client dlFreq ulFreq bandwidth outcomes).2 =
      (dlFreq.toNat % 12800000, ulFreq.toNat % 12800000) := by
  have hpayload : sentPayload (frameOf ⟨msgFreqBand, freqBandPayload dlFreq ulFreq bandwidth⟩) =
      freqBandPayload dlFreq ulFreq bandwidth := payload_frameOf _
  obtain ⟨hdl, -, hul⟩ := freqBandPayload_words dlFreq ulFreq bandwidth
  rw [fpgaSendFreqBand_eq] at hsent ⊢
  rw [uartClientSend_success hsent, sentFrequencies, hpayload, hdl, hul, freqBand,
    fpgaDecodeFrequency_encode, fpgaDecodeFrequency_encode]

/-- The frequencies on the wire are those asked for exactly when both are below 12.8 GHz. -/
theorem sentFrequencies_eq_iff
    (hsent : (fpgaSendFreqBand client dlFreq ulFreq bandwidth outcomes).1 = some .success) :
    sentFrequencies (fpgaSendFreqBand client dlFreq ulFreq bandwidth outcomes).2 =
        (dlFreq.toNat, ulFreq.toNat) ↔ dlFreq.toNat < 12800000 ∧ ulFreq.toNat < 12800000 := by
  rw [sentFrequencies_eq hsent, Prod.mk.injEq, Nat.mod_eq_iff_lt (by decide),
    Nat.mod_eq_iff_lt (by decide)]

end Sent

/-- Frequencies in the S band are carried, in a frame that the UART takes in two parts. -/
theorem sentFrequencies_sBand :
    sentFrequencies
        (fpgaSendFreqBand ⟨some 5, .opened⟩ 2610000 2500000 20 [.wrote 7, .eintr, .wrote 11]).2 =
      (2610000, 2500000) :=
  (sentFrequencies_eq_iff (by decide)).2 ⟨by decide, by decide⟩

/-- A downlink of 12.8 GHz goes out as 0. -/
theorem sentFrequencies_wraps :
    ¬ ∀ (client : UartClient) (dlFreq ulFreq bandwidth : UInt32) (outcomes : List WriteOutcome),
      (fpgaSendFreqBand client dlFreq ulFreq bandwidth outcomes).1 = some .success →
        sentFrequencies (fpgaSendFreqBand client dlFreq ulFreq bandwidth outcomes).2 =
          (dlFreq.toNat, ulFreq.toNat) := by
  intro h
  have hsent := h ⟨some 5, .opened⟩ 12800000 2500000 20 [.wrote 18] (by decide)
  revert hsent
  decide

end AntennaMgmt.Fpga
