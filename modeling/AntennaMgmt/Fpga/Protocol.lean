import AntennaMgmt.Rs422.Frame

/-!
# Frames from the FPGA

On the UART the FPGA sends status frames and telemetry log frames.  The two have headers of
their own and rules of their own for the length.
-/

namespace AntennaMgmt.Fpga

open AntennaMgmt.Lib
open AntennaMgmt.Rs422 (beNat)

/-- `FPGA_FRAME_HEADER`. -/
def frameHeader : ℕ := 0xEB90

/-- `FPGA_FRAME_TAIL`. -/
def frameTail : ℕ := 0x5555

/-- `FPGA_TELEMETRY_LOG_HEADER`. -/
def telemetryLogHeader : ℕ := 0xEB93

/-- `FPGA_TELEMETRY_LOG_LEN_V7A`. -/
def telemetryLogLenV7a : ℕ := 127

/-- `FPGA_TELEMETRY_LOG_LEN_V7B`. -/
def telemetryLogLenV7b : ℕ := 146

/-- `FPGA_MIN_FRAME_SIZE`. -/
def minFrameSize : ℕ := 6

/-- The size of `fpga_status_frame_t`. -/
def statusFrameSize : ℕ := 133

/-- `fpga_telemetry_payload_len`: 0 for a source that is not known. -/
def fpgaTelemetryPayloadLen (src : UInt8) : ℕ :=
  if src = 0xA1 then telemetryLogLenV7a
  else if src = 0xB1 then telemetryLogLenV7b
  else if src = 0xB2 then telemetryLogLenV7b
  else 0

/-- `fpga_status_frame_t`; the data are the 127 bytes of the packed `fpga_status_data_t`. -/
structure FpgaStatusFrame where
  frameHeader : ℕ
  length : ℕ
  data : Bytes
  frameTail : ℕ
deriving DecidableEq, Repr

/-- Offset and width of the numbers in `fpga_status_data_t`: `nr_beam_count`, `max_tx_power`,
`supported_modes`, `hw_version`, `current_output_power`, `beam_status`, `lo_frequency`,
`lo_lock_status`, `clock_sync_status`, `phased_array_work_mode`, `cpri_work_mode`, `toffset`,
`t2a`, `ta3`, `tx_freq_start`, `tx_freq_end`, `rx_freq_start`, `rx_freq_end`, `beam_bandwidth`
and `reserved5`. -/
def statusNumbers : List (ℕ × ℕ) :=
  [(4, 4), (8, 2), (10, 2), (44, 4), (48, 2), (54, 4), (58, 4), (62, 4), (73, 4), (77, 4), (81, 4),
    (87, 4), (91, 4), (95, 4), (113, 2), (115, 2), (117, 2), (119, 2), (121, 2), (123, 4)]

/-- `NTOHS` or `NTOHL`, in place, of the number of the given offset and width. -/
def swapNumber (data : Bytes) (field : ℕ × ℕ) : Bytes :=
  data.take field.1 ++ (slice data field.1 field.2).reverse ++ data.drop (field.1 + field.2)

/-- `fpga_decode_status_frame`. -/
def fpgaDecodeStatusFrame (buffer : Bytes) : Option FpgaStatusFrame :=
  if buffer.length ≠ statusFrameSize then none
  else
    let header := beNat (slice buffer 0 2)
    let tail := beNat (slice buffer 131 2)
    if header ≠ frameHeader ∨ tail ≠ frameTail then none
    else some ⟨header, beNat (slice buffer 2 2),
      statusNumbers.foldl swapNumber (slice buffer 4 127), tail⟩

/-! ### Frequencies on the wire -/

/-- `fpga_encode_frequency`: the frequency in units of 50 MHz in the top byte, the rest in
units of 500 Hz below. -/
def fpgaEncodeFrequency (freqKhz : ℕ) : ℕ :=
  let quotient := freqKhz / 50000 % 256
  let remainder := freqKhz % 50000 * 2
  quotient <<< 24 ||| remainder &&& 0xFFFFFF

/-- `fpga_decode_frequency`. -/
def fpgaDecodeFrequency (encodedFreq : ℕ) : ℕ :=
  let quotient := encodedFreq >>> 24 &&& 0xFF
  let remainder := encodedFreq &&& 0xFFFFFF
  quotient * 50000 + remainder / 2

/-- The encoding keeps 256 units of 50 MHz apart and no more. -/
lemma fpgaDecodeFrequency_encode (freqKhz : ℕ) :
    fpgaDecodeFrequency (fpgaEncodeFrequency freqKhz) = freqKhz % 12800000 := by
  have hrem : freqKhz % 50000 * 2 &&& 0xFFFFFF = freqKhz % 50000 * 2 := by
    rw [show 0xFFFFFF = 2 ^ 24 - 1 from rfl, Nat.and_two_pow_sub_one_eq_mod]
    omega
  have henc : fpgaEncodeFrequency freqKhz =
      freqKhz / 50000 % 256 * 2 ^ 24 + freqKhz % 50000 * 2 := by
    rw [fpgaEncodeFrequency, hrem, ← Nat.shiftLeft_add_eq_or_of_lt (by omega), Nat.shiftLeft_eq]
  rw [henc, fpgaDecodeFrequency, Nat.shiftRight_eq_div_pow, show 0xFF = 2 ^ 8 - 1 from rfl,
    show 0xFFFFFF = 2 ^ 24 - 1 from rfl, Nat.and_two_pow_sub_one_eq_mod,
    Nat.and_two_pow_sub_one_eq_mod]
  omega

/-- What is sent is what was asked for exactly below 12.8 GHz. -/
lemma fpgaDecodeFrequency_encode_eq_iff {freqKhz : ℕ} :
    fpgaDecodeFrequency (fpgaEncodeFrequency freqKhz) = freqKhz ↔ freqKhz < 12800000 := by
  rw [fpgaDecodeFrequency_encode, Nat.mod_eq_iff_lt (by decide)]

end AntennaMgmt.Fpga
