import AntennaMgmt.Cpri.Message

/-!
# Encoding CPRI messages

`cpri_encode_message` writes the header field by field, with the length of what it writes in the
place of `msg_length`, and the payload behind it.  Encoder and decoder are inverse to one another
on messages whose header names their length.
-/

namespace AntennaMgmt.Cpri

open AntennaMgmt.Lib

/-- The header as `cpri_encode_message` writes it; `msgLength` is the length it computed. -/
def encodeHeader (header : CpriHeader) (msgLength : ℕ) : Bytes :=
  leBytes 4 header.msgId ++ leBytes 4 msgLength ++
    [header.paauId, header.bbuId, header.portNum] ++ leBytes 4 header.serialNum

/-- `cpri_encode_message`: the value returned and the buffer afterwards, or nothing when the
buffer is too small. -/
def cpriEncodeMessage (msg : CpriMessage) (buffer : Bytes) : Option (ℕ × Bytes) :=
  let totalLen := (cpriHeaderLen + msg.payload.length) % 2 ^ 32
  if buffer.length < totalLen then none
  else some (totalLen, encodeHeader msg.header totalLen ++ msg.payload ++ buffer.drop totalLen)

/-- The fields of the header that the encoder writes fit their places. -/
structure CpriHeader.InRange (header : CpriHeader) : Prop where
  msgId : header.msgId < 2 ^ 32
  serialNum : header.serialNum < 2 ^ 32

@[simp] lemma length_encodeHeader (header : CpriHeader) (n : ℕ) :
    (encodeHeader header n).length = cpriHeaderLen := by
  simp [encodeHeader, cpriHeaderLen]

/-- A message that a buffer has room for is written to the front of it. -/
lemma cpriEncodeMessage_of_le {msg : CpriMessage} {buffer : Bytes}
    (hlen : cpriHeaderLen + msg.payload.length < 2 ^ 32)
    (hroom : cpriHeaderLen + msg.payload.length ≤ buffer.length) :
    cpriEncodeMessage msg buffer = some (cpriHeaderLen + msg.payload.length,
      encodeHeader msg.header (cpriHeaderLen + msg.payload.length) ++ msg.payload ++
        buffer.drop (cpriHeaderLen + msg.payload.length)) := by
  have htotal := Nat.mod_eq_of_lt hlen
  rw [cpriEncodeMessage, htotal]
  exact if_neg (Nat.not_lt.2 hroom)

/-- The header that was written is read back, with the length in its place. -/
lemma decodeHeader_encodeHeader {header : CpriHeader} (h : header.InRange) {n : ℕ}
    (hn : n < 2 ^ 32) (payload : Bytes) :
    decodeHeader (encodeHeader header n ++ payload) = { header with msgLength := n } := by
  have hid : slice (encodeHeader header n ++ payload) 0 4 = leBytes 4 header.msgId := rfl
  have hlength : slice (encodeHeader header n ++ payload) 4 4 = leBytes 4 n := rfl
  have hserial : slice (encodeHeader header n ++ payload) 11 4 = leBytes 4 header.serialNum := rfl
  have hcut : ∀ m < 2 ^ 32, leNat (leBytes 4 m) = m := by
    intro m hm
    rw [leNat_leBytes]
    exact Nat.mod_eq_of_lt hm
  rw [decodeHeader, hid, hlength, hserial, hcut _ h.msgId, hcut _ hn, hcut _ h.serialNum]
  rfl

/-- What was read from a header that names its length is written again. -/
lemma encodeHeader_decodeHeader {bytes : Bytes} (hmin : cpriHeaderLen ≤ bytes.length) :
    encodeHeader (decodeHeader bytes) (leNat (slice bytes 4 4)) = bytes.take cpriHeaderLen := by
  have hmin' : 15 ≤ bytes.length := hmin
  have hbytes : [(decodeHeader bytes).paauId, (decodeHeader bytes).bbuId,
      (decodeHeader bytes).portNum] = slice bytes 8 1 ++ slice bytes 9 1 ++ slice bytes 10 1 := by
    rw [slice_one (by omega), slice_one (by omega), slice_one (by omega)]
    rfl
  have hparts : slice bytes 0 (4 + 4 + (1 + 1 + 1) + 4) = bytes.take cpriHeaderLen := rfl
  rw [encodeHeader, hbytes, ← hparts, slice_add, slice_add, slice_add, slice_add bytes _ (1 + 1),
    slice_add bytes _ 1 1]
  rw [decodeHeader, leBytes_leNat_slice (by omega), leBytes_leNat_slice (by omega),
    leBytes_leNat_slice (by omega)]

/-- The body of what was written is the message, with the length written in its header. -/
lemma decodeBody_encode {msg : CpriMessage} (h : msg.header.InRange) {n : ℕ} (hn : n < 2 ^ 32) :
    decodeBody (encodeHeader msg.header n ++ msg.payload) =
      ⟨{ msg.header with msgLength := n }, msg.payload⟩ := by
  rw [decodeBody, decodeHeader_encodeHeader h hn,
    List.drop_left' (length_encodeHeader msg.header n)]

/-- The bytes of a message are its header and its body. -/
lemma encode_decodeBody {bytes : Bytes} (hmin : cpriHeaderLen ≤ bytes.length)
    (hlen : leNat (slice bytes 4 4) = bytes.length) :
    encodeHeader (decodeBody bytes).header bytes.length ++ (decodeBody bytes).payload = bytes := by
  have hheader := encodeHeader_decodeHeader hmin
  rw [hlen] at hheader
  rw [decodeBody, hheader, List.take_append_drop]

/-- **The codec is a round trip.**  While a slot of the pool is free, a message with a payload of
at most `MAX_CPRI_PAYLOAD_SIZE` bytes is encoded to bytes that decode to it, with their length in
the header; and the bytes of a message that names its length decode to a message that is encoded
to them again. -/
theorem cpriCodec_roundTrip {pool : Pool} (hpool : pool.HasFree) :
    (∀ (msg : CpriMessage) (buffer : Bytes), msg.header.InRange →
      msg.payload.length ≤ maxCpriPayloadSize →
      cpriHeaderLen + msg.payload.length ≤ buffer.length →
      ∃ n out slot pool', cpriEncodeMessage msg buffer = some (n, out) ∧
        cpriDecodeMessage pool (out.take n) =
          .ok (⟨{ msg.header with msgLength := n }, msg.payload⟩, slot, pool') ∧
        n = cpriHeaderLen + msg.payload.length) ∧
    (∀ bytes buffer : Bytes, cpriHeaderLen ≤ bytes.length →
      bytes.length ≤ cpriHeaderLen + maxCpriPayloadSize →
      leNat (slice bytes 4 4) = bytes.length → bytes.length ≤ buffer.length →
      ∃ msg slot pool', cpriDecodeMessage pool bytes = .ok (msg, slot, pool') ∧
        cpriEncodeMessage msg buffer =
          some (bytes.length, bytes ++ buffer.drop bytes.length)) := by
  constructor
  · intro msg buffer hrange hmax hroom
    have hlt : cpriHeaderLen + msg.payload.length < 2 ^ 32 := by
      rw [maxCpriPayloadSize] at hmax
      rw [cpriHeaderLen]
      omega
    set n := cpriHeaderLen + msg.payload.length with hn
    have hlength : (encodeHeader msg.header n ++ msg.payload).length = n := by simp [hn]
    have htake : (encodeHeader msg.header n ++ msg.payload ++ buffer.drop n).take n =
        encodeHeader msg.header n ++ msg.payload := List.take_left' hlength
    obtain ⟨slot, pool', hdecode, -⟩ :
        ∃ slot pool', cpriDecodeMessage pool (encodeHeader msg.header n ++ msg.payload) =
          .ok (decodeBody (encodeHeader msg.header n ++ msg.payload), slot, pool') ∧ _ :=
      cpriDecodeMessage_spec hpool (by omega) (by omega)
    rw [decodeBody_encode hrange hlt] at hdecode
    refine ⟨n, _, slot, pool', cpriEncodeMessage_of_le hlt hroom, ?_, rfl⟩
    rw [htake]
    exact hdecode
  · intro bytes buffer hmin hmax hlen hroom
    obtain ⟨slot, pool', hdecode, -⟩ := cpriDecodeMessage_spec hpool hmin (by omega)
    have hpayload : cpriHeaderLen + (decodeBody bytes).payload.length = bytes.length := by
      rw [decodeBody, List.length_drop]
      omega
    have hlt : bytes.length < 2 ^ 32 := by
      rw [cpriHeaderLen, maxCpriPayloadSize] at hmax
      omega
    refine ⟨decodeBody bytes, slot, pool', hdecode, ?_⟩
    rw [cpriEncodeMessage_of_le (hpayload.trans_lt hlt) (hpayload.trans_le hroom), hpayload,
      encode_decodeBody hmin hlen]

/-- A pool that nothing was taken from serves both directions. -/
theorem cpriCodec_roundTrip_fresh :
    Pool.fresh.HasFree ∧ ∃ n out slot pool',
      cpriEncodeMessage ⟨⟨0x5DD, 0, 1, 2, 3, 7⟩, [0xAA, 0xBB]⟩ (List.replicate 20 0) =
        some (n, out) ∧
      cpriDecodeMessage Pool.fresh (out.take n) =
        .ok (⟨⟨0x5DD, n, 1, 2, 3, 7⟩, [0xAA, 0xBB]⟩, slot, pool') ∧ n = 17 :=
  ⟨Pool.fresh_hasFree,
    (cpriCodec_roundTrip Pool.fresh_hasFree).1 ⟨⟨0x5DD, 0, 1, 2, 3, 7⟩, [0xAA, 0xBB]⟩
      (List.replicate 20 0) ⟨by decide, by decide⟩ (by decide) (by decide)⟩

end AntennaMgmt.Cpri
