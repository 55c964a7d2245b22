import AntennaMgmt.Rs422.Cuts

/-!
# The frames that are accepted

A frame is looked at twice: by the check that the packet finder makes, which knows the length the
finder has read, and by `rs422_decode_frame`, which reads the length field itself.  This file says
what the decoder accepts, that the two agree, that the decoder gives back what the two encoders
were given, and that it sees when a byte has been changed.
-/

namespace AntennaMgmt.Rs422

open AntennaMgmt.Lib

/-! ### What the decoder accepts -/

/-- The data length field of a frame. -/
def lengthField (f : Bytes) : ℕ := beNat (slice f 6 2)

/-- A frame that meets what `rs422_decode_frame` checks. -/
structure Accepted (f : Bytes) : Prop where
  sync_eq : beNat (slice f 0 2) = syncWordAck
  one_le : 1 ≤ lengthField f
  le_length : lengthField f + 11 ≤ f.length
  checksum_eq : slice f (lengthField f + 9) 2 =
    be16 (rs422Checksum (slice f 2 (lengthField f + 7)))

/-- What such a frame is decoded to. -/
def decoded (f : Bytes) : ℕ × ℕ × Bytes := (apidOf f, wordOf f, slice f 10 (lengthField f - 1))

lemma Accepted.decode {f : Bytes} (h : Accepted f) : rs422DecodeFrame f = some (decoded f) := by
  have hone := h.one_le
  have hle := h.le_length
  have hoffset : headerSize + (lengthField f + 1) = lengthField f + 9 := by
    unfold headerSize
    omega
  have hdata : lengthField f + 1 - 2 = lengthField f - 1 := by omega
  have hbody : lengthField f + 9 - 2 = lengthField f + 7 := by omega
  have hfield : beNat (slice f 6 2) = lengthField f := rfl
  unfold rs422DecodeFrame
  rw [if_neg (by unfold headerSize crcSize; omega), if_neg (not_not.2 h.sync_eq)]
  simp only [hfield]
  rw [if_neg (by omega), if_neg (by unfold headerSize crcSize; omega), hoffset, hbody,
    if_neg (not_not.2 h.checksum_eq), hdata]
  rfl

lemma accepted_of_decode {f : Bytes} {r : ℕ × ℕ × Bytes} (h : rs422DecodeFrame f = some r) :
    Accepted f := by
  unfold rs422DecodeFrame at h
  simp only at h
  split_ifs at h with hmin hsync hshort hlen hsum
  have hfield : beNat (slice f 6 2) = lengthField f := rfl
  rw [hfield] at hshort hlen hsum
  have hoffset : headerSize + (lengthField f + 1) = lengthField f + 9 := by
    unfold headerSize
    omega
  have hbody : lengthField f + 9 - 2 = lengthField f + 7 := by omega
  rw [hoffset] at hlen
  rw [hoffset, hbody] at hsum
  unfold crcSize at hlen
  exact ⟨not_not.1 hsync, by omega, by omega, not_not.1 hsum⟩

/-- The decoder, without the order of its checks. -/
lemma rs422DecodeFrame_eq_some_iff {f : Bytes} {r : ℕ × ℕ × Bytes} :
    rs422DecodeFrame f = some r ↔ Accepted f ∧ r = decoded f := by
  constructor
  · intro h
    have hacc := accepted_of_decode h
    rw [hacc.decode] at h
    exact ⟨hacc, (Option.some.inj h).symm⟩
  · rintro ⟨hacc, rfl⟩
    exact hacc.decode

lemma rs422DecodeFrame_isSome_iff {f : Bytes} : (rs422DecodeFrame f).isSome ↔ Accepted f := by
  rw [Option.isSome_iff_exists]
  constructor
  · rintro ⟨r, h⟩
    exact accepted_of_decode h
  · exact fun h => ⟨_, h.decode⟩

/-! ### What the decoder reads -/

/-- A read of `w` bytes at offset `i` of a buffer; there is none past its end. -/
def readField (f : Bytes) (i w : ℕ) : Option Bytes :=
  if i + w ≤ f.length then some (slice f i w) else none

/-- `rs422_decode_frame` with its reads one by one, in the order of the source.  There is no
result at all when one of them goes past the frame. -/
def rs422DecodeFrameReads (f : Bytes) : Option (Option (ℕ × ℕ × Bytes)) := do
  if f.length < headerSize + 2 + crcSize then return none
  let sync ← readField f 0 2
  if beNat sync ≠ syncWordAck then return none
  let apid ← readField f 2 2
  let dataLen ← readField f 6 2
  let actualDataLen := beNat dataLen + 1
  if actualDataLen < 2 then return none
  if f.length < headerSize + actualDataLen + crcSize then return none
  let checksumOffset := headerSize + actualDataLen
  let body ← readField f 2 (checksumOffset - 2)
  let checksum ← readField f checksumOffset 2
  if checksum ≠ be16 (rs422Checksum body) then return none
  let cmd ← readField f 8 2
  -- the payload is not read, but the caller is given this much of the frame
  let payload ← readField f 10 (actualDataLen - 2)
  return some (beNat apid, beNat cmd, payload)

lemma readField_eq {f : Bytes} {i w : ℕ} (h : i + w ≤ f.length) :
    readField f i w = some (slice f i w) := if_pos h

/-- The decoder reads nothing past the frame. -/
lemma rs422DecodeFrameReads_eq (f : Bytes) :
    rs422DecodeFrameReads f = some (rs422DecodeFrame f) := by
  unfold rs422DecodeFrameReads rs422DecodeFrame
  by_cases hmin : f.length < headerSize + 2 + crcSize
  · rw [if_pos hmin, if_pos hmin]
    rfl
  have htwelve : 12 ≤ f.length := by
    unfold headerSize crcSize at hmin
    omega
  rw [if_neg hmin, if_neg hmin, readField_eq (i := 0) (by omega)]
  simp only [Option.bind_eq_bind, Option.bind_some]
  by_cases hsync : beNat (slice f 0 2) ≠ syncWordAck
  · rw [if_pos hsync, if_pos hsync]
    rfl
  rw [if_neg hsync, if_neg hsync, readField_eq (i := 2) (w := 2) (by omega),
    readField_eq (i := 6) (by omega)]
  simp only [Option.bind_some]
  by_cases hshort : beNat (slice f 6 2) + 1 < 2
  · rw [if_pos hshort, if_pos hshort]
    rfl
  rw [if_neg hshort, if_neg hshort]
  by_cases hlen : f.length < headerSize + (beNat (slice f 6 2) + 1) + crcSize
  · rw [if_pos hlen, if_pos hlen]
    rfl
  rw [if_neg hlen, if_neg hlen]
  unfold headerSize crcSize at hlen
  rw [readField_eq (i := 2) (by unfold headerSize; omega),
    readField_eq (i := headerSize + _) (by unfold headerSize; omega)]
  simp only [Option.bind_some]
  split_ifs
  · rfl
  · rw [readField_eq (i := 8) (by omega), readField_eq (i := 10) (by omega)]
    rfl

/-! ### What was encoded is decoded -/

/-- A frame with the sync word of an acknowledgement in the place of its own. -/
def withAckSync (f : Bytes) : Bytes := be16 syncWordAck ++ f.drop 2

/-- The frame carries what it was made of, and the decoder reads this from it once the sync word
has been replaced. -/
structure RoundTrips (f : Bytes) (apid flag count word : ℕ) (data : Bytes) : Prop where
  decode_eq : rs422DecodeFrame (withAckSync f) = some (apid % 2 ^ 11, word, data)
  length_eq : f.length = 12 + data.length
  groupFlag_eq : groupFlagOf f = flag
  count_eq : packetIndexOf f = count % 2 ^ 14

section encoded

variable {sync apid seqCtrl word : ℕ} {data : Bytes}

lemma withAckSync_frame : withAckSync (frame sync apid seqCtrl word data) =
    frame syncWordAck apid seqCtrl word data := rfl

lemma lengthField_frame :
    lengthField (frame sync apid seqCtrl word data) = (data.length + 1) % 65536 := by
  have h : slice (frame sync apid seqCtrl word data) 6 2 = be16 (2 + data.length - 1) := rfl
  rw [lengthField, h, beNat_be16]
  omega

/-- The length field of a frame with more data does not say how much it is. -/
lemma length_lt_of_decode {r : ℕ × ℕ × Bytes}
    (h : rs422DecodeFrame (frame syncWordAck apid seqCtrl word data) = some r)
    (hdata : r.2.2 = data) : data.length < 65535 := by
  obtain ⟨hacc, rfl⟩ := rs422DecodeFrame_eq_some_iff.1 h
  have hone := hacc.one_le
  have hle := congrArg List.length hdata
  rw [lengthField_frame] at hone
  rw [decoded, slice, List.length_take, lengthField_frame] at hle
  omega

/-- A frame of either encoder comes back if and only if its length field has room for its length. -/
lemma roundTrips_frame_iff {flag count : ℕ} (hword : word < 65536) (hflag : flag ≤ 3) :
    RoundTrips (frame sync apid (flag * 0x4000 + count % 0x4000) word data) apid flag count word
      data ↔ data.length < 65535 := by
  have heleven : (2 : ℕ) ^ 11 = 0x800 := by norm_num
  have hfourteen : (2 : ℕ) ^ 14 = 0x4000 := by norm_num
  constructor
  · intro h
    have hdecode := h.decode_eq
    rw [withAckSync_frame] at hdecode
    exact length_lt_of_decode hdecode rfl
  · intro hlen
    constructor
    · rw [withAckSync_frame, rs422DecodeFrame_frame apid _ word data hlen, heleven,
        Nat.mod_eq_of_lt hword]
    · rw [length_frame, Nat.add_comm]
    · rw [groupFlagOf, seqCtrl_frame]
      omega
    · rw [packetIndexOf, seqCtrl_frame, hfourteen]
      omega

end encoded

lemma groupFlag_le (packetIndex totalPackets : ℕ) : groupFlag packetIndex totalPackets ≤ 3 := by
  unfold groupFlag
  split_ifs <;> omega

/-- Every command frame comes back, and a data frame does if and only if its data is shorter than
its length field can say: `rs422_build_file_data` has no limit, where `rs422_encode_frame` has. -/
theorem encoders_roundTrip (seq apid cmdCode segmentNum : UInt16) (payload : Bytes)
    (bufSize packetIndex totalPackets : UInt32) (f : Bytes) :
    (rs422EncodeFrame seq.toNat apid.toNat cmdCode.toNat payload bufSize.toNat = some f →
      RoundTrips f apid.toNat 3 seq.toNat cmdCode.toNat payload) ∧
    (rs422BuildFileData segmentNum.toNat payload bufSize.toNat packetIndex.toNat
        totalPackets.toNat = some f →
      (RoundTrips f apidFileData (groupFlag packetIndex.toNat totalPackets.toNat)
        packetIndex.toNat segmentNum.toNat payload ↔ payload.length < 65535)) := by
  constructor
  · intro h
    unfold rs422EncodeFrame at h
    split_ifs at h with hsize hmax
    cases h
    refine (roundTrips_frame_iff cmdCode.toNat_lt le_rfl).2 ?_
    unfold maxPayloadSize at hmax
    omega
  · intro h
    unfold rs422BuildFileData at h
    split_ifs at h with hempty hsize
    cases h
    exact roundTrips_frame_iff segmentNum.toNat_lt (groupFlag_le _ _)

theorem encoders_roundTrip_notify :
    RoundTrips (frame syncWordCmd apidControl 0xC005 0xA207 [0x01, 0xAA]) apidControl 3 5 0xA207
      [0x01, 0xAA] :=
  (encoders_roundTrip 5 0x0180 0xA207 0 [0x01, 0xAA] 512 0 1 _).1 rfl

/-- With 65535 bytes of data the length field is zero, and the frame is not accepted. -/
theorem long_file_data_lost :
    ¬ ∀ (segmentNum : UInt16) (data : Bytes) (bufSize packetIndex totalPackets : UInt32)
      (f : Bytes),
      rs422BuildFileData segmentNum.toNat data bufSize.toNat packetIndex.toNat
          totalPackets.toNat = some f →
        RoundTrips f apidFileData (groupFlag packetIndex.toNat totalPackets.toNat)
          packetIndex.toNat segmentNum.toNat data := by
  intro hall
  obtain ⟨n, hn⟩ : ∃ n : ℕ, n = 65535 := ⟨_, rfl⟩
  have hlength : (List.replicate n (0 : UInt8)).length = n := List.length_replicate
  have hbuf : (70000 : UInt32).toNat = 70000 := rfl
  have hback := hall 0 (List.replicate n 0) 70000 0 1 _ <| by
    unfold rs422BuildFileData
    rw [hlength, if_neg (by omega), if_neg (by unfold headerSize crcSize; omega)]
  have hshort := (roundTrips_frame_iff (by decide) (groupFlag_le _ _)).1 hback
  omega

/-! ### The finder and the decoder -/

/-- A packet as the finder reports it: the head, and as many bytes as the length field says. -/
structure IsPacket (pk : Bytes) : Prop where
  head : pk.take 2 = ackFinder.headBuf
  length_eq : pk.length = lengthField pk + 11

lemma isPacket_of_find {buf : Bytes} {fndLen pkPos pkLen : ℕ}
    (h : pkfinderFind ackFinder buf fndLen = .whole pkPos pkLen) :
    IsPacket (slice buf pkPos pkLen) ∧ (slice buf pkPos pkLen).length = pkLen := by
  unfold pkfinderFind at h
  split at h
  · cases h
  · rename_i pos hfind
    obtain ⟨hat, hmem, -⟩ := List.find?_range_eq_some.1 hfind
    have hhead := (headAt_iff buf pos).1 hat
    have hle : pos ≤ buf.length := by
      have hlen := congrArg List.length hhead
      have htwo : ackFinder.headBuf.length = 2 := rfl
      rw [List.length_take, List.length_drop] at hlen
      omega
    rw [measure_drop hle] at h
    split_ifs at h with h8 hshort
    cases h
    have hfit : (slice buf pkPos (ackLen (buf.drop pkPos))).length = ackLen (buf.drop pkPos) := by
      rw [slice, List.length_take]
      omega
    have heleven : 11 ≤ ackLen (buf.drop pkPos) := Nat.le_add_left 11 _
    refine ⟨⟨?_, ?_⟩, hfit⟩
    · rw [slice, List.take_take, min_eq_left (by omega), hhead]
    · -- the length field lies within the packet
      rw [hfit, lengthField, slice, slice, List.drop_take, List.take_take, min_eq_left (by omega)]
      rfl

variable {pk : Bytes} {ctx : Received}

/-- The check of a packet of a fitting length looks at its checksum. -/
lemma check_iff (hmin : 10 ≤ pk.length) (hmax : pk.length ≤ receivedFrameSize) :
    (rs422FrameCheckAndProcess ctx pk).2 = true ↔
      slice pk (pk.length - 2) 2 = be16 (rs422Checksum (slice pk 2 (pk.length - 4))) := by
  have hbody : pk.length - 2 - 2 = pk.length - 4 := by omega
  have hcrc : pk.length - crcSize = pk.length - 2 := rfl
  unfold rs422FrameCheckAndProcess
  rw [if_neg (by omega), if_neg (by unfold headerSize crcSize; omega), if_neg (not_lt.2 hmax)]
  simp only [hcrc, hbody]
  by_cases hsum : slice pk (pk.length - 2) 2 = be16 (rs422Checksum (slice pk 2 (pk.length - 4)))
  · rw [if_neg (not_not.2 hsum)]
    exact iff_of_true rfl hsum
  · rw [if_pos hsum]
    exact iff_of_false Bool.false_ne_true hsum

/-- The decoder takes what passes the check, when there is room for a command code. -/
lemma IsPacket.accepted_iff (h : IsPacket pk) : Accepted pk ↔
    slice pk (pk.length - 2) 2 = be16 (rs422Checksum (slice pk 2 (pk.length - 4))) ∧
      1 ≤ lengthField pk := by
  have hlen := h.length_eq
  have hsum : lengthField pk + 9 = pk.length - 2 := by omega
  have hbody : lengthField pk + 7 = pk.length - 4 := by omega
  constructor
  · intro hacc
    have hchecksum := hacc.checksum_eq
    rw [hsum, hbody] at hchecksum
    exact ⟨hchecksum, hacc.one_le⟩
  · rintro ⟨hchecksum, hone⟩
    have hsync : beNat (slice pk 0 2) = syncWordAck := by
      rw [slice, List.drop_zero, h.head]
      rfl
    exact ⟨hsync, hone, hlen.ge, by rw [hsum, hbody, hchecksum]⟩

/-- What the finder reports as complete is accepted by the check if and only if the checksum is
right, and by the decoder if and only if moreover it has room for a command code; the decoder
gives the bytes behind the code, up to the checksum, and reads nothing that is not in the packet. -/
theorem finder_and_decoder_agree {buf : Bytes} {fndLen pkPos pkLen : ℕ}
    (hfind : pkfinderFind ackFinder buf fndLen = .whole pkPos pkLen)
    (hpk : slice buf pkPos pkLen = pk) :
    pk.length = pkLen ∧ pkLen = lengthField pk + 11 ∧
      (pkLen ≤ 2048 → ∀ ctx : Received,
        ((rs422FrameCheckAndProcess ctx pk).2 = true ↔
          slice pk (pkLen - 2) 2 = be16 (rs422Checksum (slice pk 2 (pkLen - 4)))) ∧
        ((rs422DecodeFrame pk).isSome ↔
          (rs422FrameCheckAndProcess ctx pk).2 = true ∧ 1 ≤ lengthField pk) ∧
        ∀ r, rs422DecodeFrame pk = some r → r.2.2 = slice pk 10 (pkLen - 12)) ∧
      rs422DecodeFrameReads pk = some (rs422DecodeFrame pk) := by
  obtain ⟨hpacket, hlength⟩ := isPacket_of_find hfind
  rw [hpk] at hpacket hlength
  have hfield := hpacket.length_eq
  refine ⟨hlength, by omega, ?_, rs422DecodeFrameReads_eq pk⟩
  intro hmax ctx
  have hcheck := @check_iff pk ctx (by omega) (by rw [hlength]; exact hmax)
  rw [hlength] at hcheck
  refine ⟨hcheck, ?_, ?_⟩
  · rw [rs422DecodeFrame_isSome_iff, hpacket.accepted_iff, hlength, hcheck]
  · intro r hr
    obtain ⟨-, rfl⟩ := rs422DecodeFrame_eq_some_iff.1 hr
    have hdata : lengthField pk - 1 = pkLen - 12 := by omega
    rw [decoded, hdata]

theorem finder_and_decoder_agree_dataAck :
    (rs422DecodeFrame (ackFrame .dataAck 0)).isSome ↔
      (rs422FrameCheckAndProcess ⟨[], false⟩ (ackFrame .dataAck 0)).2 = true ∧
        1 ≤ lengthField (ackFrame .dataAck 0) :=
  ((@finder_and_decoder_agree (ackFrame .dataAck 0) (0x1A :: ackFrame .dataAck 0) 0 1 13
    (by decide) (by decide)).2.2.1 (by decide) ⟨[], false⟩).2.1

/-! ### One changed byte -/

lemma slice_set_of_lt {f : Bytes} {b : UInt8} {i p w : ℕ} (h : i < p) :
    slice (f.set i b) p w = slice f p w := by
  rw [slice, slice, List.drop_set_of_lt h]

lemma slice_set_of_le {f : Bytes} {b : UInt8} {i p w : ℕ} (h : p + w ≤ i) :
    slice (f.set i b) p w = slice f p w := by
  rw [slice, slice, List.drop_set, if_neg (by omega), List.take_set_of_le (by omega)]

lemma slice_set {f : Bytes} {b : UInt8} {i p w : ℕ} (hp : p ≤ i) :
    slice (f.set i b) p w = (slice f p w).set (i - p) b := by
  rw [slice, slice, List.drop_set, if_neg (by omega), List.take_set]

/-- A field that a byte has been changed in shows it. -/
lemma slice_set_ne {f : Bytes} {b : UInt8} {i p w : ℕ} (hp : p ≤ i) (hw : i < p + w)
    (hi : i < f.length) (hb : b ≠ f[i]) : slice (f.set i b) p w ≠ slice f p w := by
  intro h
  have hget := congrArg (fun l => l[i - p]?) h
  simp only [getElem?_slice, if_pos (show i - p < w by omega), Nat.add_sub_cancel' hp,
    List.getElem?_set_self hi, List.getElem?_eq_getElem hi] at hget
  exact hb (Option.some.inj hget)

lemma leNat_inj {xs ys : Bytes} (hlen : xs.length = ys.length) (h : leNat xs = leNat ys) :
    xs = ys := by
  rw [← leBytes_leNat xs, ← leBytes_leNat ys, hlen, h]

lemma beNat_inj {xs ys : Bytes} (hlen : xs.length = ys.length) (h : beNat xs = beNat ys) :
    xs = ys := by
  refine List.reverse_injective (leNat_inj ?_ h)
  rw [List.length_reverse, List.length_reverse, hlen]

lemma be16_inj {m n : ℕ} (hm : m < 65536) (hn : n < 65536) (h : be16 m = be16 n) : m = n := by
  have hnat := congrArg beNat h
  rwa [beNat_be16, beNat_be16, Nat.mod_eq_of_lt hm, Nat.mod_eq_of_lt hn] at hnat

/-- Changing one byte changes the sum by the difference. -/
lemma sum_set (l : Bytes) {b : UInt8} {j : ℕ} (hj : j < l.length) :
    ((l.set j b).map UInt8.toNat).sum + l[j].toNat = (l.map UInt8.toNat).sum + b.toNat := by
  induction l generalizing j with
  | nil => exact absurd hj (Nat.not_lt_zero j)
  | cons a l ih =>
    cases j with
    | zero =>
      simp only [List.set_cons_zero, List.map_cons, List.sum_cons, List.getElem_cons_zero]
      omega
    | succ j =>
      have hrest := ih (Nat.lt_of_succ_lt_succ hj)
      simp only [List.set_cons_succ, List.map_cons, List.sum_cons, List.getElem_cons_succ]
      omega

/-- The checksum sees every change of one byte. -/
lemma rs422Checksum_set_ne {l : Bytes} {b : UInt8} {j : ℕ} (hj : j < l.length) (hb : b ≠ l[j]) :
    rs422Checksum (l.set j b) ≠ rs422Checksum l := by
  intro h
  have hsum := sum_set l (b := b) hj
  have hnew := b.toNat_lt
  have hold := l[j].toNat_lt
  unfold rs422Checksum at h
  have hsame : b.toNat = l[j].toNat := by omega
  exact hb (UInt8.toNat_inj.1 hsame)

lemma rs422Checksum_lt (l : Bytes) : rs422Checksum l < 65536 := by
  unfold rs422Checksum
  omega

/-- When one byte outside of the length field is changed in a frame that fills its length exactly,
the decoder does not accept it any more. -/
theorem changed_byte_rejected {f : Bytes} {r : ℕ × ℕ × Bytes} (hf : rs422DecodeFrame f = some r)
    (hlen : f.length = headerSize + (lengthField f + 1) + crcSize) {i : ℕ} (hi : i < f.length)
    (h6 : i ≠ 6) (h7 : i ≠ 7) {b : UInt8} (hb : b ≠ f[i]) :
    rs422DecodeFrame (f.set i b) = none := by
  have hacc := accepted_of_decode hf
  have hfield : lengthField (f.set i b) = lengthField f := by
    rcases Nat.lt_or_ge i 6 with hlt | hge
    · rw [lengthField, slice_set_of_lt hlt, lengthField]
    · rw [lengthField, slice_set_of_le (by omega), lengthField]
  unfold headerSize crcSize at hlen
  by_contra hsome
  obtain ⟨r', hr'⟩ := Option.ne_none_iff_exists'.1 hsome
  have hacc' := accepted_of_decode hr'
  have hsum := hacc.checksum_eq
  have hsum' := hacc'.checksum_eq
  rw [hfield] at hsum'
  rcases Nat.lt_or_ge i 2 with hsync | hbody
  · -- the sync word is compared as it stands
    refine slice_set_ne (p := 0) (w := 2) (Nat.zero_le i) (by omega) hi hb (beNat_inj ?_ ?_)
    · rw [length_slice (by rw [List.length_set]; omega), length_slice (by omega)]
    · rw [hacc'.sync_eq, hacc.sync_eq]
  rcases Nat.lt_or_ge i (lengthField f + 9) with hcovered | hcheck
  · -- the checksum of the frame stays, that of its bytes does not
    have hlength : (slice f 2 (lengthField f + 7)).length = lengthField f + 7 :=
      length_slice (by omega)
    have hj : i - 2 < (slice f 2 (lengthField f + 7)).length := by omega
    have hbyte : (slice f 2 (lengthField f + 7))[i - 2] = f[i] := by
      have hget : (slice f 2 (lengthField f + 7))[i - 2]? = f[i]? := by
        rw [getElem?_slice, if_pos (by omega), Nat.add_sub_cancel' hbody]
      rw [List.getElem?_eq_getElem hj, List.getElem?_eq_getElem hi] at hget
      exact Option.some.inj hget
    rw [slice_set_of_lt hcovered, hsum, slice_set hbody] at hsum'
    refine rs422Checksum_set_ne hj (hbyte ▸ hb) ?_
    exact (be16_inj (rs422Checksum_lt _) (rs422Checksum_lt _) hsum').symm
  · -- the checksum itself
    rw [slice_set_of_le (p := 2) (by omega), ← hsum] at hsum'
    exact slice_set_ne hcheck (by omega) hi hb hsum'

theorem changed_byte_rejected_result :
    rs422DecodeFrame ((ackFrame .dataAck 0).set 10 0xFF) = none :=
  changed_byte_rejected (r := (0x0180, 0x018A, [0])) (by decide) (by decide) (by decide)
    (by decide) (by decide) (by decide)

end AntennaMgmt.Rs422
