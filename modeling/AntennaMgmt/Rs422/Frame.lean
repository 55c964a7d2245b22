import AntennaMgmt.Lib.Bytes

/-!
# RS-422 frames

Commands and file data go to the FPGA in frames with a sync word, an APID, a sequence control
word, a length and a checksum; the FPGA answers with frames of the same shape and another sync
word.  A command frame carries the global sequence counter, a data frame the index of its packet
in the segment.
-/

namespace AntennaMgmt.Rs422

open AntennaMgmt.Lib

/-! ### Constants -/

/-- `RS422_SYNC_WORD_CMD`. -/
def syncWordCmd : ℕ := 0xEB90

/-- `RS422_SYNC_WORD_ACK`. -/
def syncWordAck : ℕ := 0x1ACF

/-- `RS422_APID_CONTROL`. -/
def apidControl : ℕ := 0x0180

/-- `RS422_APID_FILE_DATA`. -/
def apidFileData : ℕ := 0x018F

/-- `RS422_HEADER_SIZE`. -/
def headerSize : ℕ := 8

/-- `RS422_CRC_SIZE`. -/
def crcSize : ℕ := 2

/-- `RS422_MAX_PAYLOAD_SIZE`. -/
def maxPayloadSize : ℕ := 1002

/-- The `RS422_CMD_*` codes that the injector sends or expects. -/
inductive Cmd
  | reconfigStart
  | reconfigQuery
  | reconfigAck
  | transferStart
  | transferStartAck
  | dataAck
  | transferEnd
  | transferEndAck
  | transferAbort
  | abortAck
  | uploadNotify
deriving DecidableEq, Repr

/-- The code of a command. -/
def Cmd.code : Cmd → ℕ
  | .reconfigStart => 0x01AF
  | .reconfigQuery => 0x01C5
  | .reconfigAck => 0x01CA
  | .transferStart => 0x0155
  | .transferStartAck => 0x015A
  | .dataAck => 0x018A
  | .transferEnd => 0x01AA
  | .transferEndAck => 0x01BB
  | .transferAbort => 0x018F
  | .abortAck => 0x018E
  | .uploadNotify => 0xA207

/-- `RS422_UPLOAD_NOTIFY_PRE`. -/
def uploadNotifyPre : UInt8 := 0x01

/-- `RS422_UPLOAD_NOTIFY_POST`. -/
def uploadNotifyPost : UInt8 := 0x02

/-- `RS422_UPLOAD_NOTIFY_FILLER`. -/
def uploadNotifyFiller : UInt8 := 0xAA

/-! ### Encoding -/

/-- A 16-bit word in network order (`htons`). -/
def be16 (n : ℕ) : Bytes := [UInt8.ofNat (n / 256), UInt8.ofNat n]

/-- A 32-bit word in network order (`htonl`). -/
def be32 (n : ℕ) : Bytes := be16 (n / 65536) ++ be16 n

/-- The number whose big-endian representation is `bs`. -/
def beNat (bs : Bytes) : ℕ := leNat bs.reverse

/-- `rs422_checksum`: the sum of the bytes, inverted, in 16 bits. -/
def rs422Checksum (data : Bytes) : ℕ := 0xFFFF - (data.map UInt8.toNat).sum % 0x10000

/-- One of the eight rounds that `rs422_crc16_ccitt_false` makes for a byte. -/
def crcRound (crc : ℕ) : ℕ :=
  if crc / 0x8000 % 2 = 1 then (crc * 2 % 0x10000).xor 0x1021 else crc * 2 % 0x10000

/-- `rs422_crc16_ccitt_false`. -/
def rs422Crc16CcittFalse (data : Bytes) : ℕ :=
  data.foldl (fun crc b => crcRound^[8] (crc.xor (b.toNat * 256))) 0xFFFF

/-- What a checksum covers: the header words after the sync word, the command code or segment
number, and the data. -/
def frameBody (apid seqCtrl word : ℕ) (data : Bytes) : Bytes :=
  be16 (apid % 0x800) ++ be16 seqCtrl ++ be16 (2 + data.length - 1) ++ be16 word ++ data

/-- A frame: the sync word, the body and its checksum. -/
def frame (sync apid seqCtrl word : ℕ) (data : Bytes) : Bytes :=
  be16 sync ++ frameBody apid seqCtrl word data ++
    be16 (rs422Checksum (frameBody apid seqCtrl word data))

/-- `rs422_encode_frame` at the sequence counter `seq` into a buffer of the given size. -/
def rs422EncodeFrame (seq apid cmdCode : ℕ) (payload : Bytes) (bufSize : ℕ) : Option Bytes :=
  if bufSize < headerSize + payload.length + crcSize + 2 then none
  else if maxPayloadSize - 2 < payload.length then none
  else some (frame syncWordCmd apid (3 * 0x4000 + seq % 0x4000) cmdCode payload)

/-- The group flag of a packet: single, first, last or middle packet of its segment. -/
def groupFlag (packetIndex totalPackets : ℕ) : ℕ :=
  if totalPackets = 1 then 3
  else if packetIndex = 0 then 1
  else if packetIndex = totalPackets - 1 then 2
  else 0

/-- `rs422_build_file_data`.  The size that is required is computed in 32 bits. -/
def rs422BuildFileData (segmentNum : ℕ) (data : Bytes) (bufSize packetIndex totalPackets : ℕ) :
    Option Bytes :=
  if data.length = 0 then none
  else if bufSize < (headerSize + 2 + data.length + crcSize) % 2 ^ 32 then none
  else some (frame syncWordCmd apidFileData
    (groupFlag packetIndex totalPackets * 0x4000 + packetIndex % 0x4000) segmentNum data)

/-- `rs422_cmd_transfer_start_t`. -/
structure TransferStartParams where
  deviceId : ℕ
  fileType : UInt8
  fileSubType : UInt8
  segmentInfo : ℕ
  fileLength : ℕ
  lastSegmentLen : ℕ
  fileChecksum : ℕ

/-- `rs422_build_transfer_start`. -/
def rs422BuildTransferStart (seq : ℕ) (params : TransferStartParams) (bufSize : ℕ) :
    Option Bytes :=
  rs422EncodeFrame seq apidControl Cmd.transferStart.code
    ([UInt8.ofNat params.deviceId, params.fileType, params.fileSubType] ++
      be16 params.segmentInfo ++ be32 params.fileLength ++ be32 params.lastSegmentLen ++
      be16 params.fileChecksum) bufSize

/-- `rs422_build_transfer_end`. -/
def rs422BuildTransferEnd (seq bufSize : ℕ) : Option Bytes :=
  rs422EncodeFrame seq apidControl Cmd.transferEnd.code [] bufSize

/-- `rs422_build_transfer_abort`. -/
def rs422BuildTransferAbort (seq bufSize : ℕ) : Option Bytes :=
  rs422EncodeFrame seq apidControl Cmd.transferAbort.code [] bufSize

/-- `rs422_build_reconfig_start`. -/
def rs422BuildReconfigStart (seq : ℕ) (fileType fileSubType : UInt8) (bufSize : ℕ) :
    Option Bytes :=
  rs422EncodeFrame seq apidControl Cmd.reconfigStart.code [fileType, fileSubType] bufSize

/-- `rs422_build_reconfig_query`. -/
def rs422BuildReconfigQuery (seq bufSize : ℕ) : Option Bytes :=
  rs422EncodeFrame seq apidControl Cmd.reconfigQuery.code [] bufSize

/-- `rs422_build_upload_notify`. -/
def rs422BuildUploadNotify (seq : ℕ) (notifyCode : UInt8) (bufSize : ℕ) : Option Bytes :=
  rs422EncodeFrame seq apidControl Cmd.uploadNotify.code [notifyCode, uploadNotifyFiller] bufSize

/-! ### Decoding -/

/-- `rs422_decode_frame`: the APID, the command code and the payload. -/
def rs422DecodeFrame (f : Bytes) : Option (ℕ × ℕ × Bytes) :=
  if f.length < headerSize + 2 + crcSize then none
  else if beNat (slice f 0 2) ≠ syncWordAck then none
  else
    let actualDataLen := beNat (slice f 6 2) + 1
    if actualDataLen < 2 then none
    else if f.length < headerSize + actualDataLen + crcSize then none
    else
      let checksumOffset := headerSize + actualDataLen
      if slice f checksumOffset 2 ≠ be16 (rs422Checksum (slice f 2 (checksumOffset - 2))) then none
      else some (beNat (slice f 2 2), beNat (slice f 8 2), slice f 10 (actualDataLen - 2))

/-- The result byte that `rs422_parse_transfer_start_ack`, `rs422_parse_data_ack`,
`rs422_parse_transfer_end_ack` and `rs422_parse_reconfig_ack` read: their acknowledgements are
structures of this one byte. -/
def parseResult (payload : Bytes) : Option UInt8 := payload.head?

/-- `rs422_parse_transfer_start_ack`. -/
def rs422ParseTransferStartAck : Bytes → Option UInt8 := parseResult

/-- `rs422_parse_data_ack`. -/
def rs422ParseDataAck : Bytes → Option UInt8 := parseResult

/-- `rs422_parse_transfer_end_ack`. -/
def rs422ParseTransferEndAck : Bytes → Option UInt8 := parseResult

/-- `rs422_parse_reconfig_ack`. -/
def rs422ParseReconfigAck : Bytes → Option UInt8 := parseResult

/-- The acknowledgement of kind `cmd` with a result byte. -/
def ackFrame (cmd : Cmd) (result : UInt8) : Bytes :=
  frame syncWordAck apidControl 0 cmd.code [result]

/-! ### The fields of a frame -/

/-- The APID of a frame. -/
def apidOf (f : Bytes) : ℕ := beNat (slice f 2 2)

/-- The group flag of a data frame. -/
def groupFlagOf (f : Bytes) : ℕ := beNat (slice f 4 2) / 0x4000

/-- The packet index of a data frame. -/
def packetIndexOf (f : Bytes) : ℕ := beNat (slice f 4 2) % 0x4000

/-- The segment number of a data frame, or the code of a command. -/
def wordOf (f : Bytes) : ℕ := beNat (slice f 8 2)

/-- The file bytes of a data frame, or the payload of a command. -/
def dataOf (f : Bytes) : Bytes := slice f 10 (f.length - 12)

@[simp] lemma beNat_be16 (n : ℕ) : beNat (be16 n) = n % 65536 := by
  have h : beNat (be16 n) = n % 256 + 256 * (n / 256 % 256) := by
    simp [beNat, be16, leNat, Nat.ofDigits]
  omega

@[simp] lemma beNat_be32 (n : ℕ) : beNat (be32 n) = n % 4294967296 := by
  have h : beNat (be32 n) = n % 256 + 256 * (n / 256 % 256 + 256 * (n / 65536 % 256 +
      256 * (n / 65536 / 256 % 256))) := by
    simp [beNat, be32, be16, leNat, Nat.ofDigits]
  omega

section fields

variable (sync apid seqCtrl word : ℕ) (data : Bytes)

@[simp] lemma length_frame : (frame sync apid seqCtrl word data).length = data.length + 12 := by
  simp [frame, frameBody, be16]

lemma apidOf_frame : apidOf (frame sync apid seqCtrl word data) = apid % 0x800 := by
  have h : slice (frame sync apid seqCtrl word data) 2 2 = be16 (apid % 0x800) := rfl
  rw [apidOf, h, beNat_be16]
  omega

/-- The sequence control word of a frame. -/
lemma seqCtrl_frame : beNat (slice (frame sync apid seqCtrl word data) 4 2) = seqCtrl % 65536 := by
  have h : slice (frame sync apid seqCtrl word data) 4 2 = be16 seqCtrl := rfl
  rw [h, beNat_be16]

lemma wordOf_frame : wordOf (frame sync apid seqCtrl word data) = word % 65536 := by
  have h : slice (frame sync apid seqCtrl word data) 8 2 = be16 word := rfl
  rw [wordOf, h, beNat_be16]

lemma dataOf_frame : dataOf (frame sync apid seqCtrl word data) = data := by
  rw [dataOf, length_frame, Nat.add_sub_cancel, slice]
  simp [frame, frameBody, be16]

/-- Decoding gives back what an answer was made of. -/
lemma rs422DecodeFrame_frame (h : data.length < 65535) :
    rs422DecodeFrame (frame syncWordAck apid seqCtrl word data) =
      some (apid % 0x800, word % 65536, data) := by
  have hsync : beNat (slice (frame syncWordAck apid seqCtrl word data) 0 2) = syncWordAck := by
    have h : slice (frame syncWordAck apid seqCtrl word data) 0 2 = be16 syncWordAck := rfl
    rw [h, beNat_be16]
    rfl
  have hlen : beNat (slice (frame syncWordAck apid seqCtrl word data) 6 2) = data.length + 1 := by
    have h : slice (frame syncWordAck apid seqCtrl word data) 6 2 =
      be16 (2 + data.length - 1) := rfl
    rw [h, beNat_be16]
    omega
  have hbody : slice (frame syncWordAck apid seqCtrl word data) 2 (data.length + 8) =
      frameBody apid seqCtrl word data := by
    have hdrop : (frame syncWordAck apid seqCtrl word data).drop 2 =
      frameBody apid seqCtrl word data ++ be16 (rs422Checksum (frameBody apid seqCtrl word data)) :=
      rfl
    rw [slice, hdrop, List.take_left' (by simp [frameBody, be16])]
  have hsum : slice (frame syncWordAck apid seqCtrl word data) (data.length + 10) 2 =
      be16 (rs422Checksum (frameBody apid seqCtrl word data)) := by
    have hlength : (be16 syncWordAck ++ frameBody apid seqCtrl word data).length =
        data.length + 10 := by
      simp [frameBody, be16]
    rw [slice, frame, List.drop_left' hlength]
    rfl
  have hdata : slice (frame syncWordAck apid seqCtrl word data) 10 data.length = data := by
    simp [slice, frame, frameBody, be16]
  have hword := wordOf_frame syncWordAck apid seqCtrl word data
  have hapid := apidOf_frame syncWordAck apid seqCtrl word data
  unfold wordOf at hword
  unfold apidOf at hapid
  have hoffset : headerSize + (data.length + 1 + 1) = data.length + 10 := by
    unfold headerSize
    omega
  unfold rs422DecodeFrame
  rw [length_frame, if_neg (by unfold headerSize crcSize; omega), hsync, if_neg (not_not.2 rfl)]
  simp only [hlen]
  rw [if_neg (by omega), if_neg (by unfold headerSize crcSize; omega), hoffset, hsum,
    Nat.add_sub_assoc (by omega), hbody, if_neg (not_not.2 rfl), hapid, hword,
    show data.length + 1 + 1 - 2 = data.length from rfl, hdata]

end fields

/-- A command frame carries its code under the control APID. -/
lemma rs422EncodeFrame_fields {seq cmdCode bufSize : ℕ} {payload f : Bytes}
    (h : rs422EncodeFrame seq apidControl cmdCode payload bufSize = some f) :
    apidOf f = apidControl ∧ wordOf f = cmdCode % 65536 ∧ dataOf f = payload := by
  unfold rs422EncodeFrame at h
  split_ifs at h
  cases h
  exact ⟨apidOf_frame .., wordOf_frame .., dataOf_frame ..⟩

/-- A data frame says which packet it carries. -/
lemma rs422BuildFileData_fields {segmentNum bufSize packetIndex totalPackets : ℕ} {data f : Bytes}
    (h : rs422BuildFileData segmentNum data bufSize packetIndex totalPackets = some f) :
    apidOf f = apidFileData ∧ wordOf f = segmentNum % 65536 ∧
      packetIndexOf f = packetIndex % 0x4000 ∧
      groupFlagOf f = groupFlag packetIndex totalPackets ∧ dataOf f = data := by
  unfold rs422BuildFileData at h
  split_ifs at h
  cases h
  have hflag : groupFlag packetIndex totalPackets ≤ 3 := by
    unfold groupFlag
    split_ifs <;> omega
  refine ⟨apidOf_frame .., wordOf_frame .., ?_, ?_, dataOf_frame ..⟩
  · rw [packetIndexOf, seqCtrl_frame]
    omega
  · rw [groupFlagOf, seqCtrl_frame]
    omega

end AntennaMgmt.Rs422
