import AntennaMgmt.Inject.Task

/-!
# The injection thread

`injection_thread_func` announces the upload, calls the handler of the current state until the
task has ended or is aborted, and announces the end.  The handlers parse the metadata, start the
transfer, send the file packet by packet, end the transfer, and start and poll the
reconfiguration of the FPGA.
-/

namespace AntennaMgmt.Inject

open AntennaMgmt.Lib AntennaMgmt.Rs422

variable (env : Env)

/-- `send_upload_notify`: the announcement does not use up a sequence number. -/
def sendUploadNotify (notifyCode : UInt8) : Inj Bool := do
  match ← encode fun seq => rs422BuildUploadNotify seq notifyCode 64 with
  | none => return false
  | some frame =>
    let ok ← uartRs422SendFrame env frame
    rs422SeqCounterRollback
    return ok

/-- `send_transfer_abort`. -/
def sendTransferAbort : Inj Bool := do
  match ← encode fun seq => rs422BuildTransferAbort seq 256 with
  | none => return false
  | some frame =>
    if ¬ (← uartRs422SendFrame env frame) then return false
    else
      let _ ← uartRs422SendAndWait env frame 256 .abortAck
      return true

/-! ### Metadata -/

/-- The number of segments of a file, as `handle_parsing_metadata` computes it in 32 bits. -/
def totalSegmentsOf (fileSize : ℕ) : ℕ :=
  (fileSize + fpgaSegmentSize - 1) % 2 ^ 32 / fpgaSegmentSize

/-- `handle_parsing_metadata`. -/
def handleParsingMetadata : Inj Bool := do
  match ← Prog.ask env.metadata with
  | none => failWith env
  | some metadata =>
    setTask fun t => { t with metadata := metadata }
    if ¬ (← Prog.ask env.integrityOk) then failWith env
    else
      setTask fun t => { t with totalSegments := totalSegmentsOf metadata.fileSize }
      if ¬ (← fopenBin env) then failWith env
      else if ¬ (← Prog.ask env.mallocOk) then failWith env
      else
        let limit ← Prog.ask env.readLimit
        if readCount env 0 metadata.fileSize limit ≠ metadata.fileSize then failWith env
        else
          setTask fun t => { t with
            fileChecksum := rs422Crc16CcittFalse (readBytes env 0 metadata.fileSize limit) }
          transitionState env .transferStart
          return true

/-! ### Start of the transfer -/

/-- The parameters of the start command. -/
def transferStartParams (t : Task) : TransferStartParams where
  deviceId := apidControl / 16 % 128
  fileType := t.metadata.fileType
  fileSubType := t.metadata.fileSubType
  segmentInfo := if 1 < t.totalSegments then (3 * 0x4000).lor t.totalSegments else 0
  fileLength := if t.totalSegments = 1 then t.metadata.fileSize else fpgaSegmentSize
  lastSegmentLen :=
    if t.totalSegments = 1 then t.metadata.fileSize
    else if t.metadata.fileSize % fpgaSegmentSize = 0 then fpgaSegmentSize
    else t.metadata.fileSize % fpgaSegmentSize
  fileChecksum := t.fileChecksum

/-- `RS422_TRANSFER_PREPARING`. -/
def transferPreparing : UInt8 := 0x11

/-- `RS422_TRANSFER_READY`. -/
def transferReady : UInt8 := 0x00

/-- The result byte of a reply that was accepted. -/
def replyResult (parse : Bytes → Option UInt8) (reply : Bytes) : Option UInt8 :=
  match rs422DecodeFrame reply with
  | none => none
  | some (_, _, payload) => parse payload

/-- One round of the polling loop of `handle_transfer_start`: nothing to go on polling, an
error to leave the handler, or the result of the FPGA. -/
def pollTransferStart (frame : Bytes) (startTime : ℤ) : Inj (Option (Option UInt8)) := do
  if ← Prog.ask env.abortRequested then
    transitionState env .failed
    return some none
  else if (← Prog.ask env.clock) - startTime > fpgaTransferStartTimeoutSec then
    transitionState env .failed
    return some none
  else
    match ← uartRs422SendAndWait env frame 256 .transferStartAck with
    | none =>
      interruptibleSleep env 1
      return none
    | some reply =>
      match replyResult rs422ParseTransferStartAck reply with
      | none =>
        interruptibleSleep env 1
        return none
      | some result =>
        -- not ready yet: the command is sent again
        if result = transferPreparing then
          interruptibleSleep env 1
          return none
        else return some (some result)

/-- What `handle_transfer_start` does when the FPGA has answered. -/
def beginTransfer (result : UInt8) : Inj Bool := do
  if result ≠ transferReady then failWith env
  else if ¬ (← fopenBin env) then
    setTask fun t => { t with binFp := none }
    failWith env
  else
    setTask fun t => { t with binFp := some 0 }
    interruptibleSleep env 20
    if ← Prog.ask env.abortRequested then failWith env
    else
      setTask fun t => { t with
        currentSegment := 0
        currentPacketInSegment := 0
        segmentOffset := 0
        retryCount := 0 }
      transitionState env .transferData
      return true

/-- `handle_transfer_start`. -/
def handleTransferStart (fuel : ℕ) : Inj Bool := do
  let t ← getTask
  match ← encode fun seq => rs422BuildTransferStart seq (transferStartParams t) 512 with
  | none => failWith env
  | some frame =>
    let startTime ← Prog.ask env.clock
    match ← Prog.repeatUntil fuel (pollTransferStart env frame startTime) with
    | none => return false
    | some result => beginTransfer env result

/-! ### The data -/

/-- `current_segment_size` of `handle_transfer_data`. -/
def Task.currentSegmentSize (t : Task) : ℕ :=
  if t.currentSegment = t.totalSegments - 1 then
    t.metadata.fileSize - t.currentSegment * fpgaSegmentSize
  else fpgaSegmentSize

/-- `packet_size` of `handle_transfer_data`. -/
def Task.packetSize (t : Task) : ℕ :=
  if t.currentPacketInSegment = t.totalPacketsInSegment - 1 ∧
      t.currentSegmentSize - t.currentPacketInSegment * fpgaPacketSize < fpgaPacketSize then
    t.currentSegmentSize - t.currentPacketInSegment * fpgaPacketSize
  else fpgaPacketSize

/-- The task at the first packet of a segment. -/
def Task.openSegment (t : Task) : Task :=
  { t with
    totalPacketsInSegment := (t.currentSegmentSize + fpgaPacketSize - 1) / fpgaPacketSize
    segmentOffset := t.currentSegment * fpgaSegmentSize }

/-- The task when all packets of a segment are sent. -/
def Task.nextSegment (t : Task) : Task :=
  { t with currentSegment := t.currentSegment + 1, currentPacketInSegment := 0, retryCount := 0 }

/-- The start of a segment: its packets are counted and the file is positioned. -/
def openSegment : Inj Bool := do
  if (← getTask).currentPacketInSegment = 0 then
    setTask Task.openSegment
    fseekBin env (← getTask).segmentOffset
  else return true

/-- A packet that is sent again is read from its place. -/
def seekRetry : Inj Bool := do
  let t ← getTask
  if 0 < t.retryCount then
    fseekBin env (t.segmentOffset + t.currentPacketInSegment * fpgaPacketSize)
  else return true

/-- How far a call of `handle_transfer_data` gets before it uses the serial line. -/
inductive Prepared
  | returned (ok : Bool)
  | frame (f : Bytes)
deriving DecidableEq

/-- The part of `handle_transfer_data` before the exchange. -/
def prepareData : Inj Prepared := do
  let t ← getTask
  if t.totalSegments ≤ t.currentSegment then
    transitionState env .transferEnd
    return .returned true
  else if ¬ (← openSegment env) then return .returned (← failWith env)
  else
    let t ← getTask
    -- the segment is done: the next call opens the next one
    if t.totalPacketsInSegment ≤ t.currentPacketInSegment then
      setTask Task.nextSegment
      return .returned true
    else if ¬ (← seekRetry env) then return .returned (← failWith env)
    else
      let (bytesRead, data) ← freadBin env t.packetSize
      if bytesRead ≠ t.packetSize then return .returned (← failWith env)
      else
        match rs422BuildFileData t.currentSegment data (fpgaPacketSize + 512)
            t.currentPacketInSegment t.totalPacketsInSegment with
        | none => return .returned (← failWith env)
        | some f => return .frame f

/-- `RS422_DATA_RECEIVED_OK`. -/
def dataReceivedOk : UInt8 := 0x00

/-- A failed attempt: it is counted, and the last one aborts the transfer. -/
def countRetry : Inj Bool := do
  setTask fun t => { t with retryCount := t.retryCount + 1 }
  let t ← getTask
  if t.maxRetries ≤ t.retryCount then
    let _ ← sendTransferAbort env
    failWith env
  else return false

/-- The part of `handle_transfer_data` after the exchange. -/
def finishData (reply : Option Bytes) : Inj Bool := do
  match reply with
  | none => countRetry env
  | some reply =>
    match replyResult rs422ParseDataAck reply with
    | none => countRetry env
    | some result =>
      if result ≠ dataReceivedOk then countRetry env
      else
        setTask fun t => { t with
          currentPacketInSegment := t.currentPacketInSegment + 1
          retryCount := 0 }
        return true

/-- `handle_transfer_data`. -/
def handleTransferData : Inj Bool := do
  match ← prepareData env with
  | .returned ok => return ok
  | .frame f =>
    let reply ← uartRs422SendAndWait env f 256 .dataAck
    finishData env reply

/-! ### End of the transfer and reconfiguration -/

/-- `RS422_TRANSFER_COMPLETE_OK`. -/
def transferCompleteOk : UInt8 := 0x00

/-- `handle_transfer_end`. -/
def handleTransferEnd : Inj Bool := do
  setTask fun t => { t with binFp := none }
  match ← encode fun seq => rs422BuildTransferEnd seq 256 with
  | none => failWith env
  | some frame =>
    match ← uartRs422SendAndWait env frame 256 .transferEndAck with
    | none => failWith env
    | some reply =>
      match replyResult rs422ParseTransferEndAck reply with
      | none => failWith env
      | some result =>
        if result ≠ transferCompleteOk then
          let _ ← sendTransferAbort env
          failWith env
        else
          transitionState env .reconfigStart
          return true

/-- `handle_reconfig_start`. -/
def handleReconfigStart : Inj Bool := do
  let t ← getTask
  match ← encode fun seq =>
      rs422BuildReconfigStart seq t.metadata.fileType t.metadata.fileSubType 256 with
  | none => failWith env
  | some frame =>
    if ¬ (← uartRs422SendFrame env frame) then failWith env
    else
      let now ← Prog.ask env.clock
      setTask fun t => { t with lastActivity := now }
      transitionState env .reconfigPolling
      return true

/-- `RS422_RECONFIG_SUCCESS`. -/
def reconfigSuccess : UInt8 := 0x00

/-- `RS422_RECONFIG_IN_PROGRESS`. -/
def reconfigInProgress : UInt8 := 0x11

/-- `handle_reconfig_polling`. -/
def handleReconfigPolling : Inj Bool := do
  let t ← getTask
  if (← Prog.ask env.clock) - t.lastActivity > fpgaReconfigTimeoutSec then failWith env
  else
    match ← encode fun seq => rs422BuildReconfigQuery seq 256 with
    | none => return false
    | some frame =>
      -- no answer is no failure: the query is made again until the time is up
      match ← uartRs422SendAndWait env frame 256 .reconfigAck with
      | none =>
        interruptibleSleep env fpgaReconfigPollIntervalSec
        return false
      | some reply =>
        match replyResult rs422ParseReconfigAck reply with
        | none =>
          interruptibleSleep env fpgaReconfigPollIntervalSec
          return false
        | some result =>
          if result = reconfigSuccess then
            transitionState env .completed
            return true
          else if result = reconfigInProgress then
            interruptibleSleep env fpgaReconfigPollIntervalSec
            return true
          else failWith env

/-! ### The thread -/

/-- One round of the loop of `injection_thread_func`; a value ends the loop. -/
def threadRound (fuel : ℕ) : Inj (Option Unit) := do
  if ← Prog.ask env.abortRequested then return some ()
  else
    match (← getTask).state with
    | .parsingMetadata =>
      let _ ← handleParsingMetadata env
      return none
    | .transferStart =>
      let _ ← handleTransferStart env fuel
      return none
    | .transferData =>
      let _ ← handleTransferData env
      return none
    | .transferEnd =>
      let _ ← handleTransferEnd env
      return none
    | .reconfigStart =>
      let _ ← handleReconfigStart env
      return none
    | .reconfigPolling =>
      let _ ← handleReconfigPolling env
      return none
    | .completed | .failed => return some ()
    | .idle => return none

/-- `injection_thread_func`, with fuel for its loop and for the polling loop of the start. -/
def injectionThreadFunc (fuel : ℕ) : Inj Unit := do
  let _ ← sendUploadNotify env uploadNotifyPre
  Prog.repeatUntil fuel (threadRound env fuel)
  let _ ← sendUploadNotify env uploadNotifyPost
  setTask fun t => { t with binFp := none, inProgress := false }

end AntennaMgmt.Inject
