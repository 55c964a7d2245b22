import AntennaMgmt.Lib.Effect
import AntennaMgmt.Rs422.Frame

/-!
# The injection task and what it asks of the system

The injector sends a firmware file to an FPGA.  Its state is the task record, the sequence
counter of the frames and a record of what it did: the frames it sent, the replies it got and the
states it entered.  Everything else is asked of the environment: the clock, the abort flag, the
serial line and the file system.  Of the integers, only the sum that gives the number of segments
can leave its 32 bits.
-/

namespace AntennaMgmt.Inject

open AntennaMgmt.Lib AntennaMgmt.Rs422

/-- `FPGA_SEGMENT_SIZE`. -/
def fpgaSegmentSize : ℕ := 1048576

/-- `FPGA_PACKET_SIZE`. -/
def fpgaPacketSize : ℕ := 1000

/-- `FPGA_TRANSFER_START_TIMEOUT_SEC`. -/
def fpgaTransferStartTimeoutSec : ℤ := 300

/-- `FPGA_RECONFIG_TIMEOUT_SEC`. -/
def fpgaReconfigTimeoutSec : ℤ := 600

/-- `FPGA_RECONFIG_POLL_INTERVAL_SEC`. -/
def fpgaReconfigPollIntervalSec : ℕ := 5

/-- `fpga_injection_state_t`. -/
inductive InjectionState
  | idle
  | parsingMetadata
  | transferStart
  | transferData
  | transferEnd
  | reconfigStart
  | reconfigPolling
  | completed
  | failed
deriving DecidableEq, Repr

/-- `firmware_metadata_t`, without the names and the hash, which only go to the environment. -/
structure FirmwareMetadata where
  fileType : UInt8
  fileSubType : UInt8
  fileSize : ℕ
  fileSize_lt : fileSize < 2 ^ 32

lemma zero_fileSize_lt : 0 < 2 ^ 32 := Nat.two_pow_pos 32

/-- A file with the size that the system reports for it. -/
structure BinFile where
  bytes : Bytes
  size : ℕ
  size_eq : bytes.length = size

/-- `fpga_injection_task_t`; an open file is given by its position. -/
structure Task where
  state : InjectionState
  metadata : FirmwareMetadata
  totalSegments : ℕ
  currentSegment : ℕ
  totalPacketsInSegment : ℕ
  currentPacketInSegment : ℕ
  segmentOffset : ℕ
  fileChecksum : ℕ
  binFp : Option ℕ
  lastActivity : ℤ
  retryCount : ℕ
  maxRetries : ℕ
  inProgress : Bool

/-- What the injector does that can be seen from outside: a frame sent by itself, a frame sent
and what was received after it, and a change of its state. -/
inductive Event
  | sent (frame : Bytes)
  | exchange (frame : Bytes) (reply : Option Bytes)
  | entered (s : InjectionState)
deriving DecidableEq

/-- The injector: its task, `g_seq_counter` and what it has done so far. -/
structure Injector where
  task : Task
  seqCounter : ℕ
  trace : List Event

/-- The answers of the environment. -/
structure Env where
  file : BinFile
  clock : ℕ → ℤ
  abortRequested : ℕ → Bool
  sendOk : ℕ → Bool
  received : ℕ → Option Bytes
  metadata : ℕ → Option FirmwareMetadata
  integrityOk : ℕ → Bool
  mallocOk : ℕ → Bool
  fopenOk : ℕ → Bool
  fseekOk : ℕ → Bool
  readLimit : ℕ → ℕ

/-- An environment in which nothing goes wrong. -/
def quietEnv (file : BinFile) (metadata : FirmwareMetadata)
    (received : ℕ → Option Bytes) : Env where
  file := file
  clock _ := 0
  abortRequested _ := false
  sendOk _ := true
  received := received
  metadata _ := some metadata
  integrityOk _ := true
  mallocOk _ := true
  fopenOk _ := true
  fseekOk _ := true
  readLimit _ := file.size

/-- A program of the injector. -/
abbrev Inj (α : Type) : Type := Prog Injector α

/-! ### State -/

/-- The task. -/
def getTask : Inj Task := do return (← Prog.get).task

/-- An assignment to fields of the task. -/
def setTask (f : Task → Task) : Inj Unit :=
  Prog.modify fun c => { c with task := f c.task }

/-- The injector with a new entry of its record. -/
def Injector.log (c : Injector) (e : Event) : Injector := { c with trace := c.trace ++ [e] }

/-- A new entry of the record. -/
def record (e : Event) : Inj Unit := Prog.modify fun c => c.log e

/-- The injector after `transition_state` at the given time. -/
def Injector.enter (c : Injector) (s : InjectionState) (now : ℤ) : Injector :=
  { c.log (.entered s) with task := { c.task with state := s, lastActivity := now } }

variable (env : Env)

/-- `transition_state`. -/
def transitionState (s : InjectionState) : Inj Unit := do
  let now ← Prog.ask env.clock
  Prog.modify fun c => c.enter s now

/-- The common end of a handler that gives up: the state is FAILED and the value an error. -/
def failWith : Inj Bool := do
  transitionState env .failed
  return false

/-- `interruptible_sleep`, in slices of 100 ms. -/
def interruptibleSleep (totalSec : ℕ) : Inj Unit := slices (totalSec * 10)
where
  slices : ℕ → Inj Unit
    | 0 => pure ()
    | n + 1 => do
      if ← Prog.ask env.abortRequested then return ()
      else slices n

/-! ### The file -/

/-- `fopen` of the firmware file. -/
def fopenBin : Inj Bool := Prog.ask env.fopenOk

/-- `fseek` on `bin_fp`. -/
def fseekBin (offset : ℕ) : Inj Bool := do
  let ok ← Prog.ask env.fseekOk
  if ok then
    setTask fun t => { t with binFp := some offset }
    return true
  else return false

/-- How many bytes `fread` gets from a position of the file. -/
def readCount (position size limit : ℕ) : ℕ :=
  min size (min limit (env.file.size - position))

/-- What `fread` gets from a position of the file. -/
def readBytes (position size limit : ℕ) : Bytes :=
  slice env.file.bytes position (readCount env position size limit)

/-- `fread` on `bin_fp`: the number of bytes and the bytes. -/
def freadBin (size : ℕ) : Inj (ℕ × Bytes) := do
  let limit ← Prog.ask env.readLimit
  match (← getTask).binFp with
  | none => return (0, [])
  | some position =>
    setTask fun t => { t with binFp := some (position + readCount env position size limit) }
    return (readCount env position size limit, readBytes env position size limit)

/-! ### The serial line -/

/-- A command frame, which takes the current value of `g_seq_counter` and increments it. -/
def encode (build : ℕ → Option Bytes) : Inj (Option Bytes) := do
  match build (← Prog.get).seqCounter with
  | none => return none
  | some frame =>
    Prog.modify fun c => { c with seqCounter := (c.seqCounter + 1) % 2 ^ 16 }
    return some frame

/-- `rs422_seq_counter_rollback`. -/
def rs422SeqCounterRollback : Inj Unit :=
  Prog.modify fun c => { c with seqCounter := c.seqCounter - 1 }

/-- `uart_rs422_send_frame`. -/
def uartRs422SendFrame (frame : Bytes) : Inj Bool := do
  record (.sent frame)
  Prog.ask env.sendOk

/-- The check of `uart_rs422_send_and_wait`: the frame is valid and its command code the
expected one. -/
def expected (cmd : Cmd) (reply : Bytes) : Bool :=
  match rs422DecodeFrame reply with
  | none => false
  | some (_, cmdCode, _) => cmdCode = cmd.code

/-- `uart_rs422_send_and_wait`: the reply, if one came in time that fits the buffer and is of the
expected kind. -/
def uartRs422SendAndWait (frame : Bytes) (recvBufSize : ℕ) (expectedCmd : Cmd) :
    Inj (Option Bytes) := do
  if ¬ (← Prog.ask env.sendOk) then
    record (.exchange frame none)
    return none
  else
    match ← Prog.ask env.received with
    | none =>
      record (.exchange frame none)
      return none
    | some reply =>
      if recvBufSize < reply.length then
        record (.exchange frame none)
        return none
      else
        record (.exchange frame (some reply))
        if expected expectedCmd reply then return some reply else return none

end AntennaMgmt.Inject
