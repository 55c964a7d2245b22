import AntennaMgmt.Lib.Bytes

/-!
# CPRI messages

A message is a header of 15 bytes and a payload.  Decoding copies the payload into a slot of a
static pool, which `cpri_free_message` gives back after the message has been handled.
-/

namespace AntennaMgmt.Cpri

open AntennaMgmt.Lib

/-- `CPRI_HEADER_LEN`. -/
def cpriHeaderLen : ℕ := 15

/-- `MAX_CPRI_PAYLOAD_SIZE`. -/
def maxCpriPayloadSize : ℕ := 8192

/-- `MAX_CPRI_MESSAGE_POOL`. -/
def maxCpriMessagePool : ℕ := 16

/-- `cpri_msg_header_t`. -/
structure CpriHeader where
  msgId : ℕ
  msgLength : ℕ
  paauId : UInt8
  bbuId : UInt8
  portNum : UInt8
  serialNum : ℕ
deriving DecidableEq, Repr

/-- `cpri_message_t`, its payload pointer followed. -/
structure CpriMessage where
  header : CpriHeader
  payload : Bytes
deriving DecidableEq, Repr

/-- The error codes of the decoder. -/
inductive DecodeError
  | invalidParam
  | memory
deriving DecidableEq, Repr

/-- The `in_use` flags of the slots of `g_cpri_payload_pool`. -/
abbrev Pool := List Bool

/-- The pool of a process that has just started. -/
def Pool.fresh : Pool := List.replicate maxCpriMessagePool false

/-- `cpri_payload_alloc`: the first slot that is not in use. -/
def cpriPayloadAlloc (pool : Pool) (size : ℕ) : Option (ℕ × Pool) :=
  if maxCpriPayloadSize < size then none
  else match pool.findIdx? (!·) with
    | none => none
    | some i => some (i, pool.set i true)

/-- `cpri_free_message`: a message without a payload holds no slot. -/
def cpriFreeMessage (pool : Pool) (slot : Option ℕ) : Pool :=
  match slot with
  | none => pool
  | some i => pool.set i false

/-- The header fields of a buffer. -/
def decodeHeader (buffer : Bytes) : CpriHeader where
  msgId := leNat (slice buffer 0 4)
  msgLength := leNat (slice buffer 4 4)
  paauId := buffer.getD 8 0
  bbuId := buffer.getD 9 0
  portNum := buffer.getD 10 0
  serialNum := leNat (slice buffer 11 4)

/-- The header and the payload of a buffer. -/
def decodeBody (buffer : Bytes) : CpriMessage :=
  ⟨decodeHeader buffer, buffer.drop cpriHeaderLen⟩

/-- `cpri_decode_message`: the message, the slot its payload lies in and the pool afterwards. -/
def cpriDecodeMessage (pool : Pool) (buffer : Bytes) :
    Except DecodeError (CpriMessage × Option ℕ × Pool) :=
  if buffer.length < cpriHeaderLen then .error .invalidParam
  else if 0 < buffer.length - cpriHeaderLen then
    match cpriPayloadAlloc pool (buffer.length - cpriHeaderLen) with
    | none => .error .memory
    | some (i, pool') => .ok (decodeBody buffer, some i, pool')
  else .ok (decodeBody buffer, none, pool)

/-- A pool from which the next message can be served. -/
def Pool.HasFree (pool : Pool) : Prop := false ∈ pool

lemma Pool.fresh_hasFree : Pool.fresh.HasFree := by
  simp [HasFree, fresh, maxCpriMessagePool]

/-- Freeing an allocated slot restores the pool. -/
lemma cpriFreeMessage_alloc {pool pool' : Pool} {size i : ℕ}
    (h : cpriPayloadAlloc pool size = some (i, pool')) :
    cpriFreeMessage pool' (some i) = pool := by
  unfold cpriPayloadAlloc at h
  split_ifs at h
  cases hfind : pool.findIdx? (!·) with
  | none =>
    rw [hfind] at h
    cases h
  | some j =>
    rw [hfind] at h
    cases h
    obtain ⟨hlt, hfree, -⟩ := List.findIdx?_eq_some_iff_getElem.1 hfind
    have hval : pool[i] = false := by simpa using hfree
    rw [cpriFreeMessage, List.set_set, ← hval, List.set_getElem_self]

/-- Allocation succeeds while a slot is free. -/
lemma cpriPayloadAlloc_isSome {pool : Pool} (h : pool.HasFree) {size : ℕ}
    (hsize : size ≤ maxCpriPayloadSize) :
    ∃ i pool', cpriPayloadAlloc pool size = some (i, pool') := by
  have hsome : (pool.findIdx? (!·)).isSome := by
    rw [List.findIdx?_isSome, List.any_eq_true]
    exact ⟨false, h, rfl⟩
  obtain ⟨i, hi⟩ := Option.isSome_iff_exists.1 hsome
  exact ⟨i, pool.set i true, by rw [cpriPayloadAlloc, if_neg (Nat.not_lt.2 hsize), hi]⟩

/-- A buffer of a legal length is decoded while a slot is free, and freeing the message
restores the pool. -/
lemma cpriDecodeMessage_spec {pool : Pool} (h : pool.HasFree) {buffer : Bytes}
    (hmin : cpriHeaderLen ≤ buffer.length)
    (hmax : buffer.length - cpriHeaderLen ≤ maxCpriPayloadSize) :
    ∃ slot pool', cpriDecodeMessage pool buffer = .ok (decodeBody buffer, slot, pool') ∧
      cpriFreeMessage pool' slot = pool := by
  rw [cpriDecodeMessage, if_neg (Nat.not_lt.2 hmin)]
  split
  · obtain ⟨i, pool', halloc⟩ := cpriPayloadAlloc_isSome h hmax
    exact ⟨some i, pool', by rw [halloc], cpriFreeMessage_alloc halloc⟩
  · exact ⟨none, pool, rfl, rfl⟩

end AntennaMgmt.Cpri
