import AntennaMgmt.Rs422.PkFinder

/-!
# Receiving an acknowledgement

`uart_rs422_recv_frame` reads from the serial driver until a frame has come in or its time is
up.  The driver may hand over a frame in several pieces.
-/

namespace AntennaMgmt.Rs422

open AntennaMgmt.Lib

/-! ### The receiver -/

/-- What the check of a packet leaves behind: the packet that passed, and `frame_ready`. -/
structure Received where
  receivedFrame : Bytes
  frameReady : Bool
deriving DecidableEq, Repr

/-- `uart_recv_context_t`. -/
structure RecvContext extends Received where
  rbuf : RBuf

/-- The size of `received_frame`. -/
def receivedFrameSize : ℕ := 2048

/-- The size of `rd_buf`. -/
def rdBufSize : ℕ := 1024

/-- The size of `rbuf_storage` and of `parse_buf`. -/
def rbufSize : ℕ := 5120

/-- The `pkfinder` that `uart_recv_context_init` sets up. -/
def ackFinder : PkFinder where
  headBuf := [0x1A, 0xCF]
  headLen := 2
  headMasks := [0xFF, 0xFF]
  isPkFixLen := false
  pkFixLen := 0
  pkLenPos := 6
  pkLenLen := 2
  pkLenFirstMsk := 0xFF
  pkLenLittle := false
  pkLenAdd := 11

/-- `rs422_frame_check_and_process`. -/
def rs422FrameCheckAndProcess (ctx : Received) (pkBuf : Bytes) : Received × Bool :=
  if pkBuf.length = 0 then (ctx, false)
  else if pkBuf.length < headerSize + crcSize then (ctx, false)
  else if receivedFrameSize < pkBuf.length then (ctx, false)
  else
    let checksumOffset := pkBuf.length - crcSize
    if slice pkBuf checksumOffset 2 ≠ be16 (rs422Checksum (slice pkBuf 2 (checksumOffset - 2))) then
      (ctx, false)
    else (⟨pkBuf, true⟩, true)

/-- One round of the receive loop: `select` runs into its timeout, `select` or `read` fails, or
`read` hands over bytes. -/
inductive Poll
  | idle
  | failed
  | data (bs : Bytes)
deriving DecidableEq, Repr

/-- What the function returns. -/
inductive RecvResult
  | success (frame : Bytes)
  | errorGeneral
  | errorTimeout
  | errorInvalidParam
deriving DecidableEq, Repr

/-- The bytes of a `read` go into the ring; when it takes none of them, it is cleared first. -/
def putRead (r : RBuf) (bs : Bytes) : RBuf :=
  let (r', putLen) := rBufPut r bs
  if putLen ≠ bs.length ∧ putLen = 0 then (rBufPut (rBufClear r') bs).1 else r'

/-- What the loop does with the bytes of a `read`; it goes on unless there is a result. -/
def recvData (ctx : RecvContext) (frameBufSize : ℕ) (bs : Bytes) :
    Option (RecvContext × Option RecvResult) :=
  (pkfinderParse ackFinder rs422FrameCheckAndProcess rbufSize (putRead ctx.rbuf bs)
    ctx.toReceived).map fun (status, rbuf, received) =>
      if status = .ok ∧ received.frameReady then
        (⟨{ received with frameReady := false }, rbuf⟩,
          if frameBufSize < received.receivedFrame.length then some .errorGeneral
          else some (.success received.receivedFrame))
      -- also when no packet is complete yet
      else if status = .error then (⟨received, rbuf⟩, some .errorGeneral)
      else (⟨received, rbuf⟩, none)

/-- The loop of `uart_rs422_recv_frame`, round by round until the time is up. -/
def recvLoop (frameBufSize : ℕ) : RecvContext → List Poll → Option (RecvContext × RecvResult)
  | ctx, [] => some (ctx, .errorTimeout)
  | ctx, .idle :: polls => recvLoop frameBufSize ctx polls
  | ctx, .failed :: _ => some (ctx, .errorGeneral)
  | ctx, .data bs :: polls =>
    -- a `read` that gives nothing is no error
    if bs = [] then recvLoop frameBufSize ctx polls
    else match recvData ctx frameBufSize bs with
      | none => none
      | some (ctx, some res) => some (ctx, res)
      | some (ctx, none) => recvLoop frameBufSize ctx polls

/-- `uart_rs422_recv_frame`, of a client that is open or not. -/
def uartRs422RecvFrame (isOpen : Bool) (ctx : RecvContext) (frameBufSize : ℕ)
    (polls : List Poll) : Option (RecvContext × RecvResult) :=
  if isOpen then recvLoop frameBufSize { ctx with frameReady := false } polls
  else some (ctx, .errorInvalidParam)

/-- The function comes back. -/
theorem uartRs422RecvFrame_isSome (isOpen : Bool) (ctx : RecvContext) (frameBufSize : ℕ)
    (polls : List Poll) : (uartRs422RecvFrame isOpen ctx frameBufSize polls).isSome := by
  have hloop (ctx : RecvContext) : (recvLoop frameBufSize ctx polls).isSome := by
    induction polls generalizing ctx with
    | nil => rfl
    | cons poll polls ih =>
      cases poll with
      | idle => exact ih ctx
      | failed => rfl
      | data bs =>
        have hdata : (recvData ctx frameBufSize bs).isSome := by
          rw [recvData, Option.isSome_map]
          exact pkfinderParse_isSome (by decide) rfl (by decide) _ _
        unfold recvLoop
        split_ifs
        · exact ih ctx
        · split
          · simp_all
          · rfl
          · exact ih _
  unfold uartRs422RecvFrame
  split
  · exact hloop _
  · rfl

/-! ### Frames and reads -/

/-- A valid acknowledgement: sync word, length field and checksum are right. -/
structure IsAck (f : Bytes) : Prop where
  sync : f.take 2 = be16 syncWordAck
  length_eq : f.length = beNat (slice f 6 2) + 11
  checksum : slice f (f.length - 2) 2 = be16 (rs422Checksum (slice f 2 (f.length - 4)))

/-- The bytes of a round, when it reads any. -/
def Poll.read? : Poll → Option Bytes
  | .data bs => some bs
  | _ => none

/-- The reads of the rounds `polls`. -/
def reads (polls : List Poll) : List Bytes := polls.filterMap Poll.read?

/-- The rounds deliver `f`: nothing fails, no read is empty or more than `rd_buf` takes, and the
reads make up `f`. -/
structure Delivers (polls : List Poll) (f : Bytes) : Prop where
  not_failed : .failed ∉ polls
  read_le : ∀ c ∈ reads polls, c ≠ [] ∧ c.length ≤ rdBufSize
  flatten_eq : (reads polls).flatten = f

/-! ### Finding an acknowledgement -/

lemma IsAck.eleven_le {f : Bytes} (hf : IsAck f) : 11 ≤ f.length := by
  rw [hf.length_eq]
  exact Nat.le_add_left 11 _

/-- What has come in of an acknowledgement starts with its head. -/
lemma IsAck.headAt {f p q : Bytes} (hf : IsAck f) (h : p ++ q = f) (hp : 2 ≤ p.length) :
    ackFinder.headAt p 0 := by
  have hsync : p.take 2 = [0x1A, 0xCF] := by
    have htake : (p ++ q).take 2 = p.take 2 := List.take_append_of_le_length hp
    rw [← htake, h, hf.sync]
    rfl
  match p, hp with
  | a :: b :: rest, _ =>
    simp only [List.take_succ_cons, List.take_zero, List.cons.injEq, and_true] at hsync
    have hfirst : (0x1A : UInt8) &&& 0xFF = 0x1A := by decide
    have hsecond : (0xCF : UInt8) &&& 0xFF = 0xCF := by decide
    rw [hsync.1, hsync.2]
    simp [PkFinder.headAt, ackFinder, List.range_succ, hfirst, hsecond]

lemma ackFinder_lenField (buf : Bytes) : ackFinder.lenField buf 0 = beNat (slice buf 6 2) := by
  have hmask : (fun x : UInt8 => x &&& 0xFF) = id := funext fun x => UInt8.and_neg_one
  have hhead (l : Bytes) : l.modifyHead (fun x => x &&& 0xFF) = l := by
    rw [hmask]
    cases l <;> rfl
  simp only [PkFinder.lenField, ackFinder, hhead]
  rfl

/-- An acknowledgement that is there as a whole is found. -/
lemma IsAck.find_whole {f : Bytes} (hf : IsAck f) (fndLen : ℕ) :
    pkfinderFind ackFinder f fndLen = .whole 0 f.length := by
  have hlen := hf.eleven_le
  rw [pkfinderFind_of_headAt_zero (hf.headAt (List.append_nil f) (by omega))]
  simp only [PkFinder.measure, ackFinder_lenField]
  have hsmall : ¬ f.length < 0 + ackFinder.pkLenPos + ackFinder.pkLenLen := by
    simp only [ackFinder]
    omega
  have htotal : beNat (slice f 6 2) + ackFinder.pkLenAdd = f.length := hf.length_eq.symm
  rw [if_neg (by decide), if_neg (by decide), if_neg hsmall, Nat.zero_add, htotal,
    if_neg (lt_irrefl _)]

/-- An acknowledgement that is there in part is found short. -/
lemma IsAck.find_short {f p q : Bytes} (hf : IsAck f) (h : p ++ q = f) (hq : q ≠ [])
    (hp : 2 ≤ p.length) (fndLen : ℕ) : ∃ n, pkfinderFind ackFinder p fndLen = .short 0 n := by
  have hlt : p.length < f.length := by
    rw [← h, List.length_append]
    have := List.length_pos_iff.2 hq
    omega
  rw [pkfinderFind_of_headAt_zero (hf.headAt h hp)]
  simp only [PkFinder.measure, ackFinder_lenField]
  rw [if_neg (by decide), if_neg (by decide)]
  by_cases hfield : p.length < 0 + ackFinder.pkLenPos + ackFinder.pkLenLen
  · -- the length field is not complete
    exact ⟨fndLen, if_pos hfield⟩
  · rw [if_neg hfield]
    have hlead : slice p 6 2 = slice f 6 2 := by
      rw [← h]
      exact (slice_append q (not_lt.1 hfield)).symm
    have htotal : beNat (slice f 6 2) + ackFinder.pkLenAdd = f.length := hf.length_eq.symm
    rw [hlead, Nat.zero_add, htotal]
    exact ⟨f.length, if_pos hlt⟩

/-- An acknowledgement passes the check when there is room for it. -/
lemma IsAck.check {f : Bytes} (hf : IsAck f) (hroom : f.length ≤ receivedFrameSize)
    (ctx : Received) : rs422FrameCheckAndProcess ctx f = (⟨f, true⟩, true) := by
  have hlen := hf.eleven_le
  have hsum := hf.checksum
  rw [show f.length - 4 = f.length - 2 - 2 by omega] at hsum
  unfold rs422FrameCheckAndProcess
  rw [if_neg (by omega), if_neg (by unfold headerSize crcSize; omega), if_neg (not_lt.2 hroom)]
  exact if_neg (not_not.2 hsum)

/-! ### The receiver meets a frame -/

/-- A read fits into an empty ring. -/
lemma putRead_empty {r : RBuf} (hr : RBuf.HoldsIn rbufSize r []) {bs : Bytes}
    (hbs : bs.length ≤ rdBufSize) : RBuf.HoldsIn rbufSize (putRead r bs) bs := by
  obtain ⟨hholds, hlen⟩ := hr
  obtain ⟨hput, hret⟩ := hholds.put bs
  have hfit : (rBufPut r bs).2 = bs.length := by
    rw [hret, hlen, List.length_nil]
    unfold rbufSize
    unfold rdBufSize at hbs
    omega
  have hsame : putRead r bs = (rBufPut r bs).1 := by
    rw [putRead]
    exact if_neg fun hdrop => hdrop.1 hfit
  rw [hfit, List.take_length, List.nil_append] at hput
  exact ⟨hsame ▸ hput, by rw [hsame, rBufPut_len, hlen]⟩

/-- What the parser sees of a ring that holds a read. -/
lemma parseBuf_eq {r : RBuf} {bs : Bytes} (hr : RBuf.HoldsIn rbufSize r bs) :
    (rBufGet r rbufSize).1 = bs := by
  have hlt := hr.1.length_lt
  rw [hr.2] at hlt
  rw [hr.1.get]
  exact List.take_of_length_le hlt.le

/-- A part of an acknowledgement makes the parser report an error. -/
lemma IsAck.parse_part {f p q : Bytes} (hf : IsAck f) (h : p ++ q = f) (hq : q ≠ []) {r : RBuf}
    (hr : RBuf.HoldsIn rbufSize r p) (s : Received) :
    ∃ r', pkfinderParse ackFinder rs422FrameCheckAndProcess rbufSize r s =
      some (.error, r', s) := by
  have hbuf := parseBuf_eq hr
  simp only [pkfinderParse, hbuf, pkfinderLoop, Nat.zero_add]
  by_cases hp : ackFinder.headLen ≤ p.length
  · obtain ⟨n, hfind⟩ := hf.find_short h hq hp 0
    rw [if_pos hp, List.drop_zero, hfind]
    dsimp only
    split_ifs <;> exact ⟨_, rfl⟩
  · rw [if_neg hp]
    exact ⟨_, rfl⟩

/-- A whole acknowledgement makes it report success. -/
lemma IsAck.parse_whole {f : Bytes} (hf : IsAck f) (hroom : f.length ≤ receivedFrameSize)
    {r : RBuf} (hr : RBuf.HoldsIn rbufSize r f) (s : Received) :
    ∃ r', pkfinderParse ackFinder rs422FrameCheckAndProcess rbufSize r s =
      some (.ok, r', ⟨f, true⟩) := by
  have hlen := hf.eleven_le
  have hbuf := parseBuf_eq hr
  obtain ⟨n, hn⟩ : ∃ n, f.length = n + 1 := ⟨f.length - 1, by omega⟩
  have hhead : ackFinder.headLen = 2 := rfl
  have hslice : slice f 0 f.length = f := List.take_length
  have hend : ¬ f.length + ackFinder.headLen ≤ f.length := by omega
  refine ⟨(rBufRemove r f.length).1, ?_⟩
  rw [pkfinderParse, hbuf, pkfinderLoop, if_pos (by omega), List.drop_zero, hf.find_whole]
  simp only [Nat.zero_add, hslice, hf.check hroom, if_true]
  rw [hn, pkfinderLoop, ← hn, if_neg hend]
  rfl

/-- A read that holds a part of an acknowledgement ends the call with an error. -/
lemma IsAck.recvData_part {f p q : Bytes} (hf : IsAck f) (h : p ++ q = f) (hq : q ≠ [])
    (ctx : RecvContext) (hctx : RBuf.HoldsIn rbufSize ctx.rbuf []) (hp : p.length ≤ rdBufSize)
    (frameBufSize : ℕ) :
    ∃ ctx', recvData ctx frameBufSize p = some (ctx', some .errorGeneral) := by
  obtain ⟨r', hparse⟩ := hf.parse_part h hq (putRead_empty hctx hp) ctx.toReceived
  rw [recvData, hparse]
  exact ⟨_, rfl⟩

/-- A read that holds all of it ends the call with success. -/
lemma IsAck.recvData_whole {f : Bytes} (hf : IsAck f) (ctx : RecvContext)
    (hctx : RBuf.HoldsIn rbufSize ctx.rbuf []) (hread : f.length ≤ rdBufSize) {frameBufSize : ℕ}
    (hsize : f.length ≤ frameBufSize) :
    ∃ ctx', recvData ctx frameBufSize f = some (ctx', some (.success f)) := by
  have hroom : f.length ≤ receivedFrameSize := hread.trans (by decide)
  obtain ⟨r', hparse⟩ := hf.parse_whole hroom (putRead_empty hctx hread) ctx.toReceived
  rw [recvData, hparse]
  refine ⟨⟨⟨f, false⟩, r'⟩, ?_⟩
  simp only [Option.map_some, and_self, if_true, if_neg (not_lt.2 hsize)]

/-- The rounds before the first read change nothing. -/
lemma recvLoop_of_reads {polls : List Poll} {f : Bytes} (h : Delivers polls f) (hf : f ≠ [])
    (frameBufSize : ℕ) (ctx : RecvContext) : ∃ c rest cs, reads polls = c :: cs ∧
      recvLoop frameBufSize ctx polls = match recvData ctx frameBufSize c with
        | none => none
        | some (ctx, some res) => some (ctx, res)
        | some (ctx, none) => recvLoop frameBufSize ctx rest := by
  induction polls with
  | nil => exact absurd h.flatten_eq.symm hf
  | cons poll polls ih =>
    cases poll with
    | idle =>
      exact ih ⟨fun hmem => h.not_failed (List.mem_cons_of_mem _ hmem), h.read_le, h.flatten_eq⟩
    | failed => exact absurd List.mem_cons_self h.not_failed
    | data bs =>
      have hbs : bs ≠ [] := (h.read_le bs List.mem_cons_self).1
      exact ⟨bs, polls, reads polls, rfl, by rw [recvLoop, if_neg hbs]⟩

/-- An acknowledgement that arrives before the time is up is received if and only if one read
holds all of it: what a call makes of a first part is a parsing error. -/
theorem recv_iff_single_read {f : Bytes} (hf : IsAck f) {frameBufSize : ℕ}
    (hsize : f.length ≤ frameBufSize) {ctx : RecvContext}
    (hctx : RBuf.HoldsIn rbufSize ctx.rbuf []) {polls : List Poll} (hpolls : Delivers polls f) :
    (∃ ctx', uartRs422RecvFrame true ctx frameBufSize polls = some (ctx', .success f)) ↔
      reads polls = [f] := by
  have hlen := hf.eleven_le
  have hne : f ≠ [] := List.length_pos_iff.1 (by omega)
  obtain ⟨c, rest, cs, hreads, hloop⟩ :=
    recvLoop_of_reads hpolls hne frameBufSize { ctx with frameReady := false }
  obtain ⟨-, hread⟩ := hpolls.read_le c (hreads ▸ List.mem_cons_self)
  have hflatten : c ++ cs.flatten = f := by rw [← hpolls.flatten_eq, hreads, List.flatten_cons]
  rw [uartRs422RecvFrame, if_pos rfl, hloop]
  constructor
  · rintro ⟨ctx', hsuccess⟩
    by_cases hcs : cs = []
    · rw [hreads, ← hflatten, hcs, List.flatten_nil, List.append_nil]
    · -- more reads follow, so the first one holds a part
      exfalso
      have hmore : cs.flatten ≠ [] := by
        obtain ⟨d, ds, rfl⟩ := List.exists_cons_of_ne_nil hcs
        have hd := (hpolls.read_le d (hreads ▸ by simp)).1
        rw [List.flatten_cons]
        exact fun hnil => hd (List.append_eq_nil_iff.1 hnil).1
      obtain ⟨ctx'', hdata⟩ := hf.recvData_part hflatten hmore
        { ctx with frameReady := false } hctx hread frameBufSize
      rw [hdata] at hsuccess
      cases hsuccess
  · intro hsingle
    obtain rfl : c = f := by
      rw [hreads] at hsingle
      exact (List.cons.inj hsingle).1
    obtain ⟨ctx', hdata⟩ := hf.recvData_whole { ctx with frameReady := false } hctx hread hsize
    rw [hdata]
    exact ⟨ctx', rfl⟩

/-- A context with an empty ring. -/
def emptyContext : RecvContext := ⟨⟨[], false⟩, ⟨List.replicate rbufSize 0, rbufSize, 0, 0⟩⟩

lemma emptyContext_holds : RBuf.HoldsIn rbufSize emptyContext.rbuf [] :=
  ⟨RBuf.holds_clear (r := emptyContext.rbuf) List.length_replicate (by decide) (by decide), rfl⟩

lemma ackFrame_isAck : IsAck (ackFrame .dataAck 0) := by
  constructor <;> decide

/-- The acknowledgement of a data packet is received when one read holds it. -/
theorem recv_iff_single_read_dataAck :
    ∃ ctx', uartRs422RecvFrame true emptyContext 256 [.idle, .data (ackFrame .dataAck 0)] =
      some (ctx', .success (ackFrame .dataAck 0)) :=
  (recv_iff_single_read ackFrame_isAck (by decide) emptyContext_holds
    ⟨by decide, by decide, by decide⟩).2 (by decide)

/-- A frame whose first byte is read alone is lost. -/
theorem split_ack_lost :
    ¬ ∀ (f : Bytes) (frameBufSize : ℕ) (ctx : RecvContext) (polls : List Poll), IsAck f →
      f.length ≤ frameBufSize → RBuf.HoldsIn rbufSize ctx.rbuf [] → Delivers polls f →
      ∃ ctx', uartRs422RecvFrame true ctx frameBufSize polls = some (ctx', .success f) := by
  intro hall
  have hack := ackFrame_isAck
  obtain ⟨ctx', hsuccess⟩ := hall (ackFrame .dataAck 0) 256 emptyContext
    [.data ((ackFrame .dataAck 0).take 1), .data ((ackFrame .dataAck 0).drop 1)] hack (by decide)
    emptyContext_holds ⟨by decide, by decide, by decide⟩
  obtain ⟨ctx'', hdata⟩ := hack.recvData_part (List.take_append_drop 1 _) (by decide)
    { emptyContext with frameReady := false } emptyContext_holds (by decide) 256
  rw [uartRs422RecvFrame, if_pos rfl, recvLoop, if_neg (by decide), hdata] at hsuccess
  cases hsuccess

end AntennaMgmt.Rs422
