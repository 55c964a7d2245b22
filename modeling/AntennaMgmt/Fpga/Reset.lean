import AntennaMgmt.Fpga.Splitter
import AntennaMgmt.Lib.Window

/-!
# The overflow reset

When a read does not fit into `frame_buffer`, `uart_recv_thread` starts again with an empty one.
The buffer fills up while the thread waits for the rest of a frame, and a false header with a
large length makes it wait for bytes that are no frame: the intact frames among them are then
thrown away with the header.
-/

namespace AntennaMgmt.Fpga

open AntennaMgmt.Lib
open AntennaMgmt.Lib.ScanFormat (received StandsAt)

/-! ### The thread over reads without end -/

/-- The inner loop comes to an end after every read. -/
lemma uartRecv_isSome (frameBuffer buffer : Bytes) : (uartRecv frameBuffer buffer).isSome := by
  have hloop (fb : Bytes) : (splitLoop fb (fb.length + 1) 0).isSome := by
    have hscans : LoopScans fb (splitLoop fb (fb.length + 1) 0) (fb.drop 0) :=
      splitLoop_scans (Nat.zero_le _) (by omega)
    obtain ⟨processed, -, hend, -⟩ := hscans
    rw [hend]
    rfl
  simp only [uartRecv]
  generalize (if frameBufferSize < frameBuffer.length + buffer.length then [] else frameBuffer) = fb
  split_ifs
  · rfl
  · rfl
  · rw [Option.isSome_map]
    exact hloop _

/-- A round of the thread. -/
def recvRound (frameBuffer buffer : Bytes) : Bytes × List Callback :=
  (uartRecv frameBuffer buffer).get (uartRecv_isSome frameBuffer buffer)

section Defs

variable (reads : ℕ → Bytes)

/-- `frame_buffer` before the `n`-th read. -/
def frameBufferAt : ℕ → Bytes
  | 0 => []
  | n + 1 => (recvRound (frameBufferAt n) (reads n)).1

/-- The calls of the callbacks after the `n`-th read. -/
def callsAt (n : ℕ) : List Callback := (recvRound (frameBufferAt reads n) (reads n)).2

/-- The overflow reset fires at the `n`-th read. -/
def ResetAt (n : ℕ) : Prop := frameBufferSize < (frameBufferAt reads n).length + (reads n).length

/-- The byte at the position `p` of the stream is in `frame_buffer` before the `n`-th read. -/
def BufferedAt (n p : ℕ) : Prop :=
  (received reads n).length - (frameBufferAt reads n).length ≤ p ∧ p < (received reads n).length

/-- What the inner loop works on after the `n`-th read: the read, behind what was in
`frame_buffer` unless the reset fires. -/
def workedOnAt (n : ℕ) : Bytes :=
  ScanFormat.window frameBufferSize (frameBufferAt reads n) (reads n)

/-- The frames that the inner loop accepts after the `n`-th read, each with its position in the
stream. -/
def acceptedAt (n : ℕ) : List (ℕ × Bytes) :=
  fpgaFormat.scanAt ((received reads (n + 1)).length - (workedOnAt reads n).length)
    (workedOnAt reads n)

/-- The frame `f` at the position `p` overlaps no other frame that is accepted. -/
def ClearOfAccepted (f : Bytes) (p : ℕ) : Prop :=
  ∀ n, ∀ q ∈ acceptedAt reads n, q = (p, f) ∨ q.1 + q.2.length ≤ p ∨ p + f.length ≤ q.1

/-- The frame `f` at the position `p` is accepted, and the call that is made for it is that of its
callback. -/
def Delivered (f : Bytes) (p : ℕ) : Prop :=
  ∃ n k : ℕ, (acceptedAt reads n)[k]? = some (p, f) ∧ (callsAt reads n)[k]? = some (callbackOf f)

end Defs

/-- An intact frame: a status frame, or a telemetry frame whose source and length are on the white
list. -/
inductive IsIntact : Bytes → Prop
  | status {data : Bytes} : data.length = 127 →
      IsIntact ([0xEB, 0x90, 0x00, 0x7F] ++ data ++ [0x55, 0x55])
  | telemetry {source length : UInt8} {data : Bytes} : whiteListed source length →
      data.length = length.toNat → IsIntact ([0xEB, 0x93, source, length] ++ data ++ [0x55, 0x55])

/-! ### The positions of the inner loop -/

/-- The inner loop goes on from right behind each frame that it hands on: the positions of the
scanner are those of the loop. -/
lemma splitLoop_hands {frameBuffer : Bytes} {rounds processedBytes : ℕ}
    (hstart : processedBytes ≤ frameBuffer.length)
    (hrounds : frameBuffer.length < processedBytes + rounds) {q : ℕ × Bytes}
    (hq : q ∈ fpgaFormat.scanAt processedBytes (frameBuffer.drop processedBytes)) :
    q.2 = slice frameBuffer q.1 q.2.length ∧ ∃ left calls,
      splitLoop frameBuffer rounds processedBytes =
        (splitLoop frameBuffer left (q.1 + q.2.length)).map fun (processed, later) =>
          (processed, calls ++ handleFrame q.2 ++ later) := by
  induction rounds generalizing processedBytes with
  | zero => omega
  | succ rounds ih =>
    have hlen : (frameBuffer.drop processedBytes).length =
        frameBuffer.length - processedBytes := List.length_drop
    cases splitLoop_step frameBuffer rounds hstart with
    | @ends processed hle hloop hscan =>
      have hnone := ScanFormat.map_snd_scanAt (F := fpgaFormat) processedBytes
        (frameBuffer.drop processedBytes)
      rw [hscan, List.map_eq_nil_iff] at hnone
      rw [hnone] at hq
      cases hq
    | @passes k hpos hle hskip hloop =>
      rw [ScanFormat.scanAt_drop (F := fpgaFormat) (by omega) hskip, List.drop_drop] at hq
      rw [hloop]
      exact ih hle (by omega) hq
    | @hands k len hle hskip hjudge hloop =>
      have hsix := (judge_take hjudge).1
      have htake := ScanFormat.scanAt_take (F := fpgaFormat) hjudge (processedBytes + k)
      have hframe : ((frameBuffer.drop (processedBytes + k)).take len).length = len :=
        List.length_take_of_le (judge_take hjudge).2
      rw [ScanFormat.scanAt_drop (F := fpgaFormat) (by omega) hskip, List.drop_drop, htake,
        List.drop_drop] at hq
      rw [hloop]
      rcases List.mem_cons.1 hq with rfl | hlater
      · dsimp only
        rw [hframe]
        exact ⟨rfl, rounds, [], rfl⟩
      · obtain ⟨hslice, left, calls, hrest⟩ := ih (by omega) (by omega) hlater
        refine ⟨hslice, left,
          handleFrame ((frameBuffer.drop (processedBytes + k)).take len) ++ calls, ?_⟩
        rw [hrest, Option.map_map]
        congr 1
        funext e
        simp only [Function.comp_apply, List.append_assoc]

/-! ### The thread is a scanner with a bounded buffer -/

variable {reads : ℕ → Bytes}

/-- A round scans the read behind what has been kept, or alone when it does not fit. -/
lemma recvRound_eq {frameBuffer buffer : Bytes} (hpos : 1 ≤ buffer.length)
    (hle : buffer.length ≤ 1024) :
    recvRound frameBuffer buffer =
      ((fpgaFormat.scan (ScanFormat.window frameBufferSize frameBuffer buffer)).2,
        (fpgaFormat.scan (ScanFormat.window frameBufferSize frameBuffer buffer)).1.map
          callbackOf) := by
  have hne : buffer ≠ [] := List.length_pos_iff.1 hpos
  have hsize : buffer.length ≤ frameBufferSize := hle.trans (by decide)
  have hrecv : uartRecv frameBuffer buffer =
      some ((fpgaFormat.scan (ScanFormat.window frameBufferSize frameBuffer buffer)).2,
        (fpgaFormat.scan (ScanFormat.window frameBufferSize frameBuffer buffer)).1.map
          callbackOf) := by
    rw [ScanFormat.window]
    split_ifs with hreset
    · -- the thread goes on as from an empty buffer
      have hempty : uartRecv frameBuffer buffer = uartRecv [] buffer := by
        simp only [uartRecv, if_neg hne, if_pos hreset, ite_self]
      have hfits : ([] : Bytes).length + buffer.length ≤ frameBufferSize := by
        rwa [List.length_nil, Nat.zero_add]
      rw [hempty, uartRecv_eq hne hfits, List.nil_append]
    · exact uartRecv_eq hne (not_lt.1 hreset)
  simp only [recvRound, hrecv, Option.get_some]

/-- The reads that the driver can hand over. -/
def ReadsOk (reads : ℕ → Bytes) : Prop := ∀ n, 1 ≤ (reads n).length ∧ (reads n).length ≤ 1024

lemma frameBufferAt_eq (h : ReadsOk reads) (n : ℕ) :
    frameBufferAt reads n = fpgaFormat.held frameBufferSize reads n := by
  induction n with
  | zero => rfl
  | succ n ih => rw [frameBufferAt, recvRound_eq (h n).1 (h n).2, ih, ScanFormat.held]

lemma acceptedAt_eq (h : ReadsOk reads) (n : ℕ) :
    acceptedAt reads n = fpgaFormat.taken frameBufferSize reads n := by
  rw [acceptedAt, workedOnAt, frameBufferAt_eq h]
  rfl

/-- After each read the callbacks of the accepted frames are called, in their order. -/
lemma callsAt_eq (h : ReadsOk reads) (n : ℕ) :
    callsAt reads n = (acceptedAt reads n).map fun q => callbackOf q.2 := by
  have hframes := ScanFormat.map_snd_scanAt (F := fpgaFormat)
    ((received reads (n + 1)).length - (workedOnAt reads n).length) (workedOnAt reads n)
  rw [callsAt, recvRound_eq (h n).1 (h n).2]
  have hcalls : (acceptedAt reads n).map (fun q => callbackOf q.2) =
      ((acceptedAt reads n).map Prod.snd).map callbackOf := by
    rw [List.map_map]
    rfl
  rw [hcalls, acceptedAt, hframes]
  rfl

lemma delivered_iff (h : ReadsOk reads) {f : Bytes} {p : ℕ} :
    Delivered reads f p ↔ ∃ n, (p, f) ∈ acceptedAt reads n := by
  constructor
  · rintro ⟨n, k, hk, -⟩
    exact ⟨n, List.mem_of_getElem? hk⟩
  · rintro ⟨n, hmem⟩
    obtain ⟨k, hk⟩ := List.mem_iff_getElem?.1 hmem
    refine ⟨n, k, hk, ?_⟩
    rw [callsAt_eq h, List.getElem?_map, hk]
    rfl

/-! ### Intact frames -/

/-- A frame of the right layout is taken. -/
lemma judge_build {kind c d : UInt8} {data : Bytes} (hkind : kind = 0x90 ∨ kind = 0x93)
    (hcand : candidateLen kind c d = some (data.length + 6)) (hle : data.length + 6 ≤ 2048) :
    judge ([0xEB, kind, c, d] ++ data ++ [0x55, 0x55]) = .take (data.length + 6) := by
  have hlen : ([0xEB, kind, c, d] ++ data ++ [0x55, 0x55] : Bytes).length = data.length + 6 := by
    simp only [List.length_append, List.length_cons, List.length_nil]
    omega
  have htail : slice ([0xEB, kind, c, d] ++ data ++ [0x55, 0x55]) (data.length + 6 - 2) 2 =
      [0x55, 0x55] := by
    have hpos : ([0xEB, kind, c, d] ++ data : Bytes).length = data.length + 6 - 2 := by
      simp only [List.length_append, List.length_cons, List.length_nil]
      omega
    rw [slice, ← hpos, List.drop_left]
    rfl
  have hjudge : judge ([0xEB, kind, c, d] ++ data ++ [0x55, 0x55]) =
      frameVerdict ([0xEB, kind, c, d] ++ data ++ [0x55, 0x55]) (data.length + 6) := by
    simp only [List.cons_append, List.nil_append, judge, true_and, if_pos hkind, hcand]
  rw [hjudge, frameVerdict, if_neg (by omega), if_neg (by omega), if_pos htail]

lemma IsIntact.judge_eq {f : Bytes} (hf : IsIntact f) : judge f = .take f.length := by
  cases hf with
  | @status data hdata =>
    have hcand : candidateLen 0x90 0x00 0x7F = some (data.length + 6) := by
      rw [hdata]
      decide
    rw [judge_build (.inl rfl) hcand (by omega)]
    simp only [List.length_append, List.length_cons, List.length_nil]
    congr 1
    omega
  | @telemetry source length data hlisted hdata =>
    have hcand : candidateLen 0x93 source length = some (data.length + 6) := by
      rw [candidateLen, if_neg (by decide), if_pos hlisted, hdata, Nat.add_comm]
    have hbyte := length.toNat_lt
    rw [judge_build (.inr rfl) hcand (by omega)]
    simp only [List.length_append, List.length_cons, List.length_nil]
    congr 1
    omega

/-- **Intact frames.**  Whatever comes before it, an intact frame that overlaps no frame accepted
instead is delivered to its callback if and only if the overflow reset never fires while the first
byte of the frame is in `frame_buffer`. -/
theorem intact_delivered_iff (hreads : ReadsOk reads) {f : Bytes} {p : ℕ} (hf : IsIntact f)
    (hat : StandsAt reads f p) (hclear : ClearOfAccepted reads f p) :
    Delivered reads f p ↔ ∀ n, ResetAt reads n → ¬ BufferedAt reads n p := by
  have hne (n : ℕ) : reads n ≠ [] := List.length_pos_iff.1 (hreads n).1
  have hjudge : fpgaFormat.judge f = .take f.length := hf.judge_eq
  have hapart : fpgaFormat.Apart frameBufferSize reads f p := fun n q hq =>
    hclear n q (acceptedAt_eq hreads n ▸ hq)
  have hiff := ScanFormat.exists_mem_taken_iff hne hjudge hat hapart
  simp only [delivered_iff hreads, acceptedAt_eq hreads, ResetAt, BufferedAt,
    frameBufferAt_eq hreads]
  exact hiff

/-- A status frame with all data zero. -/
def zeroStatus : Bytes := [0xEB, 0x90, 0x00, 0x7F] ++ List.replicate 127 0 ++ [0x55, 0x55]

lemma zeroStatus_isIntact : IsIntact zeroStatus := .status List.length_replicate

lemma length_zeroStatus : zeroStatus.length = 133 := by
  simp only [zeroStatus, List.length_append, List.length_replicate, List.length_cons,
    List.length_nil]

/-- The same status frame with every read. -/
theorem intact_delivered_iff_zeroStatus : Delivered (fun _ => zeroStatus) zeroStatus 0 := by
  have hintact := zeroStatus_isIntact
  have hlen := length_zeroStatus
  generalize zeroStatus = f at *
  have hreads : ReadsOk fun _ => f := fun n => by
    dsimp only
    omega
  have hjudge : fpgaFormat.judge f = .take f.length := hintact.judge_eq
  have hwindow : ScanFormat.window frameBufferSize [] f = f := by
    rw [ScanFormat.window, List.length_nil, hlen]
    exact if_neg (by decide)
  have hbuffer (n : ℕ) : frameBufferAt (fun _ => f) n = [] := by
    induction n with
    | zero => rfl
    | succ n ih =>
      rw [frameBufferAt, recvRound_eq (hreads n).1 (hreads n).2, ih, hwindow,
        ScanFormat.scan_take hjudge, List.drop_length, ScanFormat.scan_nil]
  have hreceived (n : ℕ) : (received (fun _ => f) n).length = 133 * n := by
    induction n with
    | zero => rfl
    | succ n ih => rw [received, List.length_append, ih, hlen, Nat.mul_succ]
  -- every read holds one frame
  have haccepted (n : ℕ) : acceptedAt (fun _ => f) n = [(133 * n, f)] := by
    have hfrom : 133 * (n + 1) - 133 = 133 * n := by omega
    rw [acceptedAt, workedOnAt, hbuffer, hwindow, hreceived, ScanFormat.scanAt_take hjudge,
      List.take_length, List.drop_length, ScanFormat.scanAt_nil, hlen, hfrom]
  have hat : StandsAt (fun _ => f) f 0 := ⟨1, [], [], (List.append_nil f).symm, rfl⟩
  refine (intact_delivered_iff hreads hintact hat fun n q hq => ?_).2 fun n hreset => ?_
  · rw [haccepted] at hq
    obtain rfl := List.mem_singleton.1 hq
    cases n with
    | zero => exact .inl rfl
    | succ n =>
      refine .inr (.inr ?_)
      dsimp only
      omega
  · rw [ResetAt, hbuffer, List.length_nil, hlen] at hreset
    exact absurd hreset (by decide)

/-- A false header with the length field `0x07FA` and a frame behind it in the first read; what
comes later is the same in every read. -/
def behindFalseHeader (f later : Bytes) : ℕ → Bytes
  | 0 => [0xEB, 0x90, 0x07, 0xFA] ++ f
  | _ + 1 => later

/-- The false header makes the thread wait for 2048 bytes. -/
lemma judge_falseHeader {s : Bytes} (h : s.length < 2044) :
    fpgaFormat.judge ([0xEB, 0x90, 0x07, 0xFA] ++ s) = .more := by
  have hcand : candidateLen 0x90 0x07 0xFA = some 2048 := by decide
  have hlen : ([0xEB, 0x90, 0x07, 0xFA] ++ s : Bytes).length = 4 + s.length := by
    rw [List.length_append]
    rfl
  have hjudge : judge ([0xEB, 0x90, 0x07, 0xFA] ++ s) =
      frameVerdict ([0xEB, 0x90, 0x07, 0xFA] ++ s) 2048 := by
    simp only [List.cons_append, List.nil_append, judge, true_and, true_or, if_true, hcand]
  have hformat : fpgaFormat.judge = judge := rfl
  rw [hformat, hjudge, frameVerdict, if_neg (lt_irrefl _), if_pos (by omega)]

section FalseHeader

variable {f later : Bytes} (hf : f.length = 133) (hlater : later.length = 1000)

include hf in
lemma length_falseHeader : ([0xEB, 0x90, 0x07, 0xFA] ++ f : Bytes).length = 137 := by
  rw [List.length_append, hf]
  rfl

include hf hlater in
lemma readsOk_behindFalseHeader : ReadsOk (behindFalseHeader f later) := by
  intro n
  cases n with
  | zero =>
    rw [behindFalseHeader, length_falseHeader hf]
    decide
  | succ n =>
    rw [behindFalseHeader, hlater]
    decide

/-- While the thread waits, nothing is accepted and all is kept. -/
lemma waits_behindFalseHeader {n : ℕ} {s : Bytes} (hreads : ReadsOk reads)
    (hs : s.length < 2044) (h : workedOnAt reads n = [0xEB, 0x90, 0x07, 0xFA] ++ s) :
    acceptedAt reads n = [] ∧ frameBufferAt reads (n + 1) = [0xEB, 0x90, 0x07, 0xFA] ++ s := by
  have hmore := judge_falseHeader hs
  constructor
  · rw [acceptedAt, h, ScanFormat.scanAt_more hmore]
  · rw [frameBufferAt, recvRound_eq (hreads n).1 (hreads n).2, ← workedOnAt, h,
      ScanFormat.scan_more hmore]

include hf hlater in
/-- After two reads nothing has been accepted and everything is in the buffer. -/
lemma two_reads_behindFalseHeader : acceptedAt (behindFalseHeader f later) 0 = [] ∧
    acceptedAt (behindFalseHeader f later) 1 = [] ∧
    frameBufferAt (behindFalseHeader f later) 2 = [0xEB, 0x90, 0x07, 0xFA] ++ f ++ later := by
  have hreads := readsOk_behindFalseHeader hf hlater
  have hfirst := length_falseHeader hf
  obtain ⟨hnone, hone⟩ : acceptedAt (behindFalseHeader f later) 0 = [] ∧
      frameBufferAt (behindFalseHeader f later) 1 = [0xEB, 0x90, 0x07, 0xFA] ++ f := by
    refine waits_behindFalseHeader hreads (by omega) ?_
    rw [workedOnAt, frameBufferAt, behindFalseHeader, ScanFormat.window, hfirst]
    exact if_neg (by decide)
  have hsecond := waits_behindFalseHeader (n := 1) (s := f ++ later) hreads
    (by rw [List.length_append]; omega) (by
      rw [workedOnAt, hone, behindFalseHeader, ScanFormat.window, hfirst, hlater,
        if_neg (by decide), List.append_assoc])
  rw [List.append_assoc]
  exact ⟨hnone, hsecond⟩

include hf hlater in
/-- The third read does not fit any more. -/
lemma overflow_behindFalseHeader :
    (received (behindFalseHeader f later) 2).length = 1137 ∧
      fpgaFormat.Overflows frameBufferSize (behindFalseHeader f later) 2 ∧
      fpgaFormat.Keeps frameBufferSize (behindFalseHeader f later) 2 4 := by
  have hbuffer := (two_reads_behindFalseHeader hf hlater).2.2
  have hfirst := length_falseHeader hf
  rw [frameBufferAt_eq (readsOk_behindFalseHeader hf hlater)] at hbuffer
  have hreceived : (received (behindFalseHeader f later) 2).length = 1137 := by
    rw [received, received, received, behindFalseHeader, behindFalseHeader, List.nil_append,
      List.length_append, hfirst, hlater]
  refine ⟨hreceived, ?_, ?_⟩
  · rw [ScanFormat.Overflows, hbuffer, List.length_append, hfirst, behindFalseHeader, hlater]
    decide
  · rw [ScanFormat.Keeps, ScanFormat.heldFrom, hreceived, hbuffer, List.length_append, hfirst,
      hlater]
    decide

include hf hlater in
/-- What is accepted later stands behind what has been thrown away. -/
lemma clear_behindFalseHeader : ClearOfAccepted (behindFalseHeader f later) f 4 := by
  obtain ⟨hnone, hnone', -⟩ := two_reads_behindFalseHeader hf hlater
  obtain ⟨hreceived, hreset, -⟩ := overflow_behindFalseHeader hf hlater
  intro n q hq
  match n with
  | 0 =>
    rw [hnone] at hq
    cases hq
  | 1 =>
    rw [hnone'] at hq
    cases hq
  | n + 2 =>
    rw [acceptedAt_eq (readsOk_behindFalseHeader hf hlater)] at hq
    obtain ⟨hfrom, -⟩ := ScanFormat.mem_taken hq
    have hmono : fpgaFormat.scannedFrom frameBufferSize (behindFalseHeader f later) 2 ≤
        fpgaFormat.scannedFrom frameBufferSize (behindFalseHeader f later) (n + 2) :=
      ScanFormat.scannedFrom_mono (Nat.le_add_left 2 n)
    rw [ScanFormat.scannedFrom_of_overflows hreset, hreceived] at hmono
    exact .inr (.inr (by omega))

end FalseHeader

/-- A status frame is thrown away with the false header before it. -/
theorem reset_loses_status :
    ¬ ∀ (reads : ℕ → Bytes) (f : Bytes) (p : ℕ), ReadsOk reads → IsIntact f →
      StandsAt reads f p → ClearOfAccepted reads f p → Delivered reads f p := by
  intro hall
  have hlen := length_zeroStatus
  obtain ⟨later, hlater⟩ : ∃ later : Bytes, later.length = 1000 :=
    ⟨List.replicate 1000 0, List.length_replicate⟩
  have hreads := readsOk_behindFalseHeader hlen hlater
  obtain ⟨-, hreset, hkeeps⟩ := overflow_behindFalseHeader hlen hlater
  have hat : StandsAt (behindFalseHeader zeroStatus later) zeroStatus 4 :=
    ⟨1, [0xEB, 0x90, 0x07, 0xFA], [], (List.append_nil _).symm, rfl⟩
  have hdelivered := hall _ zeroStatus 4 hreads zeroStatus_isIntact hat
    (clear_behindFalseHeader hlen hlater)
  obtain ⟨n, hn⟩ := (delivered_iff hreads).1 hdelivered
  rw [acceptedAt_eq hreads] at hn
  exact ScanFormat.not_keeps_of_mem_taken (hlen ▸ Nat.succ_pos 132) hn hreset hkeeps

end AntennaMgmt.Fpga
