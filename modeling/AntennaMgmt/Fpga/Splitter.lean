import AntennaMgmt.Fpga.Protocol
import AntennaMgmt.Lib.Scanner
import Mathlib.Tactic.Common

/-!
# The UART splitter

`uart_recv_thread` collects what it reads from the UART and cuts frames out of it, which it hands
to three callbacks.  It is a greedy scanner: how the stream is cut into reads does not matter.
-/

namespace AntennaMgmt.Fpga

open AntennaMgmt.Lib
open AntennaMgmt.Rs422 (beNat)

/-! ### The receive thread -/

/-- The size of `frame_buffer`. -/
def frameBufferSize : ℕ := 2048

/-- A call of one of the client's callbacks. -/
inductive Callback
  | onTelemetryLogFrame (frame : Bytes)
  | onStatusReceived (status : FpgaStatusFrame)
  | onDataReceived (frame : Bytes)
deriving DecidableEq, Repr

/-- The header at a position is one of the two that are searched for. -/
def isHeader (hdr : ℕ) : Bool := hdr = frameHeader ∨ hdr = telemetryLogHeader

/-- The search for a header: as far as two bytes can be read. -/
def findHeader (buf : Bytes) : Option ℕ :=
  (List.range (buf.length - 1)).find? fun headerPos => isHeader (beNat (slice buf headerPos 2))

/-- `expected_frame_len` of the candidate at the start of `buf`, unless it is rejected. -/
def expectedFrameLen (buf : Bytes) : Option ℕ :=
  if beNat (slice buf 0 2) = telemetryLogHeader then
    let dataLen := (buf.getD 3 0).toNat
    let expectLen := fpgaTelemetryPayloadLen (buf.getD 2 0)
    if expectLen = 0 ∨ dataLen ≠ expectLen then none else some (6 + dataLen)
  else some (2 + 2 + beNat (slice buf 2 2) + 2)

/-- What is done with a frame. -/
def handleFrame (frame : Bytes) : List Callback :=
  if beNat (slice frame 0 2) = telemetryLogHeader then [.onTelemetryLogFrame frame]
  else if frame.length = 133 ∧ beNat (slice frame 2 2) = 127 then
    match fpgaDecodeStatusFrame frame with
    | some status => [.onStatusReceived status]
    | none => []
  else [.onDataReceived frame]

/-- The inner loop, in at most the given number of rounds: `processed_bytes` at its end and the
calls that it makes. -/
def splitLoop (frameBuffer : Bytes) : ℕ → ℕ → Option (ℕ × List Callback)
  | 0, _ => none
  | rounds + 1, processedBytes =>
    if processedBytes < frameBuffer.length then
      let buf := frameBuffer.drop processedBytes
      match findHeader buf with
      | none =>
        -- a last byte that may be half a header is kept
        if buf.getLast? = some 0xEB then some (processedBytes + (buf.length - 1), [])
        else some (frameBuffer.length, [])
      | some headerPos =>
        let processedBytes := processedBytes + headerPos
        let buf := buf.drop headerPos
        -- the two bytes behind the header tell the length: wait for them
        if buf.length < 4 then some (processedBytes, [])
        else
          match expectedFrameLen buf with
          -- a rejected candidate costs one byte, since a frame may start within it
          | none => splitLoop frameBuffer rounds (processedBytes + 1)
          | some len =>
            if len < minFrameSize ∨ frameBufferSize < len then
              splitLoop frameBuffer rounds (processedBytes + 1)
            -- the rest of the frame is yet to come
            else if buf.length < len then some (processedBytes, [])
            else if beNat (slice buf (len - 2) 2) ≠ frameTail then
              splitLoop frameBuffer rounds (processedBytes + 1)
            else
              (splitLoop frameBuffer rounds (processedBytes + len)).map fun (processed, calls) =>
                (processed, handleFrame (buf.take len) ++ calls)
    else some (processedBytes, [])

/-- What stays in `frame_buffer` after the inner loop. -/
def removeProcessed (frameBuffer : Bytes) (processedBytes : ℕ) : Bytes :=
  if 0 < processedBytes then
    if frameBuffer.length ≤ processedBytes then []
    else
      let remainingBytes := frameBuffer.length - processedBytes
      if frameBufferSize < processedBytes ∨ frameBufferSize < remainingBytes ∨
          frameBufferSize < processedBytes + remainingBytes then []
      else frameBuffer.drop processedBytes
  else frameBuffer

/-- One round of the thread, with `frame_offset` bytes in `frame_buffer`: what a read gives is
appended and the complete frames are handed on. -/
def uartRecv (frameBuffer buffer : Bytes) : Option (Bytes × List Callback) :=
  if buffer = [] then some (frameBuffer, [])
  else
    let frameBuffer := if frameBufferSize < frameBuffer.length + buffer.length then []
      else frameBuffer
    -- no read is that long, but the thread checks
    if frameBufferSize < buffer.length then some (frameBuffer, [])
    else
      let frameBuffer := frameBuffer ++ buffer
      (splitLoop frameBuffer (frameBuffer.length + 1) 0).map fun (processedBytes, calls) =>
        (removeProcessed frameBuffer processedBytes, calls)

/-- `uart_recv_thread` over the reads that give something. -/
def uartRecvThread : Bytes → List Bytes → Option (Bytes × List Callback)
  | frameBuffer, [] => some (frameBuffer, [])
  | frameBuffer, buffer :: reads => do
    let (frameBuffer, now) ← uartRecv frameBuffer buffer
    let (frameBuffer, later) ← uartRecvThread frameBuffer reads
    pure (frameBuffer, now ++ later)

/-! ### The reference scanner -/

/-- The verdict on a candidate of `n` bytes. -/
def frameVerdict (s : Bytes) (n : ℕ) : Verdict :=
  if 2048 < n then .skip
  else if s.length < n then .more
  else if slice s (n - 2) 2 = [0x55, 0x55] then .take n
  else .skip

/-- The sources of telemetry and the payload lengths that go with them. -/
def whiteListed (source length : UInt8) : Bool :=
  source = 0xA1 ∧ length = 127 ∨ (source = 0xB1 ∨ source = 0xB2) ∧ length = 146

/-- The length of the candidate that begins with EB and the bytes `kind`, `c` and `d`: a status
frame (EB 90) has a length in two bytes, a telemetry frame (EB 93) a source and a length in one
byte, which must go together. -/
def candidateLen (kind c d : UInt8) : Option ℕ :=
  if kind = 0x90 then some (6 + (c.toNat * 256 + d.toNat))
  else if whiteListed c d then some (6 + d.toNat)
  else none

/-- What stands at the start of a stream. -/
def judge (s : Bytes) : Verdict :=
  match s with
  | [] => .more
  -- one byte may be half a header
  | [a] => if a = 0xEB then .more else .skip
  | a :: kind :: rest =>
    if a = 0xEB ∧ (kind = 0x90 ∨ kind = 0x93) then
      match rest with
      | c :: d :: _ =>
        match candidateLen kind c d with
        | some n => frameVerdict s n
        | none => .skip
      | _ => .more
    else .skip

lemma candidateLen_ge {kind c d : UInt8} {n : ℕ} (h : candidateLen kind c d = some n) : 6 ≤ n := by
  unfold candidateLen at h
  split_ifs at h <;> cases h <;> omega

lemma frameVerdict_take {s : Bytes} {n k : ℕ} (h : frameVerdict s n = .take k) :
    n = k ∧ n ≤ s.length := by
  unfold frameVerdict at h
  split_ifs at h with hlong hshort htail
  cases h
  exact ⟨rfl, not_lt.1 hshort⟩

/-- A verdict on a candidate stands, whatever follows. -/
lemma frameVerdict_append {s : Bytes} {n : ℕ} (t : Bytes) (hn : 6 ≤ n)
    (h : frameVerdict s n ≠ .more) : frameVerdict (s ++ t) n = frameVerdict s n := by
  unfold frameVerdict at h ⊢
  by_cases hlong : 2048 < n
  · rw [if_pos hlong, if_pos hlong]
  · rw [if_neg hlong] at h ⊢
    have hshort : ¬ s.length < n := fun hlt => h (if_pos hlt)
    have hshort' : ¬ (s ++ t).length < n := by
      rw [List.length_append]
      omega
    rw [if_neg hlong, if_neg hshort, if_neg hshort', slice_append t (by omega)]

lemma judge_take {s : Bytes} {n : ℕ} (h : judge s = .take n) : 6 ≤ n ∧ n ≤ s.length := by
  unfold judge at h
  split at h
  · cases h
  · split_ifs at h
  · split_ifs at h
    split at h
    · split at h
      · rename_i k hlen
        obtain ⟨rfl, hle⟩ := frameVerdict_take h
        exact ⟨candidateLen_ge hlen, hle⟩
      · cases h
    · cases h

/-- A verdict stands, whatever follows. -/
lemma judge_append {s : Bytes} (t : Bytes) (h : judge s ≠ .more) : judge (s ++ t) = judge s := by
  match s with
  | [] => exact absurd rfl h
  | [a] =>
    -- a single byte is judged only when no header starts with it
    have ha : ¬ a = 0xEB := fun heq => h (if_pos heq)
    cases t with
    | nil => rfl
    | cons b t =>
      rw [show judge [a] = .skip from if_neg ha]
      exact if_neg fun heq => ha heq.1
  | a :: kind :: rest =>
    by_cases hhead : a = 0xEB ∧ (kind = 0x90 ∨ kind = 0x93)
    · match rest with
      | c :: d :: rest =>
        cases hlen : candidateLen kind c d with
        | none => simp [judge, hhead, hlen]
        | some n =>
          have hverdict (s : Bytes) : judge (a :: kind :: c :: d :: s) =
              frameVerdict (a :: kind :: c :: d :: s) n := by
            simp [judge, hhead, hlen]
          rw [hverdict] at h ⊢
          simp only [List.cons_append]
          rw [hverdict]
          exact frameVerdict_append t (candidateLen_ge hlen) h
      | [c] => exact absurd (by simp [judge, hhead]) h
      | [] => exact absurd (by simp [judge, hhead]) h
    · have hskip (s : Bytes) : judge (a :: kind :: s) = .skip := if_neg hhead
      rw [List.cons_append, List.cons_append, hskip, hskip]

/-- The frames on the UART. -/
def fpgaFormat : ScanFormat UInt8 where
  judge := judge
  take_le h := by
    obtain ⟨hsix, hle⟩ := judge_take h
    exact ⟨by omega, hle⟩
  skip_append t h := by
    rw [judge_append t (by rw [h]; decide), h]
  take_append t h := by
    rw [judge_append t (by rw [h]; exact Verdict.noConfusion), h]

/-! ### The loop scans -/

/-- Two bytes are known by their number. -/
lemma beNat_pair_inj {a b x y : UInt8} : beNat [a, b] = beNat [x, y] ↔ a = x ∧ b = y := by
  have hvalue (a b : UInt8) : beNat [a, b] = b.toNat + 256 * a.toNat := by
    simp [Rs422.beNat, leNat, Nat.ofDigits]
  have hb := b.toNat_lt
  have hy := y.toNat_lt
  rw [hvalue, hvalue, ← UInt8.toNat_inj, ← UInt8.toNat_inj]
  omega

lemma isHeader_pair (a b : UInt8) :
    isHeader (beNat [a, b]) ↔ a = 0xEB ∧ (b = 0x90 ∨ b = 0x93) := by
  have hstatus : frameHeader = beNat [0xEB, 0x90] := by decide
  have htelemetry : telemetryLogHeader = beNat [0xEB, 0x93] := by decide
  rw [isHeader, decide_eq_true_iff, hstatus, htelemetry, beNat_pair_inj, beNat_pair_inj]
  tauto

/-- Two bytes that can be read at a position. -/
lemma drop_eq_cons_cons {buf : Bytes} {i : ℕ} (h : i + 1 < buf.length) :
    ∃ a b s, buf.drop i = a :: b :: s ∧ slice buf i 2 = [a, b] := by
  match hdrop : buf.drop i with
  | a :: b :: s => exact ⟨a, b, s, rfl, by rw [slice, hdrop]; rfl⟩
  | [a] =>
    have hlen := congrArg List.length hdrop
    rw [List.length_drop, List.length_singleton] at hlen
    omega
  | [] =>
    have hlen := congrArg List.length hdrop
    rw [List.length_drop, List.length_nil] at hlen
    omega

/-- Where the search for a header passes on, the scanner skips. -/
lemma judge_of_not_isHeader {buf : Bytes} {i : ℕ} (hi : i + 1 < buf.length)
    (h : ¬ isHeader (beNat (slice buf i 2))) : judge (buf.drop i) = .skip := by
  obtain ⟨a, b, s, hdrop, hslice⟩ := drop_eq_cons_cons hi
  rw [hslice, isHeader_pair] at h
  rw [hdrop]
  exact if_neg h

lemma findHeader_eq_some {buf : Bytes} {headerPos : ℕ} (h : findHeader buf = some headerPos) :
    headerPos + 1 < buf.length ∧ isHeader (beNat (slice buf headerPos 2)) ∧
      ∀ i < headerPos, judge (buf.drop i) = .skip := by
  obtain ⟨hfound, hmem, hbefore⟩ := List.find?_range_eq_some.1 h
  have hlt := List.mem_range.1 hmem
  refine ⟨by omega, hfound, fun i hi => judge_of_not_isHeader (by omega) ?_⟩
  have hnot := hbefore i hi
  simpa using hnot

lemma findHeader_eq_none {buf : Bytes} (h : findHeader buf = none) :
    ∀ i < buf.length - 1, judge (buf.drop i) = .skip := by
  intro i hi
  have hnot := List.find?_range_eq_none.1 h i hi
  exact judge_of_not_isHeader (by omega) (by simpa using hnot)

/-- Without a header, at most a last byte is left over that may be half of one. -/
lemma scan_of_findHeader_none {buf : Bytes} (hbuf : buf ≠ []) (h : findHeader buf = none) :
    fpgaFormat.scan buf =
      ([], if buf.getLast? = some 0xEB then buf.drop (buf.length - 1) else []) := by
  rw [ScanFormat.scan_drop (Nat.sub_le _ 1) (findHeader_eq_none h)]
  obtain ⟨init, b, rfl⟩ : ∃ init b, buf = init ++ [b] :=
    ⟨buf.dropLast, buf.getLast hbuf, (List.dropLast_append_getLast hbuf).symm⟩
  have hlast : (init ++ [b]).drop ((init ++ [b]).length - 1) = [b] := by
    rw [List.length_append, List.length_singleton, Nat.add_sub_cancel, List.drop_left]
  rw [hlast, List.getLast?_concat]
  by_cases hb : b = 0xEB
  · rw [if_pos (by rw [hb])]
    exact ScanFormat.scan_more (if_pos hb)
  · rw [if_neg fun heq => hb (Option.some.inj heq)]
    have hskip : fpgaFormat.judge [b] = .skip := if_neg hb
    rw [ScanFormat.scan_skip hskip, ScanFormat.scan_nil]

/-- The loop makes the scanner's checks on a candidate. -/
lemma frameVerdict_eq {s : Bytes} {len : ℕ} (hlen : 6 ≤ len) : frameVerdict s len =
    if len < minFrameSize ∨ frameBufferSize < len then .skip
    else if s.length < len then .more
    else if beNat (slice s (len - 2) 2) ≠ frameTail then .skip
    else .take len := by
  have hmin : ¬ len < minFrameSize := not_lt.2 hlen
  unfold frameVerdict
  by_cases hlong : 2048 < len
  · rw [if_pos hlong, if_pos (.inr hlong)]
  · have hkept : ¬ (len < minFrameSize ∨ frameBufferSize < len) := by
      rintro (hlt | hlt)
      · exact hmin hlt
      · exact hlong hlt
    rw [if_neg hlong, if_neg hkept]
    by_cases hshort : s.length < len
    · rw [if_pos hshort, if_pos hshort]
    · obtain ⟨a, b, t, -, hslice⟩ :=
        drop_eq_cons_cons (i := len - 2) (show len - 2 + 1 < s.length by omega)
      have htail : frameTail = beNat [0x55, 0x55] := by decide
      have hsame : beNat [a, b] = beNat [0x55, 0x55] ↔ [a, b] = [0x55, 0x55] := by
        rw [beNat_pair_inj]
        simp
      rw [if_neg hshort, if_neg hshort, hslice, htail, ite_not]
      simp only [hsame]

/-- The white list of the scanner is the table of the code. -/
lemma whiteListed_iff (source length : UInt8) : whiteListed source length ↔
    ¬ (fpgaTelemetryPayloadLen source = 0 ∨ length.toNat ≠ fpgaTelemetryPayloadLen source) := by
  have hv7a : length = 127 ↔ length.toNat = telemetryLogLenV7a := UInt8.toNat_inj.symm
  have hv7b : length = 146 ↔ length.toNat = telemetryLogLenV7b := UInt8.toNat_inj.symm
  have hpos : telemetryLogLenV7a ≠ 0 ∧ telemetryLogLenV7b ≠ 0 := by decide
  rw [whiteListed, decide_eq_true_iff, hv7a, hv7b, fpgaTelemetryPayloadLen]
  split_ifs <;> simp_all

/-- The candidate behind a header is judged as the loop does. -/
lemma judge_of_isHeader {buf : Bytes} (hlen : 4 ≤ buf.length)
    (h : isHeader (beNat (slice buf 0 2))) : judge buf = match expectedFrameLen buf with
      | none => .skip
      | some len =>
        if len < minFrameSize ∨ frameBufferSize < len then .skip
        else if buf.length < len then .more
        else if beNat (slice buf (len - 2) 2) ≠ frameTail then .skip
        else .take len := by
  match buf, hlen with
  | a :: kind :: c :: d :: s, _ =>
    have hslice : slice (a :: kind :: c :: d :: s) 0 2 = [a, kind] := rfl
    rw [hslice, isHeader_pair] at h
    have htelemetry : telemetryLogHeader = beNat [0xEB, 0x93] := by decide
    have hjudge : judge (a :: kind :: c :: d :: s) = match candidateLen kind c d with
        | some n => frameVerdict (a :: kind :: c :: d :: s) n
        | none => .skip := if_pos h
    obtain ⟨rfl, rfl | rfl⟩ := h
    · -- a status frame
      have hexpected : expectedFrameLen (0xEB :: 0x90 :: c :: d :: s) =
          candidateLen 0x90 c d := by
        have hfield : slice (0xEB :: 0x90 :: c :: d :: s) 2 2 = [c, d] := rfl
        have hvalue : beNat [c, d] = d.toNat + 256 * c.toNat := by
          simp [Rs422.beNat, leNat, Nat.ofDigits]
        rw [expectedFrameLen, hslice, if_neg (by decide), hfield, hvalue, candidateLen, if_pos rfl]
        congr 1
        omega
      rw [hjudge, hexpected, candidateLen, if_pos rfl]
      exact frameVerdict_eq (by omega)
    · -- a telemetry frame
      have hexpected : expectedFrameLen (0xEB :: 0x93 :: c :: d :: s) =
          candidateLen 0x93 c d := by
        have hlisted := whiteListed_iff c d
        have hkind : ¬ (0x93 : UInt8) = 0x90 := by decide
        rw [expectedFrameLen, hslice, if_pos htelemetry.symm, candidateLen, if_neg hkind]
        simp only [List.getD_cons_succ, List.getD_cons_zero]
        by_cases hlist : whiteListed c d
        · rw [if_pos hlist, if_neg (hlisted.1 hlist)]
        · rw [if_neg hlist, if_pos (not_not.1 fun hnot => hlist (hlisted.2 hnot))]
      rw [hjudge, hexpected]
      cases hcand : candidateLen 0x93 c d with
      | none => rfl
      | some n => exact frameVerdict_eq (candidateLen_ge hcand)

/-- Of a header without its length field more is needed. -/
lemma judge_short {buf : Bytes} (htwo : 2 ≤ buf.length) (hshort : buf.length < 4)
    (h : isHeader (beNat (slice buf 0 2))) : judge buf = .more := by
  match buf, htwo, hshort with
  | [a, kind], _, _ => exact if_pos ((isHeader_pair a kind).1 h)
  | [a, kind, c], _, _ => exact if_pos ((isHeader_pair a kind).1 h)

/-- The loop has ended with the frames of the stream `s`, which is the end of the buffer, and has
stopped where the scanner does. -/
def LoopScans (frameBuffer : Bytes) (result : Option (ℕ × List Callback)) (s : Bytes) : Prop :=
  ∃ processed ≤ frameBuffer.length,
    result = some (processed, (fpgaFormat.scan s).1.flatMap handleFrame) ∧
    frameBuffer.drop processed = (fpgaFormat.scan s).2

/-- A round of the inner loop: it ends the loop, passes what the scanner skips, or hands a frame
on. -/
inductive LoopStep (frameBuffer : Bytes) (rounds processedBytes : ℕ) : Prop
  | ends {processed : ℕ} : processed ≤ frameBuffer.length →
      splitLoop frameBuffer (rounds + 1) processedBytes = some (processed, []) →
      fpgaFormat.scan (frameBuffer.drop processedBytes) = ([], frameBuffer.drop processed) →
      LoopStep frameBuffer rounds processedBytes
  | passes {k : ℕ} : 0 < k → processedBytes + k ≤ frameBuffer.length →
      (∀ i < k, judge ((frameBuffer.drop processedBytes).drop i) = .skip) →
      splitLoop frameBuffer (rounds + 1) processedBytes =
        splitLoop frameBuffer rounds (processedBytes + k) →
      LoopStep frameBuffer rounds processedBytes
  | hands {k len : ℕ} : processedBytes + k + len ≤ frameBuffer.length →
      (∀ i < k, judge ((frameBuffer.drop processedBytes).drop i) = .skip) →
      judge (frameBuffer.drop (processedBytes + k)) = .take len →
      splitLoop frameBuffer (rounds + 1) processedBytes =
        (splitLoop frameBuffer rounds (processedBytes + k + len)).map (fun (processed, calls) =>
          (processed, handleFrame ((frameBuffer.drop (processedBytes + k)).take len) ++ calls)) →
      LoopStep frameBuffer rounds processedBytes

/-- What a round of the inner loop does. -/
lemma splitLoop_step (frameBuffer : Bytes) (rounds : ℕ) {processedBytes : ℕ}
    (hstart : processedBytes ≤ frameBuffer.length) :
    LoopStep frameBuffer rounds processedBytes := by
  by_cases hmore : processedBytes < frameBuffer.length
  swap
  · refine .ends hstart (by rw [splitLoop, if_neg hmore]) ?_
    rw [List.drop_eq_nil_of_le (not_lt.1 hmore), ScanFormat.scan_nil]
  have hlen : (frameBuffer.drop processedBytes).length =
      frameBuffer.length - processedBytes := List.length_drop
  have hne : frameBuffer.drop processedBytes ≠ [] := List.length_pos_iff.1 (by omega)
  cases hheader : findHeader (frameBuffer.drop processedBytes) with
  | none =>
    have hscan := scan_of_findHeader_none hne hheader
    by_cases hlast : (frameBuffer.drop processedBytes).getLast? = some 0xEB
    · rw [if_pos hlast, List.drop_drop] at hscan
      refine @LoopStep.ends _ _ _ _ (by omega) ?_ hscan
      rw [splitLoop, if_pos hmore]
      simp only [hheader]
      exact if_pos hlast
    · rw [if_neg hlast] at hscan
      refine @LoopStep.ends _ _ _ frameBuffer.length le_rfl ?_ (by rw [List.drop_length, hscan])
      rw [splitLoop, if_pos hmore]
      simp only [hheader]
      exact if_neg hlast
  | some headerPos =>
    -- the scanner, too, gets to the header
    obtain ⟨hpos, hfound, hbefore⟩ := findHeader_eq_some hheader
    have hcand : (frameBuffer.drop processedBytes).drop headerPos =
        frameBuffer.drop (processedBytes + headerPos) := List.drop_drop
    have hheaderAt : isHeader
        (beNat (slice (frameBuffer.drop (processedBytes + headerPos)) 0 2)) := by
      rw [slice, List.drop_zero, ← hcand]
      exact hfound
    have hrest : (frameBuffer.drop (processedBytes + headerPos)).length =
        frameBuffer.length - (processedBytes + headerPos) := List.length_drop
    have hwait (h : judge (frameBuffer.drop (processedBytes + headerPos)) = .more) :
        fpgaFormat.scan (frameBuffer.drop processedBytes) =
          ([], frameBuffer.drop (processedBytes + headerPos)) := by
      have hmore : fpgaFormat.judge (frameBuffer.drop (processedBytes + headerPos)) = .more := h
      rw [ScanFormat.scan_drop (F := fpgaFormat) (by omega) hbefore, hcand,
        ScanFormat.scan_more hmore]
    -- a rejected candidate costs one byte
    have hreject (h : judge (frameBuffer.drop (processedBytes + headerPos)) = .skip) :
        ∀ i < headerPos + 1, judge ((frameBuffer.drop processedBytes).drop i) = .skip := by
      intro i hi
      rcases Nat.lt_succ_iff_lt_or_eq.1 hi with hlt | rfl
      · exact hbefore i hlt
      · rwa [hcand]
    by_cases hfour : (frameBuffer.drop (processedBytes + headerPos)).length < 4
    · refine .ends (by omega) ?_ (hwait (judge_short (by omega) hfour hheaderAt))
      rw [splitLoop, if_pos hmore]
      simp only [hheader, hcand]
      rw [if_pos hfour]
    have hjudge := judge_of_isHeader (not_lt.1 hfour) hheaderAt
    cases hexpected : expectedFrameLen (frameBuffer.drop (processedBytes + headerPos)) with
    | none =>
      rw [hexpected] at hjudge
      refine .passes (Nat.succ_pos headerPos) (by omega) (hreject hjudge) ?_
      rw [splitLoop, if_pos hmore]
      simp only [hheader, hcand]
      rw [if_neg hfour, hexpected]
      rfl
    | some len =>
      rw [hexpected] at hjudge
      have hround : splitLoop frameBuffer (rounds + 1) processedBytes =
          if len < minFrameSize ∨ frameBufferSize < len then
            splitLoop frameBuffer rounds (processedBytes + headerPos + 1)
          else if (frameBuffer.drop (processedBytes + headerPos)).length < len then
            some (processedBytes + headerPos, [])
          else if beNat (slice (frameBuffer.drop (processedBytes + headerPos)) (len - 2) 2) ≠
              frameTail then
            splitLoop frameBuffer rounds (processedBytes + headerPos + 1)
          else
            (splitLoop frameBuffer rounds (processedBytes + headerPos + len)).map
              fun (processed, calls) =>
                (processed, handleFrame
                  ((frameBuffer.drop (processedBytes + headerPos)).take len) ++ calls) := by
        rw [splitLoop, if_pos hmore]
        simp only [hheader, hcand]
        rw [if_neg hfour, hexpected]
      dsimp only at hjudge
      split_ifs at hjudge hround with hbad hshort htail
      · exact .passes (Nat.succ_pos headerPos) (by omega) (hreject hjudge) hround
      · exact .ends (by omega) hround (hwait hjudge)
      · exact .passes (Nat.succ_pos headerPos) (by omega) (hreject hjudge) hround
      · exact .hands (by omega) hbefore hjudge hround

/-- The inner loop comes to an end and scans what is in the buffer. -/
lemma splitLoop_scans {frameBuffer : Bytes} {rounds processedBytes : ℕ}
    (hstart : processedBytes ≤ frameBuffer.length)
    (hrounds : frameBuffer.length < processedBytes + rounds) :
    LoopScans frameBuffer (splitLoop frameBuffer rounds processedBytes)
      (frameBuffer.drop processedBytes) := by
  -- every round passes at least one byte, so that the rounds outlast the buffer
  induction rounds generalizing processedBytes with
  | zero => omega
  | succ rounds ih =>
    have hlen : (frameBuffer.drop processedBytes).length =
        frameBuffer.length - processedBytes := List.length_drop
    unfold LoopScans
    cases splitLoop_step frameBuffer rounds hstart with
    | @ends processed hle hloop hscan =>
      rw [hloop, hscan]
      exact ⟨processed, hle, rfl, rfl⟩
    | @passes k hpos hle hskip hloop =>
      have hscan := ScanFormat.scan_drop (F := fpgaFormat) (by omega) hskip
      rw [hloop, hscan, List.drop_drop]
      exact ih hle (by omega)
    | @hands k len hle hskip hjudge hloop =>
      have hsix := (judge_take hjudge).1
      have hscan := ScanFormat.scan_drop (F := fpgaFormat) (by omega) hskip
      have htake := ScanFormat.scan_take (F := fpgaFormat) hjudge
      obtain ⟨processed, hend, hrest, hleft⟩ := ih (by omega) (by omega)
      rw [hloop, hscan, List.drop_drop, htake, List.drop_drop, hrest]
      exact ⟨processed, hend, rfl, hleft⟩

/-! ### The thread scans -/

/-- The status in a status frame: header, length and tail are known, the data are swapped. -/
def statusOf (frame : Bytes) : FpgaStatusFrame :=
  ⟨0xEB90, 127, statusNumbers.foldl swapNumber (slice frame 4 127), 0x5555⟩

/-- The callback that a frame is meant for. -/
def callbackOf (frame : Bytes) : Callback :=
  if frame.take 2 = [0xEB, 0x93] then .onTelemetryLogFrame frame
  else if frame.length = 133 then .onStatusReceived (statusOf frame)
  else .onDataReceived frame

/-- A frame that the scanner has taken. -/
lemma judge_frame {f t : Bytes} (h : judge (f ++ t) = .take f.length) :
    ∃ kind c d rest, f = 0xEB :: kind :: c :: d :: rest ∧ (kind = 0x90 ∨ kind = 0x93) ∧
      candidateLen kind c d = some f.length ∧ slice f (f.length - 2) 2 = [0x55, 0x55] := by
  have hsix := (judge_take h).1
  match f, hsix with
  | a :: kind :: c :: d :: rest, _ =>
    by_cases hhead : a = 0xEB ∧ (kind = 0x90 ∨ kind = 0x93)
    · cases hcand : candidateLen kind c d with
      | none => simp [judge, hhead, hcand] at h
      | some n =>
        have hverdict : frameVerdict (a :: kind :: c :: d :: rest ++ t) n =
            .take (a :: kind :: c :: d :: rest).length := by
          rw [← h]
          simp [judge, hhead, hcand]
        obtain ⟨rfl, hle⟩ := frameVerdict_take hverdict
        refine ⟨kind, c, d, rest, by rw [hhead.1], hhead.2, hcand, ?_⟩
        unfold frameVerdict at hverdict
        split_ifs at hverdict with hlong hshort htail
        rwa [slice_append t (by omega)] at htail
    · have hskip : judge (a :: kind :: c :: d :: rest ++ t) = .skip := if_neg hhead
      rw [hskip] at h
      cases h

/-- A frame that the scanner has taken is handed to the callback that it is meant for. -/
lemma handleFrame_eq {f t : Bytes} (h : judge (f ++ t) = .take f.length) :
    handleFrame f = [callbackOf f] := by
  obtain ⟨kind, c, d, rest, hf, hkind, hcand, htail⟩ := judge_frame h
  have hheader : slice f 0 2 = [0xEB, kind] := by rw [hf]; rfl
  have htake : f.take 2 = [0xEB, kind] := by rw [hf]; rfl
  have hfield : slice f 2 2 = [c, d] := by rw [hf]; rfl
  have hvalue : beNat [c, d] = d.toNat + 256 * c.toNat := by
    simp [Rs422.beNat, leNat, Nat.ofDigits]
  unfold handleFrame callbackOf
  rw [hheader, htake]
  obtain rfl | rfl := hkind
  · -- the length field of a status frame is the length of its data
    have hlength : f.length = 6 + (c.toNat * 256 + d.toNat) := by
      rw [candidateLen, if_pos rfl] at hcand
      exact (Option.some.inj hcand).symm
    have hne : ¬ ([0xEB, 0x90] : Bytes) = [0xEB, 0x93] := by decide
    have hne' : ¬ beNat [0xEB, 0x90] = telemetryLogHeader := by decide
    rw [if_neg hne, if_neg hne', hfield, hvalue]
    by_cases hstatus : f.length = 133
    · have hdecode : fpgaDecodeStatusFrame f = some (statusOf f) := by
        rw [hstatus] at htail
        have hok : ¬ (beNat [0xEB, 0x90] ≠ frameHeader ∨ beNat [0x55, 0x55] ≠ frameTail) := by
          decide
        have hlen : d.toNat + 256 * c.toNat = 127 := by omega
        have hsize : ¬ f.length ≠ statusFrameSize := not_not.2 hstatus
        rw [fpgaDecodeStatusFrame, if_neg hsize, hheader, htail]
        dsimp only
        rw [if_neg hok, hfield, hvalue, hlen]
        rfl
      rw [if_pos ⟨hstatus, by omega⟩, if_pos hstatus, hdecode]
    · rw [if_neg fun hboth => hstatus hboth.1, if_neg hstatus]
  · have heq : beNat [0xEB, 0x93] = telemetryLogHeader := by decide
    rw [if_pos heq, if_pos rfl]

/-- What is handed on of a stream. -/
lemma flatMap_handleFrame (s : Bytes) :
    (fpgaFormat.scan s).1.flatMap handleFrame = (fpgaFormat.scan s).1.map callbackOf := by
  rw [← List.flatMap_singleton' ((fpgaFormat.scan s).1.map callbackOf), List.flatMap_map]
  refine List.flatMap_congr fun f hf => ?_
  obtain ⟨t, ht⟩ := ScanFormat.judge_of_mem_scan hf
  exact handleFrame_eq ht

lemma removeProcessed_eq {frameBuffer : Bytes} {processed : ℕ}
    (hsize : frameBuffer.length ≤ frameBufferSize) :
    removeProcessed frameBuffer processed = frameBuffer.drop processed := by
  unfold removeProcessed
  dsimp only
  split_ifs with hpos hall hbad
  · exact (List.drop_eq_nil_of_le hall).symm
  · omega
  · rfl
  · rw [Nat.eq_zero_of_not_pos hpos, List.drop_zero]

/-- A read that does not overflow the buffer is scanned behind what the buffer holds. -/
lemma uartRecv_eq {frameBuffer buffer : Bytes} (hne : buffer ≠ [])
    (hfits : frameBuffer.length + buffer.length ≤ frameBufferSize) :
    uartRecv frameBuffer buffer = some ((fpgaFormat.scan (frameBuffer ++ buffer)).2,
      (fpgaFormat.scan (frameBuffer ++ buffer)).1.map callbackOf) := by
  have hsize : (frameBuffer ++ buffer).length ≤ frameBufferSize := by
    rwa [List.length_append]
  have hscans : LoopScans (frameBuffer ++ buffer)
      (splitLoop (frameBuffer ++ buffer) ((frameBuffer ++ buffer).length + 1) 0)
      ((frameBuffer ++ buffer).drop 0) := splitLoop_scans (Nat.zero_le _) (by omega)
  obtain ⟨processed, -, hloop, hleft⟩ := hscans
  rw [List.drop_zero] at hloop hleft
  rw [uartRecv, if_neg hne, if_neg (not_lt.2 hfits),
    if_neg (not_lt.2 ((Nat.le_add_left _ _).trans hfits))]
  dsimp only
  rw [hloop, Option.map_some, removeProcessed_eq hsize, hleft, flatMap_handleFrame]

/-- The overflow reset does not fire: every read fits behind what the thread holds when it comes
in. -/
def NoReset : Bytes → List Bytes → Prop
  | _, [] => True
  | frameBuffer, buffer :: reads => frameBuffer.length + buffer.length ≤ frameBufferSize ∧
      ∀ next ∈ uartRecv frameBuffer buffer, NoReset next.1 reads

/-- The thread scans its reads as they come in. -/
lemma uartRecvThread_eq {frameBuffer : Bytes} {reads : List Bytes} (hreads : [] ∉ reads)
    (hreset : NoReset frameBuffer reads) :
    uartRecvThread frameBuffer reads = some ((fpgaFormat.scanChunks frameBuffer reads).2,
      (fpgaFormat.scanChunks frameBuffer reads).1.map callbackOf) := by
  induction reads generalizing frameBuffer with
  | nil => rfl
  | cons buffer reads ih =>
    obtain ⟨hfits, hlater⟩ := hreset
    have hne : buffer ≠ [] := fun hnil => hreads (hnil ▸ List.mem_cons_self)
    have hrecv := uartRecv_eq hne hfits
    have hrest := ih (fun hmem => hreads (List.mem_cons_of_mem _ hmem)) (hlater _ hrecv)
    simp only [uartRecvThread, hrecv, hrest, ScanFormat.scanChunks, List.map_append,
      Option.bind_eq_bind, Option.bind_some, Option.pure_def]

/-- However a stream is cut into reads that do not overflow the buffer, the thread hands over the
frames that the greedy scanner finds in the whole stream, each to its callback and in their
order, and holds at the end what the scanner leaves over: the end of the stream from a candidate
on that is not decided. -/
theorem uartRecvThread_scans {reads : List Bytes}
    (hreads : ∀ buffer ∈ reads, 1 ≤ buffer.length ∧ buffer.length ≤ 1024)
    (hreset : NoReset [] reads) :
    uartRecvThread [] reads = some ((fpgaFormat.scan reads.flatten).2,
        (fpgaFormat.scan reads.flatten).1.map callbackOf) ∧
      (fpgaFormat.scan reads.flatten).2 <:+ reads.flatten ∧
      ((fpgaFormat.scan reads.flatten).2 = [] ∨
        judge (fpgaFormat.scan reads.flatten).2 = .more) := by
  have hempty : [] ∉ reads := fun hmem => absurd (hreads [] hmem).1 (by decide)
  refine ⟨?_, ScanFormat.scan_suffix _, ScanFormat.scan_leftover _⟩
  rw [uartRecvThread_eq hempty hreset, ScanFormat.scanChunks_eq (ScanFormat.scan_nil _),
    List.nil_append]

theorem uartRecvThread_scans_two :
    uartRecvThread [] [[0x11, 0xEB], [0x90, 0, 0, 0x55, 0x55]] =
      some ([], [.onDataReceived [0xEB, 0x90, 0, 0, 0x55, 0x55]]) := by
  have hfirst : uartRecv [] [0x11, 0xEB] = some ([0xEB], []) := by decide
  have hreset : NoReset [] [[0x11, 0xEB], [0x90, 0, 0, 0x55, 0x55]] := by
    refine ⟨by decide, fun next hnext => ?_⟩
    rw [hfirst] at hnext
    cases hnext
    exact ⟨by decide, fun _ _ => trivial⟩
  have hscan : fpgaFormat.scan [0x11, 0xEB, 0x90, 0, 0, 0x55, 0x55] =
      ([[0xEB, 0x90, 0, 0, 0x55, 0x55]], []) := by
    rw [ScanFormat.scan_skip (by decide), ScanFormat.scan_take (n := 6) (by decide)]
    rw [List.drop_of_length_le (by decide), ScanFormat.scan_nil]
    rfl
  have hthread := (uartRecvThread_scans (by decide) hreset).1
  have hflatten : [[0x11, 0xEB], [0x90, 0, 0, 0x55, 0x55]].flatten =
      ([0x11, 0xEB, 0x90, 0, 0, 0x55, 0x55] : Bytes) := rfl
  rw [hthread, hflatten, hscan]
  decide

end AntennaMgmt.Fpga
