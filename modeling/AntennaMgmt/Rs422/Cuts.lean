import AntennaMgmt.Lib.StopGo
import AntennaMgmt.Rs422.Receive

/-!
# The packet finder and the cuts of a stream

Each call of `pkfinderParse` takes the acknowledgements that are complete, and leaves in the ring
what may become one.  It does not go on behind a head whose packet would never fit: it takes the
head away and returns, so that what stands behind it waits for the next call.  Which packets have
been accepted then depends on how the stream was cut.
-/

namespace AntennaMgmt.Rs422

open AntennaMgmt.Lib

/-! ### The format of the stream -/

/-- The length of the acknowledgement at the start of `s`, from its length field. -/
def ackLen (s : Bytes) : ℕ := beNat (slice s 6 2) + 11

/-- Whether `rs422_frame_check_and_process` accepts a packet. -/
def ackPasses (pkBuf : Bytes) : Bool := (rs422FrameCheckAndProcess ⟨[], false⟩ pkBuf).2

/-- What stands at the start of a stream.  The head of a packet that is longer than the ring is
taken by itself. -/
def ackJudge (s : Bytes) : Verdict :=
  if s.take 2 ≠ ackFinder.headBuf then
    if s = [] ∨ s = [0x1A] then .more else .skip
  else if s.length < 8 then .more
  else if rbufSize < ackLen s then .take 2
  else if s.length < ackLen s then .more
  else if ackPasses (s.take (ackLen s)) then .take (ackLen s)
  else .skip

lemma ackLen_append {s : Bytes} (h : 8 ≤ s.length) (t : Bytes) : ackLen (s ++ t) = ackLen s := by
  rw [ackLen, ackLen, slice_append t h]

lemma ackJudge_of_not_head {s : Bytes} (h : s.take 2 ≠ ackFinder.headBuf) (hnil : s ≠ [])
    (hfirst : s ≠ [0x1A]) : ackJudge s = .skip := by
  rw [ackJudge, if_pos h, if_neg (not_or.2 ⟨hnil, hfirst⟩)]

/-- A stream that does not start with a part of the head does not start with the head later. -/
lemma not_head_append {s : Bytes} (h : s.take 2 ≠ ackFinder.headBuf) (hnil : s ≠ [])
    (hfirst : s ≠ [0x1A]) (t : Bytes) : (s ++ t).take 2 ≠ ackFinder.headBuf := by
  match s, hnil with
  | [a], _ =>
    intro hhead
    exact hfirst (by rw [(List.cons.inj hhead).1])
  | a :: b :: s, _ => exact h

lemma head_append {s : Bytes} (h : s.take 2 = ackFinder.headBuf) (t : Bytes) :
    (s ++ t).take 2 = ackFinder.headBuf := by
  have hlen := congrArg List.length h
  rw [List.length_take] at hlen
  have htwo : ackFinder.headBuf.length = 2 := rfl
  rw [List.take_append_of_le_length (by omega), h]

/-- The acknowledgements in a stream, and the heads of those that are too long. -/
def ackFormat : ScanFormat UInt8 where
  judge := ackJudge
  take_le := by
    intro s n h
    unfold ackJudge at h
    split_ifs at h <;> cases h
    · omega
    · exact ⟨Nat.succ_pos _, by omega⟩
  skip_append := by
    intro s t h
    by_cases hhead : s.take 2 = ackFinder.headBuf
    · have hmore := head_append hhead t
      unfold ackJudge at h ⊢
      rw [if_neg (not_not.2 hhead)] at h
      rw [if_neg (not_not.2 hmore)]
      split_ifs at h with h8 hlong hshort hpass
      have hlen : ackLen (s ++ t) = ackLen s := ackLen_append (not_lt.1 h8) t
      rw [hlen, List.length_append, if_neg (by omega), if_neg hlong, if_neg (by omega),
        List.take_append_of_le_length (not_lt.1 hshort), if_neg hpass]
    · have hpart : ¬ (s = [] ∨ s = [0x1A]) := by
        intro hpart
        rw [ackJudge, if_pos hhead, if_pos hpart] at h
        cases h
      obtain ⟨hnil, hfirst⟩ := not_or.1 hpart
      refine ackJudge_of_not_head (not_head_append hhead hnil hfirst t) (by simp [hnil]) ?_
      intro hone
      rcases List.append_eq_singleton_iff.1 hone with ⟨rfl, -⟩ | ⟨rfl, -⟩
      · exact hnil rfl
      · exact hfirst rfl
  take_append := by
    intro s n t h
    unfold ackJudge at h
    split_ifs at h with hhead hpart h8 hlong hshort hpass
    · have hmore := head_append (not_not.1 hhead) t
      have hlen : ackLen (s ++ t) = ackLen s := ackLen_append (not_lt.1 h8) t
      rw [ackJudge, if_neg (not_not.2 hmore), if_neg (by rw [List.length_append]; omega), hlen,
        if_pos hlong, h]
    · have hmore := head_append (not_not.1 hhead) t
      have hlen : ackLen (s ++ t) = ackLen s := ackLen_append (not_lt.1 h8) t
      rw [ackJudge, if_neg (not_not.2 hmore), if_neg (by rw [List.length_append]; omega), hlen,
        if_neg hlong, if_neg (by rw [List.length_append]; omega),
        List.take_append_of_le_length (not_lt.1 hshort), if_pos hpass, h]

/-- A head alone is what is taken of a packet that is too long. -/
def isBareHead (f : Bytes) : Bool := f.length = ackFinder.headLen

/-! ### What the finder finds -/

lemma headAt_iff (s : Bytes) (i : ℕ) :
    ackFinder.headAt s i ↔ (s.drop i).take 2 = ackFinder.headBuf := by
  have hget (j : ℕ) : s.getD (i + j) 0 = (s.drop i).getD j 0 := by
    rw [List.getD_eq_getElem?_getD, List.getD_eq_getElem?_getD, List.getElem?_drop]
  have hmask (x : UInt8) : x &&& 0xFF = x := UInt8.and_neg_one
  simp only [PkFinder.headAt, hget]
  rcases s.drop i with _ | ⟨a, _ | ⟨b, u⟩⟩
  · decide
  · simp [ackFinder, List.range_succ, hmask]
  · simp [ackFinder, List.range_succ, hmask]

/-- What the finder says of a head depends on what stands from there on. -/
lemma measure_drop {u : Bytes} {pkPos : ℕ} (h : pkPos ≤ u.length) (fndLen : ℕ) :
    ackFinder.measure u pkPos fndLen =
      if (u.drop pkPos).length < 8 then .short pkPos fndLen
      else if (u.drop pkPos).length < ackLen (u.drop pkPos) then
        .short pkPos (ackLen (u.drop pkPos))
      else .whole pkPos (ackLen (u.drop pkPos)) := by
  have hslice : slice u (pkPos + ackFinder.pkLenPos) ackFinder.pkLenLen =
      slice (u.drop pkPos) (0 + ackFinder.pkLenPos) ackFinder.pkLenLen := by
    rw [slice, slice, List.drop_drop, Nat.zero_add]
  have hfield : ackFinder.lenField u pkPos + ackFinder.pkLenAdd = ackLen (u.drop pkPos) := by
    rw [ackLen, ← ackFinder_lenField (u.drop pkPos), PkFinder.lenField, PkFinder.lenField, hslice]
    rfl
  have hadd : u.length < pkPos + ackFinder.lenField u pkPos + ackFinder.pkLenAdd ↔
      (u.drop pkPos).length < ackLen (u.drop pkPos) := by
    rw [← hfield, List.length_drop]
    omega
  have hshort : u.length < pkPos + ackFinder.pkLenPos + ackFinder.pkLenLen ↔
      (u.drop pkPos).length < 8 := by
    rw [List.length_drop]
    simp only [ackFinder]
    omega
  simp only [PkFinder.measure, hadd, hshort, hfield]
  rfl

/-- What the finder has found among the bytes `u`. -/
inductive Found (u : Bytes) : FindResult → Prop
  | noHead : (∀ i, i + 2 ≤ u.length → ackJudge (u.drop i) = .skip) → Found u .noHead
  | incomplete {pkPos n : ℕ} : pkPos ≤ u.length → (∀ i < pkPos, ackJudge (u.drop i) = .skip) →
      n ≤ rbufSize → ackJudge (u.drop pkPos) = .more → Found u (.short pkPos n)
  | tooLong {pkPos n : ℕ} : pkPos + 2 ≤ u.length → (∀ i < pkPos, ackJudge (u.drop i) = .skip) →
      rbufSize < n → ackJudge (u.drop pkPos) = .take 2 → Found u (.short pkPos n)
  | accepted {pkPos n : ℕ} : 11 ≤ n → pkPos + n ≤ u.length →
      (∀ i < pkPos, ackJudge (u.drop i) = .skip) → ackPasses (slice u pkPos n) = true →
      ackJudge (u.drop pkPos) = .take n → Found u (.whole pkPos n)
  | refused {pkPos n : ℕ} : 11 ≤ n → pkPos + n ≤ u.length → ackPasses (slice u pkPos n) = false →
      (∀ i < pkPos + 2, ackJudge (u.drop i) = .skip) → Found u (.whole pkPos n)

/-- What the finder finds, with `fndLen` from a packet of the same bytes. -/
lemma found_pkfinderFind {u : Bytes} (htwo : 2 ≤ u.length) (hmax : u.length ≤ rbufSize)
    {fndLen : ℕ} (hfnd : fndLen ≤ rbufSize) : Found u (pkfinderFind ackFinder u fndLen) := by
  have hskip (i : ℕ) (hi : i + 2 ≤ u.length) (h : ¬ ackFinder.headAt u i) :
      ackJudge (u.drop i) = .skip := by
    have hlen : (u.drop i).length = u.length - i := List.length_drop
    refine ackJudge_of_not_head (fun hhead => h ((headAt_iff u i).2 hhead)) ?_ ?_
    · intro hnil
      rw [hnil, List.length_nil] at hlen
      omega
    · intro hone
      rw [hone, List.length_singleton] at hlen
      omega
  have hhead2 : ackFinder.headLen = 2 := rfl
  unfold pkfinderFind
  split
  · rename_i hnone
    rw [List.find?_range_eq_none] at hnone
    refine .noHead fun i hi => hskip i hi ?_
    have := hnone i (by omega)
    simpa using this
  · rename_i pkPos hsome
    obtain ⟨hat, hmem, hbefore⟩ := List.find?_range_eq_some.1 hsome
    have hpos : pkPos + 2 ≤ u.length := by
      have := List.mem_range.1 hmem
      omega
    have hfirst : ∀ i < pkPos, ackJudge (u.drop i) = .skip := fun i hi =>
      hskip i (by omega) (by simpa using hbefore i hi)
    have hhead := (headAt_iff u pkPos).1 hat
    have hlen : (u.drop pkPos).length = u.length - pkPos := List.length_drop
    have hjudge : ackJudge (u.drop pkPos) =
        if (u.drop pkPos).length < 8 then .more
        else if rbufSize < ackLen (u.drop pkPos) then .take 2
        else if (u.drop pkPos).length < ackLen (u.drop pkPos) then .more
        else if ackPasses ((u.drop pkPos).take (ackLen (u.drop pkPos))) then
          .take (ackLen (u.drop pkPos))
        else .skip := by
      rw [ackJudge, if_neg (not_not.2 hhead)]
    rw [measure_drop (by omega)]
    split_ifs with h8 hshort
    · exact .incomplete (by omega) hfirst hfnd (by rw [hjudge, if_pos h8])
    · by_cases hlong : rbufSize < ackLen (u.drop pkPos)
      · exact .tooLong hpos hfirst hlong (by rw [hjudge, if_neg h8, if_pos hlong])
      · exact .incomplete (by omega) hfirst (not_lt.1 hlong)
          (by rw [hjudge, if_neg h8, if_neg hlong, if_pos hshort])
    · have hlong : ¬ rbufSize < ackLen (u.drop pkPos) := by omega
      have heleven : 11 ≤ ackLen (u.drop pkPos) := Nat.le_add_left 11 _
      by_cases hpass : ackPasses ((u.drop pkPos).take (ackLen (u.drop pkPos))) = true
      · exact .accepted heleven (by omega) hfirst hpass
          (by rw [hjudge, if_neg h8, if_neg hlong, if_neg hshort, if_pos hpass])
      · refine .refused heleven (by omega) (Bool.eq_false_iff.2 hpass) fun i hi => ?_
        rcases Nat.lt_trichotomy i pkPos with hlt | rfl | hgt
        · exact hfirst i hlt
        · rw [hjudge, if_neg h8, if_neg hlong, if_neg hshort, if_neg hpass]
        · -- the second byte of a head is not the first byte of one
          obtain rfl : i = pkPos + 1 := by omega
          refine hskip _ (by omega) fun hnext => ?_
          have hsecond := (headAt_iff u _).1 hnext
          rw [← List.drop_drop] at hsecond
          match u.drop pkPos, hhead, hsecond with
          | a :: b :: w, hhead, hsecond =>
            have hb : b = 0xCF := (List.cons.inj (List.cons.inj hhead).2).1
            have hb' : b = 0x1A := (List.cons.inj hsecond).1
            rw [hb] at hb'
            cases hb'

/-! ### The calls -/

/-- `rs422_frame_check_and_process`, with a record of the packets that it has accepted. -/
def recordingCheck (s : Received × List Bytes) (pkBuf : Bytes) :
    (Received × List Bytes) × Bool :=
  let (ctx, f) := rs422FrameCheckAndProcess s.1 pkBuf
  ((ctx, if f then s.2 ++ [pkBuf] else s.2), f)

/-- A chunk is put into the ring and the ring is parsed.  There is no result when the ring does
not take the whole chunk. -/
def parseChunk (c : RBuf × Received × List Bytes) (bs : Bytes) :
    Option (RBuf × Received × List Bytes) :=
  let (rbuf, putLen) := rBufPut c.1 bs
  if putLen = bs.length then
    (pkfinderParse ackFinder recordingCheck rbufSize rbuf c.2).map Prod.snd
  else none

/-- The packets that have been accepted when the chunks `cs` have come in, one call after each,
unless the ring has overflowed. -/
def acceptedBy (cs : List Bytes) : Option (List Bytes) :=
  (cs.foldlM parseChunk (emptyContext.rbuf, ⟨[], false⟩, [])).map fun c => c.2.2

/-- It is the ring alone that ends the chunks early. -/
lemma parseChunk_isSome_iff (c : RBuf × Received × List Bytes) (bs : Bytes) :
    (parseChunk c bs).isSome ↔ (rBufPut c.1 bs).2 = bs.length := by
  have hparse : (pkfinderParse ackFinder recordingCheck rbufSize (rBufPut c.1 bs).1 c.2).isSome :=
    pkfinderParse_isSome (by decide) rfl (by decide) _ _
  simp only [parseChunk]
  split_ifs with hfit
  · simp [hparse, hfit]
  · simp [hfit]

lemma recordingCheck_snd (s : Received × List Bytes) (pkBuf : Bytes) :
    (recordingCheck s pkBuf).2 = ackPasses pkBuf := by
  simp only [recordingCheck, ackPasses, rs422FrameCheckAndProcess]
  split_ifs <;> rfl

lemma recordingCheck_log (s : Received × List Bytes) (pkBuf : Bytes) :
    (recordingCheck s pkBuf).1.2 = if ackPasses pkBuf then s.2 ++ [pkBuf] else s.2 := by
  rw [← recordingCheck_snd s]
  rfl

/-- The packets among what a scanner takes. -/
def packets (fs : List Bytes) : List Bytes := fs.filter fun f => !isBareHead f

/-- What is left of `u` is as good as `left`, whatever comes behind. -/
def LeftAs (u left : Bytes) : Prop :=
  ∀ t, ackFormat.scanStop isBareHead (u ++ t) = ackFormat.scanStop isBareHead (left ++ t)

/-- Bytes without a frame so far may be kept from any place on that is not skipped. -/
lemma leftAs_of_no_frame {u : Bytes} (h : (ackFormat.scanStop isBareHead u).1 = []) :
    LeftAs u (ackFormat.scanStop isBareHead u).2 := fun t => ScanFormat.scanStop_append h t

lemma scanStop_ack_drop {u : Bytes} {k : ℕ} (hk : k ≤ u.length)
    (h : ∀ i < k, ackJudge (u.drop i) = .skip) :
    ackFormat.scanStop isBareHead u = ackFormat.scanStop isBareHead (u.drop k) :=
  ScanFormat.scanStop_drop hk h

/-- A single byte is no frame. -/
lemma scanStop_short {u : Bytes} (h : u.length < 2) :
    (ackFormat.scanStop isBareHead u).1 = [] := by
  match u, h with
  | [], _ => rw [ScanFormat.scanStop_nil]
  | [a], _ =>
    have hhead : [a].take 2 ≠ ackFinder.headBuf := by simp [ackFinder]
    by_cases ha : [a] = [0x1A]
    · have hmore : ackFormat.judge [a] = .more := by
        show ackJudge [a] = .more
        rw [ackJudge, if_pos hhead, if_pos (.inr ha)]
      rw [ScanFormat.scanStop_more hmore]
    · have hskip : ackFormat.judge [a] = .skip :=
        ackJudge_of_not_head hhead (List.cons_ne_nil _ _) ha
      rw [ScanFormat.scanStop_skip hskip, ScanFormat.scanStop_nil]

/-- The loop has ended with the packets of the bytes `u` behind those of `log`, and keeps what the
scanner has not looked at. -/
structure LoopTakes (buf u : Bytes) (log : List Bytes) (e : ParseEnd (Received × List Bytes)) :
    Prop where
  log_eq : e.state.2 = log ++ packets (ackFormat.scanStop isBareHead u).1
  left : ∃ n, e.fndIndex = some n ∧ LeftAs (buf.drop n) (ackFormat.scanStop isBareHead u).2

section Loop

variable {buf u : Bytes} {log : List Bytes} {e : ParseEnd (Received × List Bytes)}

/-- What is skipped changes nothing. -/
lemma LoopTakes.of_drop {k : ℕ} (hk : k ≤ u.length) (hskip : ∀ i < k, ackJudge (u.drop i) = .skip)
    (h : LoopTakes buf (u.drop k) log e) : LoopTakes buf u log e := by
  have hscan := scanStop_ack_drop hk hskip
  constructor
  · rw [hscan]
    exact h.log_eq
  · rw [hscan]
    exact h.left

/-- Bytes without a frame so far are kept. -/
lemma LoopTakes.rest {n : ℕ} (h : (ackFormat.scanStop isBareHead (buf.drop n)).1 = [])
    (pkFres : Status) (s : Received × List Bytes) :
    LoopTakes buf (buf.drop n) s.2 ⟨some n, pkFres, s⟩ where
  log_eq := by
    rw [h]
    exact (List.append_nil _).symm
  left := ⟨n, rfl, leftAs_of_no_frame h⟩

/-- The head of a packet that is too long is taken away, and nothing else is looked at. -/
lemma LoopTakes.tooLong {n : ℕ} (hjudge : ackJudge (buf.drop n) = .take 2) (pkFres : Status)
    (s : Received × List Bytes) : LoopTakes buf (buf.drop n) s.2 ⟨some (n + 2), pkFres, s⟩ := by
  have hverdict : ackFormat.judge (buf.drop n) = .take 2 := hjudge
  have hbare : isBareHead ((buf.drop n).take 2) = true :=
    decide_eq_true (List.length_take_of_le (ackFormat.take_le hverdict).2)
  have hscan : ackFormat.scanStop isBareHead (buf.drop n) = _ :=
    ScanFormat.scanStop_take hverdict
  rw [if_pos hbare, List.drop_drop] at hscan
  have hnone : packets [(buf.drop n).take 2] = [] := by
    rw [packets, List.filter_cons_of_neg (by simpa using hbare), List.filter_nil]
  constructor
  · rw [hscan, hnone, List.append_nil]
  · rw [hscan]
    exact ⟨n + 2, rfl, fun t => rfl⟩

/-- A packet that passes the check is accepted. -/
lemma LoopTakes.accepted {n len : ℕ} (hlong : 11 ≤ len)
    (hjudge : ackJudge (buf.drop n) = .take len)
    (h : LoopTakes buf (buf.drop (n + len)) (log ++ [slice buf n len]) e) :
    LoopTakes buf (buf.drop n) log e := by
  have hverdict : ackFormat.judge (buf.drop n) = .take len := hjudge
  have hlen : ((buf.drop n).take len).length = len :=
    List.length_take_of_le (ackFormat.take_le hverdict).2
  have hframe : ¬ isBareHead ((buf.drop n).take len) = true := by
    have htwo : ackFinder.headLen = 2 := rfl
    rw [isBareHead, hlen, decide_eq_true_eq]
    omega
  have hscan : ackFormat.scanStop isBareHead (buf.drop n) = _ :=
    ScanFormat.scanStop_take hverdict
  rw [if_neg hframe, List.drop_drop] at hscan
  constructor
  · rw [h.log_eq, hscan, packets, packets, List.filter_cons_of_pos (by simpa using hframe),
      List.append_assoc]
    rfl
  · rw [hscan]
    exact h.left

/-- The loop of `pkfinderParse` takes the frames up to the first head that is too long, and leaves
what it has not looked at. -/
lemma pkfinderLoop_takes (hmax : buf.length ≤ rbufSize) {rounds fndIndex pkLen : ℕ}
    (hindex : fndIndex ≤ buf.length) (hpkLen : pkLen ≤ rbufSize) {pkFres : Status}
    {s : Received × List Bytes}
    (h : pkfinderLoop ackFinder recordingCheck rbufSize buf rounds fndIndex pkLen pkFres s =
      some e) : LoopTakes buf (buf.drop fndIndex) s.2 e := by
  induction rounds generalizing fndIndex pkLen pkFres s with
  | zero => cases h
  | succ rounds ih =>
    have hdrop : (buf.drop fndIndex).length = buf.length - fndIndex := List.length_drop
    have htwo : ackFinder.headLen = 2 := rfl
    rw [pkfinderLoop] at h
    split_ifs at h with hmore
    swap
    · obtain rfl := Option.some.inj h
      exact .rest (scanStop_short (by omega)) pkFres s
    have hfound := found_pkfinderFind (u := buf.drop fndIndex) (by omega) (by omega) hpkLen
    generalize pkfinderFind ackFinder (buf.drop fndIndex) pkLen = res at h hfound
    cases hfound with
    | noHead hskip =>
      obtain rfl := Option.some.inj h
      refine .of_drop (k := buf.length - 2 - fndIndex) (by omega)
        (fun i hi => hskip i (by omega)) ?_
      have hlast := hskip (buf.length - 2 - fndIndex) (by omega)
      have hend : fndIndex + (buf.length - 2 - fndIndex) = buf.length - 2 := by omega
      rw [List.drop_drop, hend] at hlast ⊢
      -- the last byte but one is no head, either
      refine .rest ?_ pkFres s
      rw [scanStop_ack_drop (k := 1) (by rw [List.length_drop]; omega) fun i hi => ?_]
      · exact scanStop_short (by rw [List.length_drop, List.length_drop]; omega)
      · obtain rfl : i = 0 := by omega
        exact hlast
    | @incomplete pkPos n hpos hskip hn hjudge =>
      dsimp only at h
      rw [if_neg (not_lt.2 hn)] at h
      obtain rfl := Option.some.inj h
      have hverdict : ackFormat.judge ((buf.drop fndIndex).drop pkPos) = .more := hjudge
      refine .of_drop hpos hskip ?_
      rw [List.drop_drop] at hverdict ⊢
      exact .rest (by rw [ScanFormat.scanStop_more hverdict]) pkFres s
    | @tooLong pkPos n hpos hskip hn hjudge =>
      dsimp only at h
      rw [if_pos hn] at h
      obtain rfl := Option.some.inj h
      refine .of_drop (by omega) hskip ?_
      rw [List.drop_drop] at hjudge ⊢
      exact .tooLong hjudge pkFres s
    | @accepted pkPos n hlong hpos hskip hpass hjudge =>
      have hslice : slice (buf.drop fndIndex) pkPos n = slice buf (fndIndex + pkPos) n := by
        rw [slice, List.drop_drop, slice]
      rw [hslice] at hpass
      dsimp only at h
      rw [recordingCheck_snd, hpass, if_pos rfl] at h
      have hrest := ih (by omega) (by omega) h
      rw [recordingCheck_log, if_pos hpass] at hrest
      refine .of_drop (by omega) hskip ?_
      rw [List.drop_drop] at hjudge ⊢
      exact .accepted hlong hjudge hrest
    | @refused pkPos n hlong hpos hpass hskip =>
      have hslice : slice (buf.drop fndIndex) pkPos n = slice buf (fndIndex + pkPos) n := by
        rw [slice, List.drop_drop, slice]
      rw [hslice] at hpass
      dsimp only at h
      rw [recordingCheck_snd, hpass, if_neg Bool.false_ne_true] at h
      have hrest := ih (by omega) (by omega) h
      rw [recordingCheck_log, if_neg (by rw [hpass]; exact Bool.false_ne_true)] at hrest
      refine .of_drop (by omega) hskip ?_
      rw [List.drop_drop, ← Nat.add_assoc]
      exact hrest

end Loop

/-- A call takes the frames of what was left and the chunk, up to the first head that is too
long. -/
lemma parseChunk_scans {c c' : RBuf × Received × List Bytes} {bs u left : Bytes}
    (hr : RBuf.HoldsIn rbufSize c.1 u) (hu : LeftAs u left) (h : parseChunk c bs = some c') :
    let now := ackFormat.scanStop isBareHead (left ++ bs)
    c'.2.2 = c.2.2 ++ packets now.1 ∧
      ∃ u', RBuf.HoldsIn rbufSize c'.1 u' ∧ u'.length ≤ u.length + bs.length ∧
        LeftAs u' now.2 := by
  obtain ⟨hput, -⟩ := hr.1.put bs
  simp only [parseChunk] at h
  split_ifs at h with hfit
  rw [hfit, List.take_length] at hput
  have hring : RBuf.HoldsIn rbufSize (rBufPut c.1 bs).1 (u ++ bs) :=
    ⟨hput, by rw [rBufPut_len, hr.2]⟩
  have hlt := hring.1.length_lt
  rw [hring.2] at hlt
  rw [pkfinderParse, parseBuf_eq hring] at h
  simp only [Option.map_eq_some_iff] at h
  obtain ⟨_, ⟨e, hloop, rfl⟩, rfl⟩ := h
  obtain ⟨hlog, n, hn, hleft⟩ :=
    pkfinderLoop_takes hlt.le (Nat.zero_le _) (Nat.zero_le _) hloop
  rw [List.drop_zero, hu bs] at hlog hleft
  refine ⟨hlog, (u ++ bs).drop n, ?_, ?_, hleft⟩
  · simp only [hn]
    exact ⟨(hring.1.remove n).1, hring.2⟩
  · rw [List.length_drop, List.length_append]
    omega

/-- The calls take what a scanner with stops takes of the chunks. -/
lemma parseChunks_scans {c c' : RBuf × Received × List Bytes} {u left : Bytes}
    (hr : RBuf.HoldsIn rbufSize c.1 u) (hu : LeftAs u left) {cs : List Bytes}
    (h : cs.foldlM parseChunk c = some c') :
    c'.2.2 = c.2.2 ++ packets (ackFormat.stopChunks isBareHead left cs).1 := by
  induction cs generalizing c u left with
  | nil =>
    obtain rfl := Option.some.inj h
    exact (List.append_nil _).symm
  | cons bs cs ih =>
    rw [List.foldlM_cons] at h
    obtain ⟨mid, hmid, hrest⟩ := Option.bind_eq_some_iff.1 h
    obtain ⟨hlog, u', hr', -, hu'⟩ := parseChunk_scans hr hu hmid
    rw [ih hr' hu' hrest, hlog, List.append_assoc, ScanFormat.stopChunks, packets, packets,
      packets, List.filter_append]

/-- How many heads of packets that are too long the chunks get the finder past: one with each
chunk, when it has come in. -/
def headsPassed (cs : List Bytes) : ℕ := ackFormat.passed isBareHead cs

/-- The packets of a stream that pass the check, each with the number of heads before it that are
too long. -/
def packetsBehind (s : Bytes) : List (ℕ × Bytes) :=
  ScanFormat.ranked isBareHead 0 (ackFormat.scan s).1

/-- The accepted packets are those that a scanner with stops takes. -/
lemma acceptedBy_eq {cs as : List Bytes} (h : acceptedBy cs = some as) :
    as = packets (ackFormat.stopChunks isBareHead [] cs).1 := by
  obtain ⟨c, hrun, rfl⟩ := Option.map_eq_some_iff.1 h
  rw [parseChunks_scans emptyContext_holds (fun t => rfl) hrun, List.nil_append]

/-- A stream that is shorter than the ring never overflows it. -/
lemma acceptedBy_isSome {cs : List Bytes} (h : cs.flatten.length < rbufSize) :
    ∃ as, acceptedBy cs = some as := by
  have hrun (c : RBuf × Received × List Bytes) (u left : Bytes)
      (hr : RBuf.HoldsIn rbufSize c.1 u) (hu : LeftAs u left)
      (hlen : u.length + cs.flatten.length < rbufSize) :
      ∃ c', cs.foldlM parseChunk c = some c' := by
    clear h
    induction cs generalizing c u left with
    | nil => exact ⟨c, rfl⟩
    | cons bs cs ih =>
      rw [List.flatten_cons, List.length_append] at hlen
      have hfit : (rBufPut c.1 bs).2 = bs.length := by
        rw [(hr.1.put bs).2, hr.2]
        omega
      obtain ⟨mid, hmid⟩ := Option.isSome_iff_exists.1 ((parseChunk_isSome_iff c bs).2 hfit)
      obtain ⟨-, u', hr', hle, hu'⟩ := parseChunk_scans hr hu hmid
      obtain ⟨c', hc'⟩ := ih mid u' _ hr' hu' (by omega)
      exact ⟨c', by rw [List.foldlM_cons, hmid]; exact hc'⟩
  obtain ⟨c, hc⟩ := hrun (emptyContext.rbuf, ⟨[], false⟩, []) [] [] emptyContext_holds
    (fun t => rfl) (by simpa using h)
  exact ⟨c.2.2, by rw [acceptedBy, hc]; rfl⟩

/-- **Read boundaries.**  A head whose packet is too long ends a call.  Two ways of cutting a
stream therefore lead to the same accepted packets if and only if, for every packet, either both
have got the finder past all such heads before it when the last chunk comes in, or neither has. -/
theorem accepted_eq_iff {cs ds as bs : List Bytes} (h : cs.flatten = ds.flatten)
    (hcs : acceptedBy cs = some as) (hds : acceptedBy ds = some bs) :
    as = bs ↔ ∀ q ∈ packetsBehind cs.flatten,
      q.1 ≤ headsPassed cs.dropLast ↔ q.1 ≤ headsPassed ds.dropLast := by
  rw [acceptedBy_eq hcs, acceptedBy_eq hds]
  exact ScanFormat.stopChunks_eq_iff h

lemma scan_ackFrame : ackFormat.scan (ackFrame .dataAck 0) = ([ackFrame .dataAck 0], []) := by
  have hjudge : ackFormat.judge (ackFrame .dataAck 0) = .take (ackFrame .dataAck 0).length := by
    decide
  rw [ScanFormat.scan_take hjudge, List.take_length, List.drop_length, ScanFormat.scan_nil]

/-- An acknowledgement alone, read as a whole and in two parts. -/
theorem accepted_eq_iff_splitAck : ∃ as, acceptedBy [ackFrame .dataAck 0] = some as ∧
    acceptedBy [(ackFrame .dataAck 0).take 5, (ackFrame .dataAck 0).drop 5] = some as := by
  obtain ⟨as, has⟩ : ∃ as, acceptedBy [ackFrame .dataAck 0] = some as :=
    acceptedBy_isSome (by decide)
  obtain ⟨bs, hbs⟩ : ∃ bs, acceptedBy
      [(ackFrame .dataAck 0).take 5, (ackFrame .dataAck 0).drop 5] = some bs :=
    acceptedBy_isSome (by decide)
  have hsame : as = bs := by
    refine (accepted_eq_iff (by decide) has hbs).2 fun q hq => ?_
    rw [packetsBehind, List.flatten_singleton, scan_ackFrame] at hq
    obtain rfl := List.mem_singleton.1 hq
    exact iff_of_true (Nat.zero_le _) (Nat.zero_le _)
  exact ⟨as, has, hsame ▸ hbs⟩

/-- A head with the length field `0xFFFF`. -/
def longHead : Bytes := [0x1A, 0xCF, 0, 0, 0, 0, 0xFF, 0xFF]

lemma scan_longHead (s : Bytes) (h : s = [] ∨ s = ackFrame .dataAck 0) :
    ackFormat.scan (longHead ++ s) =
      ([0x1A, 0xCF] :: (ackFormat.scan s).1, (ackFormat.scan s).2) := by
  have hjudge : ackFormat.judge (longHead ++ s) = .take 2 := by
    rcases h with rfl | rfl <;> decide
  have hskip : ∀ i < 6, ackFormat.judge (((longHead ++ s).drop 2).drop i) = .skip := by
    rcases h with rfl | rfl <;> decide
  rw [ScanFormat.scan_take hjudge, ScanFormat.scan_drop (by simp [longHead]) hskip]
  rfl

/-- An acknowledgement behind such a head is accepted when it is read after it, and not when the
two are read at once. -/
theorem long_head_hides_ack :
    ¬ ∀ cs ds as bs : List Bytes, [] ∉ cs → [] ∉ ds → cs.flatten = ds.flatten →
      acceptedBy cs = some as → acceptedBy ds = some bs → as = bs := by
  intro hall
  obtain ⟨as, has⟩ : ∃ as, acceptedBy [longHead ++ ackFrame .dataAck 0] = some as :=
    acceptedBy_isSome (by decide)
  obtain ⟨bs, hbs⟩ : ∃ bs, acceptedBy [longHead, ackFrame .dataAck 0] = some bs :=
    acceptedBy_isSome (by decide)
  have hscan : (ackFormat.scan [longHead ++ ackFrame .dataAck 0].flatten).1 =
      [[0x1A, 0xCF], ackFrame .dataAck 0] := by
    rw [List.flatten_singleton, scan_longHead _ (.inr rfl), scan_ackFrame]
  have hpassed :
      ackFormat.passed isBareHead [longHead, ackFrame .dataAck 0].dropLast = 1 := by
    have hcount : ackFormat.stopCount isBareHead ([] ++ longHead) = 1 := by
      rw [ScanFormat.stopCount, List.nil_append, ← List.append_nil longHead,
        scan_longHead [] (.inl rfl), ScanFormat.scan_nil]
      decide
    have hfirst : [longHead, ackFrame .dataAck 0].dropLast = [longHead] := rfl
    rw [hfirst, ScanFormat.passed, ScanFormat.passedFrom, hcount]
    rfl
  -- nothing is accepted of the stream at once
  have hone : as = [] := by
    rw [acceptedBy_eq has, packets, ScanFormat.stopChunks_eq, hscan]
    decide
  have htwo : bs = [ackFrame .dataAck 0] := by
    have hscan' : (ackFormat.scan [longHead, ackFrame .dataAck 0].flatten).1 =
        [[0x1A, 0xCF], ackFrame .dataAck 0] := hscan
    rw [acceptedBy_eq hbs, packets, ScanFormat.stopChunks_eq, hpassed, hscan']
    decide
  have hsame := hall _ _ as bs (by decide) (by decide) (by decide) has hbs
  rw [hone, htwo] at hsame
  cases hsame

end AntennaMgmt.Rs422
