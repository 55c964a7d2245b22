import AntennaMgmt.Lib.Bytes
import AntennaMgmt.Lib.Queue
import Mathlib.Data.Int.Init
import Mathlib.Tactic.Common

/-!
# The ring buffer

The bytes that the serial driver hands over are kept in a ring (`rBuf.c`) until they make up a
frame.  One cell of the ring stays free, so that equal indices mean an empty ring.  The counts are
`UINT`, but two of the functions take the difference of the indices as an `int`.
-/

namespace AntennaMgmt.Rs422

open AntennaMgmt.Lib

/-- `RBUF`. -/
structure RBuf where
  buf : Bytes
  len : ℕ
  inIndex : ℕ
  outIndex : ℕ
deriving DecidableEq, Repr

/-- The cast to `int`, and what `int` arithmetic keeps of a sum: 32 bits in two's complement. -/
def toInt (n : ℤ) : ℤ := n.bmod (2 ^ 32)

/-- The cast to `UINT`. -/
def toUInt (n : ℤ) : ℕ := (n % 2 ^ 32).toNat

/-- The loop `for (i=0;i<n;++i) dst[pos+i]=data[i]`. -/
def writeAt (dst : Bytes) (pos : ℕ) (data : Bytes) : Bytes :=
  dst.take pos ++ data ++ dst.drop (pos + data.length)

/-- `rBufPut`: the ring afterwards and the number of bytes stored. -/
def rBufPut (r : RBuf) (bs : Bytes) : RBuf × ℕ :=
  if r.inIndex < r.outIndex then
    -- wrapped: at most up to the byte before `outIndex`
    let retLen := min bs.length (r.outIndex - r.inIndex - 1)
    ({ r with
        buf := writeAt r.buf r.inIndex (bs.take retLen)
        inIndex := r.inIndex + retLen }, retLen)
  else if r.outIndex = 0 then
    -- at most up to the byte before the last cell
    let retLen := min bs.length (r.len - r.inIndex - 1)
    ({ r with
        buf := writeAt r.buf r.inIndex (bs.take retLen)
        inIndex := r.inIndex + retLen }, retLen)
  else
    let retLen := min bs.length (r.len - r.inIndex)
    let buf := writeAt r.buf r.inIndex (bs.take retLen)
    if retLen < bs.length then
      -- from the start of the ring on, up to the byte before `outIndex`
      let rests := min (bs.length - retLen) (r.outIndex - 1)
      ({ r with buf := writeAt buf 0 (slice bs retLen rests), inIndex := rests }, retLen + rests)
    else
      let inIndex := r.inIndex + retLen
      ({ r with buf := buf, inIndex := if inIndex = r.len then 0 else inIndex }, retLen)

/-- `rBufGet`: the bytes copied and their number. -/
def rBufGet (r : RBuf) (n : ℕ) : Bytes × ℕ :=
  if r.outIndex ≤ r.inIndex then
    let retLen := min n (r.inIndex - r.outIndex)
    (slice r.buf r.outIndex retLen, retLen)
  else
    let retLen := min n (r.len - r.outIndex)
    if retLen < n then
      let rests := min (n - retLen) r.inIndex
      (slice r.buf r.outIndex retLen ++ slice r.buf 0 rests, retLen + rests)
    else (slice r.buf r.outIndex retLen, retLen)

/-- The difference of the indices as `rBufRemove` and `rBufNBytes` compute it in an `int`. -/
def indexDiff (r : RBuf) : ℤ :=
  let n := toInt (toInt r.inIndex - toInt r.outIndex)
  if n < 0 then toInt (n + r.len) else n

/-- `rBufRemove`: the ring afterwards and the number of bytes removed. -/
def rBufRemove (r : RBuf) (n : ℕ) : RBuf × ℕ :=
  let retLen := min n (toUInt (indexDiff r))
  let added := (r.outIndex + retLen) % 2 ^ 32
  ({ r with outIndex := if r.len ≤ added then added - r.len else added }, retLen)

/-- `rBufNBytes`. -/
def rBufNBytes (r : RBuf) : ℕ := toUInt (indexDiff r)

/-- `rBufIsFull`. -/
def rBufIsFull (r : RBuf) : Bool :=
  let n := toInt (toInt (toInt r.inIndex - toInt r.outIndex) + 1)
  n = 0 ∨ toUInt n = r.len

/-- `rBufClear`. -/
def rBufClear (r : RBuf) : RBuf := { r with inIndex := 0, outIndex := 0 }

/-- `rBufInit`. -/
def rBufInit (r : RBuf) : RBuf := { r with inIndex := 0, outIndex := 0 }

/-- The ring answers a request. -/
def rBufStep (r : RBuf) : QueueOp UInt8 → RBuf × QueueAnswer UInt8
  | .put bs => ((rBufPut r bs).1, .count (rBufPut r bs).2)
  | .get n => (r, .front (rBufGet r n).1 (rBufGet r n).2)
  | .remove n => ((rBufRemove r n).1, .count (rBufRemove r n).2)
  | .clear => (rBufClear r, .done)
  | .size => (r, .count (rBufNBytes r))
  | .isFull => (r, .full (rBufIsFull r))

/-! ### The queue in the ring -/

/-- The bytes from `outIndex` on, round the end of the ring, up to `inIndex`. -/
def RBuf.queue (r : RBuf) : Bytes :=
  if r.outIndex ≤ r.inIndex then slice r.buf r.outIndex (r.inIndex - r.outIndex)
  else r.buf.drop r.outIndex ++ r.buf.take r.inIndex

/-- The ring is laid out as its functions expect, and holds the queue `q`. -/
structure RBuf.Holds (r : RBuf) (q : Bytes) : Prop where
  buf_length : r.buf.length = r.len
  in_lt : r.inIndex < r.len
  out_lt : r.outIndex < r.len
  len_le : r.len ≤ 2 ^ 31
  queue_eq : r.queue = q

lemma getElem?_slice (bs : Bytes) (i w j : ℕ) :
    (slice bs i w)[j]? = if j < w then bs[i + j]? else none := by
  rw [slice, List.getElem?_take, List.getElem?_drop]

lemma getElem?_writeAt (dst data : Bytes) (pos j : ℕ) (h : pos ≤ dst.length) :
    (writeAt dst pos data)[j]? =
      if j < pos then dst[j]? else if j < pos + data.length then data[j - pos]? else dst[j]? := by
  have hpos : (dst.take pos).length = pos := List.length_take_of_le h
  rw [writeAt, List.append_assoc]
  split_ifs with hlt hin
  · rw [List.getElem?_append_left (by omega), List.getElem?_take_of_lt hlt]
  · rw [List.getElem?_append_right (by omega), hpos, List.getElem?_append_left (by omega)]
  · rw [List.getElem?_append_right (by omega), hpos, List.getElem?_append_right (by omega),
      List.getElem?_drop]
    congr 1
    omega

lemma length_writeAt {dst data : Bytes} {pos : ℕ} (h : pos + data.length ≤ dst.length) :
    (writeAt dst pos data).length = dst.length := by
  simp only [writeAt, List.length_append, List.length_take, List.length_drop]
  omega

variable {r : RBuf} {q : Bytes}

lemma RBuf.Holds.length_eq (h : r.Holds q) : q.length =
    if r.outIndex ≤ r.inIndex then r.inIndex - r.outIndex
    else r.len - r.outIndex + r.inIndex := by
  have hin := h.in_lt
  have hout := h.out_lt
  have hlen := h.buf_length
  rw [← h.queue_eq, RBuf.queue]
  split_ifs
  · rw [slice, List.length_take, List.length_drop]
    omega
  · rw [List.length_append, List.length_drop, List.length_take]
    omega

/-- A ring always has a cell that is not in use. -/
lemma RBuf.Holds.length_lt (h : r.Holds q) : q.length < r.len := by
  have hin := h.in_lt
  have hout := h.out_lt
  rw [h.length_eq]
  split_ifs <;> omega

/-- The cell that lies `j` places behind `outIndex`, round the end of the ring. -/
def RBuf.cell (r : RBuf) (j : ℕ) : Option UInt8 :=
  if r.outIndex + j < r.len then r.buf[r.outIndex + j]? else r.buf[r.outIndex + j - r.len]?

/-- The cells of the queue. -/
lemma RBuf.Holds.getElem?_eq (h : r.Holds q) {j : ℕ} (hj : j < q.length) :
    q[j]? = r.cell j := by
  have hin := h.in_lt
  have hout := h.out_lt
  have hlen := h.buf_length
  have hlength := h.length_eq
  rw [← h.queue_eq, RBuf.queue, RBuf.cell]
  by_cases hle : r.outIndex ≤ r.inIndex
  · rw [if_pos hle] at hlength ⊢
    rw [getElem?_slice, if_pos (by omega), if_pos (by omega)]
  · rw [if_neg hle] at hlength ⊢
    have hdrop : (r.buf.drop r.outIndex).length = r.len - r.outIndex := by
      rw [List.length_drop, hlen]
    split_ifs with hwrap
    · rw [List.getElem?_append_left (by omega), List.getElem?_drop]
    · rw [List.getElem?_append_right (by omega), hdrop, List.getElem?_take_of_lt (by omega)]
      congr 1
      omega

/-- A ring is known by its length and its cells. -/
lemma RBuf.holds_of_cell (hlen : r.buf.length = r.len) (hin : r.inIndex < r.len)
    (hout : r.outIndex < r.len) (hmax : r.len ≤ 2 ^ 31)
    (hlength : q.length = if r.outIndex ≤ r.inIndex then r.inIndex - r.outIndex
      else r.len - r.outIndex + r.inIndex)
    (hcells : ∀ j < q.length, q[j]? = r.cell j) : r.Holds q := by
  refine ⟨hlen, hin, hout, hmax, ?_⟩
  have hown : r.Holds r.queue := ⟨hlen, hin, hout, hmax, rfl⟩
  have hsame : r.queue.length = q.length := by rw [hown.length_eq, hlength]
  ext1 j
  by_cases hj : j < q.length
  · rw [hown.getElem?_eq (hsame ▸ hj), hcells j hj]
  · rw [List.getElem?_eq_none (by omega), List.getElem?_eq_none (not_lt.1 hj)]

/-! ### The functions of the ring -/

/-- Bytes written at `inIndex`, up to the end of the ring at most, extend the queue. -/
lemma RBuf.Holds.write (h : r.Holds q) (data : Bytes) (hend : r.inIndex + data.length ≤ r.len)
    (hroom : q.length + data.length < r.len) : RBuf.Holds { r with
      buf := writeAt r.buf r.inIndex data
      inIndex := if r.inIndex + data.length = r.len then 0 else r.inIndex + data.length }
      (q ++ data) := by
  have hin := h.in_lt
  have hout := h.out_lt
  have hlen := h.buf_length
  have hlength := h.length_eq
  refine RBuf.holds_of_cell ?_ ?_ hout h.len_le ?_ ?_
  · rw [length_writeAt (by omega), hlen]
  · dsimp only
    split_ifs <;> omega
  · rw [List.length_append]
    dsimp only
    split_ifs at hlength ⊢ <;> omega
  · intro j hj
    rw [List.length_append] at hj
    have hwrite := fun i => getElem?_writeAt r.buf data r.inIndex i (by omega)
    simp only [RBuf.cell, hwrite]
    by_cases hold : j < q.length
    · -- the cells of the old queue are left alone
      rw [List.getElem?_append_left hold, h.getElem?_eq hold, RBuf.cell]
      split_ifs at hlength ⊢ <;> first | rfl | omega
    · rw [List.getElem?_append_right (not_lt.1 hold)]
      split_ifs at hlength ⊢ <;> first | omega | (congr 1; omega)

/-- Likewise when the end of the ring is not reached. -/
lemma RBuf.Holds.write_lt (h : r.Holds q) (data : Bytes)
    (hend : r.inIndex + data.length < r.len) (hroom : q.length + data.length < r.len) :
    RBuf.Holds { r with
      buf := writeAt r.buf r.inIndex data
      inIndex := r.inIndex + data.length } (q ++ data) := by
  have hwrite := h.write data hend.le hroom
  rwa [if_neg hend.ne] at hwrite

/-- `rBufPut` stores the bytes that there is room for. -/
lemma RBuf.Holds.put (h : r.Holds q) (bs : Bytes) :
    (rBufPut r bs).1.Holds (q ++ bs.take (rBufPut r bs).2) ∧
      (rBufPut r bs).2 = min bs.length (r.len - 1 - q.length) := by
  have hin := h.in_lt
  have hout := h.out_lt
  have hlength := h.length_eq
  have htake (n : ℕ) (hn : n ≤ bs.length) : (bs.take n).length = n := List.length_take_of_le hn
  unfold rBufPut
  by_cases hwrapped : r.inIndex < r.outIndex
  · -- the free cells lie between the indices
    rw [if_neg (not_le.2 hwrapped)] at hlength
    rw [if_pos hwrapped]
    have hdata := htake (min bs.length (r.outIndex - r.inIndex - 1)) (min_le_left _ _)
    have hput := h.write_lt (bs.take (min bs.length (r.outIndex - r.inIndex - 1)))
      (by omega) (by omega)
    rw [hdata] at hput
    exact ⟨hput, by dsimp only; omega⟩
  rw [if_pos (not_lt.1 hwrapped)] at hlength
  rw [if_neg hwrapped]
  by_cases hzero : r.outIndex = 0
  · -- the free cells lie behind `inIndex`, and the last one stays free
    rw [if_pos hzero]
    have hdata := htake (min bs.length (r.len - r.inIndex - 1)) (min_le_left _ _)
    have hput := h.write_lt (bs.take (min bs.length (r.len - r.inIndex - 1)))
      (by omega) (by omega)
    rw [hdata] at hput
    exact ⟨hput, by dsimp only; omega⟩
  rw [if_neg hzero]
  have hdata := htake (min bs.length (r.len - r.inIndex)) (min_le_left _ _)
  have hput := h.write (bs.take (min bs.length (r.len - r.inIndex))) (by omega) (by omega)
  rw [hdata] at hput
  dsimp only
  -- the bytes behind `inIndex`, and then those that are left over
  by_cases hmore : min bs.length (r.len - r.inIndex) < bs.length
  · -- the ring is filled to its end and then from its start
    rw [if_pos hmore]
    rw [if_pos (by omega)] at hput
    set retLen := min bs.length (r.len - r.inIndex) with hret
    have hslice : (slice bs retLen (min (bs.length - retLen) (r.outIndex - 1))).length =
        min (bs.length - retLen) (r.outIndex - 1) := by
      rw [slice, List.length_take, List.length_drop]
      omega
    have hrest := hput.write_lt
      (slice bs retLen (min (bs.length - retLen) (r.outIndex - 1)))
      (by dsimp only; omega) (by rw [List.length_append]; dsimp only; omega)
    rw [hslice] at hrest
    dsimp only at hrest ⊢
    rw [Nat.zero_add, List.append_assoc, slice, ← List.take_add] at hrest
    exact ⟨hrest, by omega⟩
  · rw [if_neg hmore]
    exact ⟨hput, by dsimp only; omega⟩

/-- `rBufGet` copies the front of the queue. -/
lemma RBuf.Holds.get (h : r.Holds q) (n : ℕ) : rBufGet r n = (q.take n, min n q.length) := by
  have hin := h.in_lt
  have hout := h.out_lt
  have hlen := h.buf_length
  have hlength := h.length_eq
  have hqueue := h.queue_eq
  unfold RBuf.queue at hqueue
  unfold rBufGet
  by_cases hle : r.outIndex ≤ r.inIndex
  · rw [if_pos hle] at hlength hqueue ⊢
    dsimp only
    rw [hlength, ← hqueue, slice, slice, List.take_take]
  · rw [if_neg hle] at hlength hqueue ⊢
    have hdrop : (r.buf.drop r.outIndex).length = r.len - r.outIndex := by
      rw [List.length_drop, hlen]
    have htake : q.take n = (r.buf.drop r.outIndex).take n ++
        (r.buf.take r.inIndex).take (n - (r.len - r.outIndex)) := by
      rw [← hqueue, List.take_append, hdrop]
    rw [htake, List.take_take]
    dsimp only
    rcases lt_or_ge (r.len - r.outIndex) n with hmore | hless
    · -- the front runs round the end of the ring
      rw [min_eq_right hmore.le, if_pos hmore, slice, slice, List.drop_zero,
        List.take_of_length_le hdrop.le, List.take_of_length_le (hdrop.le.trans hmore.le)]
      congr 1
      omega
    · rw [min_eq_left hless, if_neg (lt_irrefl n), Nat.sub_eq_zero_of_le hless, Nat.zero_min,
        List.take_zero, List.append_nil, slice, min_eq_left (by omega)]

lemma toInt_eq {n : ℤ} (h : -2 ^ 31 ≤ n) (h' : n < 2 ^ 31) : toInt n = n := by
  simp only [toInt, Int.bmod_def]
  omega

/-- The indices of a ring that is not longer than an `int` counts differ by the length of the
queue. -/
lemma RBuf.Holds.indexDiff_eq (h : r.Holds q) : indexDiff r = q.length := by
  have hin := h.in_lt
  have hout := h.out_lt
  have hmax := h.len_le
  have hlength := h.length_eq
  simp only [indexDiff]
  rw [toInt_eq (n := r.inIndex) (by omega) (by omega),
    toInt_eq (n := r.outIndex) (by omega) (by omega),
    toInt_eq (n := r.inIndex - r.outIndex) (by omega) (by omega)]
  by_cases hle : r.outIndex ≤ r.inIndex
  · rw [if_pos hle] at hlength
    rw [if_neg (by omega)]
    omega
  · rw [if_neg hle] at hlength
    rw [if_pos (by omega), toInt_eq (by omega) (by omega)]
    omega

lemma toUInt_natCast {n : ℕ} (h : n < 2 ^ 32) : toUInt n = n := by
  unfold toUInt
  omega

lemma RBuf.Holds.length_lt_uint (h : r.Holds q) : q.length < 2 ^ 32 := by
  have hlt := h.length_lt
  have hmax := h.len_le
  omega

/-- `rBufRemove` takes bytes from the front of the queue. -/
lemma RBuf.Holds.remove (h : r.Holds q) (n : ℕ) :
    (rBufRemove r n).1.Holds (q.drop n) ∧ (rBufRemove r n).2 = min n q.length := by
  have hin := h.in_lt
  have hout := h.out_lt
  have hmax := h.len_le
  have hlt := h.length_lt
  have hlength := h.length_eq
  have hret : min n (toUInt (indexDiff r)) = min n q.length := by
    rw [h.indexDiff_eq, toUInt_natCast h.length_lt_uint]
  have hdrop : q.drop n = q.drop (min n q.length) := by
    rcases le_total n q.length with hle | hle
    · rw [min_eq_left hle]
    · rw [min_eq_right hle, List.drop_length, List.drop_eq_nil_of_le hle]
  unfold rBufRemove
  simp only [hret]
  have hadded : (r.outIndex + min n q.length) % 2 ^ 32 = r.outIndex + min n q.length :=
    Nat.mod_eq_of_lt (by omega)
  refine ⟨?_, trivial⟩
  rw [hadded, hdrop]
  refine RBuf.holds_of_cell h.buf_length hin ?_ hmax ?_ ?_
  · dsimp only
    split_ifs <;> omega
  · rw [List.length_drop]
    dsimp only
    split_ifs at hlength ⊢ <;> omega
  · intro j hj
    rw [List.length_drop] at hj
    rw [List.getElem?_drop, h.getElem?_eq (by omega), RBuf.cell, RBuf.cell]
    dsimp only
    split_ifs <;> first | omega | (congr 1; omega)

/-- `rBufNBytes` counts the queue. -/
lemma RBuf.Holds.nBytes (h : r.Holds q) : rBufNBytes r = q.length := by
  rw [rBufNBytes, h.indexDiff_eq, toUInt_natCast h.length_lt_uint]

/-- `rBufIsFull` says whether one cell only is free. -/
lemma RBuf.Holds.isFull (h : r.Holds q) : rBufIsFull r = decide (q.length = r.len - 1) := by
  have hin := h.in_lt
  have hout := h.out_lt
  have hmax := h.len_le
  have hlength := h.length_eq
  simp only [rBufIsFull, decide_eq_decide]
  rw [toInt_eq (n := r.inIndex) (by omega) (by omega),
    toInt_eq (n := r.outIndex) (by omega) (by omega),
    toInt_eq (n := r.inIndex - r.outIndex) (by omega) (by omega)]
  -- the last sum may just be too large for an `int`
  simp only [toInt, toUInt, Int.bmod_def]
  split_ifs at hlength ⊢ <;> omega

lemma RBuf.holds_clear (hlen : r.buf.length = r.len) (hpos : 0 < r.len) (hmax : r.len ≤ 2 ^ 31) :
    (rBufClear r).Holds [] :=
  RBuf.holds_of_cell hlen hpos hpos hmax rfl nofun

/-! ### The ring is a queue -/

lemma rBufPut_len (r : RBuf) (bs : Bytes) : (rBufPut r bs).1.len = r.len := by
  unfold rBufPut
  dsimp only
  split_ifs <;> rfl

/-- A ring of `len` cells that holds `q`. -/
def RBuf.HoldsIn (len : ℕ) (r : RBuf) (q : Bytes) : Prop := r.Holds q ∧ r.len = len

/-- A ring of `len` cells that holds `q` answers as the queue of capacity `len - 1` does. -/
lemma RBuf.HoldsIn.step {len : ℕ} (h : RBuf.HoldsIn len r q) (a : QueueOp UInt8) :
    RBuf.HoldsIn len (rBufStep r a).1 (queueStep (len - 1) q a).1 ∧
      (rBufStep r a).2 = (queueStep (len - 1) q a).2 := by
  obtain ⟨hq, rfl⟩ := h
  cases a with
  | put bs =>
    obtain ⟨hput, hret⟩ := hq.put bs
    have hlen := rBufPut_len r bs
    rw [hret] at hput
    exact ⟨⟨hput, hlen⟩, congrArg _ hret⟩
  | get n =>
    refine ⟨⟨hq, rfl⟩, ?_⟩
    show QueueAnswer.front _ _ = _
    rw [hq.get n]
    rfl
  | remove n =>
    obtain ⟨hrest, hret⟩ := hq.remove n
    exact ⟨⟨hrest, rfl⟩, congrArg _ hret⟩
  | clear =>
    have hpos : 0 < r.len := lt_of_le_of_lt (Nat.zero_le _) hq.in_lt
    exact ⟨⟨RBuf.holds_clear hq.buf_length hpos hq.len_le, rfl⟩, rfl⟩
  | size =>
    refine ⟨⟨hq, rfl⟩, ?_⟩
    show QueueAnswer.count (rBufNBytes r) = _
    rw [hq.nBytes]
    rfl
  | isFull =>
    refine ⟨⟨hq, rfl⟩, ?_⟩
    show QueueAnswer.full (rBufIsFull r) = _
    rw [hq.isFull]
    rfl

/-- Whatever is asked of the ring, it answers as the queue of capacity `len - 1` does, and it ends
with the queue's bytes and with both indices inside. -/
def RBuf.IsQueue (r : RBuf) : Prop :=
  ∀ ops : List (QueueOp UInt8),
    (answers rBufStep (rBufInit r) ops).2 = (answers (queueStep (r.len - 1)) [] ops).2 ∧
      (answers rBufStep (rBufInit r) ops).1.queue = (answers (queueStep (r.len - 1)) [] ops).1 ∧
      (answers rBufStep (rBufInit r) ops).1.inIndex < r.len ∧
      (answers rBufStep (rBufInit r) ops).1.outIndex < r.len

lemma RBuf.isQueue_of_le (hbuf : r.buf.length = r.len) (hlen : 2 ≤ r.len)
    (hmax : r.len ≤ 2 ^ 31) : r.IsQueue := by
  intro ops
  have hinit : RBuf.HoldsIn r.len (rBufInit r) [] :=
    ⟨RBuf.holds_clear hbuf (by omega) hmax, rfl⟩
  obtain ⟨⟨hend, hsame⟩, hanswers⟩ :=
    answers_eq_of_simulation (R := RBuf.HoldsIn r.len)
      (fun s q a hs => RBuf.HoldsIn.step hs a) hinit ops
  have hin := hend.in_lt
  have hout := hend.out_lt
  rw [hsame] at hin hout
  exact ⟨hanswers, hend.queue_eq, hin, hout⟩

/-- The difference of the indices is the least `int` when there are `2 ^ 31` bytes behind an
`outIndex` of zero. -/
lemma rBufNBytes_long {n : ℕ} (hn : n = 2 ^ 31) (hlong : n < r.len) (huint : r.len < 2 ^ 32)
    (buf : Bytes) : rBufNBytes { r with buf := buf, inIndex := n, outIndex := 0 } = r.len - n := by
  have hleast : toInt n = -2 ^ 31 := by
    simp only [toInt, Int.bmod_def]
    omega
  have hdiff : indexDiff { r with buf := buf, inIndex := n, outIndex := 0 } =
      ((r.len - n : ℕ) : ℤ) := by
    simp only [indexDiff]
    rw [hleast, toInt_eq (n := ((0 : ℕ) : ℤ)) (by omega) (by omega),
      toInt_eq (n := -2 ^ 31 - ((0 : ℕ) : ℤ)) (by omega) (by omega), if_pos (by omega),
      toInt_eq (by omega) (by omega)]
    omega
  rw [rBufNBytes, hdiff, toUInt_natCast (by omega)]

/-- A ring that is given that many bytes, and has room for them, miscounts them. -/
lemma answers_long_ring {n : ℕ} (hn : n = 2 ^ 31) (hlong : n < r.len) (huint : r.len < 2 ^ 32) :
    (answers rBufStep (rBufInit r) [.put (List.replicate n 0), .size]).2 =
      [.count n, .count (r.len - n)] := by
  have hput : rBufPut (rBufInit r) (List.replicate n 0) =
      ({ r with buf := writeAt r.buf 0 (List.replicate n 0), inIndex := n, outIndex := 0 }, n) := by
    have hmin : min n (r.len - 1) = n := min_eq_left (by omega)
    simp [rBufPut, rBufInit, hmin]
  simp only [answers_cons, answers_nil, rBufStep, hput, rBufNBytes_long hn hlong huint]

lemma RBuf.not_isQueue_of_lt (hlong : 2 ^ 31 < r.len) (huint : r.len < 2 ^ 32) :
    ¬ r.IsQueue := by
  intro hqueue
  -- the number is kept out of sight, so that no list of that length is ever computed
  obtain ⟨n, hn⟩ : ∃ n : ℕ, n = 2 ^ 31 := ⟨_, rfl⟩
  obtain ⟨hsame, -⟩ := hqueue [.put (List.replicate n 0), .size]
  have hcount : (answers (queueStep (r.len - 1)) ([] : Bytes)
      [.put (List.replicate n 0), .size]).2 = [.count n, .count n] := by
    have hmin : min n (r.len - 1) = n := min_eq_left (by omega)
    simp [answers_cons, answers_nil, queueStep, hmin]
  rw [answers_long_ring hn (by omega) huint, hcount] at hsame
  simp only [List.cons.injEq, QueueAnswer.count.injEq] at hsame
  omega

/-- A ring of at least two cells is a queue whose capacity is one less than its length if and only
if an `int` counts its bytes. -/
theorem rBuf_isQueue_iff (r : RBuf) (hbuf : r.buf.length = r.len) (hlen : 2 ≤ r.len)
    (huint : r.len < 2 ^ 32) : r.IsQueue ↔ r.len ≤ 2 ^ 31 :=
  ⟨fun hqueue => not_lt.1 fun hlong => RBuf.not_isQueue_of_lt hlong huint hqueue,
    RBuf.isQueue_of_le hbuf hlen⟩

theorem rBuf_isQueue_iff_three :
    (answers rBufStep (rBufInit ⟨[7, 7, 7], 3, 2, 1⟩) [.put [1, 2, 3], .isFull, .get 5]).2 =
      [.count 2, .full true, .front [1, 2] 2] :=
  ((rBuf_isQueue_iff ⟨[7, 7, 7], 3, 2, 1⟩ rfl (by decide) (by decide)).2 (by decide)
    [.put [1, 2, 3], .isFull, .get 5]).1

/-- A ring of `2 ^ 31 + 1` cells is no queue. -/
theorem rBuf_not_queue_long :
    ¬ ∀ r : RBuf, r.buf.length = r.len → 2 ≤ r.len → r.len < 2 ^ 32 → r.IsQueue := by
  intro hall
  obtain ⟨n, hn⟩ : ∃ n : ℕ, n = 2 ^ 31 := ⟨_, rfl⟩
  have hlong : 2 ^ 31 < n + 1 := by omega
  have huint : n + 1 < 2 ^ 32 := by omega
  exact RBuf.not_isQueue_of_lt (r := ⟨List.replicate (n + 1) 0, n + 1, 0, 0⟩) hlong huint
    (hall _ List.length_replicate (show 2 ≤ n + 1 by omega) huint)

end AntennaMgmt.Rs422
