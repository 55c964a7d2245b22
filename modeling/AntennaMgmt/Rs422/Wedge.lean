import AntennaMgmt.Rs422.Cuts

/-!
# A ring that is full

The finder waits for a packet that is not longer than `parse_buf`, but the ring holds one byte
less than `parse_buf` does.  A packet of exactly that length at the start of a full ring is waited
for without end.
-/

namespace AntennaMgmt.Rs422

open AntennaMgmt.Lib

/-! ### Where the loop ends -/

section loop

variable {σ : Type*} {p : PkFinder} {chkExec : σ → Bytes → σ × Bool} {parseBufLen : ℕ}

/-- What is found is found at a head. -/
inductive FoundAt (p : PkFinder) (buf : Bytes) : FindResult → Prop
  | noHead : FoundAt p buf .noHead
  | short {pkPos : ℕ} (pkLen : ℕ) : p.headAt buf pkPos → FoundAt p buf (.short pkPos pkLen)
  | whole {pkPos : ℕ} (pkLen : ℕ) : p.headAt buf pkPos → FoundAt p buf (.whole pkPos pkLen)

lemma foundAt_pkfinderFind (hvar : p.isPkFixLen = false) (hlen : p.pkLenLen ≤ 4) (buf : Bytes)
    (fndLen : ℕ) : FoundAt p buf (pkfinderFind p buf fndLen) := by
  unfold pkfinderFind
  split
  · exact .noHead
  · rename_i pkPos hfind
    have hhead := List.find?_some hfind
    rw [PkFinder.measure, if_neg (by simp [hvar]), if_neg (not_lt.2 hlen)]
    dsimp only
    split_ifs
    · exact .short _ hhead
    · exact .short _ hhead
    · exact .whole _ hhead

/-- The loop of `pkfinderParse` never goes back, and says where it has ended. -/
lemma exists_le_fndIndex (hvar : p.isPkFixLen = false) (hlen : p.pkLenLen ≤ 4) {parseBuf : Bytes}
    {rounds fndIndex pkLen : ℕ} {pkFres : Status} {s : σ} {e : ParseEnd σ}
    (h : pkfinderLoop p chkExec parseBufLen parseBuf rounds fndIndex pkLen pkFres s = some e) :
    ∃ n, e.fndIndex = some n ∧ fndIndex ≤ n := by
  induction rounds generalizing fndIndex pkLen pkFres s with
  | zero => cases h
  | succ rounds ih =>
    rw [pkfinderLoop] at h
    split_ifs at h with hmore
    swap
    · cases h
      exact ⟨_, rfl, le_rfl⟩
    have hfound := foundAt_pkfinderFind hvar hlen (parseBuf.drop fndIndex) pkLen
    generalize pkfinderFind p (parseBuf.drop fndIndex) pkLen = res at h hfound
    cases hfound with
    | noHead =>
      cases h
      exact ⟨_, rfl, by omega⟩
    | short pkLen hhead =>
      dsimp only at h
      split_ifs at h
      · cases h
        exact ⟨_, rfl, by omega⟩
      · cases h
        exact ⟨_, rfl, by omega⟩
    | whole pkLen hhead =>
      dsimp only at h
      split_ifs at h
      · obtain ⟨n, hn, hle⟩ := ih h
        exact ⟨n, hn, by omega⟩
      · obtain ⟨n, hn, hle⟩ := ih h
        exact ⟨n, hn, by omega⟩

end loop

/-- The packet at the start is one that is waited for in vain: its length is that of `parse_buf`. -/
def Wedged (q : Bytes) : Prop := q.take 2 = ackFinder.headBuf ∧ ackLen q = rbufSize

variable {q : Bytes} {s : Received} {r : RBuf}

/-- A loop that has passed the first byte ends behind it. -/
lemma fndIndex_of_pos (hfree : ¬ Wedged q) {rounds fndIndex pkLen : ℕ} {pkFres : Status}
    {e : ParseEnd Received} (hpos : 0 < fndIndex)
    (h : pkfinderLoop ackFinder rs422FrameCheckAndProcess rbufSize q rounds fndIndex pkLen pkFres
      s = some e) : ∃ n, e.fndIndex = some n ∧ (0 < n ↔ ¬ Wedged q) := by
  obtain ⟨n, hn, hle⟩ := exists_le_fndIndex rfl (by decide) h
  exact ⟨n, hn, iff_of_true (hpos.trans_le hle) hfree⟩

/-- Where the loop ends on as many bytes as the ring holds. -/
lemma fndIndex_pos_iff (hq : q.length + 1 = rbufSize) {rounds : ℕ} {e : ParseEnd Received}
    (h : pkfinderLoop ackFinder rs422FrameCheckAndProcess rbufSize q (rounds + 1) 0 0 .error s =
      some e) : ∃ n, e.fndIndex = some n ∧ (0 < n ↔ ¬ Wedged q) := by
  have htwo : ackFinder.headLen = 2 := rfl
  have hsize : rbufSize = 5120 := rfl
  have hhead : ackFinder.headAt q 0 ↔ q.take 2 = ackFinder.headBuf := by
    rw [headAt_iff, List.drop_zero]
  rw [pkfinderLoop, if_pos (by omega), List.drop_zero] at h
  by_cases hfirst : ackFinder.headAt q 0
  · -- the packet at the start decides
    have hwedged : Wedged q ↔ ackLen q = rbufSize := by
      rw [Wedged, ← hhead]
      exact and_iff_right hfirst
    rw [pkfinderFind_of_headAt_zero hfirst, measure_drop (Nat.zero_le _), List.drop_zero,
      if_neg (by omega)] at h
    by_cases hshort : q.length < ackLen q
    · rw [if_pos hshort] at h
      dsimp only at h
      by_cases hlong : rbufSize < ackLen q
      · rw [if_pos hlong] at h
        cases h
        exact ⟨_, rfl, iff_of_true (by omega) (by rw [hwedged]; omega)⟩
      · rw [if_neg hlong] at h
        cases h
        exact ⟨_, rfl, iff_of_false (by omega) (by rw [hwedged]; omega)⟩
    · rw [if_neg hshort] at h
      dsimp only at h
      have hpos : 11 ≤ ackLen q := Nat.le_add_left 11 _
      have hfree : ¬ Wedged q := by
        rw [hwedged]
        omega
      split_ifs at h
      · exact fndIndex_of_pos hfree (by omega) h
      · exact fndIndex_of_pos hfree (by omega) h
  · -- whatever is found, the first byte is not kept
    have hfree : ¬ Wedged q := fun hw => hfirst (hhead.2 hw.1)
    have hfound := foundAt_pkfinderFind (p := ackFinder) rfl (by decide) q 0
    generalize pkfinderFind ackFinder q 0 = res at h hfound
    have hpos {pkPos : ℕ} (hat : ackFinder.headAt q pkPos) : 0 < pkPos := by
      rcases Nat.eq_zero_or_pos pkPos with rfl | hpos
      · exact absurd hat hfirst
      · exact hpos
    cases hfound with
    | noHead =>
      cases h
      exact ⟨_, rfl, iff_of_true (by omega) hfree⟩
    | short pkLen hat =>
      have := hpos hat
      dsimp only at h
      split_ifs at h
      · cases h
        exact ⟨_, rfl, iff_of_true (by omega) hfree⟩
      · cases h
        exact ⟨_, rfl, iff_of_true (by omega) hfree⟩
    | whole pkLen hat =>
      have := hpos hat
      dsimp only at h
      split_ifs at h
      · exact fndIndex_of_pos hfree (by omega) h
      · exact fndIndex_of_pos hfree (by omega) h

/-! ### The ring -/

/-- A call takes bytes from the ring, and the ring takes bytes again. -/
def MakesRoom (r : RBuf) (s : Received) : Prop :=
  ∃ status r' s', pkfinderParse ackFinder rs422FrameCheckAndProcess rbufSize r s =
      some (status, r', s') ∧
    rBufNBytes r' < rBufNBytes r ∧ ∀ bs, bs ≠ [] → 0 < (rBufPut r' bs).2

/-- What a call leaves in a full ring. -/
lemma parse_full (hr : RBuf.HoldsIn rbufSize r q) (hfull : rBufIsFull r = true) (s : Received) :
    ∃ status r' s' n, pkfinderParse ackFinder rs422FrameCheckAndProcess rbufSize r s =
        some (status, r', s') ∧ RBuf.HoldsIn rbufSize r' (q.drop n) ∧ (0 < n ↔ ¬ Wedged q) := by
  have hlen := hr.1.isFull
  rw [hfull, hr.2, eq_comm, decide_eq_true_eq] at hlen
  have hsize : rbufSize = 5120 := rfl
  have hsome : (pkfinderParse ackFinder rs422FrameCheckAndProcess rbufSize r s).isSome :=
    pkfinderParse_isSome (by decide) rfl (by decide) r s
  obtain ⟨⟨status, r', s'⟩, hparse⟩ := Option.isSome_iff_exists.1 hsome
  have hend := hparse
  rw [pkfinderParse, parseBuf_eq hr] at hend
  obtain ⟨e, hloop, heq⟩ := Option.map_eq_some_iff.1 hend
  obtain ⟨n, hn, hiff⟩ := fndIndex_pos_iff (by omega) hloop
  rw [hn] at heq
  cases heq
  exact ⟨_, _, _, n, hparse, ⟨(hr.1.remove n).1, hr.2⟩, hiff⟩

/-- A call makes room in a full ring unless the ring starts with a packet whose length is that of
`parse_buf`: the ring can never hold all of it. -/
theorem full_ring_makesRoom_iff (hr : RBuf.HoldsIn rbufSize r q) (hfull : rBufIsFull r = true)
    (s : Received) : MakesRoom r s ↔ ¬ Wedged q := by
  obtain ⟨status, r', s', n, hparse, hrest, hiff⟩ := parse_full hr hfull s
  have hlen := hr.1.isFull
  rw [hfull, hr.2, eq_comm, decide_eq_true_eq] at hlen
  have hsize : rbufSize = 5120 := rfl
  rw [← hiff]
  constructor
  · rintro ⟨status₂, r₂, s₂, hparse₂, hless, -⟩
    rw [hparse] at hparse₂
    cases hparse₂
    rw [hrest.1.nBytes, hr.1.nBytes, List.length_drop] at hless
    omega
  · intro hpos
    refine ⟨status, r', s', hparse, ?_, fun bs hbs => ?_⟩
    · rw [hrest.1.nBytes, hr.1.nBytes, List.length_drop]
      omega
    · have hbytes := List.length_pos_iff.2 hbs
      rw [(hrest.1.put bs).2, hrest.2, List.length_drop]
      omega

/-- A ring that was filled from its start. -/
def filledRing (q : Bytes) : RBuf := ⟨q ++ [0], rbufSize, q.length, 0⟩

lemma filledRing_holds (hq : q.length + 1 = rbufSize) :
    RBuf.HoldsIn rbufSize (filledRing q) q ∧ rBufIsFull (filledRing q) = true := by
  have hsize : rbufSize = 5120 := rfl
  have hholds : (filledRing q).Holds q := by
    refine ⟨?_, ?_, ?_, ?_, ?_⟩
    · rw [filledRing, List.length_append, List.length_singleton, hq]
    · show q.length < rbufSize
      omega
    · show 0 < rbufSize
      omega
    · show rbufSize ≤ 2 ^ 31
      omega
    · have hle : (filledRing q).outIndex ≤ (filledRing q).inIndex := Nat.zero_le _
      rw [RBuf.queue, if_pos hle]
      exact List.take_left
  refine ⟨⟨hholds, rfl⟩, ?_⟩
  rw [hholds.isFull, decide_eq_true_eq]
  show q.length = rbufSize - 1
  omega

theorem full_ring_makesRoom_iff_zeros :
    MakesRoom (filledRing (List.replicate 5119 0)) ⟨[], false⟩ := by
  obtain ⟨n, hn⟩ : ∃ n : ℕ, n = 5117 := ⟨_, rfl⟩
  have hq : (List.replicate 5119 (0 : UInt8)) = 0 :: 0 :: List.replicate n 0 := by
    rw [hn]
    rfl
  have hlen : (0 :: 0 :: List.replicate n (0 : UInt8)).length + 1 = rbufSize := by
    rw [List.length_cons, List.length_cons, List.length_replicate, hn]
    rfl
  rw [hq]
  obtain ⟨hr, hfull⟩ := filledRing_holds hlen
  refine (full_ring_makesRoom_iff hr hfull ⟨[], false⟩).2 ?_
  rintro ⟨hhead, -⟩
  exact absurd (List.cons.inj hhead).1 (by decide)

/-- The first bytes of a packet of 5120 bytes. -/
def wedge : Bytes := [0x1A, 0xCF, 0x00, 0x00, 0x00, 0x00, 0x13, 0xF5]

/-- A ring that is full and starts with them is left as it is. -/
theorem full_ring_wedged :
    ¬ ∀ (r : RBuf) (q : Bytes) (s : Received), RBuf.HoldsIn rbufSize r q →
      rBufIsFull r = true → MakesRoom r s := by
  intro hall
  obtain ⟨n, hn⟩ : ∃ n : ℕ, n = 5111 := ⟨_, rfl⟩
  have hlen : (wedge ++ List.replicate n 0).length + 1 = rbufSize := by
    rw [List.length_append, List.length_replicate, hn]
    rfl
  have hwedged : Wedged (wedge ++ List.replicate n 0) := ⟨rfl, by
    have hfield : slice (wedge ++ List.replicate n 0) 6 2 = [0x13, 0xF5] := rfl
    rw [ackLen, hfield]
    rfl⟩
  obtain ⟨hr, hfull⟩ := filledRing_holds hlen
  obtain ⟨status, r', s', m, hparse, hrest, hiff⟩ := parse_full hr hfull ⟨[], false⟩
  obtain ⟨status₂, r₂, s₂, hparse₂, hless, -⟩ := hall _ _ ⟨[], false⟩ hr hfull
  rw [hparse] at hparse₂
  cases hparse₂
  have hzero : ¬ 0 < m := fun hpos => hiff.1 hpos hwedged
  rw [hrest.1.nBytes, hr.1.nBytes, List.length_drop] at hless
  omega

end AntennaMgmt.Rs422
