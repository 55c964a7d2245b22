import AntennaMgmt.Inject.Handlers

/-!
# The packets of a file

A file is cut into segments of 1 MiB, the last one possibly shorter, and each segment into packets
of 1000 bytes, the last one possibly shorter.  The packets in order are the file.
-/

namespace AntennaMgmt.Inject

open AntennaMgmt.Lib

/-- The number of segments of a file. -/
def segmentCount (size : ℕ) : ℕ := (size + fpgaSegmentSize - 1) / fpgaSegmentSize

/-- The length of a segment. -/
def segmentLength (size s : ℕ) : ℕ := min fpgaSegmentSize (size - s * fpgaSegmentSize)

/-- The number of packets of a segment. -/
def packetCount (size s : ℕ) : ℕ := (segmentLength size s + fpgaPacketSize - 1) / fpgaPacketSize

/-- Where a packet starts in the file. -/
def packetOffset (s k : ℕ) : ℕ := s * fpgaSegmentSize + k * fpgaPacketSize

/-- The length of a packet, which ends with its segment. -/
def packetLength (size s k : ℕ) : ℕ :=
  min fpgaPacketSize (segmentLength size s - k * fpgaPacketSize)

/-- The bytes of a packet. -/
def packetBytes (bytes : Bytes) (s k : ℕ) : Bytes :=
  slice bytes (packetOffset s k) (packetLength bytes.length s k)

/-- The packets before packet `k` of segment `s`. -/
def packetsBefore (size s k : ℕ) : List (ℕ × ℕ) :=
  (List.range s).flatMap (fun s => (List.range (packetCount size s)).map (s, ·)) ++
    (List.range k).map (s, ·)

/-- All packets of a file. -/
def allPackets (size : ℕ) : List (ℕ × ℕ) := packetsBefore size (segmentCount size) 0

@[simp] lemma packetsBefore_zero (size : ℕ) : packetsBefore size 0 0 = [] := rfl

lemma packetsBefore_succ (size s k : ℕ) :
    packetsBefore size s (k + 1) = packetsBefore size s k ++ [(s, k)] := by
  rw [packetsBefore, packetsBefore, List.range_succ, List.map_append, List.append_assoc]
  rfl

/-- After the last packet of a segment comes the first one of the next segment. -/
lemma packetsBefore_packetCount (size s : ℕ) :
    packetsBefore size s (packetCount size s) = packetsBefore size (s + 1) 0 := by
  simp [packetsBefore, List.range_succ]

/-- The largest file whose number of segments is computed without wrapping around. -/
def maxFileSize : ℕ := 2 ^ 32 - 2 ^ 20

/-- The sum in 32 bits gives the number of segments of a file that is not too large. -/
lemma totalSegmentsOf_eq {size : ℕ} (h : size ≤ maxFileSize) :
    totalSegmentsOf size = segmentCount size := by
  have hlt : size + fpgaSegmentSize - 1 < 2 ^ 32 := by
    unfold maxFileSize at h
    unfold fpgaSegmentSize
    omega
  rw [totalSegmentsOf, Nat.mod_eq_of_lt hlt, segmentCount]

/-- A wrapped sum gives no segment. -/
lemma totalSegmentsOf_wrapped {size : ℕ} (hlt : size < 2 ^ 32) (h : maxFileSize < size) :
    totalSegmentsOf size = 0 := by
  unfold maxFileSize at h
  unfold totalSegmentsOf fpgaSegmentSize
  omega

section lengths

variable {size s k : ℕ}

lemma lt_of_lt_segmentCount (h : s < segmentCount size) : s * fpgaSegmentSize < size := by
  simp only [segmentCount, fpgaSegmentSize] at h ⊢
  omega

lemma segmentCount_mul_le (h : segmentCount size ≤ s) : size ≤ s * fpgaSegmentSize := by
  simp only [segmentCount, fpgaSegmentSize] at h ⊢
  omega

lemma packetCount_le : packetCount size s ≤ 1049 := by
  simp only [packetCount, segmentLength, fpgaSegmentSize, fpgaPacketSize]
  omega

lemma packetCount_pos (h : s < segmentCount size) : 0 < packetCount size s := by
  have hlt := lt_of_lt_segmentCount h
  simp only [packetCount, segmentLength, fpgaSegmentSize, fpgaPacketSize] at hlt ⊢
  omega

end lengths

/-- Where the packets before packet `k` of segment `s` end. -/
def endBefore (size s k : ℕ) : ℕ :=
  s * fpgaSegmentSize + min (k * fpgaPacketSize) (segmentLength size s)

lemma endBefore_eq {size s k : ℕ} (h : k < packetCount size s) :
    endBefore size s k = packetOffset s k := by
  simp only [packetCount, endBefore, packetOffset, fpgaPacketSize] at h ⊢
  omega

lemma endBefore_succ (size s k : ℕ) :
    endBefore size s (k + 1) = endBefore size s k + packetLength size s k := by
  simp only [endBefore, packetLength, fpgaPacketSize]
  omega

/-- Within a segment, one packet after the other carries the file on. -/
lemma flatMap_packetsBefore_segment (bytes : Bytes) {s k : ℕ}
    (h : (packetsBefore bytes.length s 0).flatMap (fun p => packetBytes bytes p.1 p.2) =
      bytes.take (endBefore bytes.length s 0))
    (hk : k ≤ packetCount bytes.length s) :
    (packetsBefore bytes.length s k).flatMap (fun p => packetBytes bytes p.1 p.2) =
      bytes.take (endBefore bytes.length s k) := by
  induction k with
  | zero => exact h
  | succ k ih =>
    have hlt : k < packetCount bytes.length s := hk
    calc (packetsBefore bytes.length s (k + 1)).flatMap (fun p => packetBytes bytes p.1 p.2)
        = bytes.take (endBefore bytes.length s k) ++ packetBytes bytes s k := by
          rw [packetsBefore_succ, List.flatMap_append, ih hlt.le, List.flatMap_singleton]
      _ = bytes.take (endBefore bytes.length s (k + 1)) := by
          rw [endBefore_succ, List.take_add, packetBytes, slice, ← endBefore_eq hlt]

lemma endBefore_full {size s : ℕ} (h : s * fpgaSegmentSize + fpgaSegmentSize ≤ size) :
    endBefore size s (packetCount size s) = endBefore size (s + 1) 0 := by
  simp only [endBefore, packetCount, segmentLength, fpgaSegmentSize, fpgaPacketSize] at h ⊢
  omega

lemma endBefore_last {size s : ℕ} (h : size < s * fpgaSegmentSize + fpgaSegmentSize) :
    size ≤ endBefore size s (packetCount size s) ∧ size ≤ endBefore size (s + 1) 0 := by
  simp only [endBefore, packetCount, segmentLength, fpgaSegmentSize, fpgaPacketSize] at h ⊢
  omega

/-- The packets before a packet carry the file up to where they end. -/
lemma flatMap_packetsBefore (bytes : Bytes) (s : ℕ) {k : ℕ}
    (hk : k ≤ packetCount bytes.length s) :
    (packetsBefore bytes.length s k).flatMap (fun p => packetBytes bytes p.1 p.2) =
      bytes.take (endBefore bytes.length s k) := by
  induction s generalizing k with
  | zero => exact flatMap_packetsBefore_segment bytes (by simp [endBefore]) hk
  | succ s ih =>
    refine flatMap_packetsBefore_segment bytes ?_ hk
    rw [← packetsBefore_packetCount, ih le_rfl]
    -- either the segment is full or the file ends in it
    rcases le_or_gt (s * fpgaSegmentSize + fpgaSegmentSize) bytes.length with hfull | hlast
    · rw [endBefore_full hfull]
    · obtain ⟨hend, hend'⟩ := endBefore_last hlast
      rw [List.take_of_length_le hend, List.take_of_length_le hend']

/-- The packets of a file carry the file. -/
lemma flatMap_allPackets (bytes : Bytes) :
    (allPackets bytes.length).flatMap (fun p => packetBytes bytes p.1 p.2) = bytes := by
  rw [allPackets, flatMap_packetsBefore bytes _ (Nat.zero_le _)]
  have h := segmentCount_mul_le (le_refl (segmentCount bytes.length))
  exact List.take_of_length_le (by
    rw [endBefore]
    omega)

end AntennaMgmt.Inject
