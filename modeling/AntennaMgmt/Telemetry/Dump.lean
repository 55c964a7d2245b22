import AntennaMgmt.Fpga.Reset

/-!
# The dump tool

`dump_telemetry.py` decodes the telemetry log: its `parse` cuts the file into frames.  It is a
splitter of its own, written in another language than the receiver, and it gets right what the
receiver stores: nothing in the data of a frame, headers and tails included, leads it astray, and
a file that ends within a frame costs it this frame alone.
-/

namespace AntennaMgmt.Telemetry

open AntennaMgmt.Lib AntennaMgmt.Fpga

/-! ### The tool -/

/-- `HDR`. -/
def hdr : Bytes := [0xEB, 0x93]

/-- `TAIL`. -/
def tail : Bytes := [0x55, 0x55]

/-- `SRC_LEN.get`. -/
def srcLen (src : UInt8) : Option ℕ :=
  if src = 0xA1 then some 127
  else if src = 0xB1 ∨ src = 0xB2 then some 146
  else none

/-- An entry of `frames`. -/
structure DumpFrame where
  offset : ℕ
  src : UInt8
  dataLen : ℕ
  frameBytes : Bytes
deriving DecidableEq, Repr

/-- What an entry of `errors` says, with the values that its text shows. -/
inductive DumpFault
  | halfHeader
  | notHeader (byte : UInt8)
  | noLength
  | incomplete (total left : ℕ)
  | badTail (found : Bytes)
  | unknownSource (src : UInt8)
  | wrongLength (src : UInt8) (dataLen expect : ℕ)
deriving DecidableEq, Repr

/-- An entry of `errors`. -/
abbrev DumpError := ℕ × DumpFault

/-- The errors that a frame is kept with. -/
def lengthErrors (i : ℕ) (src : UInt8) (dlen : ℕ) : List DumpError :=
  match srcLen src with
  | none => [(i, .unknownSource src)]
  | some expect => if expect ≠ dlen then [(i, .wrongLength src dlen expect)] else []

/-- The loop of `parse` from the offset `i` on: the frames and the errors that it appends. -/
def parseFrom (data : Bytes) (i : ℕ) : List DumpFrame × List DumpError :=
  if i < data.length then
    if slice data i 2 ≠ hdr then
      -- the last byte may be half a header that was cut
      if data.getD i 0 = 0xEB ∧ data.length ≤ i + 1 then ([], [(i, .halfHeader)])
      else
        let later := parseFrom data (i + 1)
        (later.1, (i, .notHeader (data.getD i 0)) :: later.2)
    else if data.length < i + 4 then ([], [(i, .noLength)])
    else
      let src := data.getD (i + 2) 0
      let dlen := (data.getD (i + 3) 0).toNat
      let total := 6 + dlen
      if data.length < i + total then ([], [(i, .incomplete total (data.length - i))])
      else if slice data (i + total - 2) 2 ≠ tail then
        let later := parseFrom data (i + 1)
        (later.1, (i, .badTail (slice data (i + total - 2) 2)) :: later.2)
      else
        let later := parseFrom data (i + total)
        (⟨i, src, dlen, slice data i total⟩ :: later.1, lengthErrors i src dlen ++ later.2)
  else ([], [])
termination_by data.length - i

/-- `parse`. -/
def parse (data : Bytes) : List DumpFrame × List DumpError := parseFrom data 0

/-! ### What the receiver stores -/

/-- The receive thread, in some state and at some read, hands the frame on as telemetry. -/
def Accepted (frame : Bytes) : Prop :=
  ∃ frameBuffer buffer : Bytes, ∃ next : Bytes × List Callback,
    uartRecv frameBuffer buffer = some next ∧ .onTelemetryLogFrame frame ∈ next.2

/-- The entries of `frames` for frames that follow one another from an offset on. -/
def framesAt (offset : ℕ) : List Bytes → List DumpFrame
  | [] => []
  | f :: fs => ⟨offset, f.getD 2 0, f.length - 6, f⟩ :: framesAt (offset + f.length) fs

/-- What is handed on as telemetry was found by the scanner. -/
lemma exists_judge_of_accepted {f : Bytes} (hf : Accepted f) :
    f.take 2 = hdr ∧ ∃ t, judge (f ++ t) = .take f.length := by
  obtain ⟨frameBuffer, buffer, next, hrecv, hmem⟩ := hf
  simp only [uartRecv] at hrecv
  generalize (if frameBufferSize < frameBuffer.length + buffer.length then [] else frameBuffer) = fb
    at hrecv
  split_ifs at hrecv
  · obtain rfl := Option.some.inj hrecv
    simp at hmem
  · obtain rfl := Option.some.inj hrecv
    simp at hmem
  · have hscans : LoopScans (fb ++ buffer) (splitLoop (fb ++ buffer) ((fb ++ buffer).length + 1) 0)
        ((fb ++ buffer).drop 0) := splitLoop_scans (Nat.zero_le _) (by omega)
    obtain ⟨processed, -, hloop, -⟩ := hscans
    rw [hloop, Option.map_some, flatMap_handleFrame] at hrecv
    obtain rfl := Option.some.inj hrecv
    obtain ⟨g, hg, hcall⟩ := List.mem_map.1 hmem
    -- only a telemetry frame is meant for this callback, and it is handed on as it stands
    have htake : g.take 2 = [0xEB, 0x93] ∧ g = f := by
      unfold callbackOf at hcall
      split_ifs at hcall with hhead
      exact ⟨hhead, Callback.onTelemetryLogFrame.inj hcall⟩
    obtain ⟨hhead, rfl⟩ := htake
    exact ⟨hhead, ScanFormat.judge_of_mem_scan hg⟩

/-- The layout of a telemetry frame: a source on the white list with its length, as many bytes of
any kind, and the tail. -/
def IsTelemetryFrame (f : Bytes) : Prop :=
  ∃ (source length : UInt8) (data : Bytes), whiteListed source length ∧
    data.length = length.toNat ∧ f = [0xEB, 0x93, source, length] ++ data ++ [0x55, 0x55]

/-- The frames that are handed on as telemetry are those of the layout. -/
lemma accepted_iff {f : Bytes} : Accepted f ↔ IsTelemetryFrame f := by
  constructor
  · intro hf
    obtain ⟨hhead, t, ht⟩ := exists_judge_of_accepted hf
    obtain ⟨kind, c, d, rest, hshape, -, hcand, htail⟩ := judge_frame ht
    obtain rfl : kind = 0x93 := by simpa [hshape, hdr] using hhead
    rw [candidateLen, if_neg (by decide)] at hcand
    obtain ⟨hlisted, hlen⟩ := Option.ite_none_right_eq_some.1 hcand
    replace hlen : 6 + d.toNat = f.length := Option.some.inj hlen
    have hrest : rest.length = d.toNat + 2 := by
      simp only [hshape, List.length_cons] at hlen
      omega
    have htwo : rest.drop d.toNat = [0x55, 0x55] := by
      rw [← hlen, slice, hshape, show 6 + d.toNat - 2 = d.toNat + 4 by omega] at htail
      simpa [List.take_of_length_le, hrest] using htail
    refine ⟨c, d, rest.take d.toNat, hlisted, List.length_take_of_le (by omega), ?_⟩
    rw [← htwo, List.append_assoc, List.take_append_drop, hshape]
    rfl
  · rintro ⟨source, length, data, hlisted, hdata, rfl⟩
    have hintact := IsIntact.telemetry hlisted hdata
    have hbyte := length.toNat_lt
    have hsize : ([0xEB, 0x93, source, length] ++ data ++ [0x55, 0x55] : Bytes).length =
        6 + length.toNat := by
      simp [hdata]
      omega
    have hhead : ([0xEB, 0x93, source, length] ++ data ++ [0x55, 0x55] : Bytes).take 2 =
        [0xEB, 0x93] := rfl
    generalize [0xEB, 0x93, source, length] ++ data ++ [0x55, 0x55] = f at *
    have hjudge : fpgaFormat.judge f = .take f.length := hintact.judge_eq
    have hne : f ≠ [] := List.length_pos_iff.1 (by omega)
    have hfits : ([] : Bytes).length + f.length ≤ frameBufferSize := by
      rw [List.length_nil, frameBufferSize]
      omega
    have hrecv := uartRecv_eq hne hfits
    rw [List.nil_append, ScanFormat.scan_take hjudge, List.take_length] at hrecv
    refine ⟨[], f, _, hrecv, ?_⟩
    simp [callbackOf, hhead]

/-! ### The tool reads a frame -/

section Reads

variable {data rest : Bytes} {i : ℕ}

lemma slice_of_drop_eq (h : data.drop i = rest) (k w : ℕ) :
    slice data (i + k) w = slice rest k w := by
  rw [slice, slice, ← h, List.drop_drop]

lemma getD_of_drop_eq (h : data.drop i = rest) (k : ℕ) :
    data.getD (i + k) 0 = rest.getD k 0 := by
  simp [← h, List.getD_eq_getElem?_getD]

/-- A listed source has the length that the tool expects. -/
lemma lengthErrors_of_whiteListed {source length : UInt8} (h : whiteListed source length) :
    lengthErrors i source length.toNat = [] := by
  simp only [whiteListed, Bool.decide_or, Bool.decide_and, Bool.or_eq_true, Bool.and_eq_true,
    decide_eq_true_eq] at h
  rcases h with ⟨rfl, rfl⟩ | ⟨rfl | rfl, rfl⟩ <;> rfl

/-- A frame of the layout is read as it stands, whatever is in its data. -/
lemma parseFrom_frame {f : Bytes} (hf : IsTelemetryFrame f) (h : data.drop i = f ++ rest) :
    parseFrom data i = (⟨i, f.getD 2 0, f.length - 6, f⟩ :: (parseFrom data (i + f.length)).1,
      (parseFrom data (i + f.length)).2) := by
  obtain ⟨source, length, bytes, hlisted, hbytes, hshape⟩ := hf
  have hlen : f.length = 6 + length.toNat := by
    simp [hshape, hbytes]
    omega
  have hsize : data.length - i = f.length + rest.length := by
    rw [← List.length_drop, h, List.length_append]
  have hheader : slice data i 2 = hdr := by
    rw [← Nat.add_zero i, slice_of_drop_eq h, hshape]
    rfl
  have hsource : data.getD (i + 2) 0 = source := by
    rw [getD_of_drop_eq h, hshape]
    rfl
  have hlength : data.getD (i + 3) 0 = length := by
    rw [getD_of_drop_eq h, hshape]
    rfl
  have hframe : slice data i (6 + length.toNat) = f := by
    rw [← Nat.add_zero i, slice_of_drop_eq h, ← hlen]
    exact List.take_left
  have htail : slice data (i + (6 + length.toNat) - 2) 2 = tail := by
    have hpos : ([0xEB, 0x93, source, length] ++ bytes : Bytes).length = 4 + length.toNat := by
      simp [hbytes]
      omega
    rw [show i + (6 + length.toNat) - 2 = i + (4 + length.toNat) by omega, slice_of_drop_eq h,
      hshape, slice, List.append_assoc, ← hpos, List.drop_left]
    rfl
  rw [parseFrom, if_pos (by omega), if_neg (not_not.2 hheader), if_neg (by omega)]
  simp only [hsource, hlength]
  rw [if_neg (by omega), if_neg (not_not.2 htail), hframe, lengthErrors_of_whiteListed hlisted,
    hlen, hshape]
  simp

/-- A file that ends within a frame is read up to this frame. -/
lemma parseFrom_torn {f p : Bytes} (hf : IsTelemetryFrame f) (hp : p <+: f) (hne : p ≠ [])
    (hproper : p ≠ f) (h : data.drop i = p) : ∃ fault, parseFrom data i = ([], [(i, fault)]) := by
  obtain ⟨q, hq⟩ := hp
  obtain ⟨source, length, bytes, -, hbytes, hshape⟩ := hf
  have hshort : p.length < 6 + length.toNat := by
    have hlen := congrArg List.length (hq.trans hshape)
    have hpos : 0 < q.length := List.length_pos_iff.2 fun hnil => hproper (by simpa [hnil] using hq)
    simp [hbytes] at hlen
    omega
  have hsize : data.length - i = p.length := by rw [← List.length_drop, h]
  have hpos : 0 < p.length := List.length_pos_iff.2 hne
  rw [parseFrom, if_pos (by omega)]
  rcases p with _ | ⟨a, _ | ⟨b, p⟩⟩
  · exact absurd rfl hne
  · -- half a header
    have hbyte : data.getD i 0 = 0xEB := by
      rw [← Nat.add_zero i, getD_of_drop_eq h]
      simpa [hshape] using (congrArg List.head? hq)
    have hheader : slice data i 2 ≠ hdr := by
      rw [← Nat.add_zero i, slice_of_drop_eq h]
      simp [slice, hdr]
    rw [if_pos hheader, if_pos ⟨hbyte, by simp at hsize; omega⟩]
    exact ⟨_, rfl⟩
  · have hheader : slice data i 2 = hdr := by
      rw [hshape] at hq
      simp at hq
      rw [← Nat.add_zero i, slice_of_drop_eq h]
      simp [slice, hdr, hq]
    rw [if_neg (not_not.2 hheader)]
    by_cases hfour : data.length < i + 4
    · rw [if_pos hfour]
      exact ⟨_, rfl⟩
    -- the length can be read, and asks for more than is there
    have hlength : data.getD (i + 3) 0 = length := by
      have hmore : 2 ≤ p.length := by
        simp at hsize
        omega
      rw [getD_of_drop_eq h]
      rcases p with _ | ⟨c, _ | ⟨d, p⟩⟩
      · simp at hmore
      · simp at hmore
      · rw [hshape] at hq
        simp at hq
        simp [hq]
    rw [if_neg hfour]
    simp only [hlength]
    rw [if_pos (by omega)]
    exact ⟨_, rfl⟩

end Reads

/-! ### The tool reads a file -/

/-- Frames that follow one another are read one by one, and then what comes behind them. -/
lemma parseFrom_flatten {frames : List Bytes} (hframes : ∀ f ∈ frames, IsTelemetryFrame f)
    {data rest : Bytes} {i : ℕ} (h : data.drop i = frames.flatten ++ rest) :
    parseFrom data i = (framesAt i frames ++ (parseFrom data (i + frames.flatten.length)).1,
      (parseFrom data (i + frames.flatten.length)).2) := by
  induction frames generalizing i with
  | nil => rfl
  | cons f fs ih =>
    rw [List.flatten_cons, List.append_assoc] at h
    have hlater : data.drop (i + f.length) = fs.flatten ++ rest := by
      rw [← List.drop_drop, h, List.drop_left]
    have hread := parseFrom_frame (hframes f List.mem_cons_self) h
    rw [hread, ih (fun g hg => hframes g (List.mem_cons_of_mem f hg)) hlater,
      List.flatten_cons, List.length_append, Nat.add_assoc]
    rfl

/-- Nothing is read behind the end. -/
lemma parseFrom_end (data : Bytes) : parseFrom data data.length = ([], []) := by
  rw [parseFrom, if_neg (lt_irrefl _)]

/-- **The dump tool decodes what the receiver stores.**  A file of frames that the receive thread
hands on as telemetry is decoded into these frames, each at its offset with its source and its
length, without an error; behind them a proper part of one more frame costs one error, at its
offset. -/
theorem parse_accepted {frames : List Bytes} (hframes : ∀ f ∈ frames, Accepted f) :
    parse frames.flatten = (framesAt 0 frames, []) ∧
      ∀ f p : Bytes, Accepted f → p <+: f → p ≠ [] → p ≠ f → ∃ fault,
        parse (frames.flatten ++ p) = (framesAt 0 frames, [(frames.flatten.length, fault)]) := by
  have hlayout (f : Bytes) (hf : f ∈ frames) : IsTelemetryFrame f := accepted_iff.1 (hframes f hf)
  constructor
  · have hall : frames.flatten.drop 0 = frames.flatten ++ [] := (List.append_nil _).symm
    rw [parse, parseFrom_flatten hlayout hall, Nat.zero_add, parseFrom_end, List.append_nil]
  · intro f p hf hp hne hproper
    have hall : (frames.flatten ++ p).drop 0 = frames.flatten ++ p := rfl
    have hrest : (frames.flatten ++ p).drop frames.flatten.length = p := List.drop_left
    obtain ⟨fault, htorn⟩ := parseFrom_torn (accepted_iff.1 hf) hp hne hproper hrest
    refine ⟨fault, ?_⟩
    rw [parse, parseFrom_flatten hlayout hall, Nat.zero_add, htorn, List.append_nil]

/-- A frame from the source A1 whose data begin with a header and a tail. -/
def v7aFrame : Bytes :=
  [0xEB, 0x93, 0xA1, 127] ++ ([0xEB, 0x93, 0x55, 0x55] ++ List.replicate 123 0) ++ [0x55, 0x55]

lemma v7aFrame_isTelemetryFrame : IsTelemetryFrame v7aFrame :=
  ⟨0xA1, 127, _, rfl, by simp, rfl⟩

/-- Two such frames, and the first three bytes of a third. -/
theorem parse_accepted_v7aFrame :
    parse [v7aFrame, v7aFrame].flatten =
        ([⟨0, 0xA1, 127, v7aFrame⟩, ⟨133, 0xA1, 127, v7aFrame⟩], []) ∧
      ∃ fault, parse ([v7aFrame, v7aFrame].flatten ++ [0xEB, 0x93, 0xA1]) =
        ([⟨0, 0xA1, 127, v7aFrame⟩, ⟨133, 0xA1, 127, v7aFrame⟩], [(266, fault)]) := by
  have haccepted := accepted_iff.2 v7aFrame_isTelemetryFrame
  have hlen : v7aFrame.length = 133 := by simp [v7aFrame]
  have hframes : framesAt 0 [v7aFrame, v7aFrame] =
      [⟨0, 0xA1, 127, v7aFrame⟩, ⟨133, 0xA1, 127, v7aFrame⟩] := by
    simp [framesAt, hlen]
    rfl
  have hall : [v7aFrame, v7aFrame].flatten.length = 266 := by simp [hlen]
  have hboth : ∀ f ∈ [v7aFrame, v7aFrame], Accepted f := by simpa
  obtain ⟨hwhole, htorn⟩ := parse_accepted hboth
  rw [hframes] at hwhole
  refine ⟨hwhole, ?_⟩
  obtain ⟨fault, hfault⟩ := htorn v7aFrame [0xEB, 0x93, 0xA1] haccepted ⟨_, rfl⟩ (by simp) (by
    intro hsame
    simp [← hsame] at hlen)
  rw [hframes, hall] at hfault
  exact ⟨fault, hfault⟩

end AntennaMgmt.Telemetry
