import AntennaMgmt.Cpri.Ie
import AntennaMgmt.Fpga.Protocol

/-!
# Status queries

`status_query_create_response` takes one copy of the latest FPGA status and adds the response IEs
of each query IE to the payload: sixteen for a query of all beams, one for every other query it
knows.  `handle_status_query` encodes the response into a buffer of 2048 bytes.
-/

namespace AntennaMgmt.Query

open AntennaMgmt.Lib AntennaMgmt.Cpri AntennaMgmt.Fpga

/-! ### IE types -/

/-- `IE_TYPE_BEAM_STATUS_QUERY`. -/
def ieTypeBeamStatusQuery : UInt16 := 303

/-- `IE_TYPE_LO_STATUS_QUERY`. -/
def ieTypeLoStatusQuery : UInt16 := 304

/-- `IE_TYPE_CLOCK_STATUS_QUERY`. -/
def ieTypeClockStatusQuery : UInt16 := 305

/-- `IE_TYPE_RUN_STATUS_QUERY`. -/
def ieTypeRunStatusQuery : UInt16 := 306

/-- `IE_TYPE_CPRI_MODE_QUERY`. -/
def ieTypeCpriModeQuery : UInt16 := 307

/-- `IE_TYPE_CALIB_RESULT_QUERY`. -/
def ieTypeCalibResultQuery : UInt16 := 308

/-- `MSG_PAAU_STATUS_QUERY_RSP`. -/
def msgPaauStatusQueryRsp : ℕ := 42

/-- `MAX_PAYLOAD_SIZE`, and `MAX_RESPONSE_PAYLOAD_SIZE` of the parameter queries. -/
def maxPayloadSize : ℕ := 4096

/-- The buffer that a response is encoded into. -/
def queryBufferSize : ℕ := 2048

/-! ### Response IEs -/

/-- A number in the status data. -/
def statusNumber (status : FpgaStatusFrame) (field : ℕ × ℕ) : ℕ :=
  leNat (slice status.data field.1 field.2)

/-- The status of a beam in a response: 0 for enabled, 1 for disabled. -/
def beamStatus (status : Option FpgaStatusFrame) (beam : ℕ) : ℕ :=
  match status with
  | none => 1
  | some st => if (statusNumber st (54, 4)).testBit beam then 0 else 1

/-- `IE_TYPE_BEAM_STATUS_RESP` for one beam of a query of all beams. -/
def beamResp (status : Option FpgaStatusFrame) (beam : ℕ) : Element where
  type := 353
  data := [0, UInt8.ofNat beam] ++ leBytes 4 (beamStatus status beam)
  size_lt := by simp

/-- `IE_TYPE_BEAM_STATUS_RESP` for a query of one beam: only the first sixteen have a status. -/
def oneBeamResp (status : Option FpgaStatusFrame) (beam : ℕ) : Element :=
  if beam < 16 then beamResp status beam
  else
    { type := 353
      data := [0, UInt8.ofNat beam] ++ leBytes 4 1
      size_lt := by simp }

/-- `IE_TYPE_LO_STATUS_RESP`: the frequency in units of 100 kHz and the lock status. -/
def loResp (status : Option FpgaStatusFrame) : Element where
  type := 354
  data :=
    match status with
    | none => leBytes 4 21000 ++ leBytes 4 0
    | some st =>
      leBytes 4 (fpgaDecodeFrequency (statusNumber st (58, 4)) / 100) ++
        leBytes 4 (statusNumber st (62, 4))
  size_lt := by cases status <;> simp

/-- A response with one number of the status data, 0 when there is no status. -/
def numberResp (type : UInt16) (field : ℕ × ℕ) (status : Option FpgaStatusFrame) : Element where
  type := type
  data := leBytes 4 (status.elim 0 fun st => statusNumber st field)
  size_lt := by simp

/-- `IE_TYPE_CLOCK_STATUS_RESP`. -/
def clockResp : Option FpgaStatusFrame → Element := numberResp 355 (73, 4)

/-- `IE_TYPE_RUN_STATUS_RESP`. -/
def runResp : Option FpgaStatusFrame → Element := numberResp 356 (77, 4)

/-- `IE_TYPE_CPRI_MODE_RESP`. -/
def cpriResp : Option FpgaStatusFrame → Element := numberResp 357 (81, 4)

/-- The calibration result of a response; `reportReal` is `CALIB_QUERY_REPORT_REAL`. -/
def calibResult (reportReal : Bool) (status : Option FpgaStatusFrame) : UInt8 :=
  if reportReal = false then 0
  else match status with
    | none => 2
    | some st => if st.data.getD 85 0 = 0 then 0 else 1

/-- `IE_TYPE_CALIB_RESULT_RESP`. -/
def calibResp (reportReal : Bool) (status : Option FpgaStatusFrame) : Element where
  type := 358
  data := [calibResult reportReal status]
  size_lt := by simp

/-! ### The handler -/

/-- What the handler reads besides the request: the configuration item, and the copy of the
latest status, `none` when `fpga_handler_get_status` fails. -/
structure StatusEnv where
  reportReal : Bool
  status : Option FpgaStatusFrame
  mallocOk : ℕ → Bool

/-- `add_ie` of `status_query.c`. -/
def StatusEnv.addIe (e : StatusEnv) (x : Element) (p : IePayload) : IePayload :=
  Cpri.addIe maxPayloadSize e.mallocOk x p

/-- The beam number of a query, all beams when it names none. -/
def beamNumber (ieData : Bytes) : ℕ :=
  if 2 ≤ ieData.length then leNat (slice ieData 0 2) else 0xFFFF

/-- The body of the loop of `status_query_create_response`. -/
def statusQueryBody (e : StatusEnv) (ieType : UInt16) (ieData : Bytes) (p : IePayload) :
    IePayload :=
  if ieType = ieTypeBeamStatusQuery then
    if beamNumber ieData = 0xFFFF then
      (List.range 16).foldl (fun p i => e.addIe (beamResp e.status i) p) p
    else e.addIe (oneBeamResp e.status (beamNumber ieData)) p
  else if ieType = ieTypeLoStatusQuery then e.addIe (loResp e.status) p
  else if ieType = ieTypeClockStatusQuery then e.addIe (clockResp e.status) p
  else if ieType = ieTypeRunStatusQuery then e.addIe (runResp e.status) p
  else if ieType = ieTypeCpriModeQuery then e.addIe (cpriResp e.status) p
  else if ieType = ieTypeCalibResultQuery then e.addIe (calibResp e.reportReal e.status) p
  else p

/-- The header of the response to a status query. -/
def statusRspHeader (request : CpriHeader) : CpriHeader :=
  { request with msgId := msgPaauStatusQueryRsp, msgLength := 0 }

/-- `status_query_create_response`: the payload of the response. -/
def statusQueryCreateResponse (e : StatusEnv) (request : CpriMessage) : IePayload :=
  ieLoop (statusQueryBody e) request.payload 0 .empty

/-- `handle_status_query`: what is given to `tcp_client_send`. -/
def handleStatusQuery (e : StatusEnv) (request : CpriMessage) : Option Bytes :=
  respond queryBufferSize (statusRspHeader request.header) (statusQueryCreateResponse e request)

/-! ### What the response should be -/

/-- A query of all beams. -/
def AllBeams (x : Element) : Prop := x.type = ieTypeBeamStatusQuery ∧ beamNumber x.data = 0xFFFF

instance (x : Element) : Decidable (AllBeams x) := inferInstanceAs (Decidable (_ ∧ _))

/-- The response IEs that one query IE is owed. -/
def statusOwed (e : StatusEnv) (x : Element) : List Element :=
  if AllBeams x then (List.range 16).map (beamResp e.status)
  else if x.type = ieTypeBeamStatusQuery then [oneBeamResp e.status (beamNumber x.data)]
  else if x.type = ieTypeLoStatusQuery then [loResp e.status]
  else if x.type = ieTypeClockStatusQuery then [clockResp e.status]
  else if x.type = ieTypeRunStatusQuery then [runResp e.status]
  else if x.type = ieTypeCpriModeQuery then [cpriResp e.status]
  else if x.type = ieTypeCalibResultQuery then [calibResp e.reportReal e.status]
  else []

/-- The size of the response IEs to one query IE. -/
def statusRespSize (x : Element) : ℕ :=
  if AllBeams x then 160
  else if x.type = ieTypeBeamStatusQuery then 10
  else if x.type = ieTypeLoStatusQuery then 12
  else if x.type = ieTypeClockStatusQuery then 8
  else if x.type = ieTypeRunStatusQuery then 8
  else if x.type = ieTypeCpriModeQuery then 8
  else if x.type = ieTypeCalibResultQuery then 5
  else 0

/-- Two case distinctions over the same condition are related when their cases are. -/
lemma rel_ite {α β : Type*} {R : α → β → Prop} {c : Prop} [Decidable c] {a a' : α} {b b' : β}
    (h : c → R a b) (h' : ¬ c → R a' b') : R (if c then a else a') (if c then b else b') := by
  by_cases hc : c
  · rw [if_pos hc, if_pos hc]
    exact h hc
  · rw [if_neg hc, if_neg hc]
    exact h' hc

/-- The loop body adds the response IEs that the query IE is owed. -/
lemma statusQueryBody_eq (e : StatusEnv) (x : Element) (p : IePayload) :
    statusQueryBody e x.type x.data p = addAll maxPayloadSize e.mallocOk (statusOwed e x) p := by
  rw [statusQueryBody, statusOwed]
  by_cases hbeam : x.type = ieTypeBeamStatusQuery
  · by_cases hall : beamNumber x.data = 0xFFFF
    · have hallBeams : AllBeams x := ⟨hbeam, hall⟩
      rw [if_pos hbeam, if_pos hall, if_pos hallBeams, addAll, List.foldl_map]
      rfl
    · have hnot : ¬ AllBeams x := fun h => hall h.2
      rw [if_pos hbeam, if_neg hall, if_neg hnot, if_pos hbeam]
      rfl
  · have hnot : ¬ AllBeams x := fun h => hbeam h.1
    rw [if_neg hbeam, if_neg hnot, if_neg hbeam]
    split_ifs <;> rfl

/-- The response IEs of a request are added one after the other. -/
lemma foldl_statusQueryBody (e : StatusEnv) (xs : List Element) (p : IePayload) :
    xs.foldl (fun p x => statusQueryBody e x.type x.data p) p =
      addAll maxPayloadSize e.mallocOk (xs.flatMap (statusOwed e)) p := by
  induction xs generalizing p with
  | nil => rfl
  | cons x xs ih =>
    rw [List.foldl_cons, ih, statusQueryBody_eq, List.flatMap_cons, addAll, addAll, addAll,
      List.foldl_append]

/-- The size of the response IEs does not depend on what they say. -/
lemma length_statusOwed (e : StatusEnv) (x : Element) :
    ((statusOwed e x).flatMap Element.encode).length = statusRespSize x := by
  have hbeam : ∀ i, (beamResp e.status i).encode.length = 10 := by
    intro i
    simp [beamResp]
  have hone : ∀ i, (oneBeamResp e.status i).encode.length = 10 := by
    intro i
    rw [oneBeamResp]
    split_ifs
    · exact hbeam i
    · simp
  have hlo : (loResp e.status).encode.length = 12 := by
    rw [Element.length_encode]
    cases e.status <;> simp [loResp]
  have hnumber : ∀ type field, (numberResp type field e.status).encode.length = 8 := by
    intro type field
    simp [numberResp]
  have hcalib : (calibResp e.reportReal e.status).encode.length = 5 := by simp [calibResp]
  have hall : ((List.range 16).flatMap fun i => (beamResp e.status i).encode).length = 160 := by
    rw [List.length_flatMap, List.map_congr_left fun i _ => hbeam i, List.map_const',
      List.sum_replicate_nat, List.length_range]
  let Sized (owed : List Element) (n : ℕ) : Prop := (owed.flatMap Element.encode).length = n
  have hsingle : ∀ (y : Element) (n : ℕ), y.encode.length = n → Sized [y] n := by
    intro y n hn
    show ([y].flatMap Element.encode).length = n
    rw [List.flatMap_singleton, hn]
  show Sized (statusOwed e x) (statusRespSize x)
  -- the cases of the loop body, in its order
  refine rel_ite (R := Sized) (fun _ => ?_) fun _ => ?_
  · show (((List.range 16).map (beamResp e.status)).flatMap Element.encode).length = 160
    rw [List.flatMap_map, hall]
  refine rel_ite (R := Sized) (fun _ => hsingle _ _ (hone _)) fun _ => ?_
  refine rel_ite (R := Sized) (fun _ => hsingle _ _ hlo) fun _ => ?_
  refine rel_ite (R := Sized) (fun _ => hsingle _ _ (hnumber _ _)) fun _ => ?_
  refine rel_ite (R := Sized) (fun _ => hsingle _ _ (hnumber _ _)) fun _ => ?_
  refine rel_ite (R := Sized) (fun _ => hsingle _ _ (hnumber _ _)) fun _ => ?_
  exact rel_ite (R := Sized) (fun _ => hsingle _ _ hcalib) fun _ => rfl

/-- A query is answered in full when its response IEs fit the encode buffer and there is a
buffer for the first of them. -/
lemma queryAnswered_iff {mallocOk : ℕ → Bool} {header : CpriHeader} {xs : List Element} {n : ℕ}
    (hn : (xs.flatMap Element.encode).length = n) :
    AnsweredBy (respond queryBufferSize header (addAll maxPayloadSize mallocOk xs .empty))
      header xs ↔ n ≤ 2033 ∧ (n = 0 ∨ mallocOk 0 = true) := by
  have hmax : cpriHeaderLen + maxPayloadSize < 2 ^ 32 := by
    norm_num [cpriHeaderLen, maxPayloadSize]
  have hbuffer : queryBufferSize ≤ cpriHeaderLen + maxPayloadSize := by
    norm_num [queryBufferSize, cpriHeaderLen, maxPayloadSize]
  have hroom : cpriHeaderLen + n ≤ queryBufferSize ↔ n ≤ 2033 := by
    simp only [cpriHeaderLen, queryBufferSize]
    omega
  rw [answeredBy_respond_iff hmax hbuffer, ← Element.length_flatMap_encode_eq_zero, hn, hroom]

/-- Which status queries are answered in full. -/
lemma statusAnswered_iff (e : StatusEnv) (request : CpriMessage) :
    let size := ((elements request.payload).map statusRespSize).sum
    AnsweredBy (handleStatusQuery e request) (statusRspHeader request.header)
        ((elements request.payload).flatMap (statusOwed e)) ↔
      size ≤ 2033 ∧ (size = 0 ∨ e.mallocOk 0 = true) := by
  intro size
  have hsize : (((elements request.payload).flatMap (statusOwed e)).flatMap
      Element.encode).length = size := by
    rw [List.flatMap_assoc, List.length_flatMap]
    exact congrArg List.sum (List.map_congr_left fun x _ => length_statusOwed e x)
  rw [handleStatusQuery, statusQueryCreateResponse, ieLoop_eq, List.drop_zero,
    foldl_statusQueryBody, queryAnswered_iff hsize]

end AntennaMgmt.Query
