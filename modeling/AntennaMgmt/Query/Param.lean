import AntennaMgmt.Query.Status

/-!
# Parameter queries

`param_query_handle_request` goes through the payload with a loop of its own and reads the clock,
the CPU statistics and the FPGA status anew for each query IE.  A query of the system time is not
answered when the clock cannot be converted; the other queries always have a response IE.
-/

namespace AntennaMgmt.Query

open AntennaMgmt.Lib AntennaMgmt.Cpri AntennaMgmt.Fpga

/-! ### IE types -/

/-- `IE_TYPE_SYSTEM_TIME_QUERY`. -/
def ieTypeSystemTimeQuery : UInt16 := 401

/-- `IE_TYPE_CPU_USAGE_QUERY`. -/
def ieTypeCpuUsageQuery : UInt16 := 402

/-- `IE_TYPE_CPU_PERIOD_QUERY`. -/
def ieTypeCpuPeriodQuery : UInt16 := 403

/-- `IE_TYPE_TEMP_QUERY`. -/
def ieTypeTempQuery : UInt16 := 404

/-- `IE_TYPE_TEMP_THRESHOLD_QUERY`. -/
def ieTypeTempThresholdQuery : UInt16 := 407

/-- `IE_TYPE_OUTPUT_POWER_QUERY`. -/
def ieTypeOutputPowerQuery : UInt16 := 408

/-- `IE_TYPE_TOFFSET_QUERY`. -/
def ieTypeToffsetQuery : UInt16 := 409

/-- `IE_TYPE_T2A_QUERY`. -/
def ieTypeT2aQuery : UInt16 := 410

/-- `IE_TYPE_TA3_QUERY`. -/
def ieTypeTa3Query : UInt16 := 411

/-- `MSG_PAAU_PARAM_QUERY_RSP`. -/
def msgPaauParamQueryRsp : ℕ := 52

/-! ### Response IEs -/

/-- `struct tm`. -/
structure Tm where
  sec : ℕ
  min : ℕ
  hour : ℕ
  mday : ℕ
  mon : ℕ
  year : ℕ
deriving DecidableEq, Repr

/-- What the handlers of one query IE read: `localtime_r`, `none` when it fails, the two numbers
of the CPU statistics, and the FPGA status. -/
structure ParamEnv where
  localtime : Option Tm
  cpuUsage : ℕ
  cpuPeriod : ℕ
  status : Option FpgaStatusFrame

/-- `system_time_resp_ie_t`. -/
def systemTimeResp (t : Tm) : Element where
  type := 11
  data := [UInt8.ofNat t.sec, UInt8.ofNat t.min, UInt8.ofNat t.hour, UInt8.ofNat t.mday,
    UInt8.ofNat (t.mon + 1)] ++ leBytes 2 (t.year + 1900)
  size_lt := by simp

/-- `cpu_usage_resp_ie_t`. -/
def cpuUsageResp (e : ParamEnv) : Element where
  type := 451
  data := leBytes 4 e.cpuUsage
  size_lt := by simp

/-- `cpu_period_resp_ie_t`. -/
def cpuPeriodResp (e : ParamEnv) : Element where
  type := 452
  data := leBytes 4 e.cpuPeriod
  size_lt := by simp

/-- The byte of the status data for one of the three temperature points; `offset` gives the
place of it, and there is a value for the other points and for want of a status. -/
def pointByte (e : ParamEnv) (offset : ℕ → ℕ) (default tempPoint : UInt8) : UInt8 :=
  match e.status with
  | none => default
  | some st => if tempPoint < 3 then st.data.getD (offset tempPoint.toNat) 0 else default

/-- `temp_resp_ie_t`. -/
def tempResp (e : ParamEnv) (tempPoint : UInt8) : Element where
  type := 453
  data := [tempPoint, pointByte e (104 + ·) 0 tempPoint]
  size_lt := by simp

/-- `temp_threshold_resp_ie_t`: 85 and -40 degrees where the status does not say. -/
def tempThresholdResp (e : ParamEnv) (tempPoint : UInt8) : Element where
  type := 456
  data := [tempPoint, pointByte e (107 + 2 * ·) 85 tempPoint,
    pointByte e (108 + 2 * ·) 216 tempPoint]
  size_lt := by simp

/-- `output_power_resp_ie_t`. -/
def outputPowerResp (e : ParamEnv) : Element where
  type := 457
  data := [0] ++ leBytes 2 (e.status.elim 0 fun st => statusNumber st (48, 2))
  size_lt := by simp

/-- `toffset_resp_ie_t`. -/
def toffsetResp (e : ParamEnv) : Element := numberResp 458 (87, 4) e.status

/-- `t2a_resp_ie_t`. -/
def t2aResp (e : ParamEnv) : Element := numberResp 459 (91, 4) e.status

/-- `ta3_resp_ie_t`. -/
def ta3Resp (e : ParamEnv) : Element := numberResp 460 (95, 4) e.status

/-! ### The handler -/

/-- The loop of `param_query_handle_request` over the payload from an offset on. -/
def paramQueryLoop {σ : Type*} (body : UInt16 → Bytes → σ → σ) (payload : Bytes) (offset : ℕ)
    (s : σ) : σ :=
  if offset < payload.length then
    if offset + 4 ≤ payload.length then
      let ieType := UInt16.ofNat (leNat (slice payload offset 2))
      let ieLen := leNat (slice payload (offset + 2) 2)
      -- `ie_len - 4` in 16 bits
      let ieDataLen := (ieLen + 65532) % 65536
      if offset + 4 + ieDataLen ≤ payload.length then
        paramQueryLoop body payload (offset + 4 + ieDataLen)
          (body ieType (slice payload (offset + 4) ieDataLen) s)
      else s
    else s
  else s
termination_by payload.length - offset
decreasing_by omega

/-- On payloads of less than 65532 bytes the loop is the one of the other handlers. -/
lemma paramQueryLoop_eq {σ : Type*} (body : UInt16 → Bytes → σ → σ) {payload : Bytes}
    (hlen : payload.length < 65532) (offset : ℕ) (s : σ) :
    paramQueryLoop body payload offset s = ieLoop body payload offset s := by
  have hshort : ∀ o, leNat (slice payload o 2) < 65536 := by
    intro o
    have hcut : (slice payload o 2).length ≤ 2 := List.length_take_le _ _
    exact (leNat_lt _).trans_le (Nat.pow_le_pow_right (by norm_num) hcut)
  induction offset, s using paramQueryLoop.induct body payload with
  | case1 offset s hin hroom ieType ieLen ieDataLen hdata ih =>
    have hlt : ieLen < 65536 := hshort (offset + 2)
    have hvalue : ieDataLen = (ieLen + 65532) % 65536 := rfl
    have hieLen : 4 ≤ ieLen ∧ offset + ieLen ≤ payload.length := by omega
    have hdataLen : ieDataLen = ieLen - 4 := by omega
    have hnext : offset + 4 + ieDataLen = offset + ieLen := by omega
    rw [paramQueryLoop, if_pos hin, if_pos hroom, if_pos hdata, ih, ieLoop.eq_def body payload
      offset, if_pos hroom, if_pos hieLen, hnext, hdataLen]
  | case2 offset s hin hroom ieLen ieDataLen hdata =>
    have hlt : ieLen < 65536 := hshort (offset + 2)
    have hvalue : ieDataLen = (ieLen + 65532) % 65536 := rfl
    have hieLen : ¬ (4 ≤ ieLen ∧ offset + ieLen ≤ payload.length) := by omega
    rw [paramQueryLoop, if_pos hin, if_pos hroom, if_neg hdata, ieLoop, if_pos hroom,
      if_neg hieLen]
  | case3 offset s hin hroom =>
    rw [paramQueryLoop, if_pos hin, if_neg hroom, ieLoop, if_neg hroom]
  | case4 offset s hin =>
    rw [paramQueryLoop, if_neg hin, ieLoop, if_neg (by omega)]

/-- A request as it is worked off: the payload of the response and the number of IEs seen. -/
structure Querying where
  payload : IePayload
  seen : ℕ

/-- `add_response_ie`, for the handlers that always have a response IE. -/
def addResponseIe (mallocOk : ℕ → Bool) (x : Element) (p : IePayload) : IePayload :=
  addIe maxPayloadSize mallocOk x p

/-- `param_query_handle_system_time`. -/
def handleSystemTime (mallocOk : ℕ → Bool) (e : ParamEnv) (p : IePayload) : IePayload :=
  match e.localtime with
  | none => p
  | some t => addResponseIe mallocOk (systemTimeResp t) p

/-- The `switch` in the loop of `param_query_handle_request`. -/
def paramQuerySwitch (mallocOk : ℕ → Bool) (e : ParamEnv) (ieType : UInt16) (ieData : Bytes)
    (p : IePayload) : IePayload :=
  if ieType = ieTypeSystemTimeQuery then handleSystemTime mallocOk e p
  else if ieType = ieTypeCpuUsageQuery then addResponseIe mallocOk (cpuUsageResp e) p
  else if ieType = ieTypeCpuPeriodQuery then addResponseIe mallocOk (cpuPeriodResp e) p
  else if ieType = ieTypeTempQuery then
    if 1 ≤ ieData.length then addResponseIe mallocOk (tempResp e (ieData.getD 0 0)) p else p
  else if ieType = ieTypeTempThresholdQuery then
    if 1 ≤ ieData.length then addResponseIe mallocOk (tempThresholdResp e (ieData.getD 0 0)) p
    else p
  else if ieType = ieTypeOutputPowerQuery then
    if 2 ≤ ieData.length then addResponseIe mallocOk (outputPowerResp e) p else p
  else if ieType = ieTypeToffsetQuery then addResponseIe mallocOk (toffsetResp e) p
  else if ieType = ieTypeT2aQuery then addResponseIe mallocOk (t2aResp e) p
  else if ieType = ieTypeTa3Query then addResponseIe mallocOk (ta3Resp e) p
  else p

/-- The body of the loop. -/
def paramQueryBody (mallocOk : ℕ → Bool) (env : ℕ → ParamEnv) (ieType : UInt16) (ieData : Bytes)
    (r : Querying) : Querying :=
  ⟨paramQuerySwitch mallocOk (env r.seen) ieType ieData r.payload, r.seen + 1⟩

/-- The header of the response to a parameter query. -/
def paramRspHeader (request : CpriHeader) : CpriHeader :=
  { request with msgId := msgPaauParamQueryRsp, msgLength := 0 }

/-- `param_query_handle_request`: the payload of the response. -/
def paramQueryHandleRequest (mallocOk : ℕ → Bool) (env : ℕ → ParamEnv) (request : CpriMessage) :
    IePayload :=
  (paramQueryLoop (paramQueryBody mallocOk env) request.payload 0 ⟨.empty, 0⟩).payload

/-- `handle_param_query`: what is given to `tcp_client_send`. -/
def handleParamQuery (mallocOk : ℕ → Bool) (env : ℕ → ParamEnv) (request : CpriMessage) :
    Option Bytes :=
  respond queryBufferSize (paramRspHeader request.header)
    (paramQueryHandleRequest mallocOk env request)

/-! ### What the response should be -/

/-- The response IE that one query IE is owed, if it is recognised; `none` stands for one that
cannot be built for want of the time. -/
def paramOwed (e : ParamEnv) (x : Element) : List (Option Element) :=
  if x.type = ieTypeSystemTimeQuery then [e.localtime.map systemTimeResp]
  else if x.type = ieTypeCpuUsageQuery then [some (cpuUsageResp e)]
  else if x.type = ieTypeCpuPeriodQuery then [some (cpuPeriodResp e)]
  else if x.type = ieTypeTempQuery then
    if 1 ≤ x.data.length then [some (tempResp e (x.data.getD 0 0))] else []
  else if x.type = ieTypeTempThresholdQuery then
    if 1 ≤ x.data.length then [some (tempThresholdResp e (x.data.getD 0 0))] else []
  else if x.type = ieTypeOutputPowerQuery then
    if 2 ≤ x.data.length then [some (outputPowerResp e)] else []
  else if x.type = ieTypeToffsetQuery then [some (toffsetResp e)]
  else if x.type = ieTypeT2aQuery then [some (t2aResp e)]
  else if x.type = ieTypeTa3Query then [some (ta3Resp e)]
  else []

/-- The response IEs that a request is owed. -/
def paramOwedAll (env : ℕ → ParamEnv) : ℕ → List Element → List (Option Element)
  | _, [] => []
  | k, x :: xs => paramOwed (env k) x ++ paramOwedAll env (k + 1) xs

/-- The size of the response IE to one query IE. -/
def paramRespSize (x : Element) : ℕ :=
  if x.type = ieTypeSystemTimeQuery then 11
  else if x.type = ieTypeCpuUsageQuery then 8
  else if x.type = ieTypeCpuPeriodQuery then 8
  else if x.type = ieTypeTempQuery then if 1 ≤ x.data.length then 6 else 0
  else if x.type = ieTypeTempThresholdQuery then if 1 ≤ x.data.length then 7 else 0
  else if x.type = ieTypeOutputPowerQuery then if 2 ≤ x.data.length then 7 else 0
  else if x.type = ieTypeToffsetQuery then 8
  else if x.type = ieTypeT2aQuery then 8
  else if x.type = ieTypeTa3Query then 8
  else 0

/-- The time is there for every query of the system time among the IEs from number `k` on. -/
def ClockOk (env : ℕ → ParamEnv) (k : ℕ) (xs : List Element) : Prop :=
  ∀ i x, xs[i]? = some x → x.type = ieTypeSystemTimeQuery → (env (k + i)).localtime.isSome

/-- The switch adds the response IE that the query IE is owed, if it can be built. -/
lemma paramQuerySwitch_eq (mallocOk : ℕ → Bool) (e : ParamEnv) (x : Element) (p : IePayload) :
    paramQuerySwitch mallocOk e x.type x.data p =
      addAll maxPayloadSize mallocOk ((paramOwed e x).filterMap id) p := by
  let Adds (q : IePayload) (owed : List (Option Element)) : Prop :=
    q = addAll maxPayloadSize mallocOk (owed.filterMap id) p
  have hone : ∀ y, Adds (addResponseIe mallocOk y p) [some y] := fun y => rfl
  have hnone : Adds p [] := rfl
  have htime : Adds (handleSystemTime mallocOk e p) [e.localtime.map systemTimeResp] := by
    rw [handleSystemTime]
    cases e.localtime <;> rfl
  show Adds (paramQuerySwitch mallocOk e x.type x.data p) (paramOwed e x)
  -- the cases of the switch, in its order
  refine rel_ite (R := Adds) (fun _ => htime) fun _ => ?_
  refine rel_ite (R := Adds) (fun _ => hone _) fun _ => ?_
  refine rel_ite (R := Adds) (fun _ => hone _) fun _ => ?_
  refine rel_ite (R := Adds) (fun _ => rel_ite (fun _ => hone _) fun _ => hnone) fun _ => ?_
  refine rel_ite (R := Adds) (fun _ => rel_ite (fun _ => hone _) fun _ => hnone) fun _ => ?_
  refine rel_ite (R := Adds) (fun _ => rel_ite (fun _ => hone _) fun _ => hnone) fun _ => ?_
  refine rel_ite (R := Adds) (fun _ => hone _) fun _ => ?_
  refine rel_ite (R := Adds) (fun _ => hone _) fun _ => ?_
  exact rel_ite (R := Adds) (fun _ => hone _) fun _ => hnone

/-- The response IEs of a request are added one after the other. -/
lemma foldl_paramQueryBody (mallocOk : ℕ → Bool) (env : ℕ → ParamEnv) (xs : List Element)
    (r : Querying) :
    (xs.foldl (fun r x => paramQueryBody mallocOk env x.type x.data r) r).payload =
      addAll maxPayloadSize mallocOk ((paramOwedAll env r.seen xs).filterMap id) r.payload := by
  induction xs generalizing r with
  | nil => rfl
  | cons x xs ih =>
    rw [List.foldl_cons, ih, paramQueryBody, paramQuerySwitch_eq, paramOwedAll,
      List.filterMap_append, addAll, addAll, addAll, List.foldl_append]

/-- One query IE has its response IE unless it asks for a time that is not there. -/
lemma paramOwed_eq_map {e : ParamEnv} {x : Element}
    (h : x.type = ieTypeSystemTimeQuery → e.localtime.isSome) :
    ∃ resps : List Element, paramOwed e x = resps.map some ∧
      (resps.flatMap Element.encode).length = paramRespSize x := by
  let Sized (owed : List (Option Element)) (n : ℕ) : Prop :=
    ∃ resps : List Element, owed = resps.map some ∧ (resps.flatMap Element.encode).length = n
  have hone : ∀ (y : Element) (n : ℕ), 4 + y.data.length = n → Sized [some y] n := by
    intro y n hn
    exact ⟨[y], rfl, by rw [List.flatMap_singleton, Element.length_encode, hn]⟩
  have hnone : Sized [] 0 := ⟨[], rfl, rfl⟩
  show Sized (paramOwed e x) (paramRespSize x)
  -- the cases of the switch, in its order
  refine rel_ite (R := Sized) (fun htime => ?_) fun _ => ?_
  · obtain ⟨t, ht⟩ := Option.isSome_iff_exists.1 (h htime)
    rw [ht]
    exact hone _ _ rfl
  refine rel_ite (R := Sized) (fun _ => hone _ _ rfl) fun _ => ?_
  refine rel_ite (R := Sized) (fun _ => hone _ _ rfl) fun _ => ?_
  refine rel_ite (R := Sized) (fun _ => rel_ite (fun _ => hone _ _ rfl) fun _ => hnone) fun _ => ?_
  refine rel_ite (R := Sized) (fun _ => rel_ite (fun _ => hone _ _ rfl) fun _ => hnone) fun _ => ?_
  refine rel_ite (R := Sized) (fun _ => rel_ite (fun _ => hone _ _ rfl) fun _ => hnone) fun _ => ?_
  refine rel_ite (R := Sized) (fun _ => hone _ _ (by simp [toffsetResp, numberResp])) fun _ => ?_
  refine rel_ite (R := Sized) (fun _ => hone _ _ (by simp [t2aResp, numberResp])) fun _ => ?_
  exact rel_ite (R := Sized) (fun _ => hone _ _ (by simp [ta3Resp, numberResp])) fun _ => hnone

/-- Every response IE that a request is owed is there while the clock works. -/
lemma paramOwedAll_eq_map {env : ℕ → ParamEnv} {k : ℕ} {xs : List Element}
    (h : ClockOk env k xs) : ∃ resps : List Element, paramOwedAll env k xs = resps.map some ∧
      (resps.flatMap Element.encode).length = (xs.map paramRespSize).sum := by
  induction xs generalizing k with
  | nil => exact ⟨[], rfl, rfl⟩
  | cons x xs ih =>
    have hrest : ClockOk env (k + 1) xs := by
      intro i y hy htype
      have hclock := h (i + 1) y (by rwa [List.getElem?_cons_succ]) htype
      rwa [← Nat.add_assoc, Nat.add_right_comm] at hclock
    obtain ⟨first, hfirst, hsize⟩ := paramOwed_eq_map (h 0 x rfl)
    obtain ⟨rest, heq, hsizes⟩ := ih hrest
    refine ⟨first ++ rest, ?_, ?_⟩
    · rw [paramOwedAll, List.map_append, heq]
      exact congrArg (· ++ _) hfirst
    · rw [List.flatMap_append, List.length_append, hsize, hsizes, List.map_cons, List.sum_cons]

/-- Conversely, a time that is missing leaves a query without its response IE. -/
lemma ClockOk.of_eq_map {env : ℕ → ParamEnv} {k : ℕ} {xs resps : List Element}
    (h : paramOwedAll env k xs = resps.map some) : ClockOk env k xs := by
  induction xs generalizing k resps with
  | nil => exact fun i x hx => by cases hx
  | cons x xs ih =>
    rw [paramOwedAll] at h
    obtain ⟨first, rest, -, hfirst, hrest⟩ := List.append_eq_map_iff.1 h
    intro i y hy htype
    cases i with
    | zero =>
      obtain rfl : x = y := Option.some.inj hy
      rw [paramOwed, if_pos htype] at hfirst
      cases htime : (env k).localtime with
      | some t => rfl
      | none =>
        have hmem : (none : Option Element) ∈ first.map some := by
          rw [hfirst, htime]
          exact List.mem_singleton_self _
        obtain ⟨z, -, hz⟩ := List.mem_map.1 hmem
        cases hz
    | succ i =>
      have hclock := ih hrest.symm i y (by rwa [List.getElem?_cons_succ] at hy) htype
      rwa [Nat.add_right_comm, Nat.add_assoc] at hclock

/-- A parameter query is answered in full: its response has exactly the response IEs owed. -/
def ParamAnswered (mallocOk : ℕ → Bool) (env : ℕ → ParamEnv) (request : CpriMessage) : Prop :=
  ∃ resps : List Element, paramOwedAll env 0 (elements request.payload) = resps.map some ∧
    AnsweredBy (handleParamQuery mallocOk env request) (paramRspHeader request.header) resps

/-- A status query is answered in full. -/
def StatusAnswered (e : StatusEnv) (request : CpriMessage) : Prop :=
  AnsweredBy (handleStatusQuery e request) (statusRspHeader request.header)
    ((elements request.payload).flatMap (statusOwed e))

/-- Which parameter queries are answered in full. -/
lemma paramAnswered_iff (mallocOk : ℕ → Bool) (env : ℕ → ParamEnv) {request : CpriMessage}
    (hlen : request.payload.length < 65532) :
    let size := ((elements request.payload).map paramRespSize).sum
    ParamAnswered mallocOk env request ↔
      ClockOk env 0 (elements request.payload) ∧ size ≤ 2033 ∧
        (size = 0 ∨ mallocOk 0 = true) := by
  intro size
  have hsent : ∀ resps, paramOwedAll env 0 (elements request.payload) = resps.map some →
      (resps.flatMap Element.encode).length = size →
      (AnsweredBy (handleParamQuery mallocOk env request) (paramRspHeader request.header) resps ↔
        size ≤ 2033 ∧ (size = 0 ∨ mallocOk 0 = true)) := by
    intro resps howed hsize
    rw [handleParamQuery, paramQueryHandleRequest, paramQueryLoop_eq _ hlen, ieLoop_eq,
      List.drop_zero, foldl_paramQueryBody, howed, List.filterMap_map]
    simp only [Function.id_comp, List.filterMap_some]
    exact queryAnswered_iff hsize
  constructor
  · rintro ⟨resps, howed, hanswered⟩
    have hclock := ClockOk.of_eq_map howed
    obtain ⟨resps', howed', hsize⟩ := paramOwedAll_eq_map hclock
    obtain rfl : resps = resps' :=
      (List.map_inj_right fun _ _ h => Option.some.inj h).1 (howed.symm.trans howed')
    exact ⟨hclock, (hsent resps howed hsize).1 hanswered⟩
  · rintro ⟨hclock, hfits⟩
    obtain ⟨resps, howed, hsize⟩ := paramOwedAll_eq_map hclock
    exact ⟨resps, howed, (hsent resps howed hsize).2 hfits⟩

/-- **Which queries are answered in full.**  A status query gets a response with its serial
number and exactly the response IEs that its query IEs are owed, in their order, if and only if
these take at most 2033 bytes and there is a buffer for them; and so does a parameter query, if
moreover the clock works for each query of the system time. -/
theorem queries_answered_iff {request : CpriMessage} (hlen : request.payload.length ≤ 8177) :
    (∀ e, StatusAnswered e request ∧
        (statusRspHeader request.header).serialNum = request.header.serialNum ↔
      let size := ((elements request.payload).map statusRespSize).sum
      size ≤ 2033 ∧ (size = 0 ∨ e.mallocOk 0 = true)) ∧
    (∀ mallocOk env, ParamAnswered mallocOk env request ∧
        (paramRspHeader request.header).serialNum = request.header.serialNum ↔
      let size := ((elements request.payload).map paramRespSize).sum
      ClockOk env 0 (elements request.payload) ∧ size ≤ 2033 ∧
        (size = 0 ∨ mallocOk 0 = true)) := by
  constructor
  · intro e
    exact (and_iff_left rfl).trans (statusAnswered_iff e request)
  · intro mallocOk env
    exact (and_iff_left rfl).trans (paramAnswered_iff mallocOk env (by omega))

/-- A query of all beams that names no beam. -/
def allBeamsIe : Element := ⟨ieTypeBeamStatusQuery, [], by decide⟩

/-- The theorem at a query of all beams: the answer is sent. -/
theorem queries_answered_iff_allBeams :
    StatusAnswered ⟨true, none, fun _ => true⟩ ⟨⟨41, 0, 0, 0, 0, 7⟩, allBeamsIe.encode⟩ := by
  have hlen : (⟨⟨41, 0, 0, 0, 0, 7⟩, allBeamsIe.encode⟩ : CpriMessage).payload.length ≤ 8177 := by
    decide
  have hsize : (elements allBeamsIe.encode).map statusRespSize = [160] := by
    have hread := elements_encode [allBeamsIe]
    rw [List.flatMap_singleton] at hread
    rw [hread]
    rfl
  have hanswered := ((queries_answered_iff hlen).1 ⟨true, none, fun _ => true⟩).2
  rw [hsize] at hanswered
  exact (hanswered ⟨by decide, .inr rfl⟩).1

/-- Thirteen queries of all beams in one message are not answered: the encoding of the response
fails and nothing is sent. -/
theorem allBeams_not_answered :
    let request : CpriMessage :=
      ⟨⟨41, 0, 0, 0, 0, 7⟩, (List.replicate 13 allBeamsIe).flatMap Element.encode⟩
    let e : StatusEnv := ⟨true, none, fun _ => true⟩
    request.payload.length ≤ 8177 ∧ ¬ StatusAnswered e request := by
  intro request e
  constructor
  · decide
  · intro hanswered
    have hfits := ((statusAnswered_iff e request).1 hanswered).1
    rw [elements_encode] at hfits
    exact absurd hfits (by decide)

end AntennaMgmt.Query
