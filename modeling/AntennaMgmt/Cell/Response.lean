import AntennaMgmt.Cell.Config
import AntennaMgmt.Cpri.Ie

/-!
# Answering a cell configuration request

The worker applies the configuration IEs of a request one by one, each with what the antenna and
the other threads do meanwhile, and adds an answer for each of them to a payload of 4096 bytes.
The answer is encoded into a buffer of 4096 bytes too, header included: it is complete exactly
when the answers leave room for the header.
-/

namespace AntennaMgmt.Cell

open AntennaMgmt.Lib AntennaMgmt.Cpri

/-! ### The IEs of requests and answers -/

/-- `IE_TYPE_CELL_CONFIG`. -/
def ieTypeCellConfig : UInt16 := 0x5E2

/-- `IE_TYPE_FREQ_CONFIG`. -/
def ieTypeFreqConfig : UInt16 := 0x5E3

/-- `IE_TYPE_CELL_CONFIG_RESP`. -/
def ieTypeCellConfigResp : UInt16 := 0x5EC

/-- `IE_TYPE_FREQ_CONFIG_RESP`. -/
def ieTypeFreqConfigResp : UInt16 := 0x5ED

/-- `MSG_NR_CELL_CONFIG_RSP`. -/
def msgNrCellConfigRsp : ℕ := 196

/-- `MAX_PAYLOAD_SIZE`. -/
def maxPayloadSize : ℕ := 4096

/-- `CELL_CFG_RESP_BUF_SIZE`. -/
def cellCfgRespBufSize : ℕ := 4096

/-- The value of `cell_cfg_flag`. -/
def CellCfgFlag.ofByte (b : UInt8) : CellCfgFlag :=
  if b = 0 then .establish else if b = 1 then .reconfig else if b = 2 then .delete else .invalid

/-- The value of `freq_cfg_flag`. -/
def FreqCfgFlag.ofByte (b : UInt8) : FreqCfgFlag :=
  if b = 0 then .establish else if b = 1 then .delete else .invalid

/-- The value of a result in an answer. -/
def ConfigResult.code : ConfigResult → ℕ
  | .success => 0
  | .failure => 1

/-- `cell_config_parse_cell_ie`. -/
def cellConfigParseCellIe (ieData : Bytes) : Option CellConfigIe :=
  if ieData.length < 10 then none
  else some
    { cellCfgFlag := .ofByte (ieData.getD 0 0)
      localCellId := leNat (slice ieData 1 4)
      cellPower := leNat (slice ieData 5 2)
      cellType := (ieData.getD 9 0).toNat }

/-- `cell_config_parse_freq_ie`. -/
def cellConfigParseFreqIe (ieData : Bytes) : Option FreqConfigIe :=
  if ieData.length < 32 then none
  else some
    { freqCfgFlag := .ofByte (ieData.getD 0 0)
      localCellId := leNat (slice ieData 1 4)
      beamId := (ieData.getD 5 0).toNat
      dlCenterFreq := leNat (slice ieData 6 4)
      specialSubframe := (ieData.getD 14 0).toNat
      beamBandwidth := leNat (slice ieData 19 4)
      ulDlConfig := leNat (slice ieData 23 4)
      ulCenterFreq := leNat (slice ieData 28 4) }

/-- The answer to a cell configuration. -/
def cellResp (cellCfg : CellConfigIe) (result : ConfigResult) : Element where
  type := ieTypeCellConfigResp
  data := leBytes 4 cellCfg.localCellId ++ leBytes 4 result.code
  size_lt := by simp

/-- The answer to a frequency configuration. -/
def freqResp (freqCfg : FreqConfigIe) (result : ConfigResult) : Element where
  type := ieTypeFreqConfigResp
  data := leBytes 4 freqCfg.localCellId ++ [UInt8.ofNat freqCfg.beamId] ++ leBytes 4 result.code
  size_lt := by simp

/-! ### The worker -/

/-- What happens while one configuration is applied: what the antenna does, and what other
threads do to the station before the call and while it has given the mutex up. -/
structure ApplyEnv where
  antenna : FreqEnv
  before : Station → Station
  during : Station → Station

/-- `cell_config_apply_freq` with what other threads do during the wait. -/
def applyFreqIn (freqCfg : FreqConfigIe) (e : ApplyEnv) (s : Station) : Station × ConfigResult :=
  match applyFreqStart freqCfg e.antenna (e.before s) with
  | (s', .returned _ result) => (s', result)
  | (s', .waiting) => applyFreqFinish freqCfg e.antenna (e.during s')

/-- `cell_config_apply_cell` with what other threads do before it. -/
def applyCellIn (cellCfg : CellConfigIe) (e : ApplyEnv) (s : Station) : Station × ConfigResult :=
  applyCell cellCfg e.antenna.txOk (e.before s)

/-- A request as it is worked off: the station, the payload of the answer, and the number of
configurations applied. -/
structure Responding where
  station : Station
  payload : IePayload
  applied : ℕ

/-- The station after a configuration, with the answer to it added. -/
def Responding.answer (mallocOk : ℕ → Bool) (r : Responding) (s : Station) (resp : Element) :
    Responding :=
  ⟨s, addIe maxPayloadSize mallocOk resp r.payload, r.applied + 1⟩

/-- The body of the loop of `cell_config_create_response`. -/
def createResponseBody (env : ℕ → ApplyEnv) (mallocOk : ℕ → Bool) (ieType : UInt16)
    (ieData : Bytes) (r : Responding) : Responding :=
  if ieType = ieTypeCellConfig then
    match cellConfigParseCellIe ieData with
    | none => r
    | some cellCfg =>
      let (s, cellResult) := applyCellIn cellCfg (env r.applied) r.station
      r.answer mallocOk s (cellResp cellCfg cellResult)
  else if ieType = ieTypeFreqConfig then
    match cellConfigParseFreqIe ieData with
    | none => r
    | some freqCfg =>
      let (s, freqResult) := applyFreqIn freqCfg (env r.applied) r.station
      r.answer mallocOk s (freqResp freqCfg freqResult)
  else r

/-- The header of the answer to a request. -/
def cellConfigRspHeader (request : CpriHeader) : CpriHeader :=
  { request with msgId := msgNrCellConfigRsp, msgLength := 0 }

/-- `cell_config_create_response`: the station afterwards and the payload of the answer. -/
def cellConfigCreateResponse (env : ℕ → ApplyEnv) (mallocOk : ℕ → Bool) (request : CpriMessage)
    (s : Station) : Responding :=
  ieLoop (createResponseBody env mallocOk) request.payload 0 ⟨s, .empty, 0⟩

/-- What `cell_cfg_worker` does with a request it has taken: the station afterwards and what is
given to `tcp_client_send`. -/
def cellCfgWorkerAnswer (env : ℕ → ApplyEnv) (mallocOk : ℕ → Bool) (request : CpriMessage)
    (s : Station) : Station × Option Bytes :=
  let r := cellConfigCreateResponse env mallocOk request s
  (r.station, respond cellCfgRespBufSize (cellConfigRspHeader request.header) r.payload)

/-! ### What the answer should be -/

/-- A configuration that a request asks for. -/
inductive ConfigIe
  | cell (cellCfg : CellConfigIe)
  | freq (freqCfg : FreqConfigIe)

namespace ConfigIe

/-- The configuration in an IE, if the IE is a well-formed one. -/
def ofElement (x : Element) : Option ConfigIe :=
  if x.type = ieTypeCellConfig then (cellConfigParseCellIe x.data).map .cell
  else if x.type = ieTypeFreqConfig then (cellConfigParseFreqIe x.data).map .freq
  else none

/-- The configuration applied, with its result. -/
def apply (e : ApplyEnv) (s : Station) : ConfigIe → Station × ConfigResult
  | cell cellCfg => applyCellIn cellCfg e s
  | freq freqCfg => applyFreqIn freqCfg e s

/-- The response IE of a configuration and its result. -/
def resp (result : ConfigResult) : ConfigIe → Element
  | cell cellCfg => cellResp cellCfg result
  | freq freqCfg => freqResp freqCfg result

/-- The size of the response IE. -/
def respSize : ConfigIe → ℕ
  | cell _ => 12
  | freq _ => 13

lemma length_resp (result : ConfigResult) (c : ConfigIe) :
    (c.resp result).encode.length = c.respSize := by
  cases c <;> simp [resp, cellResp, freqResp, respSize]

end ConfigIe

/-- The configurations of a request, in its order. -/
def configIes (request : Bytes) : List ConfigIe := (elements request).filterMap ConfigIe.ofElement

/-- The configurations applied one after the other: the station afterwards and the response IE
of each of them with its own result. -/
def applyAll (env : ℕ → ApplyEnv) : ℕ → List ConfigIe → Station → Station × List Element
  | _, [], s => (s, [])
  | k, c :: cs, s =>
    let (s', result) := c.apply (env k) s
    let (s'', resps) := applyAll env (k + 1) cs s'
    (s'', c.resp result :: resps)

/-- The response IEs that a request is owed. -/
def owed (env : ℕ → ApplyEnv) (request : Bytes) (s : Station) : List Element :=
  (applyAll env 0 (configIes request) s).2

/-- There is one response IE for each configuration, of its size. -/
lemma length_applyAll (env : ℕ → ApplyEnv) (k : ℕ) (cs : List ConfigIe) (s : Station) :
    ((applyAll env k cs s).2.flatMap Element.encode).length =
      (cs.map ConfigIe.respSize).sum := by
  induction cs generalizing k s with
  | nil => rfl
  | cons c cs ih =>
    simp only [applyAll, List.flatMap_cons, List.length_append, List.map_cons, List.sum_cons]
    rw [ConfigIe.length_resp, ih]

/-- The loop body does nothing with an IE that is no configuration, and applies and answers one
that is. -/
lemma createResponseBody_eq (env : ℕ → ApplyEnv) (mallocOk : ℕ → Bool) (x : Element)
    (r : Responding) : createResponseBody env mallocOk x.type x.data r =
      match ConfigIe.ofElement x with
      | none => r
      | some c => r.answer mallocOk (c.apply (env r.applied) r.station).1
          (c.resp (c.apply (env r.applied) r.station).2) := by
  rw [createResponseBody, ConfigIe.ofElement]
  split
  · cases cellConfigParseCellIe x.data <;> rfl
  · split
    · cases cellConfigParseFreqIe x.data <;> rfl
    · rfl

/-- The loop applies the configurations in their order and adds their response IEs. -/
lemma foldl_createResponseBody (env : ℕ → ApplyEnv) (mallocOk : ℕ → Bool) (xs : List Element)
    (r : Responding) :
    let cs := xs.filterMap ConfigIe.ofElement
    let all := applyAll env r.applied cs r.station
    xs.foldl (fun r x => createResponseBody env mallocOk x.type x.data r) r =
      ⟨all.1, addAll maxPayloadSize mallocOk all.2 r.payload, r.applied + cs.length⟩ := by
  induction xs generalizing r with
  | nil => rfl
  | cons x xs ih =>
    rw [List.foldl_cons, createResponseBody_eq]
    cases hx : ConfigIe.ofElement x with
    | none =>
      simp only [List.filterMap_cons, hx]
      exact ih r
    | some c =>
      simp only [List.filterMap_cons, hx, applyAll, addAll, List.foldl_cons, List.length_cons]
      rw [ih]
      simp only [Responding.answer, addAll, Nat.add_assoc, Nat.add_comm 1]

/-- The worker sends what `respond` makes of the response IEs that are owed. -/
lemma cellCfgWorkerAnswer_eq (env : ℕ → ApplyEnv) (mallocOk : ℕ → Bool) (request : CpriMessage)
    (s : Station) : (cellCfgWorkerAnswer env mallocOk request s).2 =
      respond cellCfgRespBufSize (cellConfigRspHeader request.header)
        (addAll maxPayloadSize mallocOk (owed env request.payload s) .empty) := by
  simp only [cellCfgWorkerAnswer, cellConfigCreateResponse, ieLoop_eq, List.drop_zero,
    foldl_createResponseBody, owed, configIes]

/-- The worker's answer is complete when its IEs leave room for the header in the encode buffer
and there is a buffer for the first of them. -/
lemma cellCfgAnswered_iff (mallocOk : ℕ → Bool) (header : CpriHeader) (xs : List Element) :
    AnsweredBy (respond cellCfgRespBufSize header (addAll maxPayloadSize mallocOk xs .empty))
      header xs ↔
      (xs.flatMap Element.encode).length ≤ 4081 ∧ (xs = [] ∨ mallocOk 0 = true) := by
  have hmax : cpriHeaderLen + maxPayloadSize < 2 ^ 32 := by
    norm_num [cpriHeaderLen, maxPayloadSize]
  have hbuffer : cellCfgRespBufSize ≤ cpriHeaderLen + maxPayloadSize := Nat.le_add_left _ _
  have hroom : ∀ n, cpriHeaderLen + n ≤ cellCfgRespBufSize ↔ n ≤ 4081 := by
    intro n
    simp only [cpriHeaderLen, cellCfgRespBufSize]
    omega
  rw [answeredBy_respond_iff hmax hbuffer, hroom]

/-- A request is answered in full when its response IEs fit the encode buffer. -/
lemma answered_iff_length (env : ℕ → ApplyEnv) (mallocOk : ℕ → Bool) (request : CpriMessage)
    (s : Station) :
    AnsweredBy (cellCfgWorkerAnswer env mallocOk request s).2
        (cellConfigRspHeader request.header) (owed env request.payload s) ↔
      ((configIes request.payload).map ConfigIe.respSize).sum ≤ 4081 ∧
        (configIes request.payload = [] ∨ mallocOk 0 = true) := by
  have hnil : owed env request.payload s = [] ↔ configIes request.payload = [] := by
    rw [owed]
    cases configIes request.payload with
    | nil => exact ⟨fun _ => rfl, fun _ => rfl⟩
    | cons c cs => simp [applyAll]
  rw [cellCfgWorkerAnswer_eq, cellCfgAnswered_iff, hnil, owed, length_applyAll]

/-- **Which requests are answered in full.**  The worker sends an answer with the request's
serial number and exactly one response IE for each configuration it applied, in their order and
with their own results, if and only if the response IEs, 12 bytes for a cell and 13 for a
frequency, leave room for the header in the encode buffer, and the buffer for the first of them
was allocated. -/
theorem cellConfig_answered_iff (env : ℕ → ApplyEnv) (mallocOk : ℕ → Bool)
    (request : CpriMessage) (s : Station) :
    (AnsweredBy (cellCfgWorkerAnswer env mallocOk request s).2
        (cellConfigRspHeader request.header) (owed env request.payload s) ∧
      (cellConfigRspHeader request.header).serialNum = request.header.serialNum) ↔
      ((configIes request.payload).map ConfigIe.respSize).sum ≤ 4081 ∧
        (configIes request.payload = [] ∨ mallocOk 0 = true) :=
  ⟨fun h => (answered_iff_length env mallocOk request s).1 h.1,
    fun h => ⟨(answered_iff_length env mallocOk request s).2 h, rfl⟩⟩

/-- An IE that deletes a cell. -/
def deleteCellIe : Element where
  type := ieTypeCellConfig
  data := [2, 1, 0, 0, 0, 0, 0, 0, 0, 3]
  size_lt := by decide

/-- An antenna that accepts everything, with no other thread at work. -/
def quietEnv : ApplyEnv := ⟨⟨some modeBusiness, true, fun _ => some modeBusiness, true⟩, id, id⟩

/-- A request of 341 such IEs is applied but not answered: the encoding of the answer fails. -/
theorem cellConfig_applied_not_answered :
    let request : CpriMessage :=
      ⟨⟨195, 0, 0, 0, 0, 7⟩, (List.replicate 341 deleteCellIe).flatMap Element.encode⟩
    let s : Station := ⟨.init, false, none, none⟩
    request.payload.length ≤ 8177 ∧ (configIes request.payload).length = 341 ∧
      ¬ AnsweredBy (cellCfgWorkerAnswer (fun _ => quietEnv) (fun _ => true) request s).2
        (cellConfigRspHeader request.header) (owed (fun _ => quietEnv) request.payload s) := by
  intro request s
  have hcell : ConfigIe.ofElement deleteCellIe = some (.cell ⟨.delete, 1, 0, 3⟩) := rfl
  have hconfigs : configIes request.payload =
      List.replicate 341 (.cell ⟨.delete, 1, 0, 3⟩) := by
    rw [configIes, elements_encode, List.filterMap_replicate_of_some hcell]
  refine ⟨?_, ?_, ?_⟩
  · rw [List.length_flatMap, List.map_replicate, List.sum_replicate_nat]
    decide
  · rw [hconfigs, List.length_replicate]
  · rw [answered_iff_length, hconfigs, List.map_replicate, List.sum_replicate_nat]
    rintro ⟨hfits, -⟩
    exact absurd hfits (by decide)

end AntennaMgmt.Cell
