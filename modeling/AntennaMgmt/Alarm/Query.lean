import AntennaMgmt.Alarm.Manager
import AntennaMgmt.Cpri.Ie
import Mathlib.Data.List.OfFn

/-!
# Alarm queries

`handle_alarm_query_request` answers a query with a report for each active alarm that matches it
and came up in the last 24 hours.  When there was none to report, it answers that the alarm was
not found.
-/

namespace AntennaMgmt.Alarm

open AntennaMgmt.Lib AntennaMgmt.Cpri

/-! ### Records and reports -/

/-- `ALARM_QUERY_ALL`. -/
def alarmQueryAll : ℕ := 0xFFFFFFFF

/-- `ALARM_VALIDITY_VALID`. -/
def alarmValidityValid : ℕ := 0

/-- `ALARM_VALIDITY_INVALID`. -/
def alarmValidityInvalid : ℕ := 1

/-- `ALARM_CLEAR_FLAG_ACTIVE`. -/
def alarmClearFlagActive : ℕ := 0

/-- `ALARM_CLEAR_FLAG_CLEARED`. -/
def alarmClearFlagCleared : ℕ := 1

/-- `MSG_ALARM_REPORT_REQ_ACK`. -/
def msgAlarmReportReqAck : ℕ := 122

/-- A record with the time at which the alarm came up. -/
structure TimedRecord extends AlarmRecord where
  startTime : ℤ
deriving DecidableEq, Repr

/-- The record table. -/
abbrev TimedRecords := Fin maxAlarmRecords → TimedRecord

/-- `ie_alarm_report_t`, its texts without the zero bytes behind them. -/
structure IeAlarmReport where
  validity : ℕ
  alarmCode : ℕ
  subCode : ℕ
  clearFlag : ℕ
  timestamp : Bytes
  additionalInfo : Bytes
deriving DecidableEq, Repr

/-- A text in a field of the given size. -/
def textField (size : ℕ) (text : Bytes) : Bytes := (text ++ List.replicate size 0).take size

/-- The bytes of `ie_alarm_report_t`. -/
def IeAlarmReport.bytes (ie : IeAlarmReport) : Bytes :=
  leBytes 2 ie.validity ++ leBytes 4 ie.alarmCode ++ leBytes 4 ie.subCode ++
    leBytes 4 ie.clearFlag ++ textField 20 ie.timestamp ++ textField 100 ie.additionalInfo

/-- A report that is given to `tcp_client_send`, and whether the send succeeds. -/
structure Attempt where
  ie : IeAlarmReport
  message : Bytes
  sent : Bool
deriving DecidableEq, Repr

/-- What a query meets: the clock as it is read for the alarm with the given number, and for the
answer that there is none, `localtime_r` with `strftime`, and the result of the send with the given
number. -/
structure AlarmQueryEnv where
  clock : ℕ → ℤ
  clockInvalid : ℤ
  timestamp : ℤ → Option Bytes
  sendOk : ℕ → Bool

/-! ### The handler -/

/-- `alarm_get_active_alarms`. -/
def alarmGetActiveAlarms (records : TimedRecords) (maxCount : ℕ) : List TimedRecord :=
  ((List.ofFn records).filter fun r => r.active).take maxCount

/-- `alarm_matches_query`. -/
def alarmMatchesQuery (record : TimedRecord) (queryCode querySubcode : ℕ) : Bool :=
  if queryCode = alarmQueryAll ∧ querySubcode = alarmQueryAll then true
  else if queryCode ≠ alarmQueryAll ∧ querySubcode = alarmQueryAll then
    record.alarmCode = queryCode
  else if queryCode ≠ alarmQueryAll ∧ querySubcode ≠ alarmQueryAll then
    record.alarmCode = queryCode ∧ record.subCode = querySubcode
  else false

/-- The report in `send_alarm_report_from_record`. -/
def reportOfRecord (env : AlarmQueryEnv) (record : TimedRecord) : IeAlarmReport where
  validity := alarmValidityValid
  alarmCode := record.alarmCode
  subCode := record.subCode
  clearFlag := if record.active then alarmClearFlagActive else alarmClearFlagCleared
  timestamp := (env.timestamp record.startTime).getD []
  additionalInfo := record.additionalInfo.take 99

/-- The report in `send_invalid_alarm_response`. -/
def invalidReport (env : AlarmQueryEnv) (alarmCode subCode : ℕ) : IeAlarmReport where
  validity := alarmValidityInvalid
  alarmCode := alarmCode
  subCode := subCode
  clearFlag := alarmClearFlagCleared
  timestamp := (env.timestamp env.clockInvalid).getD []
  additionalInfo := ascii "Alarm not found or already cleared"

/-- What both functions do with their report: the message that is given to `tcp_client_send`,
unless the encoding fails. -/
def encodeReport (reqHeader : CpriHeader) (ie : IeAlarmReport) : Option Bytes :=
  respond 2048 { reqHeader with msgId := msgAlarmReportReqAck, msgLength := 0 }
    ⟨some (leBytes 2 1001 ++ leBytes 2 (4 + 134) ++ ie.bytes), 0⟩

/-- The loop of `handle_alarm_query_request`: its counters and the reports given to
`tcp_client_send`. -/
structure QueryProgress where
  reportedCount : ℕ
  skippedCount : ℕ
  attempts : List Attempt
deriving DecidableEq, Repr

/-- A report is given to `tcp_client_send`, whose result is not looked at. -/
def attempt (env : AlarmQueryEnv) (reqHeader : CpriHeader) (ie : IeAlarmReport)
    (attempts : List Attempt) : Option (List Attempt) :=
  (encodeReport reqHeader ie).map fun message =>
    attempts ++ [⟨ie, message, env.sendOk attempts.length⟩]

/-- One round of the loop, for the alarm with the number `i`. -/
def queryRound (env : AlarmQueryEnv) (reqHeader : CpriHeader) (queryCode querySubcode : ℕ)
    (i : ℕ) (alarm : TimedRecord) (p : QueryProgress) : QueryProgress :=
  if ¬ alarm.active then { p with skippedCount := p.skippedCount + 1 }
  else if ¬ alarmMatchesQuery alarm queryCode querySubcode then p
  -- only alarms of the last 24 hours are reported
  else if 86400 < env.clock i - alarm.startTime then
    { p with skippedCount := p.skippedCount + 1 }
  else
    match attempt env reqHeader (reportOfRecord env alarm) p.attempts with
    | some attempts => { p with reportedCount := p.reportedCount + 1, attempts := attempts }
    | none => p

/-- The loop, from the alarm with the number `i` on. -/
def queryLoop (env : AlarmQueryEnv) (reqHeader : CpriHeader) (queryCode querySubcode : ℕ) :
    ℕ → List TimedRecord → QueryProgress → QueryProgress
  | _, [], p => p
  | i, alarm :: alarms, p =>
    queryLoop env reqHeader queryCode querySubcode (i + 1) alarms
      (queryRound env reqHeader queryCode querySubcode i alarm p)

/-- What `handle_alarm_query_request` returns. -/
inductive AlarmQueryRet
  | success
  | errorNotInitialized
deriving DecidableEq, Repr

/-- `handle_alarm_query_request`: the result, and the reports given to `tcp_client_send`. -/
def handleAlarmQueryRequest (initialized : Bool) (env : AlarmQueryEnv) (records : TimedRecords)
    (reqHeader : CpriHeader) (queryCode querySubcode : ℕ) : AlarmQueryRet × List Attempt :=
  if ¬ initialized then (.errorNotInitialized, [])
  else
    let alarms := alarmGetActiveAlarms records maxAlarmRecords
    let p := queryLoop env reqHeader queryCode querySubcode 0 alarms ⟨0, 0, []⟩
    if p.reportedCount = 0 then
      (.success, (attempt env reqHeader (invalidReport env queryCode querySubcode)
        p.attempts).getD p.attempts)
    else (.success, p.attempts)

/-! ### What a query asks for -/

/-- The active alarms, in the order of the table. -/
def activeAlarms (records : TimedRecords) : List TimedRecord :=
  (List.ofFn records).filter fun r => r.active

/-- The alarm has the code and sub-code that are asked for, as far as they are. -/
def Wanted (queryCode querySubcode : ℕ) (r : TimedRecord) : Prop :=
  (queryCode = alarmQueryAll ∨ r.alarmCode = queryCode) ∧
    (querySubcode = alarmQueryAll ∨ r.subCode = querySubcode)

instance (queryCode querySubcode : ℕ) : DecidablePred (Wanted queryCode querySubcode) :=
  fun _ => inferInstanceAs (Decidable (_ ∧ _))

/-- The alarm came up at most 24 hours before. -/
def Recent (now : ℤ) (r : TimedRecord) : Prop := now - r.startTime ≤ 86400

instance (now : ℤ) : DecidablePred (Recent now) := fun _ => inferInstanceAs (Decidable (_ ≤ _))

/-- The alarms that are wanted and recent, by the clock as it is read for each of them, the first
having the number `i`. -/
def recentAlarms (env : AlarmQueryEnv) (queryCode querySubcode i : ℕ)
    (alarms : List TimedRecord) : List TimedRecord :=
  ((alarms.zipIdx i).filter fun q =>
    Wanted queryCode querySubcode q.1 ∧ Recent (env.clock q.2) q.1).map Prod.fst

/-- The reports of the given validity, by code and sub-code. -/
def reportedKeys (validity : ℕ) (attempts : List Attempt) : List AlarmKey :=
  (attempts.filter fun a => a.ie.validity = validity).map fun a => (a.ie.alarmCode, a.ie.subCode)

/-! ### The messages -/

lemma length_textField (size : ℕ) (text : Bytes) : (textField size text).length = size := by
  rw [textField, List.length_take, List.length_append, List.length_replicate]
  omega

lemma IeAlarmReport.length_bytes (ie : IeAlarmReport) : ie.bytes.length = 134 := by
  simp only [bytes, List.length_append, length_leBytes, length_textField]

/-- A report always fits its buffers. -/
lemma encodeReport_isSome (reqHeader : CpriHeader) (ie : IeAlarmReport) :
    ∃ message, encodeReport reqHeader ie = some message := by
  have hlen (payload : Bytes) (hpayload : payload.length = 138) :
      ∃ message, respond 2048 { reqHeader with msgId := msgAlarmReportReqAck, msgLength := 0 }
        ⟨some payload, 0⟩ = some message := by
    have hbytes : (IePayload.mk (some payload) 0).bytes.length = 138 := hpayload
    have hheader : cpriHeaderLen = 15 := rfl
    rw [respond_eq (by omega), if_pos (by omega)]
    exact ⟨_, rfl⟩
  refine hlen _ ?_
  rw [List.length_append, List.length_append, ie.length_bytes, length_leBytes, length_leBytes]

lemma attempt_eq (env : AlarmQueryEnv) (reqHeader : CpriHeader) (ie : IeAlarmReport)
    (attempts : List Attempt) :
    ∃ a : Attempt, a.ie = ie ∧ attempt env reqHeader ie attempts = some (attempts ++ [a]) := by
  obtain ⟨message, hmessage⟩ := encodeReport_isSome reqHeader ie
  exact ⟨⟨ie, message, env.sendOk attempts.length⟩, rfl, by rw [attempt, hmessage]; rfl⟩

/-! ### The loop -/

/-- For a query with a specific code, or for all alarms, the match is what is wanted. -/
lemma alarmMatchesQuery_iff {queryCode querySubcode : ℕ} (record : TimedRecord)
    (hquery : queryCode = alarmQueryAll → querySubcode = alarmQueryAll) :
    alarmMatchesQuery record queryCode querySubcode = true ↔
      Wanted queryCode querySubcode record := by
  rw [alarmMatchesQuery, Wanted]
  by_cases hcode : queryCode = alarmQueryAll
  · simp [hcode, hquery hcode]
  · by_cases hsub : querySubcode = alarmQueryAll
    · simp [hcode, hsub]
    · simp [hcode, hsub]

section Loop

variable (env : AlarmQueryEnv) (reqHeader : CpriHeader) {queryCode querySubcode : ℕ}

/-- What a round does for an active alarm. -/
lemma queryRound_eq (hquery : queryCode = alarmQueryAll → querySubcode = alarmQueryAll) (i : ℕ)
    {alarm : TimedRecord} (hactive : alarm.active = true) (p : QueryProgress) :
    let p' := queryRound env reqHeader queryCode querySubcode i alarm p
    if Wanted queryCode querySubcode alarm ∧ Recent (env.clock i) alarm then
      p'.reportedCount = p.reportedCount + 1 ∧
        p'.attempts.map Attempt.ie = p.attempts.map Attempt.ie ++ [reportOfRecord env alarm]
    else p'.reportedCount = p.reportedCount ∧ p'.attempts = p.attempts := by
  intro p'
  have hmatch := alarmMatchesQuery_iff alarm hquery
  have hround : p' = queryRound env reqHeader queryCode querySubcode i alarm p := rfl
  rw [queryRound, if_neg (by simp [hactive])] at hround
  by_cases hwanted : Wanted queryCode querySubcode alarm
  · rw [if_neg (by simp [hmatch.2 hwanted])] at hround
    by_cases hold : 86400 < env.clock i - alarm.startTime
    · have hrecent : ¬ Recent (env.clock i) alarm := not_le.2 hold
      rw [if_pos hold] at hround
      rw [if_neg fun h => hrecent h.2, hround]
      exact ⟨rfl, rfl⟩
    · have hrecent : Recent (env.clock i) alarm := not_lt.1 hold
      obtain ⟨a, hie, hattempt⟩ := attempt_eq env reqHeader (reportOfRecord env alarm) p.attempts
      rw [if_neg hold, hattempt] at hround
      rw [if_pos ⟨hwanted, hrecent⟩, hround]
      exact ⟨rfl, by rw [List.map_append, List.map_singleton, hie]⟩
  · have hnot : alarmMatchesQuery alarm queryCode querySubcode = false :=
      Bool.eq_false_of_not_eq_true fun h => hwanted (hmatch.1 h)
    rw [if_pos (by simp [hnot])] at hround
    rw [if_neg fun h => hwanted h.1, hround]
    exact ⟨rfl, rfl⟩

/-- The loop reports the alarms that are wanted and recent, in their order. -/
lemma queryLoop_eq (hquery : queryCode = alarmQueryAll → querySubcode = alarmQueryAll)
    {alarms : List TimedRecord} (hactive : ∀ r ∈ alarms, r.active = true) (i : ℕ)
    (p : QueryProgress) :
    (queryLoop env reqHeader queryCode querySubcode i alarms p).reportedCount =
        p.reportedCount + (recentAlarms env queryCode querySubcode i alarms).length ∧
      (queryLoop env reqHeader queryCode querySubcode i alarms p).attempts.map Attempt.ie =
        p.attempts.map Attempt.ie ++
          (recentAlarms env queryCode querySubcode i alarms).map (reportOfRecord env) := by
  induction alarms generalizing i p with
  | nil => simp [queryLoop, recentAlarms]
  | cons alarm alarms ih =>
    obtain ⟨hcount, hreports⟩ := ih (fun r hr => hactive r (List.mem_cons_of_mem _ hr)) (i + 1)
      (queryRound env reqHeader queryCode querySubcode i alarm p)
    have hround := queryRound_eq env reqHeader hquery i
      (hactive alarm List.mem_cons_self) p
    rw [queryLoop, hcount, hreports]
    simp only at hround
    split_ifs at hround with hdue
    · have hrecent : recentAlarms env queryCode querySubcode i (alarm :: alarms) =
          alarm :: recentAlarms env queryCode querySubcode (i + 1) alarms := by
        simp [recentAlarms, List.zipIdx_cons, hdue]
      rw [hrecent, hround.1, hround.2, List.length_cons, List.map_cons, List.append_assoc]
      exact ⟨by omega, rfl⟩
    · have hrecent : recentAlarms env queryCode querySubcode i (alarm :: alarms) =
          recentAlarms env queryCode querySubcode (i + 1) alarms := by
        simp [recentAlarms, List.zipIdx_cons, hdue]
      rw [hrecent, hround.1, hround.2]
      exact ⟨rfl, rfl⟩

/-- The reports of a query: those of the alarms that are wanted and recent, or that there is
none. -/
lemma handleAlarmQueryRequest_reports
    (hquery : queryCode = alarmQueryAll → querySubcode = alarmQueryAll) (records : TimedRecords) :
    let recent := recentAlarms env queryCode querySubcode 0 (activeAlarms records)
    (handleAlarmQueryRequest true env records reqHeader queryCode querySubcode).2.map Attempt.ie =
      if recent = [] then [invalidReport env queryCode querySubcode]
      else recent.map (reportOfRecord env) := by
  intro recent
  have hall : alarmGetActiveAlarms records maxAlarmRecords = activeAlarms records := by
    refine List.take_of_length_le ((List.length_filter_le _ _).trans ?_)
    rw [List.length_ofFn]
  have hactive : ∀ r ∈ activeAlarms records, r.active = true := fun r hr => (List.mem_filter.1 hr).2
  obtain ⟨hcount, hreports⟩ := queryLoop_eq env reqHeader hquery hactive 0 ⟨0, 0, []⟩
  rw [handleAlarmQueryRequest, if_neg (by simp), hall]
  simp only [hcount, Nat.zero_add, List.length_eq_zero_iff]
  split_ifs with hnone
  · rw [hnone, List.map_nil, List.map_nil, List.append_nil, List.map_eq_nil_iff] at hreports
    obtain ⟨a, hie, hattempt⟩ := attempt_eq env reqHeader
      (invalidReport env queryCode querySubcode) []
    rw [hreports, hattempt, Option.getD_some, List.nil_append, List.map_singleton, hie]
  · rw [hreports]
    rfl

end Loop

/-! ### Complete and honest -/

/-- What a query should come to: one valid report for each active alarm that is wanted, and the
answer that there is none exactly when there is none. -/
structure QueryHonest (queryCode querySubcode : ℕ) (records : TimedRecords)
    (attempts : List Attempt) : Prop where
  complete : reportedKeys alarmValidityValid attempts =
    ((activeAlarms records).filter fun r => Wanted queryCode querySubcode r).map
      fun r => r.key
  notFound : (∃ a ∈ attempts, a.ie.validity = alarmValidityInvalid) ↔
    ∀ r ∈ activeAlarms records, ¬ Wanted queryCode querySubcode r

/-- What a query comes to: one valid report for each active alarm that is wanted and recent, the
answer that there is none when no active alarm is wanted, and no such answer when a recent one
is. -/
structure QueryAnswered (env : AlarmQueryEnv) (queryCode querySubcode : ℕ)
    (records : TimedRecords) (attempts : List Attempt) : Prop where
  complete : reportedKeys alarmValidityValid attempts =
    (recentAlarms env queryCode querySubcode 0 (activeAlarms records)).map fun r => r.key
  notFound : (∀ r ∈ activeAlarms records, ¬ Wanted queryCode querySubcode r) →
    reportedKeys alarmValidityInvalid attempts = [(queryCode, querySubcode)]
  found : recentAlarms env queryCode querySubcode 0 (activeAlarms records) ≠ [] →
    ∀ a ∈ attempts, a.ie.validity = alarmValidityValid

/-- The reports of a validity depend on what is reported. -/
lemma reportedKeys_eq (validity : ℕ) (attempts : List Attempt) :
    reportedKeys validity attempts =
      ((attempts.map Attempt.ie).filter fun ie => ie.validity = validity).map
        fun ie => (ie.alarmCode, ie.subCode) := by
  rw [reportedKeys, List.filter_map, List.map_map]
  rfl

lemma reportedKeys_valid {env : AlarmQueryEnv} {attempts : List Attempt} {alarms : List TimedRecord}
    (h : attempts.map Attempt.ie = alarms.map (reportOfRecord env)) :
    reportedKeys alarmValidityValid attempts = alarms.map fun r => r.key := by
  rw [reportedKeys_eq, h, List.filter_eq_self.2, List.map_map]
  · rfl
  · intro ie hie
    obtain ⟨r, -, rfl⟩ := List.mem_map.1 hie
    rfl

/-- **An alarm query is complete and honest about the last 24 hours.** -/
theorem alarmQuery_answered (env : AlarmQueryEnv) (records : TimedRecords) (reqHeader : CpriHeader)
    {queryCode querySubcode : ℕ}
    (hquery : queryCode = alarmQueryAll → querySubcode = alarmQueryAll) :
    QueryAnswered env queryCode querySubcode records
      (handleAlarmQueryRequest true env records reqHeader queryCode querySubcode).2 := by
  have hreports := handleAlarmQueryRequest_reports env reqHeader hquery records
  simp only at hreports
  split_ifs at hreports with hnone
  · refine ⟨?_, fun _ => ?_, fun hsome => absurd hnone hsome⟩
    · rw [hnone, reportedKeys_eq, hreports]
      rfl
    · rw [reportedKeys_eq, hreports]
      rfl
  · refine ⟨reportedKeys_valid hreports, fun hall => absurd ?_ hnone, fun _ a ha => ?_⟩
    · -- a recent alarm is a wanted one
      rw [recentAlarms, List.map_eq_nil_iff, List.filter_eq_nil_iff]
      intro q hq hdue
      have hmem : q.1 ∈ activeAlarms records := List.fst_mem_of_mem_zipIdx hq
      exact hall q.1 hmem (by simpa using (of_decide_eq_true hdue).1)
    · have hie : a.ie ∈ (recentAlarms env queryCode querySubcode 0 (activeAlarms records)).map
          (reportOfRecord env) := hreports ▸ List.mem_map_of_mem ha
      obtain ⟨r, -, hr⟩ := List.mem_map.1 hie
      rw [← hr]
      rfl

/-- An active alarm that came up at the given time. -/
def oldAlarm (startTime : ℤ) : TimedRecord := ⟨⟨true, 1161, 0, true, []⟩, startTime⟩

/-- The table with this alarm alone. -/
def oneAlarm (startTime : ℤ) : TimedRecords :=
  Function.update (fun _ => ⟨⟨false, 0, 0, false, []⟩, 0⟩) 0 (oldAlarm startTime)

/-- The clock stands at the given time. -/
def clockAt (now : ℤ) : AlarmQueryEnv := ⟨fun _ => now, now, fun _ => none, fun _ => true⟩

lemma activeAlarms_oneAlarm : activeAlarms (oneAlarm 0) = [oldAlarm 0] := by decide +kernel

/-- The theorem at a query for all sub-codes of a code. -/
theorem alarmQuery_answered_oneCode :
    QueryAnswered (clockAt 60) 1161 alarmQueryAll (oneAlarm 0)
      (handleAlarmQueryRequest true (clockAt 60) (oneAlarm 0) ⟨121, 23, 1, 2, 0, 7⟩ 1161
        alarmQueryAll).2 :=
  alarmQuery_answered _ _ _ (by decide)

/-- A day after it came up, an alarm that is still active is answered with 'not found'. -/
theorem alarmQuery_not_honest :
    ¬ ∀ (env : AlarmQueryEnv) (records : TimedRecords) (reqHeader : CpriHeader)
      (queryCode querySubcode : ℕ),
      (queryCode = alarmQueryAll → querySubcode = alarmQueryAll) →
      QueryHonest queryCode querySubcode records
        (handleAlarmQueryRequest true env records reqHeader queryCode querySubcode).2 := by
  intro h
  have hnotFound := (h (clockAt 86401) (oneAlarm 0) ⟨121, 23, 1, 2, 0, 7⟩ alarmQueryAll
    alarmQueryAll fun h => h).notFound
  have hall : alarmQueryAll = alarmQueryAll → alarmQueryAll = alarmQueryAll := fun h => h
  have hreports := handleAlarmQueryRequest_reports (clockAt 86401) ⟨121, 23, 1, 2, 0, 7⟩ hall
    (oneAlarm 0)
  have hnone : recentAlarms (clockAt 86401) alarmQueryAll alarmQueryAll 0 [oldAlarm 0] = [] := by
    simp [recentAlarms, Recent, clockAt, oldAlarm]
  rw [activeAlarms_oneAlarm] at hnotFound hreports
  simp only [hnone, if_pos] at hreports
  obtain ⟨a, ha, hie⟩ := List.map_eq_singleton_iff.1 hreports
  refine hnotFound.1 ⟨a, ?_, ?_⟩ (oldAlarm 0) List.mem_cons_self ⟨.inl rfl, .inl rfl⟩
  · rw [ha]
    exact List.mem_cons_self
  · rw [hie]
    rfl

end AntennaMgmt.Alarm
