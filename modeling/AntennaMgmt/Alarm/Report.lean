import AntennaMgmt.Alarm.Manager
import AntennaMgmt.Lib.Transition

/-!
# Reporting alarms to the base band unit

The calls of the alarm module decide under the mutex what is to be reported and send the report
after they have given it up; a flag of the record is set in a later region.  A step of the
model is one mutex region or one send, so that runs are the interleavings of the calls.

A send made while the manager is connected reaches the base band unit, and one made while it is
not is lost; the calls do not look at its result.
-/

namespace AntennaMgmt.Alarm

open AntennaMgmt.Lib

/-- `ALARM_CLEAR_FLAG_ACTIVE` and `ALARM_CLEAR_FLAG_CLEARED`. -/
inductive ClearFlag
  | active
  | cleared
deriving DecidableEq, Repr

/-- An alarm report. -/
structure Report where
  key : AlarmKey
  clearFlag : ClearFlag
  additionalInfo : Bytes
deriving DecidableEq, Repr

/-- Where a thread stands.  `alarm_trigger` and `alarm_report_all_pending` send a report and
then mark the slot they found the alarm in; `alarm_clear` sends and returns. -/
inductive Pc
  | idle
  | triggerSend (i : Fin maxAlarmRecords) (key : AlarmKey) (info : Bytes)
  | triggerMark (i : Fin maxAlarmRecords) (key : AlarmKey)
  | clearSend (key : AlarmKey) (info : Bytes)
  | scanStart
  | scanSend (i : Fin maxAlarmRecords) (key : AlarmKey) (info : Bytes)
  | scanMark (i : Fin maxAlarmRecords) (key : AlarmKey)
deriving DecidableEq, Repr

namespace Pc

/-- The thread is about to report the alarm as active. -/
def SendsActive (key : AlarmKey) : Pc → Prop
  | triggerSend _ key' _ | scanSend _ key' _ => key' = key
  | _ => False

/-- The thread is about to report the alarm as cleared. -/
def SendsCleared (key : AlarmKey) : Pc → Prop
  | clearSend key' _ => key' = key
  | _ => False

/-- The thread scans the records and has the slot still before it. -/
def ScansTo (i : Fin maxAlarmRecords) : Pc → Prop
  | scanStart => True
  | scanSend j _ _ | scanMark j _ => j < i
  | _ => False

@[simp] lemma not_sendsActive_idle (key : AlarmKey) : ¬ SendsActive key idle := id

@[simp] lemma not_sendsCleared_idle (key : AlarmKey) : ¬ SendsCleared key idle := id

@[simp] lemma not_scansTo_idle (i : Fin maxAlarmRecords) : ¬ ScansTo i idle := id

end Pc

/-- Where the loop of `alarm_report_all_pending` stops that goes on from slot `n`: to report the
record it found, or at its end. -/
def scanPos (records : Records) (n : ℕ) : Pc :=
  match nextPending records n with
  | some i => .scanSend i (records i).key (records i).additionalInfo
  | none => .idle

variable {ι : Type*}

/-- The records, the connection flag, the reports that have reached the base band unit (the
latest first) and the position of each thread. -/
structure ReportSys (ι : Type*) where
  records : Records
  tcpConnected : Bool
  received : List Report
  pc : ι → Pc

/-- One atomic step of a call. -/
inductive Act (ι : Type*)
  | trigger (t : ι) (key : AlarmKey) (info : Bytes)
  | clear (t : ι) (key : AlarmKey)
  | setStatus (t : ι) (connected : Bool)
  | reportAllPending (t : ι)
  | scan (t : ι)
  | send (t : ι)
  | mark (t : ι)

/-- After `alarm_manager_init`. -/
def init : ReportSys ι where
  records := noRecords
  tcpConnected := false
  received := []
  pc := fun _ => .idle

namespace ReportSys

/-- What the base band unit was last told about an alarm. -/
def lastReport (s : ReportSys ι) (key : AlarmKey) : Option ClearFlag :=
  (s.received.find? fun r => r.key == key).map Report.clearFlag

/-- No call is in progress. -/
def Quiet (s : ReportSys ι) : Prop := ∀ t, s.pc t = .idle

/-- The record table replaced. -/
def withRecords (s : ReportSys ι) (records : Records) : ReportSys ι := { s with records := records }

/-- The send of a report. -/
def send (s : ReportSys ι) (r : Report) : ReportSys ι :=
  if s.tcpConnected then { s with received := r :: s.received } else s

@[simp] lemma send_records (s : ReportSys ι) (r : Report) : (s.send r).records = s.records := by
  rw [send]
  split <;> rfl

@[simp] lemma send_tcpConnected (s : ReportSys ι) (r : Report) :
    (s.send r).tcpConnected = s.tcpConnected := by
  rw [send]
  split <;> rfl

@[simp] lemma send_pc (s : ReportSys ι) (r : Report) : (s.send r).pc = s.pc := by
  rw [send]
  split <;> rfl

/-- A report that gets through is the last one of its alarm. -/
lemma lastReport_send (s : ReportSys ι) (r : Report) (key : AlarmKey) :
    (s.send r).lastReport key =
      if s.tcpConnected ∧ r.key = key then some r.clearFlag else s.lastReport key := by
  rw [send]
  by_cases hconn : s.tcpConnected
  · by_cases hkey : r.key = key
    · simp [lastReport, hconn, hkey]
    · simp [lastReport, hconn, hkey]
  · simp [hconn]

variable [DecidableEq ι]

/-- Move one thread. -/
def goto (s : ReportSys ι) (t : ι) (p : Pc) : ReportSys ι :=
  { s with pc := Function.update s.pc t p }

/-- The first region of `alarm_trigger`. -/
def trigger (s : ReportSys ι) (t : ι) (key : AlarmKey) (info : Bytes) : ReportSys ι :=
  match triggerRecord s.records key info with
  | .stored i records =>
    if s.tcpConnected then (s.withRecords records).goto t (.triggerSend i key info)
    else s.withRecords records
  -- the alarm is active already, or there is no room for it
  | _ => s

/-- The region of `alarm_clear`. -/
def clear (s : ReportSys ι) (t : ι) (key : AlarmKey) : ReportSys ι :=
  match clearRecord s.records key with
  | some (info, records) =>
    -- without a connection the record goes, and nothing is kept to be reported
    if s.tcpConnected then (s.withRecords records).goto t (.clearSend key info)
    else s.withRecords records
  | none => s

/-- The region of `alarm_set_tcp_status`, which goes on to `alarm_report_all_pending` when the
connection comes up. -/
def setStatus (s : ReportSys ι) (t : ι) (connected : Bool) : ReportSys ι :=
  let s' := { s with tcpConnected := connected }
  if connected && !s.tcpConnected then s'.goto t .scanStart else s'

/-- The loop of `alarm_report_all_pending` from slot `n` to where it gives the mutex up. -/
def scanFrom (s : ReportSys ι) (t : ι) (n : ℕ) : ReportSys ι :=
  s.goto t (scanPos s.records n)

/-- The region after a send that marks the slot. -/
def markSlot (s : ReportSys ι) (i : Fin maxAlarmRecords) (key : AlarmKey) : ReportSys ι :=
  s.withRecords (markReported s.records i key)

end ReportSys

open ReportSys

variable [DecidableEq ι]

/-- The step function: an action is possible when its thread stands where the action starts. -/
def next (s : ReportSys ι) : Act ι → Option (ReportSys ι)
  | .trigger t key info => if s.pc t = .idle then some (s.trigger t key info) else none
  | .clear t key => if s.pc t = .idle then some (s.clear t key) else none
  | .setStatus t connected => if s.pc t = .idle then some (s.setStatus t connected) else none
  | .reportAllPending t => if s.pc t = .idle then some (s.goto t .scanStart) else none
  | .scan t => if s.pc t = .scanStart then some (s.scanFrom t 0) else none
  | .send t => match s.pc t with
    | .triggerSend i key info =>
      some ((s.send ⟨key, .active, info.take 99⟩).goto t (.triggerMark i key))
    | .clearSend key info => some ((s.send ⟨key, .cleared, info⟩).goto t .idle)
    | .scanSend i key info => some ((s.send ⟨key, .active, info⟩).goto t (.scanMark i key))
    | _ => none
  | .mark t => match s.pc t with
    | .triggerMark i key => some ((s.markSlot i key).goto t .idle)
    -- the mark and the search for the next record are one region
    | .scanMark i key => some ((s.markSlot i key).scanFrom t (i + 1))
    | _ => none

/-- One atomic step of some thread. -/
def Step (s : ReportSys ι) (a : Act ι) (s' : ReportSys ι) : Prop := next s a = some s'

/-- The steps one by one: where the thread stands, and what the action makes of the state. -/
inductive StepCase (s : ReportSys ι) : Act ι → ReportSys ι → Prop
  | trigger {t key info} : s.pc t = .idle → StepCase s (.trigger t key info) (s.trigger t key info)
  | clear {t key} : s.pc t = .idle → StepCase s (.clear t key) (s.clear t key)
  | setStatus {t connected} :
      s.pc t = .idle → StepCase s (.setStatus t connected) (s.setStatus t connected)
  | reportAllPending {t} : s.pc t = .idle → StepCase s (.reportAllPending t) (s.goto t .scanStart)
  | scan {t} : s.pc t = .scanStart → StepCase s (.scan t) (s.scanFrom t 0)
  | sendTriggered {t i key info} : s.pc t = .triggerSend i key info →
      StepCase s (.send t) ((s.send ⟨key, .active, info.take 99⟩).goto t (.triggerMark i key))
  | sendCleared {t key info} : s.pc t = .clearSend key info →
      StepCase s (.send t) ((s.send ⟨key, .cleared, info⟩).goto t .idle)
  | sendScanned {t i key info} : s.pc t = .scanSend i key info →
      StepCase s (.send t) ((s.send ⟨key, .active, info⟩).goto t (.scanMark i key))
  | markTriggered {t i key} : s.pc t = .triggerMark i key →
      StepCase s (.mark t) ((s.markSlot i key).goto t .idle)
  | markScanned {t i key} : s.pc t = .scanMark i key →
      StepCase s (.mark t) ((s.markSlot i key).scanFrom t (i + 1))

variable {s s' : ReportSys ι} {t : ι} {a : Act ι}

/-- Everything one step can do. -/
lemma step_cases (h : Step s a s') : StepCase s a s' := by
  cases a with
  | trigger t key info =>
    obtain ⟨hpc, heq⟩ := Option.ite_none_right_eq_some.1 h
    obtain rfl := Option.some.inj heq
    exact .trigger hpc
  | clear t key =>
    obtain ⟨hpc, heq⟩ := Option.ite_none_right_eq_some.1 h
    obtain rfl := Option.some.inj heq
    exact .clear hpc
  | setStatus t connected =>
    obtain ⟨hpc, heq⟩ := Option.ite_none_right_eq_some.1 h
    obtain rfl := Option.some.inj heq
    exact .setStatus hpc
  | reportAllPending t =>
    obtain ⟨hpc, heq⟩ := Option.ite_none_right_eq_some.1 h
    obtain rfl := Option.some.inj heq
    exact .reportAllPending hpc
  | scan t =>
    obtain ⟨hpc, heq⟩ := Option.ite_none_right_eq_some.1 h
    obtain rfl := Option.some.inj heq
    exact .scan hpc
  | send t =>
    simp only [Step, next] at h
    cases hpc : s.pc t <;> rw [hpc] at h <;> cases h
    · exact .sendTriggered hpc
    · exact .sendCleared hpc
    · exact .sendScanned hpc
  | mark t =>
    simp only [Step, next] at h
    cases hpc : s.pc t <;> rw [hpc] at h <;> cases h
    · exact .markTriggered hpc
    · exact .markScanned hpc

/-! ### Steps that are possible -/

lemma step_trigger (h : s.pc t = .idle) (key : AlarmKey) (info : Bytes) :
    Step s (.trigger t key info) (s.trigger t key info) := if_pos h

lemma step_clear (h : s.pc t = .idle) (key : AlarmKey) :
    Step s (.clear t key) (s.clear t key) := if_pos h

lemma step_setStatus (h : s.pc t = .idle) (connected : Bool) :
    Step s (.setStatus t connected) (s.setStatus t connected) := if_pos h

lemma step_scan (h : s.pc t = .scanStart) : Step s (.scan t) (s.scanFrom t 0) := if_pos h

lemma step_send_triggerSend {i : Fin maxAlarmRecords} {key : AlarmKey} {info : Bytes}
    (h : s.pc t = .triggerSend i key info) :
    Step s (.send t) ((s.send ⟨key, .active, info.take 99⟩).goto t (.triggerMark i key)) := by
  simp only [Step, next, h]

lemma step_mark_triggerMark {i : Fin maxAlarmRecords} {key : AlarmKey}
    (h : s.pc t = .triggerMark i key) :
    Step s (.mark t) ((s.markSlot i key).goto t .idle) := by
  simp only [Step, next, h]

end AntennaMgmt.Alarm
