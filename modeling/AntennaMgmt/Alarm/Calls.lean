import AntennaMgmt.Alarm.Report

/-!
# Whole calls

What the calls of the alarm module leave of the records when no other call comes in between.  Each
of them is the end of a run of its own steps.
-/

namespace AntennaMgmt.Alarm

open AntennaMgmt.Lib

/-- What `alarm_trigger` leaves of the records. -/
def alarmTrigger (tcpConnected : Bool) (records : Records) (key : AlarmKey) (info : Bytes) :
    Records :=
  match triggerRecord records key info with
  | .stored i records => if tcpConnected then markReported records i key else records
  | _ => records

/-- What `alarm_clear` leaves of the records. -/
def alarmClear (records : Records) (key : AlarmKey) : Records :=
  match clearRecord records key with
  | some (_, records) => records
  | none => records

/-- What `alarm_report_all_pending` leaves of the records. -/
def alarmReportAllPending (records : Records) : Records := fun i =>
  if (records i).active && !(records i).reported then { records i with reported := true }
  else records i

variable {ι : Type*} [DecidableEq ι] {s : ReportSys ι} {t : ι} {i : Fin maxAlarmRecords}
  {key : AlarmKey} {info : Bytes}

/-- From one state a thread can come to rest with these records. -/
def Rests (s : ReportSys ι) (t : ι) (records : Records) : Prop :=
  ∃ l s', Run Step s l s' ∧ s'.pc t = .idle ∧ s'.tcpConnected = s.tcpConnected ∧
    s'.records = records

lemma Rests.step {s' : ReportSys ι} {a : Act ι} {records : Records} (h : Rests s' t records)
    (hstep : Step s a s') (hconn : s'.tcpConnected = s.tcpConnected) : Rests s t records := by
  obtain ⟨l, u, hrun, hpc, htcp, hrecords⟩ := h
  exact ⟨a :: l, u, .cons hstep hrun, hpc, htcp.trans hconn, hrecords⟩

lemma rests_of_idle (hpc : s.pc t = .idle) : Rests s t s.records :=
  ⟨[], s, .nil s, hpc, rfl, rfl⟩

@[simp] lemma goto_pc_self (s : ReportSys ι) (t : ι) (p : Pc) : (s.goto t p).pc t = p :=
  Function.update_self _ _ _

lemma goto_records (s : ReportSys ι) (t : ι) (p : Pc) : (s.goto t p).records = s.records := rfl

lemma rests_triggerMark (hpc : s.pc t = .triggerMark i key) :
    Rests s t (markReported s.records i key) :=
  (rests_of_idle (goto_pc_self (s.markSlot i key) t .idle)).step (step_mark_triggerMark hpc) rfl

lemma rests_triggerSend (hpc : s.pc t = .triggerSend i key info) :
    Rests s t (markReported s.records i key) := by
  have hrest := rests_triggerMark
    (goto_pc_self (s.send ⟨key, .active, info.take 99⟩) t (.triggerMark i key))
  rw [goto_records, ReportSys.send_records] at hrest
  exact hrest.step (step_send_triggerSend hpc) (ReportSys.send_tcpConnected _ _)

/-- The steps of a thread that calls `alarm_trigger`. -/
lemma rests_alarmTrigger (hpc : s.pc t = .idle) (key : AlarmKey) (info : Bytes) :
    Rests s t (alarmTrigger s.tcpConnected s.records key info) := by
  have hstep := step_trigger hpc key info
  rw [alarmTrigger]
  rw [ReportSys.trigger] at hstep
  cases htrigger : triggerRecord s.records key info with
  | known => exact rests_of_idle hpc
  | full => exact rests_of_idle hpc
  | stored i records =>
    rw [htrigger] at hstep
    dsimp only at hstep ⊢
    split at hstep
    · next hconn =>
      rw [if_pos hconn]
      exact (rests_triggerSend (goto_pc_self (s.withRecords records) t _)).step hstep rfl
    · next hconn =>
      rw [if_neg hconn]
      exact (rests_of_idle (s := s.withRecords records) hpc).step hstep rfl

lemma rests_clearSend (hpc : s.pc t = .clearSend key info) : Rests s t s.records := by
  have hstep : Step s (.send t) ((s.send ⟨key, .cleared, info⟩).goto t .idle) := by
    simp only [Step, next, hpc]
  have hrest := rests_of_idle (goto_pc_self (s.send ⟨key, .cleared, info⟩) t .idle)
  rw [goto_records, ReportSys.send_records] at hrest
  exact hrest.step hstep (ReportSys.send_tcpConnected _ _)

/-- The steps of a thread that calls `alarm_clear`. -/
lemma rests_alarmClear (hpc : s.pc t = .idle) (key : AlarmKey) :
    Rests s t (alarmClear s.records key) := by
  have hstep := step_clear hpc key
  rw [alarmClear]
  rw [ReportSys.clear] at hstep
  cases hclear : clearRecord s.records key with
  | none => exact rests_of_idle hpc
  | some r =>
    obtain ⟨info, records⟩ := r
    rw [hclear] at hstep
    dsimp only at hstep ⊢
    split at hstep
    · exact (rests_clearSend (goto_pc_self (s.withRecords records) t _)).step hstep rfl
    · exact (rests_of_idle (s := s.withRecords records) hpc).step hstep rfl

/-- The records with every pending one from slot `n` on marked. -/
def markFrom (n : ℕ) (records : Records) : Records := fun i =>
  if n ≤ (i : ℕ) && (records i).active && !(records i).reported then
    { records i with reported := true }
  else records i

lemma markFrom_nextPending_none {records : Records} {n : ℕ}
    (h : nextPending records n = none) : markFrom n records = records := by
  ext1 i
  rw [markFrom, if_neg]
  rw [Bool.not_eq_true]
  exact findSlot_none h i

/-- Marking the slot that the scan stops at, and then those behind it. -/
lemma markFrom_nextPending_some {records : Records} {n : ℕ} (h : nextPending records n = some i) :
    markFrom n records =
      markFrom (i + 1) (markReported records i (records i).key) := by
  obtain ⟨hn, hi, hrep⟩ := nextPending_some h
  have hmark : markReported records i (records i).key =
      Function.update records i { records i with reported := true } := if_pos ⟨hi, rfl⟩
  rw [hmark]
  ext1 j
  rw [markFrom, markFrom]
  rcases eq_or_ne j i with rfl | hne
  · simp [hn, hi, hrep]
  · rw [Function.update_of_ne hne]
    by_cases hpending : (records j).active ∧ (records j).reported = false
    · have hiff : n ≤ (j : ℕ) ↔ (i : ℕ) + 1 ≤ j := by
        constructor
        · intro hj
          obtain ⟨k, hk, hle⟩ := exists_nextPending hj hpending.1 hpending.2
          obtain rfl : i = k := Option.some.inj (h.symm.trans hk)
          exact lt_of_le_of_ne hle hne.symm
        · intro hlt
          omega
      simp only [hiff]
    · rw [if_neg, if_neg]
      · simpa using fun _ hactive => by simpa [hactive] using hpending
      · simpa using fun _ hactive => by simpa [hactive] using hpending

/-- A report of the scan, from its send to the search for the next one. -/
lemma rests_scanSend {records : Records} (hpc : s.pc t = .scanSend i key info)
    (hnext : ∀ s' : ReportSys ι, s'.records = markReported s.records i key →
      s'.pc t = scanPos s'.records (i + 1) → Rests s' t records) : Rests s t records := by
  have hsend : Step s (.send t) ((s.send ⟨key, .active, info⟩).goto t (.scanMark i key)) := by
    simp only [Step, next, hpc]
  generalize hs' : (s.send ⟨key, .active, info⟩).goto t (.scanMark i key) = s' at hsend
  have hpc' : s'.pc t = .scanMark i key := by
    rw [← hs']
    exact goto_pc_self _ _ _
  have hrecords : s'.records = s.records := by
    rw [← hs']
    exact ReportSys.send_records _ _
  have htcp : s'.tcpConnected = s.tcpConnected := by
    rw [← hs']
    exact ReportSys.send_tcpConnected _ _
  have hmark : Step s' (.mark t) ((s'.markSlot i key).scanFrom t (i + 1)) := by
    simp only [Step, next, hpc']
  refine Rests.step (Rests.step (hnext _ ?_ ?_) hmark rfl) hsend htcp
  · rw [← hrecords]
    rfl
  · exact goto_pc_self _ _ _

lemma rests_scanPos {n : ℕ} (hpc : s.pc t = scanPos s.records n) :
    Rests s t (markFrom n s.records) := by
  -- by induction on how far the end of the table is
  obtain ⟨k, hk⟩ : ∃ k, maxAlarmRecords - n = k := ⟨_, rfl⟩
  induction k using Nat.strong_induction_on generalizing n s with
  | _ k ih =>
    rw [scanPos] at hpc
    cases hnext : nextPending s.records n with
    | none =>
      rw [hnext] at hpc
      rw [markFrom_nextPending_none hnext]
      exact rests_of_idle hpc
    | some i =>
      rw [hnext] at hpc
      rw [markFrom_nextPending_some hnext]
      have hn := (nextPending_some hnext).1
      have hi := i.isLt
      refine rests_scanSend hpc fun s' hrecords hpc' => ?_
      rw [← hrecords]
      exact ih (maxAlarmRecords - (i + 1)) (by omega) hpc' rfl

/-- The steps of a thread that has come to `alarm_report_all_pending`. -/
lemma rests_scanStart (hpc : s.pc t = .scanStart) :
    Rests s t (alarmReportAllPending s.records) := by
  have hall : alarmReportAllPending s.records = markFrom 0 s.records := by
    ext1 i
    simp [alarmReportAllPending, markFrom]
  have hrest : Rests (s.scanFrom t 0) t (markFrom 0 s.records) :=
    rests_scanPos (goto_pc_self _ _ _)
  rw [hall]
  exact hrest.step (step_scan hpc) rfl

/-! ### The alarms that are active after a call -/

variable {records : Records} {tcpConnected : Bool} {key' : AlarmKey}

lemma isActive_alarmTrigger (h : triggerRecord records key info ≠ .full) :
    IsActive (alarmTrigger tcpConnected records key info) key' ↔
      IsActive records key' ∨ key' = key := by
  rw [alarmTrigger]
  cases htrigger : triggerRecord records key info with
  | known =>
    refine ⟨.inl, ?_⟩
    rintro (hactive | rfl)
    · exact hactive
    · exact isActive_of_known htrigger
  | full => exact absurd htrigger h
  | stored i records' =>
    dsimp only
    rw [← isActive_of_stored htrigger]
    split
    · exact isActive_markReported _ _ _ _
    · exact Iff.rfl

lemma distinctAlarms_alarmTrigger (h : DistinctAlarms records) :
    DistinctAlarms (alarmTrigger tcpConnected records key info) := by
  rw [alarmTrigger]
  split
  · next htrigger =>
    have hstored := distinctAlarms_of_stored h htrigger
    split
    · exact distinctAlarms_markReported hstored _ _
    · exact hstored
  · exact h

lemma isActive_alarmClear (h : DistinctAlarms records) :
    IsActive (alarmClear records key) key' ↔ IsActive records key' ∧ key' ≠ key := by
  rw [alarmClear]
  split
  · next hclear => exact isActive_of_cleared h hclear key'
  · next hclear =>
    refine ⟨fun hactive => ⟨hactive, ?_⟩, And.left⟩
    rintro rfl
    exact clearRecord_none hclear hactive

lemma distinctAlarms_alarmClear (h : DistinctAlarms records) :
    DistinctAlarms (alarmClear records key) := by
  rw [alarmClear]
  split
  · next hclear => exact distinctAlarms_of_cleared h hclear
  · exact h

lemma alarmReportAllPending_active (records : Records) (i : Fin maxAlarmRecords) :
    (alarmReportAllPending records i).active = (records i).active := by
  rw [alarmReportAllPending]
  split <;> rfl

lemma alarmReportAllPending_key (records : Records) (i : Fin maxAlarmRecords) :
    (alarmReportAllPending records i).key = (records i).key := by
  rw [alarmReportAllPending]
  split <;> rfl

lemma isActive_alarmReportAllPending :
    IsActive (alarmReportAllPending records) key ↔ IsActive records key := by
  simp only [IsActive, alarmReportAllPending_active, alarmReportAllPending_key]

lemma distinctAlarms_alarmReportAllPending (h : DistinctAlarms records) :
    DistinctAlarms (alarmReportAllPending records) := by
  intro j k hj hk hkey
  rw [alarmReportAllPending_active] at hj hk
  rw [alarmReportAllPending_key, alarmReportAllPending_key] at hkey
  exact h j k hj hk hkey

end AntennaMgmt.Alarm
