import AntennaMgmt.Alarm.Report
import Mathlib.Data.Finset.Card
import Mathlib.Data.Finset.Insert
import Mathlib.Data.Finset.Range
import Mathlib.Data.Finset.Union

/-!
# The alarm table over a run

The counters `alarm_count` and `total_count` are kept next to the records.  As long as the alarms
of a program are at most as many as there are records, no alarm stands in two records, the first
counter is the number of active records and every new alarm finds a free one, whatever the calls
do between each other's regions.
-/

namespace AntennaMgmt.Alarm

open AntennaMgmt.Lib

variable {ι : Type*}

/-- The alarm manager with its counters. -/
structure AlarmTable (ι : Type*) where
  sys : ReportSys ι
  alarmCount : ℕ
  totalCount : ℕ

namespace AlarmTable

/-- After `alarm_manager_init`. -/
def init : AlarmTable ι := ⟨Alarm.init, 0, 0⟩

/-- `alarm_count` after a region, in 32 bits. -/
def countAfter (s : AlarmTable ι) : Act ι → ℕ
  | .trigger _ key info =>
    match triggerRecord s.sys.records key info with
    | .stored .. => (s.alarmCount + 1) % 2 ^ 32
    | _ => s.alarmCount
  | .clear _ key =>
    if (clearRecord s.sys.records key).isSome then (s.alarmCount + (2 ^ 32 - 1)) % 2 ^ 32
    else s.alarmCount
  | _ => s.alarmCount

/-- `total_count` after a region, in 32 bits. -/
def totalAfter (s : AlarmTable ι) : Act ι → ℕ
  | .trigger _ key info =>
    match triggerRecord s.sys.records key info with
    | .stored .. => (s.totalCount + 1) % 2 ^ 32
    | _ => s.totalCount
  | _ => s.totalCount

/-- One atomic step of some thread, with the counters. -/
def Step [DecidableEq ι] (s : AlarmTable ι) (a : Act ι) (s' : AlarmTable ι) : Prop :=
  Alarm.Step s.sys a s'.sys ∧ s'.alarmCount = s.countAfter a ∧ s'.totalCount = s.totalAfter a

end AlarmTable

/-- The alarm that a region names, if it names one. -/
def Act.key? : Act ι → Option AlarmKey
  | .trigger _ key _ | .clear _ key => some key
  | _ => none

/-- The region names an alarm of the set, or none. -/
def Act.Within (keys : Finset AlarmKey) (a : Act ι) : Prop := ∀ key, a.key? = some key → key ∈ keys

/-- The number of active records. -/
def activeCount (records : Records) : ℕ := usedCount AlarmRecord.active records

/-! ### What a step does to the records -/

/-- Code, sub-code and active flag are the same. -/
def SameAlarm (r r' : AlarmRecord) : Prop := r'.active = r.active ∧ r'.key = r.key

/-- How a region can change the records. -/
inductive RecordsStep (records : Records) : Act ι → Records → Prop
  | stored {t key info i records'} : triggerRecord records key info = .stored i records' →
      RecordsStep records (.trigger t key info) records'
  | refused {t key info} : (∀ i records', triggerRecord records key info ≠ .stored i records') →
      RecordsStep records (.trigger t key info) records
  | cleared {t key info records'} : clearRecord records key = some (info, records') →
      RecordsStep records (.clear t key) records'
  | absent {t key} : clearRecord records key = none → RecordsStep records (.clear t key) records
  | same {a records'} : a.key? = none → (∀ i, SameAlarm (records i) (records' i)) →
      RecordsStep records a records'

/-- Every step is one of them. -/
lemma recordsStep [DecidableEq ι] {sys sys' : ReportSys ι} {a : Act ι} (h : Step sys a sys') :
    RecordsStep sys.records a sys'.records := by
  have hrefl : ∀ i, SameAlarm (sys.records i) (sys.records i) := fun i => ⟨rfl, rfl⟩
  have hmark : ∀ i key j, SameAlarm (sys.records j) (markReported sys.records i key j) :=
    fun i key j => ⟨markReported_active sys.records i j key, markReported_key sys.records i j key⟩
  cases step_cases h with
  | @trigger t key info hpc =>
    cases htrigger : triggerRecord sys.records key info with
    | stored i records' =>
      have hrecords : (sys.trigger t key info).records = records' := by
        rw [ReportSys.trigger, htrigger]
        dsimp only
        split_ifs <;> rfl
      rw [hrecords]
      exact .stored htrigger
    | known =>
      rw [ReportSys.trigger, htrigger]
      exact .refused fun i records' heq => by rw [htrigger] at heq; cases heq
    | full =>
      rw [ReportSys.trigger, htrigger]
      exact .refused fun i records' heq => by rw [htrigger] at heq; cases heq
  | @clear t key hpc =>
    cases hclear : clearRecord sys.records key with
    | none =>
      rw [ReportSys.clear, hclear]
      exact .absent hclear
    | some r =>
      obtain ⟨info, records'⟩ := r
      have hrecords : (sys.clear t key).records = records' := by
        rw [ReportSys.clear, hclear]
        dsimp only
        split_ifs <;> rfl
      rw [hrecords]
      exact .cleared hclear
  | @setStatus t connected hpc =>
    have hrecords : (sys.setStatus t connected).records = sys.records := by
      rw [ReportSys.setStatus]
      split_ifs <;> rfl
    rw [hrecords]
    exact .same rfl hrefl
  | reportAllPending hpc => exact .same rfl hrefl
  | scan hpc => exact .same rfl hrefl
  | sendTriggered hpc =>
    exact .same rfl fun i => by rw [ReportSys.goto, ReportSys.send_records]; exact hrefl i
  | sendCleared hpc =>
    exact .same rfl fun i => by rw [ReportSys.goto, ReportSys.send_records]; exact hrefl i
  | sendScanned hpc =>
    exact .same rfl fun i => by rw [ReportSys.goto, ReportSys.send_records]; exact hrefl i
  | markTriggered hpc => exact .same rfl (hmark _ _)
  | markScanned hpc => exact .same rfl (hmark _ _)

/-! ### The invariant -/

/-- What holds of the table over a run with alarms from a set. -/
structure TableInv (keys : Finset AlarmKey) (s : AlarmTable ι) : Prop where
  distinct : DistinctAlarms s.sys.records
  count : s.alarmCount = activeCount s.sys.records
  within : ∀ i, (s.sys.records i).active → (s.sys.records i).key ∈ keys

lemma tableInv_init (keys : Finset AlarmKey) : TableInv keys (AlarmTable.init : AlarmTable ι) where
  distinct := distinctAlarms_noRecords
  count := (usedCount_of_unused fun _ => rfl).symm
  within _ h := by cases h

lemma activeCount_le (records : Records) : activeCount records ≤ maxAlarmRecords :=
  usedCount_le.trans_eq (Fintype.card_fin _)

lemma activeCount_congr {records records' : Records}
    (h : ∀ i, SameAlarm (records i) (records' i)) : activeCount records' = activeCount records := by
  rw [activeCount, usedCount, activeCount, usedCount]
  exact congrArg Finset.card (Finset.filter_congr fun i _ => by rw [(h i).1])

variable {keys : Finset AlarmKey} {s s' : AlarmTable ι}

/-- A full table would hold as many different alarms as it has records, and the new one besides. -/
lemma triggerRecord_ne_full {records : Records} (hdistinct : DistinctAlarms records)
    (hwithin : ∀ i, (records i).active → (records i).key ∈ keys)
    (hkeys : keys.card ≤ maxAlarmRecords) {key : AlarmKey} (hkey : key ∈ keys) (info : Bytes) :
    triggerRecord records key info ≠ .full := by
  intro hfull
  have hactive := findFreeRecord_none (findFreeRecord_of_full hfull)
  have hnew : findAlarmRecord records key = none := by
    rw [triggerRecord] at hfull
    split at hfull
    · cases hfull
    · next hnone => exact hnone
  set held : Finset AlarmKey := Finset.univ.image fun i => (records i).key with hheld
  have hcard : held.card = maxAlarmRecords := by
    rw [hheld, Finset.card_image_of_injective, Finset.card_univ, Fintype.card_fin]
    exact fun i j heq => hdistinct i j (hactive i) (hactive j) heq
  have hnotMem : key ∉ held := by
    intro hmem
    obtain ⟨i, -, hi⟩ := Finset.mem_image.1 hmem
    exact findAlarmRecord_none hnew ⟨i, hactive i, hi⟩
  have hsub : insert key held ⊆ keys := by
    refine Finset.insert_subset hkey fun k hk => ?_
    obtain ⟨i, -, rfl⟩ := Finset.mem_image.1 hk
    exact hwithin i (hactive i)
  have hle := Finset.card_le_card hsub
  rw [Finset.card_insert_of_notMem hnotMem, hcard] at hle
  omega

variable [DecidableEq ι]

/-- Every step keeps the invariant. -/
lemma TableInv.step (h : TableInv keys s) {a : Act ι} (ha : a.Within keys)
    (hstep : s.Step a s') : TableInv keys s' := by
  obtain ⟨hsys, hcount, -⟩ := hstep
  generalize hrecords : s'.sys.records = records' at *
  have hrec := recordsStep hsys
  rw [hrecords] at hrec
  cases hrec with
  | @stored t key info i _ hstored =>
    obtain ⟨hnew, hfree, rfl⟩ := triggerRecord_stored hstored
    have hactive : activeCount (Function.update s.sys.records i (newRecord key info)) =
        activeCount s.sys.records + 1 := usedCount_update_take hfree rfl
    have hle := activeCount_le (Function.update s.sys.records i (newRecord key info))
    refine ⟨?_, ?_, ?_⟩
    · rw [hrecords]
      exact distinctAlarms_update_newRecord h.distinct hnew
    · rw [hcount, AlarmTable.countAfter, hstored, hrecords, hactive, h.count]
      refine Nat.mod_eq_of_lt ?_
      rw [← hactive]
      exact hle.trans_lt (by decide)
    · rw [hrecords]
      intro j hj
      rcases eq_or_ne j i with rfl | hne
      · rw [Function.update_self]
        exact ha key rfl
      · rw [Function.update_of_ne hne] at hj ⊢
        exact h.within j hj
  | @refused t key info hrefused =>
    refine ⟨by rw [hrecords]; exact h.distinct, ?_, by rw [hrecords]; exact h.within⟩
    rw [hcount, AlarmTable.countAfter, hrecords, ← h.count]
    split
    · next i records' heq => exact absurd heq (hrefused i records')
    · rfl
  | @cleared t key info _ hclear =>
    have hdistinct := distinctAlarms_of_cleared h.distinct hclear
    obtain ⟨i, hi, -, rfl⟩ := clearRecord_some hclear
    set freed := Function.update s.sys.records i { s.sys.records i with active := false } with heq
    have hactive : activeCount freed + 1 = activeCount s.sys.records := usedCount_update_free hi rfl
    have hle : activeCount freed ≤ 64 := activeCount_le freed
    refine ⟨by rwa [hrecords], ?_, ?_⟩
    · rw [hcount, AlarmTable.countAfter, hclear, Option.isSome_some, if_pos rfl, hrecords,
        h.count, ← hactive]
      omega
    · rw [hrecords]
      intro j hj
      rw [heq] at hj ⊢
      rcases eq_or_ne j i with rfl | hne
      · rw [Function.update_self] at hj
        cases hj
      · rw [Function.update_of_ne hne] at hj ⊢
        exact h.within j hj
  | @absent t key habsent =>
    refine ⟨by rw [hrecords]; exact h.distinct, ?_, by rw [hrecords]; exact h.within⟩
    rw [hcount, AlarmTable.countAfter, habsent, hrecords, ← h.count]
    rfl
  | same hkey hsame =>
    refine ⟨?_, ?_, ?_⟩
    · rw [hrecords]
      intro i j hi hj heq
      rw [(hsame i).1] at hi
      rw [(hsame j).1] at hj
      rw [(hsame i).2, (hsame j).2] at heq
      exact h.distinct i j hi hj heq
    · rw [hcount, hrecords, activeCount_congr hsame, ← h.count]
      cases a <;> first | rfl | cases hkey
    · rw [hrecords]
      intro i hi
      rw [(hsame i).1] at hi
      rw [(hsame i).2]
      exact h.within i hi

/-- The record is the one that the step names: a trigger takes a free record for its alarm, and a
clear frees the record of its alarm. -/
inductive Named (a : Act ι) (r r' : AlarmRecord) : Prop
  | taken {t : ι} {key : AlarmKey} {info : Bytes} : a = .trigger t key info → r.active = false →
      r'.active = true → r'.key = key → Named a r r'
  | freed {t : ι} {key : AlarmKey} : a = .clear t key → r.active = true → r.key = key →
      r'.active = false → r'.key = key → Named a r r'

/-- A step leaves every record alone but the one that it names. -/
lemma sameAlarm_or_named {a : Act ι} (hstep : s.Step a s') (i : Fin maxAlarmRecords) :
    SameAlarm (s.sys.records i) (s'.sys.records i) ∨
      Named a (s.sys.records i) (s'.sys.records i) := by
  have hrec := recordsStep hstep.1
  generalize s'.sys.records = records' at *
  cases hrec with
  | @stored t key info j _ hstored =>
    obtain ⟨-, hfree, rfl⟩ := triggerRecord_stored hstored
    rcases eq_or_ne i j with rfl | hne
    · rw [Function.update_self]
      exact .inr (.taken rfl hfree rfl rfl)
    · rw [Function.update_of_ne hne]
      exact .inl ⟨rfl, rfl⟩
  | refused => exact .inl ⟨rfl, rfl⟩
  | @cleared t key info _ hclear =>
    obtain ⟨j, hj, hkey, rfl⟩ := clearRecord_some hclear
    rcases eq_or_ne i j with rfl | hne
    · rw [Function.update_self]
      exact .inr (.freed rfl hj hkey rfl hkey)
    · rw [Function.update_of_ne hne]
      exact .inl ⟨rfl, rfl⟩
  | absent => exact .inl ⟨rfl, rfl⟩
  | same _ hsame => exact .inl (hsame i)

/-- A clear makes its alarm inactive. -/
lemma TableInv.not_isActive_of_clear (h : TableInv keys s) {t : ι} {key : AlarmKey}
    (hstep : s.Step (.clear t key) s') : ¬ IsActive s'.sys.records key := by
  have hrec := recordsStep hstep.1
  generalize s'.sys.records = records' at *
  cases hrec with
  | cleared hclear =>
    rw [isActive_of_cleared h.distinct hclear]
    exact fun hactive => hactive.2 rfl
  | absent habsent => exact clearRecord_none habsent
  | same hkey => cases hkey

/-- **The invariant of the alarm table.**  Over every run whose alarms come from a set of at most
`MAX_ALARM_RECORDS` pairs of a code and a sub-code, no alarm stands in two active records,
`alarm_count` is the number of active records, a trigger finds a record, a step changes code,
sub-code and active flag of no record but the one it names, and a clear makes its alarm
inactive. -/
theorem alarmTable_invariant {keys : Finset AlarmKey} (hkeys : keys.card ≤ maxAlarmRecords)
    {l : List (Act ι)} {s : AlarmTable ι}
    (hrun : Run (restrict AlarmTable.Step fun _ a => a.Within keys) .init l s) :
    DistinctAlarms s.sys.records ∧ s.alarmCount = activeCount s.sys.records ∧
      (∀ key ∈ keys, ∀ info, triggerRecord s.sys.records key info ≠ .full) ∧
      (∀ a s', s.Step a s' → ∀ i, SameAlarm (s.sys.records i) (s'.sys.records i) ∨
        Named a (s.sys.records i) (s'.sys.records i)) ∧
      ∀ t key s', s.Step (.clear t key) s' → ¬ IsActive s'.sys.records key := by
  have hinv : TableInv keys s :=
    hrun.invariant (fun _ _ _ h hstep => h.step hstep.2 hstep.1) (tableInv_init keys)
  exact ⟨hinv.distinct, hinv.count,
    fun key hkey info => triggerRecord_ne_full hinv.distinct hinv.within hkeys hkey info,
    fun a s' hstep i => sameAlarm_or_named hstep i,
    fun t key s' hstep => hinv.not_isActive_of_clear hstep⟩

/-- The alarms of the program: the antenna's own, eight optical ports and ten temperature points
among them, and those of the messages that `loopback` and `reset` cannot parse. -/
def programAlarms : Finset AlarmKey :=
  {(50001, 0), (1158, 0), (1159, 0), (1160, 0), (1161, 0)} ∪
    (Finset.range 8).image (fun port => (1097, port)) ∪
    (Finset.range 10).image (fun point => (1156, point)) ∪
    (Finset.range 6).image (fun error => (60001 + error, 0)) ∪
    (Finset.range 4).image (fun error => (70001 + error, 0))

lemma card_programAlarms : programAlarms.card ≤ maxAlarmRecords := by decide

instance (keys : Finset AlarmKey) (a : Act ι) : Decidable (a.Within keys) :=
  inferInstanceAs (Decidable (∀ key ∈ a.key?, key ∈ keys))

/-- The step function with the counters. -/
def AlarmTable.next (s : AlarmTable ι) (a : Act ι) : Option (AlarmTable ι) :=
  (Alarm.next s.sys a).map fun sys => ⟨sys, s.countAfter a, s.totalAfter a⟩

lemma AlarmTable.step_of_next {s s' : AlarmTable ι} {a : Act ι} (h : s.next a = some s') :
    s.Step a s' := by
  obtain ⟨sys, hsys, rfl⟩ := Option.map_eq_some_iff.1 h
  exact ⟨hsys, rfl, rfl⟩

/-- Two alarms are raised, one of them twice, before there is a connection.  While the scan is about
to report the first one, the other thread clears it and puts an alarm of its own into the record. -/
def reusedRecord : List (Act Bool) :=
  [.trigger true (1158, 0) [], .trigger false (1097, 3) [1], .trigger true (1158, 0) [],
    .setStatus true true, .scan true, .clear false (1158, 0), .send false,
    .trigger false (1160, 0) [], .send true, .mark true, .send true, .mark true]

/-- The program's alarms are such a set; the alarm that is in the record now is cleared, too. -/
theorem alarmTable_invariant_reusedRecord : ∃ s s' : AlarmTable Bool,
    Run (restrict AlarmTable.Step fun _ a => a.Within programAlarms) .init reusedRecord s ∧
    (s.sys.records 0).key = (1160, 0) ∧ activeCount s.sys.records = 2 ∧
      DistinctAlarms s.sys.records ∧
      (∀ key ∈ programAlarms, ∀ info, triggerRecord s.sys.records key info ≠ .full) ∧
      s.Step (.clear true (1160, 0)) s' ∧ ¬ IsActive s'.sys.records (1160, 0) := by
  have hend : ∃ s ∈ execute AlarmTable.next (fun _ a => a.Within programAlarms) .init reusedRecord,
      (s.sys.records 0).key = (1160, 0) ∧ s.alarmCount = 2 ∧
        (s.next (.clear true (1160, 0))).isSome := by decide +kernel
  obtain ⟨s, hs, hkey, hcount, hclears⟩ := hend
  obtain ⟨s', hs'⟩ := Option.isSome_iff_exists.1 hclears
  have hrun : Run (restrict AlarmTable.Step fun _ a => a.Within programAlarms) .init
      reusedRecord s :=
    (Run.of_execute hs).mono fun _ _ _ h => ⟨AlarmTable.step_of_next h.1, h.2⟩
  have hstep := AlarmTable.step_of_next hs'
  obtain ⟨hdistinct, hactive, hroom, -, hclear⟩ :=
    alarmTable_invariant card_programAlarms hrun
  exact ⟨s, s', hrun, hkey, hactive.symm.trans hcount, hdistinct, hroom, hstep,
    hclear true (1160, 0) s' hstep⟩

end AntennaMgmt.Alarm
