import AntennaMgmt.Lib.Bytes
import AntennaMgmt.Lib.Slots

/-!
# The alarm records

`g_alarm_mgr` holds sixty-four alarm records under one mutex.  This file models what the
critical sections of `alarm_trigger`, `alarm_clear` and `alarm_report_all_pending` do to the
records; the sends between the sections and the interleavings are left to its users.
-/

namespace AntennaMgmt.Alarm

open AntennaMgmt.Lib

/-- `MAX_ALARM_RECORDS`. -/
abbrev maxAlarmRecords : ℕ := 64

instance : NeZero maxAlarmRecords := ⟨by decide⟩

/-- An alarm code with its sub-code. -/
abbrev AlarmKey := ℕ × ℕ

/-- `alarm_record_t` without the times and what follows from the code. -/
structure AlarmRecord where
  active : Bool
  alarmCode : ℕ
  subCode : ℕ
  reported : Bool
  additionalInfo : Bytes
deriving DecidableEq, Repr

/-- The code and sub-code of a record. -/
def AlarmRecord.key (r : AlarmRecord) : AlarmKey := (r.alarmCode, r.subCode)

/-- The record table. -/
abbrev Records := Fin maxAlarmRecords → AlarmRecord

/-- The table of `alarm_manager_init`, all bytes zero. -/
def noRecords : Records := fun _ => ⟨false, 0, 0, false, []⟩

/-- `find_alarm_record`. -/
def findAlarmRecord (records : Records) (key : AlarmKey) : Option (Fin maxAlarmRecords) :=
  findSlot fun i => (records i).active && (records i).key == key

/-- `find_free_record`. -/
def findFreeRecord (records : Records) : Option (Fin maxAlarmRecords) :=
  findSlot fun i => !(records i).active

/-- The alarm is active. -/
def IsActive (records : Records) (key : AlarmKey) : Prop :=
  ∃ i, (records i).active ∧ (records i).key = key

/-- No alarm stands in two records. -/
abbrev DistinctAlarms (records : Records) : Prop :=
  KeysDistinct AlarmRecord.active AlarmRecord.key records

/-- The record that `alarm_trigger` writes; the text is cut to its field. -/
def newRecord (key : AlarmKey) (info : Bytes) : AlarmRecord :=
  ⟨true, key.1, key.2, false, info.take 99⟩

/-- How the first region of `alarm_trigger` ends. -/
inductive Triggered
  | known
  | full
  | stored (i : Fin maxAlarmRecords) (records : Records)

/-- The first region of `alarm_trigger`. -/
def triggerRecord (records : Records) (key : AlarmKey) (info : Bytes) : Triggered :=
  match findAlarmRecord records key with
  | some _ => .known
  | none =>
    match findFreeRecord records with
    | none => .full
    | some i => .stored i (Function.update records i (newRecord key info))

/-- The region of `alarm_clear`: the text of the record found and the table without it. -/
def clearRecord (records : Records) (key : AlarmKey) : Option (Bytes × Records) :=
  (findAlarmRecord records key).map fun i =>
    ((records i).additionalInfo, Function.update records i { records i with active := false })

/-- The check and store after a send: the slot is marked if it still holds that alarm. -/
def markReported (records : Records) (i : Fin maxAlarmRecords) (key : AlarmKey) : Records :=
  if (records i).active ∧ (records i).key = key then
    Function.update records i { records i with reported := true }
  else records

/-- The scan of `alarm_report_all_pending`, from slot `n` on, for an alarm not yet reported. -/
def nextPending (records : Records) (n : ℕ) : Option (Fin maxAlarmRecords) :=
  findSlot fun i => decide (n ≤ (i : ℕ)) && (records i).active && !(records i).reported

/-! ### What the regions do to the table -/

variable {records : Records} {key : AlarmKey} {i : Fin maxAlarmRecords}

lemma findAlarmRecord_some (h : findAlarmRecord records key = some i) :
    (records i).active ∧ (records i).key = key := by
  simpa using findSlot_some h

lemma findAlarmRecord_none (h : findAlarmRecord records key = none) : ¬ IsActive records key := by
  rintro ⟨i, hi, hkey⟩
  simpa [hi, hkey] using findSlot_none h i

lemma isActive_of_findAlarmRecord (h : findAlarmRecord records key = some i) :
    IsActive records key :=
  ⟨i, findAlarmRecord_some h⟩

lemma findFreeRecord_some (h : findFreeRecord records = some i) :
    (records i).active = false := by
  simpa using findSlot_some h

lemma findFreeRecord_none (h : findFreeRecord records = none) (i : Fin maxAlarmRecords) :
    (records i).active := by
  simpa using findSlot_none h i

lemma distinctAlarms_noRecords : DistinctAlarms noRecords := .of_unused fun _ => rfl

lemma isActive_of_known {info : Bytes} (h : triggerRecord records key info = .known) :
    IsActive records key := by
  rw [triggerRecord] at h
  split at h
  · next hfind => exact isActive_of_findAlarmRecord hfind
  · split at h <;> cases h

lemma findFreeRecord_of_full {info : Bytes} (h : triggerRecord records key info = .full) :
    findFreeRecord records = none := by
  rw [triggerRecord] at h
  split at h
  · cases h
  · split at h
    · next hfree => exact hfree
    · cases h

/-- Everything a stored trigger says. -/
lemma triggerRecord_stored {info : Bytes} {records' : Records}
    (h : triggerRecord records key info = .stored i records') :
    ¬ IsActive records key ∧ (records i).active = false ∧
      records' = Function.update records i (newRecord key info) := by
  rw [triggerRecord] at h
  split at h
  · cases h
  · next hnone =>
    split at h
    · cases h
    · next hfree =>
      cases h
      exact ⟨findAlarmRecord_none hnone, findFreeRecord_some hfree, rfl⟩

lemma distinctAlarms_update_newRecord {info : Bytes} (h : DistinctAlarms records)
    (hkey : ¬ IsActive records key) :
    DistinctAlarms (Function.update records i (newRecord key info)) :=
  h.update fun _ j _ hj hjkey => hkey ⟨j, hj, hjkey⟩

/-- The other alarms stay, and the new one is there. -/
lemma isActive_update_newRecord {info : Bytes} (hi : (records i).active = false)
    (key' : AlarmKey) : IsActive (Function.update records i (newRecord key info)) key' ↔
      IsActive records key' ∨ key' = key := by
  constructor
  · rintro ⟨j, hj, hkey⟩
    rcases eq_or_ne j i with rfl | hne
    · rw [Function.update_self] at hkey
      exact .inr hkey.symm
    · rw [Function.update_of_ne hne] at hj hkey
      exact .inl ⟨j, hj, hkey⟩
  · rintro (⟨j, hj, hkey⟩ | rfl)
    · have hne : j ≠ i := by
        rintro rfl
        rw [hi] at hj
        cases hj
      exact ⟨j, by rwa [Function.update_of_ne hne], by rwa [Function.update_of_ne hne]⟩
    · exact ⟨i, by rw [Function.update_self]; exact ⟨rfl, rfl⟩⟩

/-- A stored trigger adds its alarm. -/
lemma isActive_of_stored {info : Bytes} {records' : Records}
    (h : triggerRecord records key info = .stored i records') (key' : AlarmKey) :
    IsActive records' key' ↔ IsActive records key' ∨ key' = key := by
  obtain ⟨-, hfree, rfl⟩ := triggerRecord_stored h
  exact isActive_update_newRecord hfree key'

lemma distinctAlarms_of_stored {info : Bytes} {records' : Records} (hd : DistinctAlarms records)
    (h : triggerRecord records key info = .stored i records') : DistinctAlarms records' := by
  obtain ⟨hkey, -, rfl⟩ := triggerRecord_stored h
  exact distinctAlarms_update_newRecord hd hkey

/-- Everything a clear that finds its alarm says. -/
lemma clearRecord_some {info : Bytes} {records' : Records}
    (h : clearRecord records key = some (info, records')) :
    ∃ i, (records i).active ∧ (records i).key = key ∧
      records' = Function.update records i { records i with active := false } := by
  obtain ⟨i, hi, heq⟩ := Option.map_eq_some_iff.1 h
  obtain ⟨hactive, hkey⟩ := findAlarmRecord_some hi
  cases heq
  exact ⟨i, hactive, hkey, rfl⟩

lemma clearRecord_none (h : clearRecord records key = none) : ¬ IsActive records key :=
  findAlarmRecord_none (Option.map_eq_none_iff.1 h)

lemma IsActive.update_inactive {key' : AlarmKey} (h : IsActive records key')
    (hkey : key' ≠ (records i).key) :
    IsActive (Function.update records i { records i with active := false }) key' := by
  obtain ⟨j, hj, rfl⟩ := h
  have hne : j ≠ i := by
    rintro rfl
    exact hkey rfl
  exact ⟨j, by rwa [Function.update_of_ne hne], by rw [Function.update_of_ne hne]⟩

/-- The alarm of the slot is gone, and the others stay. -/
lemma isActive_update_inactive (h : DistinctAlarms records) (hi : (records i).active)
    (key' : AlarmKey) :
    IsActive (Function.update records i { records i with active := false }) key' ↔
      IsActive records key' ∧ key' ≠ (records i).key := by
  constructor
  · rintro ⟨j, hj, hkey⟩
    have hne : j ≠ i := by
      rintro rfl
      simp at hj
    rw [Function.update_of_ne hne] at hj hkey
    exact ⟨⟨j, hj, hkey⟩, fun heq => hne (h j i hj hi (hkey.trans heq))⟩
  · exact fun h => h.1.update_inactive h.2

/-- A clear leaves the other alarms. -/
lemma IsActive.of_cleared {info : Bytes} {records' : Records} {key' : AlarmKey}
    (hactive : IsActive records key') (h : clearRecord records key = some (info, records'))
    (hkey : key' ≠ key) : IsActive records' key' := by
  obtain ⟨i, -, rfl, rfl⟩ := clearRecord_some h
  exact hactive.update_inactive hkey

/-- A clear takes its alarm away. -/
lemma isActive_of_cleared {info : Bytes} {records' : Records} (hd : DistinctAlarms records)
    (h : clearRecord records key = some (info, records')) (key' : AlarmKey) :
    IsActive records' key' ↔ IsActive records key' ∧ key' ≠ key := by
  obtain ⟨i, hi, rfl, rfl⟩ := clearRecord_some h
  exact isActive_update_inactive hd hi key'

lemma distinctAlarms_of_cleared {info : Bytes} {records' : Records} (hd : DistinctAlarms records)
    (h : clearRecord records key = some (info, records')) : DistinctAlarms records' := by
  obtain ⟨i, -, -, rfl⟩ := clearRecord_some h
  exact hd.update_unused rfl

/-- Marking a slot changes no alarm. -/
lemma markReported_active (records : Records) (i j : Fin maxAlarmRecords) (key : AlarmKey) :
    (markReported records i key j).active = (records j).active := by
  rw [markReported]
  split
  · rcases eq_or_ne j i with rfl | hne
    · rw [Function.update_self]
    · rw [Function.update_of_ne hne]
  · rfl

lemma markReported_key (records : Records) (i j : Fin maxAlarmRecords) (key : AlarmKey) :
    (markReported records i key j).key = (records j).key := by
  rw [markReported]
  split
  · rcases eq_or_ne j i with rfl | hne
    · rw [Function.update_self]
      rfl
    · rw [Function.update_of_ne hne]
  · rfl

/-- A slot is marked afterwards if it was before, or if it is the one and holds the alarm. -/
lemma markReported_reported (records : Records) (i j : Fin maxAlarmRecords) (key : AlarmKey) :
    (markReported records i key j).reported = true ↔
      (records j).reported = true ∨ j = i ∧ (records i).active ∧ (records i).key = key := by
  rw [markReported]
  split
  · next hmatch =>
    rcases eq_or_ne j i with rfl | hne
    · simp [hmatch]
    · simp [hne]
  · next hmatch => simp [hmatch]

lemma isActive_markReported (records : Records) (i : Fin maxAlarmRecords) (key key' : AlarmKey) :
    IsActive (markReported records i key) key' ↔ IsActive records key' := by
  simp only [IsActive, markReported_active, markReported_key]

lemma distinctAlarms_markReported (h : DistinctAlarms records) (i : Fin maxAlarmRecords)
    (key : AlarmKey) : DistinctAlarms (markReported records i key) := by
  intro j k hj hk hkey
  rw [markReported_active] at hj hk
  rw [markReported_key, markReported_key] at hkey
  exact h j k hj hk hkey

/-- The slot that the scan stops at. -/
lemma nextPending_some {n : ℕ} (h : nextPending records n = some i) :
    n ≤ (i : ℕ) ∧ (records i).active ∧ (records i).reported = false := by
  simpa [and_assoc] using findSlot_some h

/-- The scan stops at a pending slot ahead of it, or before. -/
lemma exists_nextPending {n : ℕ} (hn : n ≤ (i : ℕ)) (hi : (records i).active)
    (hreported : (records i).reported = false) :
    ∃ j, nextPending records n = some j ∧ j ≤ i := by
  cases h : nextPending records n with
  | none =>
    have hfalse := findSlot_none h i
    simp [hn, hi, hreported] at hfalse
  | some j => exact ⟨j, rfl, findSlot_le h (by simp [hn, hi, hreported])⟩

end AntennaMgmt.Alarm
