import AntennaMgmt.Alarm.Report

/-!
# What a reported alarm stands for

A record is marked as reported after the send of its report, in a region of its own.  Whether the
send returned `SUCCESS` is not looked at, and the slot may hold the alarm again that was cleared in
between.  A log of the activations and the sends, with the result of each send, says what the
marks are worth.
-/

namespace AntennaMgmt.Alarm

open AntennaMgmt.Lib

/-- An entry of the log: a slot takes an alarm, or `tcp_client_send` returns. -/
inductive Event
  | activated (i : Fin maxAlarmRecords)
  | sent (r : Report) (ok : Bool)
deriving DecidableEq, Repr

/-- The reports that were sent with success since the slot last took an alarm; the latest entry of
the log comes first. -/
def sentSince (i : Fin maxAlarmRecords) : List Event → List Report
  | [] => []
  | .activated j :: events => if j = i then [] else sentSince i events
  | .sent r ok :: events => if ok then r :: sentSince i events else sentSince i events

/-- An ACTIVE report of the alarm was sent with success since the slot last took one. -/
def SentActive (events : List Event) (i : Fin maxAlarmRecords) (key : AlarmKey) : Prop :=
  ∃ r ∈ sentSince i events, r.key = key ∧ r.clearFlag = .active

namespace Pc

/-- The report that a thread is about to send. -/
def report : Pc → Option Report
  | triggerSend _ key info => some ⟨key, .active, info.take 99⟩
  | clearSend key info => some ⟨key, .cleared, info⟩
  | scanSend _ key info => some ⟨key, .active, info⟩
  | _ => none

/-- The thread is about to report the alarm of a slot. -/
def ReportsSlot (i : Fin maxAlarmRecords) (key : AlarmKey) : Pc → Prop
  | triggerSend j key' _ | scanSend j key' _ => j = i ∧ key' = key
  | _ => False

/-- The thread is about to mark a slot if it holds the alarm. -/
def Marks (i : Fin maxAlarmRecords) (key : AlarmKey) : Pc → Prop
  | triggerMark j key' | scanMark j key' => j = i ∧ key' = key
  | _ => False

end Pc

variable {ι : Type*}

/-- What a step adds to the log; the result is that of the send, if it is one. -/
def newEvents (s : ReportSys ι) (ok : Bool) : Act ι → List Event
  | .trigger _ key info =>
    match triggerRecord s.records key info with
    | .stored i _ => [.activated i]
    | _ => []
  | .send t => ((s.pc t).report.map fun r => .sent r ok).toList
  | _ => []

/-- The alarm module and the log. -/
structure LogSys (ι : Type*) where
  sys : ReportSys ι
  events : List Event

namespace LogSys

/-- After `alarm_manager_init`. -/
def init : LogSys ι := ⟨Alarm.init, []⟩

/-- One atomic step of some thread, and the result of the send if the step is one. -/
def Step [DecidableEq ι] (s : LogSys ι) (a : Act ι × Bool) (s' : LogSys ι) : Prop :=
  Alarm.Step s.sys a.1 s'.sys ∧ s'.events = newEvents s.sys a.2 a.1 ++ s.events

/-- An active record that is marked as reported was reported with success since its activation. -/
def ReportedMeansSent (s : LogSys ι) : Prop :=
  ∀ i, (s.sys.records i).active → (s.sys.records i).reported →
    SentActive s.events i (s.sys.records i).key

/-- The send for an unreported record that is still there succeeds, and no slot takes an alarm that
a thread is about to mark in it. -/
def MarksInTime (s : LogSys ι) (a : Act ι × Bool) : Prop :=
  match a.1 with
  | .trigger _ key info => ∀ i records, triggerRecord s.sys.records key info = .stored i records →
      ∀ t, ¬ (s.sys.pc t).Marks i key
  | .send t => ∀ i, (s.sys.pc t).ReportsSlot i (s.sys.records i).key → (s.sys.records i).active →
      (s.sys.records i).reported = false → a.2 = true
  | _ => True

end LogSys

/-! ### The log -/

variable {events : List Event} {i j : Fin maxAlarmRecords} {key : AlarmKey}

lemma SentActive.sent (h : SentActive events i key) (r : Report) (ok : Bool) :
    SentActive (.sent r ok :: events) i key := by
  obtain ⟨r', hr', hkey, hflag⟩ := h
  refine ⟨r', ?_, hkey, hflag⟩
  rw [sentSince]
  split
  · exact List.mem_cons_of_mem _ hr'
  · exact hr'

/-- A report that is sent with success counts for every slot. -/
lemma sentActive_sent (events : List Event) (i : Fin maxAlarmRecords) (key : AlarmKey)
    (info : Bytes) : SentActive (.sent ⟨key, .active, info⟩ true :: events) i key :=
  ⟨_, List.mem_cons_self, rfl, rfl⟩

/-- An activation does not count for the other slots. -/
lemma SentActive.activated (h : SentActive events i key) (hne : j ≠ i) :
    SentActive (.activated j :: events) i key := by
  obtain ⟨r, hr, hkey, hflag⟩ := h
  exact ⟨r, by rwa [sentSince, if_neg hne], hkey, hflag⟩

/-! ### What the steps keep -/

/-- The marks that are made, and those that are about to be made, stand for a report. -/
structure MarksSent (records : Records) (pc : ι → Pc) (events : List Event) : Prop where
  made : ∀ i, (records i).active → (records i).reported → SentActive events i (records i).key
  ahead : ∀ t i, (pc t).Marks i (records i).key → (records i).active →
    SentActive events i (records i).key

lemma marksSent_init : MarksSent noRecords (fun _ : ι => Pc.idle) [] :=
  ⟨nofun, nofun⟩

variable {records records' : Records} {pc : ι → Pc} {t : ι} {p : Pc} {info : Bytes}

lemma MarksSent.goto [DecidableEq ι] (h : MarksSent records pc events)
    (hp : ∀ i key, ¬ p.Marks i key) : MarksSent records (Function.update pc t p) events := by
  refine ⟨h.made, fun u i hmarks hi => ?_⟩
  rcases eq_or_ne u t with rfl | hne
  · rw [Function.update_self] at hmarks
    exact absurd hmarks (hp _ _)
  · rw [Function.update_of_ne hne] at hmarks
    exact h.ahead u i hmarks hi

lemma MarksSent.sent (h : MarksSent records pc events) (r : Report) (ok : Bool) :
    MarksSent records pc (.sent r ok :: events) :=
  ⟨fun i hi hrep => (h.made i hi hrep).sent r ok,
    fun u i hmarks hi => (h.ahead u i hmarks hi).sent r ok⟩

/-- The thread that sent the report goes on to mark the slot. -/
lemma MarksSent.sentActive [DecidableEq ι] {ok : Bool} (h : MarksSent records pc events)
    (hok : key = (records i).key → (records i).active → (records i).reported = false → ok = true)
    (hp : ∀ j key', p.Marks j key' → i = j ∧ key = key') (info : Bytes) :
    MarksSent records (Function.update pc t p) (.sent ⟨key, .active, info⟩ ok :: events) := by
  refine ⟨(h.sent _ ok).made, fun u j hmarks hj => ?_⟩
  rcases eq_or_ne u t with rfl | hne
  · rw [Function.update_self] at hmarks
    obtain ⟨rfl, hkey⟩ := hp _ _ hmarks
    cases hrep : (records i).reported with
    | true => exact (h.sent _ ok).made i hj hrep
    | false =>
      rw [hok hkey hj hrep, hkey]
      exact sentActive_sent events i _ info
  · rw [Function.update_of_ne hne] at hmarks
    exact (h.sent _ ok).ahead u j hmarks hj

/-- A slot that takes an alarm is not marked, and no thread is about to mark it. -/
lemma MarksSent.stored (h : MarksSent records pc events)
    (hno : ∀ t, ¬ (pc t).Marks i key) :
    MarksSent (Function.update records i (newRecord key info)) pc (.activated i :: events) := by
  constructor
  · intro j hj hrep
    rcases eq_or_ne j i with rfl | hne
    · rw [Function.update_self] at hrep
      cases hrep
    · rw [Function.update_of_ne hne] at hj hrep ⊢
      exact (h.made j hj hrep).activated hne.symm
  · intro t j hmarks hj
    rcases eq_or_ne j i with rfl | hne
    · rw [Function.update_self] at hmarks
      exact absurd hmarks (hno t)
    · rw [Function.update_of_ne hne] at hj hmarks ⊢
      exact (h.ahead t j hmarks hj).activated hne.symm

lemma MarksSent.cleared (h : MarksSent records pc events) :
    MarksSent (Function.update records i { records i with active := false }) pc events := by
  constructor
  · intro j hj hrep
    rcases eq_or_ne j i with rfl | hne
    · rw [Function.update_self] at hj
      cases hj
    · rw [Function.update_of_ne hne] at hj hrep ⊢
      exact h.made j hj hrep
  · intro t j hmarks hj
    rcases eq_or_ne j i with rfl | hne
    · rw [Function.update_self] at hj
      cases hj
    · rw [Function.update_of_ne hne] at hj hmarks ⊢
      exact h.ahead t j hmarks hj

lemma MarksSent.marked (h : MarksSent records pc events) (hpc : (pc t).Marks i key) :
    MarksSent (markReported records i key) pc events := by
  constructor
  · intro j hj hrep
    rw [markReported_active] at hj
    rw [markReported_key]
    rcases (markReported_reported records i j key).1 hrep with hrep | ⟨rfl, -, rfl⟩
    · exact h.made j hj hrep
    · exact h.ahead t j hpc hj
  · intro u j hmarks hj
    rw [markReported_active] at hj
    rw [markReported_key] at hmarks ⊢
    exact h.ahead u j hmarks hj

lemma not_marks_scanPos (records : Records) (n : ℕ) (i : Fin maxAlarmRecords) (key : AlarmKey) :
    ¬ (scanPos records n).Marks i key := by
  rw [scanPos]
  split <;> exact id

variable [DecidableEq ι] {s s' : LogSys ι} {a : Act ι × Bool}

lemma MarksSent.trigger {sys : ReportSys ι} {ok : Bool} (h : MarksSent sys.records sys.pc events)
    (hno : ∀ i records, triggerRecord sys.records key info = .stored i records →
      ∀ t, ¬ (sys.pc t).Marks i key) :
    MarksSent (sys.trigger t key info).records (sys.trigger t key info).pc
      (newEvents sys ok (.trigger t key info) ++ events) := by
  rw [ReportSys.trigger, newEvents]
  cases htrigger : triggerRecord sys.records key info with
  | known => exact h
  | full => exact h
  | stored i records' =>
    have hno' := hno i records' htrigger
    obtain ⟨-, -, rfl⟩ := triggerRecord_stored htrigger
    dsimp only
    split
    · exact (h.stored hno').goto fun _ _ => id
    · exact h.stored hno'

lemma MarksSent.clear {sys : ReportSys ι} (h : MarksSent sys.records sys.pc events) :
    MarksSent (sys.clear t key).records (sys.clear t key).pc events := by
  rw [ReportSys.clear]
  cases hclear : clearRecord sys.records key with
  | none => exact h
  | some r =>
    obtain ⟨text, records'⟩ := r
    obtain ⟨i, -, -, rfl⟩ := clearRecord_some hclear
    dsimp only
    split
    · exact h.cleared.goto fun _ _ => id
    · exact h.cleared

omit [DecidableEq ι] in
/-- The condition on a send, for the slot that it is made for. -/
lemma LogSys.MarksInTime.send {ok : Bool} (h : s.MarksInTime (.send t, ok))
    (hpc : (s.sys.pc t).ReportsSlot i key) :
    key = (s.sys.records i).key → (s.sys.records i).active →
      (s.sys.records i).reported = false → ok = true := by
  rintro rfl
  exact h i hpc

lemma MarksSent.step (h : MarksSent s.sys.records s.sys.pc s.events) (hstep : s.Step a s')
    (hok : s.MarksInTime a) : MarksSent s'.sys.records s'.sys.pc s'.events := by
  obtain ⟨act, ok⟩ := a
  obtain ⟨hsys, hevents⟩ := hstep
  rw [hevents]
  generalize s'.sys = sys' at hsys ⊢
  cases step_cases hsys with
  | trigger hpc => exact h.trigger hok
  | clear hpc => exact h.clear
  | @setStatus t connected hpc =>
    rw [ReportSys.setStatus]
    dsimp only
    split
    · exact h.goto fun _ _ => id
    · exact h
  | reportAllPending hpc => exact h.goto fun _ _ => id
  | scan hpc => exact h.goto fun i key => not_marks_scanPos s.sys.records 0 i key
  | @sendTriggered t i key info hpc =>
    have hreports : (s.sys.pc t).ReportsSlot i key := by
      rw [hpc]
      exact ⟨rfl, rfl⟩
    rw [newEvents, hpc, ReportSys.goto, ReportSys.send_records, ReportSys.send_pc]
    exact h.sentActive (hok.send hreports) (fun _ _ => id) _
  | @sendCleared t key info hpc =>
    rw [newEvents, hpc, ReportSys.goto, ReportSys.send_records, ReportSys.send_pc]
    exact (h.sent _ ok).goto fun _ _ => id
  | @sendScanned t i key info hpc =>
    have hreports : (s.sys.pc t).ReportsSlot i key := by
      rw [hpc]
      exact ⟨rfl, rfl⟩
    rw [newEvents, hpc, ReportSys.goto, ReportSys.send_records, ReportSys.send_pc]
    exact h.sentActive (hok.send hreports) (fun _ _ => id) _
  | @markTriggered t i key hpc =>
    have hmarks : (s.sys.pc t).Marks i key := by
      rw [hpc]
      exact ⟨rfl, rfl⟩
    exact (h.marked hmarks).goto fun _ _ => id
  | @markScanned t i key hpc =>
    have hmarks : (s.sys.pc t).Marks i key := by
      rw [hpc]
      exact ⟨rfl, rfl⟩
    exact (h.marked hmarks).goto fun j key' => not_marks_scanPos _ _ j key'

/-- When no failed send and no new activation comes between a record and its mark, every record
that is marked as reported was reported with success since its activation. -/
theorem reported_means_sent {l : List (Act ι × Bool)}
    (h : Run (restrict LogSys.Step LogSys.MarksInTime) LogSys.init l s) : s.ReportedMeansSent := by
  have hinv : MarksSent s.sys.records s.sys.pc s.events := by
    refine @Run.invariant _ _ _ (fun s => MarksSent s.sys.records s.sys.pc s.events) ?_ _ _ _ h
      marksSent_init
    exact fun s a s' hs hstep => hs.step hstep.1 hstep.2
  exact hinv.made

/-! ### A send that fails, and a mark that comes late -/

/-- The alarm of the watchdog. -/
def feedAlarm : AlarmKey := (1161, 0)

/-- Connected, with nothing to report. -/
def linkUp : ReportSys Bool := (init.setStatus true true).scanFrom true 0

example : linkUp.pc false = .idle := by decide +kernel

/-- The alarm has just been triggered by one of two threads. -/
def feedTriggered : ReportSys Bool := linkUp.trigger true feedAlarm []

/-- The send has returned. -/
def feedSent : ReportSys Bool :=
  (feedTriggered.send ⟨feedAlarm, .active, []⟩).goto true (.triggerMark 0 feedAlarm)

/-- The record has been marked. -/
def feedMarked : ReportSys Bool := (feedSent.markSlot 0 feedAlarm).goto true .idle

lemma linkUp_pc (t : Bool) : linkUp.pc t = .idle := by
  cases t <;> decide +kernel

lemma feedTriggered_pc : feedTriggered.pc true = .triggerSend 0 feedAlarm [] := by decide +kernel

lemma feedSent_pc : feedSent.pc true = .triggerMark 0 feedAlarm := by decide +kernel

lemma run_feedTriggered : Run (restrict LogSys.Step LogSys.MarksInTime) LogSys.init
    [(.setStatus true true, true), (.scan true, true), (.trigger true feedAlarm [], true)]
    ⟨feedTriggered, [.activated 0]⟩ := by
  have hup : LogSys.Step LogSys.init (.setStatus true true, true)
      ⟨init.setStatus true true, []⟩ := ⟨step_setStatus rfl true, rfl⟩
  have hscan : LogSys.Step ⟨init.setStatus true true, []⟩ (.scan true, true) ⟨linkUp, []⟩ :=
    ⟨step_scan (by decide +kernel), rfl⟩
  have htrigger : LogSys.Step ⟨linkUp, []⟩ (.trigger true feedAlarm [], true)
      ⟨feedTriggered, [.activated 0]⟩ :=
    ⟨step_trigger (linkUp_pc true) feedAlarm [], by decide +kernel⟩
  refine .cons ⟨hup, trivial⟩ <| .cons ⟨hscan, trivial⟩ <| .cons ⟨htrigger, ?_⟩ <| .nil _
  intro i records _ t hmarks
  rw [linkUp_pc t] at hmarks
  exact hmarks

lemma step_feedSent (ok : Bool) : LogSys.Step ⟨feedTriggered, [.activated 0]⟩ (.send true, ok)
    ⟨feedSent, [.sent ⟨feedAlarm, .active, []⟩ ok, .activated 0]⟩ :=
  ⟨step_send_triggerSend feedTriggered_pc, by rw [newEvents, feedTriggered_pc]; rfl⟩

lemma step_feedMarked (events : List Event) :
    LogSys.Step ⟨feedSent, events⟩ (.mark true, true) ⟨feedMarked, events⟩ :=
  ⟨step_mark_triggerMark feedSent_pc, rfl⟩

/-- The record is active and marked. -/
lemma feedMarked_reported : (feedMarked.records 0).active ∧ (feedMarked.records 0).reported := by
  decide +kernel

theorem reported_means_sent_feed :
    LogSys.ReportedMeansSent
      ⟨feedMarked, [.sent ⟨feedAlarm, .active, []⟩ true, .activated 0]⟩ :=
  reported_means_sent <| run_feedTriggered.append <|
    .cons ⟨step_feedSent true, fun _ _ _ _ => rfl⟩ <|
    .cons ⟨step_feedMarked _, trivial⟩ <| .nil _

/-- The send of `alarm_trigger` fails, and the record is marked as reported. -/
theorem reported_not_sent :
    ¬ ∀ (l : List (Act Bool × Bool)) (s : LogSys Bool), Run LogSys.Step LogSys.init l s →
      s.ReportedMeansSent := by
  intro hall
  have hrun := run_feedTriggered.of_restrict.append
    (.cons (step_feedSent false) (.cons (step_feedMarked _) (.nil _)))
  obtain ⟨r, hr, -⟩ := hall _ _ hrun 0 feedMarked_reported.1 feedMarked_reported.2
  cases hr

/-- Between the send and the mark another thread has cleared the alarm, and reported that. -/
def feedCleared : ReportSys Bool :=
  ((feedSent.clear false feedAlarm).send ⟨feedAlarm, .cleared, []⟩).goto false .idle

/-- Without a connection the alarm is triggered again. -/
def feedAgain : ReportSys Bool := (feedCleared.setStatus false false).trigger false feedAlarm []

/-- And then comes the mark. -/
def feedMarkedLate : ReportSys Bool := (feedAgain.markSlot 0 feedAlarm).goto true .idle

lemma run_feedMarkedLate (events : List Event) : Run LogSys.Step ⟨feedSent, events⟩
    [(.clear false feedAlarm, true), (.send false, true), (.setStatus false false, true),
      (.trigger false feedAlarm [], true), (.mark true, true)]
    ⟨feedMarkedLate, .activated 0 :: .sent ⟨feedAlarm, .cleared, []⟩ true :: events⟩ := by
  have hidle : feedSent.pc false = .idle := by decide +kernel
  have hclearing : (feedSent.clear false feedAlarm).pc false = .clearSend feedAlarm [] := by
    decide +kernel
  have hcleared : feedCleared.pc false = .idle := by decide +kernel
  have hdown : (feedCleared.setStatus false false).pc false = .idle := by decide +kernel
  have hagain : feedAgain.pc true = .triggerMark 0 feedAlarm := by decide +kernel
  have hclear : LogSys.Step ⟨feedSent, events⟩ (.clear false feedAlarm, true)
      ⟨feedSent.clear false feedAlarm, events⟩ := ⟨step_clear hidle feedAlarm, rfl⟩
  have hsend : LogSys.Step ⟨feedSent.clear false feedAlarm, events⟩ (.send false, true)
      ⟨feedCleared, .sent ⟨feedAlarm, .cleared, []⟩ true :: events⟩ := by
    refine ⟨?_, by rw [newEvents, hclearing]; rfl⟩
    simp only [Step, next, hclearing, feedCleared]
  generalize hlog : Event.sent ⟨feedAlarm, .cleared, []⟩ true :: events = log at hsend ⊢
  have hset : LogSys.Step ⟨feedCleared, log⟩ (.setStatus false false, true)
      ⟨feedCleared.setStatus false false, log⟩ := ⟨step_setStatus hcleared false, rfl⟩
  have htrigger : LogSys.Step ⟨feedCleared.setStatus false false, log⟩
      (.trigger false feedAlarm [], true) ⟨feedAgain, .activated 0 :: log⟩ := by
    have hnew : newEvents (feedCleared.setStatus false false) true (.trigger false feedAlarm []) =
        [.activated 0] := by decide +kernel
    exact ⟨step_trigger hdown feedAlarm [], by rw [hnew]; rfl⟩
  have hmark : LogSys.Step ⟨feedAgain, .activated 0 :: log⟩ (.mark true, true)
      ⟨feedMarkedLate, .activated 0 :: log⟩ := ⟨step_mark_triggerMark hagain, rfl⟩
  exact .cons hclear <| .cons hsend <| .cons hset <| .cons htrigger <| .cons hmark <| .nil _

/-- All sends succeed, and a record that was never reported is marked as reported. -/
theorem reported_before_activation :
    ¬ ∀ (l : List (Act Bool × Bool)) (s : LogSys Bool), (∀ a ∈ l, a.2 = true) →
      Run LogSys.Step LogSys.init l s → s.ReportedMeansSent := by
  intro hall
  have hrun := run_feedTriggered.of_restrict.append
    (.cons (step_feedSent true) (run_feedMarkedLate _))
  have hreported : (feedMarkedLate.records 0).active ∧ (feedMarkedLate.records 0).reported := by
    decide +kernel
  obtain ⟨r, hr, -⟩ := hall _ _ (by decide) hrun 0 hreported.1 hreported.2
  cases hr

end AntennaMgmt.Alarm
