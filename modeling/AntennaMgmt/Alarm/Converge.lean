import AntennaMgmt.Alarm.Report

/-!
# The view of the base band unit

With no call in progress and the manager connected, the base band unit should have been told
of each alarm what is locally true of it.  The calls do not guarantee this: what is cleared
while there is no connection is never reported, a lost report counts as made, and two reports
of one alarm may overtake each other.

What does hold is said by `Owed`: each thing that the base band unit has yet to be told, some
call in progress is about to tell it, or a connection will.  `InOrder` is the condition under
which a step keeps that; and once it is lost, no completion of the calls in progress brings it
back.
-/

namespace AntennaMgmt.Alarm

open AntennaMgmt.Lib ReportSys

variable {ι : Type*}

/-- The view of the base band unit in one state: with no call in progress and the manager
connected, the last report of each alarm says whether it is active, and every active alarm has
been reported as active. -/
def Converged (s : ReportSys ι) : Prop :=
  s.Quiet → s.tcpConnected →
    (∀ key flag, s.lastReport key = some flag → (flag = .active ↔ IsActive s.records key)) ∧
    ∀ key, IsActive s.records key → ∃ r ∈ s.received, r.key = key ∧ r.clearFlag = .active

/-- The base band unit knows of the active alarm in slot `j`, or some call is about to report
it, or it is unreported and the next connection or a scan in progress will come to it. -/
def Told (s : ReportSys ι) (j : Fin maxAlarmRecords) : Prop :=
  s.lastReport (s.records j).key = some .active ∨
  Somewhere (Pc.SendsActive (s.records j).key) s.pc ∨
  (s.records j).reported = false ∧ (s.tcpConnected = false ∨ Somewhere (Pc.ScansTo j) s.pc)

/-- What the base band unit has yet to be told is on its way. -/
structure Owed (s : ReportSys ι) : Prop where
  told : ∀ j, (s.records j).active → Told s j
  stale : ∀ key, s.lastReport key = some .active →
    IsActive s.records key ∨ Somewhere (Pc.SendsCleared key) s.pc

/-! ### States at rest -/

lemma owed_init : Owed (init : ReportSys ι) where
  told j hj := by simp [init, noRecords] at hj
  stale key hlast := by simp [init, lastReport] at hlast

lemma not_somewhere_of_quiet {s : ReportSys ι} (h : s.Quiet) {P : Pc → Prop} (hP : ¬ P .idle) :
    ¬ Somewhere P s.pc := by
  rintro ⟨t, ht⟩
  rw [h t] at ht
  exact hP ht

lemma lastReport_eq_some {s : ReportSys ι} {key : AlarmKey} {flag : ClearFlag}
    (h : s.lastReport key = some flag) : ∃ r ∈ s.received, r.key = key ∧ r.clearFlag = flag := by
  obtain ⟨r, hr, rfl⟩ := Option.map_eq_some_iff.1 h
  exact ⟨r, List.mem_of_find?_eq_some hr, by simpa using List.find?_some hr, rfl⟩

lemma exists_lastReport {s : ReportSys ι} {r : Report} (h : r ∈ s.received) :
    ∃ flag, s.lastReport r.key = some flag := by
  cases hfind : s.received.find? fun r' => r'.key == r.key with
  | none => simpa using List.find?_eq_none.1 hfind r h
  | some r' => exact ⟨r'.clearFlag, by rw [lastReport, hfind, Option.map_some]⟩

/-- At rest and connected, nothing is on its way, so that `Owed` and the view being right are
the same. -/
lemma owed_iff_of_quiet {s : ReportSys ι} (hquiet : s.Quiet) (hconn : s.tcpConnected) :
    Owed s ↔ ∀ key, s.lastReport key = some .active ↔ IsActive s.records key := by
  have hno : ∀ {P : Pc → Prop}, ¬ P .idle → ¬ Somewhere P s.pc := not_somewhere_of_quiet hquiet
  constructor
  · intro h key
    constructor
    · exact fun hlast => (h.stale key hlast).resolve_right (hno id)
    · rintro ⟨j, hj, rfl⟩
      rcases h.told j hj with hlast | hsends | ⟨-, hdown | hscan⟩
      · exact hlast
      · exact absurd hsends (hno id)
      · rw [hconn] at hdown
        cases hdown
      · exact absurd hscan (hno id)
  · intro h
    exact ⟨fun j hj => .inl ((h _).2 ⟨j, hj, rfl⟩), fun key hlast => .inl ((h key).1 hlast)⟩

lemma converged_iff_owed {s : ReportSys ι} (hquiet : s.Quiet) (hconn : s.tcpConnected) :
    Converged s ↔ Owed s := by
  rw [owed_iff_of_quiet hquiet hconn]
  constructor
  · intro h key
    obtain ⟨hflag, htold⟩ := h hquiet hconn
    refine ⟨fun hlast => (hflag key _ hlast).1 rfl, fun hactive => ?_⟩
    obtain ⟨r, hr, rfl, -⟩ := htold key hactive
    obtain ⟨flag, hlast⟩ := exists_lastReport hr
    rw [hlast, (hflag r.key flag hlast).2 hactive]
  · intro h _ _
    refine ⟨fun key flag hlast => ?_, fun key hactive => lastReport_eq_some ((h key).2 hactive)⟩
    rw [← h key, hlast, Option.some.injEq]

/-! ### One thread moves -/

/-- `Told`, with the thread `t` taken to stand at `p`. -/
def ToldAt (s : ReportSys ι) (t : ι) (p : Pc) (j : Fin maxAlarmRecords) : Prop :=
  s.lastReport (s.records j).key = some .active ∨
  (p.SendsActive (s.records j).key ∨ Elsewhere (Pc.SendsActive (s.records j).key) s.pc t) ∨
  (s.records j).reported = false ∧
    (s.tcpConnected = false ∨ p.ScansTo j ∨ Elsewhere (Pc.ScansTo j) s.pc t)

/-- `Owed`, with the thread `t` taken to stand at `p`. -/
structure OwedAt (s : ReportSys ι) (t : ι) (p : Pc) : Prop where
  told : ∀ j, (s.records j).active → ToldAt s t p j
  stale : ∀ key, s.lastReport key = some .active →
    IsActive s.records key ∨ p.SendsCleared key ∨ Elsewhere (Pc.SendsCleared key) s.pc t

lemma owed_iff (s : ReportSys ι) (t : ι) : Owed s ↔ OwedAt s t (s.pc t) := by
  have htold : ∀ j, Told s j ↔ ToldAt s t (s.pc t) j := by
    intro j
    rw [Told, somewhere_iff t, somewhere_iff t, ToldAt]
  constructor
  · exact fun h => ⟨fun j hj => (htold j).1 (h.told j hj),
      fun key hlast => by simpa only [somewhere_iff t] using h.stale key hlast⟩
  · exact fun h => ⟨fun j hj => (htold j).2 (h.told j hj),
      fun key hlast => by simpa only [somewhere_iff t] using h.stale key hlast⟩

lemma owed_iff_at {s : ReportSys ι} {t : ι} {p : Pc} (hpc : s.pc t = p) :
    Owed s ↔ OwedAt s t p := by
  rw [owed_iff s t, hpc]

/-- Where the three predicates on positions agree, so does `OwedAt`. -/
lemma owedAt_idle_iff {s : ReportSys ι} {t : ι} {p : Pc} (ha : ∀ key, ¬ p.SendsActive key)
    (hc : ∀ key, ¬ p.SendsCleared key) (hs : ∀ j, ¬ p.ScansTo j) :
    OwedAt s t p ↔ OwedAt s t .idle := by
  have htold : ∀ j, ToldAt s t p j ↔ ToldAt s t .idle j := by
    intro j
    simp [ToldAt, ha, hs]
  constructor
  · exact fun h => ⟨fun j hj => (htold j).1 (h.told j hj),
      fun key hlast => by simpa [hc] using h.stale key hlast⟩
  · exact fun h => ⟨fun j hj => (htold j).2 (h.told j hj),
      fun key hlast => by simpa [hc] using h.stale key hlast⟩

/-- What is told without the help of a thread is told wherever the thread stands, also when the
records of other slots are changed. -/
lemma ToldAt.of_idle {s : ReportSys ι} {t : ι} {j : Fin maxAlarmRecords} {records : Records}
    (h : ToldAt s t .idle j) (hj : records j = s.records j) (p : Pc) :
    ToldAt (s.withRecords records) t p j := by
  simp only [ToldAt, withRecords, hj]
  exact h.imp_right (Or.imp (Or.imp_left False.elim)
    (And.imp_right (Or.imp_right (Or.imp_left False.elim))))

/-! ### The scan -/

/-- Going on with a scan changes nothing: the slots passed hold nothing unreported, and the
record where the scan stops is about to be reported. -/
lemma owedAt_scanPos {s : ReportSys ι} {t : ι} {p : Pc} {n : ℕ} (hd : DistinctAlarms s.records)
    (ha : ∀ key, ¬ p.SendsActive key) (hc : ∀ key, ¬ p.SendsCleared key)
    (hs : ∀ j, p.ScansTo j ↔ n ≤ (j : ℕ)) :
    OwedAt s t (scanPos s.records n) ↔ OwedAt s t p := by
  have hcleared : ∀ key, ¬ (scanPos s.records n).SendsCleared key := by
    intro key
    rw [scanPos]
    split <;> exact id
  have htold : ∀ j, (s.records j).active →
      (ToldAt s t (scanPos s.records n) j ↔ ToldAt s t p j) := by
    intro j hj
    cases hnext : nextPending s.records n with
    | none =>
      -- the scan ends, so that slot `j` was not unreported and ahead of it
      have hpos : scanPos s.records n = .idle := by rw [scanPos, hnext]
      refine or_congr_right (or_congr (or_congr_left ?_) (and_congr_right fun hrep => ?_))
      · exact iff_of_false (by rw [hpos]; exact id) (ha _)
      · refine or_congr_right (or_congr_left ?_)
        refine iff_of_false (by rw [hpos]; exact id) fun hscan => ?_
        obtain ⟨k, hk, -⟩ := exists_nextPending ((hs j).1 hscan) hj hrep
        rw [hnext] at hk
        cases hk
    | some k =>
      obtain ⟨hnk, hk, hkrep⟩ := nextPending_some hnext
      have hpos : scanPos s.records n =
          .scanSend k (s.records k).key (s.records k).additionalInfo := by rw [scanPos, hnext]
      rw [hpos]
      constructor
      · rintro (hlast | (hsends | hother) | ⟨hrep, hdown | hscan | hother⟩)
        · exact .inl hlast
        · -- the record that the scan stops at is the one of slot `j`
          obtain rfl := hd k j hk hj hsends
          exact .inr (.inr ⟨hkrep, .inr (.inl ((hs k).2 hnk))⟩)
        · exact .inr (.inl (.inr hother))
        · exact .inr (.inr ⟨hrep, .inl hdown⟩)
        · have hkj : k < j := hscan
          exact .inr (.inr ⟨hrep, .inr (.inl ((hs j).2 (hnk.trans hkj.le)))⟩)
        · exact .inr (.inr ⟨hrep, .inr (.inr hother)⟩)
      · rintro (hlast | (hsends | hother) | ⟨hrep, hdown | hscan | hother⟩)
        · exact .inl hlast
        · exact absurd hsends (ha _)
        · exact .inr (.inl (.inr hother))
        · exact .inr (.inr ⟨hrep, .inl hdown⟩)
        · -- the scan stops at slot `j` or before it
          obtain ⟨k', hk', hle⟩ := exists_nextPending ((hs j).1 hscan) hj hrep
          obtain rfl : k = k' := Option.some.inj (hnext.symm.trans hk')
          rcases hle.eq_or_lt with rfl | hlt
          · exact .inr (.inl (.inl rfl))
          · exact .inr (.inr ⟨hrep, .inr (.inl hlt)⟩)
        · exact .inr (.inr ⟨hrep, .inr (.inr hother)⟩)
  constructor
  · exact fun h => ⟨fun j hj => (htold j hj).1 (h.told j hj),
      fun key hlast => by simpa [hc, hcleared] using h.stale key hlast⟩
  · exact fun h => ⟨fun j hj => (htold j hj).2 (h.told j hj),
      fun key hlast => by simpa [hc, hcleared] using h.stale key hlast⟩

/-- The two places where a scan starts and goes on. -/
lemma owedAt_scanStart_iff {s : ReportSys ι} {t : ι} (hd : DistinctAlarms s.records) :
    OwedAt s t (scanPos s.records 0) ↔ OwedAt s t .scanStart :=
  owedAt_scanPos hd (fun _ => id) (fun _ => id) fun _ => iff_of_true trivial (Nat.zero_le _)

lemma owedAt_scanMark_iff {s : ReportSys ι} {t : ι} {i : Fin maxAlarmRecords}
    (hd : DistinctAlarms s.records) (key : AlarmKey) :
    OwedAt s t (scanPos s.records (i + 1)) ↔ OwedAt s t (.scanMark i key) :=
  owedAt_scanPos hd (fun _ => id) (fun _ => id) fun _ => Nat.succ_le_iff.symm

/-! ### The sends and the marks -/

/-- The condition on the send of an ACTIVE report.  While connected, the alarm is still active,
or a CLEARED report of it is yet to follow; without a connection, when its record is marked as
reported already, the base band unit knows of it or another ACTIVE report is yet to follow. -/
def SendActiveInOrder (s : ReportSys ι) (t : ι) (key : AlarmKey) : Prop :=
  if s.tcpConnected then IsActive s.records key ∨ Elsewhere (Pc.SendsCleared key) s.pc t
  else ∀ i, (s.records i).active → (s.records i).key = key → (s.records i).reported = true →
    s.lastReport key = some .active ∨ Elsewhere (Pc.SendsActive key) s.pc t

/-- The condition on the send of a CLEARED report.  While connected, if the alarm is active
again, an ACTIVE report of it is yet to follow or a scan is yet to come to it; without a
connection, the base band unit does not take the alarm for active, or rightly so, or another
CLEARED report is yet to follow. -/
def SendClearedInOrder (s : ReportSys ι) (t : ι) (key : AlarmKey) : Prop :=
  if s.tcpConnected then ∀ i, (s.records i).active → (s.records i).key = key →
    Elsewhere (Pc.SendsActive key) s.pc t ∨
      (s.records i).reported = false ∧ Elsewhere (Pc.ScansTo i) s.pc t
  else s.lastReport key = some .active →
    IsActive s.records key ∨ Elsewhere (Pc.SendsCleared key) s.pc t

/-- The condition on marking a slot that still holds the alarm: the base band unit knows of the
alarm, or another ACTIVE report of it is yet to follow. -/
def MarkInOrder (s : ReportSys ι) (t : ι) (i : Fin maxAlarmRecords) (key : AlarmKey) : Prop :=
  (s.records i).active → (s.records i).key = key →
    s.lastReport key = some .active ∨ Elsewhere (Pc.SendsActive key) s.pc t

variable {s : ReportSys ι} {t : ι} {key : AlarmKey} {p q : Pc}

lemma owedAt_sendActive {info : Bytes} (h : OwedAt s t q)
    (hq : ∀ key', q.SendsActive key' ↔ key = key') (hp : ∀ key', ¬ p.SendsActive key')
    (hqc : ∀ key', ¬ q.SendsCleared key') (hpc : ∀ key', ¬ p.SendsCleared key')
    (hscan : ∀ j, p.ScansTo j ↔ q.ScansTo j) :
    OwedAt (s.send ⟨key, .active, info⟩) t p ↔ SendActiveInOrder s t key := by
  cases hconn : s.tcpConnected with
  | true =>
    have hlast : ∀ key', (s.send ⟨key, .active, info⟩).lastReport key' =
        if key = key' then some .active else s.lastReport key' := by
      simp [lastReport_send, hconn]
    rw [SendActiveInOrder, if_pos hconn]
    constructor
    · -- the report makes the alarm active for the base band unit, which must be right or undone
      intro h'
      simpa [hpc] using h'.stale key (by rw [hlast, if_pos rfl])
    · intro hok
      refine ⟨fun j hj => ?_, fun key' hkey' => ?_⟩
      · rw [send_records] at hj
        rw [ToldAt, send_records, send_tcpConnected, send_pc, hlast, hscan]
        by_cases hkey : key = (s.records j).key
        · exact .inl (if_pos hkey)
        · rw [if_neg hkey]
          refine (h.told j hj).imp_right (Or.imp_left (Or.imp_left fun hsends => ?_))
          exact absurd ((hq _).1 hsends) hkey
      · rw [hlast] at hkey'
        rw [send_records, send_pc]
        by_cases hkey : key = key'
        · subst hkey
          exact hok.imp_right .inr
        · rw [if_neg hkey] at hkey'
          exact (h.stale key' hkey').imp_right (Or.imp_left fun hc => absurd hc (hqc key'))
  | false =>
    have hsend : s.send ⟨key, .active, info⟩ = s := by simp [ReportSys.send, hconn]
    rw [SendActiveInOrder, if_neg (by simp [hconn]), hsend]
    constructor
    · rintro h' i hi rfl hrep
      rcases h'.told i hi with hlast | (hsends | hother) | ⟨hrep', -⟩
      · exact .inl hlast
      · exact absurd hsends (hp _)
      · exact .inr hother
      · rw [hrep] at hrep'
        cases hrep'
    · intro hok
      refine ⟨fun j hj => ?_, fun key' hkey' => ?_⟩
      · -- without a connection an unreported record waits for the next one
        by_cases hrep : (s.records j).reported = true
        · rcases h.told j hj with hlast | (hsends | hother) | ⟨hrep', -⟩
          · exact .inl hlast
          · have hkey := (hq _).1 hsends
            rcases hok j hj hkey.symm hrep with hlast | hother
            · exact .inl (by rwa [← hkey])
            · exact .inr (.inl (.inr (by rwa [← hkey])))
          · exact .inr (.inl (.inr hother))
          · rw [hrep] at hrep'
            cases hrep'
        · exact .inr (.inr ⟨by simpa using hrep, .inl hconn⟩)
      · exact (h.stale key' hkey').imp_right (Or.imp_left fun hc => absurd hc (hqc key'))

lemma owedAt_sendCleared {info info' : Bytes} (h : OwedAt s t (.clearSend key info)) :
    OwedAt (s.send ⟨key, .cleared, info'⟩) t .idle ↔ SendClearedInOrder s t key := by
  cases hconn : s.tcpConnected with
  | true =>
    have hlast : ∀ key', (s.send ⟨key, .cleared, info'⟩).lastReport key' =
        if key = key' then some .cleared else s.lastReport key' := by
      simp [lastReport_send, hconn]
    rw [SendClearedInOrder, if_pos hconn]
    constructor
    · -- the report makes the alarm inactive for it, which must be right or undone
      rintro h' i hi rfl
      have htold := h'.told i (by rwa [send_records])
      simpa [ToldAt, hlast, hconn] using htold
    · intro hok
      refine ⟨fun j hj => ?_, fun key' hkey' => ?_⟩
      · rw [send_records] at hj
        rw [ToldAt, send_records, send_tcpConnected, send_pc, hlast]
        by_cases hkey : key = (s.records j).key
        · subst hkey
          rcases hok j hj rfl with hother | ⟨hrep, hother⟩
          · exact .inr (.inl (.inr hother))
          · exact .inr (.inr ⟨hrep, .inr (.inr hother)⟩)
        · rw [if_neg hkey]
          exact h.told j hj
      · rw [hlast] at hkey'
        rw [send_records, send_pc]
        by_cases hkey : key = key'
        · rw [if_pos hkey] at hkey'
          cases hkey'
        · rw [if_neg hkey] at hkey'
          exact (h.stale key' hkey').imp_right (Or.imp_left fun hc => absurd hc hkey)
  | false =>
    have hsend : s.send ⟨key, .cleared, info'⟩ = s := by simp [ReportSys.send, hconn]
    rw [SendClearedInOrder, if_neg (by simp [hconn]), hsend]
    constructor
    · intro h' hlast
      simpa using h'.stale key hlast
    · intro hok
      refine ⟨h.told, fun key' hkey' => ?_⟩
      by_cases hkey : key = key'
      · subst hkey
        exact (hok hkey').imp_right .inr
      · exact (h.stale key' hkey').imp_right (Or.imp_left fun hc => absurd hc hkey)

lemma owedAt_markSlot {i : Fin maxAlarmRecords} (h : OwedAt s t p)
    (hp : ∀ key', ¬ p.SendsActive key') :
    OwedAt (s.markSlot i key) t p ↔ MarkInOrder s t i key := by
  constructor
  · rintro h' hi rfl
    have htold := h'.told i (by simpa [markSlot, withRecords, markReported_active] using hi)
    simp only [ToldAt, markSlot, withRecords, markReported_key] at htold
    rcases htold with hlast | (hsends | hother) | ⟨hrep, -⟩
    · exact .inl hlast
    · exact absurd hsends (hp _)
    · exact .inr hother
    · -- the slot is marked now
      have hmarked :=
        (markReported_reported s.records i i (s.records i).key).2 (.inr ⟨rfl, hi, rfl⟩)
      rw [hmarked] at hrep
      cases hrep
  · intro hok
    refine ⟨fun j hj => ?_, fun key' hkey' => ?_⟩
    · simp only [markSlot, withRecords, markReported_active] at hj
      simp only [ToldAt, markSlot, withRecords, markReported_key]
      rcases h.told j hj with hlast | hsends | ⟨hrep, hrest⟩
      · exact .inl hlast
      · exact .inr (.inl hsends)
      · by_cases hmatch : j = i ∧ (s.records i).active ∧ (s.records i).key = key
        · obtain ⟨rfl, hactive, rfl⟩ := hmatch
          rcases hok hactive rfl with hlast | hother
          · exact .inl hlast
          · exact .inr (.inl (.inr hother))
        · refine .inr (.inr ⟨?_, hrest⟩)
          rw [← Bool.not_eq_true, markReported_reported, not_or]
          exact ⟨by simp [hrep], hmatch⟩
    · simpa only [markSlot, withRecords, isActive_markReported] using h.stale key' hkey'

/-- Nothing that is owed after the send of an ACTIVE report was lost before it. -/
lemma owedAt_of_sendActive {info : Bytes} (h : OwedAt (s.send ⟨key, .active, info⟩) t p)
    (hq : q.SendsActive key) (hp : ∀ key', ¬ p.SendsActive key')
    (hpc : ∀ key', ¬ p.SendsCleared key') (hscan : ∀ j, p.ScansTo j ↔ q.ScansTo j) :
    OwedAt s t q := by
  refine ⟨fun j hj => ?_, fun key' hlast => ?_⟩
  · have htold := h.told j (by rwa [send_records])
    rw [ToldAt, send_records, send_tcpConnected, send_pc, lastReport_send, hscan] at htold
    by_cases hkey : key = (s.records j).key
    · exact .inr (.inl (.inl (hkey ▸ hq)))
    · rw [if_neg fun hboth => hkey hboth.2] at htold
      exact htold.imp_right (Or.imp_left (Or.imp_left fun hsends => absurd hsends (hp _)))
  · have hstale := h.stale key' (by rw [lastReport_send, hlast]; split <;> rfl)
    rw [send_records, send_pc] at hstale
    exact hstale.imp_right (Or.imp_left fun hc => absurd hc (hpc _))

/-- The same for a CLEARED report. -/
lemma owedAt_of_sendCleared {info info' : Bytes}
    (h : OwedAt (s.send ⟨key, .cleared, info'⟩) t .idle) : OwedAt s t (.clearSend key info) := by
  refine ⟨fun j hj => ?_, fun key' hlast => ?_⟩
  · have htold := h.told j (by rwa [send_records])
    rw [ToldAt, send_records, send_tcpConnected, send_pc, lastReport_send] at htold
    refine htold.imp_left fun hlast => ?_
    split at hlast
    · cases hlast
    · exact hlast
  · by_cases hkey : key = key'
    · exact .inr (.inl hkey)
    · have hstale := h.stale key' (by rw [lastReport_send, if_neg fun hboth => hkey hboth.2, hlast])
      rw [send_records, send_pc] at hstale
      exact hstale.imp_right (Or.imp_left False.elim)

/-- And for a mark. -/
lemma owedAt_of_markSlot {i : Fin maxAlarmRecords} (h : OwedAt (s.markSlot i key) t p) :
    OwedAt s t p := by
  refine ⟨fun j hj => ?_, fun key' hlast => ?_⟩
  · have htold := h.told j (by simpa [markSlot, withRecords, markReported_active] using hj)
    simp only [ToldAt, markSlot, withRecords, markReported_key] at htold
    refine htold.imp_right (Or.imp_right (And.imp_left fun hrep => ?_))
    rw [← Bool.not_eq_true, markReported_reported, not_or] at hrep
    simpa using hrep.1
  · simpa only [markSlot, withRecords, isActive_markReported] using h.stale key' hlast

variable [DecidableEq ι]

lemma owed_goto (s : ReportSys ι) (t : ι) (p : Pc) : Owed (s.goto t p) ↔ OwedAt s t p := by
  have htold : ∀ j, Told (s.goto t p) j ↔ ToldAt s t p j := by
    intro j
    simp only [Told, goto, somewhere_update, ToldAt]
    rfl
  constructor
  · exact fun h => ⟨fun j hj => (htold j).1 (h.told j hj),
      fun key hlast => by simpa only [goto, somewhere_update] using h.stale key hlast⟩
  · exact fun h => ⟨fun j hj => (htold j).2 (h.told j hj),
      fun key hlast => by simpa only [goto, somewhere_update] using h.stale key hlast⟩

/-! ### The regions of the calls -/

/-- A new record is about to be reported, or waits for a connection. -/
lemma owed_trigger (h : Owed s) (hidle : s.pc t = .idle) (key : AlarmKey) (info : Bytes) :
    Owed (s.trigger t key info) := by
  rw [trigger]
  cases htrig : triggerRecord s.records key info with
  | known => exact h
  | full => exact h
  | stored i records =>
    obtain ⟨-, hfree, rfl⟩ := triggerRecord_stored htrig
    have hat := (owed_iff_at hidle).1 h
    have howed : ∀ p : Pc, (s.tcpConnected = true → p.SendsActive key) →
        OwedAt (s.withRecords (Function.update s.records i (newRecord key info))) t p := by
      intro p hp
      refine ⟨fun j hj => ?_, fun key' hlast => ?_⟩
      · simp only [withRecords] at hj
        rcases eq_or_ne j i with rfl | hne
        · -- the new record
          simp only [ToldAt, withRecords, Function.update_self]
          by_cases hconn : s.tcpConnected = true
          · exact .inr (.inl (.inl (hp hconn)))
          · exact .inr (.inr ⟨rfl, .inl (by simpa using hconn)⟩)
        · rw [Function.update_of_ne hne] at hj
          exact (hat.told j hj).of_idle (Function.update_of_ne hne _ _) p
      · simp only [withRecords]
        rw [isActive_update_newRecord hfree]
        exact (hat.stale key' hlast).imp .inl (Or.imp_left False.elim)
    by_cases hconn : s.tcpConnected = true
    · simp only [if_pos hconn]
      exact (owed_goto _ _ _).2 (howed _ fun _ => rfl)
    · simp only [if_neg hconn]
      refine (owed_iff_at (t := t) (p := .idle) ?_).2 (howed _ fun hconn' => absurd hconn' hconn)
      exact hidle

/-- Clearing an alarm is reported, unless there is no connection. -/
lemma owed_clear_iff (hd : DistinctAlarms s.records) (h : Owed s) (hidle : s.pc t = .idle)
    (key : AlarmKey) :
    Owed (s.clear t key) ↔ (s.tcpConnected = false → IsActive s.records key →
      s.lastReport key = some .active → Elsewhere (Pc.SendsCleared key) s.pc t) := by
  rw [clear]
  cases hclear : clearRecord s.records key with
  | none =>
    exact iff_of_true h fun _ hactive => absurd hactive (clearRecord_none hclear)
  | some found =>
    obtain ⟨info, records⟩ := found
    obtain ⟨i, hi, rfl, rfl⟩ := clearRecord_some hclear
    have hat := (owed_iff_at hidle).1 h
    have hgone := isActive_update_inactive hd hi
    -- of the other alarms nothing changes, so that all is about what is owed for this one
    have howed : ∀ p : Pc, OwedAt (s.withRecords (Function.update s.records i
          { s.records i with active := false })) t p ↔
        (s.lastReport (s.records i).key = some .active →
          p.SendsCleared (s.records i).key ∨
            Elsewhere (Pc.SendsCleared (s.records i).key) s.pc t) := by
      intro p
      constructor
      · intro h' hlast
        have hstale := h'.stale _ hlast
        simp only [withRecords] at hstale
        rw [hgone] at hstale
        exact hstale.resolve_left fun hactive => hactive.2 rfl
      · intro hok
        refine ⟨fun j hj => ?_, fun key' hlast => ?_⟩
        · simp only [withRecords] at hj
          have hne : j ≠ i := by
            rintro rfl
            simp at hj
          rw [Function.update_of_ne hne] at hj
          exact (hat.told j hj).of_idle (Function.update_of_ne hne _ _) p
        · simp only [withRecords]
          rw [hgone]
          by_cases hkey : key' = (s.records i).key
          · -- the alarm that was cleared is now owed a CLEARED report
            subst hkey
            exact .inr (hok hlast)
          · exact (hat.stale key' hlast).imp (fun hactive => ⟨hactive, hkey⟩)
              (Or.imp_left False.elim)
    by_cases hconn : s.tcpConnected = true
    · simp only [if_pos hconn]
      refine iff_of_true ((owed_goto _ _ _).2 ((howed _).2 fun _ => .inl rfl)) fun hconn' => ?_
      rw [hconn] at hconn'
      cases hconn'
    · simp only [if_neg hconn]
      refine (owed_iff_at (t := t) (p := .idle) ?_).trans ?_
      · exact hidle
      rw [howed]
      constructor
      · exact fun hok _ _ hlast => (hok hlast).resolve_left id
      · exact fun hok hlast => .inr (hok (by simpa using hconn) ⟨i, hi, rfl⟩ hlast)

/-- A connection that comes up is followed by a scan of all records; one that goes down leaves
everything unreported to the next. -/
lemma owed_setStatus (h : Owed s) (hidle : s.pc t = .idle) (connected : Bool) :
    Owed (s.setStatus t connected) := by
  have hat := (owed_iff_at hidle).1 h
  cases connected with
  | true =>
    cases hconn : s.tcpConnected with
    | true =>
      have hsame : s.setStatus t true = s := by simp [setStatus, ← hconn]
      rwa [hsame]
    | false =>
      have hscan : s.setStatus t true = { s with tcpConnected := true }.goto t .scanStart := by
        simp [setStatus, hconn]
      rw [hscan, owed_goto]
      refine ⟨fun j hj => ?_, fun key hlast => hat.stale key hlast⟩
      exact (hat.told j hj).imp_right (Or.imp_right fun hrest => ⟨hrest.1, .inr (.inl trivial)⟩)
  | false =>
    have hdown : s.setStatus t false = { s with tcpConnected := false } := by simp [setStatus]
    rw [hdown]
    refine ⟨fun j hj => ?_, h.stale⟩
    exact (h.told j hj).imp_right (Or.imp_right fun hrest => ⟨hrest.1, .inl rfl⟩)

/-! ### Steps and runs -/

/-- The condition on a step and the state before it: an alarm that the base band unit takes for
active is not cleared without a connection, unless a CLEARED report of it is yet to follow, and
the sends and the marks are in order. -/
def InOrder (s : ReportSys ι) : Act ι → Prop
  | .clear t key => s.tcpConnected = false → IsActive s.records key →
      s.lastReport key = some .active → Elsewhere (Pc.SendsCleared key) s.pc t
  | .send t => match s.pc t with
    | .triggerSend _ key _ | .scanSend _ key _ => SendActiveInOrder s t key
    | .clearSend key _ => SendClearedInOrder s t key
    | _ => True
  | .mark t => match s.pc t with
    | .triggerMark i key | .scanMark i key => MarkInOrder s t i key
    | _ => True
  | _ => True

/-- The steps that complete the calls in progress, and the connection coming up. -/
def Finishing : Act ι → Prop
  | .trigger .. | .clear .. | .reportAllPending _ => False
  | .setStatus _ connected => connected
  | .scan _ | .send _ | .mark _ => True

/-- No step puts an alarm into two records. -/
lemma distinct_step {s s' : ReportSys ι} {a : Act ι} (hd : DistinctAlarms s.records)
    (h : Step s a s') : DistinctAlarms s'.records := by
  cases step_cases h with
  | @trigger t key info _ =>
    rw [trigger]
    cases htrig : triggerRecord s.records key info with
    | known => exact hd
    | full => exact hd
    | stored i records =>
      have hd' := distinctAlarms_of_stored hd htrig
      dsimp only
      split <;> exact hd'
  | @clear t key _ =>
    rw [clear]
    cases hclear : clearRecord s.records key with
    | none => exact hd
    | some found =>
      have hd' := distinctAlarms_of_cleared hd hclear
      dsimp only
      split <;> exact hd'
  | setStatus _ =>
    rw [setStatus]
    split <;> exact hd
  | reportAllPending _ => exact hd
  | scan _ => exact hd
  | sendTriggered _ => simpa [goto] using hd
  | sendCleared _ => simpa [goto] using hd
  | sendScanned _ => simpa [goto] using hd
  | markTriggered _ => exact distinctAlarms_markReported hd _ _
  | markScanned _ => exact distinctAlarms_markReported hd _ _

/-- A step from a state where everything is on its way leads to such a state exactly when it is
in order. -/
lemma owed_step_iff {s s' : ReportSys ι} {a : Act ι} (hd : DistinctAlarms s.records)
    (howed : Owed s) (h : Step s a s') : Owed s' ↔ InOrder s a := by
  have hat {t : ι} {p : Pc} (hpc : s.pc t = p) : OwedAt s t p := (owed_iff_at hpc).1 howed
  cases step_cases h with
  | trigger hidle => exact iff_of_true (owed_trigger howed hidle _ _) trivial
  | clear hidle => exact owed_clear_iff hd howed hidle _
  | setStatus hidle => exact iff_of_true (owed_setStatus howed hidle _) trivial
  | reportAllPending hidle =>
    refine iff_of_true ((owed_goto _ _ _).2 ⟨fun j hj => ?_, (hat hidle).stale⟩) trivial
    exact ((hat hidle).told j hj).of_idle rfl _
  | scan hpc =>
    exact iff_of_true ((owed_goto _ _ _).2 ((owedAt_scanStart_iff hd).2 (hat hpc))) trivial
  | sendTriggered hpc =>
    simp only [InOrder, hpc]
    rw [owed_goto]
    exact owedAt_sendActive (hat hpc) (fun _ => Iff.rfl) (fun _ => id) (fun _ => id) (fun _ => id)
      fun _ => Iff.rfl
  | sendCleared hpc =>
    simp only [InOrder, hpc]
    rw [owed_goto]
    exact owedAt_sendCleared (hat hpc)
  | sendScanned hpc =>
    simp only [InOrder, hpc]
    rw [owed_goto]
    exact owedAt_sendActive (hat hpc) (fun _ => Iff.rfl) (fun _ => id) (fun _ => id) (fun _ => id)
      fun _ => Iff.rfl
  | @markTriggered t i key hpc =>
    simp only [InOrder, hpc]
    rw [owed_goto, ← owedAt_idle_iff (p := .triggerMark i key) (fun _ => id) (fun _ => id)
      fun _ => id]
    exact owedAt_markSlot (hat hpc) fun _ => id
  | @markScanned t i key hpc =>
    simp only [InOrder, hpc]
    rw [scanFrom, owed_goto, owedAt_scanMark_iff (distinctAlarms_markReported hd i key) key]
    exact owedAt_markSlot (hat hpc) fun _ => id

/-- What is not on its way, no completion of the calls in progress sends. -/
lemma owed_of_finishing {s s' : ReportSys ι} {a : Act ι} (hd : DistinctAlarms s.records)
    (h : Step s a s') (hfinish : Finishing a) (howed : Owed s') : Owed s := by
  cases step_cases h with
  | trigger _ => exact hfinish.elim
  | clear _ => exact hfinish.elim
  | reportAllPending _ => exact hfinish.elim
  | @setStatus t connected hidle =>
    obtain rfl : connected = true := hfinish
    by_cases hconn : s.tcpConnected = true
    · have hsame : s.setStatus t true = s := by simp [setStatus, ← hconn]
      rwa [hsame] at howed
    · -- the scan that follows would only tell what is unreported
      have hscan : s.setStatus t true = { s with tcpConnected := true }.goto t .scanStart := by
        simp [setStatus, hconn]
      rw [hscan, owed_goto] at howed
      rw [owed_iff_at hidle]
      refine ⟨fun j hj => ?_, howed.stale⟩
      exact (howed.told j hj).imp_right (Or.imp (Or.imp_left False.elim)
        fun hrest => ⟨hrest.1, .inl (by simpa using hconn)⟩)
  | scan hpc =>
    rw [scanFrom, owed_goto, owedAt_scanStart_iff hd] at howed
    rwa [owed_iff_at hpc]
  | sendTriggered hpc =>
    rw [owed_goto] at howed
    rw [owed_iff_at hpc]
    exact owedAt_of_sendActive howed rfl (fun _ => id) (fun _ => id) fun _ => Iff.rfl
  | sendCleared hpc =>
    rw [owed_goto] at howed
    rw [owed_iff_at hpc]
    exact owedAt_of_sendCleared howed
  | sendScanned hpc =>
    rw [owed_goto] at howed
    rw [owed_iff_at hpc]
    exact owedAt_of_sendActive howed rfl (fun _ => id) (fun _ => id) fun _ => Iff.rfl
  | @markTriggered t i key hpc =>
    rw [owed_goto, ← owedAt_idle_iff (p := .triggerMark i key) (fun _ => id) (fun _ => id)
      fun _ => id] at howed
    rw [owed_iff_at hpc]
    exact owedAt_of_markSlot howed
  | @markScanned t i key hpc =>
    rw [scanFrom, owed_goto, owedAt_scanMark_iff (distinctAlarms_markReported hd i key) key]
      at howed
    rw [owed_iff_at hpc]
    exact owedAt_of_markSlot howed

/-- In every run of steps in order the view of the base band unit converges; and a step out of
order at the end of such a run makes every completion of the calls then in progress end, once
connected, with a wrong view. -/
theorem converges_iff_inOrder {l : List (Act ι)} {s : ReportSys ι}
    (hrun : Run (restrict Step InOrder) init l s) :
    Converged s ∧
      ∀ (m : List (Act ι)) (a : Act ι) (s' u : ReportSys ι), Step s a s' → ¬ InOrder s a →
        Run (restrict Step fun _ b => Finishing b) s' m u → u.Quiet → u.tcpConnected →
        ¬ Converged u := by
  obtain ⟨hd, howed⟩ : DistinctAlarms s.records ∧ Owed s := by
    refine hrun.invariant (I := fun s => DistinctAlarms s.records ∧ Owed s) ?_
      ⟨distinctAlarms_noRecords, owed_init⟩
    rintro s a s' ⟨hd, howed⟩ ⟨hstep, hok⟩
    exact ⟨distinct_step hd hstep, (owed_step_iff hd howed hstep).2 hok⟩
  constructor
  · intro hquiet hconn
    exact (converged_iff_owed hquiet hconn).2 howed hquiet hconn
  · intro m a s' u hstep hbad hfinish hquiet hconn
    have hlost : DistinctAlarms s'.records ∧ ¬ Owed s' :=
      ⟨distinct_step hd hstep, fun howed' => hbad ((owed_step_iff hd howed hstep).1 howed')⟩
    -- what is lost at the step out of order, no completion of the calls brings back
    have hu : DistinctAlarms u.records ∧ ¬ Owed u := by
      refine hfinish.invariant (I := fun s => DistinctAlarms s.records ∧ ¬ Owed s) ?_ hlost
      rintro s a s' ⟨hd, hnot⟩ ⟨hstep, hfin⟩
      exact ⟨distinct_step hd hstep, fun h => hnot (owed_of_finishing hd hstep hfin h)⟩
    exact fun hconv => hu.2 ((converged_iff_owed hquiet hconn).1 hconv)

/-! ### An alarm cleared without a connection -/

/-- The loss of optical synchronisation at port 0. -/
def portAlarm : AlarmKey := (1097, 0)

/-- Connected, with the alarm just triggered. -/
def triggered : ReportSys Unit :=
  ((init.setStatus () true).scanFrom () 0).trigger () portAlarm []

example : triggered.pc () = .triggerSend 0 portAlarm [] := by decide +kernel

/-- The report of it has been sent. -/
def sentActive : ReportSys Unit :=
  (triggered.send ⟨portAlarm, .active, []⟩).goto () (.triggerMark 0 portAlarm)

/-- The record has been marked, and then the connection is lost. -/
def downAfterReport : ReportSys Unit :=
  ((sentActive.markSlot 0 portAlarm).goto () .idle).setStatus () false

/-- The alarm is cleared, and then the connection comes back. -/
def upAfterClear : ReportSys Unit :=
  ((downAfterReport.clear () portAlarm).setStatus () true).scanFrom () 0

lemma run_downAfterReport : Run (restrict Step InOrder) init
    [.setStatus () true, .scan (), .trigger () portAlarm [], .send (), .mark (),
      .setStatus () false] downAfterReport := by
  have hsend : triggered.pc () = .triggerSend 0 portAlarm [] := by decide +kernel
  have hsendOk : InOrder triggered (.send ()) := by
    simp only [InOrder, hsend, SendActiveInOrder]
    rw [if_pos (by decide +kernel)]
    exact .inl (isActive_of_findAlarmRecord (i := 0) (by decide +kernel))
  have hmark : sentActive.pc () = .triggerMark 0 portAlarm := by decide +kernel
  have hmarkOk : InOrder sentActive (.mark ()) := by
    simp only [InOrder, hmark]
    exact fun _ _ => .inl (by decide +kernel)
  exact .cons ⟨step_setStatus rfl true, trivial⟩ <|
    .cons ⟨step_scan (by decide +kernel), trivial⟩ <|
    .cons ⟨step_trigger (by decide +kernel) portAlarm [], trivial⟩ <|
    .cons ⟨step_send_triggerSend hsend, hsendOk⟩ <|
    .cons ⟨step_mark_triggerMark hmark, hmarkOk⟩ <|
    .cons ⟨step_setStatus (by decide +kernel) false, trivial⟩ <| .nil _

lemma step_clear_down :
    Step downAfterReport (.clear () portAlarm) (downAfterReport.clear () portAlarm) :=
  step_clear (by decide +kernel) portAlarm

lemma run_upAfterClear : Run (restrict Step fun _ b => Finishing b)
    (downAfterReport.clear () portAlarm) [.setStatus () true, .scan ()] upAfterClear :=
  .cons ⟨step_setStatus (by decide +kernel) true, rfl⟩ <|
    .cons ⟨step_scan (by decide +kernel), trivial⟩ <| .nil _

lemma upAfterClear_quiet : upAfterClear.Quiet := by
  rintro ⟨⟩
  decide +kernel

/-- The report and the loss of the connection are in order and leave a right view; the clear
after them is not, and the next connection comes up with a wrong one. -/
theorem converges_iff_inOrder_downAfterReport :
    Converged downAfterReport ∧ ¬ Converged upAfterClear := by
  refine ⟨(converges_iff_inOrder run_downAfterReport).1,
    (converges_iff_inOrder run_downAfterReport).2 _ _ _ _ step_clear_down ?_ run_upAfterClear
      upAfterClear_quiet (by decide +kernel)⟩
  intro hok
  have hactive : IsActive downAfterReport.records portAlarm :=
    isActive_of_findAlarmRecord (i := 0) (by decide +kernel)
  obtain ⟨t, ht, -⟩ := hok (by decide +kernel) hactive (by decide +kernel)
  exact ht rfl

/-- The view of the base band unit need not converge: an alarm that is cleared without a
connection stays active for it. -/
theorem cleared_alarm_stays_reported :
    ¬ ∀ (l : List (Act Unit)) (s : ReportSys Unit), Run Step init l s → Converged s := by
  intro h
  have hrun := run_downAfterReport.of_restrict.append
    (.cons step_clear_down run_upAfterClear.of_restrict)
  obtain ⟨hflag, -⟩ := h _ _ hrun upAfterClear_quiet (by decide +kernel)
  have hactive := (hflag portAlarm .active (by decide +kernel)).1 rfl
  exact findAlarmRecord_none (by decide +kernel) hactive

end AntennaMgmt.Alarm
