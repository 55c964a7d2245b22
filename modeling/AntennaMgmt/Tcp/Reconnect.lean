import AntennaMgmt.Alarm.Manager
import AntennaMgmt.Lib.Transition
import AntennaMgmt.Tcp.Send

/-!
# Reconnecting

When a connection breaks, `tcp_recv_thread` publishes the client as disconnected and then, in
regions of their own, takes the status of the alarm module down, notes the disconnect in the
state tracker and raises the disconnect alarm.  `tcp_reconnect_thread` may see the client
disconnected before that is done: it connects, publishes the connection, and undoes the three
in the same order, before it joins the old thread and starts a new one.

A step of the model is one region of one of the two threads, or a region of another thread that
triggers, clears or marks another alarm.
-/

namespace AntennaMgmt.Tcp

open AntennaMgmt.Lib AntennaMgmt.Alarm

/-- `ALARM_CODE_TCP_DISCONNECT`, which has no sub-code. -/
def alarmTcpDisconnect : AlarmKey := (1160, 0)

/-- The text of the alarm. -/
def disconnectInfo : Bytes := ascii "TCP disconnected: Connection lost"

/-- Where the receive thread stands.  From `disconnected` to `leaving` it is on its exit path:
the client is published as disconnected, and what comes next is the region of
`alarm_set_tcp_status(false)`, of the tracker, of `alarm_trigger`, of the mark after its report,
and the callback. -/
inductive RecvPc
  | none
  | running
  | disconnected
  | trackDown
  | triggering
  | marking (i : Fin maxAlarmRecords)
  | leaving
  | exited
deriving DecidableEq, Repr

/-- Where the reconnect thread stands.  From `statusUp` to `creating` it is in
`tcp_connect_to_server` with the connection published: what comes next is the region of
`alarm_set_tcp_status(true)`, those of `alarm_report_all_pending`, the one of the tracker, the
one of `alarm_clear`, the join, and the new receive thread. -/
inductive ReconnectPc
  | idle
  | connecting
  | statusUp
  | reporting
  | trackUp
  | clearing
  | joining
  | creating
deriving DecidableEq, Repr

/-- The client state, the shared variables of the alarm module and the two threads. -/
structure ReconnectSys where
  state : TcpState
  tcpConnected : Bool
  tcpDisconnectActive : Bool
  records : Records
  recv : RecvPc
  reconnect : ReconnectPc

/-- One region of a thread.  The last three are those of other threads, about other alarms. -/
inductive Region
  | recvFails
  | setStatusDown
  | trackDisconnect
  | triggerAlarm
  | markAlarm
  | recvExits
  | poll
  | connectFails
  | connect
  | setStatusUp
  | reportPending (i : Fin maxAlarmRecords) (key : AlarmKey)
  | reported
  | untrackDisconnect
  | clearAlarm
  | join
  | create (ok : Bool)
  | otherTrigger (key : AlarmKey) (info : Bytes)
  | otherClear (key : AlarmKey)
  | otherMark (i : Fin maxAlarmRecords) (key : AlarmKey)

/-- After `tcp_client_start`. -/
def ReconnectSys.init : ReconnectSys where
  state := .disconnected
  tcpConnected := false
  tcpDisconnectActive := false
  records := noRecords
  recv := .none
  reconnect := .idle

/-- The step function: a region is possible when its thread stands before it. -/
def nextRegion (s : ReconnectSys) : Region → Option ReconnectSys
  | .recvFails =>
    if s.recv = .running then some { s with state := .disconnected, recv := .disconnected }
    else none
  | .setStatusDown =>
    if s.recv = .disconnected then some { s with tcpConnected := false, recv := .trackDown }
    else none
  | .trackDisconnect =>
    if s.recv = .trackDown then
      -- a disconnect that is noted already raises no alarm
      some { s with
        tcpDisconnectActive := true
        recv := if s.tcpDisconnectActive then .leaving else .triggering }
    else none
  | .triggerAlarm =>
    if s.recv = .triggering then
      match triggerRecord s.records alarmTcpDisconnect disconnectInfo with
      -- the new alarm is reported and then marked, or waits for a connection
      | .stored i records =>
        some { s with records := records, recv := if s.tcpConnected then .marking i else .leaving }
      | _ => some { s with recv := .leaving }
    else none
  | .markAlarm =>
    match s.recv with
    | .marking i =>
      some { s with records := markReported s.records i alarmTcpDisconnect, recv := .leaving }
    | _ => none
  | .recvExits => if s.recv = .leaving then some { s with recv := .exited } else none
  | .poll =>
    if s.reconnect = .idle then
      some { s with reconnect := if s.state = .disconnected then .connecting else .idle }
    else none
  | .connectFails =>
    if s.reconnect = .connecting then some { s with reconnect := .idle } else none
  | .connect =>
    if s.reconnect = .connecting then some { s with state := .connected, reconnect := .statusUp }
    else none
  | .setStatusUp =>
    if s.reconnect = .statusUp then
      -- only a change of the status is followed by the reports that were kept back
      some { s with
        tcpConnected := true
        reconnect := if s.tcpConnected then .trackUp else .reporting }
    else none
  | .reportPending i key =>
    if s.reconnect = .reporting then some { s with records := markReported s.records i key }
    else none
  | .reported => if s.reconnect = .reporting then some { s with reconnect := .trackUp } else none
  | .untrackDisconnect =>
    if s.reconnect = .trackUp then
      some { s with
        tcpDisconnectActive := false
        reconnect := if s.tcpDisconnectActive then .clearing else .joining }
    else none
  | .clearAlarm =>
    if s.reconnect = .clearing then
      match clearRecord s.records alarmTcpDisconnect with
      | some (_, records) => some { s with records := records, reconnect := .joining }
      | none => some { s with reconnect := .joining }
    else none
  | .join =>
    if s.reconnect = .joining ∧ (s.recv = .none ∨ s.recv = .exited) then
      some { s with recv := .none, reconnect := .creating }
    else none
  | .create ok =>
    if s.reconnect = .creating then
      if ok then some { s with recv := .running, reconnect := .idle }
      -- without a receive thread the connection is given up again
      else some { s with state := .disconnected, reconnect := .idle }
    else none
  | .otherTrigger key info =>
    if key = alarmTcpDisconnect then none
    else match triggerRecord s.records key info with
      | .stored _ records => some { s with records := records }
      | _ => some s
  | .otherClear key =>
    if key = alarmTcpDisconnect then none
    else match clearRecord s.records key with
      | some (_, records) => some { s with records := records }
      | none => some s
  | .otherMark i key => some { s with records := markReported s.records i key }

/-- One region of one thread. -/
def RegionStep (s : ReconnectSys) (a : Region) (s' : ReconnectSys) : Prop :=
  nextRegion s a = some s'

/-! ### The property and the order of the regions -/

/-- The client is connected, the old receive thread has been joined and no thread is within an
update of the status. -/
def Settled (s : ReconnectSys) : Prop :=
  s.state = .connected ∧ (s.recv = .none ∨ s.recv = .running) ∧
    (s.reconnect = .idle ∨ s.reconnect = .creating)

/-- What the alarm module then should hold. -/
def StatusRight (s : ReconnectSys) : Prop :=
  Settled s → s.tcpConnected = true ∧ s.tcpDisconnectActive = false ∧
    ¬ IsActive s.records alarmTcpDisconnect

/-- How many of the three updates the reconnect thread has made for its connection. -/
def progress (state : TcpState) : ReconnectPc → ℕ
  | .connecting | .statusUp => 0
  | .reporting | .trackUp => 1
  | .clearing => 2
  | .joining | .creating => 3
  | .idle => if state = .connected then 3 else 0

/-- The condition on a step and the state before it: each update of the exit path comes before
the one of the reconnect thread that undoes it, except that the alarm may come late when there
is no room for it. -/
def RegionInOrder (s : ReconnectSys) : Region → Prop
  | .setStatusDown => progress s.state s.reconnect < 1
  | .trackDisconnect => progress s.state s.reconnect < 2
  | .triggerAlarm => progress s.state s.reconnect < 3 ∨ findFreeRecord s.records = none
  | _ => True

/-- The steps that neither break a connection nor start a new one. -/
def Completing : Region → Prop
  | .recvFails | .poll => False
  | _ => True

/-! ### Runs in order -/

/-- What holds in every run of steps in order. -/
structure ReconnectInv (s : ReconnectSys) : Prop where
  distinct : DistinctAlarms s.records
  connecting : s.reconnect = .connecting → s.state = .disconnected
  status : 1 ≤ progress s.state s.reconnect → s.tcpConnected = true
  tracker : 2 ≤ progress s.state s.reconnect → s.tcpDisconnectActive = false
  /-- The alarm is noted in the tracker, or about to be cleared. -/
  alarm : s.tcpDisconnectActive = false → s.reconnect ≠ .clearing →
    ¬ IsActive s.records alarmTcpDisconnect
  /-- An alarm about to be raised is noted too, unless the reconnect thread came in between. -/
  triggering : s.recv = .triggering →
    s.tcpDisconnectActive = true ∨ s.reconnect = .clearing ∨ s.reconnect = .joining

lemma reconnectInv_init : ReconnectInv .init where
  distinct := distinctAlarms_noRecords
  connecting := nofun
  status h := by simp [ReconnectSys.init, progress] at h
  tracker h := by simp [ReconnectSys.init, progress] at h
  alarm _ _ := by
    rintro ⟨i, hi, -⟩
    simp [ReconnectSys.init, noRecords] at hi
  triggering := nofun

lemma ReconnectInv.statusRight {s : ReconnectSys} (h : ReconnectInv s) : StatusRight s := by
  rintro ⟨hstate, -, hpc⟩
  have hprogress : progress s.state s.reconnect = 3 := by
    rcases hpc with hpc | hpc <;> simp [progress, hpc, hstate]
  have htracker := h.tracker (by omega)
  refine ⟨h.status (by omega), htracker, h.alarm htracker ?_⟩
  rcases hpc with hpc | hpc <;> simp [hpc]

/-- A change of the records that keeps the disconnect alarm as it is. -/
lemma ReconnectInv.withRecords {s : ReconnectSys} (h : ReconnectInv s) {records : Records}
    (hd : DistinctAlarms records)
    (hiff : IsActive records alarmTcpDisconnect ↔ IsActive s.records alarmTcpDisconnect) :
    ReconnectInv { s with records := records } where
  distinct := hd
  connecting := h.connecting
  status := h.status
  tracker := h.tracker
  alarm htracker hpc := by
    rw [hiff]
    exact h.alarm htracker hpc
  triggering := h.triggering

/-- The receive thread goes on along its exit path. -/
lemma ReconnectInv.withRecv {s : ReconnectSys} (h : ReconnectInv s) {recv : RecvPc}
    (hrecv : recv ≠ .triggering) : ReconnectInv { s with recv := recv } where
  distinct := h.distinct
  connecting := h.connecting
  status := h.status
  tracker := h.tracker
  alarm := h.alarm
  triggering heq := absurd heq hrecv

/-- The regions of the exit path. -/
lemma inv_recvRegion {s s' : ReconnectSys} (h : ReconnectInv s) {a : Region}
    (hstep : RegionStep s a s') (hok : RegionInOrder s a)
    (ha : a = .recvFails ∨ a = .setStatusDown ∨ a = .trackDisconnect ∨ a = .triggerAlarm ∨
      a = .markAlarm ∨ a = .recvExits) : ReconnectInv s' := by
  rcases ha with rfl | rfl | rfl | rfl | rfl | rfl <;>
    simp only [RegionStep, nextRegion, Option.ite_none_right_eq_some] at hstep
  · -- a connection that breaks can only take the progress back
    obtain ⟨-, heq⟩ := hstep
    obtain rfl := Option.some.inj heq
    have hle : progress .disconnected s.reconnect ≤ progress s.state s.reconnect := by
      cases hpc : s.reconnect <;> simp [progress]
    exact ⟨h.distinct, fun _ => rfl, fun hp => h.status (hp.trans hle),
      fun hp => h.tracker (hp.trans hle), h.alarm, nofun⟩
  · obtain ⟨-, heq⟩ := hstep
    obtain rfl := Option.some.inj heq
    exact ⟨h.distinct, h.connecting, fun hp => absurd hok (not_lt.2 hp), h.tracker, h.alarm, nofun⟩
  · obtain ⟨-, heq⟩ := hstep
    obtain rfl := Option.some.inj heq
    exact ⟨h.distinct, h.connecting, h.status, fun hp => absurd hok (not_lt.2 hp), nofun,
      fun _ => .inl rfl⟩
  · obtain ⟨hpc, heq⟩ := hstep
    split at heq
    · next i records htrig =>
      obtain rfl := Option.some.inj heq
      refine ⟨distinctAlarms_of_stored h.distinct htrig, h.connecting, h.status, h.tracker, ?_, ?_⟩
      · -- the tracker says inactive: then the reconnect thread is past its clear
        intro htracker hclearing
        rcases h.triggering hpc with hactive | hclear | hjoin
        · rw [htracker] at hactive
          cases hactive
        · exact absurd hclear hclearing
        · rcases hok with hlt | hfull
          · simp [hjoin, progress] at hlt
          · have hfree := (triggerRecord_stored htrig).2.1
            rw [findFreeRecord_none hfull i] at hfree
            cases hfree
      · dsimp only
        split <;> exact nofun
    · obtain rfl := Option.some.inj heq
      exact h.withRecv nofun
  · split at hstep
    · next i _ =>
      obtain rfl := Option.some.inj hstep
      exact (h.withRecords (distinctAlarms_markReported h.distinct i alarmTcpDisconnect)
        (isActive_markReported _ _ _ _)).withRecv nofun
    · cases hstep
  · obtain ⟨-, heq⟩ := hstep
    obtain rfl := Option.some.inj heq
    exact h.withRecv nofun

/-- The regions of the reconnect thread before its connection is published, and those that
make its three updates. -/
lemma inv_connectRegion {s s' : ReconnectSys} (h : ReconnectInv s) {a : Region}
    (hstep : RegionStep s a s')
    (ha : a = .poll ∨ a = .connectFails ∨ a = .connect ∨ a = .setStatusUp ∨
      a = .untrackDisconnect ∨ a = .clearAlarm) : ReconnectInv s' := by
  rcases ha with rfl | rfl | rfl | rfl | rfl | rfl <;>
    simp only [RegionStep, nextRegion, Option.ite_none_right_eq_some] at hstep <;>
    obtain ⟨hpc, heq⟩ := hstep
  · obtain rfl := Option.some.inj heq
    by_cases hstate : s.state = .disconnected
    · simp only [if_pos hstate]
      exact ⟨h.distinct, fun _ => hstate, nofun, nofun,
        fun htracker _ => h.alarm htracker (by simp [hpc]),
        fun hrecv => by simpa [hpc] using h.triggering hrecv⟩
    · simp only [if_neg hstate, ← hpc]
      exact h
  · obtain rfl := Option.some.inj heq
    have hdown := h.connecting hpc
    exact ⟨h.distinct, nofun, fun hp => by simp [progress, hdown] at hp,
      fun hp => by simp [progress, hdown] at hp,
      fun htracker _ => h.alarm htracker (by simp [hpc]),
      fun hrecv => by simpa [hpc] using h.triggering hrecv⟩
  · obtain rfl := Option.some.inj heq
    exact ⟨h.distinct, nofun, nofun, nofun, fun htracker _ => h.alarm htracker (by simp [hpc]),
      fun hrecv => by simpa [hpc] using h.triggering hrecv⟩
  · obtain rfl := Option.some.inj heq
    refine ⟨h.distinct, ?_, fun _ => rfl, ?_, fun htracker _ => h.alarm htracker (by simp [hpc]),
      fun hrecv => .inl (by simpa [hpc] using h.triggering hrecv)⟩ <;> dsimp only <;> split
    · exact nofun
    · exact nofun
    · exact fun hp => absurd hp (by simp [progress])
    · exact fun hp => absurd hp (by simp [progress])
  · obtain rfl := Option.some.inj heq
    -- the tracker remembers whether there is an alarm to clear
    by_cases htracker : s.tcpDisconnectActive = true
    · simp only [if_pos htracker]
      exact ⟨h.distinct, nofun, fun _ => h.status (by simp [hpc, progress]), fun _ => rfl,
        fun _ hne => absurd rfl hne, fun _ => .inr (.inl rfl)⟩
    · simp only [if_neg htracker]
      exact ⟨h.distinct, nofun, fun _ => h.status (by simp [hpc, progress]), fun _ => rfl,
        fun _ _ => h.alarm (by simpa using htracker) (by simp [hpc]), fun _ => .inr (.inr rfl)⟩
  · -- after the clear the alarm is gone, whether it was found or not
    have hstatus := h.status (by simp [hpc, progress])
    have htracker := h.tracker (by simp [hpc, progress])
    split at heq
    · next info records hclear =>
      obtain rfl := Option.some.inj heq
      refine ⟨distinctAlarms_of_cleared h.distinct hclear, nofun, fun _ => hstatus,
        fun _ => htracker, fun _ _ hactive => ?_, fun _ => .inr (.inr rfl)⟩
      exact ((isActive_of_cleared h.distinct hclear _).1 hactive).2 rfl
    · next hclear =>
      obtain rfl := Option.some.inj heq
      exact ⟨h.distinct, nofun, fun _ => hstatus, fun _ => htracker,
        fun _ _ => clearRecord_none hclear, fun _ => .inr (.inr rfl)⟩

lemma reconnectInv_step {s s' : ReconnectSys} (h : ReconnectInv s) {a : Region}
    (hstep : RegionStep s a s') (hok : RegionInOrder s a) : ReconnectInv s' := by
  cases a with
  | recvFails => exact inv_recvRegion h hstep hok (by simp)
  | setStatusDown => exact inv_recvRegion h hstep hok (by simp)
  | trackDisconnect => exact inv_recvRegion h hstep hok (by simp)
  | triggerAlarm => exact inv_recvRegion h hstep hok (by simp)
  | markAlarm => exact inv_recvRegion h hstep hok (by simp)
  | recvExits => exact inv_recvRegion h hstep hok (by simp)
  | poll => exact inv_connectRegion h hstep (by simp)
  | connectFails => exact inv_connectRegion h hstep (by simp)
  | connect => exact inv_connectRegion h hstep (by simp)
  | setStatusUp => exact inv_connectRegion h hstep (by simp)
  | untrackDisconnect => exact inv_connectRegion h hstep (by simp)
  | clearAlarm => exact inv_connectRegion h hstep (by simp)
  | reportPending i key =>
    simp only [RegionStep, nextRegion, Option.ite_none_right_eq_some] at hstep
    obtain rfl := Option.some.inj hstep.2
    exact h.withRecords (distinctAlarms_markReported h.distinct i key)
      (isActive_markReported _ _ _ _)
  | reported =>
    simp only [RegionStep, nextRegion, Option.ite_none_right_eq_some] at hstep
    obtain ⟨hpc, heq⟩ := hstep
    obtain rfl := Option.some.inj heq
    exact ⟨h.distinct, nofun, fun _ => h.status (by simp [hpc, progress]),
      fun hp => absurd hp (by simp [progress]), fun htracker _ => h.alarm htracker (by simp [hpc]),
      fun hrecv => .inl (by simpa [hpc] using h.triggering hrecv)⟩
  | join =>
    simp only [RegionStep, nextRegion, Option.ite_none_right_eq_some] at hstep
    obtain ⟨⟨hpc, -⟩, heq⟩ := hstep
    obtain rfl := Option.some.inj heq
    exact ⟨h.distinct, nofun, fun _ => h.status (by simp [hpc, progress]),
      fun _ => h.tracker (by simp [hpc, progress]),
      fun htracker _ => h.alarm htracker (by simp [hpc]), nofun⟩
  | create ok =>
    simp only [RegionStep, nextRegion, Option.ite_none_right_eq_some] at hstep
    obtain ⟨hpc, heq⟩ := hstep
    have hstatus := h.status (by simp [hpc, progress])
    have htracker := h.tracker (by simp [hpc, progress])
    have halarm := h.alarm htracker (by simp [hpc])
    split at heq
    · obtain rfl := Option.some.inj heq
      exact ⟨h.distinct, nofun, fun _ => hstatus, fun _ => htracker, fun _ _ => halarm, nofun⟩
    · obtain rfl := Option.some.inj heq
      exact ⟨h.distinct, nofun, fun _ => hstatus, fun _ => htracker, fun _ _ => halarm,
        fun hrecv => by simpa [hpc, htracker] using h.triggering hrecv⟩
  | otherTrigger key info =>
    simp only [RegionStep, nextRegion] at hstep
    split at hstep
    · cases hstep
    · next hne =>
      split at hstep
      · next i records htrig =>
        obtain rfl := Option.some.inj hstep
        refine h.withRecords (distinctAlarms_of_stored h.distinct htrig) ?_
        rw [isActive_of_stored htrig, or_iff_left (Ne.symm hne)]
      · obtain rfl := Option.some.inj hstep
        exact h
  | otherClear key =>
    simp only [RegionStep, nextRegion] at hstep
    split at hstep
    · cases hstep
    · next hne =>
      split at hstep
      · next info records hclear =>
        obtain rfl := Option.some.inj hstep
        refine h.withRecords (distinctAlarms_of_cleared h.distinct hclear) ?_
        rw [isActive_of_cleared h.distinct hclear, and_iff_left (Ne.symm hne)]
      · obtain rfl := Option.some.inj hstep
        exact h
  | otherMark i key =>
    obtain rfl := Option.some.inj hstep
    exact h.withRecords (distinctAlarms_markReported h.distinct i key)
      (isActive_markReported _ _ _ _)

/-! ### A step out of order -/

/-- An update of the exit path has come after the one that should undo it, or the connection
was given up. -/
def Overtaken (s : ReconnectSys) : Prop :=
  (s.reconnect = .idle ∧ s.state ≠ .connected) ∨
  (1 ≤ progress s.state s.reconnect ∧ s.tcpConnected = false) ∨
  (2 ≤ progress s.state s.reconnect ∧ s.tcpDisconnectActive = true) ∨
  (3 ≤ progress s.state s.reconnect ∧ IsActive s.records alarmTcpDisconnect)

lemma Overtaken.not_statusRight {s : ReconnectSys} (h : Overtaken s) (hsettled : Settled s) :
    ¬ StatusRight s := by
  intro hright
  obtain ⟨hstatus, htracker, halarm⟩ := hright hsettled
  rcases h with ⟨-, hstate⟩ | ⟨-, hdown⟩ | ⟨-, hactive⟩ | ⟨-, hactive⟩
  · exact hstate hsettled.1
  · rw [hstatus] at hdown
    cases hdown
  · rw [htracker] at hactive
    cases hactive
  · exact halarm hactive

lemma overtaken_of_not_inOrder {s s' : ReconnectSys} {a : Region} (hstep : RegionStep s a s')
    (hbad : ¬ RegionInOrder s a) : Overtaken s' := by
  cases a with
  | setStatusDown =>
    simp only [RegionStep, nextRegion, Option.ite_none_right_eq_some] at hstep
    obtain rfl := Option.some.inj hstep.2
    exact .inr (.inl ⟨not_lt.1 hbad, rfl⟩)
  | trackDisconnect =>
    simp only [RegionStep, nextRegion, Option.ite_none_right_eq_some] at hstep
    obtain rfl := Option.some.inj hstep.2
    exact .inr (.inr (.inl ⟨not_lt.1 hbad, rfl⟩))
  | triggerAlarm =>
    obtain ⟨hlate, hroom⟩ := not_or.1 hbad
    simp only [RegionStep, nextRegion, Option.ite_none_right_eq_some] at hstep
    obtain ⟨-, heq⟩ := hstep
    refine .inr (.inr (.inr ?_))
    cases htrig : triggerRecord s.records alarmTcpDisconnect disconnectInfo with
    | known =>
      simp only [htrig] at heq
      obtain rfl := Option.some.inj heq
      exact ⟨not_lt.1 hlate, isActive_of_known htrig⟩
    | full => exact absurd (findFreeRecord_of_full htrig) hroom
    | stored i records =>
      simp only [htrig] at heq
      obtain rfl := Option.some.inj heq
      exact ⟨not_lt.1 hlate, (isActive_of_stored htrig _).2 (.inr rfl)⟩
  | _ => exact absurd trivial hbad

/-- A step that lets the reconnect thread go no way back keeps what was overtaken. -/
lemma Overtaken.mono {s s' : ReconnectSys} (h : Overtaken s)
    (hidle : s.reconnect = .idle → s'.reconnect = .idle) (hstate : s'.state = s.state)
    (hprogress : progress s.state s.reconnect ≤ progress s'.state s'.reconnect)
    (hstatus : 1 ≤ progress s.state s.reconnect → s.tcpConnected = false →
      s'.tcpConnected = false)
    (htracker : 2 ≤ progress s.state s.reconnect → s.tcpDisconnectActive = true →
      s'.tcpDisconnectActive = true)
    (halarm : 3 ≤ progress s.state s.reconnect → IsActive s.records alarmTcpDisconnect →
      IsActive s'.records alarmTcpDisconnect) : Overtaken s' := by
  rcases h with ⟨hpc, hdown⟩ | ⟨hp, hdown⟩ | ⟨hp, hactive⟩ | ⟨hp, hactive⟩
  · exact .inl ⟨hidle hpc, by rwa [hstate]⟩
  · exact .inr (.inl ⟨hp.trans hprogress, hstatus hp hdown⟩)
  · exact .inr (.inr (.inl ⟨hp.trans hprogress, htracker hp hactive⟩))
  · exact .inr (.inr (.inr ⟨hp.trans hprogress, halarm hp hactive⟩))

/-- A change of the records that does not take the disconnect alarm away. -/
lemma Overtaken.withRecords {s : ReconnectSys} (h : Overtaken s) {records : Records}
    (hactive : IsActive s.records alarmTcpDisconnect → IsActive records alarmTcpDisconnect) :
    Overtaken { s with records := records } :=
  h.mono id rfl le_rfl (fun _ => id) (fun _ => id) fun _ => hactive

lemma Overtaken.withRecv {s : ReconnectSys} (h : Overtaken s) (recv : RecvPc) :
    Overtaken { s with recv := recv } :=
  h.mono id rfl le_rfl (fun _ => id) (fun _ => id) fun _ => id

/-- Nothing that completes the calls in progress undoes such an update. -/
lemma overtaken_step {s s' : ReconnectSys} (h : Overtaken s) {a : Region}
    (hstep : RegionStep s a s') (hfin : Completing a) : Overtaken s' := by
  cases a <;> simp only [RegionStep, nextRegion, Option.ite_none_right_eq_some] at hstep
  case recvFails => exact hfin.elim
  case poll => exact hfin.elim
  case setStatusDown =>
    obtain rfl := Option.some.inj hstep.2
    exact h.mono id rfl le_rfl (fun _ _ => rfl) (fun _ => id) fun _ => id
  case trackDisconnect =>
    obtain rfl := Option.some.inj hstep.2
    exact h.mono id rfl le_rfl (fun _ => id) (fun _ _ => rfl) fun _ => id
  case triggerAlarm =>
    obtain ⟨-, heq⟩ := hstep
    split at heq
    · next htrig =>
      obtain rfl := Option.some.inj heq
      exact (h.withRecords fun hactive => (isActive_of_stored htrig _).2 (.inl hactive)).withRecv _
    · obtain rfl := Option.some.inj heq
      exact h.withRecv _
  case markAlarm =>
    split at hstep
    · obtain rfl := Option.some.inj hstep
      exact (h.withRecords (isActive_markReported _ _ _ _).2).withRecv _
    · cases hstep
  case recvExits =>
    obtain rfl := Option.some.inj hstep.2
    exact h.withRecv _
  -- a thread that is still connecting has made no update that could be overtaken
  case connectFails =>
    obtain ⟨hpc, heq⟩ := hstep
    simp [Overtaken, hpc, progress] at h
  case connect =>
    obtain ⟨hpc, heq⟩ := hstep
    simp [Overtaken, hpc, progress] at h
  case setStatusUp =>
    obtain ⟨hpc, heq⟩ := hstep
    simp [Overtaken, hpc, progress] at h
  case reportPending i key =>
    obtain rfl := Option.some.inj hstep.2
    exact h.withRecords (isActive_markReported _ _ _ _).2
  case reported =>
    obtain ⟨hpc, heq⟩ := hstep
    obtain rfl := Option.some.inj heq
    exact h.mono (by simp [hpc]) rfl (by simp [hpc, progress]) (fun _ => id) (fun _ => id)
      fun _ => id
  case untrackDisconnect =>
    obtain ⟨hpc, heq⟩ := hstep
    obtain rfl := Option.some.inj heq
    refine h.mono (by simp [hpc]) rfl ?_ (fun _ => id) ?_ fun _ => id
    · dsimp only
      rw [hpc]
      split <;> simp [progress]
    · intro hp
      simp [hpc, progress] at hp
  case clearAlarm =>
    obtain ⟨hpc, heq⟩ := hstep
    -- the clear comes before an alarm counts as overtaking
    have hlate : ¬ 3 ≤ progress s.state s.reconnect := by simp [hpc, progress]
    split at heq
    · obtain rfl := Option.some.inj heq
      exact h.mono (by simp [hpc]) rfl (by simp [hpc, progress]) (fun _ => id) (fun _ => id)
        fun hp => absurd hp hlate
    · obtain rfl := Option.some.inj heq
      exact h.mono (by simp [hpc]) rfl (by simp [hpc, progress]) (fun _ => id) (fun _ => id)
        fun _ => id
  case join =>
    obtain ⟨⟨hpc, -⟩, heq⟩ := hstep
    obtain rfl := Option.some.inj heq
    exact h.mono (by simp [hpc]) rfl (by simp [hpc, progress]) (fun _ => id) (fun _ => id)
      fun _ => id
  case create ok =>
    obtain ⟨hpc, heq⟩ := hstep
    split at heq
    · obtain rfl := Option.some.inj heq
      by_cases hstate : s.state = .connected
      · exact h.mono (by simp [hpc]) rfl (by simp [hpc, progress, hstate]) (fun _ => id)
          (fun _ => id) fun _ => id
      · exact .inl ⟨rfl, hstate⟩
    · obtain rfl := Option.some.inj heq
      exact .inl ⟨rfl, nofun⟩
  case otherTrigger key info =>
    split at hstep
    · cases hstep
    · split at hstep
      · next htrig =>
        obtain rfl := Option.some.inj hstep
        exact h.withRecords fun hactive => (isActive_of_stored htrig _).2 (.inl hactive)
      · obtain rfl := Option.some.inj hstep
        exact h
  case otherClear key =>
    split at hstep
    · cases hstep
    · next hne =>
      split at hstep
      · next hclear =>
        obtain rfl := Option.some.inj hstep
        exact h.withRecords fun hactive => hactive.of_cleared hclear (Ne.symm hne)
      · obtain rfl := Option.some.inj hstep
        exact h
  case otherMark i key =>
    obtain rfl := Option.some.inj hstep
    exact h.withRecords (isActive_markReported _ _ _ _).2

/-! ### The status across reconnects -/

/-- In every run of steps in order the status is right whenever the client is settled; and a
step out of order at the end of such a run makes every completion of the calls in progress
that leaves the client settled leave a wrong status. -/
theorem status_right_iff_inOrder {l : List Region} {s : ReconnectSys}
    (hrun : Run (restrict RegionStep RegionInOrder) .init l s) :
    StatusRight s ∧
      ∀ (m : List Region) (a : Region) (s' u : ReconnectSys), RegionStep s a s' →
        ¬ RegionInOrder s a → Run (restrict RegionStep fun _ b => Completing b) s' m u →
        Settled u → ¬ StatusRight u := by
  have hinv : ReconnectInv s := hrun.invariant (I := ReconnectInv)
    (fun _ _ _ h hstep => reconnectInv_step h hstep.1 hstep.2) reconnectInv_init
  refine ⟨hinv.statusRight, ?_⟩
  intro m a s' u hstep hbad hfinish hsettled
  have hu : Overtaken u := hfinish.invariant (I := Overtaken)
    (fun _ _ _ h hstep => overtaken_step h hstep.1 hstep.2) (overtaken_of_not_inOrder hstep hbad)
  exact hu.not_statusRight hsettled

instance (s : ReconnectSys) : DecidablePred (RegionInOrder s) := by
  intro a
  cases a <;> unfold RegionInOrder <;> infer_instance

instance : DecidablePred Completing := by
  intro a
  cases a <;> unfold Completing <;> infer_instance

/-- A connection comes up, breaks, and is up again before the receive thread of the old one has
taken the status down. -/
def upAgain : List Region :=
  [.poll, .connect, .setStatusUp, .reported, .untrackDisconnect, .join, .create true, .recvFails,
    .poll, .connect, .setStatusUp]

/-- What the two threads then have left to do. -/
def restOfReconnect : List Region :=
  [.trackDisconnect, .triggerAlarm, .recvExits, .untrackDisconnect, .clearAlarm, .join,
    .create true]

/-- The state after `upAgain`. -/
def beforeStatusDown : ReconnectSys :=
  (execute nextRegion RegionInOrder .init upAgain).get (by decide +kernel)

/-- The old receive thread takes the status of the new connection down. -/
def statusDownLate : ReconnectSys :=
  { beforeStatusDown with tcpConnected := false, recv := .trackDown }

/-- The state when both threads are done. -/
def afterReconnect : ReconnectSys :=
  (execute nextRegion (fun _ b => Completing b) statusDownLate restOfReconnect).get
    (by decide +kernel)

lemma run_beforeStatusDown :
    Run (restrict RegionStep RegionInOrder) .init upAgain beforeStatusDown :=
  .of_execute (Option.some_get _).symm

lemma step_statusDownLate : RegionStep beforeStatusDown .setStatusDown statusDownLate := by
  have hrecv : beforeStatusDown.recv = .disconnected := by decide +kernel
  simp only [RegionStep, nextRegion, if_pos hrecv]
  rfl

lemma run_afterReconnect :
    Run (restrict RegionStep fun _ b => Completing b) statusDownLate restOfReconnect
      afterReconnect :=
  .of_execute (Option.some_get _).symm

lemma afterReconnect_settled : Settled afterReconnect := by
  unfold Settled
  decide +kernel

/-- Up to the late update of the status everything is in order, and from it on the new
connection ends with a wrong one. -/
theorem status_right_iff_inOrder_upAgain :
    StatusRight beforeStatusDown ∧ ¬ StatusRight afterReconnect :=
  ⟨(status_right_iff_inOrder run_beforeStatusDown).1,
    (status_right_iff_inOrder run_beforeStatusDown).2 _ _ _ _ step_statusDownLate
      (by decide +kernel) run_afterReconnect afterReconnect_settled⟩

/-- The status need not be right after a reconnect: the client is connected, and the alarm
module takes it for disconnected. -/
theorem connected_with_status_down :
    ¬ ∀ (l : List Region) (s : ReconnectSys), Run RegionStep .init l s → StatusRight s := by
  intro h
  have hrun := run_beforeStatusDown.of_restrict.append
    (.cons step_statusDownLate run_afterReconnect.of_restrict)
  obtain ⟨hstatus, -⟩ := h _ _ hrun afterReconnect_settled
  have hdown : afterReconnect.tcpConnected = false := by decide +kernel
  rw [hdown] at hstatus
  cases hstatus

end AntennaMgmt.Tcp
