import AntennaMgmt.Heartbeat.Timeout

/-!
# The session with the base band unit

Three threads of the program share the state of the channel.  The main loop wakes up once a second;
it asks for a channel while there is none, sends heartbeats while there is one, and gives the
channel up when the heartbeats of the unit stay away.  The receive thread acts on what the unit
sends and on the end of the connection, the reconnect thread makes a new connection and sends the
first request on it.

A step of the model is one access to a shared variable, one mutex region or one send, so that runs
are the interleavings of the threads.
-/

namespace AntennaMgmt.Main

open AntennaMgmt.Lib Heartbeat

/-- `channel_setup_reason_t`, as far as the main program uses it. -/
inductive SetupReason
  | powerOn
  | reconnect
deriving DecidableEq, Repr

/-- The messages that the antenna sends without having been asked. -/
inductive SentKind
  | setupRequest (reason : SetupReason)
  | heartbeat
  | alarmReport
deriving DecidableEq, Repr

/-- A message handed to `tcp_client_send`, and the round of the main loop in which it was. -/
structure Sent where
  kind : SentKind
  serialNum : ℕ
  round : ℕ
deriving DecidableEq, Repr

/-- Where the main loop stands. -/
inductive MainPc
  | sleep
  | setupTest
  | setupState
  | setupSerial
  | setupSend (serialNum : ℕ)
  | beatTest
  | beatState
  | beatEnabled
  | beatSerial
  | beatSend (serialNum : ℕ)
  | beatCount
  | checkTimeout
  | lostChannel
  | lostStop
  | lostNotify
deriving DecidableEq, Repr

/-- Where the receive thread stands: there is none, it waits in `recv`, it is in
`on_tcp_data_received` with a channel setup configuration, or on its way out after the end of the
connection.  `handled` says whether the handler of the message will run to its end. -/
inductive RecvPc
  | none
  | waiting
  | setupNotify (handled : Bool)
  | setupHandle (handled : Bool)
  | closedChannel
  | closedStop
  | closedNotify
  | exited
deriving DecidableEq, Repr

/-- Where the reconnect thread stands: in its loop, about to join the old receive thread, or in
`on_tcp_connected`. -/
inductive ConnPc
  | loop
  | join
  | connected
  | serial
  | send (serialNum : ℕ)
deriving DecidableEq, Repr

/-- What the threads share, the timers of the main loop, where the threads stand, and what they have
sent, the latest first.  `connected` is `client->state == TCP_STATE_CONNECTED`, `bbuLinkOk` is the
gate that `cell_config_notify_bbu_link` sets, `round` counts the rounds of the main loop, and
`alarmSerials` are the numbers of the alarm reports that are about to be sent. -/
structure Session where
  connected : Bool
  channelEstablished : Bool
  heartbeat : Manager
  paauHeartbeatCount : ℕ
  bbuLinkOk : Bool
  serialNum : ℕ
  channelSetupTimer : ℕ
  heartbeatTimer : ℕ
  round : ℕ
  main : MainPc
  recv : RecvPc
  conn : ConnPc
  alarmSerials : List ℕ
  sent : List Sent
deriving DecidableEq

/-- At the start of the main loop. -/
def Session.init : Session where
  connected := false
  channelEstablished := false
  heartbeat := heartbeatInit
  paauHeartbeatCount := 0
  bbuLinkOk := false
  serialNum := 0
  channelSetupTimer := 0
  heartbeatTimer := 0
  round := 0
  main := .sleep
  recv := .none
  conn := .loop
  alarmSerials := []
  sent := []

namespace Session

/-- `get_next_serial_num`: the number, which is also the new value of `g_serial_num`. -/
def nextSerialNum (s : Session) : ℕ := (s.serialNum + 1) % 2 ^ 32

/-- `tcp_client_send`. -/
def put (s : Session) (kind : SentKind) (serialNum : ℕ) : Session :=
  { s with sent := ⟨kind, serialNum, s.round⟩ :: s.sent }

/-- The next step of the main loop.  The clock is read by `heartbeat_check_timeout` alone. -/
def mainStep (s : Session) (now : ℤ) : Session :=
  match s.main with
  | .sleep =>
    { s with
      round := s.round + 1
      channelSetupTimer := s.channelSetupTimer + 1
      heartbeatTimer := s.heartbeatTimer + 1
      main := .setupTest }
  | .setupTest =>
    if s.channelEstablished then { s with channelSetupTimer := 0, main := .beatTest }
    else { s with main := .setupState }
  | .setupState =>
    if s.connected then
      if 5 ≤ s.channelSetupTimer then { s with channelSetupTimer := 0, main := .setupSerial }
      else { s with main := .beatTest }
    else { s with channelSetupTimer := 0, main := .beatTest }
  | .setupSerial => { s with serialNum := s.nextSerialNum, main := .setupSend s.nextSerialNum }
  | .setupSend n => { s.put (.setupRequest .reconnect) n with main := .beatTest }
  | .beatTest =>
    if s.channelEstablished then { s with main := .beatState }
    else { s with heartbeatTimer := 0, main := .sleep }
  | .beatState =>
    if s.connected then
      if heartbeatIntervalSec ≤ s.heartbeatTimer then
        { s with heartbeatTimer := 0, main := .beatEnabled }
      else { s with main := .checkTimeout }
    else { s with heartbeatTimer := 0, main := .sleep }
  -- `heartbeat_send_paau`
  | .beatEnabled =>
    if s.heartbeat.heartbeatEnabled then { s with main := .beatSerial }
    else { s with main := .checkTimeout }
  | .beatSerial => { s with serialNum := s.nextSerialNum, main := .beatSend s.nextSerialNum }
  | .beatSend n => { s.put .heartbeat n with main := .beatCount }
  | .beatCount =>
    { s with paauHeartbeatCount := (s.paauHeartbeatCount + 1) % 2 ^ 32, main := .checkTimeout }
  | .checkTimeout =>
    { s with
      heartbeat := (heartbeatCheckTimeout s.heartbeat now).1
      main := if (heartbeatCheckTimeout s.heartbeat now).2 then .lostChannel else .sleep }
  | .lostChannel => { s with channelEstablished := false, main := .lostStop }
  | .lostStop => { s with heartbeat := heartbeatStop s.heartbeat, main := .lostNotify }
  | .lostNotify => { s with bbuLinkOk := false, main := .sleep }

/-- A message as far as it matters here.  The heartbeats and the other messages are those that the
dispatcher accepts; the rest change nothing. -/
inductive Received
  | setupConfig (handled : Bool)
  | bbuHeartbeat
deriving DecidableEq, Repr

/-- What the threads other than the main loop do. -/
inductive Act
  | main (now : ℤ)
  | receive (msg : Received) (now : ℤ)
  | recv (now : ℤ)
  | close
  | connect
  | conn (created : Bool)
  | alarmSerial
  | alarmSend (i : ℕ)
deriving DecidableEq, Repr

/-- `on_tcp_data_received` with a message: its first step. -/
def receiveStep (s : Session) (now : ℤ) : Received → Session
  | .setupConfig handled => { s with channelEstablished := true, recv := .setupNotify handled }
  | .bbuHeartbeat => { s with heartbeat := heartbeatHandleBbu s.heartbeat true now }

/-- The other steps of the receive thread. -/
def recvStep (s : Session) (now : ℤ) : Option Session :=
  match s.recv with
  | .none | .waiting | .exited => Option.none
  | .setupNotify handled => some { s with bbuLinkOk := true, recv := .setupHandle handled }
  -- the dispatcher, the handler, its response and `heartbeat_start`
  | .setupHandle true =>
    some { s with heartbeat := heartbeatStart now, paauHeartbeatCount := 0, recv := .waiting }
  | .setupHandle false => some { s with recv := .waiting }
  -- `on_tcp_disconnected`
  | .closedChannel => some { s with channelEstablished := false, recv := .closedStop }
  | .closedStop => some { s with heartbeat := heartbeatStop s.heartbeat, recv := .closedNotify }
  | .closedNotify => some { s with bbuLinkOk := false, recv := .exited }

/-- The steps of the reconnect thread after the connection was made.  `created` says whether the
receive thread could be created. -/
def connStep (s : Session) (created : Bool) : Option Session :=
  match s.conn with
  | .loop => none
  | .join =>
    if s.recv = .none ∨ s.recv = .exited then
      if created then some { s with recv := .waiting, conn := .connected }
      else some { s with connected := false, recv := .none, conn := .loop }
    else none
  | .connected => some { s with channelEstablished := false, conn := .serial }
  | .serial => some { s with serialNum := s.nextSerialNum, conn := .send s.nextSerialNum }
  | .send n => some { s.put (.setupRequest .powerOn) n with conn := .loop }

/-- One step of a thread, where it is possible. -/
def next (s : Session) : Act → Option Session
  | .main now => some (s.mainStep now)
  | .receive msg now => if s.recv = .waiting then some (s.receiveStep now msg) else none
  | .recv now => s.recvStep now
  | .close =>
    if s.recv = .waiting then some { s with connected := false, recv := .closedChannel } else none
  | .connect =>
    if s.conn = .loop ∧ s.connected = false then
      some { s with connected := true, conn := .join } else none
  | .conn created => s.connStep created
  -- `alarm_report_to_bbu`, on any thread
  | .alarmSerial =>
    some { s with serialNum := s.nextSerialNum, alarmSerials := s.nextSerialNum :: s.alarmSerials }
  | .alarmSend i =>
    match s.alarmSerials[i]? with
    | some n => some { s.put .alarmReport n with alarmSerials := s.alarmSerials.eraseIdx i }
    | none => none

/-- A step. -/
def Step (s : Session) (a : Act) (s' : Session) : Prop := s.next a = some s'

/-! ### What a step does -/

/-- What the threads other than the main loop can do. -/
inductive OtherStep (s : Session) : Act → Session → Prop
  | setupConfig (handled : Bool) (now : ℤ) : s.recv = .waiting →
      OtherStep s (.receive (.setupConfig handled) now)
        { s with channelEstablished := true, recv := .setupNotify handled }
  | bbuHeartbeat (now : ℤ) : s.recv = .waiting →
      OtherStep s (.receive .bbuHeartbeat now)
        { s with heartbeat := heartbeatHandleBbu s.heartbeat true now }
  | setupNotify (handled : Bool) (now : ℤ) : s.recv = .setupNotify handled →
      OtherStep s (.recv now) { s with bbuLinkOk := true, recv := .setupHandle handled }
  | handled (now : ℤ) : s.recv = .setupHandle true →
      OtherStep s (.recv now)
        { s with heartbeat := heartbeatStart now, paauHeartbeatCount := 0, recv := .waiting }
  | notHandled (now : ℤ) : s.recv = .setupHandle false →
      OtherStep s (.recv now) { s with recv := .waiting }
  | close : s.recv = .waiting →
      OtherStep s .close { s with connected := false, recv := .closedChannel }
  | closedChannel (now : ℤ) : s.recv = .closedChannel →
      OtherStep s (.recv now) { s with channelEstablished := false, recv := .closedStop }
  | closedStop (now : ℤ) : s.recv = .closedStop →
      OtherStep s (.recv now)
        { s with heartbeat := heartbeatStop s.heartbeat, recv := .closedNotify }
  | closedNotify (now : ℤ) : s.recv = .closedNotify →
      OtherStep s (.recv now) { s with bbuLinkOk := false, recv := .exited }
  | connect : s.conn = .loop → s.connected = false →
      OtherStep s .connect { s with connected := true, conn := .join }
  | created : s.conn = .join → s.recv = .none ∨ s.recv = .exited →
      OtherStep s (.conn true) { s with recv := .waiting, conn := .connected }
  | notCreated : s.conn = .join → s.recv = .none ∨ s.recv = .exited →
      OtherStep s (.conn false) { s with connected := false, recv := .none, conn := .loop }
  | connected (created : Bool) : s.conn = .connected →
      OtherStep s (.conn created) { s with channelEstablished := false, conn := .serial }
  | connSerial (created : Bool) : s.conn = .serial →
      OtherStep s (.conn created)
        { s with serialNum := s.nextSerialNum, conn := .send s.nextSerialNum }
  | connSend (created : Bool) (n : ℕ) : s.conn = .send n →
      OtherStep s (.conn created) { s.put (.setupRequest .powerOn) n with conn := .loop }
  | alarmSerial :
      OtherStep s .alarmSerial
        { s with serialNum := s.nextSerialNum, alarmSerials := s.nextSerialNum :: s.alarmSerials }
  | alarmSend (i n : ℕ) : s.alarmSerials[i]? = some n →
      OtherStep s (.alarmSend i)
        { s.put .alarmReport n with alarmSerials := s.alarmSerials.eraseIdx i }

variable {s s' : Session} {a : Act}

lemma otherStep_recv {now : ℤ} (h : s.recvStep now = some s') : OtherStep s (.recv now) s' := by
  unfold recvStep at h
  split at h <;> rename_i hrecv <;> cases h
  · exact .setupNotify _ now hrecv
  · exact .handled now hrecv
  · exact .notHandled now hrecv
  · exact .closedChannel now hrecv
  · exact .closedStop now hrecv
  · exact .closedNotify now hrecv

lemma otherStep_conn {created : Bool} (h : s.connStep created = some s') :
    OtherStep s (.conn created) s' := by
  unfold connStep at h
  split at h <;> rename_i hconn
  · cases h
  · obtain ⟨hrecv, h⟩ := Option.ite_none_right_eq_some.1 h
    cases created <;> cases h
    · exact .notCreated hconn hrecv
    · exact .created hconn hrecv
  · cases h
    exact .connected created hconn
  · cases h
    exact .connSerial created hconn
  · cases h
    exact .connSend created _ hconn

/-- A step is one of the main loop, or of another thread. -/
lemma Step.cases (h : Step s a s') :
    (∃ now, a = .main now ∧ s' = s.mainStep now) ∨ OtherStep s a s' := by
  unfold Step next at h
  cases a with
  | main now => exact .inl ⟨now, rfl, (Option.some.inj h).symm⟩
  | receive msg now =>
    obtain ⟨hrecv, h⟩ := Option.ite_none_right_eq_some.1 h
    cases msg <;> cases h
    · exact .inr (.setupConfig _ now hrecv)
    · exact .inr (.bbuHeartbeat now hrecv)
  | recv now => exact .inr (otherStep_recv h)
  | close =>
    obtain ⟨hrecv, h⟩ := Option.ite_none_right_eq_some.1 h
    cases h
    exact .inr (.close hrecv)
  | connect =>
    obtain ⟨⟨hconn, hconnected⟩, h⟩ := Option.ite_none_right_eq_some.1 h
    cases h
    exact .inr (.connect hconn hconnected)
  | conn created => exact .inr (otherStep_conn h)
  | alarmSerial =>
    cases h
    exact .inr .alarmSerial
  | alarmSend i =>
    dsimp only at h
    split at h <;> rename_i hserial <;> cases h
    exact .inr (.alarmSend i _ hserial)

end Session

end AntennaMgmt.Main
