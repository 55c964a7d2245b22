import AntennaMgmt.Lib.Transition
import AntennaMgmt.Tcp.Send
import Mathlib.Logic.Function.Basic

/-!
# The threads and the sockets of the TCP client

`tcp_client_start` creates the reconnect thread, which opens sockets and creates a receive thread
for each connection; the receive thread closes its socket when the connection ends, and
`tcp_client_stop` takes down what is left.  Other threads send on the socket that they find.

A step of the model is a region under `state_mutex`, a system call, or a test of `running`.  The
system gives a new socket any number that no open socket has, so that numbers are used again.
-/

namespace AntennaMgmt.Tcp

open AntennaMgmt.Lib

/-- Where the main program stands: outside of the client, or before a part of `tcp_client_stop`. -/
inductive OwnerPc
  | idle
  | joinConnector
  | shutdown
  | joinReceiver
  | close
deriving DecidableEq, Repr

/-- Where `tcp_reconnect_thread` stands.  From `socket` to `callback` it is in
`tcp_connect_to_server`; `undoSockfd` and `undoState` follow the close of a socket whose receive
thread could not be created. -/
inductive ConnectorPc
  | none
  | test
  | poll
  | socket
  | connecting (fd : ℕ)
  | publish (fd : ℕ)
  | join (fd : ℕ)
  | create (fd : ℕ)
  | undoSockfd (fd : ℕ)
  | undoState
  | callback
  | sleep
  | exited
deriving DecidableEq, Repr

/-- Where `tcp_recv_thread` stands: `recv` is the call with the descriptor that it was given,
`handling` the callback with the data, `leave` the region that closes the socket, and `down` what
comes after it. -/
inductive ReceiverPc
  | none
  | test
  | recv (fd : Option ℕ)
  | handling
  | leave
  | down
  | exited
deriving DecidableEq, Repr

/-- The call of `tcp_client_send` that holds `send_mutex`, if one does.  A call that has found the
client connected sends on a descriptor, which then stood for a certain connection if it was open. -/
inductive SendPc
  | free
  | entered
  | sending (fd : ℕ) (conn : Option ℕ)
deriving DecidableEq, Repr

/-- An open socket: which connection it is, counted from the first one, and whether it was shut
down. -/
structure Socket where
  conn : ℕ
  shut : Bool
deriving DecidableEq, Repr

/-- What must not happen: a descriptor is closed that is not open, a thread is lost because another
one takes its place, or data go out on another connection than the one that the call had found. -/
inductive ClientFault
  | closed
  | lostThread
  | strayWrite
deriving DecidableEq, Repr

/-- `tcp_client_t`, the open sockets, and where the threads stand.  `connectorTid` and `receiverTid`
say whether `reconnect_thread` and `recv_thread` are set. -/
structure ClientSys where
  running : Bool
  state : TcpState
  sockfd : Option ℕ
  connectorTid : Bool
  receiverTid : Bool
  sockets : ℕ → Option Socket
  conns : ℕ
  owner : OwnerPc
  connector : ConnectorPc
  receiver : ReceiverPc
  send : SendPc
  faults : List ClientFault

/-- What `recv` comes to, or what the data of a callback came to. -/
inductive RecvEvent
  | data
  | interrupted
  | ended
deriving DecidableEq, Repr

/-- A call of the main program, or the next step of a thread.  `ok` says whether the system call of
the step succeeds, and `fd` is the number that `socket` gives. -/
inductive ClientAct
  | start (created : Bool)
  | stop
  | owner
  | connector (ok : Bool) (fd : ℕ)
  | receiver (event : RecvEvent)
  | sendEnter
  | sendFind
  | sendWrite
  | sendLeave
deriving DecidableEq, Repr

namespace ClientSys

/-- `tcp_client_init`. -/
def init : ClientSys where
  running := false
  state := .disconnected
  sockfd := none
  connectorTid := false
  receiverTid := false
  sockets := fun _ => none
  conns := 0
  owner := .idle
  connector := .none
  receiver := .none
  send := .free
  faults := []

/-- `close`. -/
def closeSocket (s : ClientSys) (fd : ℕ) : ClientSys :=
  { s with
    sockets := Function.update s.sockets fd none
    faults := if (s.sockets fd).isSome then s.faults else .closed :: s.faults }

/-- The end of the receive thread and the end of `tcp_client_stop`: what is open is closed. -/
def closeSockfd (s : ClientSys) : ClientSys :=
  match s.sockfd with
  | some fd => { s.closeSocket fd with sockfd := none, state := .disconnected }
  | none => { s with state := .disconnected }

/-- `shutdown(SHUT_RDWR)`. -/
def shutSocket (s : ClientSys) : ClientSys :=
  match s.sockfd with
  | some fd =>
    { s with
      sockets := Function.update s.sockets fd ((s.sockets fd).map ({ · with shut := true })) }
  | none => s

/-- `tcp_client_start`. -/
def start (s : ClientSys) (created : Bool) : ClientSys :=
  if created then
    { s with
      running := true
      connectorTid := true
      connector := .test
      faults := if s.connectorTid then .lostThread :: s.faults else s.faults }
  else { s with running := false }

/-- The next step of `tcp_client_stop`. -/
def ownerStep (s : ClientSys) : Option ClientSys :=
  match s.owner with
  | .idle => none
  | .joinConnector =>
    if s.connectorTid then
      if s.connector = .exited then
        some { s with connectorTid := false, connector := .none, owner := .shutdown }
      else none
    else some { s with owner := .shutdown }
  | .shutdown =>
    if s.send = .free then some { s.shutSocket with owner := .joinReceiver } else none
  | .joinReceiver =>
    if s.receiverTid then
      if s.receiver = .exited then
        some { s with receiverTid := false, receiver := .none, owner := .close }
      else none
    else some { s with owner := .close }
  | .close => if s.send = .free then some { s.closeSockfd with owner := .idle } else none

/-- The next step of `tcp_reconnect_thread`. -/
def connectorStep (s : ClientSys) (ok : Bool) (fd : ℕ) : Option ClientSys :=
  match s.connector with
  | .none | .exited => none
  | .test => some { s with connector := if s.running then .poll else .exited }
  | .poll => some { s with connector := if s.state = .disconnected then .socket else .sleep }
  -- `tcp_connect_to_server`
  | .socket =>
    if ok then
      if (s.sockets fd).isNone then
        some { s with
          sockets := Function.update s.sockets fd (some ⟨s.conns, false⟩)
          conns := s.conns + 1
          connector := .connecting fd }
      else none
    else some { s with connector := .sleep }
  | .connecting fd =>
    if ok then some { s with connector := .publish fd }
    else some { s.closeSocket fd with connector := .sleep }
  | .publish fd =>
    some { s with sockfd := some fd, state := .connected, connector := .join fd }
  | .join fd =>
    if s.receiverTid then
      if s.receiver = .exited then
        some { s with receiverTid := false, receiver := .none, connector := .create fd }
      else none
    else some { s with connector := .create fd }
  | .create fd =>
    if ok then
      some { s with
        receiverTid := true
        receiver := .test
        connector := .callback
        faults := if s.receiverTid then .lostThread :: s.faults else s.faults }
    else some { s.closeSocket fd with connector := .undoSockfd fd }
  | .undoSockfd _ => some { s with sockfd := none, connector := .undoState }
  | .undoState => some { s with state := .disconnected, connector := .sleep }
  -- `on_connected`
  | .callback => some { s with connector := .test }
  | .sleep => some { s with connector := .test }

/-- The next step of `tcp_recv_thread`. -/
def receiverStep (s : ClientSys) (event : RecvEvent) : Option ClientSys :=
  match s.receiver with
  | .none | .exited => none
  | .test => some { s with receiver := if s.running then .recv s.sockfd else .leave }
  | .recv _ =>
    match event with
    | .data => some { s with receiver := .handling }
    | .interrupted => some { s with receiver := .test }
    | .ended => some { s with receiver := .leave }
  | .handling => some { s with receiver := .test }
  | .leave => some { s.closeSockfd with receiver := .down }
  -- `alarm_set_tcp_status`, `alarm_trigger_tcp_disconnect` and `on_disconnected`
  | .down => some { s with receiver := .exited }

/-- The region of `tcp_client_send` that finds the socket. -/
def sendFind (s : ClientSys) : SendPc :=
  match s.sockfd with
  | some fd =>
    if s.state = .connected then .sending fd ((s.sockets fd).map Socket.conn) else .free
  | none => .free

/-- A call of `send`. -/
def write (s : ClientSys) (fd : ℕ) (conn : Option ℕ) : ClientSys :=
  if conn.isSome ∧ (s.sockets fd).map Socket.conn = conn then s
  else { s with faults := .strayWrite :: s.faults }

/-- One step, where it is possible. -/
def next (s : ClientSys) : ClientAct → Option ClientSys
  | .start created => if s.owner = .idle then some (s.start created) else none
  | .stop =>
    if s.owner = .idle then some { s with running := false, owner := .joinConnector } else none
  | .owner => s.ownerStep
  | .connector ok fd => s.connectorStep ok fd
  | .receiver event => s.receiverStep event
  | .sendEnter => if s.send = .free then some { s with send := .entered } else none
  | .sendFind => if s.send = .entered then some { s with send := s.sendFind } else none
  | .sendWrite =>
    match s.send with
    | .sending fd conn => some (s.write fd conn)
    | _ => none
  | .sendLeave =>
    match s.send with
    | .sending _ _ => some { s with send := .free }
    | _ => none

/-- A step. -/
def Step (s : ClientSys) (a : ClientAct) (s' : ClientSys) : Prop := s.next a = some s'

/-- Is it a call of `tcp_client_start`? -/
def isStart : ClientAct → Bool
  | .start _ => true
  | _ => false

/-- The client is started only while it has no reconnect thread. -/
def Orderly (s : ClientSys) (a : ClientAct) : Prop := isStart a = true → s.connectorTid = false

instance (s : ClientSys) (a : ClientAct) : Decidable (s.Orderly a) :=
  inferInstanceAs (Decidable (_ → _))

/-- Does the call send on a descriptor? -/
def isSending : SendPc → Bool
  | .sending _ _ => true
  | _ => false

/-- Is the reconnect thread about to create a receive thread? -/
def isCreating : ConnectorPc → Bool
  | .create _ => true
  | _ => false

/-- The receive thread closes its socket while a call sends on it, or it could not be created. -/
def disturbs (s : ClientSys) : ClientAct → Bool
  | .connector ok _ => isCreating s.connector && !ok
  | .receiver _ => s.receiver = .leave && isSending s.send
  | _ => false

/-- A step of the main program or of one of the two threads. -/
def isThreadStep : ClientAct → Bool
  | .owner | .connector _ _ | .receiver _ => true
  | _ => false

/-- Is it a call of `tcp_client_start` or `tcp_client_stop`? -/
def isCall : ClientAct → Bool
  | .start _ | .stop => true
  | _ => false

/-- The receive thread waits in `recv` for the other side. -/
def awaitsPeer (s : ClientSys) : ClientAct → Bool
  | .receiver _ =>
    match s.receiver with
    | .recv (some fd) => (s.sockets fd).map Socket.shut ≠ some true
    | _ => false
  | _ => false

/-- The steps that `tcp_client_stop` has left. -/
def ownerRank : OwnerPc → ℕ
  | .idle => 0
  | .close => 1
  | .joinReceiver => 2
  | .shutdown => 3
  | .joinConnector => 4

/-- The steps that the receive thread has left once the client is not running. -/
def receiverRank : ReceiverPc → ℕ
  | .none | .exited => 0
  | .down => 1
  | .leave => 2
  | .test => 3
  | .handling => 4
  | .recv _ => 5

/-- The steps that the reconnect thread has left once the client is not running, with those of the
receive thread that it may still create. -/
def connectorRank : ConnectorPc → ℕ
  | .none | .exited => 0
  | .test => 1
  | .callback | .sleep => 2
  | .undoState => 3
  | .undoSockfd _ => 4
  | .create _ => 6
  | .join _ => 7
  | .publish _ => 8
  | .connecting _ => 9
  | .socket => 10
  | .poll => 11

/-- The steps that are left of a stop. -/
def rank (s : ClientSys) : ℕ :=
  ownerRank s.owner + connectorRank s.connector + receiverRank s.receiver

/-! ### The socket of the client -/

/-- The receive thread is in its loop on the socket `fd`, or about to close it. -/
def Live (fd : ℕ) : ReceiverPc → Prop
  | .test | .handling | .leave => True
  | .recv fd' => fd' = some fd
  | .none | .down | .exited => False

/-- The receive thread has closed its socket, or there is none. -/
def Done : ReceiverPc → Prop
  | .none | .down | .exited => True
  | _ => False

/-- What the client shows and the one descriptor that is open, by the places of the two threads. -/
def Holds (connector : ConnectorPc) (receiver : ReceiverPc) (sockfd : Option ℕ) (state : TcpState)
    (held : Option ℕ) : Prop :=
  match connector with
  | .socket => Done receiver ∧ sockfd = none ∧ state = .disconnected ∧ held = none
  | .connecting fd | .publish fd =>
    Done receiver ∧ sockfd = none ∧ state = .disconnected ∧ held = some fd
  | .join fd => Done receiver ∧ sockfd = some fd ∧ state = .connected ∧ held = some fd
  | .create fd => receiver = .none ∧ sockfd = some fd ∧ state = .connected ∧ held = some fd
  | .undoSockfd fd => receiver = .none ∧ sockfd = some fd ∧ state = .connected ∧ held = none
  | .undoState => receiver = .none ∧ sockfd = none ∧ state = .connected ∧ held = none
  | .none | .test | .poll | .callback | .sleep | .exited =>
    (∃ fd, Live fd receiver ∧ sockfd = some fd ∧ state = .connected ∧ held = some fd) ∨
      Done receiver ∧ sockfd = none ∧ state = .disconnected ∧ held = none

/-- The phases of `tcp_client_start` and `tcp_client_stop`. -/
inductive Stage : OwnerPc → Bool → ConnectorPc → ReceiverPc → Prop
  | started {c : ConnectorPc} {r : ReceiverPc} : c ≠ .none → Stage .idle true c r
  | stopped : Stage .idle false .none .none
  | joinConnector {c : ConnectorPc} {r : ReceiverPc} : Stage .joinConnector false c r
  | shutdown {r : ReceiverPc} : Stage .shutdown false .none r
  | joinReceiver {r : ReceiverPc} : Stage .joinReceiver false .none r
  | close : Stage .close false .none .none

/-- The client holds the one open socket, and the threads are those that it knows of. -/
structure Owned (s : ClientSys) : Prop where
  holds : ∃ held, Holds s.connector s.receiver s.sockfd s.state held ∧
    ∀ fd, (s.sockets fd).isSome ↔ held = some fd
  stage : Stage s.owner s.running s.connector s.receiver
  connectorTid : s.connectorTid = true ↔ s.connector ≠ .none
  receiverTid : s.receiverTid = true ↔ s.receiver ≠ .none
  shut : s.owner = .joinReceiver → ∀ fd, s.receiver = .recv (some fd) →
    (s.sockets fd).map Socket.shut = some true
  faults : ∀ f ∈ s.faults, f = .strayWrite

variable {s s' : ClientSys} {a : ClientAct}

/-- Closing what is held leaves nothing open. -/
lemma isSome_closeSocket {held : ℕ} (hopen : ∀ fd, (s.sockets fd).isSome ↔ some held = some fd)
    (fd : ℕ) : (Function.update s.sockets held none fd).isSome ↔ none = some fd := by
  by_cases hfd : fd = held
  · simp [hfd]
  · simp only [Function.update_of_ne hfd, hopen, Option.some.injEq, reduceCtorEq, iff_false]
    exact fun h => hfd h.symm

/-- Closing what is held is no fault. -/
lemma faults_closeSocket {held : ℕ} (hopen : ∀ fd, (s.sockets fd).isSome ↔ some held = some fd) :
    (s.closeSocket held).faults = s.faults :=
  if_pos ((hopen held).2 rfl)

/-- The next step of the receive thread leaves a done thread done. -/
lemma Holds.exited {c : ConnectorPc} {sockfd held : Option ℕ} {state : TcpState}
    (h : Holds c .down sockfd state held) : Holds c .exited sockfd state held := by
  cases c with
  | socket | connecting | publish | join => exact ⟨trivial, h.2⟩
  | create | undoSockfd | undoState => cases h.1
  | none | test | poll | callback | sleep | exited =>
    refine h.imp_left fun ⟨fd, hlive, _⟩ => hlive.elim

/-- An exited receive thread may be joined. -/
lemma Holds.joined {c : ConnectorPc} {sockfd held : Option ℕ} {state : TcpState}
    (h : Holds c .exited sockfd state held) : Holds c .none sockfd state held := by
  cases c with
  | socket | connecting | publish | join => exact ⟨trivial, h.2⟩
  | create | undoSockfd | undoState => cases h.1
  | none | test | poll | callback | sleep | exited =>
    refine h.imp_left fun ⟨fd, hlive, _⟩ => hlive.elim

/-- While the receive thread lives the reconnect thread is not in `tcp_connect_to_server`, and the
client shows the socket of the receive thread. -/
lemma Holds.of_not_done {c : ConnectorPc} {r : ReceiverPc} {sockfd held : Option ℕ}
    {state : TcpState} (h : Holds c r sockfd state held) (hr : ¬ Done r) :
    ∃ fd, Live fd r ∧ sockfd = some fd ∧ state = .connected ∧ held = some fd ∧
      (∀ r', Live fd r' → Holds c r' (some fd) .connected (some fd)) ∧
      (∀ r', Done r' → Holds c r' none .disconnected none) := by
  cases c with
  | socket | connecting | publish | join => exact absurd h.1 hr
  | create | undoSockfd | undoState =>
    rw [h.1] at hr
    exact absurd trivial hr
  | none | test | poll | callback | sleep | exited =>
    rcases h with ⟨fd, hlive, hsockfd, hstate, hheld⟩ | ⟨hdone, -⟩
    · exact ⟨fd, hlive, hsockfd, hstate, hheld, fun r' hr' => .inl ⟨fd, hr', rfl, rfl, rfl⟩,
        fun r' hr' => .inr ⟨hr', rfl, rfl, rfl⟩⟩
    · exact absurd hdone hr

/-- A receive thread that is not joined takes a step. -/
lemma Stage.receiver {o : OwnerPc} {running : Bool} {c : ConnectorPc} {r : ReceiverPc}
    (h : Stage o running c r) (hr : r ≠ .none) (r' : ReceiverPc) : Stage o running c r' := by
  cases h with
  | started hc => exact .started hc
  | stopped => exact absurd rfl hr
  | joinConnector => exact .joinConnector
  | shutdown => exact .shutdown
  | joinReceiver => exact .joinReceiver
  | close => exact absurd rfl hr

/-- A reconnect thread that is not joined takes a step. -/
lemma Stage.connector {o : OwnerPc} {running : Bool} {c : ConnectorPc} {r : ReceiverPc}
    (h : Stage o running c r) (hc : c ≠ .none) {c' : ConnectorPc} (hc' : c' ≠ .none)
    (r' : ReceiverPc) : Stage o running c' r' := by
  cases h with
  | started => exact .started hc'
  | joinConnector => exact .joinConnector
  | stopped | shutdown | joinReceiver | close => exact absurd rfl hc

/-- A step within the loop of the receive thread. -/
lemma Owned.inLoop (h : s.Owned) (hr : ¬ Done s.receiver) (r : ReceiverPc)
    (hlive : ∀ fd, s.sockfd = some fd → Live fd r) (hne : r ≠ .none)
    (hshut : s.owner = .joinReceiver → ∀ fd, r ≠ .recv (some fd)) :
    Owned { s with receiver := r } := by
  obtain ⟨held, hholds, hopen⟩ := h.holds
  obtain ⟨fd, -, hsockfd, hstate, rfl, hagain, -⟩ := hholds.of_not_done hr
  have hsome : s.receiver ≠ .none := fun hnone => hr (by rw [hnone]; trivial)
  refine ⟨⟨some fd, ?_, hopen⟩, h.stage.receiver hsome r, h.connectorTid,
    h.receiverTid.trans (iff_of_true hsome hne),
    fun howner fd hrecv => absurd hrecv (hshut howner fd), h.faults⟩
  dsimp only
  rw [hsockfd, hstate]
  exact hagain r (hlive fd hsockfd)

/-- While it stops the client is not running. -/
lemma Stage.not_running {o : OwnerPc} {running : Bool} {c : ConnectorPc} {r : ReceiverPc}
    (h : Stage o running c r) (ho : o ≠ .idle) : running = false := by
  cases h with
  | started => exact absurd rfl ho
  | stopped | joinConnector | shutdown | joinReceiver | close => rfl

/-- The receive thread closes its socket. -/
lemma Owned.leave (h : s.Owned) (hr : s.receiver = .leave) :
    Owned { s.closeSockfd with receiver := .down } := by
  obtain ⟨held, hholds, hopen⟩ := h.holds
  have hnot : ¬ Done s.receiver := by
    rw [hr]
    exact id
  obtain ⟨fd, -, hsockfd, -, rfl, -, hdone⟩ := hholds.of_not_done hnot
  have hclosed : s.closeSockfd =
      { s.closeSocket fd with sockfd := none, state := .disconnected } := by
    rw [closeSockfd, hsockfd]
  have hsome : s.receiver ≠ .none := by
    rw [hr]
    exact fun h => by cases h
  rw [hclosed]
  refine ⟨⟨none, hdone .down trivial, isSome_closeSocket hopen⟩, h.stage.receiver hsome .down,
    h.connectorTid, h.receiverTid.trans (iff_of_true hsome (by simp)), by simp, ?_⟩
  dsimp only
  rw [faults_closeSocket hopen]
  exact h.faults

lemma Owned.receiverStep (h : s.Owned) {event : RecvEvent}
    (hstep : s.receiverStep event = some s') : s'.Owned := by
  unfold ClientSys.receiverStep at hstep
  cases hr : s.receiver with
  | none | exited =>
    rw [hr] at hstep
    cases hstep
  | test =>
    rw [hr] at hstep
    cases hstep
    refine h.inLoop (by rw [hr]; exact id) _ (fun fd hfd => ?_) ?_ fun howner fd => ?_
    · split_ifs
      · exact hfd
      · trivial
    · split_ifs <;> simp
    · have hrunning := h.stage.not_running (by rw [howner]; simp)
      simp [hrunning]
  | recv fd =>
    rw [hr] at hstep
    have hnot : ¬ Done s.receiver := by
      rw [hr]
      exact id
    cases event <;> cases hstep <;> exact h.inLoop hnot _ (fun _ _ => trivial) (by simp) (by simp)
  | handling =>
    rw [hr] at hstep
    cases hstep
    exact h.inLoop (by rw [hr]; exact id) _ (fun _ _ => trivial) (by simp) (by simp)
  | leave =>
    rw [hr] at hstep
    cases hstep
    exact h.leave hr
  | down =>
    rw [hr] at hstep
    cases hstep
    obtain ⟨held, hholds, hopen⟩ := h.holds
    have hsome : s.receiver ≠ .none := by rw [hr]; simp
    rw [hr] at hholds
    exact ⟨⟨held, hholds.exited, hopen⟩, h.stage.receiver hsome .exited, h.connectorTid,
      h.receiverTid.trans (iff_of_true hsome (by simp)), by simp, h.faults⟩

/-- The receive thread is joined after the reconnect thread. -/
lemma Stage.not_joining {o : OwnerPc} {running : Bool} {c : ConnectorPc} {r : ReceiverPc}
    (h : Stage o running c r) (hc : c ≠ .none) : o ≠ .joinReceiver := by
  rintro rfl
  cases h
  exact hc rfl

/-- The reconnect thread takes a step. -/
lemma Owned.of_connector (h : s.Owned) (hc : s.connector ≠ .none) (howner : s'.owner = s.owner)
    (hrunning : s'.running = s.running) (htid : s'.connectorTid = s.connectorTid)
    (hc' : s'.connector ≠ .none) (hrecv : s'.receiverTid = true ↔ s'.receiver ≠ .none)
    (hfaults : s'.faults = s.faults)
    (hholds : ∃ held, Holds s'.connector s'.receiver s'.sockfd s'.state held ∧
      ∀ fd, (s'.sockets fd).isSome ↔ held = some fd) : s'.Owned := by
  refine ⟨hholds, ?_, ?_, hrecv, fun hjoin => ?_, hfaults ▸ h.faults⟩
  · rw [howner, hrunning]
    exact h.stage.connector hc hc' _
  · rw [htid, h.connectorTid]
    exact iff_of_true hc hc'
  · exact absurd (howner.symm.trans hjoin) (h.stage.not_joining hc)

lemma isSome_update {fd : ℕ} {socket : Socket}
    (hopen : ∀ fd', (s.sockets fd').isSome ↔ none = some fd') (fd' : ℕ) :
    (Function.update s.sockets fd (some socket) fd').isSome ↔ some fd = some fd' := by
  by_cases hfd : fd' = fd
  · simp [hfd]
  · simp only [Function.update_of_ne hfd, hopen, Option.some.injEq, reduceCtorEq, false_iff]
    exact fun h => hfd h.symm

lemma Owned.connectorStep (h : s.Owned) {ok : Bool} {fd : ℕ}
    (hstep : s.connectorStep ok fd = some s') : s'.Owned := by
  obtain ⟨held, hholds, hopen⟩ := h.holds
  unfold ClientSys.connectorStep at hstep
  cases hc : s.connector with
  | none | exited =>
    rw [hc] at hstep
    cases hstep
  | test =>
    rw [hc] at hstep hholds
    cases hstep
    refine h.of_connector (by simp [hc]) rfl rfl rfl ?_ h.receiverTid rfl ⟨held, ?_, hopen⟩
    · dsimp only
      split_ifs <;> simp
    · dsimp only
      split_ifs <;> exact hholds
  | poll =>
    rw [hc] at hstep hholds
    cases hstep
    refine h.of_connector (by simp [hc]) rfl rfl rfl ?_ h.receiverTid rfl ⟨held, ?_, hopen⟩
    · dsimp only
      split_ifs <;> simp
    · dsimp only
      split_ifs with hstate
      · -- a live receive thread shows the client connected
        rcases hholds with ⟨_, -, -, hconnected, -⟩ | hdown
        · rw [hstate] at hconnected
          cases hconnected
        · exact hdown
      · exact hholds
  | socket =>
    rw [hc] at hstep hholds
    obtain ⟨hdone, hsockfd, hstate, rfl⟩ := hholds
    dsimp only at hstep
    split_ifs at hstep
    · cases hstep
      exact h.of_connector (by simp [hc]) rfl rfl rfl (by simp) h.receiverTid rfl
        ⟨some fd, ⟨hdone, hsockfd, hstate, rfl⟩, isSome_update hopen⟩
    · cases hstep
      exact h.of_connector (by simp [hc]) rfl rfl rfl (by simp) h.receiverTid rfl
        ⟨none, .inr ⟨hdone, hsockfd, hstate, rfl⟩, hopen⟩
  | connecting fd =>
    rw [hc] at hstep hholds
    obtain ⟨hdone, hsockfd, hstate, rfl⟩ := hholds
    dsimp only at hstep
    split_ifs at hstep
    · cases hstep
      exact h.of_connector (by simp [hc]) rfl rfl rfl (by simp) h.receiverTid rfl
        ⟨some fd, ⟨hdone, hsockfd, hstate, rfl⟩, hopen⟩
    · cases hstep
      exact h.of_connector (by simp [hc]) rfl rfl rfl (by simp) h.receiverTid
        (faults_closeSocket hopen)
        ⟨none, .inr ⟨hdone, hsockfd, hstate, rfl⟩, isSome_closeSocket hopen⟩
  | publish fd =>
    rw [hc] at hstep hholds
    obtain ⟨hdone, -, -, rfl⟩ := hholds
    cases hstep
    exact h.of_connector (by simp [hc]) rfl rfl rfl (by simp) h.receiverTid rfl
      ⟨some fd, ⟨hdone, rfl, rfl, rfl⟩, hopen⟩
  | join fd =>
    rw [hc] at hstep hholds
    obtain ⟨-, hsockfd, hstate, rfl⟩ := hholds
    dsimp only at hstep
    split_ifs at hstep with htid hexited
    · cases hstep
      exact h.of_connector (by simp [hc]) rfl rfl rfl (by simp) (by simp) rfl
        ⟨some fd, ⟨rfl, hsockfd, hstate, rfl⟩, hopen⟩
    · cases hstep
      have hnone : s.receiver = .none := by
        by_contra hne
        exact htid (h.receiverTid.2 hne)
      exact h.of_connector (by simp [hc]) rfl rfl rfl (by simp) h.receiverTid rfl
        ⟨some fd, ⟨hnone, hsockfd, hstate, rfl⟩, hopen⟩
  | create fd =>
    rw [hc] at hstep hholds
    obtain ⟨hnone, hsockfd, hstate, rfl⟩ := hholds
    dsimp only at hstep
    split_ifs at hstep with hok htid
    · exact absurd hnone (h.receiverTid.1 htid)
    · cases hstep
      exact h.of_connector (by simp [hc]) rfl rfl rfl (by simp) (by simp) rfl
        ⟨some fd, .inl ⟨fd, trivial, hsockfd, hstate, rfl⟩, hopen⟩
    · cases hstep
      exact h.of_connector (by simp [hc]) rfl rfl rfl (by simp) h.receiverTid
        (faults_closeSocket hopen) ⟨none, ⟨hnone, hsockfd, hstate, rfl⟩, isSome_closeSocket hopen⟩
  | undoSockfd fd =>
    rw [hc] at hstep hholds
    obtain ⟨hnone, -, hstate, rfl⟩ := hholds
    cases hstep
    exact h.of_connector (by simp [hc]) rfl rfl rfl (by simp) h.receiverTid rfl
      ⟨none, ⟨hnone, rfl, hstate, rfl⟩, hopen⟩
  | undoState =>
    rw [hc] at hstep hholds
    obtain ⟨hnone, hsockfd, -, rfl⟩ := hholds
    cases hstep
    refine h.of_connector (by simp [hc]) rfl rfl rfl (by simp) h.receiverTid rfl
      ⟨none, .inr ⟨?_, hsockfd, rfl, rfl⟩, hopen⟩
    rw [hnone]
    trivial
  | callback | sleep =>
    rw [hc] at hstep hholds
    cases hstep
    exact h.of_connector (by simp [hc]) rfl rfl rfl (by simp) h.receiverTid rfl
      ⟨held, hholds, hopen⟩

/-- `shutdown` opens and closes nothing, and shuts down the socket of the client. -/
lemma Owned.shutSocket (h : s.Owned)
    (hstage : Stage .joinReceiver s.running s.connector s.receiver) :
    Owned { s.shutSocket with owner := .joinReceiver } := by
  obtain ⟨held, hholds, hopen⟩ := h.holds
  have hfields : s.shutSocket.connector = s.connector ∧ s.shutSocket.receiver = s.receiver ∧
      s.shutSocket.sockfd = s.sockfd ∧ s.shutSocket.state = s.state ∧
      s.shutSocket.running = s.running ∧ s.shutSocket.connectorTid = s.connectorTid ∧
      s.shutSocket.receiverTid = s.receiverTid ∧ s.shutSocket.faults = s.faults := by
    unfold ClientSys.shutSocket
    split <;> exact ⟨rfl, rfl, rfl, rfl, rfl, rfl, rfl, rfl⟩
  obtain ⟨hc, hr, hsockfd, hstate, hrunning, hctid, hrtid, hfaults⟩ := hfields
  have hsockets : ∀ fd, s.shutSocket.sockets fd =
      if s.sockfd = some fd then (s.sockets fd).map ({ · with shut := true })
      else s.sockets fd := by
    intro fd
    unfold ClientSys.shutSocket
    cases s.sockfd with
    | none => simp
    | some fd' =>
      by_cases hfd : fd = fd'
      · simp [hfd]
      · rw [if_neg fun heq => hfd (Option.some.inj heq).symm]
        exact Function.update_of_ne hfd ..
  refine ⟨⟨held, ?_, fun fd => ?_⟩, ?_, ?_, ?_, fun _ fd hrecv => ?_, ?_⟩
  · dsimp only
    rw [hc, hr, hsockfd, hstate]
    exact hholds
  · dsimp only
    rw [hsockets, ← hopen fd]
    split_ifs <;> simp
  · dsimp only
    rw [hrunning, hc, hr]
    exact hstage
  · dsimp only
    rw [hctid, hc]
    exact h.connectorTid
  · dsimp only
    rw [hrtid, hr]
    exact h.receiverTid
  · dsimp only at hrecv ⊢
    rw [hr] at hrecv
    rw [hrecv] at hholds
    obtain ⟨fd', hlive, hshown, -, rfl, -⟩ := hholds.of_not_done (by exact id)
    obtain rfl : fd = fd' := Option.some.inj hlive
    rw [hsockets, if_pos hshown]
    obtain ⟨socket, hsocket⟩ := Option.isSome_iff_exists.1 ((hopen fd).2 rfl)
    rw [hsocket]
    rfl
  · dsimp only
    rw [hfaults]
    exact h.faults

/-- Without threads nothing is open. -/
lemma Owned.sockfd_none (h : s.Owned) (hc : s.connector = .none) (hr : s.receiver = .none) :
    s.sockfd = none ∧ s.state = .disconnected ∧ ∀ fd, s.sockets fd = none := by
  obtain ⟨held, hholds, hopen⟩ := h.holds
  rw [hc, hr] at hholds
  rcases hholds with ⟨_, hlive, -⟩ | ⟨-, hsockfd, hstate, rfl⟩
  · exact hlive.elim
  · exact ⟨hsockfd, hstate, fun fd => by simpa using hopen fd⟩

lemma Owned.ownerStep (h : s.Owned) (hstep : s.ownerStep = some s') : s'.Owned := by
  obtain ⟨held, hholds, hopen⟩ := h.holds
  have hstage := h.stage
  unfold ClientSys.ownerStep at hstep
  cases ho : s.owner with
  | idle =>
    rw [ho] at hstep
    cases hstep
  | joinConnector =>
    rw [ho] at hstep hstage
    have hrunning := hstage.not_running (by simp)
    dsimp only at hstep
    split_ifs at hstep with htid hexited
    · cases hstep
      rw [hexited] at hholds
      refine ⟨⟨held, hholds, hopen⟩, ?_, by simp, h.receiverTid, by simp, h.faults⟩
      dsimp only
      rw [hrunning]
      exact .shutdown
    · cases hstep
      have hnone : s.connector = .none := by
        by_contra hne
        exact htid (h.connectorTid.2 hne)
      refine ⟨⟨held, hholds, hopen⟩, ?_, h.connectorTid, h.receiverTid, by simp, h.faults⟩
      dsimp only
      rw [hrunning, hnone]
      exact .shutdown
  | shutdown =>
    rw [ho] at hstep hstage
    obtain ⟨-, hstep⟩ := Option.ite_none_right_eq_some.1 hstep
    cases hstep
    refine h.shutSocket ?_
    generalize s.running = running, s.connector = c at hstage
    cases hstage
    exact .joinReceiver
  | joinReceiver =>
    rw [ho] at hstep hstage
    have hrunning := hstage.not_running (by simp)
    have hc : s.connector = .none := by
      by_contra hne
      exact hstage.not_joining hne rfl
    dsimp only at hstep
    split_ifs at hstep with htid hexited
    · cases hstep
      rw [hexited] at hholds
      refine ⟨⟨held, hholds.joined, hopen⟩, ?_, h.connectorTid, by simp, by simp, h.faults⟩
      dsimp only
      rw [hrunning, hc]
      exact .close
    · cases hstep
      have hnone : s.receiver = .none := by
        by_contra hne
        exact htid (h.receiverTid.2 hne)
      refine ⟨⟨held, hholds, hopen⟩, ?_, h.connectorTid, h.receiverTid, by simp, h.faults⟩
      dsimp only
      rw [hrunning, hc, hnone]
      exact .close
  | close =>
    rw [ho] at hstep hstage
    obtain ⟨-, hstep⟩ := Option.ite_none_right_eq_some.1 hstep
    cases hstep
    have hboth : s.running = false ∧ s.connector = .none ∧ s.receiver = .none := by
      generalize s.running = running, s.connector = c, s.receiver = r at hstage
      cases hstage
      exact ⟨rfl, rfl, rfl⟩
    obtain ⟨hrunning, hc, hr⟩ := hboth
    obtain ⟨hsockfd, hstate, -⟩ := h.sockfd_none hc hr
    have hclosed : s.closeSockfd = s := by
      rw [closeSockfd, hsockfd]
      dsimp only
      rw [← hstate, ← hsockfd]
    rw [hclosed]
    refine ⟨⟨held, hholds, hopen⟩, ?_, h.connectorTid, h.receiverTid, by simp, h.faults⟩
    dsimp only
    rw [hrunning, hc, hr]
    exact .stopped

lemma Owned.start (h : s.Owned) (ho : s.owner = .idle) (htid : s.connectorTid = false)
    (created : Bool) : (s.start created).Owned := by
  obtain ⟨held, hholds, hopen⟩ := h.holds
  have hc : s.connector = .none := by
    by_contra hne
    rw [h.connectorTid.2 hne] at htid
    cases htid
  unfold ClientSys.start
  cases created with
  | true =>
    rw [hc] at hholds
    refine ⟨⟨held, hholds, hopen⟩, ?_, by simp, h.receiverTid, ?_, ?_⟩
    · rw [if_pos rfl, ho]
      exact .started (by simp)
    · simp [ho]
    · simpa [htid] using h.faults
  | false =>
    refine ⟨⟨held, hholds, hopen⟩, ?_, h.connectorTid, h.receiverTid, h.shut, h.faults⟩
    have hstage := h.stage
    rw [ho, hc] at hstage ⊢
    generalize s.running = running, s.receiver = r at hstage
    cases hstage with
    | started hne => exact absurd rfl hne
    | stopped => exact .stopped

lemma Owned.step (h : s.Owned) (hstep : restrict Step Orderly s a s') : s'.Owned := by
  obtain ⟨hstep, horderly⟩ := hstep
  cases a with
  | start created =>
    obtain ⟨ho, hstep⟩ := Option.ite_none_right_eq_some.1 hstep
    cases hstep
    exact h.start ho (horderly rfl) created
  | stop =>
    obtain ⟨-, hstep⟩ := Option.ite_none_right_eq_some.1 hstep
    cases hstep
    exact ⟨h.holds, .joinConnector, h.connectorTid, h.receiverTid, by simp, h.faults⟩
  | owner => exact h.ownerStep hstep
  | connector ok fd => exact h.connectorStep hstep
  | receiver event => exact h.receiverStep hstep
  | sendEnter | sendFind =>
    obtain ⟨-, hstep⟩ := Option.ite_none_right_eq_some.1 hstep
    cases hstep
    exact ⟨h.holds, h.stage, h.connectorTid, h.receiverTid, h.shut, h.faults⟩
  | sendWrite =>
    unfold Step next at hstep
    dsimp only at hstep
    split at hstep
    · cases hstep
      unfold write
      split_ifs
      · exact h
      · exact ⟨h.holds, h.stage, h.connectorTid, h.receiverTid, h.shut,
          List.forall_mem_cons.2 ⟨rfl, h.faults⟩⟩
    · cases hstep
  | sendLeave =>
    unfold Step next at hstep
    dsimp only at hstep
    split at hstep
    · cases hstep
      exact ⟨h.holds, h.stage, h.connectorTid, h.receiverTid, h.shut, h.faults⟩
    · cases hstep

lemma owned_init : init.Owned :=
  ⟨⟨none, .inr ⟨trivial, rfl, rfl, rfl⟩, by simp [init]⟩, .stopped, by simp [init], by simp [init],
    by simp [init], by simp [init]⟩

lemma owned_of_run {l : List ClientAct} (h : Run (restrict Step Orderly) init l s) : s.Owned :=
  h.invariant (fun _ _ _ hs hstep => Owned.step hs hstep) owned_init

/-- However the threads take turns: no descriptor is closed twice and no thread is lost, at most one
socket is open at a time, the receive thread waits on that socket, which the client shows, and when
the client has been stopped there is neither a thread nor a socket. -/
theorem one_socket {l : List ClientAct} (h : Run (restrict Step Orderly) init l s) :
    (.closed ∉ s.faults ∧ .lostThread ∉ s.faults) ∧
      (∀ fd fd', (s.sockets fd).isSome → (s.sockets fd').isSome → fd = fd') ∧
      (∀ fd, s.receiver = .recv fd → fd = s.sockfd ∧ ∃ n, fd = some n ∧ (s.sockets n).isSome) ∧
      (s.owner = .idle → s.running = false →
        s.connector = .none ∧ s.receiver = .none ∧ ∀ fd, s.sockets fd = none) := by
  have howned := owned_of_run h
  obtain ⟨held, hholds, hopen⟩ := howned.holds
  refine ⟨⟨fun hf => ?_, fun hf => ?_⟩, fun fd fd' hfd hfd' => ?_, fun fd hrecv => ?_,
    fun howner hrunning => ?_⟩
  · cases howned.faults _ hf
  · cases howned.faults _ hf
  · exact Option.some.inj (((hopen fd).1 hfd).symm.trans ((hopen fd').1 hfd'))
  · rw [hrecv] at hholds
    obtain ⟨n, rfl, hsockfd, -, rfl, -⟩ := hholds.of_not_done (by exact id)
    exact ⟨hsockfd.symm, n, rfl, (hopen n).2 rfl⟩
  · have hstage := howned.stage
    rw [howner, hrunning] at hstage
    have hboth : s.connector = .none ∧ s.receiver = .none := by
      generalize s.connector = c, s.receiver = r at hstage
      cases hstage
      exact ⟨rfl, rfl⟩
    exact ⟨hboth.1, hboth.2, (howned.sockfd_none hboth.1 hboth.2).2.2⟩

/-- A connection is made on the descriptor 5. -/
def connecting : List ClientAct :=
  [.connector true 0, .connector true 0, .connector true 5, .connector true 0, .connector true 0]

/-- A connection ends, another one takes its descriptor, and the client is stopped. -/
def twoConnections : List ClientAct :=
  .start true :: connecting ++
    [.connector true 0, .connector true 0, .receiver .data, .connector true 0, .receiver .ended,
      .receiver .ended] ++ connecting ++
    [.receiver .ended, .connector true 0, .connector true 0, .connector true 0, .receiver .data,
      .stop, .connector true 0, .owner, .owner, .receiver .ended, .receiver .ended,
      .receiver .ended, .owner, .owner]

theorem one_socket_twoConnections :
    ∃ s : ClientSys, s.conns = 2 ∧ ∀ fd, s.sockets fd = none := by
  obtain ⟨s, hs, hconns, howner, hrunning⟩ :
      ∃ s : ClientSys, execute next Orderly init twoConnections = some s ∧ s.conns = 2 ∧
        s.owner = .idle ∧ s.running = false := ⟨_, rfl, by decide⟩
  exact ⟨s, hconns, ((one_socket (.of_execute hs)).2.2.2 howner hrunning).2.2⟩

end ClientSys

end AntennaMgmt.Tcp
