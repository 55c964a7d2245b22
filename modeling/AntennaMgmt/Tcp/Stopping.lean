import AntennaMgmt.Tcp.Lifecycle

/-!
# Sending and stopping

A call of `tcp_client_send` remembers the descriptor that it found.  It holds `send_mutex`, which
`tcp_client_stop` takes before it closes anything, but the receive thread closes its socket without
it.  `tcp_client_stop` joins the two threads, which have only a few steps left by then.
-/

namespace AntennaMgmt.Tcp.ClientSys

open AntennaMgmt.Lib

variable {s s' : ClientSys} {a : ClientAct}

/-! ### Where the data go -/

/-- What the call that sends has found is still so. -/
structure Steady (s : ClientSys) : Prop where
  noUndo : ∀ fd, s.connector ≠ .undoSockfd fd
  found : ∀ fd conn, s.send = .sending fd conn →
    s.sockfd = some fd ∧ conn.isSome ∧ (s.sockets fd).map Socket.conn = conn
  faults : .strayWrite ∉ s.faults

/-- The client is started in order and not disturbed. -/
def Undisturbed (s : ClientSys) (a : ClientAct) : Prop := s.Orderly a ∧ s.disturbs a = false

instance (s : ClientSys) (a : ClientAct) : Decidable (s.Undisturbed a) :=
  inferInstanceAs (Decidable (_ ∧ _))

lemma strayWrite_mem_closeSocket (s : ClientSys) (fd : ℕ) :
    .strayWrite ∈ (s.closeSocket fd).faults ↔ .strayWrite ∈ s.faults := by
  unfold closeSocket
  dsimp only
  split_ifs <;> simp

/-- A step that leaves the call that sends and its socket alone. -/
lemma Steady.of_same (h : s.Steady) (hundo : ∀ fd, s'.connector ≠ .undoSockfd fd)
    (hsend : s'.send = s.send) (hfaults : .strayWrite ∈ s'.faults ↔ .strayWrite ∈ s.faults)
    (hsocket : ∀ fd, s.sockfd = some fd →
      s'.sockfd = some fd ∧ (s'.sockets fd).map Socket.conn = (s.sockets fd).map Socket.conn) :
    s'.Steady := by
  refine ⟨hundo, fun fd conn hsending => ?_, fun hf => h.faults (hfaults.1 hf)⟩
  rw [hsend] at hsending
  obtain ⟨hsockfd, hsome, hconn⟩ := h.found fd conn hsending
  obtain ⟨hshown, hsame⟩ := hsocket fd hsockfd
  exact ⟨hshown, hsome, hsame.trans hconn⟩

/-- A step while no call sends. -/
lemma Steady.of_not_sending (h : s.Steady) (hundo : ∀ fd, s'.connector ≠ .undoSockfd fd)
    (hnot : isSending s'.send = false)
    (hfaults : .strayWrite ∈ s'.faults ↔ .strayWrite ∈ s.faults) :
    s'.Steady := by
  refine ⟨hundo, fun fd conn hsending => ?_, fun hf => h.faults (hfaults.1 hf)⟩
  rw [hsending] at hnot
  cases hnot

lemma Steady.connectorStep (h : s.Steady) (hown : s.Owned) {ok : Bool} {fd : ℕ}
    (hok : (isCreating s.connector && !ok) = false) (hstep : s.connectorStep ok fd = some s') :
    s'.Steady := by
  obtain ⟨held, hholds, hopen⟩ := hown.holds
  unfold ClientSys.connectorStep at hstep
  cases hc : s.connector with
  | none | exited =>
    rw [hc] at hstep
    cases hstep
  | test | poll =>
    rw [hc] at hstep
    cases hstep
    refine h.of_same (fun _ => ?_) rfl .rfl fun _ hfd => ⟨hfd, rfl⟩
    dsimp only
    split_ifs <;> simp
  | socket | connecting fd =>
    rw [hc] at hstep hholds
    obtain ⟨-, hsockfd, -⟩ := hholds
    dsimp only at hstep
    split_ifs at hstep <;> cases hstep <;>
      refine h.of_same (by simp) rfl ?_ fun _ hfd => ?_
    all_goals first
      | exact .rfl
      | exact strayWrite_mem_closeSocket s _
      | rw [hsockfd] at hfd
        cases hfd
  | publish fd =>
    rw [hc] at hstep hholds
    obtain ⟨-, hsockfd, -⟩ := hholds
    cases hstep
    refine h.of_same (by simp) rfl .rfl fun _ hfd => ?_
    rw [hsockfd] at hfd
    cases hfd
  | join fd =>
    rw [hc] at hstep
    dsimp only at hstep
    split_ifs at hstep <;> cases hstep <;>
      exact h.of_same (by simp) rfl .rfl fun _ hfd => ⟨hfd, rfl⟩
  | create fd =>
    rw [hc] at hstep hok
    have hcreated : ok = true := by simpa [isCreating] using hok
    dsimp only at hstep
    rw [if_pos hcreated] at hstep
    cases hstep
    refine h.of_same (by simp) rfl ?_ fun _ hfd => ⟨hfd, rfl⟩
    dsimp only
    split_ifs <;> simp
  | undoSockfd fd => exact absurd hc (h.noUndo fd)
  | undoState | callback | sleep =>
    rw [hc] at hstep
    cases hstep
    exact h.of_same (by simp) rfl .rfl fun _ hfd => ⟨hfd, rfl⟩

lemma strayWrite_mem_closeSockfd (s : ClientSys) :
    .strayWrite ∈ s.closeSockfd.faults ↔ .strayWrite ∈ s.faults := by
  unfold closeSockfd
  split
  · exact strayWrite_mem_closeSocket s _
  · exact .rfl

lemma closeSockfd_frame (s : ClientSys) :
    s.closeSockfd.connector = s.connector ∧ s.closeSockfd.send = s.send := by
  unfold closeSockfd
  split <;> exact ⟨rfl, rfl⟩

lemma Steady.receiverStep (h : s.Steady) {event : RecvEvent}
    (hnot : (s.receiver = .leave && isSending s.send) = false)
    (hstep : s.receiverStep event = some s') : s'.Steady := by
  have hsame : ∀ r, Steady { s with receiver := r } := fun r =>
    h.of_same h.noUndo rfl .rfl fun _ hfd => ⟨hfd, rfl⟩
  unfold ClientSys.receiverStep at hstep
  cases hr : s.receiver with
  | none | exited =>
    rw [hr] at hstep
    cases hstep
  | test | handling | down =>
    rw [hr] at hstep
    cases hstep
    exact hsame _
  | recv fd =>
    rw [hr] at hstep
    cases event <;> cases hstep <;> exact hsame _
  | leave =>
    rw [hr] at hstep hnot
    cases hstep
    obtain ⟨hconnector, hsend⟩ := closeSockfd_frame s
    refine h.of_not_sending ?_ ?_ (strayWrite_mem_closeSockfd s)
    · rw [hconnector]
      exact h.noUndo
    · rw [hsend]
      simpa using hnot

lemma Steady.ownerStep (h : s.Steady) (hstep : s.ownerStep = some s') : s'.Steady := by
  unfold ClientSys.ownerStep at hstep
  cases ho : s.owner with
  | idle =>
    rw [ho] at hstep
    cases hstep
  | joinConnector =>
    rw [ho] at hstep
    dsimp only at hstep
    split_ifs at hstep <;> cases hstep
    · exact h.of_same (by simp) rfl .rfl fun _ hfd => ⟨hfd, rfl⟩
    · exact h.of_same h.noUndo rfl .rfl fun _ hfd => ⟨hfd, rfl⟩
  | joinReceiver =>
    rw [ho] at hstep
    dsimp only at hstep
    split_ifs at hstep <;> cases hstep <;>
      exact h.of_same h.noUndo rfl .rfl fun _ hfd => ⟨hfd, rfl⟩
  | shutdown =>
    rw [ho] at hstep
    obtain ⟨hfree, hstep⟩ := Option.ite_none_right_eq_some.1 hstep
    cases hstep
    have hframe : s.shutSocket.connector = s.connector ∧ s.shutSocket.send = s.send ∧
        s.shutSocket.faults = s.faults := by
      unfold ClientSys.shutSocket
      split <;> exact ⟨rfl, rfl, rfl⟩
    obtain ⟨hconnector, hsend, hfaults⟩ := hframe
    refine h.of_not_sending ?_ ?_ ?_
    · rw [hconnector]
      exact h.noUndo
    · rw [hsend, hfree]
      rfl
    · rw [hfaults]
  | close =>
    rw [ho] at hstep
    obtain ⟨hfree, hstep⟩ := Option.ite_none_right_eq_some.1 hstep
    cases hstep
    obtain ⟨hconnector, hsend⟩ := closeSockfd_frame s
    refine h.of_not_sending ?_ ?_ (strayWrite_mem_closeSockfd s)
    · rw [hconnector]
      exact h.noUndo
    · rw [hsend, hfree]
      rfl

/-- A call finds the socket that is open. -/
lemma Steady.sendFind (h : s.Steady) (hown : s.Owned) : Steady { s with send := s.sendFind } := by
  refine ⟨h.noUndo, fun fd conn hsending => ?_, h.faults⟩
  dsimp only [ClientSys.sendFind] at hsending ⊢
  cases hsockfd : s.sockfd with
  | none =>
    rw [hsockfd] at hsending
    cases hsending
  | some fd' =>
    rw [hsockfd] at hsending
    dsimp only at hsending
    split_ifs at hsending with hstate
    cases hsending
    refine ⟨rfl, ?_, rfl⟩
    obtain ⟨held, hholds, hopen⟩ := hown.holds
    rw [hsockfd, hstate] at hholds
    have hheld : held = some fd := by
      cases hc : s.connector with
      | socket | connecting | publish | undoState =>
        rw [hc] at hholds
        cases hholds.2.1
      | join | create =>
        rw [hc] at hholds
        rw [hholds.2.2.2, ← hholds.2.1]
      | undoSockfd fd => exact absurd hc (h.noUndo fd)
      | none | test | poll | callback | sleep | exited =>
        rw [hc] at hholds
        rcases hholds with ⟨_, -, hfd, -, hheld⟩ | ⟨-, hnone, -⟩
        · rw [hheld, hfd]
        · cases hnone
    rw [Option.isSome_map]
    exact (hopen fd).2 hheld

lemma Steady.start (h : s.Steady) (htid : s.connectorTid = false) (created : Bool) :
    (s.start created).Steady := by
  unfold ClientSys.start
  cases created with
  | true =>
    refine h.of_same (by simp) rfl ?_ fun _ hfd => ⟨hfd, rfl⟩
    simp [htid]
  | false => exact h.of_same h.noUndo rfl .rfl fun _ hfd => ⟨hfd, rfl⟩

lemma Steady.step (h : s.Steady) (hown : s.Owned) (hstep : restrict Step Undisturbed s a s') :
    s'.Steady := by
  obtain ⟨hstep, horderly, hquiet⟩ := hstep
  unfold Step next at hstep
  cases a with
  | start created =>
    obtain ⟨-, hstep⟩ := Option.ite_none_right_eq_some.1 hstep
    cases hstep
    exact h.start (horderly rfl) created
  | stop =>
    obtain ⟨-, hstep⟩ := Option.ite_none_right_eq_some.1 hstep
    cases hstep
    exact h.of_same h.noUndo rfl .rfl fun _ hfd => ⟨hfd, rfl⟩
  | owner => exact h.ownerStep hstep
  | connector ok fd => exact h.connectorStep hown hquiet hstep
  | receiver event => exact h.receiverStep hquiet hstep
  | sendEnter =>
    obtain ⟨-, hstep⟩ := Option.ite_none_right_eq_some.1 hstep
    cases hstep
    exact h.of_not_sending h.noUndo rfl .rfl
  | sendFind =>
    obtain ⟨-, hstep⟩ := Option.ite_none_right_eq_some.1 hstep
    cases hstep
    exact h.sendFind hown
  | sendWrite =>
    dsimp only at hstep
    split at hstep
    · rename_i fd conn hsending
      cases hstep
      rw [write, if_pos (h.found fd conn hsending).2]
      exact h
    · cases hstep
  | sendLeave =>
    dsimp only at hstep
    split at hstep
    · cases hstep
      exact h.of_not_sending h.noUndo rfl .rfl
    · cases hstep

/-- As long as a receive thread can be created, and does not close its socket while a call sends on
it, all data go out on the connection that the call had found.  `tcp_client_stop` needs no such
condition. -/
theorem data_stay_on_connection {l : List ClientAct}
    (h : Run (restrict Step Undisturbed) init l s) :
    s.faults = [] := by
  have hboth := h.invariant (I := fun s => s.Owned ∧ s.Steady)
    (fun _ _ _ hs hstep => ⟨hs.1.step ⟨hstep.1, hstep.2.1⟩, hs.2.step hs.1 hstep⟩)
    ⟨owned_init, ⟨by simp [init], by simp [init], by simp [init]⟩⟩
  refine List.eq_nil_iff_forall_not_mem.2 fun f hf => ?_
  rw [hboth.1.faults f hf] at hf
  exact hboth.2.faults hf

/-- A message goes out, and the connection ends after it. -/
def sentAndLost : List ClientAct :=
  .start true :: connecting ++
    [.connector true 0, .connector true 0, .receiver .data, .sendEnter, .sendFind, .sendWrite,
      .receiver .ended, .sendWrite, .sendLeave, .receiver .ended]

theorem data_stay_on_connection_sentAndLost :
    ∃ s : ClientSys, s.faults = [] ∧ s.conns = 1 ∧ s.state = .disconnected := by
  obtain ⟨s, hs, hend⟩ : ∃ s : ClientSys, execute next Undisturbed init sentAndLost = some s ∧
      s.conns = 1 ∧ s.state = .disconnected := ⟨_, rfl, by decide⟩
  exact ⟨s, data_stay_on_connection (.of_execute hs), hend⟩

/-- A connection ends while a call sends, and the next one gets the same descriptor. -/
def overtaken : List ClientAct :=
  .start true :: connecting ++
    [.connector true 0, .connector true 0, .receiver .data, .sendEnter, .sendFind, .sendWrite,
      .receiver .ended, .receiver .ended, .receiver .ended, .connector true 0] ++ connecting ++
    [.sendWrite]

/-- The condition matters: the rest of the message goes out on the wrong connection. -/
example : ∃ s ∈ overtaken.foldlM next init, .strayWrite ∈ s.faults := by decide

/-! ### The end of a stop -/

lemma rank_lt_ownerStep (hstep : s.ownerStep = some s') :
    s'.running = s.running ∧ s'.rank < s.rank := by
  unfold ClientSys.ownerStep at hstep
  have hshut : s.shutSocket.running = s.running ∧ s.shutSocket.connector = s.connector ∧
      s.shutSocket.receiver = s.receiver := by
    unfold shutSocket
    split <;> exact ⟨rfl, rfl, rfl⟩
  have hclose : s.closeSockfd.running = s.running ∧ s.closeSockfd.connector = s.connector ∧
      s.closeSockfd.receiver = s.receiver := by
    unfold closeSockfd
    split <;> exact ⟨rfl, rfl, rfl⟩
  cases ho : s.owner with
  | idle =>
    rw [ho] at hstep
    cases hstep
  | joinConnector | joinReceiver =>
    rw [ho] at hstep
    dsimp only at hstep
    split_ifs at hstep with htid hexited <;> cases hstep
    · exact ⟨rfl, by simp [rank, ho, hexited, ownerRank, connectorRank, receiverRank]⟩
    · exact ⟨rfl, by simp [rank, ho, ownerRank]⟩
  | shutdown =>
    rw [ho] at hstep
    obtain ⟨-, hstep⟩ := Option.ite_none_right_eq_some.1 hstep
    cases hstep
    exact ⟨hshut.1, by simp [rank, ho, hshut, ownerRank]⟩
  | close =>
    rw [ho] at hstep
    obtain ⟨-, hstep⟩ := Option.ite_none_right_eq_some.1 hstep
    cases hstep
    exact ⟨hclose.1, by simp [rank, ho, hclose, ownerRank]⟩

lemma rank_lt_connectorStep (hrunning : s.running = false) {ok : Bool} {fd : ℕ}
    (hstep : s.connectorStep ok fd = some s') : s'.running = false ∧ s'.rank < s.rank := by
  unfold ClientSys.connectorStep at hstep
  cases hc : s.connector with
  | none | exited =>
    rw [hc] at hstep
    cases hstep
  | test =>
    rw [hc] at hstep
    cases hstep
    exact ⟨hrunning, by simp [rank, hc, hrunning, connectorRank]⟩
  | poll | socket | connecting | create =>
    rw [hc] at hstep
    dsimp only at hstep
    split_ifs at hstep <;> cases hstep <;>
      exact ⟨hrunning, by simp [rank, hc, closeSocket, connectorRank, receiverRank] <;> omega⟩
  | join fd =>
    rw [hc] at hstep
    dsimp only at hstep
    split_ifs at hstep with htid hexited <;> cases hstep
    · exact ⟨hrunning, by simp [rank, hc, hexited, connectorRank, receiverRank]⟩
    · exact ⟨hrunning, by simp [rank, hc, connectorRank]⟩
  | publish | undoSockfd | undoState | callback | sleep =>
    rw [hc] at hstep
    cases hstep
    exact ⟨hrunning, by simp [rank, hc, connectorRank]⟩

lemma rank_lt_receiverStep (hrunning : s.running = false) {event : RecvEvent}
    (hstep : s.receiverStep event = some s') : s'.running = false ∧ s'.rank < s.rank := by
  unfold ClientSys.receiverStep at hstep
  cases hr : s.receiver with
  | none | exited =>
    rw [hr] at hstep
    cases hstep
  | test | handling | down =>
    rw [hr] at hstep
    cases hstep
    exact ⟨hrunning, by simp [rank, hr, hrunning, receiverRank]⟩
  | recv fd =>
    rw [hr] at hstep
    cases event <;> cases hstep <;> exact ⟨hrunning, by simp [rank, hr, receiverRank]⟩
  | leave =>
    rw [hr] at hstep
    cases hstep
    have hclose : s.closeSockfd.running = s.running ∧ s.closeSockfd.owner = s.owner ∧
        s.closeSockfd.connector = s.connector := by
      unfold closeSockfd
      split <;> exact ⟨rfl, rfl, rfl⟩
    exact ⟨hclose.1.trans hrunning, by simp [rank, hr, hclose, receiverRank]⟩

/-- While the client is not running each step of a thread is one fewer to go, and the others do not
add to them. -/
lemma rank_of_step (hrunning : s.running = false)
    (hstep : restrict Step (fun _ a => isCall a = false) s a s') :
    s'.running = false ∧ (if isThreadStep a then 1 else 0) + s'.rank ≤ s.rank := by
  obtain ⟨hstep, hcall⟩ := hstep
  unfold Step next at hstep
  cases a with
  | start | stop => cases hcall
  | owner =>
    obtain ⟨hsame, hlt⟩ := rank_lt_ownerStep hstep
    exact ⟨hsame.trans hrunning, by rw [isThreadStep, if_pos rfl]; omega⟩
  | connector ok fd =>
    obtain ⟨hstill, hlt⟩ := rank_lt_connectorStep hrunning hstep
    exact ⟨hstill, by rw [isThreadStep, if_pos rfl]; omega⟩
  | receiver event =>
    obtain ⟨hstill, hlt⟩ := rank_lt_receiverStep hrunning hstep
    exact ⟨hstill, by rw [isThreadStep, if_pos rfl]; omega⟩
  | sendEnter | sendFind =>
    obtain ⟨-, hstep⟩ := Option.ite_none_right_eq_some.1 hstep
    cases hstep
    exact ⟨hrunning, by simp [isThreadStep, rank]⟩
  | sendWrite =>
    dsimp only at hstep
    split at hstep <;> cases hstep
    have hsame : ∀ fd conn, (s.write fd conn).running = s.running ∧
        (s.write fd conn).rank = s.rank := by
      intro fd conn
      unfold write
      split_ifs <;> exact ⟨rfl, rfl⟩
    exact ⟨(hsame _ _).1.trans hrunning, by simp [isThreadStep, hsame]⟩
  | sendLeave =>
    dsimp only at hstep
    split at hstep <;> cases hstep
    exact ⟨hrunning, by simp [isThreadStep, rank]⟩

/-- So a run of a client that is not running has only so many steps of its threads. -/
lemma count_add_rank_le {l : List ClientAct} (hrunning : s.running = false)
    (h : Run (restrict Step fun _ a => isCall a = false) s l s') :
    l.countP isThreadStep + s'.rank ≤ s.rank := by
  induction h with
  | nil => simp
  | cons hstep _ ih =>
    obtain ⟨hstill, hle⟩ := rank_of_step hrunning hstep
    have hrest := ih hstill
    rw [List.countP_cons]
    omega

/-- A step that needs neither a new call nor the other side of the connection. -/
def Goes (s : ClientSys) : Prop :=
  ∃ a s', Step s a s' ∧ isCall a = false ∧ a ≠ .sendEnter ∧ s.awaitsPeer a = false

lemma goes_of_ownerStep (h : s.ownerStep.isSome = true) : s.Goes := by
  obtain ⟨s', hs'⟩ := Option.isSome_iff_exists.1 h
  exact ⟨.owner, s', hs', rfl, by simp, rfl⟩

/-- A receive thread that is not in `recv` takes a step. -/
lemma goes_of_receiver (hr : s.receiver ≠ .none ∧ s.receiver ≠ .exited)
    (hshut : ∀ fd, s.receiver = .recv (some fd) → (s.sockets fd).map Socket.shut = some true) :
    s.Goes := by
  have hawaits : s.awaitsPeer (.receiver .ended) = false := by
    unfold awaitsPeer
    dsimp only
    split
    · rename_i fd hrecv
      simpa using hshut fd hrecv
    · rfl
  have hstep : ∃ s', s.receiverStep .ended = some s' := by
    unfold receiverStep
    cases hrecv : s.receiver with
    | none => exact absurd hrecv hr.1
    | exited => exact absurd hrecv hr.2
    | test | recv | handling | leave | down => exact ⟨_, rfl⟩
  obtain ⟨s', hs'⟩ := hstep
  exact ⟨.receiver .ended, s', hs', rfl, by simp, hawaits⟩

/-- A reconnect thread that has not left its loop takes a step, or the receive thread that it waits
for does. -/
lemma Owned.goes_of_connector (h : s.Owned) (hc : s.connector ≠ .none ∧ s.connector ≠ .exited) :
    s.Goes := by
  by_cases hstep : (s.connectorStep false 0).isSome = true
  · obtain ⟨s', hs'⟩ := Option.isSome_iff_exists.1 hstep
    exact ⟨.connector false 0, s', hs', rfl, by simp, rfl⟩
  obtain ⟨held, hholds, -⟩ := h.holds
  unfold ClientSys.connectorStep at hstep
  cases hconn : s.connector with
  | none => exact absurd hconn hc.1
  | exited => exact absurd hconn hc.2
  | join fd =>
    rw [hconn] at hholds
    have hdone := hholds.1
    by_cases htid : s.receiverTid = true
    · refine goes_of_receiver ⟨h.receiverTid.1 htid, fun hexited => hstep ?_⟩ fun fd hrecv => ?_
      · simp [hconn, htid, hexited]
      · rw [hrecv] at hdone
        exact hdone.elim
    · simp [hconn, htid] at hstep
  | test | poll | socket | connecting | publish | create | undoSockfd | undoState | callback |
      sleep => simp [hconn] at hstep

/-- Where `send_mutex` is waited for, it is given back, or the main program goes on. -/
lemma goes_of_send (howner : s.send = .free → s.ownerStep.isSome = true) : s.Goes := by
  cases hsend : s.send with
  | free => exact goes_of_ownerStep (howner hsend)
  | entered =>
    exact ⟨.sendFind, { s with send := s.sendFind }, if_pos hsend, rfl, by simp, rfl⟩
  | sending fd conn =>
    refine ⟨.sendLeave, { s with send := .free }, ?_, rfl, by simp, rfl⟩
    simp [Step, next, hsend]

/-- `tcp_client_stop` always comes to its end: as long as it has not, a step is possible that needs
neither a new call nor the other side of the connection, and the main program and the threads have
at most twenty steps to take, however the calls of other threads that send come between them. -/
theorem stop_finishes {l : List ClientAct} (h : Run (restrict Step Orderly) init l s)
    (howner : s.owner ≠ .idle) :
    s.Goes ∧ ∀ m t, Run (restrict Step fun _ a => isCall a = false) s m t →
      m.countP isThreadStep ≤ 20 := by
  have howned := owned_of_run h
  refine ⟨?_, fun m t hrun => ?_⟩
  · cases ho : s.owner with
    | idle => exact absurd ho howner
    | joinConnector =>
      by_cases htid : s.connectorTid = true
      · by_cases hexited : s.connector = .exited
        · exact goes_of_ownerStep (by simp [ownerStep, ho, htid, hexited])
        · exact howned.goes_of_connector ⟨howned.connectorTid.1 htid, hexited⟩
      · exact goes_of_ownerStep (by simp [ownerStep, ho, htid])
    | joinReceiver =>
      by_cases htid : s.receiverTid = true
      · by_cases hexited : s.receiver = .exited
        · exact goes_of_ownerStep (by simp [ownerStep, ho, htid, hexited])
        · exact goes_of_receiver ⟨howned.receiverTid.1 htid, hexited⟩ (howned.shut ho)
      · exact goes_of_ownerStep (by simp [ownerStep, ho, htid])
    | shutdown | close =>
      exact goes_of_send fun hfree => by simp [ownerStep, ho, hfree]
  · have hle := count_add_rank_le (howned.stage.not_running howner) hrun
    have hbound : s.rank ≤ 20 := by
      have hown : ownerRank s.owner ≤ 4 := by cases s.owner <;> decide
      have hconn : connectorRank s.connector ≤ 11 := by cases s.connector <;> simp [connectorRank]
      have hrecv : receiverRank s.receiver ≤ 5 := by cases s.receiver <;> simp [receiverRank]
      unfold rank
      omega
    omega

/-- A client is stopped while the receive thread waits. -/
def stopping : List ClientAct :=
  .start true :: connecting ++
    [.connector true 0, .connector true 0, .receiver .data, .stop]

theorem stop_finishes_stopping : ∃ s : ClientSys, s.Goes ∧ s.receiver = .recv (some 5) := by
  obtain ⟨s, hs, howner, hrecv⟩ : ∃ s : ClientSys, execute next Orderly init stopping = some s ∧
      s.owner ≠ .idle ∧ s.receiver = .recv (some 5) := ⟨_, rfl, by decide⟩
  exact ⟨s, (stop_finishes (.of_execute hs) howner).1, hrecv⟩

end AntennaMgmt.Tcp.ClientSys
