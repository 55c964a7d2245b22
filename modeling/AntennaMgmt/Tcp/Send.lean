import AntennaMgmt.Lib.Bytes
import Mathlib.Data.List.TakeDrop
import Mathlib.Tactic.Common

/-!
# Sending over TCP

`tcp_client_send` writes a message to the socket, as often as the socket takes a part of it.  A
send timeout or an error makes the call give up, but the client stays connected: the next call
writes behind the part that went out.
-/

namespace AntennaMgmt.Tcp

open AntennaMgmt.Lib

/-! ### The client -/

/-- `tcp_state_t`. -/
inductive TcpState
  | disconnected
  | connecting
  | connected
  | error
deriving DecidableEq, Repr

/-- The fields of `tcp_client_t` that sending depends on. -/
structure TcpClient where
  sockfd : Option ℕ
  state : TcpState
deriving DecidableEq, Repr

/-- What `send()` on the socket comes to: bytes are taken, a signal interrupts it, it runs into
`SO_SNDTIMEO`, or it fails. -/
inductive SockOutcome
  | wrote (n : ℕ)
  | eintr
  | timeout
  | error
deriving DecidableEq, Repr

/-- What `tcp_client_send` returns. -/
inductive SendResult
  | success
  | errorInvalidParam
  | errorNetwork
  | errorTimeout
deriving DecidableEq, Repr

/-- The loop of `tcp_client_send` over the rest of a message: the result, unless the call is still
within `send()` when the outcomes end, and the bytes that the socket takes. -/
def sendLoop : Bytes → List SockOutcome → Option SendResult × Bytes
  | [], _ => (some .success, [])
  | _ :: _, [] => (none, [])
  | b :: rest, .wrote n :: outcomes =>
    let (ret, written) := sendLoop ((b :: rest).drop n) outcomes
    (ret, (b :: rest).take n ++ written)
  | b :: rest, .eintr :: outcomes => sendLoop (b :: rest) outcomes
  -- the call gives up, and what it has written stays written
  | _ :: _, .timeout :: _ => (some .errorTimeout, [])
  | _ :: _, .error :: _ => (some .errorNetwork, [])

/-- `tcp_client_send`: the client afterwards, the result and what is written to the socket. -/
def tcpClientSend (client : TcpClient) (msg : Bytes) (outcomes : List SockOutcome) :
    TcpClient × Option SendResult × Bytes :=
  if msg.length = 0 then (client, some .errorInvalidParam, [])
  else if client.state ≠ .connected ∨ client.sockfd = none then (client, some .errorNetwork, [])
  else (client, sendLoop msg outcomes)

/-- The end of `tcp_recv_thread`: the socket is closed. -/
def connectionLost (_ : TcpClient) : TcpClient := ⟨none, .disconnected⟩

/-! ### A connection -/

/-- What happens to a connection: a message is sent, with what the socket makes of it, or the
receive thread takes the connection down.  The calls of several threads come one after the other,
for a call holds `send_mutex`. -/
inductive Event
  | call (msg : Bytes) (outcomes : List SockOutcome)
  | down
deriving DecidableEq, Repr

/-- What one call has written of its message. -/
structure Written where
  message : Bytes
  part : Bytes
deriving DecidableEq, Repr

/-- The calls on a connection and what they write.  A call that is still within `send()` is the
last. -/
def wire : TcpClient → List Event → List Written
  | _, [] => []
  | client, .down :: events => wire (connectionLost client) events
  | client, .call msg outcomes :: events =>
    let (client, ret, written) := tcpClientSend client msg outcomes
    ⟨msg, written⟩ :: if ret = none then [] else wire client events

/-- When a part of a message has been written, nothing is written any more. -/
def NothingAfterCut (log : List Written) : Prop :=
  ∀ xs w ys, log = xs ++ w :: ys → w.part ≠ [] → w.part ≠ w.message → ∀ y ∈ ys, y.part = []

/-- The bytes of a connection are whole messages, in the order of the calls, up to a part of one
at the end. -/
def WholeMessages (log : List Written) : Prop :=
  ∃ ms p, (log.map Written.part).flatten = List.flatten ms ++ p ∧
    ms.Sublist (log.map Written.message) ∧
    (p = [] ∨ ∃ m ∈ log.map Written.message, p <+: m ∧ p ≠ m)

/-- How many bytes the socket takes until it fails. -/
def accepted : List SockOutcome → ℕ
  | [] => 0
  | .wrote n :: outcomes => n + accepted outcomes
  | .eintr :: outcomes => accepted outcomes
  | .timeout :: _ => 0
  | .error :: _ => 0

/-- The socket fails. -/
def fails (outcomes : List SockOutcome) : Bool :=
  .timeout ∈ outcomes ∨ .error ∈ outcomes

/-- The socket fails within a message. -/
def Cut (msg : Bytes) (outcomes : List SockOutcome) : Prop :=
  fails outcomes ∧ 0 < accepted outcomes ∧ accepted outcomes < msg.length

/-- The call comes back. -/
def Returns (msg : Bytes) (outcomes : List SockOutcome) : Prop :=
  fails outcomes ∨ msg.length ≤ accepted outcomes

instance (msg : Bytes) (outcomes : List SockOutcome) : Decidable (Returns msg outcomes) :=
  inferInstanceAs (Decidable (_ ∨ _))

/-- The socket takes nothing until the connection is down. -/
def Refuses : List Event → Prop
  | [] => True
  | .down :: _ => True
  | .call msg outcomes :: events =>
    (msg = [] ∨ accepted outcomes = 0) ∧ (Returns msg outcomes → Refuses events)

/-- A socket that has failed within a message takes nothing until the connection is down. -/
def RefusesAfterCut : List Event → Prop
  | [] => True
  | .down :: _ => True
  | .call msg outcomes :: events =>
    (Cut msg outcomes → Refuses events) ∧ (Returns msg outcomes → RefusesAfterCut events)

lemma sendLoop_written (msg : Bytes) (outcomes : List SockOutcome) :
    (sendLoop msg outcomes).2 = msg.take (accepted outcomes) := by
  induction msg, outcomes using sendLoop.induct with
  | case1 outcomes => simp [sendLoop]
  | case2 b rest => simp [sendLoop, accepted]
  | case3 b rest n outcomes ret written _ ih =>
    -- the socket has taken `n` bytes, the loop goes on with the rest
    rw [accepted, List.take_add, ← ih]
    rfl
  | case4 b rest outcomes ih => exact ih
  | case5 b rest outcomes => rfl
  | case6 b rest outcomes => rfl

/-- A call is left within `send()` when the socket neither fails nor takes the whole message. -/
lemma sendLoop_none_iff (msg : Bytes) (outcomes : List SockOutcome) :
    (sendLoop msg outcomes).1 = none ↔ ¬ Returns msg outcomes := by
  unfold Returns
  induction msg, outcomes using sendLoop.induct with
  | case1 outcomes => simp [sendLoop]
  | case2 b rest => simp [sendLoop, accepted, fails]
  | case3 b rest n outcomes ret written _ ih =>
    have hfails : fails (.wrote n :: outcomes) = fails outcomes := by simp [fails]
    rw [hfails, accepted]
    rw [List.length_drop] at ih
    refine Iff.trans ih ?_
    rw [Nat.sub_le_iff_le_add']
  | case4 b rest outcomes ih =>
    have hfails : fails (.eintr :: outcomes) = fails outcomes := by simp [fails]
    rw [hfails]
    exact ih
  | case5 b rest outcomes => simp [sendLoop, fails]
  | case6 b rest outcomes => simp [sendLoop, fails]

/-! ### What is on the wire -/

/-- Nothing is written to a connection that is down. -/
lemma wire_of_down (client : TcpClient) (h : client.state ≠ .connected) (events : List Event) :
    ∀ w ∈ wire client events, w.part = [] := by
  induction events generalizing client with
  | nil => nofun
  | cons event events ih =>
    cases event with
    | down => exact ih (connectionLost client) nofun
    | call msg outcomes =>
      have hsend : ∃ ret, tcpClientSend client msg outcomes = (client, some ret, []) := by
        unfold tcpClientSend
        split_ifs with hmsg hstate
        · exact ⟨_, rfl⟩
        · exact ⟨_, rfl⟩
        · exact absurd (.inl h) hstate
      obtain ⟨ret, hsend⟩ := hsend
      simp only [wire, hsend, reduceCtorEq, if_false]
      intro w hw
      rcases List.mem_cons.1 hw with rfl | hw
      · rfl
      · exact ih client h w hw

variable {fd : ℕ}

/-- The client with the connection `fd`. -/
def connectedClient (fd : ℕ) : TcpClient := ⟨some fd, .connected⟩

/-- A call on a connection writes what the socket accepts, and whatever the socket does, the client
stays connected. -/
lemma wire_call (msg : Bytes) (outcomes : List SockOutcome) (events : List Event) :
    wire (connectedClient fd) (.call msg outcomes :: events) =
      ⟨msg, msg.take (accepted outcomes)⟩ ::
        if Returns msg outcomes then wire (connectedClient fd) events else [] := by
  by_cases hmsg : msg.length = 0
  · have hreturns : Returns msg outcomes := .inr (hmsg ▸ Nat.zero_le _)
    have hsend : tcpClientSend (connectedClient fd) msg outcomes =
        (connectedClient fd, some .errorInvalidParam, []) := if_pos hmsg
    rw [if_pos hreturns, List.eq_nil_of_length_eq_zero hmsg] at *
    simp only [wire, hsend, reduceCtorEq, if_false, List.take_nil]
  · have hsend : tcpClientSend (connectedClient fd) msg outcomes =
        (connectedClient fd, sendLoop msg outcomes) := by
      rw [tcpClientSend, if_neg hmsg]
      exact if_neg (by simp [connectedClient])
    simp only [wire, hsend, sendLoop_written, sendLoop_none_iff, ite_not]

/-- The socket refuses when nothing is written. -/
lemma refuses_iff (events : List Event) :
    (∀ w ∈ wire (connectedClient fd) events, w.part = []) ↔ Refuses events := by
  induction events with
  | nil => exact ⟨fun _ => trivial, fun _ => nofun⟩
  | cons event events ih =>
    cases event with
    | down =>
      exact ⟨fun _ => trivial, fun _ => wire_of_down (connectionLost (connectedClient fd)) nofun _⟩
    | call msg outcomes =>
      rw [wire_call, List.forall_mem_cons, Refuses, List.take_eq_nil_iff, or_comm]
      by_cases hreturns : Returns msg outcomes
      · rw [if_pos hreturns, ih]
        exact and_congr_right fun _ => ⟨fun h _ => h, fun h => h hreturns⟩
      · rw [if_neg hreturns]
        exact and_congr_right fun _ =>
          ⟨fun _ h => absurd h hreturns, fun _ w hw => absurd hw List.not_mem_nil⟩

lemma nothingAfterCut_cons (w : Written) (log : List Written) : NothingAfterCut (w :: log) ↔
    (w.part ≠ [] → w.part ≠ w.message → ∀ y ∈ log, y.part = []) ∧ NothingAfterCut log := by
  constructor
  · intro h
    refine ⟨h [] w log rfl, fun xs x ys heq => h (w :: xs) x ys (by rw [heq]; rfl)⟩
  · rintro ⟨hhead, htail⟩ xs x ys heq
    cases xs with
    | nil =>
      obtain ⟨rfl, rfl⟩ := List.cons.inj heq
      exact hhead
    | cons z zs => exact htail zs x ys (List.cons.inj heq).2

/-- A part of a message that is neither empty nor the whole. -/
lemma take_part_iff (msg : Bytes) (n : ℕ) :
    (msg.take n ≠ [] ∧ msg.take n ≠ msg) ↔ 0 < n ∧ n < msg.length := by
  rw [ne_eq, ne_eq, List.take_eq_nil_iff, List.take_eq_self_iff]
  constructor
  · rintro ⟨hnil, hall⟩
    omega
  · rintro ⟨hpos, hlt⟩
    refine ⟨?_, by omega⟩
    rintro (rfl | rfl)
    · omega
    · exact absurd hlt (Nat.not_lt_zero _)

/-- After a cut nothing is written exactly when the socket refuses. -/
lemma nothingAfterCut_iff (events : List Event) :
    NothingAfterCut (wire (connectedClient fd) events) ↔ RefusesAfterCut events := by
  induction events with
  | nil => exact ⟨fun _ => trivial, fun _ xs w ys heq => by simp [wire] at heq⟩
  | cons event events ih =>
    cases event with
    | down =>
      refine ⟨fun _ => trivial, fun _ xs w ys heq hpart => absurd ?_ hpart⟩
      refine wire_of_down (connectionLost (connectedClient fd)) nofun events w ?_
      rw [show wire (connectionLost (connectedClient fd)) events = _ from heq]
      exact List.mem_append_right xs List.mem_cons_self
    | call msg outcomes =>
      rw [wire_call, nothingAfterCut_cons, RefusesAfterCut]
      by_cases hreturns : Returns msg outcomes
      · have hcut : (msg.take (accepted outcomes) ≠ [] ∧ msg.take (accepted outcomes) ≠ msg) ↔
            Cut msg outcomes := by
          rw [take_part_iff, Cut]
          refine ⟨fun hpart => ⟨?_, hpart⟩, And.right⟩
          exact hreturns.resolve_right (not_le.2 hpart.2)
        rw [if_pos hreturns, ih, refuses_iff, ← and_imp, hcut]
        exact and_congr_right fun _ => ⟨fun h _ => h, fun h => h hreturns⟩
      · -- a call that is still within `send()` is the last
        have hcut : ¬ Cut msg outcomes := fun h => hreturns (.inl h.1)
        rw [if_neg hreturns]
        refine ⟨fun _ => ⟨fun h => absurd h hcut, fun h => absurd h hreturns⟩, fun _ => ?_⟩
        exact ⟨fun _ _ y hy => absurd hy List.not_mem_nil, fun xs w ys heq => by simp at heq⟩

/-- Every call writes a first part of its message. -/
lemma part_isPrefix (client : TcpClient) (events : List Event) :
    ∀ w ∈ wire client events, w.part <+: w.message := by
  induction events generalizing client with
  | nil => nofun
  | cons event events ih =>
    cases event with
    | down => exact ih _
    | call msg outcomes =>
      have hpart : (tcpClientSend client msg outcomes).2.2 <+: msg := by
        unfold tcpClientSend
        split_ifs
        · exact List.nil_prefix
        · exact List.nil_prefix
        · dsimp only
          rw [sendLoop_written]
          exact List.take_prefix _ _
      simp only [wire]
      intro w hw
      rcases List.mem_cons.1 hw with rfl | hw
      · exact hpart
      · split_ifs at hw with hret
        · cases hw
        · exact ih _ w hw

/-- When nothing follows a cut, the bytes are whole messages up to the end. -/
lemma NothingAfterCut.wholeMessages {log : List Written} (h : NothingAfterCut log)
    (hpart : ∀ w ∈ log, w.part <+: w.message) : WholeMessages log := by
  induction log with
  | nil => exact ⟨[], [], rfl, List.Sublist.slnil, .inl rfl⟩
  | cons w log ih =>
    rw [nothingAfterCut_cons] at h
    obtain ⟨hcut, hlater⟩ := h
    rw [List.forall_mem_cons] at hpart
    obtain ⟨ms, p, hbytes, hsub, hend⟩ := ih hlater hpart.2
    have hend' : p = [] ∨ ∃ m ∈ (w :: log).map Written.message, p <+: m ∧ p ≠ m :=
      hend.imp_right fun ⟨m, hm, hp⟩ => ⟨m, List.mem_cons_of_mem _ hm, hp⟩
    by_cases hnil : w.part = []
    · refine ⟨ms, p, ?_, hsub.cons _, hend'⟩
      rw [List.map_cons, List.flatten_cons, hnil, hbytes, List.nil_append]
    · by_cases hall : w.part = w.message
      · refine ⟨w.message :: ms, p, ?_, hsub.cons_cons _, hend'⟩
        rw [List.map_cons, List.flatten_cons, hall, hbytes, List.flatten_cons, List.append_assoc]
      · -- this message is cut, and nothing follows
        have hrest : (log.map Written.part).flatten = [] := by
          rw [List.flatten_eq_nil_iff]
          intro part hmem
          obtain ⟨y, hy, rfl⟩ := List.mem_map.1 hmem
          exact hcut hnil hall y hy
        refine ⟨[], w.part, ?_, List.nil_sublist _,
          .inr ⟨w.message, List.mem_cons_self, hpart.1, hall⟩⟩
        rw [List.map_cons, List.flatten_cons, hrest, List.append_nil]
        rfl

/-- A connection carries whole messages, up to a part of one at its end, and nothing behind a cut,
exactly when the socket takes nothing any more once it has failed within a message: the call that
failed leaves the client connected, and the next one writes. -/
theorem whole_messages_iff (fd : ℕ) (events : List Event) :
    (WholeMessages (wire (connectedClient fd) events) ∧
      NothingAfterCut (wire (connectedClient fd) events)) ↔ RefusesAfterCut events := by
  rw [nothingAfterCut_iff]
  refine ⟨And.right, fun h => ⟨?_, h⟩⟩
  exact ((nothingAfterCut_iff events).2 h).wholeMessages (part_isPrefix _ events)

/-- A send timeout in the middle of a message, and a message behind it. -/
theorem cut_message_followed :
    ¬ ∀ (fd : ℕ) (events : List Event), WholeMessages (wire (connectedClient fd) events) ∧
      NothingAfterCut (wire (connectedClient fd) events) := by
  intro hall
  obtain ⟨-, hcut⟩ := hall 3 [.call [1, 2] [.wrote 1, .timeout], .call [3, 4] [.wrote 2]]
  have hpart := hcut [] ⟨[1, 2], [1]⟩ [⟨[3, 4], [3, 4]⟩] (by decide) (by decide) (by decide)
    ⟨[3, 4], [3, 4]⟩ (by decide)
  cases hpart

end AntennaMgmt.Tcp
