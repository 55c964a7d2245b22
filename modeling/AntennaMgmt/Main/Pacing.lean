import AntennaMgmt.Lib.Timer
import AntennaMgmt.Main.Session
import Mathlib.Data.List.Perm.Subperm

/-!
# When the antenna speaks up, and under which numbers

The timers of the main loop keep its requests five rounds apart and its heartbeats three, whatever
the other threads do.  The messages that the antenna sends of its own take their numbers from one
counter, which three threads and all those that report alarms share.
-/

namespace AntennaMgmt.Main

open AntennaMgmt.Lib Heartbeat

/-- The rounds in which messages of a kind were sent, the latest first. -/
def roundsOf (kind : SentKind) (l : List Sent) : List ℕ :=
  (l.filter fun m => m.kind = kind).map Sent.round

namespace Session

variable {s s' : Session} {a : Act}

/-! ### The timers -/

/-- The main loop is about to send a heartbeat. -/
def beatDue (s : Session) : Bool :=
  match s.main with
  | .beatEnabled | .beatSerial | .beatSend _ => true
  | _ => false

/-- The main loop is about to send a request. -/
def setupDue (s : Session) : Bool :=
  match s.main with
  | .setupSerial | .setupSend _ => true
  | _ => false

/-- The timer of the heartbeats. -/
def beatClock (s : Session) : Timer :=
  ⟨s.round, s.heartbeatTimer, s.beatDue, roundsOf .heartbeat s.sent⟩

/-- The timer of the requests. -/
def setupClock (s : Session) : Timer :=
  ⟨s.round, s.channelSetupTimer, s.setupDue, roundsOf (.setupRequest .reconnect) s.sent⟩

/-- The clock does what a timer does, or stays as it is. -/
def Ticks (n : ℕ) (t t' : Timer) : Prop := t' = t ∨ ∃ b, Timer.Step n t b t'

lemma ticks_mainStep_beatClock (s : Session) (now : ℤ) :
    Ticks 3 s.beatClock (s.mainStep now).beatClock := by
  have hinterval : heartbeatIntervalSec = 3 := rfl
  unfold mainStep
  cases hmain : s.main with
  | sleep => exact .inr ⟨.tick, by simp [Timer.Step, Timer.next, beatClock, beatDue, hmain]⟩
  | beatTest =>
    dsimp only
    split_ifs
    · exact .inl (by simp [beatClock, beatDue, hmain])
    · exact .inr ⟨.reset, by simp [Timer.Step, Timer.next, beatClock, beatDue, hmain]⟩
  | beatState =>
    dsimp only
    split_ifs with hconnected hdue
    · have hcount : 3 ≤ s.heartbeatTimer := by omega
      exact .inr ⟨.expire, by simp [Timer.Step, Timer.next, beatClock, beatDue, hcount]⟩
    · exact .inl (by simp [beatClock, beatDue, hmain])
    · exact .inr ⟨.reset, by simp [Timer.Step, Timer.next, beatClock, beatDue, hmain]⟩
  | beatEnabled =>
    dsimp only
    split_ifs
    · exact .inl (by simp [beatClock, beatDue, hmain])
    · exact .inr ⟨.drop, by simp [Timer.Step, Timer.next, beatClock, beatDue]⟩
  | beatSend n =>
    exact .inr ⟨.fire, by simp [Timer.Step, Timer.next, beatClock, beatDue, hmain, put, roundsOf]⟩
  | setupSend n => exact .inl (by simp [beatClock, beatDue, hmain, put, roundsOf])
  | setupTest | setupState | checkTimeout =>
    dsimp only
    split_ifs <;> exact .inl (by simp [beatClock, beatDue, hmain])
  | setupSerial | beatSerial | beatCount | lostChannel | lostStop | lostNotify =>
    exact .inl (by simp [beatClock, beatDue, hmain])

lemma ticks_mainStep_setupClock (s : Session) (now : ℤ) :
    Ticks 5 s.setupClock (s.mainStep now).setupClock := by
  unfold mainStep
  cases hmain : s.main with
  | sleep => exact .inr ⟨.tick, by simp [Timer.Step, Timer.next, setupClock, setupDue, hmain]⟩
  | setupTest =>
    dsimp only
    split_ifs
    · exact .inr ⟨.reset, by simp [Timer.Step, Timer.next, setupClock, setupDue, hmain]⟩
    · exact .inl (by simp [setupClock, setupDue, hmain])
  | setupState =>
    dsimp only
    split_ifs with hconnected hdue
    · exact .inr ⟨.expire, by simp [Timer.Step, Timer.next, setupClock, setupDue, hdue]⟩
    · exact .inl (by simp [setupClock, setupDue, hmain])
    · exact .inr ⟨.reset, by simp [Timer.Step, Timer.next, setupClock, setupDue, hmain]⟩
  | setupSend n =>
    exact .inr ⟨.fire, by simp [Timer.Step, Timer.next, setupClock, setupDue, hmain, put, roundsOf]⟩
  | beatSend n => exact .inl (by simp [setupClock, setupDue, hmain, put, roundsOf])
  | beatTest | beatState | beatEnabled | checkTimeout =>
    dsimp only
    split_ifs <;> exact .inl (by simp [setupClock, setupDue, hmain])
  | setupSerial | beatSerial | beatCount | lostChannel | lostStop | lostNotify =>
    exact .inl (by simp [setupClock, setupDue, hmain])

/-- The clocks are the main loop's own. -/
lemma OtherStep.clocks (h : OtherStep s a s') :
    s'.beatClock = s.beatClock ∧ s'.setupClock = s.setupClock := by
  cases h with
  | connSend _ n | alarmSend _ n => exact ⟨by simp [beatClock, beatDue, put, roundsOf],
      by simp [setupClock, setupDue, put, roundsOf]⟩
  | _ => exact ⟨rfl, rfl⟩

lemma Step.ticks (h : Step s a s') :
    Ticks 3 s.beatClock s'.beatClock ∧ Ticks 5 s.setupClock s'.setupClock := by
  rcases h.cases with ⟨now, -, rfl⟩ | h
  · exact ⟨ticks_mainStep_beatClock s now, ticks_mainStep_setupClock s now⟩
  · exact ⟨.inl h.clocks.1, .inl h.clocks.2⟩

/-- A clock of the session in a run of the session. -/
lemma paced_of_ticks {n : ℕ} {f : Session → Timer}
    (hf : ∀ s a s', Step s a s' → Ticks n (f s) (f s'))
    (hinit : f init = .init) {l : List Act} (h : Run Step init l s) : Paced n (f s).fired := by
  have hsim : ∀ s a s' t, f s = t → Step s a s' →
      f s' = t ∨ ∃ b t', Timer.Step n t b t' ∧ f s' = t' := by
    rintro s a s' t rfl hstep
    rcases hf s a s' hstep with hsame | ⟨b, hb⟩
    · exact .inl hsame
    · exact .inr ⟨b, _, hb, rfl⟩
  obtain ⟨m, t, hrun, rfl⟩ := h.simulated (R := fun s t => f s = t) hsim hinit
  exact Timer.paced_of_run hrun

/-- However the threads take turns: heartbeats are sent at least three rounds of the main loop
apart, and the requests that it repeats at least five. -/
theorem paced_heartbeats_and_requests {l : List Act} (h : Run Step init l s) :
    Paced 3 (roundsOf .heartbeat s.sent) ∧
      Paced 5 (roundsOf (.setupRequest .reconnect) s.sent) :=
  ⟨paced_of_ticks (fun _ _ _ hstep => hstep.ticks.1) rfl h,
    paced_of_ticks (fun _ _ _ hstep => hstep.ticks.2) rfl h⟩

/-- A connection is made, and a channel setup configuration comes. -/
def establishing (handled : Bool) : List Act :=
  [.connect, .conn true, .conn true, .conn true, .conn true, .receive (.setupConfig handled) 0,
    .recv 0, .recv 0]

/-- The channel is set up, and seven rounds go by. -/
def firstHeartbeats : List Act := establishing true ++ List.replicate 43 (.main 0)

theorem paced_heartbeats_and_requests_established :
    ∃ s : Session, Paced 3 (roundsOf .heartbeat s.sent) ∧ roundsOf .heartbeat s.sent = [6, 3] := by
  obtain ⟨s, hs, hsent⟩ : ∃ s, firstHeartbeats.foldlM next init = some s ∧
      roundsOf .heartbeat s.sent = [6, 3] := ⟨_, rfl, by decide⟩
  exact ⟨s, (paced_heartbeats_and_requests (.of_foldlM (fun _ _ _ h => h) hs)).1, hsent⟩

/-! ### The numbers -/

/-- The number that the main loop has taken for its next message. -/
def mainSerial (s : Session) : List ℕ :=
  match s.main with
  | .setupSend n | .beatSend n => [n]
  | _ => []

/-- The number that the reconnect thread has taken for its request. -/
def connSerial (s : Session) : List ℕ :=
  match s.conn with
  | .send n => [n]
  | _ => []

/-- The numbers of the messages, those about to be sent and those sent. -/
def numbers (s : Session) : List ℕ :=
  s.mainSerial ++ (s.connSerial ++ (s.alarmSerials ++ s.sent.map Sent.serialNum))

/-- A step takes the next number, or only moves the numbers that were taken. -/
def Numbers (s s' : Session) : Prop :=
  s'.numbers.Perm s.numbers ∧ s'.serialNum = s.serialNum ∨
    s'.numbers.Perm (s.nextSerialNum :: s.numbers) ∧ s'.serialNum = s.nextSerialNum

lemma numbers_mainStep (s : Session) (now : ℤ) : s.Numbers (s.mainStep now) := by
  unfold mainStep
  cases hmain : s.main with
  | setupSerial | beatSerial =>
    exact .inr ⟨by simp [numbers, mainSerial, connSerial, hmain, nextSerialNum], rfl⟩
  | setupSend n | beatSend n =>
    refine .inl ⟨?_, rfl⟩
    have hnow : s.numbers =
        n :: (s.connSerial ++ (s.alarmSerials ++ s.sent.map Sent.serialNum)) := by
      simp [numbers, mainSerial, hmain]
    rw [hnow, List.perm_iff_count]
    intro k
    simp [numbers, mainSerial, connSerial, put, List.count_cons]
    omega
  | setupTest | setupState | beatTest | beatState | beatEnabled | checkTimeout =>
    dsimp only
    split_ifs <;> exact .inl ⟨by simp [numbers, mainSerial, connSerial, hmain], rfl⟩
  | sleep | beatCount | lostChannel | lostStop | lostNotify =>
    exact .inl ⟨by simp [numbers, mainSerial, connSerial, hmain], rfl⟩

lemma OtherStep.numbers (h : OtherStep s a s') : s.Numbers s' := by
  cases h with
  | connected _ hconn | created hconn _ | notCreated hconn _ | connect hconn _ =>
    exact .inl ⟨by simp [Session.numbers, mainSerial, Session.connSerial, hconn], rfl⟩
  | connSerial _ hconn =>
    refine .inr ⟨?_, rfl⟩
    simp only [Session.numbers, Session.connSerial, hconn, List.nil_append, List.cons_append]
    exact List.perm_middle
  | connSend _ n hconn =>
    refine .inl ⟨?_, rfl⟩
    rw [List.perm_iff_count]
    intro k
    simp [Session.numbers, mainSerial, Session.connSerial, hconn, put, List.count_cons]
    omega
  | alarmSerial =>
    refine .inr ⟨?_, rfl⟩
    rw [List.perm_iff_count]
    intro k
    simp [Session.numbers, mainSerial, Session.connSerial, List.count_cons]
    omega
  | alarmSend i n hserial =>
    refine .inl ⟨?_, rfl⟩
    obtain ⟨hi, rfl⟩ := List.getElem?_eq_some_iff.1 hserial
    have hperm := List.getElem_cons_eraseIdx_perm hi
    rw [List.perm_iff_count] at hperm ⊢
    intro k
    have hcount := hperm k
    simp only [List.count_cons, beq_iff_eq] at hcount
    simp [Session.numbers, mainSerial, Session.connSerial, put, List.count_cons]
    omega
  | _ => exact .inl ⟨.refl _, rfl⟩

lemma Step.numbers (h : Step s a s') : s.Numbers s' := by
  rcases h.cases with ⟨now, -, rfl⟩ | h
  · exact numbers_mainStep s now
  · exact h.numbers

/-- As long as there are fewer than `2 ^ 32` of them, the numbers taken are those from one up. -/
def Counted (s : Session) : Prop :=
  s.numbers.length < 2 ^ 32 →
    s.serialNum = s.numbers.length ∧ s.numbers.Perm (List.range' 1 s.numbers.length)

lemma Counted.step (h : s.Counted) (hstep : Step s a s') : s'.Counted := by
  intro hlt
  rcases hstep.numbers with ⟨hperm, hserial⟩ | ⟨hperm, hserial⟩
  · rw [hperm.length_eq] at hlt ⊢
    exact ⟨hserial.trans (h hlt).1, hperm.trans (h hlt).2⟩
  · have hlen := hperm.length_eq
    rw [List.length_cons] at hlen
    rw [hlen] at hlt ⊢
    obtain ⟨hcount, hall⟩ := h (by omega)
    have hnext : s.nextSerialNum = s.numbers.length + 1 := by
      rw [nextSerialNum, hcount, Nat.mod_eq_of_lt hlt]
    refine ⟨hserial.trans hnext, hperm.trans ?_⟩
    rw [hnext, List.range'_1_concat, Nat.add_comm]
    exact (hall.cons _).trans (List.perm_append_singleton _ _).symm

/-- However the threads take turns: as long as they number fewer than `2 ^ 32` messages, the
requests, heartbeats and alarm reports, sent or about to be sent, have the numbers from one up, one
message each. -/
theorem serial_numbers_perm {l : List Act} (h : Run Step init l s)
    (hlt : s.numbers.length < 2 ^ 32) :
    s.numbers.Perm (List.range' 1 s.numbers.length) :=
  (h.invariant (fun _ _ _ hs hstep => Counted.step hs hstep) (fun _ => ⟨rfl, .refl _⟩) hlt).2

theorem serial_numbers_perm_established :
    ∃ s : Session, s.numbers.Perm (List.range' 1 s.numbers.length) ∧ s.numbers = [3, 2, 1] := by
  obtain ⟨s, hs, hnumbers⟩ : ∃ s, firstHeartbeats.foldlM next init = some s ∧
      s.numbers = [3, 2, 1] := ⟨_, rfl, by decide⟩
  refine ⟨s, serial_numbers_perm (.of_foldlM (fun _ _ _ h => h) hs) ?_, hnumbers⟩
  rw [hnumbers]
  decide

end Session

end AntennaMgmt.Main
