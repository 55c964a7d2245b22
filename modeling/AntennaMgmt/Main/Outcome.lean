import AntennaMgmt.Main.Rounds

/-!
# What becomes of a channel

A unit whose heartbeats come less than a minute apart keeps its channel, and hears a heartbeat of
the antenna every three rounds.  A unit that falls silent is given up after a minute or a little
more, and is asked for a new channel every five rounds.  A channel whose heartbeats were never
started is in neither case: the main loop falls silent for good.
-/

namespace AntennaMgmt.Main

open AntennaMgmt.Lib Heartbeat

namespace Session

variable {s s' : Session} {a : Act}

/-! ### The timers between two rounds -/

/-- How far the timer of the requests may have run. -/
def setupBound : MainPc → ℕ
  | .setupTest | .setupState => 5
  | _ => 4

/-- How far the timer of the heartbeats may have run. -/
def beatBound : MainPc → ℕ
  | .setupTest | .setupState | .setupSerial | .setupSend _ | .beatTest | .beatState => 3
  | _ => 2

/-- The timers have not run too far. -/
structure TimersBounded (s : Session) : Prop where
  setup : s.channelSetupTimer ≤ setupBound s.main
  beat : s.heartbeatTimer ≤ beatBound s.main

lemma TimersBounded.mainStep (h : s.TimersBounded) (now : ℤ) : (s.mainStep now).TimersBounded := by
  obtain ⟨hsetup, hbeat⟩ := h
  unfold Session.mainStep
  cases hmain : s.main with
  | setupTest | setupState | beatTest | beatEnabled | checkTimeout =>
    simp only [hmain, setupBound, beatBound] at hsetup hbeat
    dsimp only
    split_ifs <;> constructor <;> simp only [setupBound, beatBound] <;> omega
  | beatState =>
    simp only [hmain, setupBound, beatBound, heartbeatIntervalSec] at hsetup hbeat ⊢
    split_ifs <;> constructor <;> simp only [setupBound, beatBound] <;> omega
  | _ =>
    simp only [hmain, setupBound, beatBound] at hsetup hbeat
    constructor <;> simp only [put, setupBound, beatBound] <;> omega

lemma TimersBounded.step (h : s.TimersBounded) (hstep : Step s a s') : s'.TimersBounded := by
  rcases hstep.cases with ⟨now, -, rfl⟩ | hother
  · exact h.mainStep now
  · cases hother <;> exact ⟨h.setup, h.beat⟩

lemma timersBounded_of_run {l : List Act} (h : Run Step init l s) : s.TimersBounded :=
  h.invariant (fun _ _ _ hs hstep => TimersBounded.step hs hstep) ⟨Nat.zero_le 4, Nat.zero_le 2⟩

lemma TimersBounded.asleep (h : s.TimersBounded) (hmain : s.main = .sleep) :
    s.channelSetupTimer < 5 ∧ s.heartbeatTimer < 3 := by
  have hsetup := h.setup
  have hbeat := h.beat
  rw [hmain] at hsetup hbeat
  exact ⟨Nat.lt_succ_of_le hsetup, Nat.lt_succ_of_le hbeat⟩

/-! ### Rounds one after another -/

/-- Rounds at the times given, which no other thread disturbs. -/
def rounds (s : Session) (ts : List ℤ) : Session := ts.foldl mainRound s

lemma rounds_append (s : Session) (ts us : List ℤ) :
    s.rounds (ts ++ us) = (s.rounds ts).rounds us := List.foldl_append

/-- Rounds are steps of the main loop. -/
lemma run_rounds (hmain : s.main = .sleep) (ts : List ℤ) : ∃ l, Run Step s l (s.rounds ts) := by
  induction ts generalizing s with
  | nil => exact ⟨[], .nil s⟩
  | cons t ts ih =>
    obtain ⟨k, hrun⟩ := mainRun_mainRound hmain t
    exact Run.exists_append ⟨_, hrun⟩ (ih ((sameThreads_mainRound s t).main.trans hmain))

lemma Asked.trans {k j : ℕ} {t : Session} (h : Asked k s s') (h' : Asked j s' t) :
    Asked (k + j) s t where
  connected := h'.connected
  channelEstablished := h'.channelEstablished
  heartbeat := h'.heartbeat.trans h.heartbeat
  bbuLinkOk := h'.bbuLinkOk.trans h.bbuLinkOk
  timer_lt := h'.timer_lt
  requests := by
    have hfirst := h.requests
    have hsecond := h'.requests
    omega
  beats := h'.beats.trans h.beats

lemma asked_rounds (hconnected : s.connected = true) (hest : s.channelEstablished = false)
    (htimer : s.channelSetupTimer < 5) (ts : List ℤ) : Asked ts.length s (s.rounds ts) := by
  induction ts generalizing s with
  | nil => exact ⟨hconnected, hest, rfl, rfl, htimer, rfl, rfl⟩
  | cons t ts ih =>
    have hfirst := asked_mainRound hconnected hest htimer t
    rw [List.length_cons, Nat.add_comm]
    exact hfirst.trans (ih hfirst.connected hfirst.channelEstablished hfirst.timer_lt)

/-! ### A unit that is heard from -/

/-- A round, or a heartbeat of the unit between two rounds. -/
inductive Event
  | round (now : ℤ)
  | bbuHeartbeat (now : ℤ)
deriving DecidableEq, Repr

/-- What an event does. -/
def after (s : Session) : Event → Session
  | .round now => s.mainRound now
  | .bbuHeartbeat now => s.receiveStep now .bbuHeartbeat

/-- Rounds and heartbeats are steps of the threads. -/
lemma run_after (hmain : s.main = .sleep) (hrecv : s.recv = .waiting) (es : List Event) :
    ∃ l, Run Step s l (es.foldl after s) := by
  induction es generalizing s with
  | nil => exact ⟨[], .nil s⟩
  | cons e es ih =>
    cases e with
    | round now =>
      obtain ⟨k, hrun⟩ := mainRun_mainRound hmain now
      have hsame := sameThreads_mainRound s now
      exact Run.exists_append ⟨_, hrun⟩ (ih (hsame.main.trans hmain) (hsame.recv.trans hrecv))
    | bbuHeartbeat now =>
      exact Run.exists_append ⟨[.receive .bbuHeartbeat now], .cons (if_pos hrecv) (.nil _)⟩
        (ih hmain hrecv)

/-- The times do not decrease, and no round comes a minute after the last sign of life, or later. -/
def Lively : ℤ → ℤ → List Event → Prop
  | _, _, [] => True
  | now, alive, .round t :: es => now ≤ t ∧ t < alive + 60 ∧ Lively t alive es
  | now, _, .bbuHeartbeat t :: es => now ≤ t ∧ Lively t t es

/-- The rounds among the events. -/
def roundCount (es : List Event) : ℕ :=
  es.countP fun | .round _ => true | .bbuHeartbeat _ => false

/-- The channel stands, and the heartbeats of the antenna keep up with the rounds. -/
structure Kept (k : ℕ) (s s' : Session) : Prop where
  standing : s'.Standing
  bbuLinkOk : s'.bbuLinkOk = s.bbuLinkOk
  timer_lt : s'.heartbeatTimer < 3
  beats : 3 * s'.sentCount .heartbeat + s'.heartbeatTimer =
    3 * s.sentCount .heartbeat + s.heartbeatTimer + k
  requests : s'.sentCount (.setupRequest .reconnect) = s.sentCount (.setupRequest .reconnect)

lemma Kept.trans {k j : ℕ} {t : Session} (h : Kept k s s') (h' : Kept j s' t) :
    Kept (k + j) s t where
  standing := h'.standing
  bbuLinkOk := h'.bbuLinkOk.trans h.bbuLinkOk
  timer_lt := h'.timer_lt
  beats := by
    have hfirst := h.beats
    have hsecond := h'.beats
    omega
  requests := h'.requests.trans h.requests

/-- Some timeout cannot be reported yet. -/
lemma inTime_of_reckons {m : Manager} {now alive t : ℤ} (h : Sys.Reckons ⟨m, now, alive⟩)
    (hlt : t < alive + 60) : (heartbeatCheckTimeout m t).2 = false := by
  cases hout : (heartbeatCheckTimeout m t).2 with
  | false => rfl
  | true =>
    obtain ⟨-, hlate⟩ := h.timeout (t := t) hout
    dsimp only at hlate
    omega

lemma kept_after {now alive : ℤ} (h : s.Standing) (htimer : s.heartbeatTimer < 3)
    (hreckons : Sys.Reckons ⟨s.heartbeat, now, alive⟩) {es : List Event}
    (hlively : Lively now alive es) : Kept (roundCount es) s (es.foldl after s) := by
  induction es generalizing s now alive with
  | nil => exact ⟨h, rfl, htimer, rfl, rfl⟩
  | cons e es ih =>
    cases e with
    | round t =>
      obtain ⟨hle, hlt, hrest⟩ := hlively
      obtain ⟨hstanding, hmanager, hlink⟩ := h.of_inTime (inTime_of_reckons hreckons hlt)
      have hbeaten := h.beaten htimer t
      have hfirst : Kept 1 s (s.mainRound t) :=
        ⟨hstanding, hlink, hbeaten.timer_lt, hbeaten.beats, hbeaten.requests⟩
      have hnext := hreckons.check hle
      dsimp only at hnext
      rw [← hmanager] at hnext
      have hcount : roundCount (.round t :: es) = 1 + roundCount es := by
        rw [roundCount, List.countP_cons_of_pos rfl, Nat.add_comm]
        rfl
      rw [hcount]
      exact hfirst.trans (ih hstanding hbeaten.timer_lt hnext hrest)
    | bbuHeartbeat t =>
      obtain ⟨hle, hrest⟩ := hlively
      have hmanager : heartbeatHandleBbu s.heartbeat true t = ⟨0, t, true⟩ := by
        simp [heartbeatHandleBbu, h.heartbeatEnabled]
      have hstanding : (s.after (.bbuHeartbeat t)).Standing :=
        ⟨h.connected, h.channelEstablished, congrArg Manager.heartbeatEnabled hmanager⟩
      have hfirst : Kept 0 s (s.after (.bbuHeartbeat t)) := ⟨hstanding, rfl, htimer, rfl, rfl⟩
      have hreckoned : Sys.Reckons ⟨(s.after (.bbuHeartbeat t)).heartbeat, t, t⟩ := by
        have hafter : (s.after (.bbuHeartbeat t)).heartbeat = ⟨0, t, true⟩ := hmanager
        rw [hafter]
        exact reckons_alive t
      have hall := hfirst.trans (ih hstanding htimer hreckoned hrest)
      rw [Nat.zero_add] at hall
      exact hall

/-- A unit that is heard from in less than a minute each time keeps its channel, whatever was
before, as long as the connection stays and nothing else comes in: in any number of rounds the link
stays open, no request is sent, and a heartbeat goes out in every third round. -/
theorem heard_unit_keeps_channel {l : List Act} {T : ℤ} {es : List Event}
    (h : Run Step init l s) (hmain : s.main = .sleep) (hstanding : s.Standing)
    (hstart : s.heartbeat = heartbeatStart T) (hlively : Lively T T es) :
    (es.foldl after s).Standing ∧ (es.foldl after s).bbuLinkOk = s.bbuLinkOk ∧
      (es.foldl after s).sentCount (.setupRequest .reconnect) =
        s.sentCount (.setupRequest .reconnect) ∧
      (es.foldl after s).sentCount .heartbeat =
        s.sentCount .heartbeat + (s.heartbeatTimer + roundCount es) / 3 := by
  have htimer := ((timersBounded_of_run h).asleep hmain).2
  have hreckons : Sys.Reckons ⟨s.heartbeat, T, T⟩ := by
    rw [hstart]
    exact reckons_alive T
  obtain ⟨hkept, hlink, hlt, hbeats, hrequests⟩ := kept_after hstanding htimer hreckons hlively
  exact ⟨hkept, hlink, hrequests, by omega⟩

/-- The state after the channel was set up. -/
lemma exists_established : ∃ s : Session, Run Step init (establishing true) s ∧
    s.main = .sleep ∧ s.Standing ∧ s.heartbeat = heartbeatStart 0 ∧ s.sentCount .heartbeat = 0 ∧
      s.heartbeatTimer = 0 := by
  obtain ⟨s, hs, hstate⟩ : ∃ s : Session, (establishing true).foldlM next init = some s ∧
      s.main = .sleep ∧ (s.connected = true ∧ s.channelEstablished = true) ∧
        s.heartbeat = heartbeatStart 0 ∧ s.sentCount .heartbeat = 0 ∧ s.heartbeatTimer = 0 :=
    ⟨_, rfl, by decide⟩
  obtain ⟨hmain, ⟨hconnected, hest⟩, hstart, hcount⟩ := hstate
  exact ⟨s, .of_foldlM (fun _ _ _ h => h) hs, hmain, ⟨hconnected, hest, by rw [hstart]; rfl⟩,
    hstart, hcount⟩

theorem heard_unit_keeps_channel_beats :
    ∃ s : Session, ([.round 1, .round 50, .bbuHeartbeat 50, .round 109].foldl after s).Standing ∧
      ([.round 1, .round 50, .bbuHeartbeat 50, .round 109].foldl after s).sentCount .heartbeat =
        1 := by
  obtain ⟨s, hrun, hmain, hstanding, hstart, hcount, htimer⟩ := exists_established
  have hlively : Lively 0 0 [.round 1, .round 50, .bbuHeartbeat 50, .round 109] := by
    simp [Lively]
  obtain ⟨hkept, -, -, hbeats⟩ :=
    heard_unit_keeps_channel hrun hmain hstanding hstart hlively
  exact ⟨s, hkept, by rw [hbeats, hcount, htimer]; decide⟩

/-! ### A unit that falls silent -/

/-- The checks of rounds at some times. -/
def checksAt (ts : List ℤ) : List (ℤ × Call) := ts.map fun t => (t, .checkTimeout)

lemma checkTimes_checksAt (ts : List ℤ) : checkTimes (checksAt ts) = ts := by
  induction ts with
  | nil => rfl
  | cons t ts ih => exact congrArg (t :: ·) ih

lemma exists_checked {m : Manager} {ts : List ℤ} {t : ℤ} (h : t ∈ ts) :
    ∃ c ∈ checked m (checksAt ts), c.time = t := by
  induction ts generalizing m with
  | nil => cases h
  | cons u ts ih =>
    rcases List.mem_cons.1 h with rfl | h
    · exact ⟨_, List.mem_cons_self, rfl⟩
    · obtain ⟨c, hc, htime⟩ := ih (m := (heartbeatCheckTimeout m u).1) h
      exact ⟨c, List.mem_cons_of_mem _ hc, htime⟩

lemma time_mem_of_checked {m : Manager} {ts : List ℤ} {c : Checked}
    (h : c ∈ checked m (checksAt ts)) : c.time ∈ ts := by
  induction ts generalizing m with
  | nil => cases h
  | cons u ts ih =>
    rcases List.mem_cons.1 h with rfl | h
    · exact List.mem_cons_self
    · exact List.mem_cons_of_mem _ (ih h)

/-- The first check that reports a timeout ends the channel. -/
lemma exists_givenUp {now T B : ℤ} (h : s.Standing)
    (hreckons : Sys.Reckons ⟨s.heartbeat, now, T⟩) {ts : List ℤ} {g : ℕ}
    (hspaced : Spaced g (now :: ts))
    (hout : ∃ c ∈ checked s.heartbeat (checksAt ts), c.timedOut = true ∧ c.time ≤ B) :
    ∃ pre t post, ts = pre ++ t :: post ∧ T + 60 ≤ t ∧ t ≤ B ∧ (s.rounds pre).Standing ∧
      (s.rounds (pre ++ [t])).GivenUp ∧ (s.rounds (pre ++ [t])).channelSetupTimer = 0 := by
  induction ts generalizing s now with
  | nil =>
    obtain ⟨c, hc, -⟩ := hout
    cases hc
  | cons t ts ih =>
    rw [Spaced, List.isChain_cons_cons] at hspaced
    obtain ⟨⟨hle, hgap⟩, hspaced⟩ := hspaced
    obtain ⟨c, hc, htimedOut, htime⟩ := hout
    cases hfirst : (heartbeatCheckTimeout s.heartbeat t).2 with
    | true =>
      obtain ⟨-, hlate⟩ := hreckons.timeout (t := t) hfirst
      have hsorted : t ≤ c.time := by
        rcases List.mem_cons.1 hc with rfl | hc
        · exact le_rfl
        · have hmono : List.IsChain (· ≤ ·) (t :: ts) := hspaced.imp fun _ _ h => h.1
          exact (List.isChain_iff_pairwise.1 hmono).rel_head_tail (time_mem_of_checked hc)
      obtain ⟨hgiven, htimer⟩ := h.of_timeout hfirst
      exact ⟨[], t, ts, rfl, by dsimp only at hlate; omega, hsorted.trans htime, h, hgiven, htimer⟩
    | false =>
      obtain ⟨hstanding, hmanager, -⟩ := h.of_inTime hfirst
      have hnext := hreckons.check hle
      dsimp only at hnext
      rw [← hmanager] at hnext
      have hrest : c ∈ checked (s.mainRound t).heartbeat (checksAt ts) := by
        rcases List.mem_cons.1 hc with rfl | hc
        · rw [hfirst] at htimedOut
          cases htimedOut
        · rw [hmanager]
          exact hc
      obtain ⟨pre, u, post, rfl, hsplit⟩ := ih hstanding hnext hspaced ⟨c, hrest, htimedOut, htime⟩
      exact ⟨t :: pre, u, post, rfl, hsplit⟩

/-- A unit that falls silent while the rounds are at most `g` seconds apart and the connection stays
is given up once, a minute after its last sign of life at the earliest and twenty times `3 + g`
seconds after it at the latest.  From then on, as long as nothing comes in, the link is closed and a
request goes out in every fifth round. -/
theorem silent_unit_given_up {T : ℤ} {g : ℕ} {ts : List ℤ} (hstanding : s.Standing)
    (hstart : s.heartbeat = heartbeatStart T) (hspaced : Spaced g (T :: ts))
    (hlong : ∃ t ∈ ts, T + 20 * (3 + g) ≤ t + g) :
    ∃ pre t post, ts = pre ++ t :: post ∧ T + 60 ≤ t ∧ t ≤ T + 20 * (3 + g) ∧
      (s.rounds pre).Standing ∧ (s.rounds (pre ++ [t])).GivenUp ∧ (s.rounds ts).GivenUp ∧
      (s.rounds ts).sentCount (.setupRequest .reconnect) =
        (s.rounds (pre ++ [t])).sentCount (.setupRequest .reconnect) + post.length / 5 ∧
      (s.rounds ts).sentCount .heartbeat = (s.rounds (pre ++ [t])).sentCount .heartbeat := by
  have hreckons : Sys.Reckons ⟨s.heartbeat, T, T⟩ := by
    rw [hstart]
    exact reckons_alive T
  obtain ⟨t, ht, hreach⟩ := hlong
  obtain ⟨c, hc, rfl⟩ := exists_checked (m := heartbeatStart T) ht
  have hsilent : ∀ a ∈ checksAt ts, a.2.Silent := by
    intro a ha
    obtain ⟨u, -, rfl⟩ := List.mem_map.1 ha
    trivial
  have hout := @exists_timedOut (checksAt ts) g 0 19 T T rfl le_rfl (by omega) hsilent
    (by rw [checkTimes_checksAt]; exact hspaced) ⟨c, hc, by push_cast; linarith⟩
  push_cast at hout
  obtain ⟨pre, t, post, rfl, hlow, hhigh, hpre, hgiven, htimer⟩ :=
    exists_givenUp (B := T + (19 + 1) * (3 + g)) hstanding hreckons hspaced
      (by rw [hstart]; exact hout)
  refine ⟨pre, t, post, rfl, hlow, by linarith, hpre, hgiven, ?_⟩
  have hasked := asked_rounds hgiven.connected hgiven.channelEstablished
    (by rw [htimer]; decide) post
  have hall : s.rounds (pre ++ t :: post) = (s.rounds (pre ++ [t])).rounds post := by
    rw [← rounds_append, List.append_assoc, List.singleton_append]
  rw [hall]
  have hrequests := hasked.requests
  have hlt := hasked.timer_lt
  rw [htimer] at hrequests
  exact ⟨⟨hasked.connected, hasked.channelEstablished,
    (congrArg Manager.heartbeatEnabled hasked.heartbeat).trans hgiven.heartbeatEnabled,
    hasked.bbuLinkOk.trans hgiven.bbuLinkOk⟩, by omega, hasked.beats⟩

theorem silent_unit_given_up_minute :
    ∃ s : Session, (s.rounds ((List.range 39).map fun k => 3 * (k + 1 : ℤ))).GivenUp := by
  obtain ⟨s, -, -, hstanding, hstart, -⟩ := exists_established
  have hspaced : Spaced 3 (0 :: (List.range 39).map fun k => 3 * (k + 1 : ℤ)) := by
    unfold Spaced
    decide
  obtain ⟨_, _, _, _, _, _, _, _, hgiven, _⟩ :=
    silent_unit_given_up hstanding hstart hspaced ⟨117, by decide, by decide⟩
  exact ⟨s, hgiven⟩

/-! ### A channel without heartbeats -/

/-- The channel stands, but its heartbeats were not started. -/
structure Mute (s : Session) : Prop where
  connected : s.connected = true
  channelEstablished : s.channelEstablished = true
  heartbeatEnabled : s.heartbeat.heartbeatEnabled = false

lemma Mute.mainRound (h : s.Mute) (now : ℤ) :
    (s.mainRound now).Mute ∧ (s.mainRound now).sent = s.sent := by
  have hconnected := (sameThreads_mainRound s now).connected
  rw [mainRound_established h.connected h.channelEstablished] at hconnected ⊢
  obtain ⟨hbeat, -, hest⟩ := beatIfDue_keeps { s.wake with channelSetupTimer := 0 }
  have hsent : (beatIfDue { s.wake with channelSetupTimer := 0 }).sent = s.sent := by
    simp only [beatIfDue, heartbeatSendPaau, wake, h.heartbeatEnabled, Bool.false_eq_true, if_false]
    split_ifs <;> rfl
  generalize beatIfDue { s.wake with channelSetupTimer := 0 } = t at *
  have hmanager : t.heartbeat = s.heartbeat := hbeat
  have hoff : heartbeatCheckTimeout s.heartbeat now = (s.heartbeat, false) :=
    if_pos h.heartbeatEnabled
  rw [checkPart, hmanager, hoff] at hconnected ⊢
  exact ⟨⟨hconnected.trans h.connected, hest.trans h.channelEstablished, h.heartbeatEnabled⟩, hsent⟩

lemma Mute.rounds (h : s.Mute) (ts : List ℤ) :
    (s.rounds ts).Mute ∧ (s.rounds ts).sent = s.sent := by
  induction ts generalizing s with
  | nil => exact ⟨h, rfl⟩
  | cons t ts ih =>
    obtain ⟨hmute, hsent⟩ := h.mainRound t
    obtain ⟨hrest, hsame⟩ := ih hmute
    exact ⟨hrest, hsame.trans hsent⟩

lemma sent_suffix_mainRound (s : Session) (now : ℤ) : s.sent <:+ (s.mainRound now).sent := by
  have hsetup : s.sent <:+ s.wake.setupPart.sent := by
    unfold setupPart requestIfDue
    split_ifs <;> first | exact List.suffix_rfl | exact List.suffix_cons _ _
  have hcheck : ∀ t : Session, (t.checkPart now).sent = t.sent := by
    intro t
    unfold checkPart
    dsimp only
    split_ifs <;> rfl
  refine hsetup.trans ?_
  rw [Session.mainRound, beatPart]
  split_ifs
  · rw [hcheck, beatIfDue, heartbeatSendPaau]
    split_ifs <;> first | exact List.suffix_rfl | exact List.suffix_cons _ _
  · exact List.suffix_rfl

/-- A connected loop that is not mute. -/
structure Talking (s : Session) : Prop where
  connected : s.connected = true
  setup_lt : s.channelSetupTimer < 5
  beat_lt : s.heartbeatTimer < 3
  enabled : s.channelEstablished = true → s.heartbeat.heartbeatEnabled = true

/-- In how many rounds at most the next message is due.  The rounds before the next heartbeat may
end in a timeout, and the first request after it takes five more. -/
def patience (s : Session) : ℕ :=
  if s.channelEstablished then if s.heartbeatTimer = 2 then 1 else 7 - s.heartbeatTimer
  else 5 - s.channelSetupTimer

lemma Talking.of_unestablished {k : ℕ} (h : Asked k s s') (hbeat : s'.heartbeatTimer < 3) :
    s'.Talking where
  connected := h.connected
  setup_lt := h.timer_lt
  beat_lt := hbeat
  enabled hest := by
    rw [h.channelEstablished] at hest
    cases hest

lemma patience_unestablished (hest : s.channelEstablished = false) :
    s.patience = 5 - s.channelSetupTimer := by
  rw [patience, hest]
  rfl

lemma patience_established (hest : s.channelEstablished = true) :
    s.patience = if s.heartbeatTimer = 2 then 1 else 7 - s.heartbeatTimer := by
  rw [patience, hest]
  rfl

/-- A round sends something, or brings it closer. -/
lemma Talking.mainRound (h : s.Talking) {now : ℤ} (hsent : (s.mainRound now).sent = s.sent) :
    (s.mainRound now).Talking ∧ (s.mainRound now).patience < s.patience := by
  have hcount : ∀ kind, (s.mainRound now).sentCount kind = s.sentCount kind := by
    intro kind
    rw [sentCount, sentCount, hsent]
  cases hest : s.channelEstablished with
  | false =>
    have hasked := asked_mainRound h.connected hest h.setup_lt now
    have hbeat : (s.mainRound now).heartbeatTimer = 0 := by
      rw [mainRound_unestablished h.connected hest]
    have hrequests := hasked.requests
    have hlt := hasked.timer_lt
    rw [hcount] at hrequests
    refine ⟨.of_unestablished hasked (by omega), ?_⟩
    rw [patience_unestablished hest, patience_unestablished hasked.channelEstablished]
    omega
  | true =>
    have hstanding : s.Standing := ⟨h.connected, hest, h.enabled hest⟩
    have hbeaten := hstanding.beaten h.beat_lt now
    have hbeats := hbeaten.beats
    have hlt := hbeaten.timer_lt
    rw [hcount] at hbeats
    rw [patience_established hest, if_neg (by omega)]
    cases hout : (heartbeatCheckTimeout s.heartbeat now).2 with
    | false =>
      obtain ⟨hstill, -, -⟩ := hstanding.of_inTime hout
      refine ⟨⟨hstill.connected, by rw [hbeaten.setupTimer]; decide, hlt,
        fun _ => hstill.heartbeatEnabled⟩, ?_⟩
      rw [patience_established hstill.channelEstablished]
      split_ifs <;> omega
    | true =>
      obtain ⟨hgiven, htimer⟩ := hstanding.of_timeout hout
      have hoff : (s.mainRound now).channelEstablished ≠ true := by
        rw [hgiven.channelEstablished]
        decide
      refine ⟨⟨hgiven.connected, by rw [htimer]; decide, hlt, fun hon => absurd hon hoff⟩, ?_⟩
      rw [patience_unestablished hgiven.channelEstablished]
      omega

lemma Talking.rounds (h : s.Talking) {ts : List ℤ} (hts : s.patience ≤ ts.length) :
    s.sent.length < (s.rounds ts).sent.length := by
  induction ts generalizing s with
  | nil =>
    have hpatience : 0 < s.patience := by
      have hsetup := h.setup_lt
      have hbeat := h.beat_lt
      unfold patience
      split_ifs <;> omega
    exact absurd hts (not_le.2 hpatience)
  | cons t ts ih =>
    have hmono : ∀ (u : Session) (us : List ℤ), u.sent.length ≤ (u.rounds us).sent.length := by
      intro u us
      induction us generalizing u with
      | nil => exact le_rfl
      | cons v us ih => exact (sent_suffix_mainRound u v).length_le.trans (ih _)
    rcases (sent_suffix_mainRound s t).length_le.lt_or_eq with hlt | heq
    · exact hlt.trans_le (hmono _ ts)
    · have hsent := ((sent_suffix_mainRound s t).eq_of_length heq).symm
      obtain ⟨htalking, hless⟩ := h.mainRound hsent
      have hrest := ih htalking (Nat.le_of_lt_succ (hless.trans_le hts))
      rw [hsent] at hrest
      exact hrest

/-- Between two rounds and left to itself, a connected loop falls silent for good when the channel
stands and its heartbeats were not started.  In every other case it sends something within seven
rounds. -/
theorem mute_iff_silent {l : List Act} (h : Run Step init l s) (hmain : s.main = .sleep)
    (hconnected : s.connected = true) :
    (s.Mute ↔ ∀ ts, (s.rounds ts).sent = s.sent) ∧
      (¬ s.Mute → ∀ ts : List ℤ, 7 ≤ ts.length → s.sent.length < (s.rounds ts).sent.length) := by
  have htalk : ¬ s.Mute → ∀ ts : List ℤ, 7 ≤ ts.length →
      s.sent.length < (s.rounds ts).sent.length := by
    intro hnot ts hts
    obtain ⟨hsetup, hbeat⟩ := (timersBounded_of_run h).asleep hmain
    refine Talking.rounds ⟨hconnected, hsetup, hbeat, fun hest => ?_⟩ (hts.trans' ?_)
    · cases hon : s.heartbeat.heartbeatEnabled with
      | true => rfl
      | false => exact absurd ⟨hconnected, hest, hon⟩ hnot
    · unfold patience
      split_ifs <;> omega
  refine ⟨⟨fun hmute ts => (hmute.rounds ts).2, fun hsilent => ?_⟩, htalk⟩
  by_contra hnot
  have hlt := htalk hnot (List.replicate 7 0) (by decide)
  rw [hsilent] at hlt
  exact lt_irrefl _ hlt

theorem mute_iff_silent_unhandled :
    ∃ s : Session, s.Mute ∧ ∀ ts, (s.rounds ts).sent = s.sent := by
  obtain ⟨s, hs, hmain, hconnected, hest, hoff⟩ :
      ∃ s : Session, (establishing false).foldlM next init = some s ∧ s.main = .sleep ∧
        s.connected = true ∧ s.channelEstablished = true ∧
          s.heartbeat.heartbeatEnabled = false := ⟨_, rfl, by decide⟩
  have hmute : s.Mute := ⟨hconnected, hest, hoff⟩
  exact ⟨s, hmute,
    (mute_iff_silent (.of_foldlM (fun _ _ _ h => h) hs) hmain hconnected).1.1 hmute⟩

end Session

end AntennaMgmt.Main
