import AntennaMgmt.Main.Pacing

/-!
# The rounds of the main loop

Between the steps of the other threads the main loop goes round by itself.  A unit that is heard
from often enough keeps the channel, one that falls silent loses it after a minute or so, and is
asked for a new one every five rounds from then on.  A channel whose heartbeats were never started
is neither used nor given up.
-/

namespace AntennaMgmt.Main

open AntennaMgmt.Lib Heartbeat

namespace Session

/-! ### A round -/

/-- The request that is sent when the timer has run out. -/
def requestIfDue (s : Session) : Session :=
  if 5 ≤ s.channelSetupTimer then
    { s.put (.setupRequest .reconnect) s.nextSerialNum with
      channelSetupTimer := 0
      serialNum := s.nextSerialNum }
  else s

/-- The request for a channel in a round. -/
def setupPart (s : Session) : Session :=
  if s.channelEstablished then { s with channelSetupTimer := 0 }
  else if s.connected then s.requestIfDue
  else { s with channelSetupTimer := 0 }

/-- `heartbeat_send_paau`. -/
def heartbeatSendPaau (s : Session) : Session :=
  if s.heartbeat.heartbeatEnabled then
    { s.put .heartbeat s.nextSerialNum with
      serialNum := s.nextSerialNum
      paauHeartbeatCount := (s.paauHeartbeatCount + 1) % 2 ^ 32 }
  else s

/-- The channel is given up. -/
def giveUp (s : Session) : Session :=
  { s with
    channelEstablished := false
    heartbeat := heartbeatStop s.heartbeat
    bbuLinkOk := false }

/-- The check of the heartbeats of the unit, and what follows a timeout. -/
def checkPart (s : Session) (now : ℤ) : Session :=
  let s' := { s with heartbeat := (heartbeatCheckTimeout s.heartbeat now).1 }
  if (heartbeatCheckTimeout s.heartbeat now).2 then s'.giveUp else s'

/-- The heartbeat that is sent when the timer has run out. -/
def beatIfDue (s : Session) : Session :=
  if heartbeatIntervalSec ≤ s.heartbeatTimer then heartbeatSendPaau { s with heartbeatTimer := 0 }
  else s

/-- The heartbeats in a round. -/
def beatPart (s : Session) (now : ℤ) : Session :=
  if s.channelEstablished ∧ s.connected then s.beatIfDue.checkPart now
  else { s with heartbeatTimer := 0 }

/-- The timers are raised. -/
def wake (s : Session) : Session :=
  { s with
    round := s.round + 1
    channelSetupTimer := s.channelSetupTimer + 1
    heartbeatTimer := s.heartbeatTimer + 1 }

/-- A round of the main loop that no other thread disturbs. -/
def mainRound (s : Session) (now : ℤ) : Session := s.wake.setupPart.beatPart now

variable {s s' : Session} {a : Act}

/-- Steps of the main loop alone. -/
def MainRun (now : ℤ) (s s' : Session) : Prop := ∃ k, Run Step s (List.replicate k (.main now)) s'

lemma MainRun.refl (now : ℤ) (s : Session) : MainRun now s s := ⟨0, .nil s⟩

lemma MainRun.step {now : ℤ} {t : Session} (h : s.mainStep now = t) (h' : MainRun now t s') :
    MainRun now s s' := by
  obtain ⟨k, hrun⟩ := h'
  exact ⟨k + 1, .cons (congrArg some h) hrun⟩

lemma MainRun.trans {now : ℤ} {t : Session} (h : MainRun now s s') (h' : MainRun now s' t) :
    MainRun now s t := by
  obtain ⟨k, hk⟩ := h
  obtain ⟨j, hj⟩ := h'
  exact ⟨k + j, List.replicate_add k j (Act.main now) ▸ hk.append hj⟩

lemma mainRun_setupPart (s : Session) (now : ℤ) :
    MainRun now { s with main := .setupTest } { s.setupPart with main := .beatTest } := by
  unfold setupPart requestIfDue
  split_ifs with hest hconnected hdue
  · exact .step (if_pos hest) (.refl now _)
  · refine .step (if_neg hest) (.step ((if_pos hconnected).trans (if_pos hdue)) ?_)
    exact .step rfl (.step rfl (.refl now _))
  · exact .step (if_neg hest) (.step ((if_pos hconnected).trans (if_neg hdue)) (.refl now _))
  · exact .step (if_neg hest) (.step (if_neg hconnected) (.refl now _))

lemma mainRun_checkPart (s : Session) (now : ℤ) :
    MainRun now { s with main := .checkTimeout } { s.checkPart now with main := .sleep } := by
  unfold checkPart
  dsimp only
  split_ifs with hout
  · have hlost : mainStep { s with main := .checkTimeout } now =
        { s with
          heartbeat := (heartbeatCheckTimeout s.heartbeat now).1
          main := .lostChannel } := by
      simp only [mainStep, hout, if_true]
    exact .step hlost (.step rfl (.step rfl (.step rfl (.refl now _))))
  · have hkept : mainStep { s with main := .checkTimeout } now =
        { s with heartbeat := (heartbeatCheckTimeout s.heartbeat now).1, main := .sleep } := by
      simp only [mainStep, hout, Bool.false_eq_true, if_false]
    exact .step hkept (.refl now _)

lemma mainRun_heartbeatSendPaau (s : Session) (now : ℤ) :
    MainRun now { s with main := .beatEnabled }
      { s.heartbeatSendPaau with main := .checkTimeout } := by
  unfold heartbeatSendPaau
  split_ifs with hon
  · exact .step (if_pos hon) (.step rfl (.step rfl (.step rfl (.refl now _))))
  · exact .step (if_neg hon) (.refl now _)

lemma mainRun_beatPart (s : Session) (now : ℤ) :
    MainRun now { s with main := .beatTest } { s.beatPart now with main := .sleep } := by
  unfold beatPart
  by_cases hest : s.channelEstablished = true
  · refine .step (if_pos hest) ?_
    by_cases hconnected : s.connected = true
    · rw [if_pos ⟨hest, hconnected⟩, beatIfDue]
      split_ifs with hdue
      · refine .step ((if_pos hconnected).trans (if_pos hdue)) ?_
        exact (mainRun_heartbeatSendPaau { s with heartbeatTimer := 0 } now).trans
          (mainRun_checkPart _ now)
      · exact .step ((if_pos hconnected).trans (if_neg hdue)) (mainRun_checkPart s now)
    · rw [if_neg fun h => hconnected h.2]
      exact .step (if_neg hconnected) (.refl now _)
  · rw [if_neg fun h => hest h.1]
    exact .step (if_neg hest) (.refl now _)

/-! ### Where the main loop stands after a round -/

/-- What a round leaves as it is. -/
structure SameThreads (s s' : Session) : Prop where
  connected : s'.connected = s.connected
  main : s'.main = s.main
  recv : s'.recv = s.recv
  conn : s'.conn = s.conn

lemma SameThreads.trans {t : Session} (h : s.SameThreads s') (h' : s'.SameThreads t) :
    s.SameThreads t :=
  ⟨h'.connected.trans h.connected, h'.main.trans h.main, h'.recv.trans h.recv,
    h'.conn.trans h.conn⟩

lemma sameThreads_setupPart (s : Session) : s.SameThreads s.setupPart := by
  unfold setupPart requestIfDue
  split_ifs <;> exact ⟨rfl, rfl, rfl, rfl⟩

lemma sameThreads_beatIfDue (s : Session) : s.SameThreads s.beatIfDue := by
  unfold beatIfDue heartbeatSendPaau
  split_ifs <;> exact ⟨rfl, rfl, rfl, rfl⟩

lemma sameThreads_checkPart (s : Session) (now : ℤ) : s.SameThreads (s.checkPart now) := by
  unfold checkPart
  dsimp only
  split_ifs <;> exact ⟨rfl, rfl, rfl, rfl⟩

lemma sameThreads_beatPart (s : Session) (now : ℤ) : s.SameThreads (s.beatPart now) := by
  unfold beatPart
  split_ifs
  · exact (sameThreads_beatIfDue s).trans (sameThreads_checkPart _ now)
  · exact ⟨rfl, rfl, rfl, rfl⟩

lemma sameThreads_mainRound (s : Session) (now : ℤ) : s.SameThreads (s.mainRound now) :=
  have hwake : s.SameThreads s.wake := ⟨rfl, rfl, rfl, rfl⟩
  hwake.trans ((sameThreads_setupPart s.wake).trans (sameThreads_beatPart _ now))

/-- What the loop does when it is left alone is a round. -/
lemma mainRun_mainRound (h : s.main = .sleep) (now : ℤ) : MainRun now s (s.mainRound now) := by
  have hwake : s.mainStep now = { s.wake with main := .setupTest } := by simp [mainStep, h, wake]
  have hend : s.mainRound now = { s.mainRound now with main := .sleep } := by
    rw [← h, ← (sameThreads_mainRound s now).main]
  rw [hend]
  exact .step hwake ((mainRun_setupPart s.wake now).trans (mainRun_beatPart _ now))

/-! ### What a round does to the channel -/

/-- Without a channel the loop asks for one. -/
lemma mainRound_unestablished (hconnected : s.connected = true)
    (hest : s.channelEstablished = false) (now : ℤ) :
    s.mainRound now = { s.wake.requestIfDue with heartbeatTimer := 0 } := by
  have hsetup : s.wake.setupPart = s.wake.requestIfDue := by
    simp [setupPart, wake, hest, hconnected]
  have hstill : s.wake.requestIfDue.channelEstablished = false := by
    unfold requestIfDue
    split_ifs <;> exact hest
  rw [mainRound, hsetup, beatPart, if_neg (by simp [hstill])]

/-- With a channel the loop sends its heartbeats and looks for those of the unit. -/
lemma mainRound_established (hconnected : s.connected = true)
    (hest : s.channelEstablished = true) (now : ℤ) :
    s.mainRound now = checkPart (beatIfDue { s.wake with channelSetupTimer := 0 }) now := by
  have hsetup : s.wake.setupPart = { s.wake with channelSetupTimer := 0 } :=
    if_pos hest
  rw [mainRound, hsetup, beatPart, if_pos ⟨hest, hconnected⟩]

/-- The number of messages of a kind. -/
def sentCount (s : Session) (kind : SentKind) : ℕ := (roundsOf kind s.sent).length

/-- What rounds without a channel do: requests go out once in five of them. -/
structure Asked (k : ℕ) (s s' : Session) : Prop where
  connected : s'.connected = true
  channelEstablished : s'.channelEstablished = false
  heartbeat : s'.heartbeat = s.heartbeat
  bbuLinkOk : s'.bbuLinkOk = s.bbuLinkOk
  timer_lt : s'.channelSetupTimer < 5
  requests : 5 * s'.sentCount (.setupRequest .reconnect) + s'.channelSetupTimer =
    5 * s.sentCount (.setupRequest .reconnect) + s.channelSetupTimer + k
  beats : s'.sentCount .heartbeat = s.sentCount .heartbeat

lemma asked_mainRound (hconnected : s.connected = true) (hest : s.channelEstablished = false)
    (htimer : s.channelSetupTimer < 5) (now : ℤ) : Asked 1 s (s.mainRound now) := by
  rw [mainRound_unestablished hconnected hest, requestIfDue]
  split_ifs with hdue
  · have hfour : s.channelSetupTimer = 4 := by
      simp only [wake] at hdue
      omega
    refine ⟨hconnected, hest, rfl, rfl, Nat.zero_lt_succ 4, ?_, ?_⟩
    · simp [sentCount, roundsOf, put, wake, hfour]
      omega
    · simp [sentCount, roundsOf, put, wake]
  · refine ⟨hconnected, hest, rfl, rfl, not_le.1 hdue, ?_, rfl⟩
    simp [sentCount, wake]
    omega

/-- What rounds with a channel do, whose heartbeats were started: a heartbeat goes out once in three
of them. -/
structure Beaten (k : ℕ) (s s' : Session) : Prop where
  connected : s'.connected = true
  timer_lt : s'.heartbeatTimer < 3
  setupTimer : s'.channelSetupTimer = 0
  beats : 3 * s'.sentCount .heartbeat + s'.heartbeatTimer =
    3 * s.sentCount .heartbeat + s.heartbeatTimer + k
  requests : s'.sentCount (.setupRequest .reconnect) = s.sentCount (.setupRequest .reconnect)

/-- The channel stands, and its heartbeats were started. -/
structure Standing (s : Session) : Prop where
  connected : s.connected = true
  channelEstablished : s.channelEstablished = true
  heartbeatEnabled : s.heartbeat.heartbeatEnabled = true

/-- The channel was given up. -/
structure GivenUp (s : Session) : Prop where
  connected : s.connected = true
  channelEstablished : s.channelEstablished = false
  heartbeatEnabled : s.heartbeat.heartbeatEnabled = false
  bbuLinkOk : s.bbuLinkOk = false

lemma Beaten.checkPart {k : ℕ} (h : Beaten k s s') (now : ℤ) : Beaten k s (s'.checkPart now) := by
  unfold Session.checkPart
  dsimp only
  split_ifs <;> exact ⟨h.connected, h.timer_lt, h.setupTimer, h.beats, h.requests⟩

lemma Standing.beaten_beatIfDue (h : s.Standing) (htimer : s.heartbeatTimer < 3) :
    Beaten 1 s (beatIfDue { s.wake with channelSetupTimer := 0 }) := by
  rw [beatIfDue]
  split_ifs with hdue
  · have htwo : s.heartbeatTimer = 2 := by
      simp only [wake, heartbeatIntervalSec] at hdue
      omega
    simp only [heartbeatSendPaau, wake, h.heartbeatEnabled, if_true]
    refine ⟨h.connected, Nat.zero_lt_succ 2, rfl, ?_, ?_⟩
    · simp [sentCount, roundsOf, put, htwo]
      omega
    · simp [sentCount, roundsOf, put]
  · refine ⟨h.connected, ?_, rfl, ?_, rfl⟩
    · simp only [wake, heartbeatIntervalSec] at hdue ⊢
      omega
    · simp [sentCount, wake]
      omega

/-- With the heartbeats started, a round sends one of them in its turn. -/
lemma Standing.beaten (h : s.Standing) (htimer : s.heartbeatTimer < 3) (now : ℤ) :
    Beaten 1 s (s.mainRound now) := by
  rw [mainRound_established h.connected h.channelEstablished]
  exact (h.beaten_beatIfDue htimer).checkPart now

/-- A heartbeat that is sent leaves the channel as it is. -/
lemma beatIfDue_keeps (s : Session) :
    s.beatIfDue.heartbeat = s.heartbeat ∧ s.beatIfDue.bbuLinkOk = s.bbuLinkOk ∧
      s.beatIfDue.channelEstablished = s.channelEstablished := by
  unfold beatIfDue heartbeatSendPaau
  split_ifs <;> exact ⟨rfl, rfl, rfl⟩

lemma enabled_check {m : Manager} (h : m.heartbeatEnabled = true) (now : ℤ) :
    (heartbeatCheckTimeout m now).1.heartbeatEnabled = true := by
  have hcase := checkCase m now
  generalize heartbeatCheckTimeout m now = r at hcase
  cases hcase with
  | disabled hoff => rw [h] at hoff; cases hoff
  | early => exact h
  | missed => rfl
  | timedOut => rfl

/-- A check in time leaves the channel. -/
lemma Standing.of_inTime (h : s.Standing) {now : ℤ}
    (hout : (heartbeatCheckTimeout s.heartbeat now).2 = false) :
    (s.mainRound now).Standing ∧
      (s.mainRound now).heartbeat = (heartbeatCheckTimeout s.heartbeat now).1 ∧
      (s.mainRound now).bbuLinkOk = s.bbuLinkOk := by
  have hconnected := (sameThreads_mainRound s now).connected
  rw [mainRound_established h.connected h.channelEstablished] at hconnected ⊢
  obtain ⟨hbeat, hlink, hest⟩ := beatIfDue_keeps { s.wake with channelSetupTimer := 0 }
  generalize beatIfDue { s.wake with channelSetupTimer := 0 } = t at *
  have hmanager : t.heartbeat = s.heartbeat := hbeat
  rw [checkPart, hmanager, hout] at hconnected ⊢
  exact ⟨⟨hconnected.trans h.connected, hest.trans h.channelEstablished,
    enabled_check h.heartbeatEnabled now⟩, rfl, hlink⟩

/-- A timeout ends it. -/
lemma Standing.of_timeout (h : s.Standing) {now : ℤ}
    (hout : (heartbeatCheckTimeout s.heartbeat now).2 = true) :
    (s.mainRound now).GivenUp ∧ (s.mainRound now).channelSetupTimer = 0 := by
  have hconnected := (sameThreads_mainRound s now).connected
  rw [mainRound_established h.connected h.channelEstablished] at hconnected ⊢
  obtain ⟨hbeat, -, -⟩ := beatIfDue_keeps { s.wake with channelSetupTimer := 0 }
  have htimer : (beatIfDue { s.wake with channelSetupTimer := 0 }).channelSetupTimer = 0 := by
    unfold beatIfDue heartbeatSendPaau
    split_ifs <;> rfl
  generalize beatIfDue { s.wake with channelSetupTimer := 0 } = t at *
  have hmanager : t.heartbeat = s.heartbeat := hbeat
  rw [checkPart, hmanager, hout] at hconnected ⊢
  exact ⟨⟨hconnected.trans h.connected, rfl, rfl, rfl⟩, htimer⟩

end Session

end AntennaMgmt.Main
