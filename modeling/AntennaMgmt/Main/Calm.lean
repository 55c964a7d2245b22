import AntennaMgmt.Main.Outcome

/-!
# What keeps the parts of a channel together

Three variables say that there is a channel: the flag of the main program, the gate of the cell
configuration, and the flag of the heartbeats.  Each thread changes them one after another, and
nothing keeps the threads apart.  They agree as long as no channel setup configuration is handled
while the main loop gives the channel up or a new connection is not yet announced, and every
configuration is handled to its end.
-/

namespace AntennaMgmt.Main

open AntennaMgmt.Lib Heartbeat

/-- How many of the three variables the receive thread has cleared on its way out. -/
def RecvPc.cleared : RecvPc → ℕ
  | .closedStop => 1
  | .closedNotify => 2
  | _ => 0

/-- How many of the three variables the main loop has cleared. -/
def MainPc.cleared : MainPc → ℕ
  | .lostStop => 1
  | .lostNotify => 2
  | _ => 0

namespace Session

variable {s s' : Session} {a : Act}

/-- The main loop is giving the channel up. -/
def Losing (s : Session) : Prop :=
  s.main = .lostChannel ∨ s.main = .lostStop ∨ s.main = .lostNotify

/-- The receive thread is handling a channel setup configuration. -/
def SettingUp (s : Session) : Prop :=
  (∃ handled, s.recv = .setupNotify handled) ∨ ∃ handled, s.recv = .setupHandle handled

instance (s : Session) : Decidable s.Losing := inferInstanceAs (Decidable (_ ∨ _))

instance (s : Session) : Decidable s.SettingUp :=
  decidable_of_iff ((s.recv = .setupNotify true ∨ s.recv = .setupNotify false) ∨
      (s.recv = .setupHandle true ∨ s.recv = .setupHandle false)) (by
    simp [SettingUp, or_comm])

/-- The step does not let the setting up of a channel overlap with the giving up of one, or with the
announcement of a new connection. -/
def Calm (s : Session) : Act → Prop
  | .receive (.setupConfig handled) _ => handled = true ∧ ¬ s.Losing ∧ s.conn ≠ .connected
  | .main now => s.main = .checkTimeout → (heartbeatCheckTimeout s.heartbeat now).2 = true →
      ¬ s.SettingUp
  | _ => True

instance (s : Session) (a : Act) : Decidable (s.Calm a) := by
  unfold Calm
  split <;> infer_instance

/-- The flag of the main program, the gate, and the flag of the heartbeats agree. -/
def Agree (s : Session) : Prop :=
  s.bbuLinkOk = s.channelEstablished ∧ s.heartbeat.heartbeatEnabled = s.channelEstablished

/-- There is no channel, and all agree. -/
def Down (s : Session) : Prop :=
  s.channelEstablished = false ∧ s.bbuLinkOk = false ∧ s.heartbeat.heartbeatEnabled = false

/-- What is left to be cleared when `n` of the variables were. -/
def ClearedUpTo (s : Session) : ℕ → Prop
  | 0 => s.Agree
  | 1 => s.channelEstablished = false ∧ s.bbuLinkOk = s.heartbeat.heartbeatEnabled
  | _ => s.channelEstablished = false ∧ s.heartbeat.heartbeatEnabled = false

/-- What holds between the steps of calm runs. -/
structure Consistent (s : Session) : Prop where
  setup : s.SettingUp → s.channelEstablished = true ∧ ¬ s.Losing ∧ s.conn ≠ .connected
  handled : s.recv ≠ .setupNotify false ∧ s.recv ≠ .setupHandle false
  notified : s.recv = .setupHandle true → s.bbuLinkOk = true
  cleared : ¬ s.SettingUp → s.ClearedUpTo (max s.recv.cleared s.main.cleared)
  down : s.recv = .none ∨ s.recv = .exited ∨ s.conn = .connected → s.Down

lemma Down.clearedUpTo (h : s.Down) (n : ℕ) : s.ClearedUpTo n := by
  obtain ⟨hest, hlink, hbeat⟩ := h
  match n with
  | 0 => exact ⟨hlink.trans hest.symm, hbeat.trans hest.symm⟩
  | 1 => exact ⟨hest, hlink.trans hbeat.symm⟩
  | _ + 2 => exact ⟨hest, hbeat⟩

/-- A state in which no channel is being set up. -/
lemma consistent_of_not_settingUp (hup : ¬ s.SettingUp)
    (hcleared : s.ClearedUpTo (max s.recv.cleared s.main.cleared))
    (hdown : s.recv = .none ∨ s.recv = .exited ∨ s.conn = .connected → s.Down) :
    s.Consistent where
  setup hs := absurd hs hup
  handled := ⟨fun hrecv => hup (.inl ⟨_, hrecv⟩), fun hrecv => hup (.inr ⟨_, hrecv⟩)⟩
  notified hrecv := absurd (.inr ⟨_, hrecv⟩) hup
  cleared _ := hcleared
  down := hdown

/-- A state without a channel in which none is being set up. -/
lemma Down.consistent (h : s.Down) (hup : ¬ s.SettingUp) : s.Consistent :=
  consistent_of_not_settingUp hup (h.clearedUpTo _) fun _ => h

/-- Steps that do not touch the three variables. -/
lemma Consistent.of_same (h : s.Consistent) (hest : s'.channelEstablished = s.channelEstablished)
    (hlink : s'.bbuLinkOk = s.bbuLinkOk)
    (hbeat : s'.heartbeat.heartbeatEnabled = s.heartbeat.heartbeatEnabled)
    (hrecv : s'.recv = s.recv) (hconn : s'.conn = .connected → s.conn = .connected)
    (hmain : s'.main.cleared = s.main.cleared)
    (hlosing : s'.Losing → s.Losing ∨ ¬ s.SettingUp) : s'.Consistent := by
  have hsame : s'.SettingUp ↔ s.SettingUp := by rw [SettingUp, SettingUp, hrecv]
  refine ⟨fun hup => ?_, by rw [hrecv]; exact h.handled, ?_, fun hup => ?_, fun hdown => ?_⟩
  · obtain ⟨hon, hnot, hnew⟩ := h.setup (hsame.1 hup)
    refine ⟨hest.trans hon, fun hlose => ?_, fun hc => hnew (hconn hc)⟩
    exact (hlosing hlose).elim hnot fun hno => hno (hsame.1 hup)
  · rw [hrecv, hlink]
    exact h.notified
  · have hcleared := h.cleared fun hs => hup (hsame.2 hs)
    rw [hrecv, hmain]
    generalize max s.recv.cleared s.main.cleared = n at hcleared ⊢
    match n with
    | 0 => exact ⟨hlink.trans (hcleared.1.trans hest.symm),
        hbeat.trans (hcleared.2.trans hest.symm)⟩
    | 1 => exact ⟨hest.trans hcleared.1, hlink.trans (hcleared.2.trans hbeat.symm)⟩
    | _ + 2 => exact ⟨hest.trans hcleared.1, hbeat.trans hcleared.2⟩
  · rw [hrecv] at hdown
    obtain ⟨hoff, hshut, hstop⟩ := h.down (hdown.imp_right (Or.imp_right hconn))
    exact ⟨hest.trans hoff, hlink.trans hshut, hbeat.trans hstop⟩

/-! ### The variables are cleared -/

lemma ClearedUpTo.unestablished {n : ℕ} (h : s.ClearedUpTo n) (hn : 1 ≤ n) :
    s.channelEstablished = false := by
  match n with
  | 1 => exact h.1
  | _ + 2 => exact h.1

/-- The first variable is cleared. -/
lemma ClearedUpTo.first {n : ℕ} (h : s.ClearedUpTo n) :
    ClearedUpTo { s with channelEstablished := false } (max n 1) := by
  match n with
  | 0 => exact ⟨rfl, h.1.trans h.2.symm⟩
  | 1 => exact ⟨rfl, h.2⟩
  | n + 2 =>
    rw [max_eq_left (by omega)]
    exact ⟨rfl, h.2⟩

/-- The second one, after the first. -/
lemma ClearedUpTo.second {n : ℕ} (h : s.ClearedUpTo (max n 1)) :
    ClearedUpTo { s with heartbeat := heartbeatStop s.heartbeat } (max n 2) := by
  obtain ⟨k, hk⟩ : ∃ k, max n 2 = k + 2 := ⟨max n 2 - 2, by omega⟩
  rw [hk]
  exact ⟨h.unestablished (le_max_right n 1), rfl⟩

/-- The third one, after the others. -/
lemma ClearedUpTo.third {n : ℕ} (h : s.ClearedUpTo (max n 2)) :
    Down { s with bbuLinkOk := false } := by
  obtain ⟨k, hk⟩ : ∃ k, max n 2 = k + 2 := ⟨max n 2 - 2, by omega⟩
  rw [hk] at h
  exact ⟨h.1, rfl, h.2⟩

lemma cleared_of_not_losing (h : ¬ s.Losing) : s.main.cleared = 0 := by
  unfold MainPc.cleared
  split
  · next hm => exact absurd (.inr (.inl hm)) h
  · next hm => exact absurd (.inr (.inr hm)) h
  · rfl

lemma Consistent.not_settingUp (h : s.Consistent) (hlosing : s.Losing) : ¬ s.SettingUp :=
  fun hup => (h.setup hup).2.1 hlosing

lemma enabled_check_eq (m : Manager) (now : ℤ) :
    (heartbeatCheckTimeout m now).1.heartbeatEnabled = m.heartbeatEnabled := by
  cases hon : m.heartbeatEnabled with
  | true => exact enabled_check hon now
  | false => rw [heartbeatCheckTimeout, if_pos hon, hon]

lemma Consistent.mainStep (h : s.Consistent) {now : ℤ} (hcalm : s.Calm (.main now)) :
    (s.mainStep now).Consistent := by
  unfold Session.mainStep
  cases hmain : s.main with
  | lostChannel =>
    have hup := h.not_settingUp (.inl hmain)
    have hcleared := h.cleared hup
    rw [hmain] at hcleared
    have hfirst := ClearedUpTo.first hcleared
    rw [max_assoc] at hfirst
    exact consistent_of_not_settingUp hup hfirst fun hd => ⟨rfl, (h.down hd).2⟩
  | lostStop =>
    have hup := h.not_settingUp (.inr (.inl hmain))
    have hcleared := h.cleared hup
    rw [hmain] at hcleared
    exact consistent_of_not_settingUp hup (ClearedUpTo.second hcleared)
      fun hd => ⟨(h.down hd).1, (h.down hd).2.1, rfl⟩
  | lostNotify =>
    have hup := h.not_settingUp (.inr (.inr hmain))
    have hcleared := h.cleared hup
    rw [hmain] at hcleared
    exact Down.consistent (ClearedUpTo.third hcleared) hup
  | checkTimeout =>
    refine h.of_same rfl rfl (enabled_check_eq _ now) rfl id ?_ fun hlose => ?_
    · dsimp only
      rw [hmain]
      split_ifs <;> rfl
    · cases hout : (heartbeatCheckTimeout s.heartbeat now).2 with
      | true => exact .inr (hcalm hmain hout)
      | false => simp [Losing, hout] at hlose
  | setupTest | setupState | beatTest | beatState | beatEnabled =>
    dsimp only
    split_ifs <;> exact h.of_same rfl rfl rfl rfl id (by rw [hmain]; rfl) (by simp [Losing])
  | _ => exact h.of_same rfl rfl rfl rfl id (by rw [hmain]; rfl) (by simp [Losing])

/-! ### The other threads -/

lemma Consistent.otherStep (h : s.Consistent) (hcalm : s.Calm a) (hstep : OtherStep s a s') :
    s'.Consistent := by
  cases hstep with
  | setupConfig handled now hrecv =>
    obtain ⟨rfl, hnot, hconn⟩ := hcalm
    refine ⟨fun _ => ⟨rfl, hnot, hconn⟩, ⟨nofun, nofun⟩, nofun, fun hup => ?_, ?_⟩
    · exact absurd (.inl ⟨_, rfl⟩) hup
    · rintro (hnone | hexit | hc)
      · cases hnone
      · cases hexit
      · exact absurd hc hconn
  | bbuHeartbeat now hrecv =>
    refine h.of_same rfl rfl ?_ rfl id rfl .inl
    dsimp only [heartbeatHandleBbu]
    split_ifs <;> rfl
  | setupNotify handled now hrecv =>
    have hset := h.setup (.inl ⟨_, hrecv⟩)
    cases handled with
    | false => exact absurd hrecv h.handled.1
    | true =>
      refine ⟨fun _ => hset, ⟨nofun, nofun⟩, fun _ => rfl, fun hup => ?_, ?_⟩
      · exact absurd (.inr ⟨_, rfl⟩) hup
      · rintro (hnone | hexit | hc)
        · cases hnone
        · cases hexit
        · exact absurd hc hset.2.2
  | handled now hrecv =>
    obtain ⟨hest, hnot, hconn⟩ := h.setup (.inr ⟨_, hrecv⟩)
    have hlink := h.notified hrecv
    have hmain := cleared_of_not_losing hnot
    refine consistent_of_not_settingUp (by simp [SettingUp]) ?_ ?_
    · rw [hmain]
      exact ⟨hlink.trans hest.symm, hest.symm⟩
    · rintro (hnone | hexit | hc)
      · cases hnone
      · cases hexit
      · exact absurd hc hconn
  | notHandled now hrecv => exact absurd hrecv h.handled.2
  | close hrecv =>
    have hcleared := h.cleared (by simp [SettingUp, hrecv])
    rw [hrecv] at hcleared
    refine consistent_of_not_settingUp (by simp [SettingUp]) hcleared ?_
    rintro (hnone | hexit | hc)
    · cases hnone
    · cases hexit
    · exact h.down (.inr (.inr hc))
  | closedChannel now hrecv =>
    have hcleared := h.cleared (by simp [SettingUp, hrecv])
    rw [hrecv, max_comm] at hcleared
    have hfirst := ClearedUpTo.first hcleared
    rw [max_assoc, max_comm] at hfirst
    refine consistent_of_not_settingUp (by simp [SettingUp]) hfirst ?_
    rintro (hnone | hexit | hc)
    · cases hnone
    · cases hexit
    · exact ⟨rfl, (h.down (.inr (.inr hc))).2⟩
  | closedStop now hrecv =>
    have hcleared := h.cleared (by simp [SettingUp, hrecv])
    rw [hrecv, max_comm] at hcleared
    have hsecond := ClearedUpTo.second hcleared
    rw [max_comm] at hsecond
    refine consistent_of_not_settingUp (by simp [SettingUp]) hsecond ?_
    rintro (hnone | hexit | hc)
    · cases hnone
    · cases hexit
    · obtain ⟨hest, hlink, -⟩ := h.down (.inr (.inr hc))
      exact ⟨hest, hlink, rfl⟩
  | closedNotify now hrecv =>
    have hcleared := h.cleared (by simp [SettingUp, hrecv])
    rw [hrecv, max_comm] at hcleared
    exact Down.consistent (ClearedUpTo.third hcleared) (by simp [SettingUp])
  | connect hconn hconnected => exact h.of_same rfl rfl rfl rfl nofun rfl .inl
  | created hconn hrecv =>
    have hdown := h.down (hrecv.imp_right .inl)
    exact Down.consistent hdown (by simp [SettingUp])
  | notCreated hconn hrecv =>
    have hdown := h.down (hrecv.imp_right .inl)
    exact Down.consistent hdown (by simp [SettingUp])
  | connected created hconn =>
    have hdown := h.down (.inr (.inr hconn))
    exact Down.consistent ⟨rfl, hdown.2⟩ fun hup => (h.setup hup).2.2 hconn
  | connSerial created hconn => exact h.of_same rfl rfl rfl rfl nofun rfl .inl
  | connSend created n hconn => exact h.of_same rfl rfl rfl rfl nofun rfl .inl
  | alarmSerial => exact h.of_same rfl rfl rfl rfl id rfl .inl
  | alarmSend i n hserial => exact h.of_same rfl rfl rfl rfl id rfl .inl

lemma Consistent.step (h : s.Consistent) (hstep : restrict Step Calm s a s') :
    s'.Consistent := by
  obtain ⟨hstep, hcalm⟩ := hstep
  rcases hstep.cases with ⟨now, rfl, rfl⟩ | hother
  · exact h.mainStep hcalm
  · exact h.otherStep hcalm hother

lemma consistent_init : init.Consistent :=
  Down.consistent ⟨rfl, rfl, rfl⟩ (by simp [SettingUp, init])

/-- In every calm run the flag of the main program, the gate of the cell configuration and the flag
of the heartbeats agree whenever no thread is in the middle of changing them, so that the main loop
is never mute between two rounds. -/
theorem calm_channel_agrees {l : List Act} (h : Run (restrict Step Calm) init l s)
    (hlosing : ¬ s.Losing) (hup : ¬ s.SettingUp) (hrecv : s.recv.cleared = 0) :
    s.Agree ∧ ¬ s.Mute := by
  have hconsistent := h.invariant (fun _ _ _ hs hstep => Consistent.step hs hstep) consistent_init
  have hagree := hconsistent.cleared hup
  rw [hrecv, cleared_of_not_losing hlosing] at hagree
  refine ⟨hagree, fun hmute => ?_⟩
  have hon := hagree.2.symm.trans hmute.heartbeatEnabled
  rw [hmute.channelEstablished] at hon
  cases hon

theorem calm_channel_agrees_established : ∃ s : Session, s.Agree ∧ s.channelEstablished = true := by
  obtain ⟨s, hs, hlosing, hup, hcleared, hest⟩ :
      ∃ s : Session, execute next Calm init firstHeartbeats = some s ∧ ¬ s.Losing ∧
        ¬ s.SettingUp ∧ s.recv.cleared = 0 ∧ s.channelEstablished = true :=
    ⟨_, rfl, by decide⟩
  exact ⟨s, (calm_channel_agrees (.of_execute hs) hlosing hup hcleared).1, hest⟩

/-- The unit is silent for a minute, and its next configuration comes while the main loop gives the
channel up. -/
def overlapping : List Act :=
  establishing true ++
    ((List.range 20).flatMap fun i =>
      List.replicate (if i % 3 = 2 then 9 else 5) (.main (3 * (i + 1)))) ++
    [.main 60, .receive (.setupConfig true) 60, .recv 60, .recv 60, .main 60, .main 60]

/-- A configuration comes in on a new connection before the reconnect thread has announced it. -/
def unannounced : List Act :=
  [.connect, .conn true, .receive (.setupConfig true) 0, .recv 0, .recv 0, .conn true, .conn true,
    .conn true]

/-- Both conditions on the runs matter. -/
example : ∃ s : Session, Run Step init unannounced s ∧ s.main = .sleep ∧ s.recv = .waiting ∧
    s.conn = .loop ∧ ¬ s.Agree :=
  ⟨_, .of_foldlM (fun _ _ _ h => h) rfl, rfl, rfl, rfl, fun h => absurd h.1 (by decide)⟩

example : ∃ s : Session, Run Step init overlapping s ∧ s.main = .sleep ∧ s.recv = .waiting ∧
    s.Mute := by
  have hend : ∃ s ∈ overlapping.foldlM next init, s.main = .sleep ∧ s.recv = .waiting ∧
      s.connected = true ∧ s.channelEstablished = true ∧
        s.heartbeat.heartbeatEnabled = false := by decide +kernel
  obtain ⟨s, hs, hmain, hrecv, hconnected, hest, hoff⟩ := hend
  exact ⟨s, .of_foldlM (fun _ _ _ h => h) hs, hmain, hrecv, hconnected, hest, hoff⟩

end Session

end AntennaMgmt.Main
