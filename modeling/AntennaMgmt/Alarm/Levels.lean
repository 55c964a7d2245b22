import AntennaMgmt.Alarm.Periodic

/-!
# What the periodic check amounts to

The flags and the grace period make an alarm depend on all frames since the start.  Over every
sequence of frames it comes to this: an alarm is active when its condition holds in the last frame,
and that of an optical port when it holds in the last frame after the grace period.
-/

namespace AntennaMgmt.Alarm

open AntennaMgmt.Lib

/-- The frames among the calls, with the times of their checks. -/
def framesOf (l : List Input) : List (StatusData × Seconds) :=
  l.filterMap fun
    | .periodicCheck data now => some (data, now)
    | .setTcpStatus _ => none

/-- The end of the grace period, which the first frame starts. -/
def graceEnd (config : AlarmConfig) (frames : List (StatusData × Seconds)) : ℕ :=
  frames.head?.elim 0 (fun f => (f.2 : ℕ)) + config.linkGraceSec.toNat

/-- The frames whose optical ports count. -/
def afterGrace (config : AlarmConfig) (frames : List (StatusData × Seconds)) :
    List (StatusData × Seconds) :=
  frames.filter fun f => config.linkGraceSec = 0 ∨ graceEnd config frames ≤ f.2

/-- The number of optical ports that are monitored. -/
def AlarmConfig.ports (config : AlarmConfig) : ℕ := if config.opticalPortCount = 8 then 8 else 4

/-- The conditions of the alarms, with the last frame. -/
structure Levels (config : AlarmConfig) (frames : List (StatusData × Seconds)) (data : StatusData)
    (now : Seconds) (records : Records) : Prop where
  loUnlock : IsActive records (alarmCodeLoUnlock, 0) ↔ data.loLockStatus ≠ 0
  overTemperature : ∀ (p : ℕ) (hp : p < data.temps.length),
    IsActive records (alarmCodeOverTemperature, p) ↔
      config.overTempThresholdHigh < data.temps[p] ∨ data.temps[p] < config.overTempThresholdLow
  channelFaultExceed : IsActive records (alarmCodeChannelFaultExceed, 0) ↔
    config.channelFaultThreshold < data.channelFaultCount
  opticalSyncLoss : ∀ p < config.ports, IsActive records (alarmCodeOpticalSyncLoss, p) ↔
    ∃ f ∈ (afterGrace config frames).getLast?, f.1.linkSuccessFlag.toNat.testBit p = false
  inGrace : config.linkGraceSec ≠ 0 → (now : ℕ) < graceEnd config frames →
    ∀ p, ¬ IsActive records (alarmCodeOpticalSyncLoss, p)
  notMonitored : ∀ p, config.ports ≤ p → ¬ IsActive records (alarmCodeOpticalSyncLoss, p)

/-- The flags that a sequence of frames leads to. -/
def flagsAfter (config : AlarmConfig) (frames : List (StatusData × Seconds)) : Monitor → Bool
  | .loUnlock => frames.getLast?.any fun f => f.1.loLockStatus ≠ 0
  | .overTemperature probe =>
    frames.getLast?.any fun f => (f.1.temps[(probe : ℕ)]?).any config.overTemperature
  | .channelFaultExceed =>
    frames.getLast?.any fun f => config.channelFaultThreshold < f.1.channelFaultCount
  | .opticalSyncLoss port => decide ((port : ℕ) < config.ports) &&
    (afterGrace config frames).getLast?.any fun f => !f.1.linkSuccessFlag.toNat.testBit port

/-- The grace period is that of a sequence of frames. -/
structure Graced (config : AlarmConfig) (frames : List (StatusData × Seconds))
    (s : AlarmManager) : Prop where
  opticalGraceArmed : config.linkGraceSec ≠ 0 → s.opticalGraceArmed = !frames.isEmpty
  opticalGraceEnd : config.linkGraceSec ≠ 0 → frames ≠ [] →
    s.opticalGraceEnd = graceEnd config frames

/-- The manager after a sequence of frames. -/
structure Follows (config : AlarmConfig) (frames : List (StatusData × Seconds))
    (s : AlarmManager) : Prop where
  tracks : s.Tracks
  keeps : s.config = config
  stateTracker : s.stateTracker = flagsAfter config frames
  graced : Graced config frames s

variable {config : AlarmConfig} {frames : List (StatusData × Seconds)} {s : AlarmManager}
  {data : StatusData} {now : Seconds}

lemma follows_init (config : Option AlarmConfig) :
    Follows (keptConfig config) [] (alarmManagerInit config) where
  tracks := AlarmManager.tracks_init config
  keeps := rfl
  stateTracker := by
    ext1 m
    cases m with
    | loUnlock => rfl
    | opticalSyncLoss port => exact (Bool.and_false _).symm
    | overTemperature probe => rfl
    | channelFaultExceed => rfl
  graced := ⟨fun _ => rfl, fun _ hne => absurd rfl hne⟩

lemma Follows.setTcpStatus (h : Follows config frames s) (connected : Bool) :
    Follows config frames (s.alarmSetTcpStatus connected) := by
  rw [AlarmManager.alarmSetTcpStatus]
  dsimp only
  split
  · exact ⟨⟨distinctAlarms_alarmReportAllPending h.tracks.distinct, fun key =>
      isActive_alarmReportAllPending.trans (h.tracks.active key)⟩, h.keeps, h.stateTracker,
      ⟨h.graced.opticalGraceArmed, h.graced.opticalGraceEnd⟩⟩
  · exact ⟨⟨h.tracks.distinct, h.tracks.active⟩, h.keeps, h.stateTracker,
      ⟨h.graced.opticalGraceArmed, h.graced.opticalGraceEnd⟩⟩

/-- A frame is in the grace period, when the sequence of frames ends with it. -/
def InGrace (config : AlarmConfig) (frames : List (StatusData × Seconds)) (now : Seconds) : Prop :=
  config.linkGraceSec ≠ 0 ∧ (now : ℕ) < graceEnd config frames

instance : Decidable (InGrace config frames now) := inferInstanceAs (Decidable (_ ∧ _))

lemma graceEnd_append (hne : frames ≠ []) (f : StatusData × Seconds) :
    graceEnd config (frames ++ [f]) = graceEnd config frames := by
  obtain ⟨g, frames, rfl⟩ := List.exists_cons_of_ne_nil hne
  rfl

lemma afterGrace_append (frames : List (StatusData × Seconds)) (f : StatusData × Seconds) :
    afterGrace config (frames ++ [f]) =
      afterGrace config frames ++ if InGrace config (frames ++ [f]) f.2 then [] else [f] := by
  have hlast : ([f].filter fun g => decide (config.linkGraceSec = 0 ∨
      graceEnd config (frames ++ [f]) ≤ g.2)) =
        if InGrace config (frames ++ [f]) f.2 then [] else [f] := by
    by_cases hin : InGrace config (frames ++ [f]) f.2
    · have hnot : ¬ (config.linkGraceSec = 0 ∨ graceEnd config (frames ++ [f]) ≤ f.2) := by
        rintro (hzero | hle)
        · exact hin.1 hzero
        · exact absurd hin.2 (not_lt.2 hle)
      simp [hin, hnot]
    · have hpast : config.linkGraceSec = 0 ∨ graceEnd config (frames ++ [f]) ≤ f.2 := by
        by_contra hnot
        rw [not_or, not_le] at hnot
        exact hin hnot
      simp [hin, hpast]
  rw [afterGrace, List.filter_append, hlast]
  rcases eq_or_ne frames [] with rfl | hne
  · rfl
  · rw [graceEnd_append hne, afterGrace]

lemma Graced.written {s' : AlarmManager} {tracker : Monitor → Bool} (h : Graced config frames s)
    (hw : s.Written tracker s') : Graced config frames s' := by
  refine ⟨?_, ?_⟩
  · rw [hw.opticalGraceArmed]
    exact h.opticalGraceArmed
  · rw [hw.opticalGraceEnd]
    exact h.opticalGraceEnd

/-- Whether the ports are left out of the check of a frame. -/
lemma Graced.opticalInGrace (h : Graced config frames s) (hconfig : s.config = config)
    (data : StatusData) (now : Seconds) :
    (s.alarmOpticalInGrace (some now)).1 =
        decide (InGrace config (frames ++ [(data, now)]) now) ∧
      Graced config (frames ++ [(data, now)]) (s.alarmOpticalInGrace (some now)).2 := by
  rw [AlarmManager.alarmOpticalInGrace, hconfig]
  by_cases hzero : config.linkGraceSec = 0
  · rw [if_pos hzero]
    exact ⟨(decide_eq_false fun hin => hin.1 hzero).symm, fun hne => absurd hzero hne,
      fun hne => absurd hzero hne⟩
  · rw [if_neg hzero]
    have hinGrace : InGrace config (frames ++ [(data, now)]) now ↔
        (now : ℕ) < graceEnd config (frames ++ [(data, now)]) := and_iff_right hzero
    rcases eq_or_ne frames [] with rfl | hne
    · -- the first frame; its clock and the period do not wrap
      have harmed : s.opticalGraceArmed = false := h.opticalGraceArmed hzero
      have hnow := now.isLt
      have hsec := config.linkGraceSec.toNat_lt
      have hend : (now + config.linkGraceSec.toNat) % 2 ^ 64 = graceEnd config [(data, now)] :=
        Nat.mod_eq_of_lt (by omega)
      have hpos : 0 < config.linkGraceSec.toNat :=
        Nat.pos_of_ne_zero fun heq => hzero (UInt32.toNat_inj.1 heq)
      have hlt : (now : ℕ) < graceEnd config [(data, now)] := Nat.lt_add_of_pos_right hpos
      rw [harmed, if_neg Bool.noConfusion, hend]
      exact ⟨(decide_eq_true (hinGrace.2 hlt)).symm, fun _ => rfl, fun _ _ => rfl⟩
    · have harmed : s.opticalGraceArmed = true := by
        rw [h.opticalGraceArmed hzero]
        simp [hne]
      rw [if_pos harmed, h.opticalGraceEnd hzero hne, ← graceEnd_append hne (data, now)]
      refine ⟨by simp only [hinGrace], fun _ => ?_, fun _ _ => ?_⟩
      · rw [harmed]
        simp
      · rw [h.opticalGraceEnd hzero hne, graceEnd_append hne]

/-- The flags that every frame is checked for. -/
lemma dataFlags_eq (m : Monitor) (hm : ∀ port, m ≠ .opticalSyncLoss port) (now : Seconds) :
    AlarmManager.dataFlags config (flagsAfter config frames) data m =
      flagsAfter config (frames ++ [(data, now)]) m := by
  cases m with
  | loUnlock => simp [AlarmManager.dataFlags, flagsAfter]
  | opticalSyncLoss port => exact absurd rfl (hm port)
  | overTemperature probe =>
    cases hprobe : data.temps[(probe : ℕ)]? with
    | none =>
      have hunused : ∀ f : StatusData × Seconds, f.1.temps[(probe : ℕ)]? = none := by
        intro f
        rw [List.getElem?_eq_none_iff] at hprobe ⊢
        exact hprobe
      simp [AlarmManager.dataFlags, flagsAfter, hprobe, hunused]
    | some temperature => simp [AlarmManager.dataFlags, flagsAfter, hprobe]
  | channelFaultExceed => simp [AlarmManager.dataFlags, flagsAfter]

/-- A frame in the grace period changes no flag of a port. -/
lemma flagsAfter_inGrace (hin : InGrace config (frames ++ [(data, now)]) now) :
    AlarmManager.dataFlags config (flagsAfter config frames) data =
      flagsAfter config (frames ++ [(data, now)]) := by
  ext1 m
  by_cases hm : ∃ port, m = .opticalSyncLoss port
  · obtain ⟨port, rfl⟩ := hm
    rw [AlarmManager.dataFlags, flagsAfter, flagsAfter, afterGrace_append, if_pos hin,
      List.append_nil]
  · exact dataFlags_eq m (not_exists.1 hm) now

/-- Any other frame gives the flags of the ports that are monitored. -/
lemma flagsAfter_not_inGrace (hin : ¬ InGrace config (frames ++ [(data, now)]) now) :
    AlarmManager.portFlags (AlarmManager.dataFlags config (flagsAfter config frames) data)
        data.linkSuccessFlag (Finset.range config.ports) =
      flagsAfter config (frames ++ [(data, now)]) := by
  ext1 m
  by_cases hm : ∃ port, m = .opticalSyncLoss port
  · obtain ⟨port, rfl⟩ := hm
    rw [AlarmManager.portFlags, flagsAfter, afterGrace_append, if_neg hin, List.getLast?_concat]
    by_cases hport : (port : ℕ) < config.ports
    · simp [hport]
    · simp [hport, AlarmManager.dataFlags, flagsAfter]
  · rw [AlarmManager.portFlags_of_ne (not_exists.1 hm)]
    exact dataFlags_eq m (not_exists.1 hm) now

lemma Follows.periodicCheck (h : Follows config frames s) (data : StatusData) (now : Seconds) :
    Follows config (frames ++ [(data, now)]) (s.alarmPeriodicCheck (some data) (some now)) := by
  rw [AlarmManager.alarmPeriodicCheck]
  have hdata := AlarmManager.written_data s data
  generalize s.alarmCheckData data = u at hdata ⊢
  rw [h.keeps, h.stateTracker] at hdata
  have hconfig : u.config = config := hdata.config.trans h.keeps
  obtain ⟨hin, hgraced⟩ := (h.graced.written hdata).opticalInGrace hconfig data now
  obtain ⟨armed, graceEnd, hv⟩ := u.alarmOpticalInGrace_snd now
  generalize u.alarmOpticalInGrace (some now) = r at hin hgraced hv ⊢
  obtain ⟨inGrace, v⟩ := r
  dsimp only at hin hgraced hv ⊢
  have hu := hdata.tracks h.tracks
  have htracks : v.Tracks := hv ▸ ⟨hu.distinct, hu.active⟩
  have htracker := (congrArg AlarmManager.stateTracker hv).trans hdata.stateTracker
  have hkeeps : v.config = config := (congrArg AlarmManager.config hv).trans hconfig
  by_cases hgrace : InGrace config (frames ++ [(data, now)]) now
  · rw [hin, if_pos (decide_eq_true hgrace)]
    exact ⟨htracks, hkeeps, htracker.trans (flagsAfter_inGrace hgrace), hgraced⟩
  · have hports := AlarmManager.written_ports v data.linkSuccessFlag
    rw [htracker, hkeeps] at hports
    rw [hin, if_neg (by simpa using hgrace)]
    exact ⟨hports.tracks htracks, hports.config.trans hkeeps,
      hports.stateTracker.trans (flagsAfter_not_inGrace hgrace), hgraced.written hports⟩

lemma Follows.run {config : Option AlarmConfig} (l : List Input) :
    Follows (keptConfig config) (framesOf l)
      (l.foldl AlarmManager.take (alarmManagerInit config)) := by
  induction l using List.reverseRecOn with
  | nil => exact follows_init config
  | append_singleton l input ih =>
    rw [List.foldl_append, framesOf, List.filterMap_append]
    cases input with
    | periodicCheck data now => exact ih.periodicCheck data now
    | setTcpStatus connected =>
      have hsame := ih.setTcpStatus connected
      rwa [← List.append_nil (framesOf l)] at hsame

/-- No frame is checked later than the last one. -/
lemma le_of_clock (hclock : frames.IsChain fun f g => f.2 ≤ g.2)
    (hlast : frames.getLast? = some (data, now)) : ∀ f ∈ frames, f.2 ≤ now := by
  obtain ⟨before, rfl⟩ := List.getLast?_eq_some_iff.1 hlast
  have htrans : IsTrans (StatusData × Seconds) fun f g => f.2 ≤ g.2 :=
    ⟨fun _ _ _ hfg hgk => hfg.trans hgk⟩
  have hpairwise := (List.pairwise_append.1 (List.isChain_iff_pairwise.1 hclock)).2.2
  intro f hf
  rcases List.mem_append.1 hf with hf | hf
  · exact hpairwise f hf _ (List.mem_singleton_self _)
  · rw [List.mem_singleton.1 hf]

/-- In the grace period no frame counts for the ports. -/
lemma afterGrace_eq_nil (hle : ∀ f ∈ frames, f.2 ≤ now) (hin : InGrace config frames now) :
    afterGrace config frames = [] := by
  refine List.filter_eq_nil_iff.2 fun f hf => ?_
  have hfnow : (f.2 : ℕ) ≤ now := hle f hf
  have hend := hin.2
  simp only [decide_eq_true_eq, not_or, not_le]
  exact ⟨hin.1, hfnow.trans_lt hend⟩

lemma AlarmConfig.ports_le (config : AlarmConfig) : config.ports ≤ 8 := by
  rw [AlarmConfig.ports]
  split <;> omega

lemma flagsAfter_port (port : Fin 8) :
    flagsAfter config frames (.opticalSyncLoss port) = true ↔ (port : ℕ) < config.ports ∧
      ∃ f ∈ (afterGrace config frames).getLast?,
        f.1.linkSuccessFlag.toNat.testBit port = false := by
  simp only [flagsAfter, Bool.and_eq_true, decide_eq_true_eq, Option.any_eq_true, Option.mem_def,
    Bool.not_eq_true']

/-- The alarm of a port. -/
lemma Follows.isActive_port (h : Follows config frames s) (p : ℕ) :
    IsActive s.records (alarmCodeOpticalSyncLoss, p) ↔ p < config.ports ∧
      ∃ f ∈ (afterGrace config frames).getLast?, f.1.linkSuccessFlag.toNat.testBit p = false := by
  rw [h.tracks.active, h.stateTracker]
  constructor
  · rintro ⟨m, hm, hkey⟩
    have hcode : m.key.1 = alarmCodeOpticalSyncLoss := congrArg Prod.fst hkey
    cases m with
    | opticalSyncLoss port =>
      have hport : (port : ℕ) = p := congrArg Prod.snd hkey
      rw [← hport]
      exact (flagsAfter_port port).1 hm
    | loUnlock => cases hcode
    | overTemperature probe => cases hcode
    | channelFaultExceed => cases hcode
  · intro hp
    have hlt : p < 8 := hp.1.trans_le config.ports_le
    exact ⟨.opticalSyncLoss ⟨p, hlt⟩, (flagsAfter_port ⟨p, hlt⟩).2 hp, rfl⟩

/-- **After every frame each alarm is active exactly when its condition holds.** -/
theorem periodicCheck_levels (config : Option AlarmConfig) (l : List Input)
    {data : StatusData} {now : Seconds}
    (hclock : (framesOf l).IsChain fun f g => f.2 ≤ g.2)
    (hlast : (framesOf l).getLast? = some (data, now)) :
    Levels (keptConfig config) (framesOf l) data now
      (l.foldl AlarmManager.take (alarmManagerInit config)).records := by
  have h := @Follows.run config l
  generalize framesOf l = frames at h hclock hlast
  generalize l.foldl AlarmManager.take (alarmManagerInit config) = s at h ⊢
  generalize keptConfig config = config at h ⊢
  have hflag : ∀ m, IsActive s.records m.key ↔ flagsAfter config frames m = true := by
    intro m
    rw [h.tracks.isActive_iff, h.stateTracker]
  refine ⟨?_, fun p hp => ?_, ?_, fun p hp => ?_, fun hgrace hnow p hactive => ?_,
    fun p hp hactive => ?_⟩
  · rw [← Monitor.key, hflag]
    simp [flagsAfter, hlast]
  · have hprobe : p < 10 := lt_trans hp (by decide : 3 < 10)
    have hkey : (Monitor.overTemperature ⟨p, hprobe⟩).key = (alarmCodeOverTemperature, p) := rfl
    rw [← hkey, hflag]
    simp [flagsAfter, hlast, hp, AlarmConfig.overTemperature]
  · have hkey : Monitor.channelFaultExceed.key = (alarmCodeChannelFaultExceed, 0) := rfl
    rw [← hkey, hflag]
    simp [flagsAfter, hlast]
  · rw [h.isActive_port, and_iff_right hp]
  · have hnone := afterGrace_eq_nil (le_of_clock hclock hlast) ⟨hgrace, hnow⟩
    obtain ⟨-, f, hf, -⟩ := (h.isActive_port p).1 hactive
    rw [hnone] at hf
    cases hf
  · exact absurd ((h.isActive_port p).1 hactive).1 (not_lt.2 hp)

/-- A frame without a fault, but for the links that are lost. -/
def linkFrame (linkSuccessFlag : UInt8) : StatusData := ⟨linkSuccessFlag, 0, 0, 20, 20, 20⟩

/-- Port 3 is lost in the grace period of ten seconds, and still lost after it. -/
theorem periodicCheck_levels_lostPort :
    IsActive ([.periodicCheck (linkFrame 0x0F) 100, .periodicCheck (linkFrame 0x07) 105,
      .setTcpStatus true, .periodicCheck (linkFrame 0x07) 110].foldl AlarmManager.take
        (alarmManagerInit none)).records (alarmCodeOpticalSyncLoss, 3) :=
  ((periodicCheck_levels none _ (by decide) rfl).opticalSyncLoss 3 (by decide)).2
    ⟨(linkFrame 0x07, 110), by decide, by decide⟩

end AntennaMgmt.Alarm
