import AntennaMgmt.Alarm.Calls
import AntennaMgmt.Alarm.Table
import AntennaMgmt.Lib.Text
import Mathlib.Data.Nat.Bitwise
import Mathlib.Tactic.DeriveFintype
import Mathlib.Tactic.FinCases

/-!
# The periodic check of the telemetry

Every status frame of the FPGA is checked for faults.  An alarm is raised and cleared when the flag
of its monitor changes, and the flags are kept apart from the alarm records.  The optical ports are
left out of the check for a time that starts with the first frame, while the links come up.
-/

namespace AntennaMgmt.Alarm

open AntennaMgmt.Lib

/-- `ALARM_CODE_LO_UNLOCK`. -/
abbrev alarmCodeLoUnlock : ℕ := 50001

/-- `ALARM_CODE_OPTICAL_SYNC_LOSS`. -/
abbrev alarmCodeOpticalSyncLoss : ℕ := 1097

/-- `ALARM_CODE_OVER_TEMPERATURE`. -/
abbrev alarmCodeOverTemperature : ℕ := 1156

/-- `ALARM_CODE_CHANNEL_FAULT_EXCEED`. -/
abbrev alarmCodeChannelFaultExceed : ℕ := 1159

/-- `alarm_config_t`. -/
structure AlarmConfig where
  channelFaultThreshold : UInt8
  overTempThresholdHigh : Int8
  overTempThresholdLow : Int8
  linkGraceSec : UInt32
  opticalPortCount : UInt8
deriving DecidableEq, Repr

/-- What `alarm_manager_init` takes when it is given no configuration. -/
def defaultConfig : AlarmConfig := ⟨10, 85, -40, 10, 4⟩

/-- The data of a status frame that is checked. -/
structure StatusData where
  linkSuccessFlag : UInt8
  loLockStatus : UInt32
  channelFaultCount : UInt8
  temp1 : Int8
  temp2 : Int8
  temp3 : Int8
deriving DecidableEq, Repr

/-- The temperatures that are checked, from point 0 on. -/
def StatusData.temps (data : StatusData) : List Int8 := [data.temp1, data.temp2, data.temp3]

/-- The seconds of the monotonic clock, a `time_t` that is not negative. -/
abbrev Seconds := Fin (2 ^ 63)

/-- A flag of `alarm_state_tracker_t`. -/
inductive Monitor
  | loUnlock
  | opticalSyncLoss (port : Fin 8)
  | overTemperature (probe : Fin 10)
  | channelFaultExceed
deriving DecidableEq, Repr, Fintype

/-- The alarm that a monitor raises. -/
def Monitor.key : Monitor → AlarmKey
  | loUnlock => (alarmCodeLoUnlock, 0)
  | opticalSyncLoss port => (alarmCodeOpticalSyncLoss, port)
  | overTemperature probe => (alarmCodeOverTemperature, probe)
  | channelFaultExceed => (alarmCodeChannelFaultExceed, 0)

/-- `alarm_manager_t` with `g_alarm_config` and the two statics of the grace period. -/
structure AlarmManager where
  config : AlarmConfig
  records : Records
  stateTracker : Monitor → Bool
  tcpConnected : Bool
  opticalGraceArmed : Bool
  opticalGraceEnd : ℕ

/-- The configuration that is kept. -/
def keptConfig (config : Option AlarmConfig) : AlarmConfig :=
  let config := config.getD defaultConfig
  if config.opticalPortCount ≠ 4 ∧ config.opticalPortCount ≠ 8 then
    { config with opticalPortCount := 4 }
  else config

/-- `alarm_manager_init`. -/
def alarmManagerInit (config : Option AlarmConfig) : AlarmManager where
  config := keptConfig config
  records := noRecords
  stateTracker := fun _ => false
  tcpConnected := false
  opticalGraceArmed := false
  opticalGraceEnd := 0

namespace AlarmManager

/-- `alarm_set_tcp_status`. -/
def alarmSetTcpStatus (s : AlarmManager) (connected : Bool) : AlarmManager :=
  let s' := { s with tcpConnected := connected }
  if connected && !s.tcpConnected then { s' with records := alarmReportAllPending s.records }
  else s'

/-- What the `alarm_check_*` functions do with their flag: the alarm is raised when the condition
comes and cleared when it goes. -/
def check (s : AlarmManager) (m : Monitor) (current : Bool) (info : Bytes) : AlarmManager :=
  let prev := s.stateTracker m
  let s' := { s with stateTracker := Function.update s.stateTracker m current }
  if current && !prev then
    { s' with records := alarmTrigger s.tcpConnected s.records m.key info }
  else if !current && prev then { s' with records := alarmClear s.records m.key }
  else s'

/-- `alarm_check_lo_unlock`. -/
def alarmCheckLoUnlock (s : AlarmManager) (loLockStatus : UInt32) : AlarmManager :=
  s.check .loUnlock (loLockStatus ≠ 0) (ascii "LO unlock detected")

/-- `alarm_check_optical_sync_loss`. -/
def alarmCheckOpticalSyncLoss (s : AlarmManager) (opticalPort : ℕ) (syncStatus : Bool) :
    AlarmManager :=
  if h : opticalPort < 8 then
    s.check (.opticalSyncLoss ⟨opticalPort, h⟩) (!syncStatus)
      (ascii "Optical port " ++ decimal opticalPort ++ ascii " sync lost")
  else s

end AlarmManager

/-- The text that `printf` gives for a number with a sign. -/
def decimalInt (n : ℤ) : Bytes :=
  if n < 0 then 45 :: decimal n.natAbs else decimal n.natAbs

/-- The temperature is above the one threshold or below the other. -/
def AlarmConfig.overTemperature (config : AlarmConfig) (temperature : Int8) : Bool :=
  config.overTempThresholdHigh < temperature || temperature < config.overTempThresholdLow

namespace AlarmManager

/-- `alarm_check_over_temperature`.  The degree sign takes two bytes. -/
def alarmCheckOverTemperature (s : AlarmManager) (probeId : ℕ) (temperature : Int8) :
    AlarmManager :=
  if h : probeId < 10 then
    s.check (.overTemperature ⟨probeId, h⟩) (s.config.overTemperature temperature)
      (ascii "Probe " ++ decimal probeId ++ ascii " temp=" ++ decimalInt temperature.toInt ++
        [0xC2, 0xB0] ++ ascii "C (threshold: " ++ decimalInt s.config.overTempThresholdLow.toInt ++
        ascii "~" ++ decimalInt s.config.overTempThresholdHigh.toInt ++ [0xC2, 0xB0] ++ ascii "C)")
  else s

/-- `alarm_check_channel_fault_exceed`. -/
def alarmCheckChannelFaultExceed (s : AlarmManager) (faultCount : UInt8) : AlarmManager :=
  s.check .channelFaultExceed (s.config.channelFaultThreshold < faultCount)
    (ascii "Channel fault count=" ++ decimal faultCount.toNat ++ ascii " (threshold: " ++
      decimal s.config.channelFaultThreshold.toNat ++ ascii ")")

/-- `alarm_optical_in_grace`, with what `alarm_monotonic_sec` reads. -/
def alarmOpticalInGrace (s : AlarmManager) (now : Option Seconds) : Bool × AlarmManager :=
  if s.config.linkGraceSec = 0 then (false, s)
  else match now with
    | none => (false, s)
    | some now =>
      if s.opticalGraceArmed then (decide ((now : ℕ) < s.opticalGraceEnd), s)
      -- the first frame starts the period
      else (true, { s with
        opticalGraceArmed := true
        opticalGraceEnd := (now + s.config.linkGraceSec.toNat) % 2 ^ 64 })

/-- The loop over the optical ports, the main ones and with eight ports the backup ones. -/
def alarmCheckPorts (s : AlarmManager) (linkSuccessFlag : UInt8) : AlarmManager :=
  (List.range 4).foldl (fun s i =>
    let s := s.alarmCheckOpticalSyncLoss i (linkSuccessFlag.toNat &&& 1 <<< i ≠ 0)
    if s.config.opticalPortCount = 8 then
      s.alarmCheckOpticalSyncLoss (i + 4) (linkSuccessFlag.toNat &&& 1 <<< (i + 4) ≠ 0)
    else s) s

/-- The part of `alarm_periodic_check` before the optical ports. -/
def alarmCheckData (s : AlarmManager) (data : StatusData) : AlarmManager :=
  let s := s.alarmCheckLoUnlock data.loLockStatus
  let s := s.alarmCheckOverTemperature 0 data.temp1
  let s := s.alarmCheckOverTemperature 1 data.temp2
  let s := s.alarmCheckOverTemperature 2 data.temp3
  s.alarmCheckChannelFaultExceed data.channelFaultCount

/-- `alarm_periodic_check`, with a frame or without one, and with what the clock reads. -/
def alarmPeriodicCheck (s : AlarmManager) (fpgaStatus : Option StatusData) (now : Option Seconds) :
    AlarmManager :=
  match fpgaStatus with
  | none => s
  | some data =>
    let (inGrace, s) := (s.alarmCheckData data).alarmOpticalInGrace now
    if inGrace then s else s.alarmCheckPorts data.linkSuccessFlag

/-! ### The flags and the records -/

/-- The flags say which alarms are active. -/
structure Tracks (s : AlarmManager) : Prop where
  distinct : DistinctAlarms s.records
  active : ∀ key, IsActive s.records key ↔ ∃ m, s.stateTracker m = true ∧ m.key = key

variable {s : AlarmManager} {m : Monitor} {current : Bool} {info : Bytes}

lemma key_injective : Function.Injective Monitor.key := by
  intro m m' h
  have hcode : m.key.1 = m'.key.1 := congrArg Prod.fst h
  have hsub : m.key.2 = m'.key.2 := congrArg Prod.snd h
  cases m <;> cases m' <;> dsimp only [Monitor.key] at hcode hsub <;>
    first | rfl | exact congrArg _ (Fin.ext hsub) | cases hcode

lemma Tracks.isActive_iff (h : s.Tracks) (m : Monitor) :
    IsActive s.records m.key ↔ s.stateTracker m = true := by
  rw [h.active]
  constructor
  · rintro ⟨m', hm', hkey⟩
    rwa [← key_injective hkey]
  · exact fun hm => ⟨m, hm, rfl⟩

lemma tracks_init (config : Option AlarmConfig) : (alarmManagerInit config).Tracks where
  distinct := distinctAlarms_noRecords
  active key := by
    constructor
    · rintro ⟨i, hi, -⟩
      cases hi
    · rintro ⟨m, hm, -⟩
      cases hm

/-- There are fewer monitors than records. -/
lemma Tracks.ne_full (h : s.Tracks) (m : Monitor) (info : Bytes) :
    triggerRecord s.records m.key info ≠ .full := by
  have hcard : (Finset.univ.image Monitor.key).card ≤ maxAlarmRecords :=
    Finset.card_image_le.trans (by decide)
  refine triggerRecord_ne_full h.distinct (fun i hi => ?_) hcard
    (Finset.mem_image_of_mem _ (Finset.mem_univ m)) info
  obtain ⟨m', -, hkey⟩ := (h.active _).1 ⟨i, hi, rfl⟩
  rw [← hkey]
  exact Finset.mem_image_of_mem _ (Finset.mem_univ m')

/-- The alarms of the flags after one of them is written. -/
lemma exists_update_iff (tracker : Monitor → Bool) (m : Monitor) (current : Bool)
    (key : AlarmKey) : (∃ m', Function.update tracker m current m' = true ∧ m'.key = key) ↔
      key = m.key ∧ current = true ∨ key ≠ m.key ∧ ∃ m', tracker m' = true ∧ m'.key = key := by
  constructor
  · rintro ⟨m', hm', rfl⟩
    rcases eq_or_ne m' m with rfl | hne
    · rw [Function.update_self] at hm'
      exact .inl ⟨rfl, hm'⟩
    · rw [Function.update_of_ne hne] at hm'
      exact .inr ⟨key_injective.ne hne, m', hm', rfl⟩
  · rintro (⟨rfl, hcurrent⟩ | ⟨hne, m', hm', rfl⟩)
    · exact ⟨m, by rwa [Function.update_self], rfl⟩
    · have hm : m' ≠ m := fun heq => hne (congrArg Monitor.key heq)
      exact ⟨m', by rwa [Function.update_of_ne hm], rfl⟩

lemma check_same (h : s.stateTracker m = current) : s.check m current info = s := by
  have hupdate : Function.update s.stateTracker m current = s.stateTracker := by
    rw [← h, Function.update_eq_self]
  cases current <;> simp [check, h, hupdate]

lemma check_raised (h : s.stateTracker m = false) : s.check m true info =
    { s with stateTracker := Function.update s.stateTracker m true,
             records := alarmTrigger s.tcpConnected s.records m.key info } := by
  simp [check, h]

lemma check_cleared (h : s.stateTracker m = true) : s.check m false info =
    { s with stateTracker := Function.update s.stateTracker m false,
             records := alarmClear s.records m.key } := by
  simp [check, h]

/-- A check keeps the flags and the records together. -/
lemma Tracks.check (h : s.Tracks) (m : Monitor) (current : Bool) (info : Bytes) :
    (s.check m current info).Tracks := by
  cases hprev : s.stateTracker m <;> cases current
  · rwa [check_same hprev]
  · rw [check_raised hprev]
    refine ⟨distinctAlarms_alarmTrigger h.distinct, fun key => ?_⟩
    rw [exists_update_iff, isActive_alarmTrigger (h.ne_full m info), h.active]
    rcases eq_or_ne key m.key with rfl | hne
    · simp
    · simp [hne]
  · rw [check_cleared hprev]
    refine ⟨distinctAlarms_alarmClear h.distinct, fun key => ?_⟩
    rw [exists_update_iff, isActive_alarmClear h.distinct, h.active, and_comm]
    simp
  · rwa [check_same hprev]

/-- The flags have been written, and nothing of the configuration and the grace period. -/
structure Written (s : AlarmManager) (tracker : Monitor → Bool) (s' : AlarmManager) : Prop where
  tracks : s.Tracks → s'.Tracks
  stateTracker : s'.stateTracker = tracker
  config : s'.config = s.config
  opticalGraceArmed : s'.opticalGraceArmed = s.opticalGraceArmed
  opticalGraceEnd : s'.opticalGraceEnd = s.opticalGraceEnd

variable {s' : AlarmManager} {tracker : Monitor → Bool}

lemma Written.refl (s : AlarmManager) : Written s s.stateTracker s :=
  ⟨id, rfl, rfl, rfl, rfl⟩

lemma Written.of_eq {tracker' : Monitor → Bool} (h : Written s tracker s')
    (heq : tracker = tracker') : Written s tracker' s' :=
  heq ▸ h

/-- A check writes one flag. -/
lemma Written.check (h : Written s tracker s') (m : Monitor) (current : Bool) (info : Bytes) :
    Written s (Function.update tracker m current) (s'.check m current info) := by
  refine ⟨fun hs => (h.tracks hs).check m current info, ?_, ?_, ?_, ?_⟩
  · rw [← h.stateTracker, AlarmManager.check]
    split_ifs <;> rfl
  · rw [← h.config, AlarmManager.check]
    split_ifs <;> rfl
  · rw [← h.opticalGraceArmed, AlarmManager.check]
    split_ifs <;> rfl
  · rw [← h.opticalGraceEnd, AlarmManager.check]
    split_ifs <;> rfl

/-- The flags with those of some ports taken from a frame. -/
def portFlags (tracker : Monitor → Bool) (linkSuccessFlag : UInt8) (ports : Finset ℕ) :
    Monitor → Bool
  | .opticalSyncLoss p =>
    if (p : ℕ) ∈ ports then !linkSuccessFlag.toNat.testBit p else tracker (.opticalSyncLoss p)
  | m => tracker m

lemma portFlags_empty (tracker : Monitor → Bool) (linkSuccessFlag : UInt8) :
    portFlags tracker linkSuccessFlag ∅ = tracker := by
  ext1 m
  cases m <;> rfl

lemma portFlags_of_ne {linkSuccessFlag : UInt8} {ports : Finset ℕ}
    (hm : ∀ port, m ≠ .opticalSyncLoss port) :
    portFlags tracker linkSuccessFlag ports m = tracker m := by
  cases m with
  | opticalSyncLoss port => exact absurd rfl (hm port)
  | loUnlock => rfl
  | overTemperature probe => rfl
  | channelFaultExceed => rfl

lemma testBit_eq (n i : ℕ) : decide (n &&& 1 <<< i ≠ 0) = n.testBit i := by
  rw [Nat.one_shiftLeft, Nat.and_two_pow]
  cases n.testBit i <;> simp

lemma Written.port {linkSuccessFlag : UInt8} {ports : Finset ℕ} {p : ℕ}
    (h : Written s (portFlags tracker linkSuccessFlag ports) s') (hp : p < 8) :
    Written s (portFlags tracker linkSuccessFlag (insert p ports))
      (s'.alarmCheckOpticalSyncLoss p (linkSuccessFlag.toNat &&& 1 <<< p ≠ 0)) := by
  rw [alarmCheckOpticalSyncLoss, dif_pos hp, testBit_eq]
  have hwritten : portFlags tracker linkSuccessFlag (insert p ports) =
      Function.update (portFlags tracker linkSuccessFlag ports) (.opticalSyncLoss ⟨p, hp⟩)
        (!linkSuccessFlag.toNat.testBit p) := by
    ext1 m
    by_cases hm : ∃ port, m = .opticalSyncLoss port
    · obtain ⟨q, rfl⟩ := hm
      rcases eq_or_ne q ⟨p, hp⟩ with rfl | hne
      · simp [portFlags]
      · have hval : (q : ℕ) ≠ p := fun heq => hne (Fin.ext heq)
        simp [portFlags, hne, hval]
    · have hm := not_exists.1 hm
      rw [portFlags_of_ne hm, Function.update_of_ne (hm _), portFlags_of_ne hm]
  rw [hwritten]
  exact h.check _ _ _

/-- One round of the loop. -/
lemma Written.round {linkSuccessFlag : UInt8} {ports : Finset ℕ} {i : ℕ}
    (h : Written s (portFlags tracker linkSuccessFlag ports) s') (hi : i < 4) :
    Written s (portFlags tracker linkSuccessFlag
        (if s.config.opticalPortCount = 8 then insert (i + 4) (insert i ports) else insert i ports))
      (let u := s'.alarmCheckOpticalSyncLoss i (linkSuccessFlag.toNat &&& 1 <<< i ≠ 0)
       if u.config.opticalPortCount = 8 then
         u.alarmCheckOpticalSyncLoss (i + 4) (linkSuccessFlag.toNat &&& 1 <<< (i + 4) ≠ 0)
       else u) := by
  have hmain := h.port (p := i) (by omega)
  dsimp only
  rw [hmain.config]
  split
  · exact hmain.port (by omega)
  · exact hmain

/-- The loop writes the flags of the ports that are monitored. -/
lemma written_ports (s : AlarmManager) (linkSuccessFlag : UInt8) :
    Written s (portFlags s.stateTracker linkSuccessFlag
        (Finset.range (if s.config.opticalPortCount = 8 then 8 else 4)))
      (s.alarmCheckPorts linkSuccessFlag) := by
  have h := Written.refl s
  rw [← portFlags_empty s.stateTracker linkSuccessFlag] at h
  have hloop := (((h.round (i := 0) (by decide)).round (i := 1) (by decide)).round
    (i := 2) (by decide)).round (i := 3) (by decide)
  by_cases h8 : s.config.opticalPortCount = 8
  · have hports : insert (3 + 4) (insert 3 (insert (2 + 4) (insert 2 (insert (1 + 4)
        (insert 1 (insert (0 + 4) (insert 0 (∅ : Finset ℕ)))))))) = Finset.range 8 := by decide
    rw [if_pos h8] at hloop ⊢
    simp only [if_pos h8, hports] at hloop
    exact hloop
  · have hports : insert 3 (insert 2 (insert 1 (insert 0 (∅ : Finset ℕ)))) = Finset.range 4 := by
      decide
    rw [if_neg h8] at hloop ⊢
    simp only [if_neg h8, hports] at hloop
    exact hloop

/-- The flags with those that are taken from every frame. -/
def dataFlags (config : AlarmConfig) (tracker : Monitor → Bool) (data : StatusData) :
    Monitor → Bool
  | .loUnlock => data.loLockStatus ≠ 0
  | .overTemperature probe =>
    (data.temps[(probe : ℕ)]?).elim (tracker (.overTemperature probe)) config.overTemperature
  | .channelFaultExceed => config.channelFaultThreshold < data.channelFaultCount
  | .opticalSyncLoss port => tracker (.opticalSyncLoss port)

lemma Written.temperature (h : Written s tracker s') {probeId : ℕ} (hp : probeId < 10)
    (temperature : Int8) :
    Written s (Function.update tracker (.overTemperature ⟨probeId, hp⟩)
      (s.config.overTemperature temperature))
      (s'.alarmCheckOverTemperature probeId temperature) := by
  rw [alarmCheckOverTemperature, dif_pos hp, h.config]
  exact h.check _ _ _

lemma Written.channelFault (h : Written s tracker s') (faultCount : UInt8) :
    Written s (Function.update tracker .channelFaultExceed
      (decide (s.config.channelFaultThreshold < faultCount)))
      (s'.alarmCheckChannelFaultExceed faultCount) := by
  rw [alarmCheckChannelFaultExceed, h.config]
  exact h.check _ _ _

/-- The checks that are made of every frame. -/
lemma written_data (s : AlarmManager) (data : StatusData) :
    Written s (dataFlags s.config s.stateTracker data) (s.alarmCheckData data) := by
  have hlo : Written s (Function.update s.stateTracker .loUnlock (data.loLockStatus ≠ 0))
      (s.alarmCheckLoUnlock data.loLockStatus) := (Written.refl s).check _ _ _
  have hdata := (((hlo.temperature (by decide : 0 < 10) data.temp1).temperature
    (by decide : 1 < 10) data.temp2).temperature (by decide : 2 < 10) data.temp3).channelFault
    data.channelFaultCount
  refine Written.of_eq hdata ?_
  ext1 m
  cases m with
  | loUnlock => simp [dataFlags]
  | opticalSyncLoss port => simp [dataFlags]
  | overTemperature probe => fin_cases probe <;> simp [dataFlags, StatusData.temps]
  | channelFaultExceed => simp [dataFlags]

/-- The check of the grace period writes its two statics and nothing else. -/
lemma alarmOpticalInGrace_snd (s : AlarmManager) (now : Seconds) : ∃ armed graceEnd,
    (s.alarmOpticalInGrace (some now)).2 =
      { s with opticalGraceArmed := armed, opticalGraceEnd := graceEnd } := by
  rw [alarmOpticalInGrace]
  split_ifs
  · exact ⟨_, _, rfl⟩
  · exact ⟨_, _, rfl⟩
  · exact ⟨_, _, rfl⟩

end AlarmManager

/-! ### The calls as runs of their steps -/

/-- The calls that the alarm module gets. -/
inductive Input
  | periodicCheck (data : StatusData) (now : Seconds)
  | setTcpStatus (connected : Bool)
deriving DecidableEq, Repr

/-- A call. -/
def AlarmManager.take (s : AlarmManager) : Input → AlarmManager
  | .periodicCheck data now => s.alarmPeriodicCheck (some data) (some now)
  | .setTcpStatus connected => s.alarmSetTcpStatus connected

variable {ι : Type*} [DecidableEq ι]

/-- The thread is at rest, and the alarm module is as the manager has it. -/
structure Stands (u : ReportSys ι) (t : ι) (s : AlarmManager) : Prop where
  records : u.records = s.records
  tcpConnected : u.tcpConnected = s.tcpConnected
  pc : u.pc t = .idle

/-- The steps of a thread lead from the one manager to the other. -/
def Leads (t : ι) (s s' : AlarmManager) : Prop :=
  ∀ u : ReportSys ι, Stands u t s → ∃ l u', Run Step u l u' ∧ Stands u' t s'

variable {t : ι} {s s' s'' : AlarmManager}

/-- Nothing is done that the alarm module sees. -/
lemma Leads.of_same (hrecords : s'.records = s.records) (htcp : s'.tcpConnected = s.tcpConnected) :
    Leads t s s' :=
  fun u hu => ⟨[], u, .nil u, hu.records.trans hrecords.symm, hu.tcpConnected.trans htcp.symm,
    hu.pc⟩

lemma Leads.trans (h : Leads t s s') (h' : Leads t s' s'') : Leads t s s'' := by
  intro u hu
  obtain ⟨l, v, hrun, hv⟩ := h u hu
  obtain ⟨m, w, hrun', hw⟩ := h' v hv
  exact ⟨l ++ m, w, hrun.append hrun', hw⟩

lemma leads_check (s : AlarmManager) (m : Monitor) (current : Bool) (info : Bytes) :
    Leads t s (s.check m current info) := by
  intro u hu
  cases hprev : s.stateTracker m <;> cases current
  · rw [AlarmManager.check_same hprev]
    exact ⟨[], u, .nil u, hu⟩
  · obtain ⟨l, u', hrun, hpc, htcp, hrecords⟩ := rests_alarmTrigger hu.pc m.key info
    rw [hu.tcpConnected, hu.records] at hrecords
    rw [AlarmManager.check_raised hprev]
    exact ⟨l, u', hrun, hrecords, htcp.trans hu.tcpConnected, hpc⟩
  · obtain ⟨l, u', hrun, hpc, htcp, hrecords⟩ := rests_alarmClear hu.pc m.key
    rw [hu.records] at hrecords
    rw [AlarmManager.check_cleared hprev]
    exact ⟨l, u', hrun, hrecords, htcp.trans hu.tcpConnected, hpc⟩
  · rw [AlarmManager.check_same hprev]
    exact ⟨[], u, .nil u, hu⟩

lemma leads_alarmCheckOpticalSyncLoss (s : AlarmManager) (opticalPort : ℕ) (syncStatus : Bool) :
    Leads t s (s.alarmCheckOpticalSyncLoss opticalPort syncStatus) := by
  rw [AlarmManager.alarmCheckOpticalSyncLoss]
  split
  · exact leads_check s _ _ _
  · exact .of_same rfl rfl

lemma leads_alarmCheckOverTemperature (s : AlarmManager) (probeId : ℕ) (temperature : Int8) :
    Leads t s (s.alarmCheckOverTemperature probeId temperature) := by
  rw [AlarmManager.alarmCheckOverTemperature]
  split
  · exact leads_check s _ _ _
  · exact .of_same rfl rfl

lemma leads_alarmCheckPorts (s : AlarmManager) (linkSuccessFlag : UInt8) :
    Leads t s (s.alarmCheckPorts linkSuccessFlag) := by
  rw [AlarmManager.alarmCheckPorts]
  generalize List.range 4 = ports
  induction ports generalizing s with
  | nil => exact .of_same rfl rfl
  | cons i ports ih =>
    rw [List.foldl_cons]
    refine Leads.trans ?_ (ih _)
    dsimp only
    have hmain := leads_alarmCheckOpticalSyncLoss (t := t) s i
      (linkSuccessFlag.toNat &&& 1 <<< i ≠ 0)
    split
    · exact hmain.trans (leads_alarmCheckOpticalSyncLoss _ _ _)
    · exact hmain

lemma leads_alarmCheckData (s : AlarmManager) (data : StatusData) :
    Leads t s (s.alarmCheckData data) := by
  have hlo : Leads t s (s.alarmCheckLoUnlock data.loLockStatus) := leads_check s _ _ _
  have htemp := ((hlo.trans (leads_alarmCheckOverTemperature _ 0 data.temp1)).trans
    (leads_alarmCheckOverTemperature _ 1 data.temp2)).trans
    (leads_alarmCheckOverTemperature _ 2 data.temp3)
  exact htemp.trans (leads_check _ _ _ _)

lemma leads_alarmPeriodicCheck (s : AlarmManager) (data : StatusData) (now : Seconds) :
    Leads t s (s.alarmPeriodicCheck (some data) (some now)) := by
  rw [AlarmManager.alarmPeriodicCheck]
  refine (leads_alarmCheckData s data).trans ?_
  generalize s.alarmCheckData data = v
  have hgrace : Leads t v (v.alarmOpticalInGrace (some now)).2 := by
    obtain ⟨armed, graceEnd, hv⟩ := v.alarmOpticalInGrace_snd now
    rw [hv]
    exact .of_same rfl rfl
  dsimp only
  split
  · exact hgrace
  · exact hgrace.trans (leads_alarmCheckPorts _ _)

lemma leads_alarmSetTcpStatus (s : AlarmManager) (connected : Bool) :
    Leads t s (s.alarmSetTcpStatus connected) := by
  intro u hu
  have hstep := step_setStatus hu.pc connected
  rw [AlarmManager.alarmSetTcpStatus]
  rw [ReportSys.setStatus, hu.tcpConnected] at hstep
  dsimp only at hstep ⊢
  split at hstep
  · next hup =>
    rw [if_pos hup]
    obtain ⟨l, u', hrun, hpc, htcp, hrecords⟩ :=
      rests_scanStart (goto_pc_self { u with tcpConnected := connected } t .scanStart)
    refine ⟨_, u', .cons hstep hrun, ?_, htcp, hpc⟩
    rw [hrecords, ← hu.records]
    rfl
  · next hup =>
    rw [if_neg hup]
    exact ⟨_, _, .cons hstep (.nil _), hu.records, rfl, hu.pc⟩

/-- The records after any sequence of calls are those that a thread comes to by its steps. -/
lemma records_reached (config : Option AlarmConfig) (l : List Input) (t : ι) :
    ∃ (m : List (Act ι)) (u : ReportSys ι), Run Step init m u ∧
      u.records = (l.foldl AlarmManager.take (alarmManagerInit config)).records := by
  have hleads : ∀ s : AlarmManager, Leads t s (l.foldl AlarmManager.take s) := by
    induction l with
    | nil => exact fun s => .of_same rfl rfl
    | cons input l ih =>
      intro s
      refine Leads.trans ?_ (ih (s.take input))
      cases input with
      | periodicCheck data now => exact leads_alarmPeriodicCheck s data now
      | setTcpStatus connected => exact leads_alarmSetTcpStatus s connected
  obtain ⟨m, u, hrun, hu⟩ := hleads (alarmManagerInit config) init ⟨rfl, rfl, rfl⟩
  exact ⟨m, u, hrun, hu.records⟩

end AntennaMgmt.Alarm
