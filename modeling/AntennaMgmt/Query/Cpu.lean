import AntennaMgmt.Query.Param
import AntennaMgmt.Lib.Transition
import AntennaMgmt.Lib.WordOps

/-!
# The CPU usage

`read_cpu_usage` compares the counters of `/proc/stat` with those of the reading before.  The
differences are taken on 64-bit words whatever the counters are, and the kernel lets some of them
go down.
-/

namespace AntennaMgmt.Query

open AntennaMgmt.Lib

/-! ### The module -/

/-- The counters in the first line of `/proc/stat`. -/
structure CpuReading where
  user : UInt64
  nice : UInt64
  system : UInt64
  idle : UInt64
  iowait : UInt64
  irq : UInt64
  softirq : UInt64
deriving DecidableEq, Repr

/-- The sum of the counters, in 64 bits. -/
def CpuReading.total (r : CpuReading) : UInt64 :=
  r.user + r.nice + r.system + r.idle + r.iowait + r.irq + r.softirq

/-- The static variables of `read_cpu_usage`. -/
structure CpuTimes where
  prevTotal : UInt64
  prevIdle : UInt64
deriving DecidableEq, Repr

/-- `cpu_stats_t`. -/
structure CpuStats where
  cpuUsage : UInt32
  statPeriod : UInt32
  lastUpdate : ℤ
deriving DecidableEq, Repr

/-- The CPU statistics of the module: the static variables and `g_cpu_stats`. -/
structure CpuModule where
  times : CpuTimes
  stats : CpuStats
deriving DecidableEq, Repr

/-- The statistics when the program starts. -/
def cpuModuleInit : CpuModule := ⟨⟨0, 0⟩, ⟨0, 5, 0⟩⟩

/-- `read_cpu_usage`: the variables afterwards, the usage, and the operations on differences and
products that it executes.  The reading is `none` when the file cannot be read or does not have
its seven counters. -/
def readCpuUsage (t : CpuTimes) : Option CpuReading → CpuTimes × UInt32 × List WordOp
  | none => (t, 0, [])
  | some r =>
    -- the first reading is kept for the next one
    if t.prevTotal = 0 then (⟨r.total, r.idle⟩, 0, [])
    else
      let totalDiff := r.total - t.prevTotal
      let idleDiff := r.idle - t.prevIdle
      let diffs : List WordOp := [.sub r.total t.prevTotal, .sub r.idle t.prevIdle]
      if 0 < totalDiff then
        let busyDiff := totalDiff - idleDiff
        (⟨r.total, r.idle⟩, (100 * busyDiff / totalDiff).toUInt32,
          diffs ++ [.sub totalDiff idleDiff, .mul 100 busyDiff, .div (100 * busyDiff) totalDiff])
      else (⟨r.total, r.idle⟩, 0, diffs)

/-- What the module is called for: `param_query_init`, or a query of the CPU usage, at the given
time.  The reading is the one that `read_cpu_usage` gets if it is called. -/
inductive CpuEvent
  | init (now : ℤ) (reading : Option CpuReading)
  | query (now : ℤ) (reading : Option CpuReading)
deriving DecidableEq, Repr

/-- What comes of a call: the statistics afterwards, the operations executed, the value of
`read_cpu_usage` when it is called, and the value of `param_query_get_cpu_usage`. -/
structure CpuOutcome where
  after : CpuModule
  ops : List WordOp
  read : Option UInt32
  answer : Option UInt32

/-- `param_query_init`. -/
def paramQueryInit (now : ℤ) (reading : Option CpuReading) (m : CpuModule) : CpuOutcome :=
  let (times, usage, ops) := readCpuUsage m.times reading
  ⟨⟨times, ⟨0, 5, now⟩⟩, ops, some usage, none⟩

/-- The usage is read anew. -/
def CpuStats.Due (stats : CpuStats) (now : ℤ) : Prop :=
  stats.statPeriod.toNat ≤ now - stats.lastUpdate

instance (stats : CpuStats) (now : ℤ) : Decidable (stats.Due now) :=
  inferInstanceAs (Decidable (_ ≤ _))

/-- `param_query_get_cpu_usage`. -/
def paramQueryGetCpuUsage (now : ℤ) (reading : Option CpuReading) (m : CpuModule) : CpuOutcome :=
  if m.stats.Due now then
    let (times, usage, ops) := readCpuUsage m.times reading
    ⟨⟨times, { m.stats with cpuUsage := usage, lastUpdate := now }⟩, ops, some usage, some usage⟩
  else ⟨m, [], none, some m.stats.cpuUsage⟩

/-- The call of an event. -/
def cpuCall (m : CpuModule) : CpuEvent → CpuOutcome
  | .init now reading => paramQueryInit now reading m
  | .query now reading => paramQueryGetCpuUsage now reading m

/-- The calls as a transition system. -/
def cpuStep (m : CpuModule) (e : CpuEvent) (m' : CpuModule) : Prop := m' = (cpuCall m e).after

/-! ### Percentages -/

/-- A call is sound: its operations are exact, and the values that it returns or puts in the
response IE are percentages. -/
def Percent (m : CpuModule) (e : CpuEvent) : Prop :=
  (∀ op ∈ (cpuCall m e).ops, op.Exact) ∧ (∀ usage ∈ (cpuCall m e).read, usage.toNat ≤ 100) ∧
    ∀ usage ∈ (cpuCall m e).answer, usage.toNat ≤ 100 ∧
      ∀ env : ParamEnv, env.cpuUsage = usage.toNat → leNat (cpuUsageResp env).data ≤ 100

/-- From one reading to the next neither the sum of the counters nor the idle counter goes down,
and if the sum goes up, the idle counter does not go up by more, and the rest of the sum goes up
by less than a hundredth of `2 ^ 64`. -/
def CountersGrow (t : CpuTimes) (r : CpuReading) : Prop :=
  t.prevTotal ≤ r.total ∧ t.prevIdle ≤ r.idle ∧
    (t.prevTotal < r.total →
      r.idle.toNat - t.prevIdle.toNat ≤ r.total.toNat - t.prevTotal.toNat ∧
      100 * (r.total.toNat - t.prevTotal.toNat - (r.idle.toNat - t.prevIdle.toNat)) < 2 ^ 64)

/-- The reading that a call takes, unless it takes none. -/
def readingOf (m : CpuModule) : CpuEvent → Option CpuReading
  | .init _ reading => reading
  | .query now reading => if m.stats.Due now then reading else none

/-- The counters grow in the reading that the call compares with the one before. -/
def Grows (m : CpuModule) (e : CpuEvent) : Prop :=
  m.times.prevTotal ≠ 0 → ∀ r ∈ readingOf m e, CountersGrow m.times r

section Read

variable {t : CpuTimes} {r : CpuReading}

/-- With the sum of the counters as it was, the usage is 0. -/
lemma readCpuUsage_still (hprev : t.prevTotal ≠ 0) (hmove : ¬ 0 < r.total - t.prevTotal) :
    readCpuUsage t (some r) =
      (⟨r.total, r.idle⟩, 0, [.sub r.total t.prevTotal, .sub r.idle t.prevIdle]) := by
  simp only [readCpuUsage, if_neg hprev, if_neg hmove]

/-- With another sum of the counters, the usage is the share of the busy part. -/
lemma readCpuUsage_moved (hprev : t.prevTotal ≠ 0) (hmove : 0 < r.total - t.prevTotal) :
    readCpuUsage t (some r) =
      (⟨r.total, r.idle⟩,
        (100 * (r.total - t.prevTotal - (r.idle - t.prevIdle)) /
          (r.total - t.prevTotal)).toUInt32,
        [.sub r.total t.prevTotal, .sub r.idle t.prevIdle,
          .sub (r.total - t.prevTotal) (r.idle - t.prevIdle),
          .mul 100 (r.total - t.prevTotal - (r.idle - t.prevIdle)),
          .div (100 * (r.total - t.prevTotal - (r.idle - t.prevIdle)))
            (r.total - t.prevTotal)]) := by
  simp only [readCpuUsage, if_neg hprev, if_pos hmove, List.cons_append, List.nil_append]

/-- The sum of the counters has moved up when it has moved and has not gone down. -/
lemma total_lt_iff (hle : t.prevTotal ≤ r.total) :
    0 < r.total - t.prevTotal ↔ t.prevTotal < r.total := by
  have hsub : (r.total - t.prevTotal).toNat = r.total.toNat - t.prevTotal.toNat :=
    UInt64.toNat_sub_of_le _ _ hle
  rw [UInt64.lt_iff_toNat_lt, UInt64.lt_iff_toNat_lt, hsub, UInt64.toNat_zero]
  omega

/-- The operations of a reading are exact exactly when the counters grow. -/
lemma exact_iff_countersGrow (hprev : t.prevTotal ≠ 0) :
    (∀ op ∈ (readCpuUsage t (some r)).2.2, op.Exact) ↔ CountersGrow t r := by
  by_cases htotal : t.prevTotal ≤ r.total
  case neg =>
    -- the first difference wraps
    refine iff_of_false (fun h => htotal ?_) (fun h => htotal h.1)
    refine WordOp.exact_sub_iff.1 (h _ ?_)
    by_cases hmove : 0 < r.total - t.prevTotal
    · rw [readCpuUsage_moved hprev hmove]
      exact List.mem_cons_self
    · rw [readCpuUsage_still hprev hmove]
      exact List.mem_cons_self
  by_cases hmove : 0 < r.total - t.prevTotal
  · have hlt : t.prevTotal < r.total := (total_lt_iff htotal).1 hmove
    have htotalDiff := UInt64.toNat_sub_of_le _ _ htotal
    rw [readCpuUsage_moved hprev hmove]
    simp only [List.forall_mem_cons, List.not_mem_nil, false_imp_iff, implies_true, and_true,
      WordOp.exact_sub_iff, WordOp.exact_mul_iff, WordOp.exact_div_iff]
    constructor
    · rintro ⟨-, hidle, hbusy, hscaled, -⟩
      have hidleDiff := UInt64.toNat_sub_of_le _ _ hidle
      have hbusyDiff := UInt64.toNat_sub_of_le _ _ hbusy
      rw [hbusyDiff, htotalDiff, hidleDiff] at hscaled
      have hpart := UInt64.le_iff_toNat_le.1 hbusy
      rw [htotalDiff, hidleDiff] at hpart
      exact ⟨htotal, hidle, fun _ => ⟨hpart, hscaled⟩⟩
    · rintro ⟨-, hidle, hgrow⟩
      obtain ⟨hpart, hscaled⟩ := hgrow hlt
      have hidleDiff := UInt64.toNat_sub_of_le _ _ hidle
      have hbusy : r.idle - t.prevIdle ≤ r.total - t.prevTotal := by
        rw [UInt64.le_iff_toNat_le, htotalDiff, hidleDiff]
        exact hpart
      refine ⟨htotal, hidle, hbusy, ?_, UInt64.pos_iff_ne_zero.1 hmove⟩
      rw [UInt64.toNat_sub_of_le _ _ hbusy, htotalDiff, hidleDiff]
      exact hscaled
  · have hlt : ¬ t.prevTotal < r.total := fun h => hmove ((total_lt_iff htotal).2 h)
    rw [readCpuUsage_still hprev hmove]
    simp only [List.forall_mem_cons, List.not_mem_nil, false_imp_iff, implies_true, and_true,
      WordOp.exact_sub_iff]
    constructor
    · rintro ⟨-, hidle⟩
      exact ⟨htotal, hidle, fun h => absurd h hlt⟩
    · rintro ⟨-, hidle, -⟩
      exact ⟨htotal, hidle⟩

/-- A reading whose operations are exact yields a percentage. -/
lemma readCpuUsage_le (reading : Option CpuReading)
    (hexact : ∀ op ∈ (readCpuUsage t reading).2.2, op.Exact) :
    (readCpuUsage t reading).2.1.toNat ≤ 100 := by
  cases reading with
  | none => exact Nat.zero_le _
  | some r =>
    by_cases hprev : t.prevTotal = 0
    · simp [readCpuUsage, hprev]
    by_cases hmove : 0 < r.total - t.prevTotal
    · rw [readCpuUsage_moved hprev hmove] at hexact ⊢
      have hbusy : r.idle - t.prevIdle ≤ r.total - t.prevTotal :=
        WordOp.exact_sub_iff.1 (hexact _ (by simp))
      have hpart : r.total - t.prevTotal - (r.idle - t.prevIdle) ≤ r.total - t.prevTotal :=
        UInt64.sub_le hbusy
      have hmul : (WordOp.mul 100 (r.total - t.prevTotal - (r.idle - t.prevIdle))).Exact :=
        hexact _ (by simp)
      refine le_trans ?_ (WordOp.toNat_mul_div_le hmul hpart)
      rw [UInt64.toNat_toUInt32]
      exact Nat.mod_le _ _
    · rw [readCpuUsage_still hprev hmove]
      exact Nat.zero_le _

/-- The operations of a reading, whatever it is. -/
lemma exact_iff (reading : Option CpuReading) :
    (∀ op ∈ (readCpuUsage t reading).2.2, op.Exact) ↔
      (t.prevTotal ≠ 0 → ∀ r ∈ reading, CountersGrow t r) := by
  cases reading with
  | none => simp [readCpuUsage]
  | some r =>
    by_cases hprev : t.prevTotal = 0
    · simp [readCpuUsage, hprev]
    · simp only [exact_iff_countersGrow hprev, ne_eq, hprev, not_false_eq_true, forall_const,
        Option.mem_some_iff, forall_eq']

end Read

/-! ### Runs -/

/-- The usage in the response IE is the one that the module returns. -/
lemma cpuUsageResp_usage {env : ParamEnv} {usage : UInt32} (h : env.cpuUsage = usage.toNat) :
    leNat (cpuUsageResp env).data = usage.toNat := by
  rw [cpuUsageResp, leNat_leBytes, h]
  exact Nat.mod_eq_of_lt usage.toNat_lt

/-- With a percentage in the statistics, a call is sound exactly when the counters grow. -/
lemma percent_iff_grows {m : CpuModule} (hm : m.stats.cpuUsage.toNat ≤ 100) (e : CpuEvent) :
    Percent m e ↔ Grows m e := by
  cases e with
  | init now reading =>
    rw [Grows, readingOf, ← exact_iff reading]
    refine ⟨fun h => h.1, fun h => ⟨h, ?_, ?_⟩⟩
    · rintro usage ⟨⟩
      exact readCpuUsage_le reading h
    · rintro usage ⟨⟩
  | query now reading =>
    by_cases hdue : m.stats.Due now
    · rw [Grows, readingOf, if_pos hdue, ← exact_iff reading, Percent, cpuCall,
        paramQueryGetCpuUsage, if_pos hdue]
      refine ⟨fun h => h.1, fun h => ⟨h, ?_, ?_⟩⟩
      · rintro usage ⟨⟩
        exact readCpuUsage_le reading h
      · rintro usage ⟨⟩
        exact ⟨readCpuUsage_le reading h, fun env henv =>
          (cpuUsageResp_usage henv).trans_le (readCpuUsage_le reading h)⟩
    · rw [Grows, readingOf, if_neg hdue, Percent, cpuCall, paramQueryGetCpuUsage, if_neg hdue]
      refine iff_of_true ⟨by simp, by simp, ?_⟩ (by simp)
      rintro usage ⟨⟩
      exact ⟨hm, fun env henv => (cpuUsageResp_usage henv).trans_le hm⟩

/-- After a sound call there is a percentage in the statistics. -/
lemma percent_after {m : CpuModule} (hm : m.stats.cpuUsage.toNat ≤ 100) {e : CpuEvent}
    (h : Percent m e) : (cpuCall m e).after.stats.cpuUsage.toNat ≤ 100 := by
  cases e with
  | init now reading => exact Nat.zero_le _
  | query now reading =>
    obtain ⟨-, -, hanswer⟩ := h
    rw [cpuCall, paramQueryGetCpuUsage] at hanswer ⊢
    split_ifs at hanswer ⊢ with hdue
    · exact (hanswer _ rfl).1
    · exact hm

/-- In every run, all the calls are sound exactly when the counters grow in all the readings that
are compared with the one before. -/
theorem percent_along_iff (events : List CpuEvent) :
    Along cpuStep Percent cpuModuleInit events ↔ Along cpuStep Grows cpuModuleInit events := by
  refine along_congr_of (I := fun m => m.stats.cpuUsage.toNat ≤ 100) ?_ ?_ (Nat.zero_le _)
  · rintro m hm e - hpercent m' rfl
    exact percent_after hm hpercent
  · intro m hm e _
    exact percent_iff_grows hm e

/-- When the idle counter goes down by one while the others go up by a hundred, the usage is
101. -/
theorem percent_fails_idle_down :
    ¬ ∀ events : List CpuEvent, Along cpuStep Percent cpuModuleInit events := by
  intro h
  obtain ⟨-, hrest⟩ := h [.init 0 (some ⟨1000, 0, 0, 1000, 0, 0, 0⟩),
    .query 5 (some ⟨1100, 0, 0, 999, 0, 0, 0⟩)]
  obtain ⟨⟨-, hread, -⟩, -⟩ := hrest _ rfl
  exact absurd (hread 101 (by decide)) (by decide)

end AntennaMgmt.Query
