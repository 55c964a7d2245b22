import AntennaMgmt.Lib.Transition
import Mathlib.Algebra.Order.Ring.Int
import Mathlib.Data.List.Chain
import Mathlib.Tactic.Linarith

/-!
# The heartbeat of the base band unit

The link is given up when no heartbeat has come for about a minute.  The time is not measured as a
whole: a check that finds three seconds gone counts a miss and moves the time it reckons from, and
the twentieth miss is the timeout.  After that the time is not moved any more, and every check
counts.
-/

namespace AntennaMgmt.Heartbeat

open AntennaMgmt.Lib

/-- `HEARTBEAT_INTERVAL_SEC`. -/
abbrev heartbeatIntervalSec : ℤ := 3

/-- `HEARTBEAT_TIMEOUT_COUNT`. -/
abbrev heartbeatTimeoutCount : ℕ := 20

/-- `heartbeat_manager_t`, without the count of the heartbeats that were sent. -/
structure Manager where
  bbuHeartbeatMissCount : ℕ
  lastBbuHeartbeatTime : ℤ
  heartbeatEnabled : Bool
deriving DecidableEq

/-- `heartbeat_init`. -/
def heartbeatInit : Manager := ⟨0, 0, false⟩

/-- `heartbeat_start`. -/
def heartbeatStart (now : ℤ) : Manager := ⟨0, now, true⟩

/-- `heartbeat_stop`. -/
def heartbeatStop (m : Manager) : Manager := { m with heartbeatEnabled := false }

/-- `heartbeat_handle_bbu`, with a message or without one. -/
def heartbeatHandleBbu (m : Manager) (hasMsg : Bool) (now : ℤ) : Manager :=
  if hasMsg = false then m
  else if m.heartbeatEnabled = false then m
  else { m with lastBbuHeartbeatTime := now, bbuHeartbeatMissCount := 0 }

/-- `heartbeat_check_timeout`.  The misses are counted in 32 bits. -/
def heartbeatCheckTimeout (m : Manager) (now : ℤ) : Manager × Bool :=
  if m.heartbeatEnabled = false then (m, false)
  else if heartbeatIntervalSec ≤ now - m.lastBbuHeartbeatTime then
    let count := (m.bbuHeartbeatMissCount + 1) % 2 ^ 32
    if heartbeatTimeoutCount ≤ count then ({ m with bbuHeartbeatMissCount := count }, true)
    -- the time is moved, so that no second is counted twice
    else ({ m with bbuHeartbeatMissCount := count, lastBbuHeartbeatTime := now }, false)
  else (m, false)

/-- The calls. -/
inductive Call
  | start
  | stop
  | handleBbu (hasMsg : Bool)
  | checkTimeout
deriving DecidableEq, Repr

/-- What a call at a time does to the manager. -/
def Manager.after (m : Manager) (now : ℤ) : Call → Manager
  | .start => heartbeatStart now
  | .stop => heartbeatStop m
  | .handleBbu hasMsg => heartbeatHandleBbu m hasMsg now
  | .checkTimeout => (heartbeatCheckTimeout m now).1

/-- The call starts the heartbeats, or is a heartbeat that is handled. -/
def Manager.Revives (m : Manager) : Call → Prop
  | .start => True
  | .handleBbu hasMsg => hasMsg = true ∧ m.heartbeatEnabled = true
  | _ => False

instance (m : Manager) (c : Call) : Decidable (m.Revives c) := by
  cases c <;> unfold Manager.Revives <;> infer_instance

/-- The manager, and beside it what it is judged by: the time of the last call, and that of the last
start or handled heartbeat. -/
structure Sys where
  manager : Manager
  now : ℤ
  alive : ℤ

/-- Before the first call. -/
def Sys.init (now : ℤ) : Sys := ⟨heartbeatInit, now, now⟩

/-- A call at a time. -/
def Sys.call (s : Sys) (a : ℤ × Call) : Sys :=
  ⟨s.manager.after a.1 a.2, a.1, if s.manager.Revives a.2 then a.1 else s.alive⟩

/-- A call, no earlier than the one before. -/
def Step (s : Sys) (a : ℤ × Call) (s' : Sys) : Prop := s.now ≤ a.1 ∧ s' = s.call a

/-! ### What a check does -/

/-- The count after another miss. -/
def Manager.nextCount (m : Manager) : ℕ := (m.bbuHeartbeatMissCount + 1) % 2 ^ 32

/-- The ways a check can go. -/
inductive CheckCase (m : Manager) (now : ℤ) : Manager × Bool → Prop
  | disabled : m.heartbeatEnabled = false → CheckCase m now (m, false)
  | early : m.heartbeatEnabled = true → now < m.lastBbuHeartbeatTime + 3 →
      CheckCase m now (m, false)
  | missed : m.heartbeatEnabled = true → m.lastBbuHeartbeatTime + 3 ≤ now → m.nextCount < 20 →
      CheckCase m now (⟨m.nextCount, now, true⟩, false)
  | timedOut : m.heartbeatEnabled = true → m.lastBbuHeartbeatTime + 3 ≤ now → 20 ≤ m.nextCount →
      CheckCase m now (⟨m.nextCount, m.lastBbuHeartbeatTime, true⟩, true)

lemma checkCase (m : Manager) (now : ℤ) : CheckCase m now (heartbeatCheckTimeout m now) := by
  have hinterval : heartbeatIntervalSec = 3 := rfl
  obtain ⟨count, last, enabled⟩ := m
  cases enabled with
  | false => exact .disabled rfl
  | true =>
    rw [heartbeatCheckTimeout, if_neg Bool.noConfusion]
    dsimp only
    split_ifs with hlate hcount
    · exact .timedOut rfl (by dsimp only; omega) hcount
    · exact .missed rfl (by dsimp only; omega) (not_le.1 hcount)
    · exact .early rfl (by dsimp only; omega)

/-! ### A timeout is never early -/

/-- Each of the first nineteen misses that are counted stands for three seconds. -/
def Sys.Reckons (s : Sys) : Prop :=
  s.manager.heartbeatEnabled = true →
    s.alive + 3 * (min s.manager.bbuHeartbeatMissCount 19 : ℕ) ≤ s.manager.lastBbuHeartbeatTime ∧
      s.manager.lastBbuHeartbeatTime ≤ s.now

variable {s s' : Sys} {a : ℤ × Call}

lemma Sys.Reckons.wait (h : s.Reckons) {t : ℤ} (ht : s.now ≤ t) :
    Sys.Reckons ⟨s.manager, t, s.alive⟩ :=
  fun hon => ⟨(h hon).1, (h hon).2.trans ht⟩

lemma Sys.Reckons.check (h : s.Reckons) {t : ℤ} (ht : s.now ≤ t) :
    Sys.Reckons ⟨(heartbeatCheckTimeout s.manager t).1, t, s.alive⟩ := by
  have hcase := checkCase s.manager t
  generalize heartbeatCheckTimeout s.manager t = r at hcase
  cases hcase with
  | disabled hoff => exact h.wait ht
  | early hon hearly => exact h.wait ht
  | missed hon hlate hcount =>
    intro _
    obtain ⟨hle, hlast⟩ := h hon
    unfold Manager.nextCount at hcount ⊢
    dsimp only
    omega
  | timedOut hon hlate hcount =>
    intro _
    obtain ⟨hle, hlast⟩ := h hon
    unfold Manager.nextCount at hcount ⊢
    dsimp only
    omega

/-- Where the reckoning starts. -/
lemma reckons_alive (t : ℤ) : Sys.Reckons ⟨⟨0, t, true⟩, t, t⟩ := by
  intro _
  dsimp only
  omega

lemma Sys.Reckons.step (h : s.Reckons) (hstep : Step s a s') : s'.Reckons := by
  obtain ⟨t, c⟩ := a
  obtain ⟨ht, rfl⟩ := hstep
  cases c with
  | start => exact reckons_alive t
  | stop => exact nofun
  | handleBbu hasMsg =>
    cases hasMsg with
    | false => exact h.wait ht
    | true =>
      cases hon : s.manager.heartbeatEnabled with
      | false =>
        intro hstill
        simp [Sys.call, Manager.after, heartbeatHandleBbu, hon] at hstill
      | true =>
        have hafter : s.manager.after t (.handleBbu true) = ⟨0, t, true⟩ := by
          simp [Manager.after, heartbeatHandleBbu, hon]
        rw [Sys.call, hafter, if_pos ⟨rfl, hon⟩]
        exact reckons_alive t
  | checkTimeout => exact h.check ht

/-- A check that reports a timeout is made a minute after the last sign of life, or later. -/
lemma Sys.Reckons.timeout (h : s.Reckons) {t : ℤ}
    (hout : (heartbeatCheckTimeout s.manager t).2 = true) :
    s.manager.heartbeatEnabled = true ∧ 60 ≤ t - s.alive := by
  have hcase := checkCase s.manager t
  generalize heartbeatCheckTimeout s.manager t = r at hcase hout
  cases hcase with
  | disabled => cases hout
  | early => cases hout
  | missed => cases hout
  | timedOut hon hlate hcount =>
    obtain ⟨hle, -⟩ := h hon
    unfold Manager.nextCount at hcount
    exact ⟨hon, by omega⟩

lemma reckons_of_run {t₀ : ℤ} {l : List (ℤ × Call)} (h : Run Step (Sys.init t₀) l s) :
    s.Reckons :=
  h.invariant (fun _ _ _ hs hstep => hs.step hstep) nofun

/-! ### A silent unit is timed out -/

/-- Calls among which no heartbeat and no start or stop is. -/
def Call.Silent : Call → Prop
  | .handleBbu hasMsg => hasMsg = false
  | .checkTimeout => True
  | _ => False

/-- What is seen of a check: its time, the misses that are counted after it, and its result. -/
structure Checked where
  time : ℤ
  missCount : ℕ
  timedOut : Bool

/-- The checks among the calls. -/
def checked (m : Manager) : List (ℤ × Call) → List Checked
  | [] => []
  | (t, .checkTimeout) :: l =>
    ⟨t, (heartbeatCheckTimeout m t).1.bbuHeartbeatMissCount, (heartbeatCheckTimeout m t).2⟩ ::
      checked (heartbeatCheckTimeout m t).1 l
  | (t, c) :: l => checked (m.after t c) l

/-- The times of the checks. -/
def checkTimes (l : List (ℤ × Call)) : List ℤ :=
  l.filterMap fun a => if a.2 = .checkTimeout then some a.1 else none

/-- The checks of a unit that was last alive at `T` report a timeout in time, and go on to. -/
structure TimesOut (T : ℤ) (g : ℕ) (cs : List Checked) : Prop where
  inTime : (∃ c ∈ cs, T + 20 * (3 + g) ≤ c.time + g) →
    ∃ c ∈ cs, c.timedOut = true ∧ c.time ≤ T + 20 * (3 + g)
  lasting : ∀ pre e post, cs = pre ++ e :: post → (∀ c ∈ pre, c.missCount < 19) →
    e.missCount = 19 → ∀ c ∈ post, e.time + 3 ≤ c.time → c.timedOut = true

/-- The checks are never more than `g` seconds apart. -/
def Spaced (g : ℕ) : List ℤ → Prop := List.IsChain fun t u => t ≤ u ∧ u ≤ t + g

/-- A check does not count a miss when the count of them is at its greatest value. -/
def CountsOn (s : Sys) (a : ℤ × Call) : Prop :=
  a.2 = .checkTimeout → s.manager.heartbeatEnabled = true →
    s.manager.lastBbuHeartbeatTime + heartbeatIntervalSec ≤ a.1 →
      s.manager.bbuHeartbeatMissCount + 1 < 2 ^ 32

variable {l : List (ℤ × Call)}

lemma checked_check (m : Manager) (t : ℤ) (l : List (ℤ × Call)) :
    checked m ((t, .checkTimeout) :: l) =
      ⟨t, (heartbeatCheckTimeout m t).1.bbuHeartbeatMissCount, (heartbeatCheckTimeout m t).2⟩ ::
        checked (heartbeatCheckTimeout m t).1 l := rfl

/-- Of a silent call only a check does anything. -/
lemma Call.Silent.cases {c : Call} (h : c.Silent) : c = .handleBbu false ∨ c = .checkTimeout := by
  cases c with
  | start => cases h
  | stop => cases h
  | handleBbu hasMsg => exact .inl (congrArg _ h)
  | checkTimeout => exact .inr rfl

/-- The nineteen misses before the last one take three seconds each, and so long as the checks are
apart. -/
lemma exists_timedOut {g count k : ℕ} {last prev : ℤ} (hk : count + (k + 1) = 20)
    (hprev : last ≤ prev) (hearly : prev < last + 3) (hsilent : ∀ a ∈ l, a.2.Silent)
    (hspaced : Spaced g (prev :: checkTimes l))
    (hlong : ∃ c ∈ checked ⟨count, last, true⟩ l, last + (k + 1) * (3 + g) ≤ c.time + g) :
    ∃ c ∈ checked ⟨count, last, true⟩ l, c.timedOut = true ∧
      c.time ≤ last + (k + 1) * (3 + g) := by
  induction l generalizing count k last prev with
  | nil =>
    obtain ⟨c, hc, -⟩ := hlong
    cases hc
  | cons a l ih =>
    obtain ⟨t, c⟩ := a
    have hrest : ∀ a ∈ l, a.2.Silent := fun a ha => hsilent a (List.mem_cons_of_mem _ ha)
    rcases (hsilent _ List.mem_cons_self).cases with rfl | rfl
    · exact ih hk hprev hearly hrest hspaced hlong
    have htimes : checkTimes ((t, .checkTimeout) :: l) = t :: checkTimes l := rfl
    rw [htimes, Spaced, List.isChain_cons_cons] at hspaced
    obtain ⟨⟨hle, hgap⟩, hspaced⟩ := hspaced
    rw [checked_check] at hlong ⊢
    obtain ⟨c, hc, hreach⟩ := hlong
    have hcase := checkCase ⟨count, last, true⟩ t
    generalize heartbeatCheckTimeout ⟨count, last, true⟩ t = r at hcase hc ⊢
    have hnext : (⟨count, last, true⟩ : Manager).nextCount = count + 1 :=
      Nat.mod_eq_of_lt (by dsimp only; omega)
    have hspan : (0 : ℤ) ≤ k * (3 + g) := by positivity
    cases hcase with
    | disabled hoff => cases hoff
    | early _ hlate =>
      dsimp only at hlate
      rcases List.mem_cons.1 hc with rfl | hc
      · -- the check would have to be one that is not early
        dsimp only at hreach
        nlinarith
      · obtain ⟨d, hd, hout⟩ := ih hk (hprev.trans hle) hlate hrest hspaced ⟨c, hc, hreach⟩
        exact ⟨d, List.mem_cons_of_mem _ hd, hout⟩
    | timedOut _ hlate hcount =>
      refine ⟨_, List.mem_cons_self, rfl, ?_⟩
      dsimp only
      nlinarith
    | missed _ hlate hcount =>
      rw [hnext] at hcount hc ⊢
      obtain ⟨j, rfl⟩ : ∃ j, k = j + 1 := ⟨k - 1, by omega⟩
      have hspan : (0 : ℤ) ≤ j * (3 + g) := by positivity
      push_cast at hreach ⊢
      rcases List.mem_cons.1 hc with rfl | hc
      · dsimp only at hreach
        nlinarith
      · obtain ⟨d, hd, hout, htime⟩ := @ih (count + 1) j t t (by omega) le_rfl (by omega) hrest
          hspaced ⟨c, hc, by nlinarith⟩
        exact ⟨d, List.mem_cons_of_mem _ hd, hout, by nlinarith⟩

/-- After the nineteenth miss the time is not moved any more. -/
lemma timedOut_of_counted {count : ℕ} {last : ℤ} (h : Run (restrict Step CountsOn) s l s')
    (hm : s.manager = ⟨count, last, true⟩) (hcount : 19 ≤ count)
    (hsilent : ∀ a ∈ l, a.2.Silent) :
    ∀ c ∈ checked s.manager l, last + 3 ≤ c.time → c.timedOut = true := by
  induction h generalizing count with
  | nil => exact fun _ hc => nomatch hc
  | @cons s s' s'' a l hstep hrun ih =>
    obtain ⟨t, call⟩ := a
    obtain ⟨⟨ht, rfl⟩, hok⟩ := hstep
    have hrest : ∀ a ∈ l, a.2.Silent := fun a ha => hsilent a (List.mem_cons_of_mem _ ha)
    rcases (hsilent _ List.mem_cons_self).cases with rfl | rfl
    · exact ih hm hcount hrest
    have hnext : last + 3 ≤ t → (⟨count, last, true⟩ : Manager).nextCount = count + 1 := by
      intro hlate
      have hmax := hok rfl
      rw [hm] at hmax
      exact Nat.mod_eq_of_lt (hmax rfl hlate)
    have hafter : (s.call (t, .checkTimeout)).manager = (heartbeatCheckTimeout s.manager t).1 :=
      rfl
    rw [hafter, hm] at ih
    rw [hm, checked_check]
    have hcase := checkCase ⟨count, last, true⟩ t
    generalize heartbeatCheckTimeout ⟨count, last, true⟩ t = r at hcase ih
    rintro c hc hlate
    cases hcase with
    | disabled hoff => cases hoff
    | early _ hearly =>
      rcases List.mem_cons.1 hc with rfl | hc
      · exact absurd hearly (not_lt.2 hlate)
      · exact ih rfl hcount hrest c hc hlate
    | missed _ hcounts hless =>
      rw [hnext hcounts] at hless
      omega
    | timedOut _ hcounts hmore =>
      rcases List.mem_cons.1 hc with rfl | hc
      · rfl
      · rw [hnext hcounts] at ih hc
        exact ih rfl (by omega) hrest c hc hlate

/-- Whatever the checks before the nineteenth miss were, those after it report a timeout. -/
lemma timedOut_of_nineteenth {count : ℕ} {last : ℤ} (h : Run (restrict Step CountsOn) s l s')
    (hm : s.manager = ⟨count, last, true⟩) (hcount : count < 19)
    (hsilent : ∀ a ∈ l, a.2.Silent) {pre post : List Checked} {e : Checked}
    (heq : checked s.manager l = pre ++ e :: post) (hpre : ∀ c ∈ pre, c.missCount < 19)
    (he : e.missCount = 19) : ∀ c ∈ post, e.time + 3 ≤ c.time → c.timedOut = true := by
  induction h generalizing count last pre with
  | nil => exact absurd heq.symm (List.append_ne_nil_of_right_ne_nil pre (List.cons_ne_nil e post))
  | @cons s s' s'' a l hstep hrun ih =>
    obtain ⟨t, call⟩ := a
    obtain ⟨⟨ht, rfl⟩, -⟩ := hstep
    have hrest : ∀ a ∈ l, a.2.Silent := fun a ha => hsilent a (List.mem_cons_of_mem _ ha)
    rcases (hsilent _ List.mem_cons_self).cases with rfl | rfl
    · exact ih hm hcount hrest heq hpre
    have hnext : (⟨count, last, true⟩ : Manager).nextCount = count + 1 :=
      Nat.mod_eq_of_lt (by dsimp only; omega)
    have hcounted := fun {n τ} => @timedOut_of_counted _ _ _ n τ hrun
    have hafter : (s.call (t, .checkTimeout)).manager = (heartbeatCheckTimeout s.manager t).1 :=
      rfl
    rw [hafter, hm] at ih hcounted
    rw [hm, checked_check] at heq
    have hcase := checkCase ⟨count, last, true⟩ t
    generalize heartbeatCheckTimeout ⟨count, last, true⟩ t = r at hcase ih heq hcounted
    cases hcase with
    | disabled hoff => cases hoff
    | timedOut _ _ hmore => omega
    | early _ _ =>
      cases pre with
      | nil =>
        obtain ⟨rfl, -⟩ := List.cons.inj heq
        dsimp only at he
        omega
      | cons c pre =>
        exact ih rfl hcount hrest (List.cons.inj heq).2 fun d hd =>
          hpre d (List.mem_cons_of_mem _ hd)
    | missed _ _ hless =>
      cases pre with
      | nil =>
        -- this is the check that counts the nineteenth miss
        obtain ⟨rfl, rfl⟩ := List.cons.inj heq
        exact hcounted rfl he.ge hrest
      | cons c pre =>
        obtain ⟨rfl, htail⟩ := List.cons.inj heq
        exact ih rfl (hpre _ List.mem_cons_self) hrest htail fun d hd =>
          hpre d (List.mem_cons_of_mem _ hd)

/-- The manager after a sign of life. -/
lemma after_revives {m : Manager} {c : Call} (h : m.Revives c) (t : ℤ) :
    m.after t c = ⟨0, t, true⟩ := by
  cases c with
  | start => rfl
  | stop => cases h
  | handleBbu hasMsg =>
    obtain ⟨rfl, hon⟩ := h
    simp [Manager.after, heartbeatHandleBbu, hon]
  | checkTimeout => cases h

/-! ### Checks of a unit that is silent since the start -/

/-- Calls that are no earlier than one another can be made. -/
lemma run_calls (h : List.IsChain (· ≤ ·) (s.now :: l.map Prod.fst)) :
    Run Step s l (l.foldl Sys.call s) := by
  induction l generalizing s with
  | nil => exact .nil s
  | cons a l ih =>
    rw [List.map_cons, List.isChain_cons_cons] at h
    exact .cons ⟨h.1, rfl⟩ (ih h.2)

/-- Nineteen checks, three seconds apart. -/
def firstMisses : List (ℤ × Call) :=
  (List.range 19).map fun i => (3 * ((i : ℤ) + 1), .checkTimeout)

lemma checked_firstMisses (l : List (ℤ × Call)) :
    checked ⟨0, 0, true⟩ (firstMisses ++ l) =
      (List.range 18).map (fun i => ⟨3 * ((i : ℤ) + 1), i + 1, false⟩) ++
        ⟨57, 19, false⟩ :: checked ⟨19, 57, true⟩ l := rfl

/-- A call counts one miss at most. -/
lemma missCount_after_le (m : Manager) (t : ℤ) (c : Call) :
    (m.after t c).bbuHeartbeatMissCount ≤ m.bbuHeartbeatMissCount + 1 := by
  cases c with
  | start => exact Nat.zero_le _
  | stop => exact Nat.le_succ _
  | handleBbu hasMsg =>
    rw [Manager.after, heartbeatHandleBbu]
    split_ifs
    · exact Nat.le_succ _
    · exact Nat.le_succ _
    · exact Nat.zero_le _
  | checkTimeout =>
    rw [Manager.after]
    have hcase := checkCase m t
    generalize heartbeatCheckTimeout m t = r at hcase
    cases hcase with
    | disabled => exact Nat.le_succ _
    | early => exact Nat.le_succ _
    | missed => exact Nat.mod_le _ _
    | timedOut => exact Nat.mod_le _ _

/-- No run of fewer than `2 ^ 32` calls reaches the overflow. -/
lemma run_countsOn (h : Run Step s l s')
    (hlen : s.manager.bbuHeartbeatMissCount + l.length < 2 ^ 32) :
    Run (restrict Step CountsOn) s l s' := by
  induction h with
  | nil s => exact .nil s
  | @cons s s' s'' a l hstep hrun ih =>
    rw [List.length_cons] at hlen
    have hle := missCount_after_le s.manager a.1 a.2
    refine .cons ⟨hstep, fun _ _ _ => by omega⟩ (ih ?_)
    have hcall : s'.manager = s.manager.after a.1 a.2 := congrArg Sys.manager hstep.2
    rw [hcall]
    omega

/-- What is checked after `n` more misses. -/
lemma mem_checked_replicate {count n : ℕ} (hcount : 19 ≤ count) (hmax : count + n < 2 ^ 32)
    {c : Checked} (hc : c ∈ checked ⟨count + n, 57, true⟩ l) :
    c ∈ checked ⟨count, 57, true⟩ (List.replicate n (60, .checkTimeout) ++ l) := by
  induction n generalizing count with
  | zero => exact hc
  | succ n ih =>
    have hnext : (⟨count, 57, true⟩ : Manager).nextCount = count + 1 :=
      Nat.mod_eq_of_lt (by dsimp only; omega)
    have hafter : (heartbeatCheckTimeout ⟨count, 57, true⟩ 60).1 = ⟨count + 1, 57, true⟩ := by
      have hcase := checkCase ⟨count, 57, true⟩ 60
      generalize heartbeatCheckTimeout ⟨count, 57, true⟩ 60 = r at hcase
      cases hcase with
      | disabled hoff => cases hoff
      | early _ hearly => exact absurd hearly (by dsimp only; omega)
      | missed _ _ hless => omega
      | timedOut => rw [hnext]
    rw [List.replicate_succ, List.cons_append, checked_check, hafter]
    refine List.mem_cons_of_mem _ (ih (by omega) (by omega) ?_)
    rwa [Nat.add_assoc, Nat.add_comm 1 n]

/-- Nineteen misses, and then checks that are all made at one time. -/
def countedOut (n : ℕ) : List (ℤ × Call) :=
  firstMisses ++ List.replicate (n + 1) (60, .checkTimeout)

lemma countedOut_checks (n : ℕ) : ∀ a ∈ countedOut n, a.2 = .checkTimeout := by
  intro a ha
  rcases List.mem_append.1 ha with ha | ha
  · obtain ⟨i, -, rfl⟩ := List.mem_map.1 ha
    rfl
  · rw [List.eq_of_mem_replicate ha]

lemma checkTimes_of_checks (h : ∀ a ∈ l, a.2 = .checkTimeout) : checkTimes l = l.map Prod.fst := by
  rw [checkTimes, ← List.filterMap_eq_map]
  exact List.filterMap_congr fun a ha => if_pos (h a ha)

lemma isChain_countedOut {R : ℤ → ℤ → Prop}
    (hfirst : List.IsChain R (0 :: firstMisses.map Prod.fst)) (hlast : R 57 60) (hsame : R 60 60)
    (n : ℕ) : List.IsChain R (0 :: (countedOut n).map Prod.fst) := by
  rw [countedOut, List.map_append, List.map_replicate, ← List.cons_append]
  refine List.isChain_append.2 ⟨hfirst, List.isChain_replicate_of_rel _ hsame, ?_⟩
  intro x hx y hy
  obtain rfl : 57 = x := Option.some.inj hx
  obtain rfl : 60 = y := Option.some.inj hy
  exact hlast

lemma silent_countedOut (n : ℕ) : ∀ a ∈ countedOut n, a.2.Silent := by
  intro a ha
  rw [countedOut_checks n a ha]
  trivial

lemma spaced_countedOut (n : ℕ) : Spaced 3 (0 :: checkTimes (countedOut n)) := by
  rw [checkTimes_of_checks (countedOut_checks n)]
  exact isChain_countedOut (by decide) (by decide) (by decide) n

/-- The calls of `countedOut` after a start at zero. -/
lemma run_countedOut (n : ℕ) : Run Step ⟨⟨0, 0, true⟩, 0, 0⟩ (countedOut n)
    ((countedOut n).foldl Sys.call ⟨⟨0, 0, true⟩, 0, 0⟩) :=
  run_calls (isChain_countedOut (by decide) (by decide) (by decide) n)

/-- A timeout is reported no earlier than a minute after the last start or handled heartbeat; and
when nothing but checks follow one, it is reported in time and from then on, as long as the count
of the misses does not overflow. -/
theorem heartbeat_timeout {t₀ : ℤ} {l₀ : List (ℤ × Call)} {s₀ : Sys}
    (hreached : Run Step (Sys.init t₀) l₀ s₀) :
    (∀ t : ℤ, s₀.now ≤ t → (heartbeatCheckTimeout s₀.manager t).2 = true →
      s₀.manager.heartbeatEnabled = true ∧ 60 ≤ t - s₀.alive) ∧
    ∀ (l : List (ℤ × Call)) (s s' : Sys) (T : ℤ) (c : Call) (g : ℕ),
      Step s₀ (T, c) s → s₀.manager.Revives c → (∀ a ∈ l, a.2.Silent) →
        Spaced g (T :: checkTimes l) → Run (restrict Step CountsOn) s l s' →
          TimesOut T g (checked s.manager l) := by
  constructor
  · intro t _ hout
    exact (reckons_of_run hreached).timeout hout
  · intro l s s' T c g hstep hrevives hsilent hspaced hrun
    have hm : s.manager = ⟨0, T, true⟩ := by
      rw [hstep.2]
      exact after_revives hrevives T
    refine ⟨fun hlong => ?_, fun pre e post heq hpre he => ?_⟩
    · have hintime := @exists_timedOut l g 0 19 T T rfl le_rfl (by omega) hsilent hspaced
      have htwenty : ((19 : ℕ) : ℤ) + 1 = 20 := rfl
      rw [htwenty] at hintime
      rw [hm] at hlong ⊢
      exact hintime hlong
    · exact timedOut_of_nineteenth hrun hm (by omega) hsilent heq hpre he

theorem heartbeat_timeout_silent :
    60 ≤ 60 - (firstMisses.foldl Sys.call ⟨⟨0, 0, true⟩, 0, 0⟩).alive ∧
      TimesOut 0 3 (checked ⟨0, 0, true⟩ (countedOut 0)) :=
  ⟨((@heartbeat_timeout 0 ((0, .start) :: firstMisses) _
      (.cons ⟨le_rfl, rfl⟩ (run_calls (by decide)))).1 60 (by decide) (by decide)).2,
    (heartbeat_timeout (.nil (Sys.init 0))).2 (countedOut 0) _ _ 0 .start 3 ⟨le_rfl, rfl⟩ trivial
      (silent_countedOut 0) (spaced_countedOut 0) (run_countsOn (run_countedOut 0) (by decide))⟩

/-- The base band unit is silent since the start.  The check that brings the count of the misses
back to zero reports no timeout, three seconds after the nineteenth miss. -/
theorem heartbeat_overflows :
    ¬ ∀ (t₀ : ℤ) (l₀ l : List (ℤ × Call)) (s₀ s s' : Sys) (T : ℤ) (c : Call) (g : ℕ),
      Run Step (Sys.init t₀) l₀ s₀ → Step s₀ (T, c) s → s₀.manager.Revives c →
        (∀ a ∈ l, a.2.Silent) → Spaced g (T :: checkTimes l) →
          Run Step s l s' → TimesOut T g (checked s.manager l) := by
  intro hall
  obtain ⟨n, hn⟩ : ∃ n, n + 20 = 2 ^ 32 := ⟨2 ^ 32 - 20, rfl⟩
  have hout := (hall 0 [] _ _ _ _ 0 .start 3 (.nil _) ⟨le_rfl, rfl⟩ trivial
    (silent_countedOut n) (spaced_countedOut n) (run_countedOut n)).lasting _ _ _
    (checked_firstMisses _) (by decide) rfl ⟨60, 0, false⟩
  have hzero : (⟨60, 0, false⟩ : Checked) ∈
      checked ⟨19 + n, 57, true⟩ [(60, .checkTimeout)] := by
    have hnext : (⟨19 + n, 57, true⟩ : Manager).nextCount = 0 := by
      rw [Manager.nextCount]
      dsimp only
      omega
    have hcase := checkCase ⟨19 + n, 57, true⟩ 60
    rw [checked_check]
    generalize heartbeatCheckTimeout ⟨19 + n, 57, true⟩ 60 = r at hcase
    cases hcase with
    | disabled hoff => cases hoff
    | early _ hearly => exact absurd hearly (by dsimp only; omega)
    | missed =>
      rw [hnext]
      exact List.mem_cons_self
    | timedOut _ _ hmore => omega
  rw [List.replicate_succ'] at hout
  exact Bool.noConfusion (hout (mem_checked_replicate le_rfl (by omega) hzero) (by decide))

end AntennaMgmt.Heartbeat
