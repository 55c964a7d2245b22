import AntennaMgmt.Cell.Calls

/-!
# TX follows the effective frequencies

`update_tx_control` tells the antenna whether some frequency is in force.  It is called where
a frequency is deleted or comes into force, but a request to establish a frequency first takes
the mark off the record of its beam, and then may end without the call.  The file says when
that leaves the antenna transmitting with no frequency in force, over all runs of calls.
-/

namespace AntennaMgmt.Cell

open AntennaMgmt.Lib CellConfigManager

/-- The last TX command, if there was one, says whether some frequency is in force. -/
def TxFollows (s : Station) : Prop :=
  ∀ on, s.lastTx = some on → (on = true ↔ ∃ i j, s.mgr.Effective i j)

/-- The antenna accepts the TX commands of the call. -/
def Call.TxOk : Call → Prop
  | .cell _ txOk => txOk
  | .freq _ e => e.txOk

/-- Frequencies are in force, and all of them are the one of the request's cell and beam. -/
def CellConfigManager.OnlyEffective (m : CellConfigManager) (freqCfg : FreqConfigIe) : Prop :=
  (∃ i j, m.Effective i j) ∧ ∀ i j, m.Effective i j →
    (m.cells i).localCellId = freqCfg.localCellId ∧ (m.freqs i j).beamId = freqCfg.beamId

/-- The call is to establish anew the only frequency in force, and is refused. -/
def DropsLast (s : Station) : Call → Prop
  | .cell _ _ => False
  | .freq freqCfg e => freqCfg.freqCfgFlag = .establish ∧ s.mgr.OnlyEffective freqCfg ∧
      Refused s.mgr freqCfg e

/-! ### The effective frequencies -/

section Table

variable {m : CellConfigManager} {i : Fin maxCells} {freqCfg : FreqConfigIe}
  {slot : Fin maxFreqsPerCell × CellInfo}

/-- Storing a frequency takes its slot out of force, and only that. -/
lemma storeFreq_effective (hslot : m.slotFor i freqCfg.beamId = some slot) (k : Fin maxCells)
    (j : Fin maxFreqsPerCell) :
    (m.storeFreq i slot freqCfg).Effective k j ↔ m.Effective k j ∧ ¬ (k = i ∧ j = slot.1) := by
  obtain ⟨-, hactive, -, -⟩ := storeFreq_self hslot
  rcases eq_or_ne k i with rfl | hk
  · rcases eq_or_ne j slot.1 with rfl | hj
    · simp [Effective, CellConfigManager.storeFreq, storeFreqInfo]
    · simp [Effective, CellConfigManager.storeFreq, hactive, hj]
  · rw [CellConfigManager.storeFreq, setRow_effective_of_ne hk]
    simp [hk]

/-- A frequency in force under the request's cell and beam is the one that the searches
find. -/
lemma findFreq_of_effective (h : TableInv m) (hcell : m.findCell freqCfg.localCellId = some i)
    {k : Fin maxCells} {j : Fin maxFreqsPerCell} (hkj : m.Effective k j)
    (hid : (m.cells k).localCellId = freqCfg.localCellId)
    (hbeam : (m.freqs k j).beamId = freqCfg.beamId) :
    k = i ∧ m.findFreq i freqCfg.beamId = some j := by
  obtain ⟨hactive, hid'⟩ := findCell_some hcell
  obtain rfl := h.cell_ids k i hkj.1 hactive (hid.trans hid'.symm)
  refine ⟨rfl, findSlot_of_unique (by simp [hkj.2.1, hbeam]) fun j' hj' => ?_⟩
  have hj'' : (m.freqs k j').active ∧ (m.freqs k j').beamId = freqCfg.beamId := by
    simpa using hj'
  exact (h.row k).beam_ids j' j hj''.1 hkj.2.1 (hj''.2.trans hbeam.symm)

/-- Storing a frequency leaves some frequency in force unless it was the only one. -/
lemma exists_effective_storeFreq (h : TableInv m)
    (hcell : m.findCell freqCfg.localCellId = some i)
    (hslot : m.slotFor i freqCfg.beamId = some slot) :
    (∃ k j, (m.storeFreq i slot freqCfg).Effective k j) ↔
      (∃ k j, m.Effective k j) ∧ ¬ m.OnlyEffective freqCfg := by
  constructor
  · rintro ⟨k, j, hkj⟩
    rw [storeFreq_effective hslot] at hkj
    refine ⟨⟨k, j, hkj.1⟩, fun honly => hkj.2 ?_⟩
    obtain ⟨hid, hbeam⟩ := honly.2 k j hkj.1
    obtain ⟨hk, hfind⟩ := findFreq_of_effective h hcell hkj.1 hid hbeam
    refine ⟨hk, ?_⟩
    rcases slotFor_some hslot with ⟨hfind', -⟩ | ⟨hnone, -⟩
    · rw [hfind] at hfind'
      exact Option.some.inj hfind'
    · rw [hfind] at hnone
      cases hnone
  · rintro ⟨hex, hnot⟩
    -- a frequency in force under another cell or beam is not touched
    have hother : ∃ k j, m.Effective k j ∧ ¬ ((m.cells k).localCellId = freqCfg.localCellId ∧
        (m.freqs k j).beamId = freqCfg.beamId) := by
      by_contra hall
      push Not at hall
      exact hnot ⟨hex, fun k j hkj => by simpa using hall k j hkj⟩
    obtain ⟨k, j, hkj, hne⟩ := hother
    refine ⟨k, j, (storeFreq_effective hslot k j).2 ⟨hkj, ?_⟩⟩
    rintro ⟨rfl, rfl⟩
    rcases slotFor_some hslot with ⟨hfind, -⟩ | ⟨-, hfree, -⟩
    · exact hne ⟨(findCell_some hcell).2, (findFreq_some hfind).2⟩
    · have hactive := hkj.2.1
      rw [freeFreq_some hfree] at hactive
      cases hactive

/-- The only frequency in force has a slot. -/
lemma not_onlyEffective_of_slotFor_none (h : TableInv m)
    (hcell : m.findCell freqCfg.localCellId = some i)
    (hslot : m.slotFor i freqCfg.beamId = none) : ¬ m.OnlyEffective freqCfg := by
  rintro ⟨⟨k, j, hkj⟩, honly⟩
  obtain ⟨hid, hbeam⟩ := honly k j hkj
  obtain ⟨-, hfind⟩ := findFreq_of_effective h hcell hkj hid hbeam
  rw [slotFor, hfind] at hslot
  cases hslot

/-- A change of a cell record that is not one of its activity, and the writing of a cell into a
free slot, put nothing in force and take nothing out. -/
lemma setRow_effective (c : CellInfo) (k : Fin maxCells) (j : Fin maxFreqsPerCell)
    (hc : c.active = (m.cells i).active ∨ ∀ j, (m.freqs i j).active = false) :
    (m.setRow i c (m.freqs i)).Effective k j ↔ m.Effective k j := by
  rcases eq_or_ne k i with rfl | hk
  · rcases hc with hc | hc
    · simp [Effective, hc]
    · simp [Effective, hc j]
  · exact setRow_effective_of_ne hk _ _ _

end Table

/-! ### What a call does to TX -/

/-- Between calls the antenna transmits exactly when some frequency is in force. -/
structure TxInv (s : Station) : Prop where
  table : TableInv s.mgr
  link : s.bbuLinkOk
  follows : s.lastTx = some true ↔ ∃ i j, s.mgr.Effective i j

lemma updateTxControl_lastTx {s : Station} {txOk : Bool} (hlink : s.bbuLinkOk) (hok : txOk) :
    (s.updateTxControl txOk).lastTx = some s.mgr.hasAnyFreq := by
  simp [Station.updateTxControl, hlink, hok]

/-- How a call stands to TX: it re-evaluates TX at its end, or it changes neither the last
command nor whether a frequency is in force, or it takes the last one out of force. -/
inductive Settles (s s' : Station) (drops : Prop) : Prop
  | updated : s'.lastTx = some s'.mgr.hasAnyFreq → ¬ drops → Settles s s' drops
  | kept : s'.lastTx = s.lastTx →
      ((∃ i j, s'.mgr.Effective i j) ↔ ∃ i j, s.mgr.Effective i j) → ¬ drops → Settles s s' drops
  | dropped : s'.lastTx = s.lastTx → (∃ i j, s.mgr.Effective i j) →
      (¬ ∃ i j, s'.mgr.Effective i j) → drops → Settles s s' drops

/-- A call that changes nothing. -/
lemma Settles.refl {s : Station} {drops : Prop} (h : ¬ drops) : Settles s s drops :=
  .kept rfl Iff.rfl h

/-- A call that ends in `update_tx_control`. -/
lemma Settles.of_update {s s' : Station} {txOk : Bool} {drops : Prop} (hlink : s'.bbuLinkOk)
    (hok : txOk) (h : ¬ drops) : Settles s (s'.updateTxControl txOk) drops :=
  .updated (by rw [updateTxControl_lastTx hlink hok, Station.updateTxControl_mgr]) h

variable {s : Station}

lemma settles_applyCell (h : TxInv s) (cellCfg : CellConfigIe) {txOk : Bool} (hok : txOk) :
    Settles s (applyCell cellCfg txOk s).1 False := by
  unfold applyCell
  dsimp only
  split
  · split <;> exact .refl id
  · split
    · next i hfree =>
      refine .kept rfl (exists_congr fun k => exists_congr fun j => ?_) id
      exact setRow_effective _ k j (.inr ((h.table.row i).no_freq (freeCell_some hfree)))
    · exact .refl id
  · exact .kept rfl (exists_congr fun k => exists_congr fun j =>
      setRow_effective _ k j (.inl rfl)) id
  · exact .refl id
  · exact .of_update h.link hok id
  · exact .refl id
  · exact .refl id

/-- A refused request leaves the stored record without its mark. -/
lemma settles_storeFreq (h : TxInv s) {freqCfg : FreqConfigIe} {i : Fin maxCells}
    {slot : Fin maxFreqsPerCell × CellInfo} {setting : Option FreqBand} {refused : Prop}
    (hcell : s.mgr.findCell freqCfg.localCellId = some i)
    (hslot : s.mgr.slotFor i freqCfg.beamId = some slot) (hrefused : refused) :
    Settles s { s.store i slot freqCfg with setting := setting }
      (s.mgr.OnlyEffective freqCfg ∧ refused) := by
  have hiff := exists_effective_storeFreq h.table hcell hslot
  by_cases honly : s.mgr.OnlyEffective freqCfg
  · exact .dropped rfl honly.1 (fun hex => (hiff.1 hex).2 honly) ⟨honly, hrefused⟩
  · refine .kept rfl (hiff.trans ⟨fun hex => hex.1, fun hex => ⟨hex, honly⟩⟩) fun hdrops => ?_
    exact honly hdrops.1

lemma settles_establish (h : TxInv s) {freqCfg : FreqConfigIe} {e : FreqEnv} {i : Fin maxCells}
    (hok : e.txOk) (hflag : freqCfg.freqCfgFlag = .establish)
    (hcell : s.mgr.findCell freqCfg.localCellId = some i) :
    Settles s (applyFreq freqCfg e s).1
      (s.mgr.OnlyEffective freqCfg ∧ Refused s.mgr freqCfg e) := by
  have hsentIff : s.mgr.alreadySent freqCfg = (s.mgr.findSent i freqCfg).isSome := by
    simp [alreadySent, hcell]
  rcases applyFreq_establish_cases h.table hflag hcell e with ⟨hslot, ret, heq⟩ |
    ⟨slot, hslot, ⟨hmode, heq⟩ | ⟨hmode, hsent, m, heq⟩ | ⟨hmode, hsent, hsend, heq⟩ |
      ⟨hmode, hsent, hsend, hcycle, heq⟩ | ⟨hmode, hsent, hsend, hcycle, m, heq⟩⟩ <;> rw [heq]
  · exact .refl fun hdrops => not_onlyEffective_of_slotFor_none h.table hcell hslot hdrops.1
  · exact settles_storeFreq h hcell hslot (.inl hmode)
  · refine .of_update h.link hok ?_
    rintro ⟨-, hmode' | ⟨hsent', -⟩⟩
    · simp [hmode] at hmode'
    · simp [hsentIff, hsent] at hsent'
  · exact settles_storeFreq h hcell hslot (.inr ⟨hsentIff.trans hsent, .inl hsend⟩)
  · exact settles_storeFreq h hcell hslot (.inr ⟨hsentIff.trans hsent, .inr hcycle⟩)
  · refine .of_update h.link hok ?_
    rintro ⟨-, hmode' | ⟨-, hsend' | hcycle'⟩⟩
    · simp [hmode] at hmode'
    · simp [hsend] at hsend'
    · exact hcycle' hcycle

lemma settles_apply (h : TxInv s) {c : Call} (hok : c.TxOk) :
    Settles s (c.apply s) (DropsLast s c) := by
  cases c with
  | cell cellCfg txOk => exact settles_applyCell h cellCfg hok
  | freq freqCfg e =>
    change Settles s (applyFreq freqCfg e s).1 _
    cases hcell : s.mgr.findCell freqCfg.localCellId with
    | none =>
      have heq : applyFreq freqCfg e s = (s, .errorGeneral, .failure) := by
        simp [applyFreq, applyFreqStart, hcell]
      rw [heq]
      -- without its cell the request has nothing in force either
      refine .refl ?_
      rintro ⟨-, ⟨⟨k, j, hkj⟩, honly⟩, -⟩
      exact findCell_none hcell k hkj.1 (honly k j hkj).1
    | some i =>
      cases hflag : freqCfg.freqCfgFlag with
      | establish =>
        have hsettles := settles_establish h hok hflag hcell
        simpa [DropsLast, hflag] using hsettles
      | delete =>
        have hdrops : ¬ DropsLast s (.freq freqCfg e) := by simp [DropsLast, hflag]
        cases hfind : s.mgr.findFreq i freqCfg.beamId with
        | none =>
          have heq : applyFreq freqCfg e s = (s, .success, .success) := by
            simp [applyFreq, applyFreqStart, hcell, hflag, hfind]
          rw [heq]
          exact .refl hdrops
        | some j =>
          have heq : applyFreq freqCfg e s =
              ((s.withMgr (s.mgr.deleteFreq i j)).updateTxControl e.txOk, .success,
                .success) := by
            simp [applyFreq, applyFreqStart, hcell, hflag, hfind]
          rw [heq]
          exact .of_update h.link hok hdrops
      | invalid =>
        have heq : applyFreq freqCfg e s = (s, .success, .failure) := by
          simp [applyFreq, applyFreqStart, hcell, hflag]
        rw [heq]
        exact .refl (by simp [DropsLast, hflag])

/-- No call moves the link gate. -/
lemma apply_bbuLinkOk (s : Station) (c : Call) : (c.apply s).bbuLinkOk = s.bbuLinkOk := by
  cases c with
  | cell cellCfg txOk =>
    simp only [Call.apply, applyCell]
    split <;> first | rfl | (split <;> rfl) | simp
  | freq freqCfg e =>
    have hestablish : ∀ i, (establishFreq freqCfg e i s).1.bbuLinkOk = s.bbuLinkOk := by
      intro i
      rcases establishFreq_cases freqCfg e i s with ⟨-, _, heq⟩ | ⟨_, -, ⟨-, heq⟩ |
        ⟨-, -, heq⟩ | ⟨-, -, -, heq⟩ | ⟨-, -, -, heq⟩⟩ <;> simp [heq]
    have hstart : (applyFreqStart freqCfg e s).1.bbuLinkOk = s.bbuLinkOk := by
      rw [applyFreqStart]
      split
      · rfl
      · split
        · exact hestablish _
        · split <;> simp
        · rfl
    simp only [Call.apply, applyFreq]
    split
    · next heq => simpa [heq] using hstart
    · next s' heq =>
      rw [heq] at hstart
      rw [← hstart]
      simp only [applyFreqFinish]
      split
      · rfl
      · split <;> simp

/-- Between calls that follow TX, one call does so exactly when it does not drop the last
frequency. -/
lemma txFollows_apply_iff (h : TxInv s) {c : Call} (hok : c.TxOk) :
    TxFollows (c.apply s) ↔ ¬ DropsLast s c := by
  rcases settles_apply h hok with ⟨hlast, hdrops⟩ | ⟨hlast, hiff, hdrops⟩ |
    ⟨hlast, hex, hnone, hdrops⟩
  -- only a call that drops the last frequency leaves the command behind
  · refine iff_of_true (fun on hon => ?_) hdrops
    rw [hlast] at hon
    rw [← Option.some.inj hon, hasAnyFreq_eq_true]
  · refine iff_of_true (fun on hon => ?_) hdrops
    rw [hiff, ← h.follows, ← hlast, hon, Option.some.injEq]
  · refine iff_of_false (fun hfollows => hnone ?_) (not_not.2 hdrops)
    exact (hfollows true (hlast.trans (h.follows.2 hex))).1 rfl

lemma txInv_apply (h : TxInv s) {c : Call} (hok : c.TxOk) (hfollows : TxFollows (c.apply s)) :
    TxInv (c.apply s) := by
  refine ⟨tableInv_apply h.table c, (apply_bbuLinkOk s c).trans h.link, ?_⟩
  rcases settles_apply h hok with ⟨hlast, -⟩ | ⟨hlast, hiff, -⟩ | ⟨-, -, -, hdrops⟩
  · rw [hlast, Option.some.injEq, hasAnyFreq_eq_true]
  · rw [hlast, hiff, h.follows]
  · exact absurd hdrops ((txFollows_apply_iff h hok).1 hfollows)

/-- With the link up and every TX command accepted, the last TX command follows the effective
frequencies after every call of a run exactly when no call of the run is to establish anew the
only frequency in force and is refused. -/
theorem tx_follows_iff {l : List Call} (hok : ∀ c ∈ l, c.TxOk) :
    Along CallStep (fun s c => TxFollows (c.apply s)) (Station.init true) l ↔
      Along CallStep (fun s c => ¬ DropsLast s c) (Station.init true) l := by
  refine along_congr_of (I := TxInv) ?_ ?_ ⟨tableInv_init, rfl, ?_⟩
  · rintro s h c hc hfollows _ rfl
    exact txInv_apply h (hok c hc) hfollows
  · exact fun s h c hc => txFollows_apply_iff h (hok c hc)
  · simp [Station.init, Effective, CellConfigManager.init]

lemma not_refused_businessEnv (m : CellConfigManager) (freqCfg : FreqConfigIe) :
    ¬ Refused m freqCfg businessEnv := by
  rintro (hmode | ⟨-, hsend | hcycle⟩)
  · cases hmode
  · cases hsend
  · exact hcycle (by decide +kernel)

/-- Beam 3 comes into force, moves to another frequency, and goes with its cell. -/
def moved : List Call :=
  [.cell cell7 true, .freq beam3 businessEnv,
    .freq { beam3 with dlCenterFreq := 2610000 } businessEnv,
    .cell { cell7 with cellCfgFlag := .delete } true]

/-- TX follows the frequency from one value to the other, and to its end. -/
theorem tx_follows_iff_moved :
    Along CallStep (fun s c => TxFollows (c.apply s)) (Station.init true) moved := by
  have hok : ∀ c ∈ moved, c.TxOk := by simp [moved, Call.TxOk, businessEnv]
  refine (tx_follows_iff hok).2 ⟨id, ?_⟩
  rintro _ rfl
  refine ⟨fun h => not_refused_businessEnv _ _ h.2.2, ?_⟩
  rintro _ rfl
  refine ⟨fun h => not_refused_businessEnv _ _ h.2.2, ?_⟩
  rintro _ rfl
  exact ⟨id, fun _ _ => trivial⟩

/-- Beam 3 comes into force, and is then requested anew, with another frequency, while the
antenna is in standby. -/
def reestablished : List Call :=
  [.cell cell7 true, .freq beam3 businessEnv,
    .freq { beam3 with dlCenterFreq := 2610000 } { businessEnv with status := some 2 }]

lemma reestablished_txOk : ∀ c ∈ reestablished, c.TxOk := by
  simp [reestablished, Call.TxOk, businessEnv]

/-- TX does not follow the effective frequencies: after the refused request the antenna
transmits and no frequency is in force. -/
theorem tx_on_without_freq :
    ¬ ∀ l : List Call, (∀ c ∈ l, c.TxOk) →
      Along CallStep (fun s c => TxFollows (c.apply s)) (Station.init true) l := by
  intro h
  -- the first two calls put beam 3 in force, the third is the one that fails
  obtain ⟨-, hcell⟩ := h reestablished reestablished_txOk
  obtain ⟨-, hfreq⟩ := hcell _ rfl
  obtain ⟨hfollows, -⟩ := hfreq _ rfl
  have hex := (hfollows true (by decide +kernel)).1 rfl
  rw [← hasAnyFreq_eq_true] at hex
  exact absurd hex (by decide +kernel)

end AntennaMgmt.Cell
