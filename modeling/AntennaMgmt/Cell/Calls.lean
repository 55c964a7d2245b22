import AntennaMgmt.Cell.Invariant

/-!
# Calls one after the other

The calls are made by one thread, `cell_cfg_worker`, which takes the requests from its queue
one at a time.  A frequency call then finds after its wait what it stored before it, and the
outcome of the whole call can be told from the table it started in and the antenna.
-/

namespace AntennaMgmt.Cell

open AntennaMgmt.Lib CellConfigManager

/-- One request of the queue, with what the antenna answers during its call. -/
inductive Call
  | cell (cellCfg : CellConfigIe) (txOk : Bool)
  | freq (freqCfg : FreqConfigIe) (e : FreqEnv)

/-- The station after a call. -/
def Call.apply (s : Station) : Call → Station
  | .cell cellCfg txOk => (applyCell cellCfg txOk s).1
  | .freq freqCfg e => (applyFreq freqCfg e s).1

/-- The worker handles one request. -/
def CallStep (s : Station) (c : Call) (s' : Station) : Prop := s' = c.apply s

variable {s : Station} {i : Fin maxCells} {freqCfg : FreqConfigIe} {e : FreqEnv}

lemma applyFreq_tableInv (h : TableInv s.mgr) (freqCfg : FreqConfigIe) (e : FreqEnv) :
    TableInv (applyFreq freqCfg e s).1.mgr := by
  have hstart := applyFreqStart_tableInv h freqCfg e
  rw [applyFreq]
  split
  · next heq =>
    rw [heq] at hstart
    exact hstart
  · next s' heq =>
    rw [heq] at hstart
    exact applyFreqFinish_tableInv hstart freqCfg e

lemma tableInv_apply (h : TableInv s.mgr) (c : Call) : TableInv (c.apply s).mgr := by
  cases c with
  | cell cellCfg txOk => exact applyCell_tableInv h cellCfg txOk
  | freq freqCfg e => exact applyFreq_tableInv h freqCfg e

/-- The table after a frequency was stored still has the cell where it was. -/
lemma findCell_storeFreq {m : CellConfigManager} {slot : Fin maxFreqsPerCell × CellInfo}
    (h : TableInv m) (hcell : m.findCell freqCfg.localCellId = some i)
    (hslot : m.slotFor i freqCfg.beamId = some slot) :
    (m.storeFreq i slot freqCfg).findCell freqCfg.localCellId = some i := by
  obtain ⟨hactive, hid⟩ := findCell_some hcell
  obtain ⟨hself, hact, hsame, -⟩ := storeFreq_self hslot
  refine findSlot_of_unique (by simp [hself, hact, hsame, hactive, hid]) fun k hk => ?_
  have hk' : ((m.storeFreq i slot freqCfg).cells k).active ∧
      ((m.storeFreq i slot freqCfg).cells k).localCellId = freqCfg.localCellId := by
    simpa using hk
  refine (h.storeFreq hactive hslot).cell_ids k i hk'.1 ?_ ?_
  · rw [hself, hact, hactive]
  · rw [hk'.2, hself, hsame, hid]

/-- Nor has the record gone that was stored. -/
lemma findStored_storeFreq {m : CellConfigManager} {slot : Fin maxFreqsPerCell × CellInfo}
    (hslot : m.slotFor i freqCfg.beamId = some slot) :
    ∃ j, (m.storeFreq i slot freqCfg).findStored i freqCfg = some j := by
  obtain ⟨-, -, -, hfreq⟩ := storeFreq_self hslot
  cases hfind : (m.storeFreq i slot freqCfg).findStored i freqCfg with
  | some j => exact ⟨j, rfl⟩
  | none =>
    have hfalse := findSlot_none hfind slot.1
    simp [hfreq, storeFreqInfo, sameBand] at hfalse

/-- The table with the frequency of a request stored in its slot. -/
abbrev Station.store (s : Station) (i : Fin maxCells) (slot : Fin maxFreqsPerCell × CellInfo)
    (freqCfg : FreqConfigIe) : Station := s.withMgr (s.mgr.storeFreq i slot freqCfg)

/-- The setting that a request asks for. -/
def bandOf (freqCfg : FreqConfigIe) : FreqBand :=
  freqBand freqCfg.dlCenterFreq freqCfg.ulCenterFreq freqCfg.beamBandwidth

/-- The duplicate check of a request succeeds. -/
def CellConfigManager.alreadySent (m : CellConfigManager) (freqCfg : FreqConfigIe) : Bool :=
  (m.findCell freqCfg.localCellId).any fun i => (m.findSent i freqCfg).isSome

/-- The antenna keeps the request from coming into force: its mode is wrong or cannot be read,
or the values have to be sent and it does not accept them or does not come back to its mode. -/
def Refused (m : CellConfigManager) (freqCfg : FreqConfigIe) (e : FreqEnv) : Prop :=
  modeCheckPassed e.status = false ∨
  m.alreadySent freqCfg = false ∧
    (e.sendOk = false ∨ waitForAntennaModeCycle e.polls ≠ .success)

/-- Everything a call with the establish flag can come to. -/
lemma applyFreq_establish_cases (h : TableInv s.mgr) (hflag : freqCfg.freqCfgFlag = .establish)
    (hcell : s.mgr.findCell freqCfg.localCellId = some i) (e : FreqEnv) :
    (s.mgr.slotFor i freqCfg.beamId = none ∧ ∃ ret, applyFreq freqCfg e s = (s, ret, .failure)) ∨
    ∃ slot, s.mgr.slotFor i freqCfg.beamId = some slot ∧
      ((modeCheckPassed e.status = false ∧
        applyFreq freqCfg e s = (s.store i slot freqCfg, .success, .failure)) ∨
      (modeCheckPassed e.status ∧ (s.mgr.findSent i freqCfg).isSome ∧ ∃ m,
        applyFreq freqCfg e s =
          ((s.withMgr m).updateTxControl e.txOk, .success, .success)) ∨
      (modeCheckPassed e.status ∧ (s.mgr.findSent i freqCfg).isSome = false ∧
        e.sendOk = false ∧
        applyFreq freqCfg e s = (s.store i slot freqCfg, .success, .failure)) ∨
      (modeCheckPassed e.status ∧ (s.mgr.findSent i freqCfg).isSome = false ∧ e.sendOk ∧
        waitForAntennaModeCycle e.polls ≠ .success ∧
        applyFreq freqCfg e s =
          ({ s.store i slot freqCfg with setting := some (bandOf freqCfg) },
            .success, .failure)) ∨
      (modeCheckPassed e.status ∧ (s.mgr.findSent i freqCfg).isSome = false ∧ e.sendOk ∧
        waitForAntennaModeCycle e.polls = .success ∧ ∃ m,
        applyFreq freqCfg e s =
          (({ s with setting := some (bandOf freqCfg) }.withMgr m).updateTxControl e.txOk,
            .success, .success))) := by
  have hstart : applyFreqStart freqCfg e s = establishFreq freqCfg e i s := by
    rw [applyFreqStart, hcell, hflag]
  rcases establishFreq_cases freqCfg e i s with ⟨hslot, ret, heq⟩ | ⟨slot, hslot, hcases⟩
  · refine .inl ⟨hslot, ret, ?_⟩
    rw [applyFreq, hstart, heq]
  refine .inr ⟨slot, hslot, ?_⟩
  rcases hcases with ⟨hmode, heq⟩ | ⟨hmode, hsent, heq⟩ | ⟨hmode, hsent, hok, heq⟩ |
    ⟨hmode, hsent, hok, heq⟩
  · exact .inl ⟨hmode, by rw [applyFreq, hstart, heq]⟩
  · exact .inr (.inl ⟨hmode, hsent, _, by rw [applyFreq, hstart, heq]; rfl⟩)
  · exact .inr (.inr (.inl ⟨hmode, hsent, hok, by rw [applyFreq, hstart, heq]⟩))
  -- the call waited: nothing moved in the table, and the record is found again
  obtain ⟨j, hj⟩ := findStored_storeFreq hslot
  have hfinish : applyFreq freqCfg e s =
      if waitForAntennaModeCycle e.polls = .success then
        ((({ s.store i slot freqCfg with setting := some (bandOf freqCfg) } : Station).withMgr
          ((s.mgr.storeFreq i slot freqCfg).markSent i j)).updateTxControl e.txOk,
          .success, .success)
      else ({ s.store i slot freqCfg with setting := some (bandOf freqCfg) },
        .success, .failure) := by
    rw [applyFreq, hstart, heq]
    simp only [applyFreqFinish, Station.withMgr_mgr, findCell_storeFreq h hcell hslot, hj,
      Option.bind_some, Option.map_some]
    split <;> rfl
  by_cases hcycle : waitForAntennaModeCycle e.polls = .success
  · rw [if_pos hcycle] at hfinish
    exact .inr (.inr (.inr (.inr ⟨hmode, hsent, hok, hcycle, _, hfinish⟩)))
  · rw [if_neg hcycle] at hfinish
    exact .inr (.inr (.inr (.inl ⟨hmode, hsent, hok, hcycle, hfinish⟩)))

end AntennaMgmt.Cell
